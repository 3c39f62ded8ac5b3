import StegoLab.Sources.Cache
import StegoLab.Sources.TransferProperties

/-!
# What the cache leaves of part files

Records do not touch the bytes of a part file, and no operation of the cache asks for a stop.
-/

namespace StegoLab

open Transaction Program

/-! ### Programs that do not ask for a stop -/

section Stopless

variable {σ α β : Type}

/-- The program may fail, but not by a stop. -/
abbrev Stopless (x : Program σ FetchException α) : Prop :=
  Contract (fun _ => True) x (fun _ _ => True) fun e _ => e ≠ .raised .download_stopped

lemma Stopless.bind {x : Program σ FetchException α} {f : α → Program σ FetchException β}
    (hx : Stopless x) (hf : ∀ a, Stopless (f a)) : Stopless (x >>= f) :=
  Contract.bind hx hf

lemma stopless_pure {a : α} : Stopless (pure a : Program σ FetchException α) :=
  .pure fun _ _ => trivial

lemma stopless_read : Stopless (read : Program σ FetchException σ) :=
  .read fun _ _ => trivial

lemma stopless_operation {κ : Type} {fault : Fault κ} {exception : Raised}
    {partway : κ → σ → σ} {effect : σ → σ} :
    Stopless (operation fault (.raised exception) partway effect) :=
  contract_operation_stops (fun _ _ => trivial) fun _ _ _ he _ _ => ne_download_stopped he

lemma stopless_raise {exception : Raised} :
    Stopless (raise (.raised exception) : Program σ FetchException α) :=
  contract_raise fun _ _ => ne_download_stopped (Or.inl rfl)

lemma stopless_attempt {x : Except FetchException α}
    (h : ∀ e, x = .error e → ∃ exception, e = .raised exception) :
    Stopless (attempt x : Program σ FetchException α) := by
  refine contract_attempt (fun _ _ _ _ => trivial) fun e herror _ _ => ?_
  obtain ⟨exception, rfl⟩ := h e herror
  exact ne_download_stopped (Or.inl rfl)

lemma stopless_raise_if {condition : Prop} [Decidable condition] {exception : Raised} :
    Stopless (attempt (raise_if condition (.raised exception)) : Program σ FetchException Unit) := by
  refine stopless_attempt fun e herror => ⟨exception, ?_⟩
  rw [raise_if] at herror
  split_ifs at herror
  exact (Except.error.inj herror).symm

lemma Stopless.catching {x : Program σ FetchException α}
    {handler : FetchException → Program σ FetchException α} (hx : Stopless x)
    (hhandler : ∀ e, Stopless (handler e)) : Stopless (catching x handler) :=
  contract_catching hx (fun e => (hhandler e).strengthen fun _ _ => trivial) fun _ => id

lemma Stopless.finally_do {x : Program σ FetchException α} {cleanup : Program σ FetchException Unit}
    (hx : Stopless x) (hcleanup : Stopless cleanup) : Stopless (finally_do x cleanup) :=
  contract_finally hx (fun _ => hcleanup)
    fun _ => ⟨fun he _ => he, fun _ h => hcleanup.fails trivial h⟩

lemma Stopless.within {τ : Type} {part : τ → σ} {replace : σ → τ → τ}
    {x : Program σ FetchException α} (hx : Stopless x) :
    Stopless (within part replace x : Program τ FetchException α) :=
  Contract.within fun _ _ => hx.strengthen fun _ _ => trivial

end Stopless

/-! ### Looking at the cache -/

lemma keeps_tolerate {P : CacheDisk → Prop} {fault : Fault Unit} {answer : CacheDisk → Bool} :
    Keeps P (tolerate fault answer) := by
  refine Contract.bind (Contract.read fun _ => id) fun disk => ?_
  refine contract_catching (S := fun _ => P) ?_ (fun _ => .pure fun _ => id) fun _ => id
  exact (contract_inspect fun _ _ _ => id).bind fun _ => .pure fun _ => id

lemma keeps_read_partial_record {P : CacheDisk → Prop} {faults : CacheFaults} {name : String} :
    Keeps P (read_partial_record faults name) := by
  refine keeps_tolerate.bind fun readable => Contract.bind (Contract.read fun _ => id) fun disk => ?_
  exact .ite (fun _ => .pure fun _ => id) fun _ => .pure fun _ => id

/-! ### Operations of the cache -/

section Operations

open DatasetCache

variable {faults : CacheFaults} {sha256 : List UInt8 → String} {file : PartialFile}
  {directory : String} {kind : SourceKind} {identity : String} {asset : PlannedAsset}

lemma stopless_tolerate {fault : Fault Unit} {answer : CacheDisk → Bool} :
    Stopless (tolerate fault answer) :=
  stopless_read.bind fun _ =>
    (stopless_operation.bind fun _ => stopless_pure).catching fun _ => stopless_pure

lemma stopless_cache_locked {α : Type} {program : CacheProgram α} (h : Stopless program) :
    Stopless (cache_locked faults program) :=
  stopless_operation.bind fun _ => h.finally_do stopless_operation

lemma stopless_read_partial_record : Stopless (read_partial_record faults directory) := by
  refine stopless_tolerate.bind fun _ => stopless_read.bind fun _ => ?_
  exact .ite (fun _ => stopless_pure) fun _ => stopless_pure

lemma stopless_write_partial_record {record : ValidPartialRecord} :
    Stopless (write_partial_record faults directory record) := by
  refine stopless_operation.bind fun _ => stopless_read.bind fun _ => ?_
  exact .ite (fun _ => stopless_raise) fun _ => stopless_operation.bind fun _ => stopless_operation

lemma stopless_size : Stopless (file.size faults) :=
  stopless_operation.bind fun _ => stopless_read.bind fun _ => stopless_pure

lemma stopless_open_for_append : Stopless (file.open_for_append faults) := by
  refine stopless_read.bind fun _ => .ite (fun _ => stopless_raise) fun _ => ?_
  exact stopless_operation.bind fun _ => stopless_size

lemma stopless_load_entry {verify_bytes : Bool} :
    Stopless (load_entry faults sha256 directory kind identity verify_bytes) := by
  refine stopless_tolerate.bind fun _ => stopless_tolerate.bind fun _ => ?_
  refine stopless_read.bind fun _ => ?_
  exact .ite (fun _ => stopless_pure) fun _ => stopless_pure

lemma cache_directory_error {e : FetchException} (h : cache_directory kind identity = .error e) :
    ∃ exception, e = .raised exception := by
  rw [cache_directory] at h
  split_ifs at h
  exact ⟨_, (Except.error.inj h).symm⟩

lemma part_file_error {e : FetchException} (h : part_file kind identity asset = .error e) :
    ∃ exception, e = .raised exception := by
  rw [part_file] at h
  cases hdirectory : cache_directory kind identity with
  | error e' =>
    rw [hdirectory] at h
    obtain rfl := Except.error.inj h
    exact cache_directory_error hdirectory
  | ok directory =>
    rw [hdirectory] at h
    exact absurd h (by simp [bind, Except.bind, pure, Except.pure])

lemma validated_error {Record : Type} {Valid : Record → Prop} [DecidablePred Valid]
    {record : Record} {e : FetchException} (h : validated Valid record = .error e) :
    ∃ exception, e = .raised exception := by
  rw [validated] at h
  split_ifs at h
  exact ⟨_, (Except.error.inj h).symm⟩

lemma mapError_error {α : Type} {x : Except Raised α} {e : FetchException}
    (h : x.mapError FetchException.raised = .error e) : ∃ exception, e = .raised exception := by
  cases x with
  | error exception => exact ⟨exception, (Except.error.inj h).symm⟩
  | ok a => exact absurd h (by simp [Except.mapError])

lemma stopless_adoptable : Stopless (adoptable faults file asset) :=
  stopless_read_partial_record.bind fun _ => stopless_tolerate.bind fun _ => stopless_pure

lemma stopless_remove_tree : Stopless (remove_tree faults directory) :=
  stopless_operation

lemma stopless_open_partial {disk_usage : Option DiskUsage} {updated_at owner : String} :
    Stopless ( open_partial faults disk_usage updated_at kind identity asset owner) := by
  refine (stopless_attempt fun _ => part_file_error).bind fun file => ?_
  refine Stopless.bind (stopless_cache_locked ?_) fun _ => stopless_pure
  refine stopless_adoptable.bind fun adopted => ?_
  refine Stopless.bind ?_ fun _ => Stopless.bind ?_ fun received => ?_
  · refine stopless_operation.bind fun _ => stopless_read.bind fun _ => ?_
    exact .ite (fun _ => stopless_remove_tree) fun _ => stopless_pure
  · exact .ite (fun _ => stopless_size) fun _ => stopless_pure
  refine (stopless_attempt fun _ => mapError_error).bind fun _ => stopless_operation.bind fun _ => ?_
  refine (stopless_attempt fun _ => validated_error).bind fun record => ?_
  exact stopless_write_partial_record.bind fun _ => stopless_pure

lemma stopless_update_partial {updated_at : String} {opened : CachePartial} {received : ℕ} :
    Stopless ( update_partial faults updated_at opened received) := by
  refine (stopless_attempt fun _ => validated_error).bind fun record => ?_
  exact (stopless_cache_locked stopless_write_partial_record).bind fun _ => stopless_pure

lemma stopless_discard {α : Type} {opened : CachePartial} {code : String} :
    Stopless (discard faults opened code : CacheProgram α) :=
  (stopless_cache_locked stopless_remove_tree).bind fun _ => stopless_raise

lemma stopless_adopt_existing :
    Stopless (adopt_existing faults sha256 directory kind identity) := by
  refine stopless_operation.bind fun _ => stopless_read.bind fun _ => ?_
  refine .ite (fun _ => stopless_pure) fun _ => stopless_load_entry.bind fun entry => ?_
  cases entry with
  | none => exact stopless_raise
  | some entry => exact stopless_pure

lemma stopless_seal_partial {opened : CachePartial} {basename : String} :
    Stopless ( seal_partial faults opened basename) := by
  refine stopless_read.bind fun disk => ?_
  cases disk.part? opened.directory opened.file.name with
  | none => exact stopless_raise
  | some data =>
    exact stopless_operation.bind fun _ => stopless_operation.bind fun _ => stopless_operation

lemma stopless_write_manifest_file {manifest : ValidManifest} :
    Stopless (write_manifest_file faults directory manifest) := by
  refine stopless_read.bind fun disk => ?_
  cases disk.partials.get? directory with
  | none => exact stopless_raise
  | some content =>
    exact .ite (fun _ => stopless_raise) fun _ => stopless_operation.bind fun _ => stopless_operation

lemma stopless_publish_directory : Stopless (publish_directory faults directory) := by
  refine stopless_read.bind fun disk => ?_
  cases disk.partials.get? directory with
  | none => exact stopless_raise
  | some content => exact stopless_raise_if.bind fun _ => stopless_operation

lemma stopless_reuse_existing {opened : CachePartial} {existing : CacheEntry} :
    Stopless (reuse_existing faults opened existing) :=
  stopless_remove_tree.bind fun _ => stopless_pure

lemma stopless_publish_sealed {opened : CachePartial} :
    Stopless (publish_sealed faults sha256 opened) := by
  have hpublish : Stopless (do
      publish_directory faults opened.directory
      return none : CacheProgram (Option CacheEntry)) :=
    stopless_publish_directory.bind fun _ => stopless_pure
  refine contract_catching hpublish (fun e => .ite (fun _ => ?_) fun _ => ?_) fun _ => id
  · exact stopless_adopt_existing.strengthen fun _ _ => trivial
  · exact contract_raise fun _ he => he

lemma stopless_publish {opened : CachePartial} {basename : String} {manifest : ValidManifest} :
    Stopless (publish faults sha256 opened basename manifest) := by
  refine stopless_adopt_existing.bind fun existing => ?_
  cases existing with
  | some existing => exact stopless_reuse_existing
  | none =>
    refine stopless_seal_partial.bind fun _ => stopless_write_manifest_file.bind fun _ => ?_
    refine stopless_publish_sealed.bind fun existing => ?_
    cases existing with
    | some existing => exact stopless_reuse_existing
    | none => exact stopless_pure

lemma stopless_complete {opened : CachePartial} {outcome : DownloadOutcome}
    {provenance : Provenance} : Stopless (complete faults sha256 opened outcome provenance) := by
  rw [complete]
  refine .ite (fun _ => stopless_discard) fun _ => .ite (fun _ => stopless_discard) fun _ => ?_
  refine stopless_tolerate.bind fun _ => stopless_size.bind fun _ => ?_
  refine Stopless.bind stopless_raise_if fun _ => ?_
  refine Stopless.bind stopless_raise_if fun _ => ?_
  refine (stopless_attempt fun _ => validated_error).bind fun manifest => ?_
  exact stopless_cache_locked stopless_publish

lemma stopless_copy_chunks {limit : ℕ} (chunks : List (List UInt8)) (total : ℕ)
    (digested : List UInt8) : Stopless (copy_chunks faults file limit chunks total digested) := by
  induction chunks generalizing total digested with
  | nil => exact stopless_pure
  | cons chunk rest ih =>
    exact stopless_raise_if.bind fun _ => stopless_operation.bind fun _ => ih _ _

lemma stopless_copy_file {limit : ℕ} {source : Option (List (List UInt8))} :
    Stopless (copy_file faults file limit source) := by
  refine stopless_open_for_append.bind fun _ => stopless_operation.bind fun _ => ?_
  cases source with
  | none => exact stopless_raise
  | some chunks => exact stopless_copy_chunks _ _ _

lemma stopless_import_file {disk_usage : Option DiskUsage} {updated_at owner : String}
    {source : Option (List (List UInt8))} {provenance : Provenance} :
    Stopless (import_file faults sha256 disk_usage updated_at kind identity asset source owner
      provenance) := by
  refine stopless_open_partial.bind fun opened => ?_
  refine Stopless.bind ?_ fun _ => stopless_operation.bind fun _ => stopless_complete
  refine contract_catching stopless_copy_file (fun e => ?_) fun _ => id
  refine Contract.bind (Q := fun _ _ => Stop.raised e ≠ .raised .download_stopped) ?_ fun _ => ?_
  · exact contract_atomically_stops (fun _ => id) fun e he _ _ => ne_download_stopped he
  · cases e with
    | download_stopped => exact contract_raise fun _ h => h
    | raised exception =>
      cases exception with
      | os_error => exact stopless_discard.strengthen fun _ _ => trivial
      | application failure => exact stopless_discard.strengthen fun _ _ => trivial
      | value_error => exact stopless_raise.strengthen fun _ _ => trivial

end Operations

/-! ### Part files -/

section PartFiles

open DatasetCache

variable {faults : CacheFaults} {file : PartialFile} {kind : SourceKind} {identity : String}
  {asset : PlannedAsset} {disk : CacheDisk}

/-- The bytes of a part file; none when it is absent. -/
def CacheDisk.part_bytes (disk : CacheDisk) (file : PartialFile) : List UInt8 :=
  (disk.part? file.directory file.name).getD []

/-- What keeps the files of a directory keeps every part file. -/
lemma part?_modify {directory : String} {f : CacheDirectory → CacheDirectory}
    (hf : ∀ content, (f content).files = content.files) (key name : String) :
    (disk.modify directory f).part? key name = disk.part? key name := by
  rw [CacheDisk.part?, get?_modify_partials]
  split_ifs with hkey
  · rw [hkey, CacheDisk.part?]
    cases disk.partials.get? directory with
    | none => rfl
    | some content => exact congrArg (Dict.get? · name) (hf content)
  · rfl

lemma part_bytes_modify {directory : String} {f : CacheDirectory → CacheDirectory}
    (hf : ∀ content, (f content).files = content.files) :
    (disk.modify directory f).part_bytes file = disk.part_bytes file :=
  congrArg (Option.getD · []) (part?_modify hf _ _)

lemma keeps_inspect_cache {fault : Fault Unit} {exception : FetchException}
    {P : CacheDisk → Prop} : Keeps P (inspect fault exception : CacheProgram Unit) :=
  contract_inspect fun _ _ _ => id

/-- Writing a record does not touch the bytes. -/
lemma keeps_write_partial_record {directory : String} {record : ValidPartialRecord}
    {bytes : List UInt8} :
    Keeps (fun disk => disk.part_bytes file = bytes)
      (write_partial_record faults directory record) := by
  refine keeps_inspect_cache.bind fun _ => ?_
  refine Contract.bind (Q := fun _ (disk : CacheDisk) => disk.part_bytes file = bytes)
    (.read fun _ => id) fun _ => .ite (fun _ => contract_raise fun _ => id) fun _ => ?_
  refine Contract.bind (Q := fun _ (disk : CacheDisk) => disk.part_bytes file = bytes)
    (contract_atomically (fun disk h => ?_) fun _ _ _ => id) fun _ => keeps_inspect_cache
  refine (part_bytes_modify ?_).trans h
  exact fun _ => rfl

lemma keeps_cache_locked {α : Type} {program : CacheProgram α} {P : CacheDisk → Prop}
    {Q : α → CacheDisk → Prop} (h : Contract P program Q fun _ _ => True) :
    Contract P (cache_locked faults program) Q fun _ _ => True := by
  refine (contract_inspect fun _ _ _ _ => trivial).bind fun _ => ?_
  exact contract_finally h (fun _ => contract_inspect fun _ _ _ _ => trivial)
    fun _ => contract_inspect fun _ _ _ _ => trivial

lemma contract_update_partial {updated_at : String} {opened : CachePartial} {received : ℕ}
    {bytes : List UInt8} :
    Contract (fun disk => disk.part_bytes file = bytes)
      ( update_partial faults updated_at opened received)
      (fun updated disk => updated.file = opened.file ∧ disk.part_bytes file = bytes)
      fun _ _ => True := by
  refine Contract.bind (Q := fun _ (disk : CacheDisk) => disk.part_bytes file = bytes)
    (contract_attempt (fun _ _ _ => id) fun _ _ _ _ => trivial) fun record => ?_
  refine Contract.bind (Q := fun _ (disk : CacheDisk) => disk.part_bytes file = bytes)
    (keeps_cache_locked ?_) fun _ => .pure fun disk h => ⟨rfl, h⟩
  exact keeps_write_partial_record.mono (fun _ => id) (fun _ _ => id) fun _ _ _ => trivial

/-- The size of a part file. -/
lemma contract_size {bytes : List UInt8} :
    Contract (fun disk => disk.part_bytes file = bytes) (file.size faults)
      (fun size disk => size = bytes.length ∧ disk.part_bytes file = bytes) fun _ _ => True := by
  refine (contract_inspect fun _ _ _ _ => trivial).bind fun _ => ?_
  refine Contract.bind (Q := fun disk disk' => disk.part_bytes file = bytes ∧ disk' = disk)
    (.read fun disk h => ⟨h, rfl⟩) fun disk => .assume fun h => .pure fun disk' hdisk => ?_
  subst hdisk
  exact ⟨congrArg List.length h, h⟩

/-- The bytes that opening a download finds: those of a partial download that can be continued. -/
def adopted_bytes (faults : CacheFaults) (file : PartialFile) (asset : PlannedAsset)
    (disk : CacheDisk) : List UInt8 :=
  match (adoptable faults file asset disk).1 with
  | .ok true => disk.part_bytes file
  | _ => []

lemma adopted_bytes_eq {adopted : Bool}
    (h : (adoptable faults file asset disk).1 = .ok adopted) :
    adopted_bytes faults file asset disk
      = if adopted = true then disk.part_bytes file else [] := by
  rw [adopted_bytes, h]
  cases adopted with
  | true => rfl
  | false => rfl

lemma part_bytes_create_directory {directory : String} :
    CacheDisk.part_bytes { disk with
      partials := disk.partials.insert directory ((disk.partials.get? directory).getD {}) } file
      = disk.part_bytes file := by
  rw [CacheDisk.part_bytes, CacheDisk.part_bytes, CacheDisk.part?, CacheDisk.part?,
    Dict.get?_insert]
  split_ifs with hkey
  · rw [hkey]
    cases disk.partials.get? directory with
    | none => rfl
    | some content => rfl
  · rfl

lemma contract_adoptable :
    Contract (· = disk) (adoptable faults file asset)
      (fun adopted after => (adoptable faults file asset disk).1 = .ok adopted ∧ after = disk)
      fun _ _ => True := by
  have hkeeps : Keeps (· = disk) (adoptable faults file asset) :=
    keeps_read_partial_record.bind fun _ => keeps_tolerate.bind fun _ => .pure fun _ => id
  constructor
  · rintro _ adopted after rfl hreturned
    exact ⟨congrArg Prod.fst hreturned, hkeeps.returns rfl hreturned⟩
  · exact fun _ _ => trivial

lemma part_bytes_of_absent (h : (disk.partials.get? file.directory).isSome = false) :
    disk.part_bytes file = [] := by
  rw [CacheDisk.part_bytes, CacheDisk.part?, Option.isSome_eq_false_iff.mp h |> Option.isNone_iff_eq_none.mp]
  rfl

lemma contract_drop_unadoptable {adopted : Bool} :
    Contract (· = disk) (drop_unadoptable faults adopted file.directory)
      (fun _ after => after.part_bytes file = if adopted = true then disk.part_bytes file else [])
      fun _ _ => True := by
  refine (contract_inspect fun _ _ _ _ => trivial).bind fun _ => ?_
  refine Contract.bind (Q := fun known after => known = disk ∧ after = disk)
    (.read fun _ h => ⟨h, h⟩) fun known => .assume ?_
  rintro rfl
  refine .ite (fun hdrop => contract_operation (fun after h => ?_) fun _ _ _ _ _ => trivial)
    fun hkeep => .pure fun after h => ?_
  · rw [if_neg (by simp [hdrop.1]), h]
    exact part_bytes_of_absent (by simp)
  · rw [h]
    cases adopted with
    | true => rfl
    | false =>
      rw [part_bytes_of_absent (by simpa using hkeep)]
      rfl

/-- Opening a download keeps the bytes of a partial download that can be continued, and no other. -/
lemma contract_open_partial {disk_usage : Option DiskUsage} {updated_at owner : String} :
    Contract (· = disk)
      ( open_partial faults disk_usage updated_at kind identity asset owner)
      (fun opened after => part_file kind identity asset = .ok opened.file ∧
        after.part_bytes opened.file = adopted_bytes faults opened.file asset disk)
      fun _ _ => True := by
  refine Contract.bind (Q := fun file after => part_file kind identity asset = .ok file ∧
    after = disk) (contract_attempt (fun file hfile after h => ⟨hfile, h⟩) fun _ _ _ _ => trivial)
    fun file => .assume fun hfile => ?_
  refine Contract.bind (Q := fun _ (after : CacheDisk) =>
    after.part_bytes file = adopted_bytes faults file asset disk)
    (keeps_cache_locked ?_) fun record => .pure fun after h => ⟨hfile, h⟩
  refine contract_adoptable.bind fun adopted => .assume fun hadopted => ?_
  rw [adopted_bytes_eq hadopted]
  refine contract_drop_unadoptable.bind fun _ => ?_
  generalize (if adopted = true then disk.part_bytes file else []) = bytes
  have hbytes : ∀ {α : Type} {x : Except FetchException α},
      Contract (fun after : CacheDisk => after.part_bytes file = bytes) (attempt x)
        (fun _ after => after.part_bytes file = bytes) fun _ _ => True :=
    contract_attempt (fun _ _ _ => id) fun _ _ _ _ => trivial
  refine Contract.bind (Q := fun _ (after : CacheDisk) => after.part_bytes file = bytes)
    (.ite (fun _ => contract_size.weaken fun _ _ h => h.2) fun _ => .pure fun _ => id)
    fun received => hbytes.bind fun _ => ?_
  refine Contract.bind (Q := fun _ (after : CacheDisk) => after.part_bytes file = bytes)
    (contract_atomically (fun after h => part_bytes_create_directory.trans h)
      fun _ _ _ _ => trivial) fun _ => hbytes.bind fun record => ?_
  refine Contract.bind (Q := fun _ (after : CacheDisk) => after.part_bytes file = bytes)
    ?_ fun _ => .pure fun _ => id
  exact keeps_write_partial_record.mono (fun _ => id) (fun _ _ => id) fun _ _ _ => trivial

end PartFiles

end StegoLab

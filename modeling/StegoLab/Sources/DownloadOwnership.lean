import StegoLab.Sources.Downloads
import StegoLab.Sources.PartialDownloadProperties

/-!
# Downloads and owners

The downloads of a run make its owner the owner of what they leave, and nobody else.
-/

namespace StegoLab

open Transaction Program DatasetCache

variable {label owner directory : String} {disk : CacheDisk} {faults : CacheFaults}

/-! ### Directories -/

lemma Unowned.modify {f : CacheDirectory → CacheDirectory} (h : Unowned label disk)
    (hf : ∀ content, content.owner? ≠ some label → (f content).owner? ≠ some label) :
    Unowned label (disk.modify directory f) := by
  intro key howned
  rw [CacheDisk.modify] at howned
  cases hcontent : disk.partials.get? directory with
  | none =>
    rw [hcontent] at howned
    exact h key howned
  | some content =>
    rw [hcontent, CacheDisk.owner?] at howned
    by_cases hkey : key = directory
    · subst hkey
      refine hf content (fun hlabel => h key ?_) ?_
      · rw [CacheDisk.owner?, hcontent]
        exact hlabel
      · simpa using howned
    · exact h key (by simpa [CacheDisk.owner?, hkey] using howned)

lemma Unowned.erase {entries : Dict CacheDirectory} (h : Unowned label disk) :
    Unowned label { entries := entries, partials := disk.partials.erase directory } := by
  intro key howned
  by_cases hkey : key = directory
  · exact absurd howned (by simp [CacheDisk.owner?, hkey])
  · exact h key (by simpa [CacheDisk.owner?, hkey] using howned)

lemma Unowned.create (h : Unowned label disk) :
    Unowned label { disk with
      partials := disk.partials.insert directory ((disk.partials.get? directory).getD {}) } := by
  intro key howned
  by_cases hkey : key = directory
  · subst hkey
    refine h key ?_
    cases hcontent : disk.partials.get? key with
    | none =>
      simp [CacheDisk.owner?, hcontent, CacheDirectory.owner?] at howned
    | some content => simpa [CacheDisk.owner?, hcontent] using howned
  · exact h key (by simpa [CacheDisk.owner?, hkey] using howned)

lemma Unowned.put {file : PartialFile} {data : List UInt8} (h : Unowned label disk) :
    Unowned label (file.put data disk) :=
  h.modify fun _ => id

lemma owner?_remove {removed : RemovedCacheFiles} {content : CacheDirectory}
    (h : content.owner? ≠ some label) : (removed.remove content).owner? ≠ some label := by
  cases hrecord : removed.record with
  | false => simpa [CacheDirectory.owner?, RemovedCacheFiles.remove, hrecord] using h
  | true => simp [CacheDirectory.owner?, RemovedCacheFiles.remove, hrecord]

/-! ### Programs that give the label nothing -/

section Spares

variable {σ α β : Type} {part : σ → CacheDisk}

/-- The program leaves a label without partial downloads as it is. -/
abbrev Spares (label : String) (part : σ → CacheDisk) (x : Program σ FetchException α) : Prop :=
  Keeps (fun state => Unowned label (part state)) x

lemma spares_pure {a : α} : Spares label part (pure a) :=
  .pure fun _ => id

lemma spares_raise {e : FetchException} :
    Spares label part (raise e : Program σ FetchException α) :=
  contract_raise fun _ => id

lemma spares_attempt {x : Except FetchException α} :
    Spares label part (attempt x : Program σ FetchException α) :=
  contract_attempt (fun _ _ _ => id) fun _ _ _ => id

lemma spares_inspect {fault : Fault Unit} {e : FetchException} :
    Spares label part (inspect fault e : Program σ FetchException Unit) :=
  contract_inspect fun _ _ _ => id

lemma spares_read_bind {f : σ → Program σ FetchException β} (h : ∀ state, Spares label part (f state)) :
    Spares label part (read >>= f) :=
  Contract.bind (Contract.read fun _ => id) h

lemma Spares.catching {x : Program σ FetchException α}
    {handler : FetchException → Program σ FetchException α} (hx : Spares label part x)
    (hhandler : ∀ e, Spares label part (handler e)) : Spares label part (catching x handler) :=
  contract_catching hx hhandler fun _ => id

lemma Spares.finally_do {x : Program σ FetchException α}
    {cleanup : Program σ FetchException Unit} (hx : Spares label part x)
    (hcleanup : Spares label part cleanup) : Spares label part (finally_do x cleanup) :=
  contract_finally hx (fun _ => hcleanup) fun _ => hcleanup

end Spares

/-! ### The cache -/

section Cache

variable {sha256 : List UInt8 → String} {file : PartialFile} {kind : SourceKind}
  {identity updated_at : String} {asset : PlannedAsset} {opened : CachePartial}
  {disk_usage : Option DiskUsage}

lemma spares_put {fault : Fault Unit} {e : FetchException} {data : CacheDisk → List UInt8} :
    Spares label id (atomically fault e fun disk => file.put (data disk) disk) :=
  contract_atomically (fun _ h => h.put) fun _ _ _ => id

lemma spares_size : Spares label id (file.size faults) :=
  spares_inspect.bind fun _ => spares_read_bind fun _ => spares_pure

lemma spares_open_for_append : Spares label id (file.open_for_append faults) :=
  spares_read_bind fun _ => .ite (fun _ => spares_raise) fun _ => spares_put.bind fun _ => spares_size

lemma spares_append {fault : Fault ℕ} {chunk : List UInt8} :
    Spares label id (file.append fault chunk) :=
  contract_operation (fun _ h => h.put) fun _ _ _ _ h => h.put

lemma spares_truncate : Spares label id (file.truncate faults) :=
  spares_put

lemma spares_iter_existing {limit : ℕ} : Spares label id (file.iter_existing faults limit) := by
  refine spares_inspect.bind fun _ => spares_read_bind fun disk => ?_
  cases disk.part? file.directory file.name with
  | none => exact spares_raise
  | some data => exact spares_pure

lemma spares_remove_tree : Spares label id (remove_tree faults directory) :=
  contract_operation (fun _ h => h.erase) fun _ _ _ _ h => h.modify fun _ => owner?_remove

lemma spares_read_partial_record : Spares label id (read_partial_record faults directory) :=
  keeps_read_partial_record

lemma spares_cache_locked {α : Type} {program : CacheProgram α} (h : Spares label id program) :
    Spares label id (cache_locked faults program) :=
  keeps_cache_lock h

lemma spares_write_partial_record {record : ValidPartialRecord} (hrecord : record.1.owner ≠ label) :
    Spares label id (write_partial_record faults directory record) := by
  refine spares_inspect.bind fun _ => spares_read_bind fun _ => ?_
  refine .ite (fun _ => spares_raise) fun _ => Contract.bind ?_ fun _ => spares_inspect
  refine contract_atomically (fun disk h => h.modify fun content _ => ?_) fun _ _ _ => id
  simpa [CacheDirectory.owner?] using hrecord

lemma spares_load_entry {verify_bytes : Bool} :
    Spares label id (load_entry faults sha256 directory kind identity verify_bytes) := by
  refine keeps_tolerate.bind fun _ => keeps_tolerate.bind fun _ => spares_read_bind fun _ => ?_
  exact .ite (fun _ => spares_pure) fun _ => spares_pure

lemma spares_adoptable : Spares label id (adoptable faults file asset) :=
  spares_read_partial_record.bind fun _ => keeps_tolerate.bind fun _ => spares_pure

lemma spares_drop_unadoptable {adopted : Bool} :
    Spares label id (drop_unadoptable faults adopted directory) :=
  spares_inspect.bind fun _ => spares_read_bind fun _ =>
    .ite (fun _ => spares_remove_tree) fun _ => spares_pure

lemma spares_create_directory : Spares label id (create_directory faults directory) :=
  contract_atomically (fun _ h => h.create) fun _ _ _ => id

lemma validated_eq_ok {Record : Type} {Valid : Record → Prop} [DecidablePred Valid]
    {record : Record} {valid : { record : Record // Valid record }}
    (h : validated Valid record = .ok valid) : valid.1 = record := by
  rw [validated] at h
  split_ifs at h
  exact congrArg Subtype.val (Except.ok.inj h).symm

/-- The label has nothing, and the record names another owner. -/
def OwnedElsewhere (label owner : String) (record : ValidPartialRecord) (disk : CacheDisk) : Prop :=
  record.1.owner = owner ∧ Unowned label disk

/-- What is opened has a record of the owner that it was opened for. -/
lemma contract_open_owner (howner : owner ≠ label) :
    Contract (Unowned label)
      ( open_partial faults disk_usage updated_at kind identity asset owner)
      (fun opened => OwnedElsewhere label owner opened.record) fun _ => Unowned label := by
  refine spares_attempt.bind fun file => Contract.bind (Q := OwnedElsewhere label owner) ?_
    fun record => .pure fun _ => id
  refine (contract_inspect fun _ _ _ => id).bind fun _ => contract_finally ?_
    (fun record => contract_inspect fun _ _ _ h => h.2) fun _ => spares_inspect
  refine spares_adoptable.bind fun adopted => spares_drop_unadoptable.bind fun _ =>
    Contract.bind (Q := fun _ => Unowned label) ?_ fun received => spares_attempt.bind fun _ =>
      spares_create_directory.bind fun _ => Contract.bind (Q := OwnedElsewhere label owner) ?_
        fun record => ?_
  · exact .ite (fun _ => spares_size) fun _ => spares_pure
  · refine contract_attempt (fun record hrecord disk h => ⟨?_, h⟩) fun _ _ _ => id
    rw [validated_eq_ok hrecord]
  · refine Contract.assume fun hrecord => ?_
    refine (spares_write_partial_record (hrecord.trans_ne howner)).bind fun _ => ?_
    exact .pure fun disk h => ⟨hrecord, h⟩

lemma spares_open_partial (howner : owner ≠ label) :
    Spares label id ( open_partial faults disk_usage updated_at kind identity asset owner) :=
  (contract_open_owner howner).weaken fun _ _ h => h.2

/-- A record that is updated keeps its owner. -/
lemma contract_update_owner {received : ℕ} (howner : owner ≠ label)
    (hopened : opened.record.1.owner = owner) :
    Contract (Unowned label) ( update_partial faults updated_at opened received)
      (fun opened => OwnedElsewhere label owner opened.record) fun _ => Unowned label := by
  refine Contract.bind (Q := OwnedElsewhere label owner) ?_ fun record =>
    Contract.assume fun hrecord => ?_
  · refine contract_attempt (fun record hrecord disk h => ⟨?_, h⟩) fun _ _ _ => id
    rw [validated_eq_ok hrecord]
    exact hopened
  · refine (spares_cache_locked (spares_write_partial_record (hrecord.trans_ne howner))).bind
      fun _ => ?_
    exact .pure fun disk h => ⟨hrecord, h⟩

lemma spares_remove_partial : Spares label id ( remove_partial faults kind identity owner) := by
  refine spares_attempt.bind fun directory => spares_cache_locked ?_
  refine spares_read_partial_record.bind fun record => .ite (fun _ => ?_) fun _ => spares_pure
  exact spares_remove_tree.bind fun _ => spares_pure

lemma spares_discard {α : Type} {code : String} :
    Spares label id (discard faults opened code : CacheProgram α) :=
  (spares_cache_locked spares_remove_tree).bind fun _ => spares_raise

lemma spares_adopt_existing :
    Spares label id (adopt_existing faults sha256 directory kind identity) := by
  refine spares_inspect.bind fun _ => spares_read_bind fun _ => ?_
  refine .ite (fun _ => spares_pure) fun _ => spares_load_entry.bind fun entry => ?_
  cases entry with
  | none => exact spares_raise
  | some entry => exact spares_pure

lemma spares_seal_partial {basename : String} :
    Spares label id ( seal_partial faults opened basename) := by
  refine spares_read_bind fun disk => ?_
  cases disk.part? opened.directory opened.file.name with
  | none => exact spares_raise
  | some data =>
    refine Contract.bind (Q := fun _ => Unowned label) ?_ fun _ => Contract.bind ?_ fun _ =>
      spares_inspect
    · exact contract_atomically (fun _ h => h.modify fun _ => id) fun _ _ _ => id
    · refine contract_atomically (fun _ h => h.modify fun _ _ => ?_) fun _ _ _ => id
      simp [CacheDirectory.owner?]

lemma spares_write_manifest_file {manifest : ValidManifest} :
    Spares label id (write_manifest_file faults directory manifest) := by
  refine spares_read_bind fun disk => ?_
  cases disk.partials.get? directory with
  | none => exact spares_raise
  | some content =>
    refine .ite (fun _ => spares_raise) fun _ => Contract.bind (Q := fun _ => Unowned label) ?_
      fun _ => ?_
    · exact contract_atomically (fun _ h => h.modify fun _ => id) fun _ _ _ => id
    · exact contract_atomically (fun _ h => h.modify fun _ => id) fun _ _ _ => id

lemma spares_publish_directory : Spares label id (publish_directory faults directory) := by
  refine spares_read_bind fun disk => ?_
  cases disk.partials.get? directory with
  | none => exact spares_raise
  | some content =>
    exact spares_attempt.bind fun _ => contract_atomically (fun _ h => h.erase) fun _ _ _ => id

lemma spares_reuse_existing {existing : CacheEntry} :
    Spares label id (reuse_existing faults opened existing) :=
  spares_remove_tree.bind fun _ => spares_pure

lemma spares_publish_sealed : Spares label id (publish_sealed faults sha256 opened) := by
  refine Spares.catching ?_ fun _ => .ite (fun _ => spares_adopt_existing) fun _ => spares_raise
  exact spares_publish_directory.bind fun _ => spares_pure

lemma spares_publish {basename : String} {manifest : ValidManifest} :
    Spares label id (publish faults sha256 opened basename manifest) := by
  refine spares_adopt_existing.bind fun existing => ?_
  cases existing with
  | some existing => exact spares_reuse_existing
  | none =>
    refine spares_seal_partial.bind fun _ => spares_write_manifest_file.bind fun _ =>
      spares_publish_sealed.bind fun published => ?_
    cases published with
    | some existing => exact spares_reuse_existing
    | none => exact spares_pure

lemma spares_complete {outcome : DownloadOutcome} {provenance : Provenance} :
    Spares label id (complete faults sha256 opened outcome provenance) := by
  rw [complete]
  refine .ite (fun _ => spares_discard) fun _ => .ite (fun _ => spares_discard) fun _ => ?_
  refine keeps_tolerate.bind fun _ => spares_size.bind fun _ => spares_attempt.bind fun _ =>
    spares_attempt.bind fun _ => spares_attempt.bind fun _ => spares_cache_locked spares_publish

lemma spares_copy_chunks {limit : ℕ} (chunks : List (List UInt8)) (total : ℕ)
    (digested : List UInt8) :
    Spares label id (copy_chunks faults file limit chunks total digested) := by
  induction chunks generalizing total digested with
  | nil => exact spares_pure
  | cons chunk rest ih => exact spares_attempt.bind fun _ => spares_append.bind fun _ => ih _ _

lemma spares_copy_file {limit : ℕ} {source : Option (List (List UInt8))} :
    Spares label id (copy_file faults file limit source) := by
  refine spares_open_for_append.bind fun _ => spares_truncate.bind fun _ => ?_
  cases source with
  | none => exact spares_raise
  | some chunks => exact spares_copy_chunks chunks _ _

lemma spares_import_file {source : Option (List (List UInt8))} {provenance : Provenance}
    (howner : owner ≠ label) :
    Spares label id (import_file faults sha256 disk_usage updated_at kind identity asset source
      owner provenance) := by
  refine ( spares_open_partial howner).bind fun opened => Contract.bind ?_ fun copied =>
    spares_inspect.bind fun _ => spares_complete
  refine Spares.catching spares_copy_file fun e => spares_inspect.bind fun _ => ?_
  split
  · exact spares_discard
  · exact spares_discard
  · exact spares_raise

end Cache

/-! ### Removals -/

section Removals

variable {checksum : ByteArray → String} {service : SourceService} {lock : CacheFaults}
  {in_use : Dict (List String)} {active_owners : List String}

lemma spares_discard_partials {faults : DiscardFaults} {reported : List String} :
    Spares label id (discard_partials faults owner reported) := by
  refine keeps_listed_partials.bind fun listed => ?_
  generalize (reported ++ listed).dedup.insertionSort (fun a b => a ≤ b) = directories
  induction directories with
  | nil => exact spares_pure
  | cons directory rest ih =>
    refine Contract.bind (Q := fun _ => Unowned label) ?_ fun _ => ih
    refine Spares.catching ?_ fun e => ?_
    · exact spares_attempt.bind fun _ => spares_remove_partial.bind fun _ => spares_pure
    · split
      · exact spares_pure
      · exact spares_raise

lemma spares_sweep_directory {faults : String × Bool → CacheFaults} {found : String × Bool} :
    Spares label id (sweep_directory faults in_use active_owners found) := by
  refine .ite (fun _ => ?_) fun _ => ?_
  · exact spares_read_partial_record.bind fun _ => .ite (fun _ => spares_pure) fun _ =>
      spares_remove_tree
  · refine keeps_tolerate.bind fun _ => spares_read_bind fun disk => .ite (fun _ => ?_) fun _ =>
      spares_pure
    apply contract_operation
    · intro disk h
      exact h
    · intro removed _ _ disk h
      split
      · exact h
      · exact h

/-- The removal of unused files leaves nothing to anyone. -/
lemma spares_remove_unused {faults : String × Bool → CacheFaults} :
    Spares label id (remove_unused faults checksum service lock) := by
  refine spares_attempt.bind fun _ => spares_attempt.bind fun _ => spares_cache_locked ?_
  refine spares_inspect.bind fun _ => spares_read_bind fun disk => ?_
  generalize scan_cache disk = directories
  induction directories with
  | nil => exact spares_pure
  | cons found rest ih => exact spares_sweep_directory.bind fun _ => ih

end Removals

/-! ### Downloads -/

section Downloads

variable {sha256 : List UInt8 → String} {run : DownloadRun} {around : DownloadSurroundings}
  {surroundings : ℕ → DownloadSurroundings} {need : AssetNeed} {url : String}
  {file : PartialFile} {response : TransportResponse} {opened : CachePartial}

lemma spares_on_disk {α : Type} {program : CacheProgram α} (h : Spares label id program) :
    Spares label TransferState.disk (on_disk program) := by
  refine .within fun state hstate => h.strengthen ?_
  rintro _ rfl
  exact hstate

lemma spares_in_cache {α : Type} {program : CacheProgram α} (h : Spares label id program) :
    Spares label (fun state : DownloadState => state.disk) (in_cache program) := by
  refine .within fun state hstate => h.strengthen ?_
  rintro _ rfl
  exact hstate

lemma spares_in_transfer {α : Type} {program : TransferProgram α}
    (h : Spares label TransferState.disk program) :
    Spares label (fun state : DownloadState => state.disk) (in_transfer program) := by
  refine .within fun state hstate => h.strengthen ?_
  rintro _ rfl
  exact hstate

lemma spares_accept_response {offset : ℕ} :
    Spares label TransferState.disk (accept_response faults response file offset) := by
  rw [accept_response]
  refine .ite (fun _ => spares_attempt.bind fun start => ?_) fun _ => .ite (fun _ => ?_) fun _ =>
    spares_raise
  · exact .ite (fun _ => spares_pure) fun _ => spares_raise
  · dsimp only
    refine .ite (fun _ => ?_) fun _ => spares_pure
    exact (spares_on_disk spares_truncate).bind fun _ => spares_pure

lemma spares_receive_chunks {interruption : Option ApplicationFailure} {maximum_bytes : ℕ}
    {stop : ℕ → Bool} (chunks : List (List UInt8)) (index received : ℕ) (digested : List UInt8) :
    Spares label TransferState.disk (receive_chunks faults interruption file maximum_bytes stop
      chunks index received digested) := by
  induction chunks generalizing index received digested with
  | nil =>
    cases interruption with
    | none => exact spares_inspect.bind fun _ => spares_pure
    | some failure => exact spares_raise
  | cons chunk rest ih =>
    have harrive : Spares label TransferState.disk (arrive chunk) := by
      constructor
      · intro _ _ _ h hx
        obtain ⟨-, rfl⟩ := Prod.ext_iff.mp hx
        exact h
      · intro _ _ _ _ hx
        exact absurd (congrArg Prod.fst hx) (by simp [arrive])
    refine harrive.bind fun _ => spares_attempt.bind fun _ => (spares_on_disk spares_append).bind
      fun _ => spares_inspect.bind fun _ => spares_attempt.bind fun _ => ih _ _ _

lemma spares_stream {transport : TransportOpen} {asset : RemoteAsset} {maximum_bytes size : ℕ}
    {stop : ℕ → Bool} :
    Spares label TransferState.disk
      (stream faults transport asset file maximum_bytes stop size) := by
  refine Contract.bind (Q := fun _ state => Unowned label state.disk) ?_ fun offset => ?_
  · refine .ite (fun _ => ?_) fun _ => spares_pure
    exact (spares_on_disk spares_truncate).bind fun _ => spares_pure
  · refine spares_attempt.bind fun response => spares_accept_response.bind fun offset =>
      (spares_on_disk spares_iter_existing).bind fun existing => spares_attempt.bind fun announced =>
        spares_attempt.bind fun _ => ?_
    exact (spares_receive_chunks _ _ _ _).bind fun _ => spares_pure

lemma spares_download_asset {transport : TransportOpen} {asset : RemoteAsset} {maximum_bytes : ℕ}
    {stop : ℕ → Bool} :
    Spares label TransferState.disk
      (download_asset faults sha256 transport asset file maximum_bytes stop) := by
  refine (spares_on_disk spares_open_for_append).bind fun size => ?_
  refine (spares_stream.finally_do (spares_on_disk spares_inspect)).bind fun streamed => ?_
  exact spares_attempt.bind fun _ => spares_attempt.bind fun _ => spares_pure

lemma spares_record_report {f : DownloadReport → DownloadReport} :
    Spares label (fun state : DownloadState => state.disk) (record_report f) := by
  constructor
  · intro _ _ _ h hx
    obtain ⟨-, rfl⟩ := Prod.ext_iff.mp hx
    exact h
  · intro _ _ _ _ hx
    exact absurd (congrArg Prod.fst hx) (by simp [record_report])

/-- The partial download of a run belongs to the run. -/
lemma contract_open_download_owner (howner : run.owner ≠ label) :
    Contract (Unowned label) (open_download run around need)
      (fun opened => OwnedElsewhere label run.owner opened.record) fun _ => Unowned label := by
  refine (contract_open_owner howner).bind fun opened => Contract.assume fun hopened => ?_
  refine .ite (fun _ => .pure fun disk h => ⟨hopened, h⟩) fun _ => spares_size.bind fun size => ?_
  refine .ite (fun _ => .pure fun disk h => ⟨hopened, h⟩) fun _ => ?_
  refine spares_open_for_append.bind fun _ => ?_
  exact (spares_truncate.finally_do spares_inspect).bind fun _ =>
    contract_update_owner howner hopened

lemma spares_download_interrupted {started_from : ℕ} {e : FetchException}
    (howner : run.owner ≠ label) (hopened : opened.record.1.owner = run.owner) :
    Spares label (fun state : DownloadState => state.disk)
      (download_interrupted run around need opened started_from e) := by
  unfold download_interrupted
  split
  · have hupdate : ∀ received, Spares label id ( update_partial around.faults.interrupted
        around.updated_at opened received) :=
      fun received => (contract_update_owner howner hopened).weaken fun _ _ h => h.2
    refine (spares_in_cache spares_size).bind fun received =>
      (spares_in_cache (hupdate received)).bind fun _ => spares_record_report.bind fun _ => ?_
    exact spares_raise
  · refine .ite (fun _ => ?_) fun _ => spares_raise
    exact (spares_in_cache spares_remove_partial).bind fun _ => spares_raise
  · exact spares_raise

/-- A download leaves nothing to a label other than its owner. -/
lemma spares_download (howner : run.owner ≠ label) :
    Spares label (fun state : DownloadState => state.disk)
      (download sha256 run around need url) := by
  have hopen : Contract (fun state : DownloadState => Unowned label state.disk)
      (in_cache (open_download run around need))
      (fun opened state => opened.record.1.owner = run.owner ∧ Unowned label state.disk)
      fun _ state => Unowned label state.disk := by
    refine .within fun state hstate => (contract_open_download_owner howner).strengthen ?_
    rintro _ rfl
    exact hstate
  refine hopen.bind fun opened => Contract.assume fun hopened => ?_
  refine (spares_in_cache spares_size).bind fun started_from => ?_
  refine (Spares.catching (spares_in_transfer spares_download_asset) fun e =>
    spares_download_interrupted howner hopened).bind fun outcome => ?_
  exact spares_record_report.bind fun _ => spares_in_cache spares_complete

lemma spares_ensure_asset (howner : run.owner ≠ label) :
    Spares label (fun state : DownloadState => state.disk)
      (ensure_asset sha256 run around need) := by
  rw [ensure_asset]
  refine .ite (fun _ => spares_raise) fun _ => ?_
  split
  · exact spares_pure
  · exact spares_in_cache (spares_import_file howner)
  · exact spares_download howner
  · exact spares_raise

lemma spares_ensure_from (howner : run.owner ≠ label) (needs : List AssetNeed) (index : ℕ) :
    Spares label (fun state : DownloadState => state.disk)
      (ensure_from sha256 run surroundings index needs) := by
  induction needs generalizing index with
  | nil => exact spares_pure
  | cons need rest ih =>
    exact (spares_ensure_asset howner).bind fun _ => spares_record_report.bind fun _ =>
      spares_inspect.bind fun _ => ih _

lemma spares_asset_needs {checksum : ByteArray → String} (assets : List PlannedAsset)
    (index : ℕ) :
    Spares label id (asset_needs sha256 run surroundings checksum index assets) := by
  induction assets generalizing index with
  | nil => exact spares_pure
  | cons asset rest ih =>
    refine Contract.bind (Q := fun _ => Unowned label) ?_ fun entry => (ih _).bind fun _ =>
      spares_pure
    exact spares_attempt.bind fun _ => spares_load_entry

/-- The downloads of a run leave nothing to a label other than its owner, however they end. -/
theorem spares_download_assets {checksum : ByteArray → String} {space : SpaceChecks}
    {progress : Fault Unit} (howner : run.owner ≠ label) :
    Spares label (fun state : DownloadState => state.disk)
      (download_assets sha256 run surroundings checksum space progress) :=
  (spares_in_cache (spares_asset_needs _ _)).bind fun _ => spares_attempt.bind fun _ =>
    spares_record_report.bind fun _ => spares_inspect.bind fun _ => spares_ensure_from howner _ _

end Downloads

end StegoLab

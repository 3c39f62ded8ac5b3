import StegoLab.Sources.CleanupProperties
import StegoLab.Sources.PartialDownloads

/-!
# Owners of partial downloads

A removal for one owner leaves the partial downloads of all others; an undisturbed one removes what
was reported, and the first of those that are there.
-/

namespace StegoLab

open Transaction Program DatasetCache

/-! ### Owners -/

/-- The owner that the record of a partial directory names. -/
def CacheDirectory.owner? (content : CacheDirectory) : Option String :=
  content.record.map fun record => record.1.owner

def CacheDisk.owner? (disk : CacheDisk) (directory : String) : Option String :=
  (disk.partials.get? directory).bind CacheDirectory.owner?

/-- The label owns no partial download. -/
def Unowned (label : String) (disk : CacheDisk) : Prop :=
  ∀ directory, disk.owner? directory ≠ some label

variable {faults : DiscardFaults} {owner directory name : String} {disk : CacheDisk}
  {content : CacheDirectory}

lemma owned_by_iff : owned_by owner content.record = true ↔ content.owner? = some owner := by
  rw [owned_by, CacheDirectory.owner?, Option.any_eq_true, Option.map_eq_some_iff]
  simp

lemma owned_by_record_iff :
    owned_by owner ((disk.partials.get? directory).bind CacheDirectory.record) = true ↔
      disk.owner? directory = some owner := by
  rw [CacheDisk.owner?]
  cases disk.partials.get? directory with
  | none => simp [owned_by]
  | some content => exact owned_by_iff

/-! ### Other owners -/

/-- What is read of a record is what is there, or nothing. -/
lemma contract_read_partial_record {faults : CacheFaults} :
    Contract (· = disk) (read_partial_record faults directory)
      (fun record after => (record = none ∨
        record = (disk.partials.get? directory).bind CacheDirectory.record) ∧ after = disk)
      fun _ after => after = disk := by
  refine keeps_tolerate.bind fun readable => ?_
  refine Contract.bind (Q := fun known after => known = disk ∧ after = disk)
    (.read fun _ h => ⟨h, h⟩) fun known => .assume ?_
  rintro rfl
  refine .ite (fun _ => .pure fun _ h => ⟨Or.inr rfl, h⟩) fun _ => .pure fun _ h => ⟨Or.inl rfl, h⟩

lemma keeps_cache_lock {α : Type} {program : CacheProgram α} {faults : CacheFaults}
    {P : CacheDisk → Prop} (h : Keeps P program) : Keeps P (cache_locked faults program) := by
  refine (contract_inspect fun _ _ _ => id).bind fun _ => ?_
  exact contract_finally h (fun _ => contract_inspect fun _ _ _ => id)
    fun _ => contract_inspect fun _ _ _ => id

lemma keeps_remove_other {faults : CacheFaults} (hother : name ≠ directory) :
    Keeps (fun disk => disk.partials.get? name = some content) (remove_tree faults directory) := by
  apply contract_operation
  · intro disk hdisk
    simp [hother, hdisk]
  · intro removed _ _ disk hdisk
    unfold CacheDisk.modify
    split
    · exact hdisk
    · simp [hother, hdisk]

/-- A removal for one owner leaves the directory of another as it is, whatever happens to it. -/
lemma keeps_remove_partial {faults : CacheFaults} {kind : SourceKind} {identity : String}
    (hother : content.owner? ≠ some owner) :
    Keeps (fun disk => disk.partials.get? name = some content)
      ( remove_partial faults kind identity owner) := by
  refine (contract_attempt (fun _ _ _ => id) fun _ _ _ => id).bind fun directory => ?_
  refine keeps_cache_lock (.from_each fun disk hdisk => ?_)
  refine (contract_read_partial_record.mono (fun _ => id) (fun _ _ => id)
    fun _ _ h => h ▸ hdisk).bind fun record => .assume fun hrecord => ?_
  refine .ite (fun howned => ?_) fun _ => .pure fun _ h => h ▸ hdisk
  have hname : name ≠ directory := by
    rintro rfl
    rcases hrecord with rfl | rfl
    · exact absurd howned (by simp)
    · rw [hdisk] at howned
      exact hother (owned_by_iff.mp howned)
  exact ((keeps_remove_other hname).strengthen fun _ h => h ▸ hdisk).bind fun _ => .pure fun _ => id

lemma keeps_discard_directory (hother : content.owner? ≠ some owner) :
    Keeps (fun disk => disk.partials.get? name = some content)
      (discard_directory faults owner directory) := by
  refine contract_catching (S := fun _ disk => disk.partials.get? name = some content) ?_
    (fun e => ?_) fun _ => id
  · refine (contract_attempt (fun _ _ _ => id) fun _ _ _ => id).bind fun named => ?_
    exact ( keeps_remove_partial hother).bind fun _ => .pure fun _ => id
  · split
    · exact .pure fun _ => id
    · exact contract_raise fun _ => id

lemma keeps_list_owned {P : CacheDisk → Prop} (directories : List (String × Bool))
    (found : List String) : Keeps P (list_owned faults owner directories found) := by
  induction directories generalizing found with
  | nil => exact .pure fun _ => id
  | cons directory rest ih =>
    rw [list_owned]
    refine Contract.bind (Q := fun _ => P) ?_ fun record => ?_
    · exact .ite (fun _ => keeps_read_partial_record) fun _ => .pure fun _ => id
    · exact .ite (fun _ => .pure fun _ => id) fun _ => ih _

lemma keeps_listed_partials {P : CacheDisk → Prop} : Keeps P (listed_partials faults owner) := by
  refine contract_catching (S := fun _ => P) ?_ (fun e => ?_) fun _ => id
  · refine (contract_inspect fun _ _ _ => id).bind fun _ => ?_
    exact Contract.bind (Contract.read fun _ => id) fun disk => keeps_list_owned _ _
  · split
    · exact .pure fun _ => id
    · exact .pure fun _ => id
    · exact contract_raise fun _ => id

/-- A cancelled job leaves the partial downloads of all other owners as they are. -/
theorem keeps_discard_partials {reported : List String} (hother : content.owner? ≠ some owner) :
    Keeps (fun disk => disk.partials.get? name = some content)
      (discard_partials faults owner reported) := by
  refine keeps_listed_partials.bind fun listed => ?_
  generalize (reported ++ listed).dedup.insertionSort (fun a b => a ≤ b) = directories
  induction directories with
  | nil => exact .pure fun _ => id
  | cons directory rest ih => exact (keeps_discard_directory hother).bind fun _ => ih

/-! ### An undisturbed removal -/

/-- The partial directory that a listed name stands for. -/
def partial_of (directory : String) : Option String :=
  ( named_partial directory).toOption.bind fun named =>
    (cache_directory named.1 named.2).toOption

/-- The tree without a directory, when the owner has it. -/
def without_owned (owner : String) (disk : CacheDisk) (directory : String) : CacheDisk :=
  if disk.owner? directory = some owner then
    { disk with partials := disk.partials.erase directory }
  else disk

/-- What an undisturbed removal of one listed directory leaves. -/
def discarded (owner : String) (disk : CacheDisk) (directory : String) : CacheDisk :=
  match partial_of directory with
  | none => disk
  | some key => without_owned owner disk key

lemma cache_locked_undisturbed {α : Type} {program : CacheProgram α} {a : α} {after : CacheDisk}
    (h : program disk = (.ok a, after)) : cache_locked {} program disk = (.ok a, after) :=
  (bind_of_ok rfl).trans (finally_do_of_ok h rfl)

lemma remove_partial_undisturbed {kind : SourceKind} {identity : String}
    (hdirectory : cache_directory kind identity = .ok directory) :
    ∃ removed, remove_partial {} kind identity owner disk
      = (.ok removed, without_owned owner disk directory) := by
  rw [ remove_partial, hdirectory, without_owned]
  by_cases howned : disk.owner? directory = some owner
  · refine ⟨true, (bind_of_ok rfl).trans (cache_locked_undisturbed ((bind_of_ok rfl).trans ?_))⟩
    rw [if_pos howned]
    exact congrFun (if_pos (owned_by_record_iff.mpr howned)) disk
  · refine ⟨false, (bind_of_ok rfl).trans (cache_locked_undisturbed ((bind_of_ok rfl).trans ?_))⟩
    rw [if_neg howned]
    exact congrFun (if_neg fun hrecord => howned (owned_by_record_iff.mp hrecord)) disk

lemma named_partial_error {e : FetchException} (h : named_partial directory = .error e) :
    e = .cache "cache_key" := by
  rw [ named_partial] at h
  split at h
  · exact (Except.error.inj h).symm
  · exact absurd h (by simp)

lemma cache_directory_key {kind : SourceKind} {identity : String} {e : FetchException}
    (h : cache_directory kind identity = .error e) : e = .cache "cache_key" := by
  rw [cache_directory] at h
  split_ifs at h
  exact (Except.error.inj h).symm

lemma remove_named_eq {named : SourceKind × String} (hnamed : named_partial directory = .ok named) :
    remove_named {} owner directory disk
      = ( remove_partial {} named.1 named.2 owner >>= fun _ => pure ()) disk := by
  rw [remove_named, hnamed]
  exact bind_of_ok rfl

lemma discarded_of_none (h : partial_of directory = none) :
    discarded owner disk directory = disk := by
  rw [discarded, h]

lemma discarded_of_some {key : String} (h : partial_of directory = some key) :
    discarded owner disk directory = without_owned owner disk key := by
  rw [discarded, h]

lemma discard_directory_undisturbed :
    discard_directory {} owner directory disk = (.ok (), discarded owner disk directory) := by
  cases hnamed : named_partial directory with
  | error e =>
    obtain rfl := named_partial_error hnamed
    rw [discarded_of_none (by simp [partial_of, hnamed, Except.toOption]), discard_directory,
      remove_named, hnamed]
    rfl
  | ok named =>
    have hremove := @remove_named_eq owner directory disk named hnamed
    cases hkey : cache_directory named.1 named.2 with
    | error e =>
      obtain rfl := cache_directory_key hkey
      have hraised : remove_partial {} named.1 named.2 owner disk
          = (.error (.raised (.cache "cache_key")), disk) := by
        rw [ remove_partial, hkey]
        rfl
      rw [bind_of_error hraised] at hremove
      rw [discarded_of_none (by simp [partial_of, hnamed, hkey, Except.toOption])]
      exact (catching_of_raised hremove).trans rfl
    | ok key =>
      obtain ⟨removed, hremoved⟩ := @remove_partial_undisturbed owner key disk _ _ hkey
      rw [bind_of_ok hremoved] at hremove
      have hof : partial_of directory = some key := by
        simp [partial_of, hnamed, hkey, Except.toOption]
      rw [discarded_of_some hof]
      exact catching_of_ok (hremove.trans rfl)

lemma discard_directories_undisturbed {directories : List String} :
    discard_directories {} owner directories disk
      = (.ok (), directories.foldl (discarded owner) disk) := by
  induction directories generalizing disk with
  | nil => rfl
  | cons directory rest ih =>
    rw [discard_directories, bind_of_ok discard_directory_undisturbed, ih]
    rfl

lemma read_partial_record_undisturbed :
    read_partial_record {} directory disk
      = (.ok ((disk.partials.get? directory).bind CacheDirectory.record), disk) := rfl

/-- The names of the partial directories that the owner has, in the order of the scan. -/
def owned_names (owner : String) (disk : CacheDisk) (directories : List (String × Bool)) :
    List String :=
  (directories.filter fun directory =>
    directory.2 && disk.owner? directory.1 = some owner).map directory_name

lemma owned_names_cons {found : String × Bool} {rest : List (String × Bool)} :
    owned_names owner disk (found :: rest)
      = if (found.2 && decide (disk.owner? found.1 = some owner)) = true then
        directory_name found :: owned_names owner disk rest
      else owned_names owner disk rest := by
  rw [owned_names, List.filter_cons]
  split_ifs
  · exact List.map_cons
  · rfl

lemma list_owned_undisturbed {directories : List (String × Bool)} {found : List String}
    (hfound : found.length < MAXIMUM_PARTIAL_DIRECTORIES) :
    list_owned {} owner directories found disk
      = (.ok ((found ++ owned_names owner disk directories).take MAXIMUM_PARTIAL_DIRECTORIES),
        disk) := by
  induction directories generalizing found with
  | nil =>
    rw [list_owned, owned_names, List.filter_nil, List.map_nil, List.append_nil,
      List.take_of_length_le hfound.le]
    rfl
  | cons directory rest ih =>
    have hread : ∃ record, (if directory.2 = true then
          read_partial_record ({} : CacheFaults) directory.1 else pure none) disk
        = (.ok record, disk) ∧
        (owned_by owner record = true ↔
          (directory.2 && decide (disk.owner? directory.1 = some owner)) = true) := by
      cases directory.2 with
      | false => exact ⟨none, rfl, by simp [owned_by]⟩
      | true => exact ⟨_, read_partial_record_undisturbed, by rw [owned_by_record_iff]; simp⟩
    obtain ⟨record, hrecord, howned⟩ := hread
    rw [list_owned]
    refine (bind_of_ok hrecord).trans ?_
    by_cases hfinds : owned_by owner record = true
    · rw [if_pos hfinds, owned_names_cons, if_pos (howned.mp hfinds)]
      have hgrown : (found ++ [directory_name directory]).length = found.length + 1 := by simp
      have htake : found ++ directory_name directory :: owned_names owner disk rest
          = found ++ [directory_name directory] ++ owned_names owner disk rest := by simp
      rw [htake]
      by_cases hfull : MAXIMUM_PARTIAL_DIRECTORIES ≤ (found ++ [directory_name directory]).length
      · rw [if_pos hfull, List.take_append_of_le_length hfull, List.take_of_length_le (by omega)]
        rfl
      · rw [if_neg hfull]
        exact ih (not_le.mp hfull)
    · rw [if_neg hfinds, if_neg (not_le.mpr hfound), owned_names_cons,
        if_neg fun h => hfinds (howned.mpr h)]
      exact ih hfound

lemma owner?_without_owned {key : String} :
    (without_owned owner disk directory).owner? key
      = if disk.owner? directory = some owner ∧ key = directory then none else disk.owner? key := by
  rw [without_owned]
  by_cases howned : disk.owner? directory = some owner
  · rw [if_pos howned, CacheDisk.owner?]
    by_cases hkey : key = directory
    · simp [hkey, howned]
    · simp [hkey, CacheDisk.owner?]
  · simp [howned]

/-- The directories that are named and owned are gone, and all others stay. -/
lemma owned_foldl_discarded {directories : List String} {key : String} :
    (directories.foldl (discarded owner) disk).owner? key = some owner ↔
      disk.owner? key = some owner ∧ ∀ name ∈ directories, partial_of name ≠ some key := by
  induction directories generalizing disk with
  | nil => simp
  | cons directory rest ih =>
    rw [List.foldl_cons, ih, List.forall_mem_cons]
    cases hof : partial_of directory with
    | none => simp [discarded_of_none hof]
    | some found =>
      rw [discarded_of_some hof, owner?_without_owned]
      by_cases hkey : key = found
      · subst hkey
        by_cases howned : disk.owner? key = some owner
        · simp [howned]
        · simp [howned]
      · have hne : found ≠ key := Ne.symm hkey
        simp [hkey, hne]

/-- The directory is reported, or among the first that the owner has. -/
def FoundPartial (owner : String) (reported : List String) (disk : CacheDisk) (key : String) :
    Prop :=
  ∃ name ∈ reported ++ (owned_names owner disk (scan_cache disk)).take MAXIMUM_PARTIAL_DIRECTORIES,
    partial_of name = some key

/-- An undisturbed removal leaves the owner nothing exactly when everything is found. -/
theorem discard_partials_undisturbed {reported : List String} :
    ∃ after, discard_partials {} owner reported disk = (.ok (), after) ∧
      (Unowned owner after ↔
        ∀ key, disk.owner? key = some owner → FoundPartial owner reported disk key) := by
  have hlisted : listed_partials {} owner disk
      = (.ok ((owned_names owner disk (scan_cache disk)).take MAXIMUM_PARTIAL_DIRECTORIES),
        disk) := by
    refine catching_of_ok ((bind_of_ok rfl).trans ((bind_of_ok rfl).trans ?_))
    exact list_owned_undisturbed (by decide)
  refine ⟨_, (bind_of_ok hlisted).trans discard_directories_undisturbed, ?_⟩
  constructor
  · intro hgone key howned
    have hkept := mt owned_foldl_discarded.mpr (hgone key)
    rw [not_and, not_forall] at hkept
    obtain ⟨name, hname⟩ := hkept howned
    rw [Classical.not_imp, not_not, List.mem_insertionSort, List.mem_dedup] at hname
    exact ⟨name, hname⟩
  · intro hfound key hkept
    obtain ⟨howned, hnone⟩ := owned_foldl_discarded.mp hkept
    obtain ⟨name, hname, hof⟩ := hfound key howned
    exact hnone name ((List.mem_insertionSort _).mpr (List.mem_dedup.mpr hname)) hof

/-! ### Few partial downloads -/

lemma remove_suffix_append {suffix text : String} :
    remove_suffix suffix (text ++ suffix) = text := by
  have hends : suffix.toList <:+ (text ++ suffix).toList := by simp
  rw [remove_suffix, if_pos hends]
  simp

/-- The name of a well-named directory stands for it. -/
lemma partial_of_directory_name {kind : SourceKind} {identity : String}
    (hkind : kind ∈ CACHE_KINDS) (hidentity : is_sha256 identity = true) :
    partial_of (directory_name (kind.label ++ "/" ++ identity, true))
      = some (kind.label ++ "/" ++ identity) := by
  have hlabel : '/' ∉ kind.label.toList := by
    cases kind <;> decide
  have hfind : CACHE_KINDS.find? (fun other => other.label = kind.label) = some kind := by
    revert hkind
    cases kind <;> decide
  have hname : directory_name (kind.label ++ "/" ++ identity, true)
      = String.ofList (kind.label.toList ++ '/' :: (identity ++ PARTIAL_SUFFIX).toList) := by
    apply String.toList_inj.mp
    simp [directory_name, PARTIAL_SUFFIX]
  have hnamed : named_partial (directory_name (kind.label ++ "/" ++ identity, true))
      = .ok (kind, identity) := by
    rw [ named_partial, hname, Text.before_append hlabel, Text.after_append hlabel,
      String.ofList_toList, String.ofList_toList, remove_suffix_append, hfind]
  rw [partial_of, hnamed]
  show (cache_directory kind identity).toOption = _
  rw [cache_directory, if_pos ⟨hidentity, hkind⟩]
  rfl

/-- The scan comes to every well-named partial directory. -/
lemma mem_scan_partials {kind : SourceKind} {identity : String} (hkind : kind ∈ CACHE_KINDS)
    (hidentity : is_sha256 identity = true)
    (hcontent : disk.partials.get? (kind.label ++ "/" ++ identity) = some content) :
    (kind.label ++ "/" ++ identity, true) ∈ scan_cache disk := by
  have hmem : (kind.label ++ "/" ++ identity, content) ∈ disk.partials.entries :=
    (Dict.lookup_eq_some_iff disk.partials.nodup_keys).mp hcontent
  have hlabel : '/' ∉ kind.label.toList := by
    cases kind <;> decide
  have hname : kind.label ++ "/" ++ identity
      = String.ofList (kind.label.toList ++ '/' :: identity.toList) := by
    apply String.toList_inj.mp
    simp
  refine List.mem_flatMap.mpr ⟨kind, hkind, ?_⟩
  rw [List.mem_insertionSort]
  refine List.mem_append_right _ (List.mem_map.mpr ⟨_, List.mem_filter.mpr ⟨hmem, ?_⟩, rfl⟩)
  rw [hname, Text.after_append hlabel, String.ofList_toList, hidentity]
  simp

/-- While the owner has at most as many as the listing can hold, each of them is found. -/
theorem foundPartial_of_few {reported : List String} {kind : SourceKind} {identity : String}
    (hkind : kind ∈ CACHE_KINDS) (hidentity : is_sha256 identity = true)
    (hfew : (owned_names owner disk (scan_cache disk)).length ≤ MAXIMUM_PARTIAL_DIRECTORIES)
    (howned : disk.owner? (kind.label ++ "/" ++ identity) = some owner) :
    FoundPartial owner reported disk (kind.label ++ "/" ++ identity) := by
  obtain ⟨content, hcontent, -⟩ := Option.bind_eq_some_iff.mp howned
  refine ⟨_, List.mem_append_right _ ?_, partial_of_directory_name hkind hidentity⟩
  rw [List.take_of_length_le hfew]
  refine List.mem_map_of_mem (List.mem_filter.mpr ⟨mem_scan_partials hkind hidentity hcontent, ?_⟩)
  simpa using howned

/-- Of more directories than the listing can hold, one is not found. -/
theorem exists_not_foundPartial {keys : List String} (hnodup : keys.Nodup)
    (hmany : MAXIMUM_PARTIAL_DIRECTORIES < keys.length) :
    ∃ key ∈ keys, ¬ FoundPartial owner [] disk key := by
  by_contra hfound
  push Not at hfound
  have hsubset : keys.map some ⊆ ((owned_names owner disk (scan_cache disk)).take
      MAXIMUM_PARTIAL_DIRECTORIES).map partial_of := by
    intro some_key hmem
    obtain ⟨key, hkey, rfl⟩ := List.mem_map.mp hmem
    obtain ⟨name, hname, hof⟩ := hfound key hkey
    exact List.mem_map.mpr ⟨name, by simpa using hname, hof⟩
  have hlength := ((hnodup.map (Option.some_injective _)).subperm hsubset).length_le
  rw [List.length_map, List.length_map] at hlength
  exact absurd (hlength.trans (List.length_take_le _ _)) (not_le.mpr hmany)

end StegoLab

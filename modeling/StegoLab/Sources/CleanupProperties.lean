import StegoLab.Library.Contracts
import StegoLab.Library.Ranking
import StegoLab.Sources.CacheProperties
import StegoLab.Sources.Cleanup

/-!
# What a cleanup keeps

The sweep keeps every entry that a listed raw folder claims, and removes every other one. Folders
that are not listed claim nothing.
-/

namespace StegoLab

open Transaction Program SourceService

variable {checksum : ByteArray → String} {sha256 : List UInt8 → String} {service : SourceService}
  {disk : CacheDisk} {marker : SourceMarker} {identity : String}

/-! ### Used entries -/

/-- A complete entry of the cache, under the directory of its identity. -/
def CompleteEntry (sha256 : List UInt8 → String) (disk : CacheDisk) (entry : CacheEntry) : Prop :=
  cache_directory entry.kind entry.identity = .ok entry.directory ∧
    (disk.entries.get? entry.directory).bind
      (entry_of sha256 entry.directory entry.kind entry.identity true) = some entry

/-- The fetch that wrote the marker has planned an asset that this entry is the cached file of. The
marker has its measured digest; its identity has the expected one, when that was known. -/
def BuiltFrom (checksum : ByteArray → String) (marker : SourceMarker) (entry : CacheEntry) : Prop :=
  ∃ asset ∈ marker.assets, ∃ expected_sha256 : Option String,
    asset.sha256 = some entry.manifest.1.sha256 ∧
      (expected_sha256 = none ∨ expected_sha256 = some entry.manifest.1.sha256) ∧
        entry.identity = asset_identity checksum marker.source_kind marker.reference
          marker.resolved_revision asset.path expected_sha256

/-- A fetch builds its folder from the entries of its assets. -/
lemma builtFrom_build_marker {plan : MaterializationPlan}
    {assets : List (PlannedAsset × CacheEntry)} {asset : PlannedAsset} {entry : CacheEntry}
    (hmem : (asset, entry) ∈ assets)
    (hexpected : asset.expected_sha256 = none ∨
      asset.expected_sha256 = some entry.manifest.1.sha256)
    (hidentity : entry.identity = asset_identity checksum plan.resolved.source_kind
      plan.resolved.reference plan.resolved.resolved_revision asset.path asset.expected_sha256) :
    BuiltFrom checksum (build_marker plan assets) entry :=
  ⟨_, List.mem_map_of_mem hmem, asset.expected_sha256, rfl, hexpected, hidentity⟩

/-- A raw folder with a readable marker. -/
def RawFolderMarker (service : SourceService) (name : String) (marker : SourceMarker) : Prop :=
  name ∈ service.visible_folders ∧
    ∃ folder, service.data_root.get? name = some folder ∧ folder.marker = .readable marker

/-- The data folder can be scanned, and few of its folders come before this one. -/
def Listed (service : SourceService) (name : String) : Prop :=
  service.scannable = true ∧
    (service.visible_folders.countP fun other => other < name) < MAXIMUM_SOURCE_FOLDERS

/-- A listed folder claims the identity. -/
def Claimed (checksum : ByteArray → String) (service : SourceService) (identity : String) : Prop :=
  ∃ name marker, RawFolderMarker service name marker ∧ Listed service name ∧
    identity ∈ marker_identities checksum marker

lemma mem_marker_identities_of_builtFrom {entry : CacheEntry}
    (h : BuiltFrom checksum marker entry) :
    entry.identity ∈ marker_identities checksum marker := by
  obtain ⟨asset, hasset, expected, hmeasured, hexpected, hidentity⟩ := h
  refine List.mem_flatMap.mpr ⟨asset, hasset, ?_⟩
  rw [hidentity]
  refine List.mem_map_of_mem ?_
  rw [expected_digests, if_neg (by simp [hmeasured]), hmeasured]
  rcases hexpected with rfl | rfl
  · simp
  · simp

/-! ### Users -/

lemma extend_users_ne_nil {entry labels : List String} (h : entry ≠ [] ∨ labels ≠ []) :
    extend_users entry labels ≠ [] := by
  induction labels generalizing entry with
  | nil => exact h.resolve_right fun hne => hne rfl
  | cons label labels ih =>
    refine ih (Or.inl ?_)
    dsimp only
    split_ifs with hmem
    · exact List.ne_nil_of_mem hmem
    · simp

/-- An identity has users. -/
def Used (users : Dict (List String)) (identity : String) : Prop :=
  (users.get? identity).getD [] ≠ []

lemma used_add_users {labels : List String} {users : Dict (List String)} {other : String}
    (hlabels : labels ≠ []) :
    Used (add_users labels users other) identity ↔ identity = other ∨ Used users identity := by
  unfold Used add_users
  rw [Dict.get?_insert]
  by_cases h : identity = other
  · have htaken : (extend_users ((users.get? other).getD []) labels).take
        MAXIMUM_USERS_PER_ENTRY ≠ [] := by
      rw [Ne, List.take_eq_nil_iff, not_or]
      exact ⟨by decide, extend_users_ne_nil (Or.inr hlabels)⟩
    simp [h, htaken]
  · simp [h]

lemma used_foldl_add_users {labels identities : List String} {users : Dict (List String)}
    (hlabels : labels ≠ []) :
    Used (identities.foldl (add_users labels) users) identity ↔
      identity ∈ identities ∨ Used users identity := by
  induction identities generalizing users with
  | nil => simp
  | cons other identities ih =>
    rw [List.foldl_cons, ih, used_add_users hlabels, List.mem_cons, or_left_comm, or_assoc]

lemma used_foldl_add_folder {folders : List (String × SourceMarker)} {users : Dict (List String)} :
    Used (folders.foldl (add_folder checksum service) users) identity ↔
      (∃ folder ∈ folders, identity ∈ marker_identities checksum folder.2) ∨
        Used users identity := by
  induction folders generalizing users with
  | nil => simp
  | cons folder folders ih =>
    rw [List.foldl_cons, ih, add_folder, used_foldl_add_users (by simp), List.exists_mem_cons_iff,
      or_left_comm, or_assoc]

lemma mem_source_folders {name : String} :
    name ∈ service.source_folders ↔ name ∈ service.visible_folders ∧ Listed service name := by
  have hsorted : service.visible_folders.Pairwise (· < ·) :=
    service.data_root.sorted.sublist (List.filter_sublist.map Prod.fst)
  unfold source_folders Listed
  by_cases h : service.scannable = true
  · simp [h, Ranking.mem_take_iff hsorted]
  · simp [h]

lemma marker?_eq_some {name : String} : service.marker? name = some marker ↔
    ∃ folder, service.data_root.get? name = some folder ∧ folder.marker = .readable marker := by
  unfold marker?
  constructor
  · intro h
    obtain ⟨folder, hfolder, hread⟩ := Option.bind_eq_some_iff.mp h
    refine ⟨folder, hfolder, ?_⟩
    cases hmarker : folder.marker with
    | missing => simp [hmarker, read_source_marker] at hread
    | unreadable => simp [hmarker, read_source_marker, fail] at hread
    | readable marker => simpa [hmarker, read_source_marker] using hread
  · rintro ⟨folder, hfolder, hmarker⟩
    simp [hfolder, hmarker, read_source_marker]

lemma mem_markers {folder : String × SourceMarker} : folder ∈ service.markers ↔
    RawFolderMarker service folder.1 folder.2 ∧ Listed service folder.1 := by
  unfold markers RawFolderMarker
  rw [List.mem_filterMap]
  constructor
  · rintro ⟨name, hname, hfolder⟩
    obtain ⟨marker, hmarker, rfl⟩ := Option.map_eq_some_iff.mp hfolder
    obtain ⟨hvisible, hlisted⟩ := mem_source_folders.mp hname
    exact ⟨⟨hvisible, marker?_eq_some.mp hmarker⟩, hlisted⟩
  · rintro ⟨⟨hvisible, hmarker⟩, hlisted⟩
    exact ⟨folder.1, mem_source_folders.mpr ⟨hvisible, hlisted⟩,
      Option.map_eq_some_iff.mpr ⟨folder.2, marker?_eq_some.mpr hmarker, rfl⟩⟩

/-- The identities in use are those that listed folders claim. -/
theorem used_in_use : Used (service.in_use checksum) identity ↔
    Claimed checksum service identity := by
  rw [in_use, used_foldl_add_folder]
  constructor
  · rintro (⟨folder, hfolder, hidentity⟩ | hempty)
    · obtain ⟨hmarker, hlisted⟩ := mem_markers.mp hfolder
      exact ⟨folder.1, folder.2, hmarker, hlisted, hidentity⟩
    · exact absurd rfl hempty
  · rintro ⟨name, marker, hmarker, hlisted, hidentity⟩
    exact Or.inl ⟨(name, marker), mem_markers.mpr ⟨hmarker, hlisted⟩, hidentity⟩

/-! ### Scanned entries -/

variable {entry : CacheEntry} {in_use : Dict (List String)} {active_owners : List String}
  {faults : String × Bool → CacheFaults} {content : CacheDirectory} {directory : String × Bool}

lemma CompleteEntry.directory_eq (h : CompleteEntry sha256 disk entry) :
    (is_sha256 entry.identity = true ∧ entry.kind ∈ CACHE_KINDS) ∧
      entry.directory = String.ofList (entry.kind.label.toList ++ '/' :: entry.identity.toList) := by
  obtain ⟨hdirectory, -⟩ := h
  unfold cache_directory at hdirectory
  split_ifs at hdirectory with hkey
  refine ⟨hkey, (Except.ok.inj hdirectory).symm.trans ?_⟩
  apply String.toList_inj.mp
  simp

lemma CompleteEntry.after_directory (h : CompleteEntry sha256 disk entry) :
    Text.after '/' entry.directory = entry.identity := by
  have hlabel : '/' ∉ entry.kind.label.toList := by
    cases entry.kind <;> decide
  rw [h.directory_eq.2, Text.after_append hlabel, String.ofList_toList]

/-- A complete entry is looked up with its own identity, whether or not its manifest is read. -/
lemma CompleteEntry.entry_identity (h : CompleteEntry sha256 disk entry) {readable : Bool} :
    entry_identity entry.directory (disk.entries.get? entry.directory) readable
      = entry.identity := by
  obtain ⟨content, hcontent, hentry⟩ := Option.bind_eq_some_iff.mp h.2
  unfold StegoLab.entry_identity
  rw [hcontent, h.after_directory]
  unfold entry_of at hentry
  split at hentry
  · next manifest hmanifest =>
    split at hentry
    · simp at hentry
    · split_ifs at hentry with hcheck
      simp [hmanifest, hcheck.1.2]
  · simp at hentry

/-- The scan comes to every complete entry. -/
lemma CompleteEntry.mem_scan_cache (h : CompleteEntry sha256 disk entry) :
    (entry.directory, false) ∈ scan_cache disk := by
  obtain ⟨content, hcontent, -⟩ := Option.bind_eq_some_iff.mp h.2
  obtain ⟨⟨hidentity, hkind⟩, hname⟩ := h.directory_eq
  have hmem : (entry.directory, content) ∈ disk.entries.entries :=
    (Dict.lookup_eq_some_iff disk.entries.nodup_keys).mp hcontent
  refine List.mem_flatMap.mpr ⟨entry.kind, hkind, ?_⟩
  rw [List.mem_insertionSort]
  refine List.mem_append_left _ (List.mem_map.mpr ⟨_, List.mem_filter.mpr ⟨hmem, ?_⟩, rfl⟩)
  rw [h.after_directory, hidentity, hname]
  simp

/-! ### The sweep keeps what is claimed -/

/-- The sweep does not touch other entries. -/
lemma keeps_remove_entry {faults : CacheFaults} {name other : String}
    {content : Option CacheDirectory} (hother : name ≠ other) :
    Transaction.Keeps (fun disk => disk.entries.get? name = content)
      (remove_entry faults other) := by
  apply contract_operation
  · intro disk hdisk
    simp [hother, hdisk]
  · intro removed _ _ disk hdisk
    cases hcontent : disk.entries.get? other with
    | none => simp [hdisk]
    | some old => simp [hother, hdisk]

lemma keeps_remove_tree {faults : CacheFaults} {name other : String}
    {content : Option CacheDirectory} :
    Transaction.Keeps (fun disk => disk.entries.get? name = content)
      (remove_tree faults other) := by
  apply contract_operation
  · intro disk hdisk
    exact hdisk
  · intro removed _ _ disk hdisk
    unfold CacheDisk.modify
    split <;> exact hdisk

/-- One round of the sweep keeps an entry in use. -/
lemma keeps_sweep_directory {name : String} {content : Option CacheDirectory}
    (hused : ∀ readable, Used in_use (entry_identity name content readable)) :
    Transaction.Keeps (fun disk => disk.entries.get? name = content)
      (sweep_directory faults in_use active_owners directory) := by
  refine Contract.ite (fun _ => ?_) fun _ => ?_
  · refine keeps_read_partial_record.bind fun record => ?_
    exact .ite (fun _ => .pure fun _ => id) fun _ => keeps_remove_tree
  · refine keeps_tolerate.bind fun readable => ?_
    apply Contract.from_each
    intro disk hdisk
    refine Contract.bind (Q := fun known disk' => known = disk ∧ disk' = disk)
      (.read fun disk' heq => ⟨heq, heq⟩) fun known => Contract.assume ?_
    rintro rfl
    by_cases hname : directory.1 = name
    · subst hname
      rw [if_neg (hdisk ▸ hused readable)]
      exact .pure fun disk' heq => heq ▸ hdisk
    · refine .ite (fun _ => ?_) fun _ => .pure fun disk' heq => heq ▸ hdisk
      exact (keeps_remove_entry (Ne.symm hname)).strengthen fun disk' heq => heq ▸ hdisk

lemma keeps_cache_sweep {name : String} {content : Option CacheDirectory}
    (hused : ∀ readable, Used in_use (entry_identity name content readable))
    (directories : List (String × Bool)) :
    Transaction.Keeps (fun disk => disk.entries.get? name = content)
      (sweep_directories faults in_use active_owners directories) := by
  induction directories with
  | nil => exact .pure fun _ => id
  | cons directory rest ih => exact (keeps_sweep_directory hused).bind fun _ => ih

/-- A cleanup keeps an entry that a listed folder claims, whatever happens to it. -/
lemma keeps_remove_unused {lock : CacheFaults} {name : String} {content : Option CacheDirectory}
    (hclaimed : ∀ readable, Claimed checksum service (entry_identity name content readable)) :
    Transaction.Keeps (fun disk => disk.entries.get? name = content)
      (remove_unused faults checksum service lock) := by
  have hused : ∀ readable, Used (service.in_use checksum) (entry_identity name content readable) :=
    fun readable => used_in_use.mpr (hclaimed readable)
  refine (contract_attempt (fun _ _ _ => id) fun _ _ _ => id).bind fun _ => ?_
  refine (contract_attempt (fun _ _ _ => id) fun _ _ _ => id).bind fun _ => ?_
  refine (contract_inspect fun _ _ _ => id).bind fun _ => ?_
  refine contract_finally ?_ (fun _ => contract_inspect fun _ _ _ => id)
    fun _ => contract_inspect fun _ _ _ => id
  refine (contract_inspect fun _ _ _ => id).bind fun _ => ?_
  exact Contract.bind (Contract.read fun _ => id) fun disk =>
    keeps_cache_sweep hused (scan_cache disk)

/-! ### The sweep removes the rest -/

/-- The owner of a partial download is active. -/
def is_active (active_owners : List String) (content : Option CacheDirectory) : Bool :=
  (content.bind CacheDirectory.record).any fun record => active_owners.contains record.1.owner

/-- What one round of an undisturbed sweep leaves. -/
def swept_cache (in_use : Dict (List String)) (active_owners : List String) (disk : CacheDisk)
    (directory : String × Bool) : CacheDisk :=
  if directory.2 = true then
    if is_active active_owners (disk.partials.get? directory.1) = true then disk
    else { disk with partials := disk.partials.erase directory.1 }
  else if (in_use.get? (entry_identity directory.1 (disk.entries.get? directory.1) true)).getD []
      = [] then { disk with entries := disk.entries.erase directory.1 }
  else disk

lemma sweep_directory_undisturbed :
    sweep_directory (fun _ => {}) in_use active_owners directory disk
      = (.ok (), swept_cache in_use active_owners disk directory) := by
  unfold sweep_directory swept_cache
  split_ifs with hpartial hactive hunused
  · refine (bind_of_ok rfl).trans ?_
    exact congrFun (if_pos hactive) disk
  · refine (bind_of_ok rfl).trans ?_
    exact congrFun (if_neg hactive) disk
  · refine (bind_of_ok rfl).trans ?_
    exact congrFun (if_pos hunused) disk
  · refine (bind_of_ok rfl).trans ?_
    exact congrFun (if_neg hunused) disk

lemma sweep_directories_undisturbed {directories : List (String × Bool)} :
    sweep_directories (fun _ => {}) in_use active_owners directories disk
      = (.ok (), directories.foldl (swept_cache in_use active_owners) disk) := by
  induction directories generalizing disk with
  | nil => rfl
  | cons directory rest ih =>
    rw [sweep_directories, bind_of_ok sweep_directory_undisturbed, ih]
    rfl

/-- A round either keeps an entry, or removes it. -/
lemma swept_get? {name : String} :
    (swept_cache in_use active_owners disk directory).entries.get? name = disk.entries.get? name ∨
      (swept_cache in_use active_owners disk directory).entries.get? name = none := by
  unfold swept_cache
  split_ifs
  · exact Or.inl rfl
  · exact Or.inl rfl
  · by_cases hname : name = directory.1
    · exact Or.inr (by simp [hname])
    · exact Or.inl (by simp [hname])
  · exact Or.inl rfl

lemma foldl_swept_eq_none {name : String} {directories : List (String × Bool)}
    (h : disk.entries.get? name = none) :
    (directories.foldl (swept_cache in_use active_owners) disk).entries.get? name = none := by
  induction directories generalizing disk with
  | nil => exact h
  | cons directory rest ih => exact ih (swept_get?.elim (fun heq => heq.trans h) id)

/-- An undisturbed sweep removes the scanned entries that are not in use. -/
lemma foldl_swept_unused {name : String} {directories : List (String × Bool)}
    (hmem : (name, false) ∈ directories)
    (hunused : ¬ Used in_use (entry_identity name (disk.entries.get? name) true)) :
    (directories.foldl (swept_cache in_use active_owners) disk).entries.get? name = none := by
  induction directories generalizing disk with
  | nil => exact absurd hmem List.not_mem_nil
  | cons directory rest ih =>
    rw [List.foldl_cons]
    rcases List.mem_cons.mp hmem with rfl | hrest
    · refine foldl_swept_eq_none ?_
      rw [swept_cache, if_neg (by simp), if_pos (not_not.mp hunused)]
      simp
    · have hround : (swept_cache in_use active_owners disk directory).entries.get? name
          = disk.entries.get? name ∨ _ := swept_get?
      rcases hround with hkept | hremoved
      · exact ih hrest (hkept.symm ▸ hunused)
      · exact foldl_swept_eq_none hremoved

/-- An undisturbed cleanup removes the complete entries that no listed folder claims. -/
lemma remove_unused_unclaimed (hidle : service.active_fetch_jobs = 0)
    (hready : service.cache_cleanup_in_progress = false) (hentry : CompleteEntry sha256 disk entry)
    (hclaimed : ¬ Claimed checksum service entry.identity) :
    ((remove_unused (fun _ => {}) checksum service {} disk).2).entries.get? entry.directory
      = none := by
  have hrun : remove_unused (fun _ => {}) checksum service {} disk
      = (.ok (), (scan_cache disk).foldl (swept_cache (service.in_use checksum) []) disk) := by
    refine (bind_of_ok (t := disk) (by rw [hidle]; rfl)).trans ?_
    refine (bind_of_ok (t := disk) (by rw [hready]; rfl)).trans ?_
    refine (bind_of_ok inspect_none).trans (finally_do_of_ok ?_ inspect_none)
    exact (bind_of_ok inspect_none).trans sweep_directories_undisturbed
  rw [hrun]
  refine foldl_swept_unused hentry.mem_scan_cache ?_
  rw [hentry.entry_identity, used_in_use]
  exact hclaimed

/-! ### Raw folders keep their entries -/

/-- A raw folder with a readable marker was built from this entry. -/
def BuiltRawFolder (checksum : ByteArray → String) (service : SourceService) (entry : CacheEntry) :
    Prop :=
  ∃ name marker, RawFolderMarker service name marker ∧ BuiltFrom checksum marker entry

/-- Every cleanup, however far it comes, keeps the complete entries that raw folders were built from
if and only if a listed folder claims each of them. -/
theorem cleanup_keeps_entries (checksum : ByteArray → String) (sha256 : List UInt8 → String)
    (data_root : Dict RawFolder) (scannable : Bool) (disk : CacheDisk) :
    (∀ revision_users active_fetch_jobs cache_cleanup_in_progress faults lock outcome after,
      remove_unused faults checksum
          ⟨data_root, scannable, revision_users, active_fetch_jobs, cache_cleanup_in_progress⟩ lock
          disk = (outcome, after) →
        ∀ entry, CompleteEntry sha256 disk entry →
          BuiltRawFolder checksum { data_root, scannable } entry →
            after.entries.get? entry.directory = disk.entries.get? entry.directory) ↔
      ∀ entry, CompleteEntry sha256 disk entry →
        BuiltRawFolder checksum { data_root, scannable } entry →
          Claimed checksum { data_root, scannable } entry.identity := by
  constructor
  · intro hkeeps entry hentry hbuilt
    by_contra hclaimed
    have hremoved := remove_unused_unclaimed rfl rfl hentry hclaimed
    have hkept := hkeeps .empty 0 false (fun _ => {}) {} _ _ rfl entry hentry hbuilt
    have hgone : disk.entries.get? entry.directory = none := hkept.symm.trans hremoved
    obtain ⟨content, hcontent, -⟩ := Option.bind_eq_some_iff.mp hentry.2
    exact absurd (hcontent.symm.trans hgone) (by simp)
  · intro hclaims revision_users active cleaning faults lock outcome after hrun entry hentry hbuilt
    have hclaimed : ∀ readable, Claimed checksum
        ⟨data_root, scannable, revision_users, active, cleaning⟩
        (entry_identity entry.directory (disk.entries.get? entry.directory) readable) := by
      intro readable
      rw [hentry.entry_identity]
      exact hclaims entry hentry hbuilt
    have hkeeps : Transaction.Keeps _ (remove_unused faults checksum _ lock) :=
      keeps_remove_unused hclaimed
    cases outcome with
    | ok _ => exact hkeeps.returns rfl hrun
    | error _ => exact hkeeps.fails rfl hrun

/-! A data folder with one raw folder too many. -/

/-- A digest that only tells paths of even and of odd length apart. -/
def parity_checksum (data : ByteArray) : String :=
  String.ofList (List.replicate 64 (if data.size % 2 = 0 then 'a' else 'b'))

def archive_digest : String :=
  String.ofList (List.replicate 64 'c')

/-- The marker of a folder that was fetched from one archive. -/
def archive_marker (path : String) : SourceMarker where
  source_kind := .https_archive
  source_name := "images"
  reference := "https://example.org/images.zip"
  resolved_revision := "unversioned"
  materialization_identity := archive_digest
  assets := [{ path, size_bytes := some 3, sha256 := some archive_digest }]

/-- The cached file of that archive. -/
def archive_manifest (path : String) : CacheEntryManifest where
  kind := .https_archive
  identity := asset_identity parity_checksum .https_archive "https://example.org/images.zip"
    "unversioned" path none
  reference := "https://example.org/images.zip"
  revision := "unversioned"
  path := path
  basename := path
  size_bytes := 3
  sha256 := archive_digest
  terms_reference := "https://example.org/images.zip"
  created_at := "2025-01-01T00:00:00Z"

/-- Many folders from one archive, and a last one from another. -/
def crowded_folders : List (String × RawFolder) :=
  (List.range (MAXIMUM_SOURCE_FOLDERS + 1)).map fun n =>
    ("raw_" ++ toString (100 + n),
      { marker := .readable
          (archive_marker (if n < MAXIMUM_SOURCE_FOLDERS then "a.zip" else "bb.zip")) })

lemma crowded_sorted : (crowded_folders.map Prod.fst).IsChain (· < ·) := by
  decide +kernel

def crowded : SourceService where
  data_root := ⟨crowded_folders, List.isChain_iff_pairwise.mp crowded_sorted⟩

def last_manifest : ValidManifest :=
  ⟨archive_manifest "bb.zip", by decide +kernel⟩

def last_entry : CacheEntry where
  kind := .https_archive
  identity := last_manifest.1.identity
  directory := "https_archive/" ++ last_manifest.1.identity
  file := "bb.zip"
  manifest := last_manifest

def crowded_cache : CacheDisk where
  entries := Dict.empty.insert last_entry.directory
    { manifest := some (some last_manifest), files := Dict.empty.insert "bb.zip" [1, 2, 3] }

/-- The last folder is behind the limit. -/
lemma last_not_listed : ¬ Listed crowded "raw_300" := by
  rintro ⟨-, hfew⟩
  exact absurd hfew (by decide +kernel)

lemma crowded_markers {name : String} {marker : SourceMarker}
    (hmarker : RawFolderMarker crowded name marker) (hlisted : Listed crowded name) :
    marker = archive_marker "a.zip" := by
  obtain ⟨-, folder, hfolder, hreadable⟩ := hmarker
  have hmem : (name, folder) ∈ crowded_folders :=
    (Dict.lookup_eq_some_iff crowded.data_root.nodup_keys).mp hfolder
  obtain ⟨n, hn, heq⟩ := List.mem_map.mp hmem
  obtain ⟨rfl, rfl⟩ := Prod.mk.inj heq
  obtain rfl := MarkerFile.readable.inj hreadable
  by_cases hfirst : n < MAXIMUM_SOURCE_FOLDERS
  · rw [if_pos hfirst]
  · have hlast : n = MAXIMUM_SOURCE_FOLDERS :=
      le_antisymm (Nat.lt_succ_iff.mp (List.mem_range.mp hn)) (not_lt.mp hfirst)
    subst hlast
    exact absurd hlisted last_not_listed

lemma last_entry_complete : CompleteEntry (fun _ => archive_digest) crowded_cache last_entry :=
  ⟨by decide +kernel, by decide +kernel⟩

lemma last_entry_built : BuiltRawFolder parity_checksum crowded last_entry := by
  refine ⟨"raw_300", archive_marker "bb.zip", ⟨by decide +kernel, ?_⟩, ?_⟩
  · exact ⟨{ marker := .readable (archive_marker "bb.zip") }, by decide +kernel, rfl⟩
  · exact ⟨{ path := "bb.zip", size_bytes := some 3, sha256 := some archive_digest },
      by decide +kernel, none, by decide +kernel, Or.inl rfl, by decide +kernel⟩

lemma last_entry_unclaimed : ¬ Claimed parity_checksum crowded last_entry.identity := by
  rintro ⟨name, marker, hmarker, hlisted, hidentity⟩
  rw [crowded_markers hmarker hlisted] at hidentity
  exact absurd hidentity (by decide +kernel)

/-- The cached file of the last folder is removed. -/
theorem cleanup_misses_last_folder :
    ¬ ∀ (checksum : ByteArray → String) (sha256 : List UInt8 → String) (service : SourceService)
        (disk : CacheDisk) (faults : String × Bool → CacheFaults) (lock : CacheFaults)
        (outcome : Except (Stop FetchException) Unit) (after : CacheDisk),
      remove_unused faults checksum service lock disk = (outcome, after) →
        ∀ entry, CompleteEntry sha256 disk entry → BuiltRawFolder checksum service entry →
          after.entries.get? entry.directory = disk.entries.get? entry.directory := by
  intro hkeeps
  have hremoved := remove_unused_unclaimed rfl rfl last_entry_complete last_entry_unclaimed
  obtain ⟨outcome, after, hrun⟩ : ∃ outcome after, remove_unused (fun _ => {}) parity_checksum
      crowded {} crowded_cache = (outcome, after) := ⟨_, _, Prod.mk.eta.symm⟩
  have hkept := hkeeps _ _ _ _ _ _ _ _ hrun last_entry last_entry_complete last_entry_built
  rw [hrun] at hremoved
  obtain ⟨content, hcontent, -⟩ := Option.bind_eq_some_iff.mp last_entry_complete.2
  exact absurd (hcontent.symm.trans (hkept.symm.trans hremoved)) (by simp)

end StegoLab

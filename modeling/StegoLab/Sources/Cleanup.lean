import StegoLab.Sources.CacheFiles

/-!
# Cleaning up the cache

Which cached files the raw source folders use, and the sweep over the cache that removes the rest.
-/

namespace StegoLab

open Transaction Program

/-! ### Markers -/

/-- One fetched file, with the digest that was measured. -/
structure PlannedAssetRecord where
  path : String
  size_bytes : Option ℕ := none
  sha256 : Option String := none
  deriving DecidableEq

/-- The provenance stored beside materialized raw files, as far as the cache depends on it. -/
structure SourceMarker where
  source_kind : SourceKind
  source_name : String
  reference : String
  resolved_revision : String
  materialization_identity : String
  assets : List PlannedAssetRecord
  deriving DecidableEq

/-- `build_marker`: describe the published folder, with the cached file of every asset. -/
def build_marker (plan : MaterializationPlan) (assets : List (PlannedAsset × CacheEntry)) :
    SourceMarker where
  source_kind := plan.resolved.source_kind
  source_name := plan.source_name
  reference := plan.resolved.reference
  resolved_revision := plan.resolved.resolved_revision
  materialization_identity := plan.identity
  assets := assets.map fun (asset, entry) =>
    { path := asset.path, size_bytes := some entry.manifest.1.size_bytes,
      sha256 := some entry.manifest.1.sha256 }

/-- The marker file of a folder. -/
inductive MarkerFile where
  | missing
  | unreadable
  | readable (marker : SourceMarker)
  deriving DecidableEq

/-- `read_source_marker`: a missing marker is not an error. -/
def read_source_marker : MarkerFile → Except Raised (Option SourceMarker)
  | .missing => .ok none
  | .unreadable => fail
    { code := "source_marker_invalid"
      message := "The provenance marker of this source folder could not be read. "
        ++ "Fetch the source again or choose another folder."
      status_code := 422 }
  | .readable marker => .ok (some marker)

/-! ### Raw folders -/

/-- One entry of the data folder: whether it is a real directory, and its marker. -/
structure RawFolder where
  is_directory : Bool := true
  marker : MarkerFile
  deriving DecidableEq

def MAXIMUM_SOURCE_FOLDERS : ℕ := 200
def MAXIMUM_USERS_PER_ENTRY : ℕ := 200

/-- What the service reads: the data folder, whether it can be scanned, the prepared revisions of
every materialization, and the fetch jobs and cleanups that are under way. -/
structure SourceService where
  data_root : Dict RawFolder
  scannable : Bool := true
  revision_users : Dict (List String) := .empty
  active_fetch_jobs : ℕ := 0
  cache_cleanup_in_progress : Bool := false

namespace SourceService

variable (checksum : ByteArray → String) (service : SourceService)

/-- The visible real subfolders of the data folder, sorted. -/
def visible_folders : List String :=
  (service.data_root.entries.filter fun folder =>
    folder.2.is_directory && folder.1.toList.head? != some '.').map Prod.fst

/-- `source_folders`: the visible real subfolders, sorted and bounded; none when the scan fails. -/
def source_folders : List String :=
  if service.scannable = true then service.visible_folders.take MAXIMUM_SOURCE_FOLDERS else []

/-- The readable marker of a folder. -/
def marker? (name : String) : Option SourceMarker :=
  (service.data_root.get? name).bind fun folder =>
    match read_source_marker folder.marker with
    | .ok marker => marker
    | .error _ => none

/-- `_markers`: the folders that carry a readable provenance marker. -/
def markers : List (String × SourceMarker) :=
  service.source_folders.filterMap fun name => (service.marker? name).map fun marker =>
    (name, marker)

/-- Both digests that the identity of an asset may have been named with. -/
def expected_digests (asset : PlannedAssetRecord) : List (Option String) :=
  if asset.sha256 = none then [none] else [asset.sha256, none]

/-- The identities that a marker claims. -/
def marker_identities (marker : SourceMarker) : List String :=
  marker.assets.flatMap fun asset => (expected_digests asset).map
    (asset_identity checksum marker.source_kind marker.reference marker.resolved_revision asset.path)

/-- `entry.extend(label for label in labels if label not in entry)`. -/
def extend_users (entry labels : List String) : List String :=
  labels.foldl (fun entry label => if label ∈ entry then entry else entry ++ [label]) entry

/-- Add the users of one identity, up to the limit. -/
def add_users (labels : List String) (users : Dict (List String)) (identity : String) :
    Dict (List String) :=
  users.insert identity
    ((extend_users ((users.get? identity).getD []) labels).take MAXIMUM_USERS_PER_ENTRY)

/-- The users that one folder adds. -/
def add_folder (users : Dict (List String)) (folder : String × SourceMarker) : Dict (List String) :=
  let labels := ("data/" ++ folder.1)
    :: (service.revision_users.get? folder.2.materialization_identity).getD []
  (marker_identities checksum folder.2).foldl (add_users labels) users

/-- `in_use`: map cached file identities to the raw folders and revisions using them. -/
def in_use : Dict (List String) :=
  service.markers.foldl (add_folder checksum service) .empty

end SourceService

/-! ### The sweep -/

/-- The name of a scanned directory. -/
def directory_name (directory : String × Bool) : String :=
  if directory.2 then directory.1 ++ ".partial" else directory.1

/-- The well-named directories of one kind. -/
def scan_kind (kind : SourceKind) (directories : Dict CacheDirectory) ( is_partial : Bool) :
    List (String × Bool) :=
  (directories.entries.filter fun entry =>
    (kind.label ++ "/").toList.isPrefixOf entry.1.toList &&
      is_sha256 (Text.after '/' entry.1)).map fun entry => (entry.1, is_partial)

/-- `scan_cache`: every well-named cache directory, and whether it is a partial one. -/
def scan_cache (disk : CacheDisk) : List (String × Bool) :=
  CACHE_KINDS.flatMap fun kind =>
    (scan_kind kind disk.entries false ++ scan_kind kind disk.partials true).insertionSort
      fun a b => directory_name a ≤ directory_name b

section Sweep

variable (faults : String × Bool → CacheFaults)

/-- `remove_tree` on a complete directory. -/
def remove_entry (faults : CacheFaults) (directory : String) : CacheProgram Unit :=
  operation faults.remove_tree (.cache "cache_storage")
    (fun removed disk =>
      match disk.entries.get? directory with
      | none => disk
      | some content =>
        { disk with entries := disk.entries.insert directory (removed.remove content) })
    fun disk => { disk with entries := disk.entries.erase directory }

/-- The identity that a complete directory is looked up with: the one of its manifest, or its name
when that cannot be read. -/
def entry_identity (directory : String) (content : Option CacheDirectory) (readable : Bool) :
    String :=
  match content.bind CacheDirectory.manifest with
  | some (some manifest) => if readable then manifest.1.identity else Text.after '/' directory
  | _ => Text.after '/' directory

/-- One round of the loop of `clear_unused_entries`. -/
def sweep_directory (in_use : Dict (List String)) (active_owners : List String)
    (directory : String × Bool) : CacheProgram Unit := do
  if directory.2 = true then do
    let record ← read_partial_record (faults directory) directory.1
    if record.any (fun record => active_owners.contains record.1.owner) = true then return ()
    else remove_tree (faults directory) directory.1
  else do
    let readable ← tolerate (faults directory).read_manifest fun _ => true
    let disk ← read
    let identity := entry_identity directory.1 (disk.entries.get? directory.1) readable
    if (in_use.get? identity).getD [] = [] then remove_entry (faults directory) directory.1
    else return ()

/-- The loop of `clear_unused_entries`. -/
def sweep_directories (in_use : Dict (List String)) (active_owners : List String) :
    List (String × Bool) → CacheProgram Unit
  | [] => return ()
  | directory :: rest => do
    sweep_directory faults in_use active_owners directory
    sweep_directories in_use active_owners rest

/-- `clear_unused`: delete entries nobody uses and partials whose owner is no longer active. -/
def clear_unused (lock : CacheFaults) (in_use : Dict (List String)) (active_owners : List String) :
    CacheProgram Unit :=
  cache_locked lock (do
    inspect lock.look .os_error
    let disk ← read
    sweep_directories faults in_use active_owners (scan_cache disk))

def SourceService.cache_busy : ApplicationFailure where
  code := "cache_busy"
  message := "A dataset download is queued, running, or paused. Wait for it to "
    ++ "finish or cancel it first."
  status_code := 409

def dataset_cleanup_busy : ApplicationFailure where
  code := "dataset_cleanup_busy"
  message := "Unused downloads are being removed right now. Wait for the cleanup "
    ++ "to finish, then try again."
  status_code := 409

/-- `remove_unused`: delete cached files nobody uses, unless a fetch job could need them. -/
def remove_unused (checksum : ByteArray → String) (service : SourceService)
    (lock : CacheFaults) : CacheProgram Unit := do
  attempt (raise_if (service.active_fetch_jobs ≠ 0) (.application SourceService.cache_busy))
  attempt (raise_if (service.cache_cleanup_in_progress = true) (.application dataset_cleanup_busy))
  clear_unused faults lock (service.in_use checksum) []

end Sweep

end StegoLab

import StegoLab.Sources.Transfer

/-!
# The download cache

Opening, recording, sealing and dropping the partial downloads of the cache, and the files that it
imports without a network.
-/

namespace StegoLab

open Transaction Program

/-- One unfinished download owned by a job, with its resumable file. -/
structure CachePartial where
  kind : SourceKind
  identity : String
  directory : String
  file : PartialFile
  record : ValidPartialRecord
  path : String

def MAXIMUM_IMPORT_BYTES : ℕ := 2 * 1024 ^ 3

namespace DatasetCache

variable (faults : CacheFaults)

/-! ### Opening -/

/-- `cache_directory` for a partial download, and its part file. -/
def part_file (kind : SourceKind) (identity : String) (asset : PlannedAsset) :
    Except FetchException PartialFile := do
  let directory ← cache_directory kind identity
  return { directory, name := cache_basename asset.path ++ PART_SUFFIX }

/-- The record describes a download of this asset. -/
def describes (asset : PlannedAsset) (record : ValidPartialRecord) : Bool :=
  decide ((record.1.expected_sha256, record.1.expected_size, record.1.etag)
    = (asset.expected_sha256, asset.expected_size, asset.etag))

/-- The partial download that is there can be continued. -/
def adoptable (file : PartialFile) (asset : PlannedAsset) : CacheProgram Bool := do
  let existing ← read_partial_record faults file.directory
  let regular ← tolerate faults.regular fun disk => (disk.part? file.directory file.name).isSome
  return regular && existing.any (describes asset)

/-- What is there and cannot be continued is removed. -/
def drop_unadoptable (adopted : Bool) (directory : String) : CacheProgram Unit := do
  inspect faults.look .os_error
  let disk ← read
  if adopted = false ∧ (disk.partials.get? directory).isSome = true then
    remove_tree faults directory
  else return ()

/-- `directory_descriptor` with `create`. -/
def create_directory (directory : String) : CacheProgram Unit :=
  atomically faults.create_directory .dataset_access fun disk =>
    { disk with partials :=
        disk.partials.insert directory ((disk.partials.get? directory).getD {}) }

/-- The record of a download of this asset. -/
def new_record (asset : PlannedAsset) (owner : String) (received : ℕ) (updated_at : String) :
    Except FetchException ValidPartialRecord :=
  validated CachePartialRecord.Valid {
    owner
    bytes_received := received
    expected_size := asset.expected_size
    expected_sha256 := asset.expected_sha256
    etag := asset.etag
    updated_at }

/-- `open_partial`: adopt a matching partial download or start a new one for this owner. -/
def open_partial (disk_usage : Option DiskUsage) (updated_at : String) (kind : SourceKind)
    (identity : String) (asset : PlannedAsset) (owner : String) : CacheProgram CachePartial := do
  let file ← attempt (part_file kind identity asset)
  let record ← cache_locked faults (do
    let adopted ← adoptable faults file asset
    drop_unadoptable faults adopted file.directory
    let received ← (if adopted = true then file.size faults else pure 0)
    attempt ((ensure_disk_reserve disk_usage (asset.expected_size.getD 0 - received)).mapError
      .raised)
    create_directory faults file.directory
    let record ← attempt (new_record asset owner received updated_at)
    write_partial_record faults file.directory record
    return record)
  return { kind, identity, directory := file.directory, file, record, path := asset.path }

/-- `update_partial`: record how many bytes the part file now holds. -/
def update_partial (updated_at : String) (opened : CachePartial) (bytes_received : ℕ) :
    CacheProgram CachePartial := do
  let record ← attempt (validated CachePartialRecord.Valid
    { opened.record.1 with bytes_received, updated_at })
  cache_locked faults (write_partial_record faults opened.directory record)
  return { opened with record }

/-! ### Publishing -/

/-- `_discard`: remove a partial download that can never complete. -/
def discard {α : Type} (opened : CachePartial) (code : String) : CacheProgram α := do
  cache_locked faults (remove_tree faults opened.directory)
  raise (.cache code)

/-- `_adopt_existing`: an entry that appeared meanwhile; a damaged one is refused. -/
def adopt_existing (sha256 : List UInt8 → String) (directory : String) (kind : SourceKind)
    (identity : String) : CacheProgram (Option CacheEntry) := do
  inspect faults.adopt .os_error
  let disk ← read
  if (disk.entries.get? directory).isNone = true then return none
  else do
    match ← load_entry faults sha256 directory kind identity true with
    | none => raise (.cache "cache_entry_corrupt")
    | some entry => return some entry

/-- `_seal_partial`: rename the part file to its final name and drop the record. -/
def seal_partial (opened : CachePartial) (basename : String) : CacheProgram Unit := do
  let disk ← read
  match disk.part? opened.directory opened.file.name with
  | none => raise .dataset_access
  | some data =>
    atomically faults.rename_part .dataset_access fun disk =>
      disk.modify opened.directory fun content =>
        { content with files := (content.files.erase opened.file.name).insert basename data }
    atomically faults.unlink_record .dataset_access fun disk =>
      disk.modify opened.directory fun content => { content with record := none }
    inspect faults.flush_sealed .dataset_access

/-- `publish_directory`: move a complete directory where no entry is yet. -/
def publish_directory (directory : String) : CacheProgram Unit := do
  let disk ← read
  match disk.partials.get? directory with
  | none => raise (.application (dataset_failure "dataset_storage"))
  | some content => do
    attempt (raise_if ((disk.entries.get? directory).isSome = true)
      (FetchException.application (dataset_failure "dataset_exists")))
    atomically faults.publish (.application (dataset_failure "dataset_storage")) fun disk =>
      { entries := disk.entries.insert directory content
        partials := disk.partials.erase directory }

/-- An entry that is there already takes the place of the partial download. -/
def reuse_existing (opened : CachePartial) (existing : CacheEntry) : CacheProgram CacheEntry := do
  remove_tree faults opened.directory
  return existing

/-- Publish the sealed directory, or adopt the entry that is in its way. -/
def publish_sealed (sha256 : List UInt8 → String) (opened : CachePartial) :
    CacheProgram (Option CacheEntry) :=
  catching (do
      publish_directory faults opened.directory
      return none)
    fun e =>
      if e = .application (dataset_failure "dataset_exists") then
        adopt_existing faults sha256 opened.directory opened.kind opened.identity
      else raise e

/-- The part of `complete` under the lock: the entry that is there, or the sealed one. -/
def publish (sha256 : List UInt8 → String) (opened : CachePartial) (basename : String)
    (manifest : ValidManifest) : CacheProgram CacheEntry := do
  match ← adopt_existing faults sha256 opened.directory opened.kind opened.identity with
  | some existing => reuse_existing faults opened existing
  | none => do
    seal_partial faults opened basename
    write_manifest_file faults opened.directory manifest
    match ← publish_sealed faults sha256 opened with
    | some existing => reuse_existing faults opened existing
    | none => return {
        kind := opened.kind
        identity := opened.identity
        directory := opened.directory
        file := basename
        manifest }

/-- Where a published file came from. -/
structure Provenance where
  reference : String
  revision : String
  terms_reference : String
  created_at : String

/-- The manifest of a sealed file. -/
def entry_manifest (opened : CachePartial) (basename : String) (outcome : DownloadOutcome)
    (provenance : Provenance) : Except FetchException ValidManifest :=
  validated CacheEntryManifest.Valid {
    kind := opened.kind
    identity := opened.identity
    reference := provenance.reference
    revision := provenance.revision
    path := if opened.path = "" then basename else opened.path
    basename
    size_bytes := outcome.size
    sha256 := outcome.sha256
    etag := opened.record.1.etag
    terms_reference := provenance.terms_reference
    created_at := provenance.created_at }

/-- `complete`: verify the finished partial download and publish it as an immutable entry. -/
def complete (sha256 : List UInt8 → String) (opened : CachePartial) (outcome : DownloadOutcome)
    (provenance : Provenance) : CacheProgram CacheEntry := do
  if ∃ expected ∈ opened.record.1.expected_sha256,
      expected ≠ "" ∧ outcome.sha256 ≠ Text.lower expected then
    discard faults opened "cache_checksum_mismatch"
  else if ∃ size ∈ opened.record.1.expected_size, outcome.size ≠ size then
    discard faults opened "cache_size_mismatch"
  else do
    let regular ← tolerate faults.regular fun disk =>
      (disk.part? opened.directory opened.file.name).isSome
    let size ← opened.file.size faults
    attempt (raise_if (regular = false ∨ size ≠ outcome.size) (.cache "cache_storage"))
    let basename := cache_basename opened.path
    attempt (raise_if (is_reserved_name basename = true) (.cache "cache_key"))
    let manifest ← attempt (entry_manifest opened basename outcome provenance)
    cache_locked faults (publish faults sha256 opened basename manifest)

/-! ### Importing -/

/-- The loop of `import_file` over what is read of the file to import. -/
def copy_chunks (file : PartialFile) (limit : ℕ) :
    List (List UInt8) → ℕ → List UInt8 → CacheProgram (ℕ × List UInt8)
  | [], total, digested => return (total, digested)
  | chunk :: rest, total, digested => do
    let total := total + chunk.length
    attempt (raise_if (limit < total) (.cache "cache_too_large"))
    file.append (faults.append total) chunk
    copy_chunks file limit rest total (digested ++ chunk)

/-- The copy of `import_file`; `none` is a file that cannot be opened. -/
def copy_file (file : PartialFile) (limit : ℕ) (source : Option (List (List UInt8))) :
    CacheProgram (ℕ × List UInt8) := do
  let _ ← file.open_for_append faults
  file.truncate faults
  match source with
  | none => raise .os_error
  | some chunks => copy_chunks faults file limit chunks 0 []

/-- `import_file`: copy a local file into the cache, hashing it, then publish the entry. -/
def import_file (sha256 : List UInt8 → String) (disk_usage : Option DiskUsage)
    (updated_at : String) (kind : SourceKind) (identity : String) (asset : PlannedAsset)
    (source : Option (List (List UInt8))) (owner : String) (provenance : Provenance) :
    CacheProgram CacheEntry := do
  let limit := asset.expected_size.getD MAXIMUM_IMPORT_BYTES
  let opened ← open_partial faults disk_usage updated_at kind identity asset owner
  let (total, digested) ← catching (copy_file faults opened.file limit source) fun e => do
    PartialFile.close faults
    match e with
    | .raised .os_error => discard faults opened "cache_storage"
    | .raised (.application failure) => discard faults opened failure.code
    | e => raise e
  PartialFile.close faults
  complete faults sha256 opened { size := total, sha256 := sha256 digested, resumed_from := 0 }
    provenance

/-! ### Dropping -/

/-- `remove_partial`: delete a partial download, but only on behalf of its owner. -/
def remove_partial (kind : SourceKind) (identity owner : String) : CacheProgram Bool := do
  let directory ← attempt (cache_directory kind identity)
  cache_locked faults (do
    let record ← read_partial_record faults directory
    if record.any (fun record => record.1.owner = owner) = true then do
      remove_tree faults directory
      return true
    else return false)

/-- `find_complete`: the verified entry of an identity. -/
def find_complete (sha256 : List UInt8 → String) (kind : SourceKind) (identity : String)
    (verify_bytes : Bool) : CacheProgram (Option CacheEntry) := do
  let directory ← attempt (cache_directory kind identity)
  load_entry faults sha256 directory kind identity verify_bytes

end DatasetCache

end StegoLab

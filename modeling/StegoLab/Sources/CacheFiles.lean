import StegoLab.Datasets.Preparation
import StegoLab.Library.Crashes
import StegoLab.Sources.Plans
import StegoLab.Storage.DiskReserve

/-!
# Cache files

The directory tree of the download cache, its records, and its file operations. Each operation can
fail or be cut short by a crash; neighbouring operations without an effect on what is read later
share one fault.
-/

namespace StegoLab

open Transaction Program

/-! ### Exceptions -/

/-- The exceptions that can leave a fetch: those of any function, and `DownloadStopped`. -/
inductive FetchException where
  | raised (exception : Raised)
  | download_stopped
  deriving DecidableEq, Repr

def FetchException.application (failure : ApplicationFailure) : FetchException :=
  .raised (.application failure)

def FetchException.os_error : FetchException :=
  .raised .os_error

/-- `directory_descriptor` turns an `OSError` inside its block into this failure. -/
def FetchException.dataset_access : FetchException :=
  .application (dataset_failure "dataset_access")

def cache_messages : String → String
  | "cache_storage" => "The download cache could not be read or written. "
    ++ "Check access and free space, then retry."
  | "cache_key" => "The cache key is not valid. This is an internal error."
  | "cache_checksum_mismatch" => "The downloaded file does not match its expected checksum. "
    ++ "The partial download was removed; retry the fetch."
  | "cache_size_mismatch" => "The downloaded file does not have its expected size. "
    ++ "The partial download was removed; retry the fetch."
  | "cache_too_large" => "The file to import is larger than the allowed size."
  | _ => "A cached file is damaged. Clear the download cache and retry."

def cache_failure (code : String) : ApplicationFailure where
  code := code
  message := cache_messages code
  status_code := if code = "cache_too_large" then 400 else 502

def FetchException.cache (code : String) : FetchException :=
  .application (cache_failure code)

/-! ### Records -/

/-- What one verified cached file is and where it came from. -/
structure CacheEntryManifest where
  kind : SourceKind
  identity : String
  reference : String
  revision : String
  path : String
  basename : String
  size_bytes : ℕ
  sha256 : String
  etag : Option String := none
  terms_reference : String
  created_at : String
  deriving DecidableEq

/-- An unfinished download, so that the owning job can resume or drop it. -/
structure CachePartialRecord where
  owner : String
  bytes_received : ℕ
  expected_size : Option ℕ := none
  expected_sha256 : Option String := none
  etag : Option String := none
  updated_at : String
  deriving DecidableEq

def CACHE_KINDS : List SourceKind := [.hugging_face, .https_archive, .upload]

def text_length (minimum maximum : ℕ) (text : String) : Prop :=
  minimum ≤ text.length ∧ text.length ≤ maximum

instance {minimum maximum : ℕ} {text : String} : Decidable (text_length minimum maximum text) :=
  inferInstanceAs (Decidable (_ ∧ _))

def name_character (c : Char) : Bool :=
  c.isAlphanum || c == '.' || c == '_' || c == '-'

/-- The pattern `^[A-Za-z0-9][A-Za-z0-9._-]{0,254}$`. -/
def basename_pattern (name : String) : Bool :=
  match name.toList with
  | [] => false
  | first :: rest => first.isAlphanum && decide (rest.length ≤ 254) && rest.all name_character

/-- The pattern `^[a-z0-9_]{1,64}$`. -/
def owner_pattern (owner : String) : Bool :=
  decide (text_length 1 64 owner) && owner.toList.all fun c =>
    ('a' ≤ c && c ≤ 'z') || c.isDigit || c == '_'

/-- What the manifest's own validation accepts. -/
def CacheEntryManifest.Valid (manifest : CacheEntryManifest) : Prop :=
  manifest.kind ∈ CACHE_KINDS ∧ is_sha256 manifest.identity = true ∧
    text_length 1 4096 manifest.reference ∧ text_length 1 128 manifest.revision ∧
    relative_path manifest.path = true ∧ basename_pattern manifest.basename = true ∧
    manifest.size_bytes ≤ MAXIMUM_DOWNLOAD_BYTES ∧ is_sha256 manifest.sha256 = true ∧
    (∀ etag ∈ manifest.etag, text_length 0 256 etag) ∧
    text_length 1 4096 manifest.terms_reference ∧ text_length 1 64 manifest.created_at

/-- What the partial record's own validation accepts. -/
def CachePartialRecord.Valid (record : CachePartialRecord) : Prop :=
  owner_pattern record.owner = true ∧ record.bytes_received ≤ MAXIMUM_DOWNLOAD_BYTES ∧
    (∀ size ∈ record.expected_size, size ≤ MAXIMUM_DOWNLOAD_BYTES) ∧
    (∀ digest ∈ record.expected_sha256, is_sha256 digest = true) ∧
    (∀ etag ∈ record.etag, text_length 0 256 etag) ∧ text_length 1 64 record.updated_at

instance CacheEntryManifest.decidable_valid (manifest : CacheEntryManifest) :
    Decidable manifest.Valid :=
  inferInstanceAs (Decidable (_ ∧ _))

instance CachePartialRecord.decidable_valid (record : CachePartialRecord) :
    Decidable record.Valid :=
  inferInstanceAs (Decidable (_ ∧ _))

/-- A manifest that passed its validation. -/
abbrev ValidManifest : Type :=
  { manifest : CacheEntryManifest // manifest.Valid }

/-- A partial record that passed its validation. -/
abbrev ValidPartialRecord : Type :=
  { record : CachePartialRecord // record.Valid }

/-- Building a record validates it. -/
def validated {Record : Type} (Valid : Record → Prop) [DecidablePred Valid] (record : Record) :
    Except FetchException { record : Record // Valid record } :=
  if h : Valid record then .ok ⟨record, h⟩ else .error (.raised .value_error)

/-! ### Names -/

def MANIFEST_NAME : String := "cache_manifest.json"
def PARTIAL_NAME : String := "partial.json"
def LOCK_NAME : String := ".cache.lock"
def PART_SUFFIX : String := ".part"
def RESERVED_PREFIX : String := "asset_"
def RESERVED_NAMES : List String := [MANIFEST_NAME, PARTIAL_NAME, LOCK_NAME]

/-- `is_reserved_name`: the name would collide with the records of the cache. -/
def is_reserved_name (name : String) : Bool :=
  RESERVED_NAMES.contains name || MANIFEST_NAME.toList.isPrefixOf name.toList
    || PARTIAL_NAME.toList.isPrefixOf name.toList

/-- `cache_basename`: turn the last segment of a path into a plain file name. -/
def cache_basename (path : String) : String :=
  let simplified := (Text.last '/' path).toList.map fun c => if name_character c then c else '_'
  let stripped := simplified.dropWhile fun c => c == '.' || c == '_' || c == '-'
  let named := String.ofList ((if stripped = [] then "asset".toList else stripped).take 255)
  if is_reserved_name named then String.ofList ((RESERVED_PREFIX ++ named).toList.take 255)
  else named

/-- `cache_directory`: the complete and the partial directory of an identity have the same name but
for a suffix, and are kept apart in the tree. -/
def cache_directory (kind : SourceKind) (identity : String) : Except FetchException String :=
  if is_sha256 identity = true ∧ kind ∈ CACHE_KINDS then .ok (kind.label ++ "/" ++ identity)
  else .error (.cache "cache_key")

/-! ### The tree -/

/-- One directory of the cache: its two records, and its data files. A manifest that was cut short
cannot be parsed. -/
structure CacheDirectory where
  record : Option ValidPartialRecord := none
  manifest : Option (Option ValidManifest) := none
  files : Dict (List UInt8) := .empty
  deriving DecidableEq

/-- The tree under the cache root: complete entries and partial downloads, by their name. -/
structure CacheDisk where
  entries : Dict CacheDirectory := .empty
  partials : Dict CacheDirectory := .empty
  deriving DecidableEq

namespace CacheDisk

/-- Change a partial directory, if it is there. -/
def modify (disk : CacheDisk) (directory : String) (f : CacheDirectory → CacheDirectory) :
    CacheDisk :=
  match disk.partials.get? directory with
  | none => disk
  | some content => { disk with partials := disk.partials.insert directory (f content) }

/-- A data file of a partial directory. -/
def part? (disk : CacheDisk) (directory name : String) : Option (List UInt8) :=
  (disk.partials.get? directory).bind fun content => content.files.get? name

end CacheDisk

/-! ### Faults -/

/-- What `shutil.rmtree` has removed of a directory when it stops. -/
structure RemovedCacheFiles where
  record : Bool := false
  manifest : Bool := false
  files : List String := []

def RemovedCacheFiles.remove (removed : RemovedCacheFiles) (directory : CacheDirectory) :
    CacheDirectory where
  record := if removed.record then none else directory.record
  manifest := if removed.manifest then none else directory.manifest
  files := removed.files.foldl Dict.erase directory.files

/-- What happens to each file operation of one call. -/
structure CacheFaults where
  lock : Fault Unit := .none
  unlock : Fault Unit := .none
  read_manifest : Fault Unit := .none
  verify : Fault Unit := .none
  read_record : Fault Unit := .none
  regular : Fault Unit := .none
  look : Fault Unit := .none
  remove_tree : Fault RemovedCacheFiles := .none
  part_size : Fault Unit := .none
  create_directory : Fault Unit := .none
  write_record : Fault Unit := .none
  replace_record : Fault Unit := .none
  flush_record : Fault Unit := .none
  open_part : Fault Unit := .none
  truncate_part : Fault Unit := .none
  read_part : Fault Unit := .none
  append : ℕ → Fault ℕ := fun _ => .none
  progress : ℕ → Fault Unit := fun _ => .none
  close_part : Fault Unit := .none
  read_source : ℕ → Fault Unit := fun _ => .none
  rename_part : Fault Unit := .none
  unlink_record : Fault Unit := .none
  flush_sealed : Fault Unit := .none
  create_manifest : Fault Unit := .none
  write_manifest : Fault Unit := .none
  publish : Fault Unit := .none
  adopt : Fault Unit := .none

/-- A program over the tree of the cache. -/
abbrev CacheProgram (α : Type) : Type :=
  Program CacheDisk FetchException α

/-! ### Records on disk -/

variable (faults : CacheFaults)

/-- An operation whose `OSError` counts as an answer; a crash still stops the program. -/
def tolerate (fault : Fault Unit) (answer : CacheDisk → Bool) : CacheProgram Bool := do
  let disk ← read
  catching (do inspect fault FetchException.os_error; return answer disk) fun _ => return false

/-- `read_partial_record`: a record that cannot be read is none. -/
def read_partial_record (directory : String) : CacheProgram (Option ValidPartialRecord) := do
  let readable ← tolerate faults.read_record fun _ => true
  let disk ← read
  if readable then return (disk.partials.get? directory).bind CacheDirectory.record
  else return none

/-- `write_partial_record`: replace the record through a temporary file. -/
def write_partial_record (directory : String) (record : ValidPartialRecord) :
    CacheProgram Unit := do
  inspect faults.write_record .dataset_access
  let disk ← read
  if (disk.partials.get? directory).isNone then raise .dataset_access
  else do
    atomically faults.replace_record .dataset_access fun disk =>
      disk.modify directory fun content => { content with record := some record }
    inspect faults.flush_record .dataset_access

/-- `write_manifest_file`: write the manifest once, to a new file. -/
def write_manifest_file (directory : String) (manifest : ValidManifest) : CacheProgram Unit := do
  let disk ← read
  match disk.partials.get? directory with
  | none => raise .dataset_access
  | some content =>
    if content.manifest.isSome then raise .dataset_access
    else do
      atomically faults.create_manifest .dataset_access fun disk =>
        disk.modify directory fun content => { content with manifest := some none }
      atomically faults.write_manifest .dataset_access fun disk =>
        disk.modify directory fun content => { content with manifest := some (some manifest) }

/-- `remove_tree` on a partial directory. -/
def remove_tree (directory : String) : CacheProgram Unit :=
  operation faults.remove_tree (.cache "cache_storage")
    (fun removed disk => disk.modify directory removed.remove)
    fun disk => { disk with partials := disk.partials.erase directory }

/-- `cache_lock`. -/
def cache_locked {α : Type} (program : CacheProgram α) : CacheProgram α := do
  inspect faults.lock .os_error
  finally_do program (inspect faults.unlock .os_error)

/-! ### Entries -/

/-- One verified cached file and the manifest that describes it. -/
structure CacheEntry where
  kind : SourceKind
  identity : String
  directory : String
  file : String
  manifest : ValidManifest
  deriving DecidableEq

/-- The checks of `load_entry` on a directory. -/
def entry_of (sha256 : List UInt8 → String) (directory : String) (kind : SourceKind)
    (identity : String) (verify_bytes : Bool) (content : CacheDirectory) : Option CacheEntry :=
  match content.manifest with
  | some (some manifest) =>
    match content.files.get? manifest.1.basename with
    | none => none
    | some data =>
      if (manifest.1.kind = kind ∧ manifest.1.identity = identity) ∧
          data.length = manifest.1.size_bytes ∧
          (verify_bytes = true → sha256 data = manifest.1.sha256) then
        some { kind, identity, directory, file := manifest.1.basename, manifest }
      else none
  | _ => none

/-- `load_entry`: validate the manifest, the size and optionally the checksum of an entry. -/
def load_entry (sha256 : List UInt8 → String) (directory : String) (kind : SourceKind)
    (identity : String) (verify_bytes : Bool) : CacheProgram (Option CacheEntry) := do
  let readable ← tolerate faults.read_manifest fun _ => true
  let verified ← tolerate faults.verify fun _ => true
  let disk ← read
  if readable && verified then
    return (disk.entries.get? directory).bind
      (entry_of sha256 directory kind identity verify_bytes)
  else return none

/-! ### Part files -/

/-- `PartialFile`: one `.part` file, by its directory and name. -/
structure PartialFile where
  directory : String
  name : String
  deriving DecidableEq

namespace PartialFile

variable (file : PartialFile)

/-- Replace the bytes of the file. -/
def put (data : List UInt8) (disk : CacheDisk) : CacheDisk :=
  disk.modify file.directory fun content =>
    { content with files := content.files.insert file.name data }

/-- `size`: nothing when the file is absent. -/
def size : CacheProgram ℕ := do
  inspect faults.part_size .os_error
  let disk ← read
  return ((disk.part? file.directory file.name).getD []).length

/-- `open_for_append`: create the file when it is absent, and return its size. -/
def open_for_append : CacheProgram ℕ := do
  let disk ← read
  if (disk.partials.get? file.directory).isNone then raise .os_error
  else do
    atomically faults.open_part .os_error fun disk =>
      file.put ((disk.part? file.directory file.name).getD []) disk
    size faults file

/-- `append`: write one chunk at the end of the file. -/
def append (fault : Fault ℕ) (chunk : List UInt8) : CacheProgram Unit :=
  operation fault .os_error
    (fun n disk => file.put ((disk.part? file.directory file.name).getD [] ++ chunk.take n) disk)
    fun disk => file.put ((disk.part? file.directory file.name).getD [] ++ chunk) disk

/-- `truncate`. -/
def truncate : CacheProgram Unit :=
  atomically faults.truncate_part .os_error (file.put [])

/-- `iter_existing`: at most `limit` bytes from the start of the file. -/
def iter_existing (limit : ℕ) : CacheProgram (List UInt8) := do
  inspect faults.read_part .os_error
  let disk ← read
  match disk.part? file.directory file.name with
  | none => raise .os_error
  | some data => return data.take limit

/-- `close`: flush the appended bytes. -/
def close : CacheProgram Unit :=
  inspect faults.close_part .os_error

end PartialFile

end StegoLab

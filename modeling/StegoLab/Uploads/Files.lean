import Mathlib.Data.List.AList
import StegoLab.Library.Crashes
import StegoLab.Library.Dictionary
import StegoLab.Uploads.Records

/-!
# Upload files

The directory tree of the upload store and its file operations. Each operation can fail with an
`OSError` or be cut short by a crash; neighbouring operations without an effect on what is read
later share one fault.
-/

namespace StegoLab

open Transaction Program

/-! ### The tree -/

/-- A record that passed its validation. -/
abbrev ValidUpload : Type :=
  { stored : StoredUploadSession // stored.session.Valid }

/-- The directory of one session. -/
structure SessionDirectory where
  record : Option ValidUpload := none
  chunks : AList fun _ : ℕ => List UInt8 := ∅
  archive : Option (List UInt8) := none

/-- The tree under the store root: the session directories, and the request files that point at
them. -/
structure UploadDisk where
  sessions : Dict SessionDirectory := .empty
  requests : Dict String := .empty

namespace UploadDisk

/-- Change a session directory, if it is there. -/
def modify (disk : UploadDisk) (identifier : String) (f : SessionDirectory → SessionDirectory) :
    UploadDisk :=
  match disk.sessions.get? identifier with
  | none => disk
  | some directory => { disk with sessions := disk.sessions.insert identifier (f directory) }

/-- `_create_directory` on a session directory. -/
def create_directory (disk : UploadDisk) (identifier : String) : UploadDisk :=
  match disk.sessions.get? identifier with
  | none => { disk with sessions := disk.sessions.insert identifier {} }
  | some _ => disk

/-- The record that a session directory holds. -/
def record? (disk : UploadDisk) (identifier : String) : Option ValidUpload :=
  (disk.sessions.get? identifier).bind SessionDirectory.record

/-- The file of one part. -/
def chunk? (disk : UploadDisk) (identifier : String) (index : ℕ) : Option (List UInt8) :=
  (disk.sessions.get? identifier).bind fun directory => directory.chunks.lookup index

def archive? (disk : UploadDisk) (identifier : String) : Option (List UInt8) :=
  (disk.sessions.get? identifier).bind SessionDirectory.archive

end UploadDisk

/-- The bytes of the parts and the archive of one session. -/
def SessionDirectory.used_bytes (directory : SessionDirectory) : ℕ :=
  (directory.chunks.entries.map fun entry => entry.2.length).sum
    + (directory.archive.elim 0 List.length)

/-! ### Faults -/

/-- What `shutil.rmtree` has removed of a session directory when it stops. -/
structure RemovedFiles where
  record : Bool := false
  archive : Bool := false
  chunks : List ℕ := []

def RemovedFiles.remove (removed : RemovedFiles) (directory : SessionDirectory) :
    SessionDirectory where
  record := if removed.record then none else directory.record
  archive := if removed.archive then none else directory.archive
  chunks := removed.chunks.foldl (fun chunks index => chunks.erase index) directory.chunks

/-- What happens to each file operation of one call. -/
structure UploadFaults where
  lock : Fault Unit := .none
  unlock : Fault Unit := .none
  read_record : String → Fault Unit := fun _ => .none
  create_directory : Fault Unit := .none
  write_record : Fault Unit := .none
  replace_record : Fault Unit := .none
  flush_record : Fault Unit := .none
  read_request : String → Fault Unit := fun _ => .none
  write_request : Fault Unit := .none
  replace_request : Fault Unit := .none
  flush_request : Fault Unit := .none
  remove_request : String → Fault Unit := fun _ => .none
  flush_removed_request : String → Fault Unit := fun _ => .none
  remove_session : String → Fault RemovedFiles := fun _ => .none
  flush_removed_session : String → Fault Unit := fun _ => .none
  list_sessions : Fault Unit := .none
  list_requests : Fault Unit := .none
  chunk_size : ℕ → Fault Unit := fun _ => .none
  chunk_digest : Fault Unit := .none
  unlink_chunk : ℕ → Fault Unit := fun _ => .none
  create_chunk : Fault Unit := .none
  write_chunk : Fault ℕ := .none
  flush_chunk : Fault Unit := .none
  remove_chunks : Fault (List ℕ) := .none
  flush_removed_chunks : Fault Unit := .none
  unlink_archive : Fault Unit := .none
  create_archive : Fault Unit := .none
  read_part : ℕ → Fault Unit := fun _ => .none
  write_archive : ℕ → Fault ℕ := fun _ => .none
  unlink_part : ℕ → Fault Unit := fun _ => .none
  flush_archive : Fault Unit := .none
  used_bytes : Fault Unit := .none

/-- A program over the tree of the store. -/
abbrev UploadProgram (α : Type) : Type :=
  Program UploadDisk Raised α

/-! ### Operations -/

namespace UploadSessionFiles

variable (faults : UploadFaults)

/-- `locked`: the tree is there, and one call holds its lock. -/
def locked {α : Type} (program : UploadProgram α) : UploadProgram α := do
  inspect faults.lock .os_error
  finally_do program (inspect faults.unlock .os_error)

def read_record (identifier : String) : UploadProgram (Option ValidUpload) := do
  inspect (faults.read_record identifier) .os_error
  let disk ← read
  return disk.record? identifier

/-- `save_record`: rewrite a record through a pending sibling file. -/
def save_record (stored : ValidUpload) : UploadProgram Unit := do
  let identifier := stored.1.session.upload_identifier
  atomically faults.create_directory .os_error fun disk => disk.create_directory identifier
  inspect faults.write_record .os_error
  atomically faults.replace_record .os_error fun disk =>
    disk.modify identifier fun directory => { directory with record := some stored }
  inspect faults.flush_record .os_error

def read_request (client_request_identifier : String) : UploadProgram (Option String) := do
  inspect (faults.read_request client_request_identifier) .os_error
  let disk ← read
  return disk.requests.get? client_request_identifier

def write_request (client_request_identifier identifier : String) : UploadProgram Unit := do
  inspect faults.write_request .os_error
  atomically faults.replace_request .os_error fun disk =>
    { disk with requests := disk.requests.insert client_request_identifier identifier }
  inspect faults.flush_request .os_error

def remove_request (client_request_identifier : String) : UploadProgram Unit := do
  atomically (faults.remove_request client_request_identifier) .os_error fun disk =>
    { disk with requests := disk.requests.erase client_request_identifier }
  inspect (faults.flush_removed_request client_request_identifier) .os_error

/-- `_remove_entry` on a session directory: whether it was there. -/
def remove_directory (identifier : String) : UploadProgram Bool := do
  let disk ← read
  if (disk.sessions.get? identifier).isSome then do
    operation (faults.remove_session identifier) .os_error
      (fun removed disk => disk.modify identifier removed.remove)
      fun disk => { disk with sessions := disk.sessions.erase identifier }
    inspect (faults.flush_removed_session identifier) .os_error
    return true
  else return false

/-- Delete the request file, if it still points at the session. -/
def remove_request_of (identifier client_request_identifier : String) : UploadProgram Unit := do
  let target ← read_request faults client_request_identifier
  if target = some identifier then remove_request faults client_request_identifier
  else return ()

def remove_session (identifier : String) (request_identifier : Option String) :
    UploadProgram Bool := do
  let removed ← remove_directory faults identifier
  match request_identifier with
  | none => return removed
  | some client_request_identifier =>
    remove_request_of faults identifier client_request_identifier
    return removed

def chunk_size (identifier : String) (index : ℕ) : UploadProgram (Option ℕ) := do
  inspect (faults.chunk_size index) .os_error
  let disk ← read
  return (disk.chunk? identifier index).map List.length

/-- `chunk_digest` and `_iter_file_blocks`: an absent part is an `OSError`. -/
def read_part (fault : Fault Unit) (identifier : String) (index : ℕ) :
    UploadProgram (List UInt8) := do
  inspect fault .os_error
  let disk ← read
  match disk.chunk? identifier index with
  | none => raise .os_error
  | some data => return data

/-- Delete a part that may be missing. -/
def unlink_chunk (fault : Fault Unit) (identifier : String) (index : ℕ) : UploadProgram Unit :=
  atomically fault .os_error fun disk =>
    disk.modify identifier fun directory =>
      { directory with chunks := directory.chunks.erase index }

/-- A part file with some of its bytes. -/
def put_chunk (identifier : String) (index : ℕ) (data : List UInt8) (disk : UploadDisk) :
    UploadDisk :=
  disk.modify identifier fun directory =>
    { directory with chunks := directory.chunks.insert index data }

/-- `write_chunk`: replace a leftover part by a new file. -/
def write_chunk (identifier : String) (index : ℕ) (data : List UInt8) : UploadProgram Unit := do
  unlink_chunk (faults.unlink_chunk index) identifier index
  atomically faults.create_chunk .os_error (put_chunk identifier index [])
  operation faults.write_chunk .os_error (fun n => put_chunk identifier index (data.take n))
    (put_chunk identifier index data)
  inspect faults.flush_chunk .os_error

/-- `remove_chunks`. -/
def remove_chunks (identifier : String) : UploadProgram Unit := do
  operation faults.remove_chunks .os_error
    (fun removed disk => disk.modify identifier ({ chunks := removed : RemovedFiles }).remove)
    fun disk => disk.modify identifier fun directory => { directory with chunks := ∅ }
  inspect faults.flush_removed_chunks .os_error

def expected_chunk_bytes (session : DatasetUploadSession) (index : ℕ) : ℕ :=
  if index + 1 = session.chunk_count then session.total_bytes - index * session.chunk_bytes
  else session.chunk_bytes

/-- `verified_parts` over the remaining indexes. -/
def verified_parts (identifier : String) (session : DatasetUploadSession) :
    List ℕ → UploadProgram (List ℕ)
  | [] => return []
  | index :: rest => do
    let size ← chunk_size faults identifier index
    if size = some (expected_chunk_bytes session index) then do
      let present ← verified_parts identifier session rest
      return index :: present
    else do
      unlink_chunk (faults.unlink_chunk index) identifier index
      verified_parts identifier session rest

def ARCHIVE_PREFIX_BYTES : ℕ := 512

/-- Append to the archive that is being written. -/
def append_archive (identifier : String) (data : List UInt8) (disk : UploadDisk) : UploadDisk :=
  disk.modify identifier fun directory =>
    { directory with archive := directory.archive.map (· ++ data) }

/-- The joining loop: the bytes read so far, which the digest and the leading bytes describe. -/
def join_parts (identifier : String) : List ℕ → List UInt8 → UploadProgram (List UInt8)
  | [], joined => return joined
  | index :: rest, joined => do
    let data ← read_part (faults.read_part index) identifier index
    operation (faults.write_archive index) .os_error
      (fun n => append_archive identifier (data.take n)) (append_archive identifier data)
    unlink_chunk (faults.unlink_part index) identifier index
    join_parts identifier rest (joined ++ data)

variable (sha256 : List UInt8 → String)

/-- `assemble`: the digest of the joined bytes and the leading bytes for the archive check. -/
def assemble (identifier : String) (chunk_count : ℕ) : UploadProgram (String × List UInt8) := do
  atomically faults.unlink_archive .os_error fun disk =>
    disk.modify identifier fun directory => { directory with archive := none }
  atomically faults.create_archive .os_error fun disk =>
    disk.modify identifier fun directory => { directory with archive := some [] }
  let joined ← join_parts faults identifier (List.range chunk_count) []
  inspect faults.flush_archive .os_error
  return (sha256 joined, joined.take ARCHIVE_PREFIX_BYTES)

/-- `is_archive_prefix`: zip, gzip and tar files. -/
def is_archive_prefix (leading : List UInt8) : Bool :=
  [0x50, 0x4b, 0x03, 0x04].isPrefixOf leading || [0x1f, 0x8b].isPrefixOf leading
    || (262 ≤ leading.length && (leading.drop 257).take 5 = [0x75, 0x73, 0x74, 0x61, 0x72])

/-- The session directories, oldest name first. -/
def session_identifiers : UploadProgram (List String) := do
  inspect faults.list_sessions .os_error
  let disk ← read
  return disk.sessions.entries.map Prod.fst

/-- Delete the request files whose session directory no longer exists. -/
def remove_stale : List String → UploadProgram Unit
  | [] => return ()
  | name :: rest => do
    let target ← read_request faults name
    let disk ← read
    if ((target.getD "" |> disk.sessions.get?).isSome) then remove_stale rest
    else do
      remove_request faults name
      remove_stale rest

def remove_stale_requests : UploadProgram Unit := do
  inspect faults.list_requests .os_error
  let disk ← read
  remove_stale faults (disk.requests.entries.map Prod.fst)

def used_bytes : UploadProgram ℕ := do
  inspect faults.used_bytes .os_error
  let disk ← read
  return (disk.sessions.entries.map fun entry => entry.2.used_bytes).sum

end UploadSessionFiles

end StegoLab

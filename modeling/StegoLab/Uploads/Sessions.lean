import Mathlib.Data.List.Sort
import StegoLab.Library.CanonicalJson
import StegoLab.Storage.DiskReserve
import StegoLab.Uploads.Files

/-!
# Upload sessions

The calls of `DatasetUploadStore`. A call holds the store lock from its first to its last file
operation, and turns storage errors into one plain failure.
-/

namespace StegoLab

open CanonicalJson Transaction Program UploadSessionFiles

def MAXIMUM_UPLOAD_STORAGE_BYTES : ℕ := 6 * 1024 ^ 3

/-- `UPLOAD_IDENTIFIER`: a prefix and 32 hexadecimal digits. -/
def is_upload_identifier (identifier : String) : Bool :=
  "upload_".toList.isPrefixOf identifier.toList && identifier.toList.length = 39
    && (identifier.toList.drop 7).all fun c => c.isDigit || ('a' ≤ c && c ≤ 'f')

instance DatasetUploadSession.decidable_valid (session : DatasetUploadSession) :
    Decidable session.Valid :=
  decidable_of_iff
    ((1 ≤ session.total_bytes ∧ session.total_bytes ≤ MAXIMUM_DATASET_UPLOAD_BYTES)
      ∧ session.chunk_bytes = DATASET_UPLOAD_CHUNK_BYTES
      ∧ session.chunk_count = session.total_bytes ⌈/⌉ session.chunk_bytes
      ∧ session.received_chunks.Pairwise (· < ·)
      ∧ (∀ index ∈ session.received_chunks, index < session.chunk_count)
      ∧ (session.complete = true ↔
        session.received_chunks.length = session.chunk_count ∧ session.sha256 ≠ none))
    ⟨fun ⟨h₁, h₂, h₃, h₄, h₅, h₆⟩ => ⟨h₁, h₂, h₃, h₄, h₅, h₆⟩,
      fun ⟨h₁, h₂, h₃, h₄, h₅, h₆⟩ => ⟨h₁, h₂, h₃, h₄, h₅, h₆⟩⟩

/-- What a call reads from outside: its faults, the clock when it looks at a session and when it
creates one in microseconds, and the disk. -/
structure UploadSurroundings where
  faults : UploadFaults := {}
  clock : String → ℕ := fun _ => 0
  created_at : ℕ := 0
  disk_usage : Option DiskUsage := some { total := 0, free := 2 ^ 40 }

namespace DatasetUploadStore

variable (surroundings : UploadSurroundings) (sha256 : List UInt8 → String)

/-! ### Shared steps -/

def refuse {α : Type} (code : String) : UploadProgram α :=
  raise (.application (upload_failure code))

/-- `_updated`: a re-validated copy with another session. -/
def updated (stored : ValidUpload) (session : DatasetUploadSession) : Except Raised ValidUpload :=
  if h : session.Valid then .ok ⟨{ stored.1 with session := session }, h⟩ else .error .value_error

/-- Storage errors become one plain failure. -/
def storage_failure : Raised → Raised
  | .application failure => .application failure
  | _ => .application (upload_failure "upload_storage")

/-- `_locked`. -/
def serialised {α : Type} (program : UploadProgram α) : UploadProgram α :=
  catching (locked surroundings.faults program) fun exception => raise (storage_failure exception)

/-- A session that has not expired; an expired one is removed. -/
def live (identifier : String) (stored : ValidUpload) : UploadProgram ValidUpload :=
  if surroundings.clock identifier ≥ stored.1.session.expires_at then do
    let _ ← remove_session surroundings.faults identifier (some stored.1.client_request_identifier)
    refuse "upload_expired"
  else return stored

/-- `_load`. -/
def load (identifier : String) : UploadProgram ValidUpload :=
  if is_upload_identifier identifier then do
    let stored ← read_record surroundings.faults identifier
    match stored with
    | none => refuse "upload_not_found"
    | some stored => live surroundings identifier stored
  else refuse "upload_not_found"

/-- `_replayed`: the live session that an earlier request opened. -/
def replayed (client_request_identifier : String) : UploadProgram (Option ValidUpload) := do
  let identifier ← read_request surroundings.faults client_request_identifier
  match identifier with
  | none => return none
  | some identifier =>
    catching (some <$> load surroundings identifier) fun
      | .application failure =>
        if failure.code = "upload_not_found" ∨ failure.code = "upload_expired" then return none
        else raise (.application failure)
      | exception => raise exception

/-- `_check_capacity`. -/
def check_capacity (next_bytes : ℕ) : UploadProgram Unit := do
  let used ← UploadSessionFiles.used_bytes surroundings.faults
  attempt (raise_if (used + next_bytes > MAXIMUM_UPLOAD_STORAGE_BYTES)
    (.application (upload_failure "upload_storage_full")))

/-! ### Creating -/

/-- The session of a new request. -/
def opened (request : DatasetUploadCreateRequest) (uuid4 : String) : DatasetUploadSession where
  upload_identifier := "upload_" ++ uuid4
  file_name := request.file_name
  total_bytes := request.total_bytes
  chunk_count := request.total_bytes ⌈/⌉ DATASET_UPLOAD_CHUNK_BYTES
  created_at := surroundings.created_at
  expires_at := surroundings.created_at + UPLOAD_RETENTION_SECONDS * 10 ^ 6

def request_fingerprint (request : DatasetUploadCreateRequest) : String :=
  sha256 (canonical_json request.model_dump).toList

def stored_request (request : DatasetUploadCreateRequest) (session : DatasetUploadSession) :
    Except Raised ValidUpload :=
  if h : session.Valid then
    .ok ⟨
      { session := session
        client_request_identifier := request.client_request_identifier
        fingerprint := request_fingerprint sha256 request
        expected_sha256 := request.expected_sha256 }, h⟩
  else .error .value_error

def open_session (request : DatasetUploadCreateRequest) (uuid4 : String) :
    UploadProgram DatasetUploadSession := do
  check_capacity surroundings request.total_bytes
  let stored ← attempt (stored_request sha256 request (opened surroundings request uuid4))
  save_record surroundings.faults stored
  write_request surroundings.faults request.client_request_identifier
    stored.1.session.upload_identifier
  return stored.1.session

def create (request : DatasetUploadCreateRequest) (uuid4 : String) :
    UploadProgram DatasetUploadSession :=
  serialised surroundings do
    let existing ← replayed surroundings request.client_request_identifier
    match existing with
    | some existing =>
      attempt (raise_if (existing.1.fingerprint ≠ request_fingerprint sha256 request)
        (.application (upload_failure "request_identifier_conflict")))
      return existing.1.session
    | none => open_session surroundings sha256 request uuid4

/-! ### Receiving -/

/-- Write a part that is not there in its size, or compare it with the one that is. -/
def store_part (identifier : String) (index : ℕ) (data : List UInt8) : UploadProgram Unit := do
  let size ← chunk_size surroundings.faults identifier index
  if size = some data.length then do
    let present ← read_part surroundings.faults.chunk_digest identifier index
    attempt (raise_if (sha256 present ≠ sha256 data)
      (.application (upload_failure "upload_chunk_mismatch")))
  else do
    check_capacity surroundings data.length
    attempt (ensure_disk_reserve surroundings.disk_usage data.length)
    write_chunk surroundings.faults identifier index data

/-- `sorted([*received_chunks, index])`. -/
def listing (session : DatasetUploadSession) (index : ℕ) : DatasetUploadSession :=
  { session with
    received_chunks := (session.received_chunks ++ [index]).mergeSort (fun a b => a ≤ b) }

/-- List a part in the record. -/
def list_part (stored : ValidUpload) (index : ℕ) : UploadProgram ValidUpload :=
  if index ∈ stored.1.session.received_chunks then return stored
  else do
    let listed ← attempt (updated stored (listing stored.1.session index))
    save_record surroundings.faults listed
    return listed

/-- The refusals of a part before anything is stored. -/
def check_part (session : DatasetUploadSession) (index : ℤ) (data : List UInt8) :
    Except Raised Unit := do
  raise_if (session.complete = true) (.application (upload_failure "upload_already_complete"))
  raise_if (index < 0 ∨ index ≥ session.chunk_count)
    (.application (upload_failure "upload_chunk_index"))
  raise_if (data.length ≠ expected_chunk_bytes session index.toNat)
    (.application (upload_failure "upload_chunk_size"))

def acknowledgement (identifier : String) (index : ℕ) (data : List UInt8)
    (session : DatasetUploadSession) : DatasetUploadChunk where
  upload_identifier := identifier
  index := index
  bytes := data.length
  sha256 := sha256 data
  received_chunks := session.received_chunks

def receive_chunk (identifier : String) (index : ℤ) (data : List UInt8) :
    UploadProgram DatasetUploadChunk :=
  serialised surroundings do
    let stored ← load surroundings identifier
    attempt (check_part stored.1.session index data)
    store_part surroundings sha256 identifier index.toNat data
    let listed ← list_part surroundings stored index.toNat
    return acknowledgement sha256 identifier index.toNat data listed.1.session

/-! ### Completing -/

/-- Drop the lost parts from the record and report how many are missing. -/
def report_missing (stored : ValidUpload) (present : List ℕ) :
    UploadProgram DatasetUploadSession := do
  let session := stored.1.session
  let corrected ← attempt (updated stored { session with received_chunks := present })
  save_record surroundings.faults corrected
  raise (.application (upload_incomplete (session.chunk_count - present.length) session.chunk_count))

/-- Discard a session whose archive was refused. -/
def discard_refused (identifier : String) (stored : ValidUpload) (code : String) :
    UploadProgram DatasetUploadSession := do
  let _ ← remove_session surroundings.faults identifier (some stored.1.client_request_identifier)
  refuse code

/-- Publish the assembled archive in the record and free the parts. -/
def publish_archive (identifier : String) (stored : ValidUpload) (digest : String) :
    UploadProgram DatasetUploadSession := do
  let completed ← attempt (updated stored
    { stored.1.session with complete := true, sha256 := some digest })
  save_record surroundings.faults completed
  remove_chunks surroundings.faults identifier
  return completed.1.session

/-- Verify the assembled archive. -/
def verify_archive (identifier : String) (stored : ValidUpload) (digest : String)
    (leading : List UInt8) : UploadProgram DatasetUploadSession :=
  if stored.1.expected_sha256 ≠ none ∧ stored.1.expected_sha256 ≠ some digest then
    discard_refused surroundings identifier stored "upload_checksum_mismatch"
  else if is_archive_prefix leading = false then
    discard_refused surroundings identifier stored "upload_not_archive"
  else publish_archive surroundings identifier stored digest

/-- Join every part into the archive, once all are present. -/
def join_all (identifier : String) (stored : ValidUpload) :
    UploadProgram DatasetUploadSession := do
  check_capacity surroundings stored.1.session.chunk_bytes
  attempt (ensure_disk_reserve surroundings.disk_usage stored.1.session.chunk_bytes)
  let assembled ← assemble surroundings.faults sha256 identifier stored.1.session.chunk_count
  verify_archive surroundings identifier stored assembled.1 assembled.2

/-- The rest of `complete` for a session that is not complete. -/
def complete_parts (identifier : String) (stored : ValidUpload) :
    UploadProgram DatasetUploadSession := do
  let session := stored.1.session
  let present ← verified_parts surroundings.faults identifier session session.received_chunks
  if present.length = session.chunk_count then join_all surroundings sha256 identifier stored
  else report_missing surroundings stored present

def complete (identifier : String) : UploadProgram DatasetUploadSession :=
  serialised surroundings do
    let stored ← load surroundings identifier
    if stored.1.session.complete then do
      remove_chunks surroundings.faults identifier
      return stored.1.session
    else complete_parts surroundings sha256 identifier stored

/-! ### Reading and removing -/

/-- `read`. -/
def read_session (identifier : String) : UploadProgram DatasetUploadSession :=
  serialised surroundings do
    let stored ← load surroundings identifier
    return stored.1.session

/-- `archive_path`: the archive of a complete session. -/
def archive_path (identifier : String) : UploadProgram Unit :=
  serialised surroundings do
    let stored ← load surroundings identifier
    attempt (raise_if (stored.1.session.complete = false)
      (.application (upload_failure "upload_not_completed")))

def discard (identifier : String) : UploadProgram Unit :=
  serialised surroundings do
    if is_upload_identifier identifier then do
      let stored ← read_record surroundings.faults identifier
      let _ ← remove_session surroundings.faults identifier
        (stored.map fun stored => stored.1.client_request_identifier)
      return ()
    else return ()

/-- Whether the sweep removes a session. -/
def swept (identifier : String) : Option ValidUpload → Bool
  | none => true
  | some stored => surroundings.clock identifier ≥ stored.1.session.expires_at

def sweep_sessions : List String → UploadProgram ℕ
  | [] => return 0
  | identifier :: rest => do
    let stored ← read_record surroundings.faults identifier
    if swept surroundings identifier stored then do
      let _ ← remove_session surroundings.faults identifier
        (stored.map fun stored => stored.1.client_request_identifier)
      let removed ← sweep_sessions rest
      return removed + 1
    else sweep_sessions rest

/-- `sweep`: how many expired sessions were removed. -/
def sweep : UploadProgram ℕ :=
  serialised surroundings do
    let identifiers ← session_identifiers surroundings.faults
    let removed ← sweep_sessions surroundings identifiers
    remove_stale_requests surroundings.faults
    return removed

def used_bytes : UploadProgram ℕ :=
  serialised surroundings (UploadSessionFiles.used_bytes surroundings.faults)

end DatasetUploadStore

end StegoLab

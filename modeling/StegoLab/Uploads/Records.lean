import Mathlib.Algebra.Order.Floor.Div
import Mathlib.Data.Rat.Floor
import StegoLab.Datasets.Records

/-!
# Upload records

The session that a client sees, the record kept on disk, and the failures of the upload store.
-/

namespace StegoLab

open CanonicalJson

def MAXIMUM_DATASET_UPLOAD_BYTES : ℕ := 2 * 1024 ^ 3
def DATASET_UPLOAD_CHUNK_BYTES : ℕ := 16 * 1024 ^ 2
def MAXIMUM_UPLOAD_CHUNKS : ℕ := 128
def UPLOAD_RETENTION_SECONDS : ℕ := 24 * 60 * 60

/-- A request to open a session for one archive of a known size. -/
structure DatasetUploadCreateRequest where
  client_request_identifier : String
  file_name : String
  total_bytes : ℕ
  expected_sha256 : Option String := none

/-- Which parts arrived, so that a reloaded client can continue. -/
structure DatasetUploadSession where
  upload_identifier : String
  file_name : String
  total_bytes : ℕ
  chunk_bytes : ℕ := DATASET_UPLOAD_CHUNK_BYTES
  chunk_count : ℕ
  received_chunks : List ℕ := []
  complete : Bool := false
  sha256 : Option String := none
  created_at : ℕ
  expires_at : ℕ
  deriving DecidableEq

/-- The acknowledgement of one part with the digest that the server computed. -/
structure DatasetUploadChunk where
  upload_identifier : String
  index : ℕ
  bytes : ℕ
  sha256 : String
  received_chunks : List ℕ
  deriving DecidableEq

/-- The record on disk, with fields that clients never receive. -/
structure StoredUploadSession where
  session : DatasetUploadSession
  client_request_identifier : String
  fingerprint : String
  expected_sha256 : Option String
  deriving DecidableEq

def DatasetUploadCreateRequest.model_dump (request : DatasetUploadCreateRequest) : Json :=
  dict
    [("client_request_identifier", .str request.client_request_identifier),
      ("file_name", .str request.file_name),
      ("total_bytes", .num request.total_bytes),
      ("expected_sha256", optional_str request.expected_sha256)]

/-- `validate_parts`: the part list is consistent with the declared size and state. -/
structure DatasetUploadSession.Valid (session : DatasetUploadSession) : Prop where
  total_bytes : 1 ≤ session.total_bytes ∧ session.total_bytes ≤ MAXIMUM_DATASET_UPLOAD_BYTES
  chunk_bytes : session.chunk_bytes = DATASET_UPLOAD_CHUNK_BYTES
  chunk_count : session.chunk_count = session.total_bytes ⌈/⌉ session.chunk_bytes
  received_chunks : session.received_chunks.Pairwise (· < ·)
  in_range : ∀ index ∈ session.received_chunks, index < session.chunk_count
  complete : session.complete = true ↔
    session.received_chunks.length = session.chunk_count ∧ session.sha256 ≠ none

/-! ### Failures -/

def upload_messages : String → String
  | "upload_not_found" => "No upload session has this identifier. Start a new upload."
  | "upload_expired" =>
    "This upload session expired and its parts were removed. Start a new upload."
  | "request_identifier_conflict" =>
    "This request identifier was already used for a different upload. "
      ++ "Retry with a new request identifier."
  | "upload_chunk_index" => "The part index is outside the part range of this upload."
  | "upload_chunk_size" =>
    "The part does not have the exact number of bytes expected at this index."
  | "upload_chunk_mismatch" =>
    "A different part was already received at this index. Discard the upload and start it again."
  | "upload_already_complete" => "This upload is already complete and accepts no more parts."
  | "upload_not_completed" => "Complete the upload before its archive can be used."
  | "upload_checksum_mismatch" =>
    "The assembled file does not match the expected checksum. "
      ++ "The upload was discarded; start it again."
  | "upload_not_archive" =>
    "The uploaded file is not a zip, tar or gzip archive. The upload was discarded."
  | "upload_storage_full" =>
    "Upload storage is full. Complete or discard other uploads, then retry."
  | _ => "Upload data could not be read or written. Check access and free space, then retry."

def upload_status_code (code : String) : ℕ :=
  if code = "upload_not_found" ∨ code = "upload_expired" then 404
  else if code = "upload_chunk_index" ∨ code = "upload_chunk_size"
    ∨ code = "upload_checksum_mismatch" ∨ code = "upload_not_archive" then 422
  else if code = "upload_storage_full" then 507
  else if code = "upload_storage" then 503
  else 409

def upload_failure (code : String) : ApplicationFailure where
  code := code
  message := upload_messages code
  status_code := upload_status_code code

/-- The failure of a session that is still missing parts. -/
def upload_incomplete (missing total : ℕ) : ApplicationFailure where
  code := "upload_incomplete"
  message := toString missing ++ " of " ++ toString total ++ " parts are still missing."
  status_code := upload_status_code "upload_incomplete"

end StegoLab

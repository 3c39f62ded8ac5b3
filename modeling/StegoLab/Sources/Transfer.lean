import StegoLab.Sources.CacheFiles
import StegoLab.Sources.Transport

/-!
# Transfer

Bounded, resumable and verified streaming of one remote file to disk. The transport is a parameter:
what it answers to a request, and in which pieces the body arrives.
-/

namespace StegoLab

open Transaction Program

/-! ### Failures -/

def transfer_messages : String → String
  | "download_status" => "The download server refused the request."
  | "download_too_large" => "The download is larger than the allowed size."
  | "download_size_mismatch" => "The download ended with an unexpected size."
  | _ => "The downloaded file does not match its expected checksum."

def transfer_failure (code : String) : ApplicationFailure where
  code := code
  message := transfer_messages code
  status_code := if code = "download_too_large" then 400 else 502

def progress_failure : ApplicationFailure where
  code := "fetch_progress_storage"
  message := "The fetch progress file could not be written. Check access and free "
    ++ "space for the log directory."
  status_code := 503

def FetchException.transfer (code : String) : FetchException :=
  .application (transfer_failure code)

/-! ### Requests and responses -/

/-- What is known about one remote file before it is fetched. -/
structure RemoteAsset where
  url : String
  basename : String
  expected_size : Option ℕ
  expected_sha256 : Option String
  etag : Option String
  resumable : Bool

/-- Size, digest and resume offset of a completed download. -/
structure DownloadOutcome where
  size : ℕ
  sha256 : String
  resumed_from : ℕ
  deriving DecidableEq

/-- A `GET` request. -/
structure TransportRequest where
  url : String
  byte_range : Option (ℕ × Option ℕ) := none
  if_range : Option String := none

/-- A response with lower-cased headers, and the pieces of its body as they arrive. A body that is
interrupted ends with the failure of its transport. -/
structure TransportResponse where
  status : ℕ
  headers : Dict String
  chunks : List (List UInt8)
  interruption : Option ApplicationFailure := none

/-- `SecureTransport.open`. -/
abbrev TransportOpen : Type :=
  TransportRequest → Except Raised TransportResponse

def TransportResponse.header (response : TransportResponse) (name : String) : String :=
  (response.headers.get? name).getD ""

/-- `int` on a text of ASCII digits. -/
def int_of (text : String) : Except FetchException ℕ :=
  match Text.int? text with
  | none => .error (.raised .value_error)
  | some n => .ok n

/-! ### The download -/

/-- The cache, and how many body bytes have arrived over the network. -/
structure TransferState where
  disk : CacheDisk := {}
  network : ℕ := 0

/-- A program over the cache and the network. -/
abbrev TransferProgram (α : Type) : Type :=
  Program TransferState FetchException α

/-- A program over the cache alone. -/
def on_disk {α : Type} (program : CacheProgram α) : TransferProgram α :=
  within TransferState.disk (fun disk state => { state with disk := disk }) program

/-- A piece of a body arrives. -/
def arrive (chunk : List UInt8) : TransferProgram Unit :=
  fun state => (.ok (), { state with network := state.network + chunk.length })

section Download

variable (faults : CacheFaults)

/-- The start that a `content-range` header names. -/
def content_range_start (response : TransportResponse) : Except FetchException (Option ℕ) :=
  let range := response.header "content-range"
  let start := Text.before '-' (Text.after ' ' range)
  if Text.before ' ' range = "bytes" ∧ Text.plain_number start = true then some <$> int_of start
  else .ok none

/-- `_accept_response`: the offset to continue from, restarting when the server sent 200. -/
def accept_response (response : TransportResponse) (file : PartialFile) (offset : ℕ) :
    TransferProgram ℕ := do
  if response.status = 206 ∧ offset ≠ 0 then do
    let start ← attempt (content_range_start response)
    if start = some offset then return offset
    else raise (.transfer "download_status")
  else if response.status = 200 then do
    if offset ≠ 0 then on_disk (file.truncate faults)
    return 0
  else raise (.transfer "download_status")

/-- The size that the response announces, with the bytes that are there already. -/
def announced_total (response : TransportResponse) (offset : ℕ) :
    Except FetchException (Option ℕ) :=
  let length := Text.strip (response.header "content-length")
  if Text.plain_number length = true then (fun n => some (n + offset)) <$> int_of length
  else .ok none

/-- The loop over the body: how many bytes the file has, and those that the digest has seen. -/
def receive_chunks (interruption : Option ApplicationFailure) (file : PartialFile)
    (maximum_bytes : ℕ) (stop : ℕ → Bool) :
    List (List UInt8) → ℕ → ℕ → List UInt8 → TransferProgram (ℕ × List UInt8)
  | [], index, received, digested => do
    match interruption with
    | some failure => raise (.application failure)
    | none => do
      inspect (faults.progress index) (.application progress_failure)
      return (received, digested)
  | chunk :: rest, index, received, digested => do
    arrive chunk
    let received := received + chunk.length
    attempt (raise_if (maximum_bytes < received) (.transfer "download_too_large"))
    on_disk (file.append (faults.append index) chunk)
    inspect (faults.progress index) (.application progress_failure)
    attempt (raise_if (stop index = true) .download_stopped)
    receive_chunks interruption file maximum_bytes stop rest (index + 1) received
      (digested ++ chunk)

/-- What a download has when its body has ended. -/
structure Streamed where
  offset : ℕ
  total : Option ℕ
  received : ℕ
  digested : List UInt8

/-- The request for what follows the first `offset` bytes. -/
def download_request (asset : RemoteAsset) (offset : ℕ) : TransportRequest where
  url := asset.url
  byte_range := if offset ≠ 0 then some (offset, none) else none
  if_range := if offset ≠ 0 then asset.etag else none

/-- The transport knows nothing of stops. -/
def open_response (transport : TransportOpen) (request : TransportRequest) :
    Except FetchException TransportResponse :=
  (transport request).mapError .raised

/-- The download while the part file is open. -/
def stream (transport : TransportOpen) (asset : RemoteAsset) (file : PartialFile)
    (maximum_bytes : ℕ) (stop : ℕ → Bool) (size : ℕ) : TransferProgram Streamed := do
  let offset ← (if size ≠ 0 ∧ asset.resumable = false then do
    on_disk (file.truncate faults)
    return 0
  else return size)
  let response ← attempt (open_response transport (download_request asset offset))
  let offset ← accept_response faults response file offset
  let existing ← on_disk (file.iter_existing faults offset)
  let announced ← attempt (announced_total response offset)
  let total := announced.or asset.expected_size
  attempt (raise_if (∃ size ∈ total, maximum_bytes < size) (.transfer "download_too_large"))
  let (received, digested) ← receive_chunks faults response.interruption file maximum_bytes stop
    response.chunks 0 offset existing
  return { offset, total, received, digested }

/-- `download_asset`: stream the asset into the part file, resuming when the server allows. -/
def download_asset (sha256 : List UInt8 → String) (transport : TransportOpen)
    (asset : RemoteAsset) (file : PartialFile) (maximum_bytes : ℕ) (stop : ℕ → Bool) :
    TransferProgram DownloadOutcome := do
  let size ← on_disk (file.open_for_append faults)
  let streamed ← finally_do (stream faults transport asset file maximum_bytes stop size)
    (on_disk (PartialFile.close faults))
  let expected_sizes := [streamed.total, asset.expected_size].reduceOption
  attempt (raise_if (∃ value ∈ expected_sizes, value ≠ streamed.received)
    (.transfer "download_size_mismatch"))
  let checksum := sha256 streamed.digested
  attempt (raise_if (∃ expected ∈ asset.expected_sha256, checksum ≠ Text.lower expected)
    (.transfer "download_checksum_mismatch"))
  return { size := streamed.received, sha256 := checksum, resumed_from := streamed.offset }

end Download

end StegoLab

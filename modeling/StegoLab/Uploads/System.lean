import StegoLab.Library.Runs
import StegoLab.Uploads.Sessions

/-!
# The upload store over time

Calls take steps one after another under the store lock. Every call has its own faults, so a crash
can fall between any two of its file operations; the next call finds the tree as the crash left it.
-/

namespace StegoLab

open DatasetUploadStore

/-- A call with everything that it reads from outside. -/
inductive UploadEvent where
  | create (surroundings : UploadSurroundings) (request : DatasetUploadCreateRequest)
      (uuid4 : String)
  | receive_chunk (surroundings : UploadSurroundings) (identifier : String) (index : ℤ)
      (data : List UInt8)
  | read (surroundings : UploadSurroundings) (identifier : String)
  | complete (surroundings : UploadSurroundings) (identifier : String)
  | archive_path (surroundings : UploadSurroundings) (identifier : String)
  | discard (surroundings : UploadSurroundings) (identifier : String)
  | sweep (surroundings : UploadSurroundings)
  | used_bytes (surroundings : UploadSurroundings)

def UploadEvent.surroundings : UploadEvent → UploadSurroundings
  | .create surroundings _ _ => surroundings
  | .receive_chunk surroundings _ _ _ => surroundings
  | .read surroundings _ => surroundings
  | .complete surroundings _ => surroundings
  | .archive_path surroundings _ => surroundings
  | .discard surroundings _ => surroundings
  | .sweep surroundings => surroundings
  | .used_bytes surroundings => surroundings

/-- The tree, and the part that was last acknowledged for each index of each session. -/
structure UploadHistory where
  disk : UploadDisk := {}
  acknowledged : String → ℕ → Option (List UInt8) := fun _ _ => none

/-- The parts that the saved record of a session lists. -/
def UploadDisk.received (disk : UploadDisk) (identifier : String) : List ℕ :=
  (disk.record? identifier).elim [] fun stored => stored.1.session.received_chunks

/-- The acknowledged parts with one more. -/
def credit (parts : String → ℕ → Option (List UInt8)) (identifier : String) (index : ℕ)
    (data : List UInt8) : String → ℕ → Option (List UInt8) :=
  fun key other => if key = identifier ∧ other = index then some data else parts key other

/-- A part is acknowledged when its call returns, or when the record begins to list it. -/
def acknowledge (identifier : String) (index : ℕ) (data : List UInt8)
    (outcome : Except (Stop Raised) DatasetUploadChunk) (before after : UploadDisk)
    (acknowledged : String → ℕ → Option (List UInt8)) : String → ℕ → Option (List UInt8) :=
  if outcome.isOk ∨ index ∉ before.received identifier ∧ index ∈ after.received identifier then
    credit acknowledged identifier index data
  else acknowledged

variable (sha256 : List UInt8 → String)

/-- One call. The identifiers of new sessions are in the form of `uuid4().hex`, and not in use. -/
inductive UploadStep : UploadHistory → UploadEvent → UploadHistory → Prop where
  | create {s : UploadHistory} {surroundings : UploadSurroundings}
      {request : DatasetUploadCreateRequest} {uuid4 : String}
      {outcome : Except (Stop Raised) DatasetUploadSession} {disk : UploadDisk}
      (hidentifier : is_upload_identifier ("upload_" ++ uuid4) = true)
      (hfresh : s.disk.sessions.get? ("upload_" ++ uuid4) = none)
      (h : create surroundings sha256 request uuid4 s.disk = (outcome, disk)) :
      UploadStep s (.create surroundings request uuid4) { s with disk := disk }
  | receive_chunk {s : UploadHistory} {surroundings : UploadSurroundings} {identifier : String}
      {index : ℤ} {data : List UInt8} {outcome : Except (Stop Raised) DatasetUploadChunk}
      {disk : UploadDisk}
      (h : receive_chunk surroundings sha256 identifier index data s.disk = (outcome, disk)) :
      UploadStep s (.receive_chunk surroundings identifier index data)
        { disk := disk
          acknowledged :=
            acknowledge identifier index.toNat data outcome s.disk disk s.acknowledged }
  | read {s : UploadHistory} {surroundings : UploadSurroundings} {identifier : String}
      {outcome : Except (Stop Raised) DatasetUploadSession} {disk : UploadDisk}
      (h : read_session surroundings identifier s.disk = (outcome, disk)) :
      UploadStep s (.read surroundings identifier) { s with disk := disk }
  | complete {s : UploadHistory} {surroundings : UploadSurroundings} {identifier : String}
      {outcome : Except (Stop Raised) DatasetUploadSession} {disk : UploadDisk}
      (h : complete surroundings sha256 identifier s.disk = (outcome, disk)) :
      UploadStep s (.complete surroundings identifier) { s with disk := disk }
  | archive_path {s : UploadHistory} {surroundings : UploadSurroundings} {identifier : String}
      {outcome : Except (Stop Raised) Unit} {disk : UploadDisk}
      (h : archive_path surroundings identifier s.disk = (outcome, disk)) :
      UploadStep s (.archive_path surroundings identifier) { s with disk := disk }
  | discard {s : UploadHistory} {surroundings : UploadSurroundings} {identifier : String}
      {outcome : Except (Stop Raised) Unit} {disk : UploadDisk}
      (h : discard surroundings identifier s.disk = (outcome, disk)) :
      UploadStep s (.discard surroundings identifier) { s with disk := disk }
  | sweep {s : UploadHistory} {surroundings : UploadSurroundings}
      {outcome : Except (Stop Raised) ℕ} {disk : UploadDisk}
      (h : sweep surroundings s.disk = (outcome, disk)) :
      UploadStep s (.sweep surroundings) { s with disk := disk }
  | used_bytes {s : UploadHistory} {surroundings : UploadSurroundings}
      {outcome : Except (Stop Raised) ℕ} {disk : UploadDisk}
      (h : DatasetUploadStore.used_bytes surroundings s.disk = (outcome, disk)) :
      UploadStep s (.used_bytes surroundings) { s with disk := disk }

end StegoLab

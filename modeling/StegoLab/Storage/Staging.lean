import StegoLab.Library.Crashes
import StegoLab.Library.Dictionary
import StegoLab.Library.FileTrees
import StegoLab.Storage.DiskReserve

/-!
# Stages of dataset output

A writer prepares its output in a stage next to the published revisions. A stage is marked with its
owner before it exists, so that the next writer can tell an abandoned stage from a stranger's
directory.
-/

namespace StegoLab
namespace DatasetWriter

open Transaction Program

/-! ### Names -/

def hexadecimal_digit (c : Char) : Bool :=
  ('0' ≤ c && c ≤ '9') || ('a' ≤ c && c ≤ 'f')

/-- `RUN_NAME.fullmatch(name)`: `run-[0-9a-f]{32}`. -/
def run_name (name : String) : Bool :=
  "run-".toList.isPrefixOf name.toList
    && (name.length = 36 && (name.toList.drop 4).all hexadecimal_digit)

def OWNER_SUFFIX : String := ".owner.json"
def PENDING_SUFFIX : String := ".owner.json.pending"

/-- `name[: -len(suffix)]`, where `name.endswith(suffix)`. -/
def split_suffix (suffix name : String) : Option String :=
  if suffix.toList <:+ name.toList then
    some (String.ofList (name.toList.take (name.length - suffix.length)))
  else none

/-- The name of a stage. -/
structure RunName where
  text : String
  matches_pattern : run_name text = true

def RunName.marker (run : RunName) : String := run.text ++ OWNER_SUFFIX

def RunName.pending (run : RunName) : String := run.text ++ PENDING_SUFFIX

/-! ### Exceptions -/

/-- The exceptions that can leave a writer or an iterator that it consumes. -/
inductive WriterException where
  | raised (exception : Raised)
  | download_stopped
  /-- A damaged archive: `BadZipFile`, `TarError`, `zlib.error` or `EOFError`. -/
  | archive_error
  deriving DecidableEq, Repr

def WriterException.application (failure : ApplicationFailure) : WriterException :=
  .raised (.application failure)

def WriterException.os_error : WriterException :=
  .raised .os_error

/-! ### The disk -/

/-- One entry of the staging directory, and whether the current user owns it. -/
inductive StagedEntry where
  | file (content : List UInt8) (owned : Bool)
  | directory (tree : FileTree) (owned : Bool)
  | other

structure DatasetDisk where
  /-- The output root without its staging directory. -/
  root : FileTree
  staging : Dict StagedEntry

/-- The disk, and what a writer remembers. -/
structure WriterState extends DatasetDisk where
  authorized_bytes : ℕ
  locked : Bool
  published : Bool

abbrev WriterProgram : Type → Type :=
  Program WriterState WriterException

def WriterState.edit_staging (s : WriterState) (f : Dict StagedEntry → Dict StagedEntry) :
    WriterState :=
  { s with staging := f s.staging }

/-- `json.dumps` and `json.loads` of owner markers. -/
structure OwnerRecords where
  /-- The marker of a stage. -/
  dumps : String → List UInt8
  /-- Whether a content is the marker of a stage; `none` is a `ValueError`. -/
  loads_equals : List UInt8 → String → Option Bool
  round_trip : ∀ stage, loads_equals (dumps stage) stage = some true
  short : ∀ stage, run_name stage = true → (dumps stage).length ≤ 1024

def storage_failure : WriterException := .application (dataset_failure "dataset_storage")

def access_failure : WriterException := .application (dataset_failure "dataset_access")

/-- An `OSError` inside the block of `directory_descriptor` is an access failure. -/
def directory_errors {α : Type} (program : WriterProgram α) : WriterProgram α :=
  catching program fun
    | .raised .os_error => raise access_failure
    | e => raise e

/-- `try: program except OSError: raise dataset_failure("dataset_storage")`. -/
def storage_errors {α : Type} (program : WriterProgram α) : WriterProgram α :=
  catching program fun
    | .raised .os_error => raise storage_failure
    | e => raise e

/-- `try: program except (OSError, ValueError): raise dataset_failure("dataset_storage")`. -/
def removal_errors {α : Type} (program : WriterProgram α) : WriterProgram α :=
  catching program fun
    | .raised .os_error => raise storage_failure
    | .raised .value_error => raise storage_failure
    | e => raise e

/-! ### Owned stages -/

/-- What happens to the operations of one removal. -/
structure RemovalFaults where
  opening : Fault Unit := .none
  reading : Fault Unit := .none
  examining : Fault Unit := .none
  /-- The entries that an incomplete removal leaves. -/
  removing : Fault (List String → Bool) := .none
  unlinking : Fault Unit := .none

variable (records : OwnerRecords)

/-- The content of a small regular file of the current user. -/
def owner_content : Option StagedEntry → Except WriterException (List UInt8)
  | none => .error .os_error
  | some (.file content true) => if content.length ≤ 1024 then .ok content else .error storage_failure
  | some _ => .error storage_failure

def check_owner (content : List UInt8) (stage : String) : Except WriterException Unit :=
  match records.loads_equals content stage with
  | none => .error (.raised .value_error)
  | some false => .error storage_failure
  | some true => .ok ()

/-- What is left of a stage that is not removed completely. -/
def restrict_stage (stage : String) (kept : List String → Bool) (s : WriterState) : WriterState :=
  match s.staging.get? stage with
  | some (.directory tree owned) =>
    s.edit_staging fun staging => staging.insert stage (.directory (tree.restrict kept) owned)
  | _ => s

/-- Remove a directory of the current user. -/
def remove_stage_directory (faults : RemovalFaults) (stage : String) : WriterProgram Unit := do
  let s ← read
  match s.staging.get? stage with
  | none => pure ()
  | some (.directory _ true) => do
    inspect faults.examining .os_error
    operation faults.removing .os_error (restrict_stage stage)
      fun s => s.edit_staging fun staging => staging.erase stage
  | some _ => raise storage_failure

/-- Remove only a marked staging directory owned by the current user. -/
def remove_owned_stage (faults : RemovalFaults) (stage marker : String) : WriterProgram Unit :=
  removal_errors do
    inspect faults.opening .os_error
    let s ← read
    let content ← attempt (owner_content (s.staging.get? marker))
    inspect faults.reading .os_error
    attempt (check_owner records content stage)
    remove_stage_directory faults stage
    atomically faults.unlinking .os_error fun s =>
      s.edit_staging fun staging => staging.erase marker

/-! ### Owner markers -/

structure MarkerFaults where
  creating : Fault Unit := .none
  /-- How many bytes an interrupted write leaves. -/
  writing : Fault ℕ := .none
  flushing : Fault Unit := .none
  linking : Fault Unit := .none
  unlinking : Fault Unit := .none
  flushing_directory : Fault Unit := .none

def put_pending (run : RunName) (content : List UInt8) (s : WriterState) : WriterState :=
  s.edit_staging fun staging => staging.insert run.pending (.file content true)

/-- `pending.open("xb")` and what is written to it. -/
def write_pending (faults : MarkerFaults) (run : RunName) : WriterProgram Unit := do
  let s ← read
  attempt (raise_if (s.staging.get? run.pending).isSome .os_error)
  atomically faults.creating .os_error (put_pending run [])
  operation faults.writing .os_error
    (fun written => put_pending run ((records.dumps run.text).take written))
    (put_pending run (records.dumps run.text))
  inspect faults.flushing .os_error

/-- `os.link(pending, marker)`. -/
def link_marker (faults : MarkerFaults) (run : RunName) : WriterProgram Unit := do
  let s ← read
  attempt (raise_if (s.staging.get? run.marker).isSome .os_error)
  atomically faults.linking .os_error fun s =>
    match s.staging.get? run.pending with
    | none => s
    | some entry => s.edit_staging fun staging => staging.insert run.marker entry

/-- Publish complete ownership bytes before a staging directory can exist. -/
def create_owner_marker (faults : MarkerFaults) (run : RunName) : WriterProgram Unit := do
  finally_do
    (do
      write_pending records faults run
      link_marker faults run)
    (atomically faults.unlinking .os_error fun s =>
      s.edit_staging fun staging => staging.erase run.pending)
  inspect faults.flushing_directory access_failure

/-! ### Recovery -/

/-- An order in which the entries of a directory are listed. -/
structure Listing where
  order : List String → List String
  order_perm : ∀ names, (order names).Perm names

def Listing.sorted : Listing where
  order := id
  order_perm := List.Perm.refl

/-- What happens to the operations of one recovery. -/
structure RecoveryCall where
  listed : Listing := .sorted
  listing : Fault Unit := .none
  examining : String → Fault Unit := fun _ => .none
  unlinking : String → Fault Unit := fun _ => .none
  removal : String → RemovalFaults := fun _ => {}

variable (call : RecoveryCall)

/-- An abandoned pending marker: small, owned, and without a stage. -/
def check_pending (staging : Dict StagedEntry) (run name : String) : Except WriterException Unit :=
  match staging.get? name with
  | none => .error .os_error
  | some (.file content true) =>
    raise_if (1024 < content.length ∨ (staging.get? run).isSome) storage_failure
  | some _ => .error storage_failure

def recover_pending (run name : String) : WriterProgram Unit := do
  inspect (call.examining name) .os_error
  let s ← read
  attempt (check_pending s.staging run name)
  atomically (call.unlinking name) .os_error fun s =>
    s.edit_staging fun staging => staging.erase name

/-- One entry of the staging directory. -/
def recover_entry (name : String) : WriterProgram Unit :=
  match split_suffix PENDING_SUFFIX name with
  | some run => if run_name run then recover_pending call run name else pure ()
  | none =>
    match split_suffix OWNER_SUFFIX name with
    | some run =>
      if run_name run then remove_owned_stage records (call.removal name) run name else pure ()
    | none => pure ()

def MAXIMUM_STAGED_ENTRIES : ℕ := 200000

def recover_entries : ℕ → List String → WriterProgram Unit
  | _, [] => pure ()
  | number, name :: rest => do
    attempt (raise_if (MAXIMUM_STAGED_ENTRIES < number)
      (.application (dataset_failure "dataset_limits")))
    recover_entry records call name
    recover_entries (number + 1) rest

/-- Recover owned marked runs. -/
def recover_staging : WriterProgram Unit := do
  inspect call.listing .os_error
  let s ← read
  recover_entries records call 1 (call.listed.order (s.staging.entries.map Prod.fst))

end DatasetWriter
end StegoLab

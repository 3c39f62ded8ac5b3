import StegoLab.Sources.Cache
import StegoLab.Sources.Cleanup

/-!
# Partial downloads of a job

The bounded listing of the partial downloads that a job owns, and their removal when the job is
cancelled. What cannot be listed or removed is logged and stays.
-/

namespace StegoLab

open Transaction Program DatasetCache

def MAXIMUM_PARTIAL_DIRECTORIES : ℕ := 8

def PARTIAL_SUFFIX : String := ".partial"

/-- What happens to the file operations of a removal. -/
structure DiscardFaults where
  listing : Fault Unit := .none
  reading : String → CacheFaults := fun _ => {}
  removing : String → CacheFaults := fun _ => {}

variable (faults : DiscardFaults) (owner : String)

/-! ### Listing -/

/-- The record names the owner. -/
def owned_by (record : Option ValidPartialRecord) : Bool :=
  record.any fun record => record.1.owner = owner

/-- The loop of `partial_directories`, which ends when enough are found. -/
def list_owned : List (String × Bool) → List String → CacheProgram (List String)
  | [], found => return found
  | directory :: rest, found => do
    let record ← (if directory.2 = true then
      read_partial_record (faults.reading directory.1) directory.1 else return none)
    let found := if owned_by owner record = true then found ++ [directory_name directory] else found
    if MAXIMUM_PARTIAL_DIRECTORIES ≤ found.length then return found else list_owned rest found

/-- `partial_directories`: the partial directories of one owner, relative to the cache root. -/
def partial_directories : CacheProgram (List String) := do
  inspect faults.listing .os_error
  let disk ← read
  list_owned faults owner (scan_cache disk) []

/-! ### Removing -/

/-- `text.removesuffix(suffix)`. -/
def remove_suffix (suffix text : String) : String :=
  if suffix.toList <:+ text.toList then
    String.ofList (text.toList.take (text.toList.length - suffix.toList.length))
  else text

/-- The kind and the identity that a listed directory names. -/
def named_partial (directory : String) : Except FetchException (SourceKind × String) :=
  match CACHE_KINDS.find? fun kind => kind.label = Text.before '/' directory with
  | none => .error (.cache "cache_key")
  | some kind => .ok (kind, remove_suffix PARTIAL_SUFFIX (Text.after '/' directory))

/-- The removal of one listed directory. -/
def remove_named (directory : String) : CacheProgram Unit := do
  let named ← attempt ( named_partial directory)
  let _ ← remove_partial (faults.removing directory) named.1 named.2 owner

/-- One round of the loop of `discard_partials`; a failure of the application is logged. -/
def discard_directory (directory : String) : CacheProgram Unit :=
  catching (remove_named faults owner directory) fun e =>
    match e with
    | .raised (.application _) => return ()
    | e => raise e

/-- The loop of `discard_partials`. -/
def discard_directories : List String → CacheProgram Unit
  | [] => return ()
  | directory :: rest => do
    discard_directory faults owner directory
    discard_directories rest

/-- The listing of `discard_partials`; a failure is logged. -/
def listed_partials : CacheProgram (List String) :=
  catching (partial_directories faults owner) fun e =>
    match e with
    | .raised (.application _) => return []
    | .raised .os_error => return []
    | e => raise e

/-- `discard_partials`: remove the partial downloads that a job owns. -/
def discard_partials (reported : List String) : CacheProgram Unit := do
  let listed ← listed_partials faults owner
  discard_directories faults owner
    ((reported ++ listed).dedup.insertionSort fun a b => a ≤ b)

end StegoLab

import StegoLab.Datasets.Inventory
import StegoLab.Storage.Staging

/-!
# The dataset writer

A writer owns the lock of its output root and one stage on the same filesystem. The stage is
published as a whole, or removed.
-/

namespace StegoLab

def MAXIMUM_SOURCE_BYTES : ℕ := 100 * 1024 ^ 3

/-- The storage policy of one writer. -/
structure DatasetWriter where
  output_root : List String
  source_directory : List String
  maximum_prepared_bytes : ℕ := MAXIMUM_SOURCE_BYTES
  run : DatasetWriter.RunName

namespace DatasetWriter

open Transaction Program

variable (records : OwnerRecords) (writer : DatasetWriter)

/-! ### Entering -/

/-- What one entry meets. -/
structure EnterCall where
  validating : Fault Unit := .none
  opening : Fault Unit := .none
  lock_regular : Bool := true
  /-- Another writer holds the lock. -/
  busy : Bool := false
  preparing : Fault Unit := .none
  recovery : RecoveryCall := {}
  usage : Option DiskUsage
  marker : MarkerFaults := {}
  making : Fault Unit := .none
  flushing : Fault Unit := .none
  cleaning : RemovalFaults := {}
  clearing : Fault Unit := .none

/-- Reject source/output overlap. -/
def validate_source_output : Except WriterException Unit :=
  raise_if (writer.source_directory <+: writer.output_root
    ∨ writer.output_root <+: writer.source_directory) access_failure

/-- `self.stage.mkdir(mode=0o700)`. -/
def make_stage (fault : Fault Unit) : WriterProgram Unit := do
  let s ← read
  attempt (raise_if (s.staging.get? writer.run.text).isSome .os_error)
  atomically fault .os_error fun s =>
    s.edit_staging fun staging => staging.insert writer.run.text (.directory .empty true)

/-- `self.stage.rmdir()`; a directory that is not empty is a fault of it. -/
def remove_empty_stage (fault : Fault Unit) : WriterProgram Unit := do
  let s ← read
  match s.staging.get? writer.run.text with
  | some (.directory _ _) =>
    atomically fault .os_error fun s =>
      s.edit_staging fun staging => staging.erase writer.run.text
  | _ => raise .os_error

/-- Release the lock of the root. -/
def release_lock : WriterProgram Unit :=
  atomically .none .os_error fun s => { s with locked := false }

/-- What a failed entry removes again. -/
def clean_entry (call : EnterCall) : WriterProgram Unit := do
  let s ← read
  if (s.staging.get? writer.run.marker).isSome then
    remove_owned_stage records call.cleaning writer.run.text writer.run.marker
  else if (s.staging.get? writer.run.text).isSome then
    remove_empty_stage writer call.clearing
  else pure ()

/-- Acquire the lock of the root. -/
def acquire_lock (call : EnterCall) : WriterProgram Unit := do
  inspect call.opening access_failure
  atomically .none .os_error fun s => { s with locked := true }
  attempt (raise_if (call.lock_regular = false) storage_failure)
  attempt (raise_if (call.busy = true) (.application (dataset_failure "dataset_busy")))

/-- `__enter__`: validate roots, acquire the exclusive lock, and recover owned stages. -/
def enter (call : EnterCall) : WriterProgram Unit := do
  attempt (validate_source_output writer)
  inspect call.validating access_failure
  catching
    (do
      acquire_lock call
      inspect call.preparing access_failure
      recover_staging records call.recovery
      attempt ((ensure_disk_reserve call.usage 1024).mapError .raised)
      create_owner_marker records call.marker writer.run
      make_stage writer call.making
      inspect call.flushing access_failure)
    fun e => do
      finally_do (clean_entry records writer call) release_lock
      raise (if e = .os_error then storage_failure else e)

/-- `__exit__`: keep published revisions and remove only this run's marked stage. -/
def exit (faults : RemovalFaults) : WriterProgram Unit :=
  finally_do
    (do
      let s ← read
      if (s.staging.get? writer.run.marker).isSome then
        remove_owned_stage records faults writer.run.text writer.run.marker
      else pure ())
    release_lock

/-- `with DatasetWriter(output_root, source_directory) as writer: body`. -/
def with_writer {α : Type} (call : EnterCall) (leaving : RemovalFaults) (body : WriterProgram α) :
    WriterProgram α := do
  enter records writer call
  finally_do body (exit records writer leaving)

/-! ### Directories -/

/-- The trees that a writer changes. -/
inductive Place where
  | root
  | stage

/-- The tree of a place; a stage that is missing has nothing in it. -/
def Place.tree (s : WriterState) : Place → FileTree
  | .root => s.root
  | .stage =>
    match s.staging.get? writer.run.text with
    | some (.directory tree _) => tree
    | _ => .empty

def Place.edit (f : FileTree → FileTree) (s : WriterState) : Place → WriterState
  | .root => { s with root := f s.root }
  | .stage =>
    match s.staging.get? writer.run.text with
    | some (.directory tree owned) =>
      s.edit_staging fun staging => staging.insert writer.run.text (.directory (f tree) owned)
    | _ => s

/-- Open one directory after another, and make those that are missing. -/
def open_directories (faults : List String → Fault Unit) (place : Place) (above : List String) :
    List String → WriterProgram Unit
  | [] => pure ()
  | part :: rest => do
    let path := above ++ [part]
    atomically (faults path) .os_error fun s =>
      place.edit writer (fun tree => tree.make_directory path) s
    let s ← read
    attempt (raise_if ((place.tree writer s).node path ≠ some .directory) .os_error)
    open_directories faults place path rest

/-- The stage itself, which the first write would make again if it were missing. -/
def open_place (fault : Fault Unit) : Place → WriterProgram Unit
  | .root => inspect fault .os_error
  | .stage => do
    let s ← read
    match s.staging.get? writer.run.text with
    | some (.directory _ _) => inspect fault .os_error
    | some _ => raise .os_error
    | none => make_stage writer fault

/-- `with directory_descriptor(place / parts, create=True): body`. -/
def within_directory {α : Type} (opening : Fault Unit) (faults : List String → Fault Unit)
    (place : Place) (parts : List String) (body : WriterProgram α) : WriterProgram α :=
  directory_errors do
    open_place writer opening place
    open_directories writer faults place [] parts
    body

/-! ### Charging -/

/-- Check estimated next writes without charging the run's byte allowance. -/
def check_estimated_space (usage : Option DiskUsage) (estimated_bytes : ℕ) :
    WriterProgram Unit := do
  let s ← read
  attempt (raise_if (writer.maximum_prepared_bytes < s.authorized_bytes + estimated_bytes)
    (.application (dataset_failure "dataset_space")))
  attempt ((ensure_disk_reserve usage estimated_bytes).mapError .raised)

/-- Charge each bounded write before it reaches the destination filesystem. -/
def reserve_write (usage : Option DiskUsage) (size : ℕ) : WriterProgram Unit := do
  let s ← read
  attempt (raise_if (s.locked = false ∨ s.published = true) storage_failure)
  check_estimated_space writer usage size
  atomically .none .os_error fun s => { s with authorized_bytes := s.authorized_bytes + size }

/-! ### Writing -/

/-- The parts of a relative path. -/
def path_parts (relative_path : String) : Except WriterException (List String) :=
  match relative_parts relative_path with
  | none => .error access_failure
  | some parts => .ok parts

/-- What happens to one new file. -/
structure WriteCall where
  opening : Fault Unit := .none
  directories : List String → Fault Unit := fun _ => .none
  creating : Fault Unit := .none
  /-- What the disk reports before each chunk, by the bytes before it. -/
  usage : ℕ → Option DiskUsage
  /-- How much of the file an interrupted write leaves. -/
  writing : ℕ → Fault ℕ := fun _ => .none
  flushing : Fault Unit := .none
  flushing_directory : Fault Unit := .none

/-- `open(name, O_CREAT | O_EXCL)`. -/
def create_file (fault : Fault Unit) (parts : List String) : WriterProgram Unit := do
  let s ← read
  attempt (raise_if ((Place.stage.tree writer s).node parts ≠ none) .os_error)
  atomically fault .os_error fun s =>
    Place.stage.edit writer (fun tree => tree.place parts (.file [])) s

/-- The chunks of a file, after the data that was written before them. -/
def write_chunks (call : WriteCall) (parts : List String) (maximum_bytes : Option ℕ)
    (written : List UInt8) : List (List UInt8) → WriterProgram (List UInt8)
  | [] => pure written
  | chunk :: rest => do
    attempt (raise_if (maximum_bytes.any fun maximum => maximum < written.length + chunk.length)
      (.application (dataset_failure "dataset_limits")))
    reserve_write writer (call.usage written.length) chunk.length
    operation (call.writing written.length) .os_error
      (fun reached => Place.stage.edit writer fun tree =>
        tree.place parts (.file ((written ++ chunk).take reached)))
      (Place.stage.edit writer fun tree => tree.place parts (.file (written ++ chunk)))
    write_chunks call parts maximum_bytes (written ++ chunk) rest

/-- A new file of the stage; `ending` is what the chunks raise after the last of them. -/
def write_file (call : WriteCall) (maximum_bytes : Option ℕ) (relative_path : String)
    (chunks : List (List UInt8)) (ending : Option WriterException) : WriterProgram (List UInt8) := do
  let parts ← attempt (path_parts relative_path)
  storage_errors
    (within_directory writer call.opening call.directories .stage parts.dropLast do
      create_file writer call.creating parts
      let data ← write_chunks writer call parts maximum_bytes [] chunks
      attempt (ending.elim (.ok ()) Except.error)
      inspect call.flushing .os_error
      inspect call.flushing_directory .os_error
      pure data)

def CHUNK_BYTES : ℕ := 1024 ^ 2

/-- `data` in chunks of one size. -/
def chunks_of (size : ℕ) (data : List UInt8) : List (List UInt8) :=
  (List.range ((data.length + size - 1) / size)).map fun index =>
    (data.drop (index * size)).take size

/-- Write a new small record within this stage without replacing entries. -/
def write_bytes (call : WriteCall) (relative_path : String) (data : List UInt8) :
    WriterProgram Unit := do
  let _ ← write_file writer call none relative_path (chunks_of CHUNK_BYTES data) none
  pure ()

/-- Stream a new file into this stage, charging bytes as they arrive. -/
def write_stream (sha256 : List UInt8 → String) (call : WriteCall) (relative_path : String)
    (chunks : List (List UInt8)) (ending : Option WriterException) (maximum_bytes : ℕ) :
    WriterProgram (String × ℕ) := do
  let data ← write_file writer call (some maximum_bytes) relative_path chunks ending
  pure (sha256 data, data.length)

/-- Check a callback-budgeted file without charging its bytes twice. -/
def record_external_write (fault : Fault Unit) (relative_path : String) (size : ℕ) :
    WriterProgram Unit := do
  let parts ← attempt (path_parts relative_path)
  storage_errors do
    inspect fault .os_error
    let s ← read
    attempt <|
      match (Place.stage.tree writer s).node parts with
      | none => .error .os_error
      | some (.file data) =>
        raise_if (data.length ≠ size ∨ s.authorized_bytes < size) storage_failure
      | some _ => .error storage_failure

/-- Return an existing safe revision path for full integrity validation. -/
def reuse_path (fault : Fault Unit) (relative_directory : String) :
    WriterProgram (Option (List String)) := do
  let parts ← attempt (path_parts relative_directory)
  let s ← read
  if s.root.node parts = none then pure none
  else do
    inspect fault access_failure
    attempt (raise_if (s.root.node parts ≠ some .directory) access_failure)
    pure (some parts)

/-! ### Publishing -/

structure PublishCall where
  opening : Fault Unit := .none
  directories : List String → Fault Unit := fun _ => .none
  usage : Option DiskUsage
  flushing_tree : Fault Unit := .none
  moving : Fault Unit := .none
  flushing_root : Fault Unit := .none
  unlinking : Fault Unit := .none
  flushing : Fault Unit := .none

/-- Rename a complete directory atomically without replacing any entry. -/
def publish_directory (fault : Fault Unit) (parts : List String) : WriterProgram Unit := do
  let s ← read
  match s.staging.get? writer.run.text with
  | some (.directory tree _) => do
    attempt (raise_if (s.root.node parts ≠ none) (.application (dataset_failure "dataset_exists")))
    atomically fault storage_failure fun s =>
      { s with
        root := s.root.graft parts tree
        staging := s.staging.erase writer.run.text }
  | _ => raise storage_failure

/-- Publish this complete stage once, without replacing prior revisions. -/
def publish (call : PublishCall) (relative_directory : String) :
    WriterProgram (List String) := do
  let s ← read
  attempt (raise_if (s.locked = false ∨ s.published = true) storage_failure)
  let parts ← attempt (path_parts relative_directory)
  storage_errors do
    within_directory writer call.opening call.directories .root parts.dropLast do
      check_estimated_space writer call.usage 0
      inspect call.flushing_tree access_failure
      publish_directory writer call.moving parts
      atomically .none .os_error fun s => { s with published := true }
      inspect call.flushing_root .os_error
    let s ← read
    attempt (raise_if (s.staging.get? writer.run.marker).isNone .os_error)
    atomically call.unlinking .os_error fun s =>
      s.edit_staging fun staging => staging.erase writer.run.marker
    inspect call.flushing access_failure
    pure parts

/-! ### Sessions -/

/-- What a caller does with its writer before it publishes. -/
inductive WriterAction where
  | write_file (call : WriteCall) (maximum_bytes : Option ℕ) (relative_path : String)
    (chunks : List (List UInt8)) (ending : Option WriterException)
  | reserve_write (usage : Option DiskUsage) (size : ℕ)
  | check_estimated_space (usage : Option DiskUsage) (estimated_bytes : ℕ)
  | record_external_write (fault : Fault Unit) (relative_path : String) (size : ℕ)
  | reuse_path (fault : Fault Unit) (relative_directory : String)
  /-- The caller changes its own stage. -/
  | stage_work (change : FileTree → FileTree)
  /-- The caller raises, or its process ends. -/
  | stops (stop : Stop WriterException)

def perform : WriterAction → WriterProgram Unit
  | .write_file call maximum_bytes relative_path chunks ending => do
    let _ ← write_file writer call maximum_bytes relative_path chunks ending
    pure ()
  | .reserve_write usage size => reserve_write writer usage size
  | .check_estimated_space usage estimated_bytes =>
    check_estimated_space writer usage estimated_bytes
  | .record_external_write fault relative_path size =>
    record_external_write writer fault relative_path size
  | .reuse_path fault relative_directory => do
    let _ ← reuse_path fault relative_directory
    pure ()
  | .stage_work change => atomically .none .os_error (Place.stage.edit writer change)
  | .stops stop => liftM (Except.error stop : Except (Stop WriterException) Unit)

/-- One use of a writer, with what it meets. -/
structure WriterSession where
  writer : DatasetWriter
  entering : EnterCall
  actions : List WriterAction
  publication : Option (PublishCall × String)
  leaving : RemovalFaults := {}

/-- The actions one after another, up to the first that fails. -/
def run_actions : List WriterAction → WriterProgram Unit
  | [] => pure ()
  | action :: rest => do
    perform writer action
    run_actions rest

def run_publication : Option (PublishCall × String) → WriterProgram Unit
  | none => pure ()
  | some (call, relative_directory) => do
    let _ ← publish writer call relative_directory
    pure ()

def WriterSession.program (session : WriterSession) : WriterProgram Unit :=
  with_writer records session.writer session.entering session.leaving do
    run_actions session.writer session.actions
    run_publication session.writer session.publication

/-- A new writer of an output root. -/
def DatasetDisk.start (disk : DatasetDisk) : WriterState :=
  { disk with authorized_bytes := 0, locked := false, published := false }

/-- How a session ends, and the disk that it leaves. -/
def WriterSession.result (session : WriterSession) (disk : DatasetDisk) :
    Except (Stop WriterException) Unit × DatasetDisk :=
  let ended := session.program records disk.start
  (ended.1, ended.2.toDatasetDisk)

/-- Sessions follow each other, as the lock of the root demands. -/
def SessionStep (disk : DatasetDisk) (session : WriterSession) (disk' : DatasetDisk) : Prop :=
  disk' = (session.result records disk).2

end DatasetWriter
end StegoLab

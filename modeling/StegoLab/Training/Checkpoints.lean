import Mathlib.Algebra.Order.Ring.Rat
import Mathlib.Data.Prod.Lex
import Mathlib.Data.String.Basic
import StegoLab.Datasets.Preparation
import StegoLab.Library.Ranking
import StegoLab.Storage.AtomicFiles

/-!
# Checkpoints

Saving full training states: a checkpoint is staged, verified and published before the index is
replaced, and old files are removed after that. Every file operation can fail or be cut short by a
crash.
-/

namespace StegoLab

open Transaction Program

/-- Hide file contents and low-level errors behind actionable safe guidance. -/
def checkpoint_failure : ApplicationFailure where
  code := "checkpoint_unavailable"
  message := "The checkpoint could not be verified, saved, or restored. Check its "
    ++ "compatibility, storage access, and free space. Previous saved files are kept."

/-! ### Records -/

/-- Finite measurements, as exact rationals. -/
structure CheckpointMetrics where
  exact_message_recovery : ℚ
  median_psnr : ℚ
  median_ssim : ℚ
  deriving DecidableEq

/-- A verified immutable state file. Configurations are canonical texts. -/
structure CheckpointSummary where
  checkpoint_identifier : String
  global_step : ℕ
  created_at : String
  configuration_checksum : String
  state_checksum : String
  state_bytes : ℕ
  configuration : String
  identities : Dict String
  metrics : Option CheckpointMetrics := none
  pinned : Bool := false
  deriving DecidableEq

structure CheckpointIndex where
  latest_identifier : Option String := none
  checkpoints : List CheckpointSummary := []
  deriving DecidableEq

/-- The pattern `^checkpoint_[0-9]+_[a-f0-9]{32}$`. -/
def checkpoint_pattern (identifier : String) : Bool :=
  let rest := identifier.toList.drop 11
  let digits := rest.takeWhile Char.isDigit
  let suffix := rest.drop digits.length
  decide (identifier.toList.take 11 = "checkpoint_".toList) && !digits.isEmpty &&
    decide (suffix.head? = some '_') && decide (suffix.length = 33) &&
    (suffix.drop 1).all fun c => decide (('a' ≤ c ∧ c ≤ 'f') ∨ ('0' ≤ c ∧ c ≤ '9'))

def CheckpointMetrics.Valid (metrics : CheckpointMetrics) : Prop :=
  0 ≤ metrics.exact_message_recovery ∧ metrics.exact_message_recovery ≤ 1 ∧
    -1 ≤ metrics.median_ssim ∧ metrics.median_ssim ≤ 1

instance CheckpointMetrics.decidable_valid (metrics : CheckpointMetrics) :
    Decidable metrics.Valid :=
  inferInstanceAs (Decidable (_ ∧ _))

def CheckpointSummary.Valid (summary : CheckpointSummary) : Prop :=
  checkpoint_pattern summary.checkpoint_identifier = true ∧
    1 ≤ summary.created_at.length ∧ summary.created_at.length ≤ 64 ∧
    is_sha256 summary.configuration_checksum = true ∧ is_sha256 summary.state_checksum = true ∧
    0 < summary.state_bytes ∧ summary.state_bytes ≤ 1024 ^ 3 ∧
    summary.identities.entries ≠ [] ∧ ∀ metrics ∈ summary.metrics, metrics.Valid

instance CheckpointSummary.decidable_valid (summary : CheckpointSummary) :
    Decidable summary.Valid :=
  inferInstanceAs (Decidable (_ ∧ _))

def CheckpointIndex.identifiers (index : CheckpointIndex) : List String :=
  index.checkpoints.map CheckpointSummary.checkpoint_identifier

/-- The entries, and `validate_identifiers`. -/
def CheckpointIndex.Valid (index : CheckpointIndex) : Prop :=
  (∀ item ∈ index.checkpoints, item.Valid) ∧ index.identifiers.Nodup ∧
    (∀ identifier ∈ index.latest_identifier, identifier ∈ index.identifiers) ∧
    (index.checkpoints ≠ [] → index.latest_identifier ≠ none)

instance CheckpointIndex.decidable_valid (index : CheckpointIndex) : Decidable index.Valid :=
  inferInstanceAs (Decidable (_ ∧ _))

/-! ### Retention -/

/-- The order of candidates; ties are resolved in favor of a later step. -/
abbrev CheckpointRank : Type :=
  ℚ ×ₗ ℚ ×ₗ ℚ ×ₗ ℕ ×ₗ String

/-- `rank`. It is only asked for measured candidates. -/
def CheckpointSummary.rank (item : CheckpointSummary) : CheckpointRank :=
  let metrics := item.metrics.getD ⟨0, 0, 0⟩
  toLex (metrics.exact_message_recovery, toLex (metrics.median_psnr, toLex (metrics.median_ssim,
    toLex (item.global_step, item.checkpoint_identifier))))

def measured (candidates : List CheckpointSummary) : List CheckpointSummary :=
  candidates.filter fun item => item.metrics.isSome

/-- The three measured best candidates. -/
def measured_best (candidates : List CheckpointSummary) : List CheckpointSummary :=
  Ranking.best CheckpointSummary.rank 3 (measured candidates)

/-- `_retained`: keep latest recovery, three measured best candidates, and pinned states. -/
def retained (index : CheckpointIndex) (latest : CheckpointSummary) :
    Except Raised CheckpointIndex := do
  let candidates := index.checkpoints ++ [latest]
  let best := latest.checkpoint_identifier ::
    (measured_best candidates).map CheckpointSummary.checkpoint_identifier
  let index : CheckpointIndex :=
    { latest_identifier := some latest.checkpoint_identifier
      checkpoints := candidates.filter fun item =>
        item.pinned || best.contains item.checkpoint_identifier }
  raise_if (¬ index.Valid) .value_error
  return index

/-! ### Storage -/

/-- The files of one checkpoint directory. -/
structure CheckpointFiles where
  state : Option (List UInt8) := none
  metadata : Option CheckpointSummary := none
  deriving DecidableEq

/-- The checkpoint directory: the index, the pending stages, and the completed checkpoints. -/
structure CheckpointDisk where
  index : Option CheckpointIndex := none
  pending : Dict CheckpointFiles := .empty
  completed : Dict CheckpointFiles := .empty
  deriving DecidableEq

abbrev CheckpointProgram (α : Type) : Type :=
  Program CheckpointDisk Raised α

/-- What a state file holds, as far as it is compared with its metadata. -/
structure CheckpointState where
  global_step : ℕ
  identities : Dict String
  configuration : String

/-- Digests, and reading a serialized state. -/
structure CheckpointLibrary where
  checksum : List UInt8 → String
  frozen_checksum : String → String
  load_state : List UInt8 → Option CheckpointState

section Reading

variable (library : CheckpointLibrary)

/-- The comparisons of `_read_checkpoint`. -/
def AgreesWith (name : String) (summary : CheckpointSummary) (state : List UInt8)
    (loaded : CheckpointState) : Prop :=
  name = summary.checkpoint_identifier ∧ library.checksum state = summary.state_checksum ∧
    state.length = summary.state_bytes ∧ loaded.global_step = summary.global_step ∧
    loaded.identities = summary.identities ∧ loaded.configuration = summary.configuration ∧
    library.frozen_checksum loaded.configuration = summary.configuration_checksum

instance AgreesWith.decidable (name : String) (summary : CheckpointSummary) (state : List UInt8)
    (loaded : CheckpointState) : Decidable (AgreesWith library name summary state loaded) :=
  inferInstanceAs (Decidable (_ ∧ _))

/-- `_read_checkpoint`: cross-check serialized state with its independently stored manifest. -/
def read_checkpoint (disk : CheckpointDisk) (name : String) : Except Raised CheckpointSummary :=
  match disk.completed.get? name with
  | none => .error .value_error
  | some files =>
    match files.metadata, files.state with
    | some summary, some state =>
      match library.load_state state with
      | none => .error .value_error
      | some loaded => do
        raise_if (¬ summary.Valid ∨ ¬ AgreesWith library name summary state loaded) .value_error
        return summary
    | _, _ => .error .value_error

end Reading

/-- `_index`: the published index. -/
def CheckpointDisk.read_index (disk : CheckpointDisk) : Except Raised CheckpointIndex :=
  match disk.index with
  | none => .ok {}
  | some index => if index.Valid then .ok index else .error .value_error

/-! ### Saving -/

/-- What is saved: the settings and measurements, and the bytes that the state is written as. -/
structure SaveRequest where
  uuid : String
  global_step : ℕ
  created_at : String
  configuration : String
  identities : Dict String
  metrics : Option CheckpointMetrics := none
  pinned : Bool := false
  state : List UInt8

/-- What happens in one save. A write of the state, and a removal of a directory, can stop anywhere
in between. -/
structure SaveFaults where
  checkpoint_lock : Fault Unit := .none
  read_index : Fault Unit := .none
  mkdir : Fault Unit := .none
  safe_state : Fault Unit := .none
  save_state : Fault (List UInt8) := .none
  validate_restore : Fault Unit := .none
  metadata : WriteFaults := {}
  sync_stage : Fault Unit := .none
  rename : Fault Unit := .none
  sync_directory : Fault Unit := .none
  read_checkpoint : Fault Unit := .none
  index : WriteFaults := {}
  is_symlink : String → Bool := fun _ => false
  rmtree : String → Fault (Option CheckpointFiles) := fun _ => .none
  rmtree_stage : Fault (Option CheckpointFiles) := .none

def SaveRequest.identifier (request : SaveRequest) : String :=
  "checkpoint_" ++ toString request.global_step ++ "_" ++ request.uuid

/-- What is left of a directory. -/
def with_files (directories : Dict CheckpointFiles) (name : String)
    (files : Option CheckpointFiles) : Dict CheckpointFiles :=
  match files with
  | none => directories.erase name
  | some files => directories.insert name files

section Saving

variable (library : CheckpointLibrary) (faults : SaveFaults) (request : SaveRequest)

/-- The summary of a saved state. -/
def SaveRequest.summary : CheckpointSummary where
  checkpoint_identifier := request.identifier
  global_step := request.global_step
  created_at := request.created_at
  configuration_checksum := library.frozen_checksum request.configuration
  state_checksum := library.checksum request.state
  state_bytes := request.state.length
  configuration := request.configuration
  identities := request.identities
  metrics := request.metrics
  pinned := request.pinned

/-- Write to a file of the stage. -/
def change_stage (files : CheckpointFiles → CheckpointFiles) (disk : CheckpointDisk) :
    CheckpointDisk :=
  { disk with
    pending := disk.pending.insert request.identifier
      (files ((disk.pending.get? request.identifier).getD {})) }

/-- The stage up to its metadata. -/
def stage_checkpoint : CheckpointProgram CheckpointSummary := do
  let disk ← read
  attempt (raise_if ((disk.pending.get? request.identifier).isSome = true) Raised.os_error)
  atomically faults.mkdir .os_error (change_stage request id)
  inspect faults.safe_state .value_error
  operation faults.save_state .os_error
    (fun reached => change_stage request fun files => { files with state := some reached })
    (change_stage request fun files => { files with state := some request.state })
  attempt (raise_if ((library.load_state request.state).isNone = true) Raised.value_error)
  inspect faults.validate_restore .value_error
  attempt (raise_if (¬ (request.summary library).Valid) Raised.value_error)
  atomic_json faults.metadata
    (change_stage request fun files => { files with metadata := some (request.summary library) })
  inspect faults.sync_stage .os_error
  return request.summary library

/-- `os.rename(stage, completed)`. -/
def publish_checkpoint : CheckpointProgram Unit := do
  let disk ← read
  attempt (raise_if ((disk.completed.get? request.identifier).isSome = true) Raised.os_error)
  atomically faults.rename .os_error fun disk =>
    { disk with
      pending := disk.pending.erase request.identifier
      completed := disk.completed.insert request.identifier
        ((disk.pending.get? request.identifier).getD {}) }

/-- Remove the old directories that the index does not name any more. -/
def prune (kept : List String) : List CheckpointSummary → CheckpointProgram Unit
  | [] => return ()
  | item :: rest => do
    if kept.contains item.checkpoint_identifier then prune kept rest
    else do
      attempt (raise_if (faults.is_symlink item.checkpoint_identifier = true) Raised.value_error)
      operation (faults.rmtree item.checkpoint_identifier) .os_error
        (fun reached disk => { disk with
          completed := with_files disk.completed item.checkpoint_identifier reached })
        (fun disk => { disk with completed := disk.completed.erase item.checkpoint_identifier })
      prune kept rest

/-- The body of `save_checkpoint` after the stage has its name. -/
def save_stage (previous : CheckpointIndex) : CheckpointProgram CheckpointSummary := do
  let summary ← stage_checkpoint library faults request
  publish_checkpoint faults request
  inspect faults.sync_directory .os_error
  inspect faults.read_checkpoint .os_error
  let disk ← read
  let _ ← attempt (read_checkpoint library disk request.identifier)
  let index ← attempt (retained previous summary)
  atomic_json faults.index fun disk => { disk with index := some index }
  prune faults index.identifiers previous.checkpoints
  return summary

/-- `shutil.rmtree(stage, ignore_errors=True)` when the stage is there. -/
def remove_stage : CheckpointProgram Unit := do
  let disk ← read
  if (disk.pending.get? request.identifier).isNone = true then return ()
  else
    catching
      (operation faults.rmtree_stage Raised.os_error
        (fun reached disk =>
          { disk with pending := with_files disk.pending request.identifier reached })
        fun disk => { disk with pending := disk.pending.erase request.identifier })
      fun _ => pure ()

/-- Publish a verified full state before changing pointers or pruning old files. -/
def save_checkpoint : CheckpointProgram CheckpointSummary :=
  catching
    (do
      inspect faults.checkpoint_lock .os_error
      inspect faults.read_index .os_error
      let disk ← read
      let previous ← attempt disk.read_index
      finally_do (save_stage library faults request previous) (remove_stage faults request))
    fun _ => raise (.application checkpoint_failure)

end Saving

end StegoLab

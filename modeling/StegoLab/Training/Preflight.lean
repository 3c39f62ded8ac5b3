import StegoLab.Budget.Ledger
import StegoLab.Storage.DiskReserve
import StegoLab.Training.Checkpoints
import StegoLab.Training.ProofBudget
import StegoLab.Workflow.Jobs

/-!
# The training preflight

Read-only checks of a training request before its job is queued. The worker enters the proof budget
later, by rules of its own.
-/

namespace StegoLab

open Transaction

/-! ### The workspace -/

/-- What is found of one output folder, or of its nearest ancestor that exists. -/
structure OutputFolder where
  is_directory : Bool
  writable : Bool
  disk_usage : Option DiskUsage

/-- What the checks find in a workspace, for one experiment. -/
structure ProofWorkspace where
  folder : String → OutputFolder
  budget : BudgetDisk
  /-- Some experiment has a checkpoint index. -/
  published : Bool
  /-- The checkpoint folder of the experiment. -/
  checkpoints : CheckpointDirectory

/-- The checks of datasets and checkpoints. -/
structure WorkspaceCatalog where
  dataset_blockers : String → Except Raised (List String)
  checkpoint_blockers : String → Except Raised (List String)
  checkpoint_summary : String → Except Raised CheckpointSummary
  /-- The revision of the manifest. -/
  dataset_revision : String → Except Raised String
  /-- The fixed profile, with the settings that its threads give, and its canonical text. -/
  resolved_settings : ℕ → CanonicalJson.Json
  training_configuration : ℕ → String

/-! ### Output folders -/

def PathKind.exists (kind : PathKind) : Bool :=
  kind ≠ .absent

/-- What is found of the folder with this label. -/
def ProofWorkspace.output_folder (workspace : ProofWorkspace) (label : String) : OutputFolder :=
  let folder := workspace.folder label
  if label ≠ "checkpoint" then folder
  else if workspace.checkpoints.directory.exists then
    { folder with is_directory := workspace.checkpoints.directory = .directory }
  else if workspace.checkpoints.parent.exists then
    { folder with is_directory := workspace.checkpoints.parent = .directory }
  else folder

def output_folders (operation : Operation) : List String :=
  ["log"] ++ (if operation = .prepare_dataset then ["dataset"] else ["budget"])
    ++ (if operation = .train then ["checkpoint"] else [])
    ++ (if operation = .«export» then ["model"] else [])

def output_blocker (label : String) (folder : OutputFolder) : Except Raised (List String) :=
  if ¬ (folder.is_directory = true ∧ folder.writable = true) then
    .ok ["The " ++ label ++ " output folder is not writable. "
      ++ "Ask the server owner to check local folder permissions."]
  else
    match folder.disk_usage with
    | none => .error .os_error
    | some usage =>
      if usage.free ≤ max MINIMUM_RESERVE_BYTES ((usage.total + 9) / 10) then
        .ok ["Storage is below the required free-space reserve. "
          ++ "Free disk space before starting."]
      else .ok []

/-- Check existing ancestors without creating folders or changing permissions. -/
def output_blockers (workspace : ProofWorkspace) (operation : Operation) :
    Except Raised (List String) := do
  let blockers ← (output_folders operation).mapM fun label =>
    output_blocker label (workspace.output_folder label)
  return blockers.flatten.eraseDups

/-! ### The checks -/

/-- Inspect the original ledger without creating or reconciling an allowance. -/
def read_budget (workspace : ProofWorkspace) : Except Raised BudgetLedger :=
  if workspace.budget.ledger = .absent ∧
      (workspace.budget.initialized = true ∨ workspace.published = true) then
    .error .value_error
  else workspace.budget.stored

structure PreflightState where
  blockers : List String
  warnings : List String :=
    ["CPU experiments do not establish release quality or detection resistance."]
  remaining : ℚ := 0
  slots : ℕ := 0

abbrev Preflight (α : Type) : Type := Transaction PreflightState Raised α

def extend (messages : List String) : Preflight Unit := fun state =>
  (.ok (), { state with blockers := state.blockers ++ messages })

def block_if (condition : Prop) [Decidable condition] (message : String) : Preflight Unit :=
  extend (if condition then [message] else [])

def check_dataset (catalog : WorkspaceCatalog) (request : WorkflowRequest) : Preflight Unit :=
  match request.dataset_identifier with
  | none => extend ["Select a prepared dataset."]
  | some dataset => do
    let blockers ← catalog.dataset_blockers dataset
    extend blockers

/-- A checkpoint is resumed on the dataset that it was trained on. -/
def check_revision (catalog : WorkspaceCatalog) (request : WorkflowRequest)
    (summary : CheckpointSummary) : Preflight Unit :=
  match request.dataset_identifier with
  | none => pure ()
  | some dataset => do
    let revision ← catalog.dataset_revision dataset
    block_if (summary.identities.get? "dataset_revision" ≠ some revision)
      "Resume must use the checkpoint's original dataset revision."

def check_checkpoint (catalog : WorkspaceCatalog) (request : WorkflowRequest) :
    Preflight (Option CheckpointSummary) :=
  match request.checkpoint_identifier with
  | none => pure none
  | some checkpoint => do
    let blockers ← catalog.checkpoint_blockers checkpoint
    extend blockers
    let summary ← catalog.checkpoint_summary checkpoint
    block_if (summary.identities.get? "experiment_identifier" ≠ some request.experiment_identifier)
      "Resume must use the checkpoint's original experiment name."
    block_if (summary.configuration ≠ catalog.training_configuration request.cpu_threads)
      "Resume must keep every saved training setting unchanged."
    block_if (request.stop_after_step ≤ summary.global_step)
      "Choose a stop step later than the saved checkpoint."
    check_revision catalog request summary
    return some summary

/-- The folder of the experiment holds more than the lock of its checkpoints. -/
def saved_state (checkpoints : CheckpointDirectory) : Except Raised Bool :=
  if checkpoints.directory.exists = false then .ok false
  else
    match checkpoints.entries with
    | none => .error .os_error
    | some entries => .ok (entries.any fun entry => entry.1 ≠ ".checkpoint.lock")

def check_saved_state (workspace : ProofWorkspace) (fresh : Bool) : Preflight Unit :=
  if fresh = true then do
    let saved ← saved_state workspace.checkpoints
    block_if (saved = true)
      "This experiment has saved state. Select its checkpoint to resume."
  else pure ()

def note_allowance (remaining : ℚ) (slots : ℕ) : Preflight Unit := fun state =>
  (.ok (), { state with remaining, slots })

def warn_active (ledger : BudgetLedger) : Preflight Unit := fun state =>
  if ledger.active = none then (.ok (), state)
  else (.ok (), { state with warnings := state.warnings
    ++ ["A CPU allowance is active or needs recovery. "
      ++ "The original budget will be checked again before work starts."] })

/-- What the ledger leaves for the experiment. -/
def check_allowance (workspace : ProofWorkspace) (request : WorkflowRequest)
    (summary : Option CheckpointSummary) : Preflight Unit := do
  let ledger ← read_budget workspace
  let slots := BudgetLedger.maximum_experiments - ledger.experiments.length
  let existing := ledger.names.contains request.experiment_identifier
  let remaining := max 0 (ledger.allowance request.experiment_identifier)
  note_allowance remaining slots
  block_if (existing = false ∧ (slots = 0 ∨ summary.isSome = true))
    "No matching experiment allowance is available in the original ledger."
  check_saved_state workspace (existing && summary.isNone)
  block_if (remaining ≤ BudgetLedger.save_reserve_seconds)
    ("The CPU training allowance is exhausted; "
      ++ "remaining time is reserved for checks.")
  warn_active ledger

def preflight_checks (catalog : WorkspaceCatalog) (workspace : ProofWorkspace)
    (request : WorkflowRequest) : Preflight Unit := do
  block_if (request.operation ≠ .train) "Choose a training request for this check."
  check_dataset catalog request
  let summary ← check_checkpoint catalog request
  check_allowance workspace request summary

/-- A failed check is a blocker too. -/
def failed_check : Raised → Preflight Unit
  | .application failure => extend [failure.message]
  | _ => extend ["Saved data or the CPU allowance could not be verified. "
    ++ "Keep the original files."]

/-- The answer, with everything it reports. -/
structure PreflightReport extends TrainingPreflight where
  warnings : List String
  remaining_budget_seconds : ℚ
  remaining_experiment_slots : ℕ

/-- Explain blockers while retaining the original fixed CPU profile and limits. -/
def training_preflight (catalog : WorkspaceCatalog) (workspace : ProofWorkspace)
    (request : WorkflowRequest) : Except Raised PreflightReport := do
  let blockers ← output_blockers workspace request.operation
  let state := (rescue (preflight_checks catalog workspace request) failed_check { blockers }).2
  return {
    allowed := state.blockers.isEmpty
    blockers := state.blockers.eraseDups
    resolved_settings := catalog.resolved_settings request.cpu_threads
    warnings := state.warnings
    remaining_budget_seconds := state.remaining
    remaining_experiment_slots := state.slots }

/-- The invocation of the worker: it resumes exactly when a checkpoint is named. -/
def worker_invocation (workspace : ProofWorkspace) (request : WorkflowRequest) : ProofRequest where
  experiment_identifier := request.experiment_identifier
  resume := request.checkpoint_identifier.isSome
  checkpoint_directory := some { workspace.checkpoints with original := true }

end StegoLab

import Mathlib.Algebra.BigOperators.Group.List.Basic
import Mathlib.Algebra.Order.Ring.Rat
import Mathlib.Tactic.Linarith
import StegoLab.Library.Crashes

/-!
# The ledger of the CPU proof

Spent time, experiment slots, and crash reservations of the bounded local CPU proof, and the
admission of an invocation. Times are exact rationals in seconds.
-/

namespace StegoLab

/-- Budget failures, without storage details. -/
def proof_failure (message : String) : ApplicationFailure where
  code := "proof_budget_unavailable"
  message := message

/-! ### Records -/

/-- Every invocation that belongs to one experiment. -/
structure ExperimentBudget where
  experiment_identifier : String
  consumed_seconds : ℚ := 0
  deriving DecidableEq

/-- The remaining session allowance, reserved before any proof work starts. -/
structure ActiveBudget where
  experiment_identifier : String
  started_at : ℚ
  reserved_seconds : ℚ
  deriving DecidableEq

structure BudgetLedger where
  consumed_seconds : ℚ := 0
  experiments : List ExperimentBudget := []
  active : Option ActiveBudget := none
  deriving DecidableEq

namespace BudgetLedger

def maximum_experiments : ℕ := 2
def maximum_total_seconds : ℚ := 14400
def maximum_experiment_seconds : ℚ := 7200
def save_reserve_seconds : ℚ := 1200

end BudgetLedger

/-- The pattern `^[A-Za-z0-9][A-Za-z0-9_-]{0,127}$`. -/
def experiment_pattern (identifier : String) : Bool :=
  match identifier.toList with
  | [] => false
  | first :: rest => first.isAlphanum && decide (rest.length ≤ 127) &&
      rest.all fun c => c.isAlphanum || c == '_' || c == '-'

def ExperimentBudget.Valid (experiment : ExperimentBudget) : Prop :=
  experiment_pattern experiment.experiment_identifier = true ∧ 0 ≤ experiment.consumed_seconds

def ActiveBudget.Valid (active : ActiveBudget) : Prop :=
  0 ≤ active.started_at ∧ 0 < active.reserved_seconds ∧ active.reserved_seconds ≤ 7200

namespace BudgetLedger

variable (ledger : BudgetLedger)

def names : List String :=
  ledger.experiments.map ExperimentBudget.experiment_identifier

/-- The time of all experiments. -/
def experiment_seconds : ℚ :=
  (ledger.experiments.map ExperimentBudget.consumed_seconds).sum

/-- The fields, and `consistent_accounting`. -/
def Valid : Prop :=
  0 ≤ ledger.consumed_seconds ∧ ledger.experiments.length ≤ 2 ∧
    (∀ experiment ∈ ledger.experiments, experiment.Valid) ∧
    (∀ active ∈ ledger.active, active.Valid) ∧ ledger.names.Nodup ∧
    |ledger.experiment_seconds - ledger.consumed_seconds| ≤ 1 / 1000000 ∧
    ∀ active ∈ ledger.active, active.experiment_identifier ∈ ledger.names

end BudgetLedger

instance ExperimentBudget.decidable_valid (experiment : ExperimentBudget) :
    Decidable experiment.Valid :=
  inferInstanceAs (Decidable (_ ∧ _))

instance ActiveBudget.decidable_valid (active : ActiveBudget) : Decidable active.Valid :=
  inferInstanceAs (Decidable (_ ∧ _))

instance BudgetLedger.decidable_valid (ledger : BudgetLedger) : Decidable ledger.Valid :=
  inferInstanceAs (Decidable (_ ∧ _))

namespace BudgetLedger

/-! ### Charges -/

variable (ledger : BudgetLedger)

/-- Add to the time of one experiment and of the project. Identifiers are unique. -/
def charge (identifier : String) (seconds : ℚ) : BudgetLedger :=
  { ledger with
    consumed_seconds := ledger.consumed_seconds + seconds
    experiments := ledger.experiments.map fun experiment =>
      if experiment.experiment_identifier = identifier then
        { experiment with consumed_seconds := experiment.consumed_seconds + seconds }
      else experiment }

/-- `_reconcile`: an abandoned operation is charged its full reservation. -/
def reconciled : BudgetLedger :=
  match ledger.active with
  | none => ledger
  | some active =>
    { ledger.charge active.experiment_identifier active.reserved_seconds with active := none }

/-- The time of the invocations of one experiment. -/
def experiment_consumed (identifier : String) : ℚ :=
  ((ledger.experiments.find? fun experiment =>
    experiment.experiment_identifier = identifier).map
      ExperimentBudget.consumed_seconds).getD 0

/-- The smaller of the remaining allowances of the project and of the experiment. -/
def allowance (identifier : String) : ℚ :=
  min (maximum_total_seconds - ledger.consumed_seconds)
    (maximum_experiment_seconds - ledger.experiment_consumed identifier)

end BudgetLedger

/-! ### Admission -/

inductive PathKind where
  | absent
  | file
  | directory
  | symlink
  | other
  deriving DecidableEq, Repr

/-- A checkpoint directory as an invocation names it: whether it is the one of its experiment, and
what is there. A directory that cannot be listed has no entries to report. -/
structure CheckpointDirectory where
  original : Bool
  parent : PathKind
  directory : PathKind
  entries : Option (List (String × PathKind))

/-- An invocation. -/
structure ProofRequest where
  experiment_identifier : String
  resume : Bool := false
  checkpoint_directory : Option CheckpointDirectory := none

def PathKind.unsafe_directory (kind : PathKind) : Bool :=
  kind ≠ .absent && kind ≠ .directory

/-- `_startup_retry`: a spent slot may be retried before any checkpoint was published. -/
def startup_retry : Option CheckpointDirectory → Except Raised Bool
  | none => .ok false
  | some directory => do
    raise_if (directory.original = false)
      (.application (proof_failure "Use this experiment's original checkpoint directory."))
    raise_if (directory.parent.unsafe_directory = true ∨
        directory.directory.unsafe_directory = true)
      (.application (proof_failure "Checkpoint storage is unsafe; restore it before retrying."))
    if directory.directory = .absent then return true
    else
      match directory.entries with
      | none => .error .os_error
      | some entries =>
        return entries.all fun entry => entry.1 = ".checkpoint.lock" ∧ entry.2 = .file

/-- The checks of `__enter__` on a reconciled ledger: the ledger with the reservation. -/
def admission (request : ProofRequest) (now : ℚ) (ledger : BudgetLedger) :
    Except Raised BudgetLedger := do
  let identifier := request.experiment_identifier
  let existing := ledger.names.contains identifier
  let startup_retry ← (if existing && !request.resume then
    startup_retry request.checkpoint_directory else .ok false)
  raise_if (existing ≠ request.resume ∧ startup_retry = false) (.application (proof_failure
    ("Use resume for an existing proof experiment, or choose an unused "
      ++ "experiment identifier for a new experiment.")))
  raise_if (existing = false ∧ BudgetLedger.maximum_experiments ≤ ledger.experiments.length)
    (.application (proof_failure "Both CPU proof experiment slots have been used."))
  let ledger := if existing then ledger else
    { ledger with experiments := ledger.experiments ++ [{ experiment_identifier := identifier }] }
  let allowance := ledger.allowance identifier
  raise_if (allowance ≤ 0)
    (.application (proof_failure "The saved CPU proof time budget is exhausted."))
  let active : ActiveBudget :=
    { experiment_identifier := identifier, started_at := now, reserved_seconds := allowance }
  raise_if (¬ active.Valid) .value_error
  return { ledger with active := some active }

end StegoLab

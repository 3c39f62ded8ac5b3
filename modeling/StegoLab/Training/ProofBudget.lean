import StegoLab.Storage.AtomicFiles
import StegoLab.Training.ProofLedger

/-!
# The CPU proof budget

Entering and leaving the budget. Every write of the ledger can fail, or be cut short by a crash,
before or after the file is replaced.
-/

namespace StegoLab

open Transaction Program

/-! ### Storage -/

/-- An invocation that runs: its experiment, and its ledger in memory. -/
structure ProofSession where
  experiment_identifier : String
  ledger : BudgetLedger
  deriving DecidableEq

/-- The ledger file; one that is damaged or not regular cannot be read. -/
inductive LedgerFile where
  | absent
  | unreadable
  | holds (ledger : BudgetLedger)
  deriving DecidableEq

/-- The ledger directory: `ledger.json`, and whether `.initialized.json` is there. -/
structure BudgetDisk where
  ledger : LedgerFile := .absent
  initialized : Bool := false
  deriving DecidableEq

abbrev BudgetProgram (α : Type) : Type :=
  Program BudgetDisk Raised α

/-- What happens in one `_persist`. -/
structure PersistFaults where
  ledger : WriteFaults := {}
  look : Fault Unit := .none
  initialized : WriteFaults := {}

/-- What happens in one invocation: whether another one holds the lock, and the file operations. -/
structure ProofFaults where
  busy : Bool := false
  open_lock : Fault Unit := .none
  look : Fault Unit := .none
  read_ledger : Fault Unit := .none
  reconcile : PersistFaults := {}
  reserve : PersistFaults := {}

namespace ProofBudget

/-- `_persist`: validate and publish the complete accounting record. -/
def persist (faults : PersistFaults) (ledger : BudgetLedger) : BudgetProgram Unit := do
  attempt (raise_if (¬ ledger.Valid) .value_error)
  atomic_json faults.ledger fun disk => { disk with ledger := .holds ledger }
  inspect faults.look .os_error
  let disk ← read
  if disk.initialized then return ()
  else atomic_json faults.initialized fun disk => { disk with initialized := true }

end ProofBudget

/-- The ledger that is stored; the empty one before the first invocation. -/
def BudgetDisk.stored (disk : BudgetDisk) : Except Raised BudgetLedger :=
  match disk.ledger with
  | .holds ledger => if ledger.Valid then .ok ledger else .error .value_error
  | .unreadable => .error .value_error
  | .absent => if disk.initialized then .error .value_error else .ok {}

namespace ProofBudget

/-- Read the stored ledger. -/
def load_ledger (faults : ProofFaults) : BudgetProgram BudgetLedger := do
  inspect faults.look .os_error
  inspect faults.read_ledger .os_error
  let disk ← read
  attempt disk.stored

/-- `_reconcile`. -/
def reconcile (faults : PersistFaults) (ledger : BudgetLedger) : BudgetProgram BudgetLedger :=
  if ledger.active = none then return ledger
  else do
    persist faults ledger.reconciled
    return ledger.reconciled

/-! ### Entering and leaving -/

/-- The body of `__enter__`. -/
def reserve_time (faults : ProofFaults) (request : ProofRequest) (now : ℚ) :
    BudgetProgram ProofSession := do
  attempt (raise_if (experiment_pattern request.experiment_identifier = false) .value_error)
  inspect faults.open_lock .os_error
  attempt (raise_if (faults.busy = true)
    (.application (proof_failure "Another CPU proof operation is already running.")))
  let ledger ← load_ledger faults
  let ledger ← reconcile faults.reconcile ledger
  let ledger ← attempt (admission request now ledger)
  persist faults.reserve ledger
  return { experiment_identifier := request.experiment_identifier, ledger }

def verify_failure : ApplicationFailure :=
  proof_failure ("The CPU proof ledger could not be verified or saved. Check storage "
    ++ "access and free space; keep the existing ledger for recovery.")

/-- `__enter__`: lock, reconcile crashes, and reserve time before starting an operation. -/
def enter (faults : ProofFaults) (request : ProofRequest) (now : ℚ) : BudgetProgram ProofSession :=
  catching (reserve_time faults request now) fun
    | .application failure => raise (.application failure)
    | _ => raise (.application verify_failure)

def accounting_failure : ApplicationFailure :=
  proof_failure ("The CPU proof accounting could not be saved. The reserved time "
    ++ "will be charged during recovery; keep the existing ledger.")

/-- `__exit__`: charge the elapsed time on a clean exit. -/
def leave (faults : PersistFaults) (session : ProofSession) (elapsed : ℚ) : BudgetProgram Unit :=
  catching
    (persist faults
      { session.ledger.charge session.experiment_identifier (max 0 elapsed) with active := none })
    fun _ => raise (.application accounting_failure)

end ProofBudget

end StegoLab

import StegoLab.Library.Transactions
import StegoLab.Library.Runs
import StegoLab.Budget.Ledger

/-!
# Ledger operations

Small transactions on the stored ledger. Every operation takes the reading of the clock, loads the
ledger, changes it and saves it after validating it again; the lock makes them one after another.
-/

namespace StegoLab

open Transaction

/-! ### Storage -/

/-- Why an operation is refused. -/
inductive Refused where
  | application (failure : ApplicationFailure)
  | value_error (message : String)
  /-- A record that cannot be built. -/
  | invalid (reason : Invalid)
  /-- `pilot_budget_inconsistent`: the ledger would break its rules. -/
  | inconsistent (reason : Invalid)
  deriving DecidableEq

/-- Transactions on the stored ledger. -/
abbrev Budget (α : Type) : Type := Transaction PilotBudgetLedger Refused α

def RESTORE_MESSAGE : String :=
  "The pilot ledger is unavailable or invalid. Restore its verified backup; do not create a " ++
    "replacement budget."

/-- Public accounting guidance. -/
def budget_failure (message : String) : Refused :=
  .application
    { code := "pilot_budget_unavailable"
      message := message }

/-- The outcome of a validation, as a refusal of the given kind. -/
def refuse_invalid {α : Type} (refusal : Invalid → Refused) : Except Invalid α → Except Refused α
  | .ok value => .ok value
  | .error reason => .error (refusal reason)

/-- Fail closed on damaged accounting. -/
def load_ledger : Budget PilotBudgetLedger := do
  let stored ← read
  refuse_invalid (fun _ => budget_failure RESTORE_MESSAGE) stored.validate
  return stored

/-- Verify records before publishing them. -/
def save_ledger (ledger : PilotBudgetLedger) : Budget Unit := do
  refuse_invalid .inconsistent ledger.validate
  write ledger

/-! ### Time spent -/

/-- Charge startup, idle, all jobs, shutdown, and any overrun without capping it. -/
def consumed_seconds (ledger : PilotBudgetLedger) (observed_at : ℚ) (stage : Option PilotStage) :
    ℚ :=
  ((ledger.sessions.filter fun session => stage = none ∨ stage = some session.stage).map
    fun session =>
      or_time session.stopped_at (max observed_at session.last_observed_at) - session.started_at).sum

/-- Count closed sessions by elapsed time and an open session by its allowance. -/
def reserved_seconds (ledger : PilotBudgetLedger) (stage : PilotStage) : ℚ :=
  ((ledger.sessions.filter fun session => session.stage = stage).map fun session =>
    session.stopped_at.getD session.deadline_at - session.started_at).sum

/-! ### Sessions -/

/-- Require the exact active session. -/
def active (ledger : PilotBudgetLedger) (identifier : String) : Except Refused PilotSession :=
  match ledger.sessions.getLast? with
  | none => .error (budget_failure "No matching active instance session. Check the ledger.")
  | some session =>
    if session.session_identifier ≠ identifier ∨ session.stopped_at.isSome then
      .error (budget_failure "No matching active instance session. Check the ledger.")
    else .ok session

/-- Change the last session. -/
def PilotBudgetLedger.replace_last (ledger : PilotBudgetLedger) (session : PilotSession) :
    PilotBudgetLedger :=
  { ledger with sessions := ledger.sessions.dropLast ++ [session] }

/-- No instance is active. -/
def check_stopped (ledger : PilotBudgetLedger) : Except Refused Unit :=
  raise_if (ledger.sessions.getLast?.any fun session => session.stopped_at.isNone)
    (budget_failure "Confirm the active instance is stopped first.")

/-- The identifier is not in use. -/
def check_new (ledger : PilotBudgetLedger) (session_identifier : String) : Except Refused Unit :=
  raise_if (session_identifier ∈ ledger.sessions.map (·.session_identifier))
    (budget_failure "Use a new session identifier; saved sessions are final.")

/-- Build a session, which validates it. -/
def build_session (session : PilotSession) : Except Refused PilotSession := do
  refuse_invalid .invalid session.validate
  return session

/-- What the total and a stage leave for a new session. -/
def remaining_seconds (ledger : PilotBudgetLedger) (now : ℚ) (stage : PilotStage) : ℚ :=
  min (maximum_total_seconds - consumed_seconds ledger now none)
    (ledger.effective_allocations stage - consumed_seconds ledger now (some stage))

/-- Register an operator-launched instance, including already elapsed startup. -/
def start_session (now : ℚ) (session_identifier instance_identifier : String) (stage : PilotStage)
    (started_at : ℚ) (requested_seconds : Option ℚ) : Budget PilotSession := do
  let ledger ← load_ledger
  raise_if (¬ (0 ≤ started_at ∧ started_at ≤ now))
    (Refused.value_error "Startup time must be a real past timestamp.")
  check_stopped ledger
  check_new ledger session_identifier
  let remaining := remaining_seconds ledger now stage
  let allowance := requested_seconds.getD remaining
  raise_if (¬ (300 < allowance ∧ allowance ≤ remaining))
    (budget_failure "The requested session exceeds its remaining budget.")
  let session ← build_session
    { session_identifier := session_identifier
      instance_identifier := instance_identifier
      stage := stage
      started_at := started_at
      deadline_at := started_at + allowance
      checkpoint_at := started_at + allowance - checkpoint_reserve_seconds
      poweroff_at := started_at + allowance - shutdown_reserve_seconds
      last_observed_at := now }
  save_ledger { ledger with sessions := ledger.sessions ++ [session] }
  return session

/-- Persist a conservative clock watermark without extending any deadline. -/
def observe_session (now : ℚ) (session_identifier : String) : Budget PilotSession := do
  let ledger ← load_ledger
  let session ← active ledger session_identifier
  raise_if (now < session.last_observed_at)
    (budget_failure "The instance clock moved backwards. Save and stop.")
  let session := { session with last_observed_at := now }
  save_ledger (ledger.replace_last session)
  return session

/-- Close only after the operator observes the instance stopped; charge until that check. -/
def confirm_stopped (now : ℚ) (session_identifier confirmation : String) :
    Budget PilotBudgetLedger := do
  let ledger ← load_ledger
  let session ← active ledger session_identifier
  let ledger := ledger.replace_last { session with
    stopped_at :=
      if now < session.last_observed_at then some (max session.last_observed_at session.deadline_at)
      else some now
    stop_confirmation := some confirmation }
  save_ledger ledger
  return ledger

/-! ### Attested sessions -/

/-- The loop of `bisect.bisect_left`; the fuel bounds the number of halvings. -/
def bisect_loop (keys : List ℚ) (key : ℚ) : ℕ → ℕ → ℕ → ℕ
  | 0, low, _ => low
  | fuel + 1, low, high =>
    if low < high then
      let middle := (low + high) / 2
      if keys.getD middle 0 < key then bisect_loop keys key fuel (middle + 1) high
      else bisect_loop keys key fuel low middle
    else low

/-- `bisect.bisect_left(keys, key)`. -/
def bisect_left (keys : List ℚ) (key : ℚ) : ℕ :=
  bisect_loop keys key keys.length 0 keys.length

/-- Keep sessions in time order so the ledger's overlap rules stay simple. -/
def insert_session (sessions : List PilotSession) (session : PilotSession) : List PilotSession :=
  let position := bisect_left (sessions.map (·.started_at)) session.started_at
  sessions.take position ++ session :: sessions.drop position

/-- Charge a past instance run that had no session, from independent evidence. -/
def attest_closed_session (now : ℚ) (session_identifier instance_identifier : String)
    (stage : PilotStage) (started_at stopped_at : ℚ) (evidence : String) :
    Budget PilotSession := do
  raise_if (¬ (0 ≤ started_at ∧ started_at < stopped_at ∧ stopped_at ≤ now))
    (Refused.value_error "Start and stop must be real past times, start first.")
  let ledger ← load_ledger
  check_stopped ledger
  check_new ledger session_identifier
  raise_if (ledger.sessions.any fun item => item.stopped_at.any fun stopped =>
      decide (started_at < stopped ∧ item.started_at < stopped_at))
    (budget_failure "The attested times overlap a recorded session.")
  let elapsed := stopped_at - started_at
  let remaining := min (maximum_total_seconds - consumed_seconds ledger now none)
    (ledger.effective_allocations stage - reserved_seconds ledger stage)
  raise_if (elapsed > remaining + tolerance)
    (budget_failure "The attested session exceeds the remaining allocation of its stage.")
  let session ← build_session
    { session_identifier := session_identifier
      instance_identifier := instance_identifier
      stage := stage
      record_kind := .attested
      started_at := started_at
      deadline_at := stopped_at
      checkpoint_at := stopped_at - checkpoint_reserve_seconds
      poweroff_at := stopped_at - shutdown_reserve_seconds
      last_observed_at := stopped_at
      stopped_at := some stopped_at
      stop_confirmation := some (String.ofList (evidence.toList.take 256))
      evidence := some evidence }
  save_ledger { ledger with sessions := insert_session ledger.sessions session }
  return session

/-! ### Transfers -/

/-- Move unused seconds between stages; the total never changes. -/
def transfer_allocation (now : ℚ) (from_stage to_stage : PilotStage) (seconds : ℚ)
    (reason : String) : Budget StageTransfer := do
  raise_if (from_stage = to_stage)
    (Refused.value_error "Choose two different stages for a transfer.")
  raise_if (¬ (0 < seconds ∧ seconds ≤ MAXIMUM_TRANSFER_SECONDS))
    (Refused.value_error "Transfer between 1 and 3600 seconds at a time.")
  let ledger ← load_ledger
  let available := ledger.effective_allocations from_stage - reserved_seconds ledger from_stage
  raise_if (seconds > available + tolerance)
    (budget_failure "The source stage has fewer unused seconds than the transfer.")
  let transfer : StageTransfer :=
    { from_stage := from_stage
      to_stage := to_stage
      seconds := seconds
      reason := reason
      recorded_at := now }
  refuse_invalid .invalid transfer.validate
  save_ledger { ledger with stage_transfers := ledger.stage_transfers ++ [transfer] }
  return transfer

/-! ### Runs -/

/-- An operation with its arguments. -/
inductive BudgetOperation where
  | start_session (session_identifier instance_identifier : String) (stage : PilotStage)
      (started_at : ℚ) (requested_seconds : Option ℚ)
  | observe_session (session_identifier : String)
  | confirm_stopped (session_identifier confirmation : String)
  | attest_closed_session (session_identifier instance_identifier : String) (stage : PilotStage)
      (started_at stopped_at : ℚ) (evidence : String)
  | transfer_allocation (from_stage to_stage : PilotStage) (seconds : ℚ) (reason : String)

/-- Run an operation at a reading of the clock, and forget what it returns. -/
def BudgetOperation.apply (now : ℚ) : BudgetOperation → Budget Unit
  | .start_session session_identifier instance_identifier stage started_at requested_seconds => do
    let _ ← StegoLab.start_session now session_identifier instance_identifier stage started_at
      requested_seconds
    return ()
  | .observe_session session_identifier => do
    let _ ← StegoLab.observe_session now session_identifier
    return ()
  | .confirm_stopped session_identifier confirmation => do
    let _ ← StegoLab.confirm_stopped now session_identifier confirmation
    return ()
  | .attest_closed_session session_identifier instance_identifier stage started_at stopped_at
      evidence => do
    let _ ← StegoLab.attest_closed_session now session_identifier instance_identifier stage
      started_at stopped_at evidence
    return ()
  | .transfer_allocation from_stage to_stage seconds reason => do
    let _ ← StegoLab.transfer_allocation now from_stage to_stage seconds reason
    return ()

/-- One operation at one reading of the clock, accepted or refused. -/
def budget_step (ledger : PilotBudgetLedger) (event : ℚ × BudgetOperation)
    (ledger' : PilotBudgetLedger) : Prop :=
  (event.2.apply event.1 ledger).2 = ledger'

/-- The ledger after a sequence of operations. -/
def budget_run (ledger : PilotBudgetLedger) (events : List (ℚ × BudgetOperation)) :
    PilotBudgetLedger :=
  events.foldl (fun ledger event => (event.2.apply event.1 ledger).2) ledger

lemma run_budget_run (ledger : PilotBudgetLedger) (events : List (ℚ × BudgetOperation)) :
    Run budget_step ledger events (budget_run ledger events) := by
  induction events generalizing ledger with
  | nil => exact .nil
  | cons event events ih => exact .cons rfl (ih _)

end StegoLab

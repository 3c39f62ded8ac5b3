import Mathlib.Algebra.Order.Ring.Rat
import Mathlib.Logic.Function.Basic
import StegoLab.Failures

/-!
# The instance-time ledger

Strict instance-session accounting: sessions, transfers between stages, and the rules a saved
ledger has to meet. Times are exact rationals in seconds.
-/

namespace StegoLab

/-! ### Validation -/

/-- Why a record is invalid: a field breaks its constraint, or a rule of the record fails. -/
inductive Invalid where
  | field (name : String)
  | rule (message : String)
  deriving DecidableEq, Repr

/-- `Seconds`: a non-negative finite number. -/
def check_seconds (name : String) (value : ℚ) : Except Invalid Unit :=
  raise_if (value < 0) (.field name)

/-- A text with a bounded number of characters. -/
def check_length (name : String) (maximum : ℕ) (text : String) : Except Invalid Unit :=
  raise_if (text.length < 1 ∨ maximum < text.length) (.field name)

/-- The pattern `[a-z][a-z0-9_]{0,63}`. -/
def session_identifier_pattern (text : String) : Bool :=
  match text.toList with
  | [] => false
  | first :: rest =>
    decide ('a' ≤ first ∧ first ≤ 'z') && decide (rest.length ≤ 63) &&
      rest.all fun c => decide (('a' ≤ c ∧ c ≤ 'z') ∨ ('0' ≤ c ∧ c ≤ '9') ∨ c = '_')

/-- The pattern `i-[0-9a-f]{8,17}`. -/
def instance_identifier_pattern (text : String) : Bool :=
  match text.toList with
  | 'i' :: '-' :: digits =>
    decide (8 ≤ digits.length ∧ digits.length ≤ 17) &&
      digits.all fun c => decide (('0' ≤ c ∧ c ≤ '9') ∨ ('a' ≤ c ∧ c ≤ 'f'))
  | _ => false

/-! ### Stages -/

inductive PilotStage where
  | setup
  | baseline
  | ablation
  | evaluation
  deriving DecidableEq, Repr

def PILOT_STAGES : List PilotStage := [.setup, .baseline, .ablation, .evaluation]

lemma mem_pilot_stages (stage : PilotStage) : stage ∈ PILOT_STAGES := by
  cases stage <;> decide

def STAGE_SECONDS : PilotStage → ℚ
  | .setup => 7200
  | .baseline => 50400
  | .ablation => 14400
  | .evaluation => 14400

def MAXIMUM_TRANSFER_SECONDS : ℚ := 3600

def maximum_total_seconds : ℚ := 86400

def checkpoint_reserve_seconds : ℚ := 300

def shutdown_reserve_seconds : ℚ := 120

/-- The slack of the comparisons of allowances. -/
def tolerance : ℚ := 1 / 1000000

/-! ### Sessions -/

inductive RecordKind where
  | observed
  | attested
  deriving DecidableEq, Repr

/-- One instance session from requested startup until confirmed stop. -/
structure PilotSession where
  session_identifier : String
  instance_identifier : String
  stage : PilotStage
  record_kind : RecordKind := .observed
  started_at : ℚ
  deadline_at : ℚ
  checkpoint_at : ℚ
  poweroff_at : ℚ
  last_observed_at : ℚ
  stopped_at : Option ℚ := none
  stop_confirmation : Option String := none
  evidence : Option String := none
  deriving DecidableEq

namespace PilotSession

/-- The rules of attested and of observed sessions. -/
def consistent_kind (session : PilotSession) : Except Invalid Unit :=
  if session.record_kind = .attested then do
    raise_if (session.evidence.isNone ∨ session.stopped_at.isNone)
      (.rule "Attested sessions need evidence and a stop time.")
    raise_if (¬ (session.started_at < session.deadline_at ∧
        session.stopped_at = some session.deadline_at))
      (.rule "An attested session ends at its recorded stop.")
    raise_if (session.stopped_at ≠ some session.last_observed_at)
      (.rule "An attested session is observed at its stop.")
  else if session.evidence.isSome then
    .error (.rule "Only attested sessions carry evidence.")
  else
    raise_if (¬ (session.started_at < session.checkpoint_at ∧
        session.checkpoint_at < session.poweroff_at ∧ session.poweroff_at < session.deadline_at))
      (.rule "Session deadlines must follow startup.")

/-- Reject impossible clocks and sessions with incomplete stop evidence. -/
def consistent_times (session : PilotSession) : Except Invalid Unit := do
  session.consistent_kind
  raise_if (session.deadline_at - session.started_at > 86400)
    (.rule "The session exceeds the whole project allocation.")
  raise_if (session.last_observed_at < session.started_at)
    (.rule "Observed time precedes startup.")
  raise_if (session.stopped_at.isNone ≠ session.stop_confirmation.isNone)
    (.rule "Stopped sessions require operator confirmation.")
  raise_if (session.stopped_at.any fun stopped => decide (stopped < session.last_observed_at))
    (.rule "Confirmed stop cannot erase observed instance time.")

/-- The constraints of the fields, then the rules. -/
def validate (session : PilotSession) : Except Invalid Unit := do
  raise_if (¬ session_identifier_pattern session.session_identifier) (.field "session_identifier")
  raise_if (¬ instance_identifier_pattern session.instance_identifier)
    (.field "instance_identifier")
  check_seconds "started_at" session.started_at
  check_seconds "deadline_at" session.deadline_at
  check_seconds "checkpoint_at" session.checkpoint_at
  check_seconds "poweroff_at" session.poweroff_at
  check_seconds "last_observed_at" session.last_observed_at
  session.stopped_at.forM (check_seconds "stopped_at")
  session.stop_confirmation.forM (check_length "stop_confirmation" 256)
  session.evidence.forM (check_length "evidence" 1024)
  session.consistent_times

end PilotSession

/-! ### Transfers -/

/-- Part of one stage's allocation moved to another stage. -/
structure StageTransfer where
  from_stage : PilotStage
  to_stage : PilotStage
  seconds : ℚ
  reason : String
  recorded_at : ℚ
  deriving DecidableEq

/-- The constraints of the fields, then two different stages. -/
def StageTransfer.validate (transfer : StageTransfer) : Except Invalid Unit := do
  raise_if (transfer.seconds ≤ 0 ∨ MAXIMUM_TRANSFER_SECONDS < transfer.seconds) (.field "seconds")
  check_length "reason" 256 transfer.reason
  check_seconds "recorded_at" transfer.recorded_at
  raise_if (transfer.from_stage = transfer.to_stage)
    (.rule "Choose two different stages for a transfer.")

/-! ### Ledgers -/

/-- All instance sessions and transfers. -/
structure PilotBudgetLedger where
  sessions : List PilotSession := []
  stage_transfers : List StageTransfer := []
  deriving DecidableEq

/-- One transfer between two stages. -/
def apply_transfer (allocations : PilotStage → ℚ) (transfer : StageTransfer) : PilotStage → ℚ :=
  let allocations := Function.update allocations transfer.from_stage
    (allocations transfer.from_stage - transfer.seconds)
  Function.update allocations transfer.to_stage
    (allocations transfer.to_stage + transfer.seconds)

/-- `value or default`: a value of zero counts as missing. -/
def or_time (value : Option ℚ) (default : ℚ) : ℚ :=
  match value with
  | none => default
  | some time => if time = 0 then default else time

/-- What the check of the sessions carries: the previous stop and the time spent so far. -/
structure Audit where
  previous_stop : ℚ
  spent : ℚ
  stage_spent : PilotStage → ℚ

/-- Before the first session. -/
def Audit.start : Audit where
  previous_stop := 0
  spent := 0
  stage_spent := fun _ => 0

/-- A closed session is charged what it used; an open one its allowance. -/
def PilotSession.counted (session : PilotSession) : ℚ :=
  let allowance := session.deadline_at - session.started_at
  match session.stopped_at with
  | some stopped => min allowance (stopped - session.started_at)
  | none => allowance

/-- Count a stopped session. -/
def Audit.spend (audit : Audit) (session : PilotSession) : Audit :=
  let previous_stop := or_time session.stopped_at session.started_at
  match session.stopped_at with
  | some stopped =>
    let elapsed := stopped - session.started_at
    { previous_stop := previous_stop
      spent := audit.spent + elapsed
      stage_spent := Function.update audit.stage_spent session.stage
        (audit.stage_spent session.stage + elapsed) }
  | none => { audit with previous_stop := previous_stop }

/-- Check one session after those before it. -/
def audit_session (allocations : PilotStage → ℚ) (last : ℕ) (audit : Audit)
    (entry : PilotSession × ℕ) : Except Invalid Audit := do
  let session := entry.1
  raise_if (session.started_at < audit.previous_stop)
    (.rule "Instance sessions cannot overlap.")
  raise_if (session.stopped_at.isNone ∧ entry.2 ≠ last)
    (.rule "Confirm the previous instance stopped first.")
  raise_if (session.counted > min (maximum_total_seconds - audit.spent)
      (allocations session.stage - audit.stage_spent session.stage) + tolerance)
    (.rule "A session exceeds the remaining project allocation.")
  raise_if (session.deadline_at - session.checkpoint_at ≠ checkpoint_reserve_seconds)
    (.rule "The fixed safe-save reserve cannot be changed.")
  raise_if (session.deadline_at - session.poweroff_at ≠ shutdown_reserve_seconds)
    (.rule "The fixed shutdown reserve cannot be changed.")
  return audit.spend session

namespace PilotBudgetLedger

/-- Each stage's allocation after every recorded transfer. -/
def effective_allocations (ledger : PilotBudgetLedger) : PilotStage → ℚ :=
  ledger.stage_transfers.foldl apply_transfer STAGE_SECONDS

/-- Require unique, non-overlapping sessions and one active instance. -/
def consistent_sessions (ledger : PilotBudgetLedger) : Except Invalid Unit := do
  raise_if (¬ (ledger.sessions.map (·.session_identifier)).Nodup)
    (.rule "Session identifiers must be unique.")
  raise_if (PILOT_STAGES.any fun stage => decide (ledger.effective_allocations stage < 0))
    (.rule "Transfers cannot take a stage below zero seconds.")
  let _ ← ledger.sessions.zipIdx.foldlM
    (audit_session ledger.effective_allocations (ledger.sessions.length - 1)) Audit.start

/-- The records of the ledger, then its rules. -/
def validate (ledger : PilotBudgetLedger) : Except Invalid Unit := do
  raise_if (256 < ledger.sessions.length) (.field "sessions")
  ledger.sessions.forM PilotSession.validate
  raise_if (64 < ledger.stage_transfers.length) (.field "stage_transfers")
  ledger.stage_transfers.forM StageTransfer.validate
  ledger.consistent_sessions

end PilotBudgetLedger

end StegoLab

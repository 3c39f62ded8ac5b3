import StegoLab.Library.Crashes
import StegoLab.Budget.Operations
import StegoLab.Training.Checkpoints

/-!
# The host guard

The guard of a paid machine reads the session's deadlines, asks for a save at the checkpoint
deadline, and powers the machine off at the stop deadline or at the first failure. Its ledger may
change between any two readings, and both clocks show any time; a run is cut where its readings end.
-/

namespace StegoLab
namespace PilotGuard

open Transaction Program

/-! ### Readings of the ledger -/

/-- The exceptions that the guard handles. -/
inductive GuardFailure where
  | refused (refusal : Refused)
  | os_error
  deriving DecidableEq

/-- `failure.code`, for an application failure. -/
def GuardFailure.code : GuardFailure → Option String
  | .refused (.application failure) => some failure.code
  | .refused (.inconsistent _) => some "pilot_budget_inconsistent"
  | .refused (.value_error _) => none
  | .refused (.invalid _) => none
  | .os_error => none

def refused {α : Type} : Except Refused α → Except GuardFailure α :=
  Except.mapError .refused

/-- The first look at the ledger; it does not take the lock. -/
structure FirstReading where
  /-- The directory is a link. -/
  symlink : Bool
  /-- What both files hold; nothing if one is missing or cannot be read. -/
  stored : Option PilotBudgetLedger
  time : ℚ

/-- Read an atomically published session without racing on the writer lock. -/
def read_session (session_identifier : String) (reading : FirstReading) :
    Except GuardFailure PilotSession := refused do
  raise_if (reading.symlink = true)
    (budget_failure "The saved instance session is invalid. Save and stop.")
  match reading.stored with
  | none => .error (budget_failure RESTORE_MESSAGE)
  | some stored => do
    let ledger ← (load_ledger stored).1
    let session ← active ledger session_identifier
    raise_if (reading.time < session.last_observed_at)
      (budget_failure "The instance clock moved backwards. Save and stop.")
    return session

inductive LockAnswer where
  | taken
  | busy
  | unavailable
  deriving DecidableEq

inductive SaveAnswer where
  | saved
  | no_space
  | failed
  deriving DecidableEq

/-- One observation of the ledger, under the lock. -/
structure Observation where
  lock : LockAnswer := .taken
  stored : Option PilotBudgetLedger
  time : ℚ
  saving : SaveAnswer := .saved
  close_fails : Bool := false

/-- Publish the validated ledger. -/
def atomic_save : SaveAnswer → Except GuardFailure Unit
  | .saved => .ok ()
  | .no_space => .error (.refused (.application checkpoint_failure))
  | .failed => .error (.refused (budget_failure RESTORE_MESSAGE))

/-- What happens inside the lock. -/
def observe_locked (session_identifier : String) (observation : Observation) :
    Except GuardFailure PilotSession :=
  match observation.stored with
  | none => .error (.refused (budget_failure RESTORE_MESSAGE))
  | some stored => do
    let session ← refused (observe_session observation.time session_identifier stored).1
    atomic_save observation.saving
    return session

/-- `observe_session`: persist a watermark of the clock. -/
def observe (session_identifier : String) (observation : Observation) :
    Except GuardFailure PilotSession :=
  match observation.lock with
  | .busy => .error (.refused (.application
    { code := "pilot_budget_busy"
      message := "Another ledger update is running. Retry shortly." }))
  | .unavailable => .error (.refused (budget_failure RESTORE_MESSAGE))
  | .taken =>
    if observation.close_fails = true then .error .os_error
    else observe_locked session_identifier observation

/-! ### Deadlines -/

structure ClockReading where
  time : ℚ
  monotonic : ℚ

/-- Targets on the monotonic clock. -/
structure GuardDeadlines where
  checkpoint : ℚ
  stop : ℚ
  deriving DecidableEq

namespace GuardDeadlines

/-- Anchor persisted deadlines to the monotonic clock of this process. -/
def from_session (session : PilotSession) (clock : ClockReading) : GuardDeadlines :=
  let now := max clock.time session.last_observed_at
  { checkpoint := clock.monotonic + max 0 (session.checkpoint_at - now)
    stop := clock.monotonic + max 0 (session.poweroff_at - now) }

/-- Apply forward changes of the wall clock without extending the deadlines. -/
def shorten (deadlines : GuardDeadlines) (session : PilotSession) (clock : ClockReading) :
    GuardDeadlines :=
  let current := from_session session clock
  { checkpoint := min deadlines.checkpoint current.checkpoint
    stop := min deadlines.stop current.stop }

end GuardDeadlines

/-! ### The guard -/

/-- What the guard does, and what it goes by. -/
inductive GuardEvent where
  /-- The monotonic clock at the beginning of a round. -/
  | clock (now : ℚ)
  | deadlines (deadlines : GuardDeadlines)
  | request_checkpoint
  | sleep (now seconds : ℚ)
  | stopping_early (failure : GuardFailure)
  | poweroff
  deriving DecidableEq

structure GuardState where
  checkpoint_requested : Bool := false
  events : List GuardEvent := []

abbrev GuardProgram (α : Type) : Type := Program GuardState GuardFailure α

/-- Whether the calls of the host fail with an operating-system error. -/
structure StopActions where
  request_checkpoint_fails : Bool
  poweroff_fails : Bool

/-- What one round reads. -/
structure GuardRound where
  now : ℚ
  observation : Observation
  clock : ClockReading
  before_sleep : ℚ

/-- What the guard reads at its start. -/
structure GuardStart where
  reading : FirstReading
  clock : ClockReading

def record (event : GuardEvent) : GuardProgram Unit := fun state =>
  (.ok (), { state with events := state.events ++ [event] })

def mark_requested : GuardProgram Unit := fun state =>
  (.ok (), { state with checkpoint_requested := true })

/-- The call of the host, whose operating-system errors are passed over. -/
def request_checkpoint (actions : StopActions) : GuardProgram Unit :=
  catching (do
      record .request_checkpoint
      attempt (raise_if (actions.request_checkpoint_fails = true) .os_error))
    fun failure => if failure = .os_error then pure () else raise failure

def poweroff (actions : StopActions) : GuardProgram Unit := do
  record .poweroff
  attempt (raise_if (actions.poweroff_fails = true) .os_error)

/-- Look at the ledger in one round: the seconds to wait, and the deadlines from here on. -/
def look (session_identifier : String) (round : GuardRound) (deadlines : GuardDeadlines) :
    GuardProgram (ℚ × GuardDeadlines) :=
  match observe session_identifier round.observation with
  | .error failure =>
    if failure.code = some "pilot_budget_busy" then pure (1, deadlines) else raise failure
  | .ok session => do
    let deadlines := deadlines.shorten session round.clock
    record (.deadlines deadlines)
    return (5, deadlines)

/-- Ask for a save once the checkpoint deadline has come. -/
def save_when_due (actions : StopActions) (now : ℚ) (deadlines : GuardDeadlines) :
    GuardProgram Unit := do
  let state ← read
  if deadlines.checkpoint ≤ now ∧ state.checkpoint_requested = false then do
    mark_requested
    request_checkpoint actions
  else pure ()

/-- Sleep until the next action, for this interval at most. -/
def sleep_until (before_sleep interval : ℚ) (deadlines : GuardDeadlines) : GuardProgram Unit := do
  let state ← read
  let next_action :=
    if state.checkpoint_requested = true then deadlines.stop else deadlines.checkpoint
  record (.sleep before_sleep (min interval (max 0 (next_action - before_sleep))))

/-- The loop of the guard; it is cut when there are no more readings. -/
def guard_loop (session_identifier : String) (actions : StopActions) :
    List GuardRound → GuardDeadlines → GuardProgram Unit
  | [], _ => liftM (Except.error Stop.crashed : Except (Stop GuardFailure) Unit)
  | round :: rounds, deadlines => do
    record (.clock round.now)
    save_when_due actions round.now deadlines
    if deadlines.stop ≤ round.now then pure ()
    else do
      let (interval, deadlines) ← look session_identifier round deadlines
      sleep_until round.before_sleep interval deadlines
      guard_loop session_identifier actions rounds deadlines

/-- The handler: an uncertain ledger must not keep a paid machine running. -/
def stop_early (actions : StopActions) (failure : GuardFailure) : GuardProgram Unit := do
  record (.stopping_early failure)
  let state ← read
  if state.checkpoint_requested = false then request_checkpoint actions else pure ()

/-- Signal a safe save, then request poweroff even if the application is stuck. -/
def run_guard (session_identifier : String) (actions : StopActions) (start : GuardStart)
    (rounds : List GuardRound) : GuardProgram Unit :=
  finally_do
    (catching (do
        let session ← attempt (read_session session_identifier start.reading)
        let deadlines := GuardDeadlines.from_session session start.clock
        record (.deadlines deadlines)
        guard_loop session_identifier actions rounds deadlines)
      (stop_early actions))
    (poweroff actions)

end PilotGuard
end StegoLab

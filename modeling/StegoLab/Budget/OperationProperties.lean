import Mathlib.Algebra.Order.Ring.Rat
import StegoLab.Budget.Operations

/-!
# What an operation does to the ledger

Every operation is atomic, and an accepted one changes the ledger in one of four ways.
-/

namespace StegoLab

open Transaction

variable {ledger ledger' : PilotBudgetLedger} {now : ℚ}

/-! ### Storage -/

lemma refuse_invalid_eq_ok {α : Type} {refusal : Invalid → Refused} {outcome : Except Invalid α}
    {value : α} : refuse_invalid refusal outcome = .ok value ↔ outcome = .ok value := by
  cases outcome with
  | error reason => simp [refuse_invalid]
  | ok value => simp [refuse_invalid]

/-- Loading returns the stored ledger when it is valid. -/
lemma load_bind_ok {α : Type} {f : PilotBudgetLedger → Budget α} {a : α} :
    (load_ledger >>= f) ledger = (.ok a, ledger') ↔
      ledger.validate = .ok () ∧ f ledger ledger = (.ok a, ledger') := by
  rw [bind_ok]
  constructor
  · rintro ⟨loaded, _, hload, hrest⟩
    obtain ⟨stored, _, hread, hload⟩ := bind_ok.mp hload
    obtain ⟨rfl, rfl⟩ := read_ok.mp hread
    obtain ⟨_, hvalid, hload⟩ := lift_bind_ok.mp hload
    obtain ⟨rfl, rfl⟩ := pure_ok.mp hload
    exact ⟨refuse_invalid_eq_ok.mp hvalid, hrest⟩
  · rintro ⟨hvalid, hrest⟩
    refine ⟨ledger, ledger, bind_ok.mpr ⟨_, _, read_ok.mpr ⟨rfl, rfl⟩, ?_⟩, hrest⟩
    refine lift_bind_ok.mpr ⟨(), refuse_invalid_eq_ok.mpr hvalid, ?_⟩
    exact pure_ok.mpr ⟨rfl, rfl⟩

/-- Saving replaces the stored ledger by a valid one. -/
lemma save_bind_ok {α : Type} {saved : PilotBudgetLedger} {f : Unit → Budget α} {a : α} :
    (save_ledger saved >>= f) ledger = (.ok a, ledger') ↔
      saved.validate = .ok () ∧ f () saved = (.ok a, ledger') := by
  rw [bind_ok]
  constructor
  · rintro ⟨_, _, hsave, hrest⟩
    obtain ⟨_, hvalid, hsave⟩ := lift_bind_ok.mp hsave
    obtain rfl := write_ok.mp hsave
    exact ⟨refuse_invalid_eq_ok.mp hvalid, hrest⟩
  · rintro ⟨hvalid, hrest⟩
    refine ⟨(), saved, lift_bind_ok.mpr ⟨(), refuse_invalid_eq_ok.mpr hvalid, ?_⟩, hrest⟩
    exact write_ok.mpr rfl

lemma readOnly_load_ledger : ReadOnly load_ledger :=
  readOnly_read.bind fun _ => (readOnly_lift _).bind fun _ => readOnly_pure _

lemma atomic_save_ledger (saved : PilotBudgetLedger) : Atomic (save_ledger saved) :=
  (readOnly_lift _).atomic_bind fun _ => atomic_write _

/-! ### Refused operations -/

lemma atomic_start_session (session_identifier instance_identifier : String) (stage : PilotStage)
    (started_at : ℚ) (requested_seconds : Option ℚ) :
    Atomic (start_session now session_identifier instance_identifier stage started_at
      requested_seconds) := by
  refine readOnly_load_ledger.atomic_bind fun ledger => ?_
  refine (readOnly_lift _).atomic_bind fun _ => ?_
  refine (readOnly_lift _).atomic_bind fun _ => ?_
  refine (readOnly_lift _).atomic_bind fun _ => ?_
  refine (readOnly_lift _).atomic_bind fun _ => ?_
  refine (readOnly_lift _).atomic_bind fun session => ?_
  exact (atomic_save_ledger _).bind_pure fun _ => session

lemma atomic_observe_session (session_identifier : String) :
    Atomic (observe_session now session_identifier) := by
  refine readOnly_load_ledger.atomic_bind fun ledger => ?_
  refine (readOnly_lift _).atomic_bind fun session => ?_
  refine (readOnly_lift _).atomic_bind fun _ => ?_
  exact (atomic_save_ledger _).bind_pure _

lemma atomic_confirm_stopped (session_identifier confirmation : String) :
    Atomic (confirm_stopped now session_identifier confirmation) := by
  refine readOnly_load_ledger.atomic_bind fun ledger => ?_
  refine (readOnly_lift _).atomic_bind fun session => ?_
  exact (atomic_save_ledger _).bind_pure _

lemma atomic_attest_closed_session (session_identifier instance_identifier : String)
    (stage : PilotStage) (started_at stopped_at : ℚ) (evidence : String) :
    Atomic (attest_closed_session now session_identifier instance_identifier stage started_at
      stopped_at evidence) := by
  refine (readOnly_lift _).atomic_bind fun _ => ?_
  refine readOnly_load_ledger.atomic_bind fun ledger => ?_
  refine (readOnly_lift _).atomic_bind fun _ => ?_
  refine (readOnly_lift _).atomic_bind fun _ => ?_
  refine (readOnly_lift _).atomic_bind fun _ => ?_
  refine (readOnly_lift _).atomic_bind fun _ => ?_
  refine (readOnly_lift _).atomic_bind fun session => ?_
  exact (atomic_save_ledger _).bind_pure fun _ => session

lemma atomic_transfer_allocation (from_stage to_stage : PilotStage) (seconds : ℚ)
    (reason : String) : Atomic (transfer_allocation now from_stage to_stage seconds reason) := by
  refine (readOnly_lift _).atomic_bind fun _ => ?_
  refine (readOnly_lift _).atomic_bind fun _ => ?_
  refine readOnly_load_ledger.atomic_bind fun ledger => ?_
  refine (readOnly_lift _).atomic_bind fun _ => ?_
  refine (readOnly_lift _).atomic_bind fun _ => ?_
  exact (atomic_save_ledger _).bind_pure _

/-- A refused operation leaves the stored ledger as it was. -/
theorem atomic_apply (operation : BudgetOperation) : Atomic (operation.apply now) := by
  cases operation with
  | start_session => exact (atomic_start_session _ _ _ _ _).bind_pure _
  | observe_session => exact (atomic_observe_session _).bind_pure _
  | confirm_stopped => exact (atomic_confirm_stopped _ _).bind_pure _
  | attest_closed_session => exact (atomic_attest_closed_session _ _ _ _ _ _).bind_pure _
  | transfer_allocation => exact (atomic_transfer_allocation _ _ _ _).bind_pure _

/-! ### Accepted operations -/

lemma active_eq_ok {identifier : String} {session : PilotSession}
    (h : active ledger identifier = .ok session) :
    ledger.sessions.getLast? = some session ∧ session.session_identifier = identifier ∧
      session.stopped_at = none := by
  unfold active at h
  split at h
  · exact absurd h (by simp)
  · rename_i last hlast
    split_ifs at h with hrefused
    obtain rfl := Except.ok.inj h
    rw [not_or, not_not, Option.not_isSome_iff_eq_none] at hrefused
    exact ⟨hlast, hrefused⟩

/-- A later state of an open session: the same session, observed at least as late. -/
structure Continues (session session' : PilotSession) : Prop where
  session_identifier : session'.session_identifier = session.session_identifier
  started_at : session'.started_at = session.started_at
  deadline_at : session'.deadline_at = session.deadline_at
  stage : session'.stage = session.stage
  observed : session.last_observed_at ≤ session'.last_observed_at
  stopped : ∀ stop, session'.stopped_at = some stop → session.last_observed_at ≤ stop

/-- What an accepted operation does. -/
inductive Changed (now : ℚ) (ledger : PilotBudgetLedger) : PilotBudgetLedger → Prop where
  | started (session : PilotSession)
      (within : session.deadline_at - session.started_at
        ≤ remaining_seconds ledger now session.stage)
      (still : session.stopped_at = none) :
    Changed now ledger { ledger with sessions := ledger.sessions ++ [session] }
  | continued (session session' : PilotSession)
      (last : ledger.sessions.getLast? = some session) (still : session.stopped_at = none)
      (continues : Continues session session') :
    Changed now ledger (ledger.replace_last session')
  | attested (session : PilotSession) :
    Changed now ledger { ledger with sessions := insert_session ledger.sessions session }
  | transferred (transfer : StageTransfer) :
    Changed now ledger { ledger with stage_transfers := ledger.stage_transfers ++ [transfer] }

/-- Accepted: both ledgers are valid, and the second is a change of the first. -/
structure Accepted (now : ℚ) (ledger ledger' : PilotBudgetLedger) : Prop where
  before : ledger.validate = .ok ()
  after : ledger'.validate = .ok ()
  changed : Changed now ledger ledger'

lemma start_session_accepted {session_identifier instance_identifier : String} {stage : PilotStage}
    {started_at : ℚ} {requested_seconds : Option ℚ} {session : PilotSession}
    (h : start_session now session_identifier instance_identifier stage started_at
      requested_seconds ledger = (.ok session, ledger')) :
    ledger.validate = .ok () ∧ ledger'.validate = .ok () ∧
      ledger' = { ledger with sessions := ledger.sessions ++ [session] } ∧
      session.stage = stage ∧ session.stopped_at = none ∧
      session.deadline_at - session.started_at ≤ remaining_seconds ledger now stage := by
  obtain ⟨hbefore, h⟩ := load_bind_ok.mp h
  obtain ⟨_, _, h⟩ := lift_bind_ok.mp h
  obtain ⟨_, _, h⟩ := lift_bind_ok.mp h
  obtain ⟨_, _, h⟩ := lift_bind_ok.mp h
  obtain ⟨_, hallowance, h⟩ := lift_bind_ok.mp h
  obtain ⟨_, hbuild, h⟩ := lift_bind_ok.mp h
  obtain ⟨_, _, hbuilt⟩ := bind_eq_ok.mp hbuild
  obtain rfl := pure_eq_ok.mp hbuilt
  obtain ⟨hafter, h⟩ := save_bind_ok.mp h
  obtain ⟨rfl, rfl⟩ := pure_ok.mp h
  refine ⟨hbefore, hafter, rfl, rfl, rfl, ?_⟩
  rw [raise_if_eq_ok, not_not] at hallowance
  rw [add_sub_cancel_left]
  exact hallowance.2

lemma observe_session_accepted {session_identifier : String} {session : PilotSession}
    (h : observe_session now session_identifier ledger = (.ok session, ledger')) :
    Accepted now ledger ledger' := by
  obtain ⟨hbefore, h⟩ := load_bind_ok.mp h
  obtain ⟨last, hactive, h⟩ := lift_bind_ok.mp h
  obtain ⟨hlast, _, hstill⟩ := active_eq_ok hactive
  obtain ⟨_, hclock, h⟩ := lift_bind_ok.mp h
  obtain ⟨hafter, h⟩ := save_bind_ok.mp h
  obtain ⟨rfl, rfl⟩ := pure_ok.mp h
  rw [raise_if_eq_ok, not_lt] at hclock
  refine ⟨hbefore, hafter, .continued last _ hlast hstill ⟨rfl, rfl, rfl, rfl, hclock, ?_⟩⟩
  intro stop hstop
  exact absurd (hstill.symm.trans hstop) (by simp)

lemma confirm_stopped_accepted {session_identifier confirmation : String}
    {closed : PilotBudgetLedger}
    (h : confirm_stopped now session_identifier confirmation ledger = (.ok closed, ledger')) :
    Accepted now ledger ledger' := by
  obtain ⟨hbefore, h⟩ := load_bind_ok.mp h
  obtain ⟨last, hactive, h⟩ := lift_bind_ok.mp h
  obtain ⟨hlast, _, hstill⟩ := active_eq_ok hactive
  obtain ⟨hafter, h⟩ := save_bind_ok.mp h
  obtain ⟨rfl, rfl⟩ := pure_ok.mp h
  refine ⟨hbefore, hafter, .continued last _ hlast hstill ⟨rfl, rfl, rfl, rfl, le_rfl, ?_⟩⟩
  intro stop hstop
  dsimp only at hstop
  split_ifs at hstop with hclock
  · rw [← Option.some.inj hstop]
    exact le_max_left _ _
  · rw [← Option.some.inj hstop]
    exact not_lt.mp hclock

lemma attest_closed_session_accepted {session_identifier instance_identifier : String}
    {stage : PilotStage} {started_at stopped_at : ℚ} {evidence : String} {session : PilotSession}
    (h : attest_closed_session now session_identifier instance_identifier stage started_at
      stopped_at evidence ledger = (.ok session, ledger')) :
    Accepted now ledger ledger' := by
  obtain ⟨_, _, h⟩ := lift_bind_ok.mp h
  obtain ⟨hbefore, h⟩ := load_bind_ok.mp h
  obtain ⟨_, _, h⟩ := lift_bind_ok.mp h
  obtain ⟨_, _, h⟩ := lift_bind_ok.mp h
  obtain ⟨_, _, h⟩ := lift_bind_ok.mp h
  obtain ⟨_, _, h⟩ := lift_bind_ok.mp h
  obtain ⟨built, _, h⟩ := lift_bind_ok.mp h
  obtain ⟨hafter, h⟩ := save_bind_ok.mp h
  obtain ⟨rfl, rfl⟩ := pure_ok.mp h
  exact ⟨hbefore, hafter, .attested built⟩

lemma transfer_allocation_accepted {from_stage to_stage : PilotStage} {seconds : ℚ}
    {reason : String} {transfer : StageTransfer}
    (h : transfer_allocation now from_stage to_stage seconds reason ledger
      = (.ok transfer, ledger')) :
    Accepted now ledger ledger' := by
  obtain ⟨_, _, h⟩ := lift_bind_ok.mp h
  obtain ⟨_, _, h⟩ := lift_bind_ok.mp h
  obtain ⟨hbefore, h⟩ := load_bind_ok.mp h
  obtain ⟨_, _, h⟩ := lift_bind_ok.mp h
  obtain ⟨_, _, h⟩ := lift_bind_ok.mp h
  obtain ⟨hafter, h⟩ := save_bind_ok.mp h
  obtain ⟨rfl, rfl⟩ := pure_ok.mp h
  exact ⟨hbefore, hafter, .transferred _⟩

/-- A step leaves the ledger as it was or is accepted. -/
theorem budget_step_cases {event : ℚ × BudgetOperation} (h : budget_step ledger event ledger') :
    ledger' = ledger ∨ Accepted event.1 ledger ledger' := by
  obtain ⟨now, operation⟩ := event
  cases houtcome : (operation.apply now ledger).1 with
  | error refusal => exact Or.inl (atomic_apply operation _ _ _ (Prod.ext houtcome h))
  | ok u =>
    have h : operation.apply now ledger = (.ok u, ledger') := Prod.ext houtcome h
    right
    cases operation with
    | start_session =>
      obtain ⟨session, _, hrun, hreturn⟩ := bind_ok.mp h
      obtain ⟨-, rfl⟩ := pure_ok.mp hreturn
      obtain ⟨hbefore, hafter, rfl, rfl, hstill, hwithin⟩ := start_session_accepted hrun
      exact ⟨hbefore, hafter, .started session hwithin hstill⟩
    | observe_session =>
      obtain ⟨_, _, hrun, hreturn⟩ := bind_ok.mp h
      obtain ⟨-, rfl⟩ := pure_ok.mp hreturn
      exact observe_session_accepted hrun
    | confirm_stopped =>
      obtain ⟨_, _, hrun, hreturn⟩ := bind_ok.mp h
      obtain ⟨-, rfl⟩ := pure_ok.mp hreturn
      exact confirm_stopped_accepted hrun
    | attest_closed_session =>
      obtain ⟨_, _, hrun, hreturn⟩ := bind_ok.mp h
      obtain ⟨-, rfl⟩ := pure_ok.mp hreturn
      exact attest_closed_session_accepted hrun
    | transfer_allocation =>
      obtain ⟨_, _, hrun, hreturn⟩ := bind_ok.mp h
      obtain ⟨-, rfl⟩ := pure_ok.mp hreturn
      exact transfer_allocation_accepted hrun

end StegoLab

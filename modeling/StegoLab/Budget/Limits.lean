import Mathlib.Algebra.Order.BigOperators.Group.List
import StegoLab.Budget.History

/-!
# The limits of a ledger

In every reachable ledger the counted time stays within the total and the stage allocations, so that
more time than that is only paid for by overruns of sessions past their own deadlines.
-/

namespace StegoLab

variable {ledger : PilotBudgetLedger}

/-! ### Counted time -/

/-- The counted time of the selected sessions: closed ones as used, an open one in full. -/
def counted_seconds (ledger : PilotBudgetLedger) (selected : PilotSession → Bool) : ℚ :=
  ((ledger.sessions.filter selected).map PilotSession.counted).sum

lemma sum_counted_le_sum_elapsed {sessions : List PilotSession}
    (h : ∀ session ∈ sessions, session.stopped_at.isSome) :
    (sessions.map PilotSession.counted).sum ≤ (sessions.map PilotSession.elapsed).sum :=
  List.sum_le_sum fun session hsession => session.counted_le_elapsed (h session hsession)

/-- When every selected session fits into what those before it leave, all of them fit. -/
lemma sum_counted_le {sessions : List PilotSession} {selected : PilotSession → Bool} {bound : ℚ}
    (hbound : 0 ≤ bound)
    (hclosed : ∀ before session after, sessions = before ++ session :: after →
      ∀ earlier ∈ before, earlier.stopped_at.isSome)
    (hfits : ∀ before session after, sessions = before ++ session :: after →
      selected session = true →
      session.counted ≤ bound - ((before.filter selected).map PilotSession.elapsed).sum) :
    ((sessions.filter selected).map PilotSession.counted).sum ≤ bound := by
  induction sessions using List.reverseRecOn with
  | nil => simpa using hbound
  | append_singleton before session ih =>
    have hearlier : ∀ earlier ∈ before, earlier.stopped_at.isSome :=
      hclosed before session [] rfl
    have hextend : ∀ {front middle back}, before = front ++ middle :: back →
        before ++ [session] = front ++ middle :: (back ++ [session]) := by
      rintro front middle back rfl
      simp
    have hbefore := ih (fun front middle back hsplit => hclosed front middle _ (hextend hsplit))
      (fun front middle back hsplit => hfits front middle _ (hextend hsplit))
    rw [List.filter_append, List.map_append, List.sum_append]
    by_cases hselected : selected session = true
    · have hsession := hfits before session [] rfl hselected
      have hused : ((before.filter selected).map PilotSession.counted).sum
          ≤ ((before.filter selected).map PilotSession.elapsed).sum :=
        sum_counted_le_sum_elapsed fun earlier hmem =>
          hearlier earlier (List.mem_of_mem_filter hmem)
      rw [List.filter_cons_of_pos hselected, List.filter_nil, List.map_singleton,
        List.sum_singleton]
      linarith
    · rw [List.filter_cons_of_neg hselected]
      simpa using hbefore

section Valid

variable (hvalid : ledger.Valid)
include hvalid

lemma PilotBudgetLedger.Valid.earlier_closed {before after : List PilotSession}
    {session : PilotSession} (hsplit : ledger.sessions = before ++ session :: after) :
    ∀ earlier ∈ before, earlier.stopped_at.isSome := by
  intro earlier hearlier
  obtain ⟨front, back, rfl⟩ := List.append_of_mem hearlier
  have hfront : ledger.sessions = front ++ earlier :: (back ++ session :: after) := by
    rw [hsplit]
    simp
  exact hvalid.closed hfront (by simp)

/-- At most one session is open. -/
theorem PilotBudgetLedger.Valid.countP_open_le :
    ledger.sessions.countP (fun session => session.stopped_at.isNone) ≤ 1 := by
  rcases List.eq_nil_or_concat' ledger.sessions with hnil | ⟨before, session, hsplit⟩
  · simp [hnil]
  · have hbefore : before.countP (fun session => session.stopped_at.isNone) = 0 := by
      refine List.countP_eq_zero.mpr fun earlier hearlier => ?_
      obtain ⟨stop, hstop⟩ :=
        Option.isSome_iff_exists.mp (hvalid.earlier_closed hsplit earlier hearlier)
      simp [hstop]
    rw [hsplit, List.countP_append, hbefore, zero_add]
    exact List.countP_le_length

/-- The counted time is within the whole budget. -/
theorem PilotBudgetLedger.Valid.counted_le :
    counted_seconds ledger (fun _ => true) ≤ maximum_total_seconds + tolerance := by
  refine sum_counted_le (by norm_num [maximum_total_seconds, tolerance])
    (fun before session after hsplit => hvalid.earlier_closed hsplit)
    (fun before session after hsplit _ => ?_)
  have hcounted := (hvalid.audited before session after hsplit).counted
  rw [Audit.spent_after] at hcounted
  have hstart : Audit.start.spent = 0 := rfl
  rw [List.filter_true]
  linarith

/-- The counted time of a stage is within its allocation. -/
theorem PilotBudgetLedger.Valid.stage_counted_le (stage : PilotStage) :
    counted_seconds ledger (fun session => session.stage = stage)
      ≤ ledger.effective_allocations stage + tolerance := by
  have htolerance : (0 : ℚ) ≤ tolerance := by norm_num [tolerance]
  refine sum_counted_le (add_nonneg (hvalid.allocated stage) htolerance)
    (fun before session after hsplit => hvalid.earlier_closed hsplit)
    (fun before session after hsplit hstage => ?_)
  have hcounted := (hvalid.audited before session after hsplit).stage_counted
  obtain rfl := of_decide_eq_true hstage
  rw [Audit.stage_spent_after] at hcounted
  have hstart : Audit.start.stage_spent session.stage = 0 := rfl
  linarith

end Valid

/-! ### Paid time -/

/-- When a session ended, or until when it has been observed. -/
def PilotSession.end_at (session : PilotSession) (observed_at : ℚ) : ℚ :=
  session.stopped_at.getD (max observed_at session.last_observed_at)

/-- The time of all sessions until an observation. -/
def paid_seconds (ledger : PilotBudgetLedger) (observed_at : ℚ) : ℚ :=
  (ledger.sessions.map fun session => session.end_at observed_at - session.started_at).sum

/-- The time past the deadlines of the sessions. -/
def overrun_seconds (ledger : PilotBudgetLedger) (observed_at : ℚ) : ℚ :=
  (ledger.sessions.map fun session =>
    max 0 (session.end_at observed_at - session.deadline_at)).sum

/-- What a session is paid for beyond its counted time is its overrun. -/
lemma PilotSession.paid_le (session : PilotSession) (observed_at : ℚ) :
    session.end_at observed_at - session.started_at
      ≤ session.counted + max 0 (session.end_at observed_at - session.deadline_at) := by
  have hpositive := le_max_left 0 (session.end_at observed_at - session.deadline_at)
  have hoverrun := le_max_right 0 (session.end_at observed_at - session.deadline_at)
  cases hstop : session.stopped_at with
  | none =>
    simp only [counted, hstop]
    linarith
  | some stop =>
    have hend : session.end_at observed_at = stop := by
      rw [end_at, hstop, Option.getD_some]
    simp only [counted, hstop]
    rw [hend] at hpositive hoverrun ⊢
    rcases min_choice (session.deadline_at - session.started_at) (stop - session.started_at)
      with hmin | hmin
    · rw [hmin]
      linarith
    · rw [hmin]
      linarith

lemma paid_seconds_le (ledger : PilotBudgetLedger) (observed_at : ℚ) :
    paid_seconds ledger observed_at
      ≤ counted_seconds ledger (fun _ => true) + overrun_seconds ledger observed_at := by
  rw [counted_seconds, List.filter_true, overrun_seconds, ← List.sum_map_add]
  exact List.sum_le_sum fun session _ => session.paid_le observed_at

/-! ### Reachable ledgers -/

/-- In every reachable ledger the sessions follow each other without overlap and at most the last
one is open; the counted time is within the total and the allocation of each stage, and the paid
time exceeds the total by at most the overruns; an accepted start fits into what was left. -/
theorem reachable_ledger_within_limits {events : List (ℚ × BudgetOperation)}
    (h : Run budget_step {} events ledger) :
    ledger.sessions.Pairwise PilotSession.Precedes ∧
    (∀ session ∈ ledger.sessions, ∀ stop, session.stopped_at = some stop →
      session.started_at ≤ stop) ∧
    (∀ session ∈ ledger.sessions, session.stopped_at = none →
      ledger.sessions.getLast? = some session) ∧
    ledger.sessions.countP (fun session => session.stopped_at.isNone) ≤ 1 ∧
    counted_seconds ledger (fun _ => true) ≤ 86400 + tolerance ∧
    (∀ stage, counted_seconds ledger (fun session => session.stage = stage)
      ≤ ledger.effective_allocations stage + tolerance) ∧
    (∀ observed_at, paid_seconds ledger observed_at
      ≤ 86400 + tolerance + overrun_seconds ledger observed_at) ∧
    ∀ now session_identifier instance_identifier stage started_at requested_seconds session stored,
      start_session now session_identifier instance_identifier stage started_at requested_seconds
        ledger = (.ok session, stored) →
      consumed_seconds ledger now none + (session.deadline_at - session.started_at) ≤ 86400 ∧
        consumed_seconds ledger now (some stage) + (session.deadline_at - session.started_at)
          ≤ ledger.effective_allocations stage := by
  have hvalid : ledger.Valid := PilotBudgetLedger.valid (validate_of_run h)
  refine ⟨hvalid.pairwise, fun session hsession stop hstop => ?_,
    fun session => hvalid.getLast?_of_open, hvalid.countP_open_le, hvalid.counted_le, hvalid.stage_counted_le,
    fun observed_at => ?_, ?_⟩
  · have htimed := hvalid.timed session hsession
    exact htimed.observed.trans (htimed.stopped stop hstop)
  · have hpaid := paid_seconds_le ledger observed_at
    have hcounted := hvalid.counted_le
    have htotal : maximum_total_seconds = 86400 := rfl
    linarith
  · intro now _ _ stage _ _ session _ hstart
    obtain ⟨-, -, -, -, -, hwithin⟩ := start_session_accepted hstart
    have htotal := hwithin.trans (min_le_left _ _)
    have hstage := hwithin.trans (min_le_right _ _)
    have hmaximum : maximum_total_seconds = 86400 := rfl
    constructor
    · linarith
    · linarith

theorem stopped_session_within_limits :
    counted_seconds (budget_run {} stopped_session) (fun _ => true) ≤ 86400 + tolerance :=
  (reachable_ledger_within_limits (run_budget_run {} stopped_session)).2.2.2.2.1

end StegoLab

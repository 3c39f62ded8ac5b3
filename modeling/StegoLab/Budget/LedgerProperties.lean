import Mathlib.Algebra.BigOperators.Group.List.Basic
import Mathlib.Algebra.Order.Ring.Rat
import Mathlib.Data.List.Chain
import Mathlib.Tactic.Linarith
import StegoLab.Budget.Ledger

/-!
# What a valid ledger satisfies

Its sessions follow each other without overlap, only the last one may be open, and the counted time
stays within the allocations.
-/

namespace StegoLab

variable {ledger : PilotBudgetLedger} {session : PilotSession}

/-! ### Sessions -/

/-- The time rules of one session that its ledger relies on. -/
structure PilotSession.Timed (session : PilotSession) : Prop where
  started : 0 ≤ session.started_at
  observed : session.started_at ≤ session.last_observed_at
  stopped : ∀ stop, session.stopped_at = some stop → session.last_observed_at ≤ stop

lemma PilotSession.timed (h : session.validate = .ok ()) : session.Timed := by
  obtain ⟨_, _, h⟩ := bind_eq_ok.mp h
  obtain ⟨_, _, h⟩ := bind_eq_ok.mp h
  obtain ⟨_, hstarted, h⟩ := bind_eq_ok.mp h
  obtain ⟨_, _, h⟩ := bind_eq_ok.mp h
  obtain ⟨_, _, h⟩ := bind_eq_ok.mp h
  obtain ⟨_, _, h⟩ := bind_eq_ok.mp h
  obtain ⟨_, _, h⟩ := bind_eq_ok.mp h
  obtain ⟨_, _, h⟩ := bind_eq_ok.mp h
  obtain ⟨_, _, h⟩ := bind_eq_ok.mp h
  obtain ⟨_, _, h⟩ := bind_eq_ok.mp h
  obtain ⟨_, _, h⟩ := bind_eq_ok.mp h
  obtain ⟨_, _, h⟩ := bind_eq_ok.mp h
  obtain ⟨_, hobserved, h⟩ := bind_eq_ok.mp h
  obtain ⟨_, _, hstopped⟩ := bind_eq_ok.mp h
  rw [raise_if_eq_ok, not_lt] at hobserved
  refine ⟨not_lt.mp (raise_if_eq_ok.mp hstarted), hobserved, fun stop hstop => ?_⟩
  rw [raise_if_eq_ok, hstop, Option.any_some, decide_eq_true_eq, not_lt] at hstopped
  exact hstopped

/-- The recorded time of a closed session. -/
def PilotSession.elapsed (session : PilotSession) : ℚ :=
  match session.stopped_at with
  | some stop => stop - session.started_at
  | none => 0

/-- A closed session counts at most its recorded time. -/
lemma PilotSession.counted_le_elapsed (h : session.stopped_at.isSome) :
    session.counted ≤ session.elapsed := by
  obtain ⟨stop, hstop⟩ := Option.isSome_iff_exists.mp h
  simp only [counted, elapsed, hstop]
  exact min_le_right _ _

/-! ### The audit of the sessions -/

/-- What the audit holds after some sessions. -/
def Audit.after (audit : Audit) (sessions : List PilotSession) : Audit :=
  sessions.foldl Audit.spend audit

lemma Audit.spent_spend (audit : Audit) (session : PilotSession) :
    (audit.spend session).spent = audit.spent + session.elapsed := by
  cases h : session.stopped_at with
  | none => simp [spend, PilotSession.elapsed, h]
  | some stop => simp [spend, PilotSession.elapsed, h]

lemma Audit.stage_spent_spend (audit : Audit) (session : PilotSession) (stage : PilotStage) :
    (audit.spend session).stage_spent stage
      = audit.stage_spent stage + if session.stage = stage then session.elapsed else 0 := by
  by_cases hstage : session.stage = stage
  · subst hstage
    cases h : session.stopped_at with
    | none => simp [spend, PilotSession.elapsed, h]
    | some stop => simp [spend, PilotSession.elapsed, h]
  · cases h : session.stopped_at with
    | none => simp [spend, hstage, h]
    | some stop => simp [spend, hstage, Ne.symm hstage, h]

lemma Audit.spent_after (audit : Audit) (sessions : List PilotSession) :
    (audit.after sessions).spent = audit.spent + (sessions.map PilotSession.elapsed).sum := by
  induction sessions generalizing audit with
  | nil => simp [after]
  | cons session sessions ih =>
    change ((audit.spend session).after sessions).spent = _
    rw [ih, spent_spend, List.map_cons, List.sum_cons, add_assoc]

lemma Audit.stage_spent_after (audit : Audit) (sessions : List PilotSession) (stage : PilotStage) :
    (audit.after sessions).stage_spent stage = audit.stage_spent stage
      + ((sessions.filter fun session => session.stage = stage).map PilotSession.elapsed).sum := by
  induction sessions generalizing audit with
  | nil => simp [after]
  | cons session sessions ih =>
    change ((audit.spend session).after sessions).stage_spent stage = _
    rw [ih, stage_spent_spend]
    by_cases hstage : session.stage = stage
    · simp [hstage, add_assoc]
    · simp [hstage]

lemma Audit.previous_stop_after (audit : Audit) (sessions : List PilotSession)
    (session : PilotSession) :
    (audit.after (sessions ++ [session])).previous_stop
      = or_time session.stopped_at session.started_at := by
  rw [after, List.foldl_append, List.foldl_cons, List.foldl_nil, spend]
  cases session.stopped_at <;> rfl

/-- What the audit requires of a session. -/
structure Audited (allocations : PilotStage → ℚ) (last : ℕ) (audit : Audit) (index : ℕ)
    (session : PilotSession) : Prop where
  started : audit.previous_stop ≤ session.started_at
  closed : index ≠ last → session.stopped_at.isSome
  counted : session.counted ≤ maximum_total_seconds - audit.spent + tolerance
  stage_counted : session.counted
    ≤ allocations session.stage - audit.stage_spent session.stage + tolerance

lemma audit_session_eq_ok {allocations : PilotStage → ℚ} {last index : ℕ} {audit audit' : Audit}
    (h : audit_session allocations last audit (session, index) = .ok audit') :
    Audited allocations last audit index session ∧ audit' = audit.spend session := by
  obtain ⟨_, hstarted, h⟩ := bind_eq_ok.mp h
  obtain ⟨_, hclosed, h⟩ := bind_eq_ok.mp h
  obtain ⟨_, hcounted, h⟩ := bind_eq_ok.mp h
  obtain ⟨_, _, h⟩ := bind_eq_ok.mp h
  obtain ⟨_, _, h⟩ := bind_eq_ok.mp h
  rw [raise_if_eq_ok, not_lt] at hstarted hcounted
  rw [raise_if_eq_ok, not_and, not_not] at hclosed
  refine ⟨⟨hstarted, fun hindex => ?_, ?_, ?_⟩, (pure_eq_ok.mp h).symm⟩
  · by_contra hopen
    exact hindex (hclosed (by simpa using hopen))
  · exact hcounted.trans (add_le_add_left (min_le_left _ _) _)
  · exact hcounted.trans (add_le_add_left (min_le_right _ _) _)

/-- Every session is audited after those before it. -/
lemma audited_of_foldlM {allocations : PilotStage → ℚ} {last : ℕ} (before : List PilotSession)
    {session : PilotSession} {after : List PilotSession} {index : ℕ} {audit final : Audit}
    (h : ((before ++ session :: after).zipIdx index).foldlM (audit_session allocations last) audit
      = .ok final) :
    Audited allocations last (audit.after before) (index + before.length) session := by
  induction before generalizing index audit with
  | nil =>
    rw [List.nil_append, List.zipIdx_cons, List.foldlM_cons] at h
    obtain ⟨_, hsession, _⟩ := bind_eq_ok.mp h
    exact (audit_session_eq_ok hsession).1
  | cons first before ih =>
    rw [List.cons_append, List.zipIdx_cons, List.foldlM_cons] at h
    obtain ⟨_, hfirst, h⟩ := bind_eq_ok.mp h
    obtain ⟨-, rfl⟩ := audit_session_eq_ok hfirst
    have haudited := ih h
    rwa [add_assoc, add_comm 1] at haudited

/-- What a valid ledger satisfies, session by session. -/
structure PilotBudgetLedger.Valid (ledger : PilotBudgetLedger) : Prop where
  nodup_identifiers : (ledger.sessions.map (·.session_identifier)).Nodup
  timed : ∀ session ∈ ledger.sessions, session.Timed
  allocated : ∀ stage, 0 ≤ ledger.effective_allocations stage
  audited : ∀ before session after, ledger.sessions = before ++ session :: after →
    Audited ledger.effective_allocations (ledger.sessions.length - 1) (Audit.start.after before)
      before.length session

theorem PilotBudgetLedger.valid (h : ledger.validate = .ok ()) : ledger.Valid := by
  obtain ⟨_, _, h⟩ := bind_eq_ok.mp h
  obtain ⟨_, hsessions, h⟩ := bind_eq_ok.mp h
  obtain ⟨_, _, h⟩ := bind_eq_ok.mp h
  obtain ⟨_, _, h⟩ := bind_eq_ok.mp h
  obtain ⟨_, hnodup, h⟩ := bind_eq_ok.mp h
  obtain ⟨_, hallocated, h⟩ := bind_eq_ok.mp h
  obtain ⟨final, haudit, _⟩ := bind_eq_ok.mp h
  rw [raise_if_eq_ok, not_not] at hnodup
  refine ⟨hnodup, fun session hsession => session.timed (forM_eq_ok.mp hsessions session hsession),
    fun stage => ?_, fun before session after hsplit => ?_⟩
  · by_contra hnegative
    apply raise_if_eq_ok.mp hallocated
    exact List.any_eq_true.mpr ⟨stage, mem_pilot_stages stage, by simpa using hnegative⟩
  · rw [hsplit] at haudit ⊢
    have haudited := audited_of_foldlM before haudit
    rwa [zero_add] at haudited

/-! ### Order -/

/-- A session that is stopped before another one starts. -/
def PilotSession.Precedes (session next : PilotSession) : Prop :=
  ∃ stop, session.stopped_at = some stop ∧ stop ≤ next.started_at

/-- With the time rules of the later session, the order is transitive. -/
def PilotSession.PrecedesTimed (session next : PilotSession) : Prop :=
  session.Precedes next ∧ next.Timed

instance : Trans PilotSession.PrecedesTimed PilotSession.PrecedesTimed
    PilotSession.PrecedesTimed where
  trans := by
    rintro a b c ⟨⟨stop, hstop, hle⟩, hb⟩ ⟨⟨stop', hstop', hle'⟩, hc⟩
    refine ⟨⟨stop, hstop, ?_⟩, hc⟩
    exact hle.trans (hb.observed.trans ((hb.stopped stop' hstop').trans hle'))

section Order

variable (hvalid : ledger.Valid)
include hvalid

/-- A session that another one follows is closed. -/
lemma PilotBudgetLedger.Valid.closed {before after : List PilotSession} {session : PilotSession}
    (hsplit : ledger.sessions = before ++ session :: after) (hafter : after ≠ []) :
    session.stopped_at.isSome := by
  refine (hvalid.audited before session after hsplit).closed ?_
  have hlength := congrArg List.length hsplit
  have hpos := List.length_pos_iff.mpr hafter
  rw [List.length_append, List.length_cons] at hlength
  omega

/-- Every session stops before the sessions after it start. -/
theorem PilotBudgetLedger.Valid.pairwise : ledger.sessions.Pairwise PilotSession.Precedes := by
  have hchain : ledger.sessions.IsChain PilotSession.PrecedesTimed := by
    rw [List.isChain_iff_forall_rel_of_append_cons_cons]
    intro session next before after hsplit
    have hnext : next ∈ ledger.sessions := by
      rw [hsplit]
      simp
    obtain ⟨stop, hstop⟩ := Option.isSome_iff_exists.mp
      (hvalid.closed hsplit (List.cons_ne_nil next after))
    have haudited := hvalid.audited (before ++ [session]) next after (by simp [hsplit])
    have hstarted := haudited.started
    rw [Audit.previous_stop_after, hstop, or_time] at hstarted
    refine ⟨⟨stop, hstop, ?_⟩, hvalid.timed next hnext⟩
    -- a stop at time zero is read as missing, and no session starts before time zero
    split_ifs at hstarted with hzero
    · rw [hzero]
      exact (hvalid.timed next hnext).started
    · exact hstarted
  exact hchain.pairwise.imp And.left

/-- An open session is the last one. -/
theorem PilotBudgetLedger.Valid.getLast?_of_open {session : PilotSession}
    (hsession : session ∈ ledger.sessions) (hopen : session.stopped_at = none) :
    ledger.sessions.getLast? = some session := by
  obtain ⟨before, after, hsplit⟩ := List.append_of_mem hsession
  cases after with
  | nil => rw [hsplit, List.getLast?_concat]
  | cons next after =>
    have hclosed := hvalid.closed hsplit (List.cons_ne_nil next after)
    rw [hopen] at hclosed
    exact absurd hclosed (by simp)

end Order

end StegoLab

import StegoLab.Budget.History

/-!
# Closing a session

The ledger that an observation or a confirmed stop saves is valid, so that an open session can
always be observed and closed.
-/

namespace StegoLab

open Transaction

variable {ledger : PilotBudgetLedger} {session : PilotSession} {now : ℚ} {confirmation : String}

/-! ### Validation -/

lemma option_forM_eq_ok {α ε : Type} {f : α → Except ε Unit} {value : Option α} {u : Unit} :
    value.forM f = .ok u ↔ ∀ a ∈ value, f a = .ok () := by
  cases value with
  | none => exact ⟨fun _ _ ha => absurd ha (by simp), fun _ => rfl⟩
  | some a =>
    refine ⟨fun h a' ha' => ?_, fun h => h a rfl⟩
    rw [← Option.mem_some_iff.mp ha']
    exact h

/-- The fields that no operation on an open session changes. -/
structure PilotSession.Named (session : PilotSession) : Prop where
  session_identifier : session_identifier_pattern session.session_identifier = true
  instance_identifier : instance_identifier_pattern session.instance_identifier = true
  started : 0 ≤ session.started_at
  deadline : 0 ≤ session.deadline_at
  checkpoint : 0 ≤ session.checkpoint_at
  poweroff : 0 ≤ session.poweroff_at
  evidence : ∀ evidence ∈ session.evidence, check_length "evidence" 1024 evidence = .ok ()

/-- What the validation of a session checks. -/
lemma PilotSession.validate_eq_ok :
    session.validate = .ok () ↔ session.Named ∧ 0 ≤ session.last_observed_at ∧
      (∀ stop ∈ session.stopped_at, 0 ≤ stop) ∧
      (∀ text ∈ session.stop_confirmation, check_length "stop_confirmation" 256 text = .ok ()) ∧
      session.consistent_times = .ok () := by
  have hstops : session.stopped_at.forM (check_seconds "stopped_at") = .ok () ↔
      ∀ stop ∈ session.stopped_at, 0 ≤ stop := by
    rw [option_forM_eq_ok]
    simp [check_seconds]
  constructor
  · intro h
    obtain ⟨_, hidentifier, h⟩ := bind_eq_ok.mp h
    obtain ⟨_, hinstance, h⟩ := bind_eq_ok.mp h
    obtain ⟨_, hstarted, h⟩ := bind_eq_ok.mp h
    obtain ⟨_, hdeadline, h⟩ := bind_eq_ok.mp h
    obtain ⟨_, hcheckpoint, h⟩ := bind_eq_ok.mp h
    obtain ⟨_, hpoweroff, h⟩ := bind_eq_ok.mp h
    obtain ⟨_, hobserved, h⟩ := bind_eq_ok.mp h
    obtain ⟨_, hstopped, h⟩ := bind_eq_ok.mp h
    obtain ⟨_, hconfirmation, h⟩ := bind_eq_ok.mp h
    obtain ⟨_, hevidence, htimes⟩ := bind_eq_ok.mp h
    have hseconds : ∀ {name : String} {value : ℚ} {u : Unit}, check_seconds name value = .ok u →
        0 ≤ value := fun h => not_lt.mp (raise_if_eq_ok.mp h)
    rw [raise_if_eq_ok, not_not] at hidentifier hinstance
    exact ⟨⟨hidentifier, hinstance, hseconds hstarted, hseconds hdeadline, hseconds hcheckpoint,
      hseconds hpoweroff, option_forM_eq_ok.mp hevidence⟩, hseconds hobserved, hstops.mp hstopped,
      option_forM_eq_ok.mp hconfirmation, htimes⟩
  · rintro ⟨hnamed, hobserved, hstopped, hconfirmation, htimes⟩
    have hseconds : ∀ {name : String} {value : ℚ}, 0 ≤ value →
        check_seconds name value = .ok () := fun hvalue =>
      raise_if_eq_ok.mpr (not_lt.mpr hvalue)
    refine bind_eq_ok.mpr ⟨(), raise_if_eq_ok.mpr (not_not.mpr hnamed.session_identifier), ?_⟩
    refine bind_eq_ok.mpr ⟨(), raise_if_eq_ok.mpr (not_not.mpr hnamed.instance_identifier), ?_⟩
    refine bind_eq_ok.mpr ⟨(), hseconds hnamed.started, ?_⟩
    refine bind_eq_ok.mpr ⟨(), hseconds hnamed.deadline, ?_⟩
    refine bind_eq_ok.mpr ⟨(), hseconds hnamed.checkpoint, ?_⟩
    refine bind_eq_ok.mpr ⟨(), hseconds hnamed.poweroff, ?_⟩
    refine bind_eq_ok.mpr ⟨(), hseconds hobserved, ?_⟩
    refine bind_eq_ok.mpr ⟨(), hstops.mpr hstopped, ?_⟩
    refine bind_eq_ok.mpr ⟨(), option_forM_eq_ok.mpr hconfirmation, ?_⟩
    exact bind_eq_ok.mpr ⟨(), option_forM_eq_ok.mpr hnamed.evidence, htimes⟩

/-- A later state of an open session is valid when it is observed after the start, and has not
stopped, or stopped after the last observation with a confirmation. -/
lemma PilotSession.validate_later (h : session.validate = .ok ()) (hopen : session.stopped_at = none)
    {observed : ℚ} (hobserved : session.last_observed_at ≤ observed) {stopped_at : Option ℚ}
    {stop_confirmation : Option String} (hboth : stopped_at.isNone = stop_confirmation.isNone)
    (hstopped : ∀ stop ∈ stopped_at, observed ≤ stop)
    (hconfirmation : ∀ text ∈ stop_confirmation,
      check_length "stop_confirmation" 256 text = .ok ()) :
    ({ session with last_observed_at := observed, stopped_at := stopped_at,
                    stop_confirmation := stop_confirmation } : PilotSession).validate = .ok () := by
  obtain ⟨hnamed, hpositive, -, -, htimes⟩ := validate_eq_ok.mp h
  obtain ⟨_, hkind, hrest⟩ := bind_eq_ok.mp htimes
  obtain ⟨_, hallowance, hrest⟩ := bind_eq_ok.mp hrest
  obtain ⟨_, hstarted, -⟩ := bind_eq_ok.mp hrest
  have hobserved_kind : session.record_kind ≠ .attested := by
    intro hattested
    rw [consistent_kind, if_pos hattested] at hkind
    obtain ⟨_, hneeds, -⟩ := bind_eq_ok.mp hkind
    apply raise_if_eq_ok.mp hneeds
    rw [hopen]
    exact Or.inr rfl
  rw [consistent_kind, if_neg hobserved_kind] at hkind
  rw [raise_if_eq_ok, not_lt] at hstarted
  refine validate_eq_ok.mpr ⟨⟨hnamed.session_identifier, hnamed.instance_identifier,
    hnamed.started, hnamed.deadline, hnamed.checkpoint, hnamed.poweroff, hnamed.evidence⟩,
    hpositive.trans hobserved, fun stop hstop => ?_, hconfirmation, ?_⟩
  · exact (hpositive.trans hobserved).trans (hstopped stop hstop)
  · refine bind_eq_ok.mpr ⟨(), ?_, bind_eq_ok.mpr ⟨(), hallowance, bind_eq_ok.mpr ⟨(), ?_, ?_⟩⟩⟩
    · rw [consistent_kind, if_neg hobserved_kind]
      exact hkind
    · exact raise_if_eq_ok.mpr (not_lt.mpr (hstarted.trans hobserved))
    · refine bind_eq_ok.mpr ⟨(), raise_if_eq_ok.mpr (not_not.mpr hboth), ?_⟩
      rw [raise_if_eq_ok, Option.any_eq_true]
      rintro ⟨stop, hstop, hlt⟩
      exact absurd (of_decide_eq_true hlt) (not_lt.mpr (hstopped stop hstop))

/-! ### The ledger -/

/-- What the audit of a session allows, it allows of one that counts at most as much. -/
lemma audit_session_later {allocations : PilotStage → ℚ} {last : ℕ} {audit audit' : Audit}
    {later : PilotSession} (h : audit_session allocations last audit (session, last) = .ok audit')
    (hstarted : later.started_at = session.started_at)
    (hdeadline : later.deadline_at = session.deadline_at)
    (hcheckpoint : later.checkpoint_at = session.checkpoint_at)
    (hpoweroff : later.poweroff_at = session.poweroff_at) (hstage : later.stage = session.stage)
    (hcounted : later.counted ≤ session.counted) :
    ∃ audit', audit_session allocations last audit (later, last) = .ok audit' := by
  obtain ⟨_, hoverlap, h⟩ := bind_eq_ok.mp h
  obtain ⟨_, -, h⟩ := bind_eq_ok.mp h
  obtain ⟨_, hallowed, h⟩ := bind_eq_ok.mp h
  obtain ⟨_, hsave, h⟩ := bind_eq_ok.mp h
  obtain ⟨_, hshutdown, -⟩ := bind_eq_ok.mp h
  rw [raise_if_eq_ok, not_lt] at hallowed
  refine ⟨audit.spend later, ?_⟩
  refine bind_eq_ok.mpr ⟨(), by rw [hstarted]; exact hoverlap, ?_⟩
  refine bind_eq_ok.mpr ⟨(), raise_if_eq_ok.mpr fun hother => hother.2 rfl, ?_⟩
  refine bind_eq_ok.mpr ⟨(), raise_if_eq_ok.mpr (not_lt.mpr ?_), ?_⟩
  · rw [hstage]
    exact hcounted.trans hallowed
  refine bind_eq_ok.mpr ⟨(), by rw [hdeadline, hcheckpoint]; exact hsave, ?_⟩
  exact bind_eq_ok.mpr ⟨(), by rw [hdeadline, hpoweroff]; exact hshutdown, rfl⟩

/-- Changing an open last session keeps a ledger valid. -/
lemma PilotBudgetLedger.validate_replace_last {later : PilotSession}
    (h : ledger.validate = .ok ()) (hlast : ledger.sessions.getLast? = some session)
    (hlater : later.validate = .ok ())
    (hidentifier : later.session_identifier = session.session_identifier)
    (hstarted : later.started_at = session.started_at)
    (hdeadline : later.deadline_at = session.deadline_at)
    (hcheckpoint : later.checkpoint_at = session.checkpoint_at)
    (hpoweroff : later.poweroff_at = session.poweroff_at) (hstage : later.stage = session.stage)
    (hcounted : later.counted ≤ session.counted) :
    (ledger.replace_last later).validate = .ok () := by
  obtain ⟨before, hsplit⟩ := List.getLast?_eq_some_iff.mp hlast
  have hreplaced : (ledger.replace_last later).sessions = before ++ [later] := by
    rw [replace_last, hsplit, List.dropLast_concat]
  have hlength : (ledger.replace_last later).sessions.length = ledger.sessions.length := by
    rw [hreplaced, hsplit]
    simp
  obtain ⟨_, hnumber, h⟩ := bind_eq_ok.mp h
  obtain ⟨_, hsessions, h⟩ := bind_eq_ok.mp h
  obtain ⟨_, htransfers, h⟩ := bind_eq_ok.mp h
  obtain ⟨_, hvalid, h⟩ := bind_eq_ok.mp h
  obtain ⟨_, hnodup, h⟩ := bind_eq_ok.mp h
  obtain ⟨_, hallocated, h⟩ := bind_eq_ok.mp h
  obtain ⟨final, haudit, _⟩ := bind_eq_ok.mp h
  refine bind_eq_ok.mpr ⟨(), by rw [hlength]; exact hnumber, ?_⟩
  refine bind_eq_ok.mpr ⟨(), forM_eq_ok.mpr fun item hitem => ?_, ?_⟩
  · rw [hreplaced, List.mem_append, List.mem_singleton] at hitem
    rcases hitem with hitem | rfl
    · exact forM_eq_ok.mp hsessions item (by rw [hsplit]; exact List.mem_append_left _ hitem)
    · exact hlater
  refine bind_eq_ok.mpr ⟨(), htransfers, bind_eq_ok.mpr ⟨(), hvalid, ?_⟩⟩
  refine bind_eq_ok.mpr ⟨(), ?_, bind_eq_ok.mpr ⟨(), hallocated, ?_⟩⟩
  · rw [hsplit, List.map_append, List.map_singleton] at hnodup
    rw [hreplaced, List.map_append, List.map_singleton, hidentifier]
    exact hnodup
  · rw [hsplit, List.zipIdx_append, List.foldlM_append] at haudit
    obtain ⟨audit, hbefore, haudit⟩ := bind_eq_ok.mp haudit
    have hindex : (before ++ [session]).length - 1 = before.length := by simp
    rw [List.zipIdx_singleton, Nat.zero_add, List.foldlM_cons, hindex] at haudit
    obtain ⟨_, hsession, -⟩ := bind_eq_ok.mp haudit
    obtain ⟨audit', haudited⟩ := audit_session_later hsession hstarted hdeadline hcheckpoint
      hpoweroff hstage hcounted
    refine bind_eq_ok.mpr ⟨audit', ?_, rfl⟩
    rw [hlength, hreplaced, hsplit, List.zipIdx_append, List.foldlM_append]
    refine bind_eq_ok.mpr ⟨audit, hbefore, ?_⟩
    rw [List.zipIdx_singleton, Nat.zero_add, List.foldlM_cons, hindex]
    exact bind_eq_ok.mpr ⟨audit', haudited, rfl⟩

/-! ### The operations -/

lemma active_of_last (hlast : ledger.sessions.getLast? = some session)
    (hopen : session.stopped_at = none) :
    active ledger session.session_identifier = .ok session := by
  rw [active, hlast]
  simp [hopen]

lemma PilotBudgetLedger.session_valid (h : ledger.validate = .ok ())
    (hsession : session ∈ ledger.sessions) : session.validate = .ok () := by
  obtain ⟨_, _, h⟩ := bind_eq_ok.mp h
  obtain ⟨_, hsessions, -⟩ := bind_eq_ok.mp h
  exact forM_eq_ok.mp hsessions session hsession

/-- An open session is counted its whole allowance, a closed one at most that. -/
lemma PilotSession.counted_le_of_open (hopen : session.stopped_at = none) {later : PilotSession}
    (hstarted : later.started_at = session.started_at)
    (hdeadline : later.deadline_at = session.deadline_at) : later.counted ≤ session.counted := by
  simp only [counted, hopen, hstarted, hdeadline]
  cases later.stopped_at with
  | none => exact le_rfl
  | some stop => exact min_le_left _ _

lemma observe_session_succeeds (h : ledger.validate = .ok ())
    (hlast : ledger.sessions.getLast? = some session) (hopen : session.stopped_at = none)
    (hclock : session.last_observed_at ≤ now) :
    observe_session now session.session_identifier ledger
      = (.ok { session with last_observed_at := now },
          ledger.replace_last { session with last_observed_at := now }) := by
  have hvalid := ledger.session_valid h (List.mem_of_getLast? hlast)
  obtain ⟨-, -, -, hconfirmation, htimes⟩ := PilotSession.validate_eq_ok.mp hvalid
  have hlater : ({ session with last_observed_at := now } : PilotSession).validate = .ok () := by
    refine PilotSession.validate_later hvalid hopen hclock ?_ (fun stop hstop => ?_) hconfirmation
    · obtain ⟨_, _, hrest⟩ := bind_eq_ok.mp htimes
      obtain ⟨_, _, hrest⟩ := bind_eq_ok.mp hrest
      obtain ⟨_, _, hrest⟩ := bind_eq_ok.mp hrest
      obtain ⟨_, hboth, -⟩ := bind_eq_ok.mp hrest
      exact not_not.mp (raise_if_eq_ok.mp hboth)
    · rw [hopen] at hstop
      exact absurd hstop (by simp)
  refine load_bind_ok.mpr ⟨h, lift_bind_ok.mpr ⟨session, active_of_last hlast hopen, ?_⟩⟩
  refine lift_bind_ok.mpr ⟨(), raise_if_eq_ok.mpr (not_lt.mpr hclock), ?_⟩
  refine save_bind_ok.mpr ⟨?_, pure_ok.mpr ⟨rfl, rfl⟩⟩
  exact PilotBudgetLedger.validate_replace_last h hlast hlater rfl rfl rfl rfl rfl rfl
    (PilotSession.counted_le_of_open hopen rfl rfl)

/-- The stop that `confirm_stopped` records. -/
def PilotSession.confirmed_stop (session : PilotSession) (now : ℚ) : ℚ :=
  if now < session.last_observed_at then max session.last_observed_at session.deadline_at else now

/-- The session that `confirm_stopped` closes. -/
def PilotSession.close (session : PilotSession) (now : ℚ) (confirmation : String) : PilotSession :=
  { session with
    stopped_at := some (session.confirmed_stop now)
    stop_confirmation := some confirmation }

lemma confirm_stopped_succeeds (h : ledger.validate = .ok ())
    (hlast : ledger.sessions.getLast? = some session) (hopen : session.stopped_at = none)
    (hconfirmation : 1 ≤ confirmation.length ∧ confirmation.length ≤ 256) :
    confirm_stopped now session.session_identifier confirmation ledger
      = (.ok (ledger.replace_last (session.close now confirmation)),
          ledger.replace_last (session.close now confirmation)) := by
  have hvalid := ledger.session_valid h (List.mem_of_getLast? hlast)
  have hlater : (session.close now confirmation).validate = .ok () := by
    refine PilotSession.validate_later hvalid hopen le_rfl rfl (fun stop hstop => ?_)
      fun text htext => ?_
    · rw [← Option.mem_some_iff.mp hstop, PilotSession.confirmed_stop]
      split_ifs with hbackwards
      · exact le_max_left _ _
      · exact not_lt.mp hbackwards
    · rw [← Option.mem_some_iff.mp htext]
      refine raise_if_eq_ok.mpr fun hlength => ?_
      omega
  have hsaved : ({ session with
      stopped_at := if now < session.last_observed_at then
        some (max session.last_observed_at session.deadline_at) else some now
      stop_confirmation := some confirmation } : PilotSession) = session.close now confirmation := by
    rw [PilotSession.close, PilotSession.confirmed_stop, apply_ite some]
  refine load_bind_ok.mpr ⟨h, lift_bind_ok.mpr ⟨session, active_of_last hlast hopen, ?_⟩⟩
  simp only [hsaved]
  refine save_bind_ok.mpr ⟨?_, pure_ok.mpr ⟨rfl, rfl⟩⟩
  exact PilotBudgetLedger.validate_replace_last h hlast hlater rfl rfl rfl rfl rfl rfl
    (PilotSession.counted_le_of_open hopen rfl rfl)

/-- In every reachable ledger with an open session, that session can be observed at every clock that
is not behind its watermark, and closed at every clock with a valid confirmation. -/
theorem open_session_closable {events : List (ℚ × BudgetOperation)}
    (hrun : Run budget_step {} events ledger) (hsession : session ∈ ledger.sessions)
    (hopen : session.stopped_at = none) :
    (∀ now, session.last_observed_at ≤ now →
      observe_session now session.session_identifier ledger
        = (.ok { session with last_observed_at := now },
            ledger.replace_last { session with last_observed_at := now })) ∧
    ∀ now confirmation, 1 ≤ confirmation.length ∧ confirmation.length ≤ 256 →
      confirm_stopped now session.session_identifier confirmation ledger
        = (.ok (ledger.replace_last (session.close now confirmation)),
            ledger.replace_last (session.close now confirmation)) := by
  have hvalid : ledger.validate = .ok () := validate_of_run hrun
  have hlast : ledger.sessions.getLast? = some session :=
    (PilotBudgetLedger.valid hvalid).getLast?_of_open hsession hopen
  constructor
  · intro now hclock
    exact observe_session_succeeds hvalid hlast hopen hclock
  · intro now confirmation hconfirmation
    exact confirm_stopped_succeeds hvalid hlast hopen hconfirmation

/-- A session observed past its deadline, after a transfer. -/
def overrun_session : List (ℚ × BudgetOperation) :=
  [(1000, .start_session "first" "i-0123abcd" .setup 900 (some 1000)),
    (1200, .transfer_allocation .setup .baseline 600 "longer runs"),
    (2500, .observe_session "first")]

/-- The open session that they leave. -/
def overrun_open : PilotSession where
  session_identifier := "first"
  instance_identifier := "i-0123abcd"
  stage := .setup
  started_at := 900
  deadline_at := 1900
  checkpoint_at := 1600
  poweroff_at := 1780
  last_observed_at := 2500

theorem open_session_closable_overrun :
    (∀ now, overrun_open.last_observed_at ≤ now →
      observe_session now "first" (budget_run {} overrun_session)
        = (.ok { overrun_open with last_observed_at := now },
            (budget_run {} overrun_session).replace_last
              { overrun_open with last_observed_at := now })) ∧
    ∀ now confirmation, 1 ≤ confirmation.length ∧ confirmation.length ≤ 256 →
      confirm_stopped now "first" confirmation (budget_run {} overrun_session)
        = (.ok ((budget_run {} overrun_session).replace_last (overrun_open.close now confirmation)),
            (budget_run {} overrun_session).replace_last (overrun_open.close now confirmation)) :=
  open_session_closable (run_budget_run {} overrun_session)
    (show overrun_open ∈ (budget_run {} overrun_session).sessions by decide +kernel) rfl

end StegoLab

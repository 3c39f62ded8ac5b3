import Mathlib.Tactic.Linarith
import StegoLab.Budget.Closing
import StegoLab.Budget.Guard
import StegoLab.Library.Traces

/-!
# The guard stops in time

The deadlines of a guard only come closer, its sleeps end before the next of them, and however a run
ends, a save has been requested once and poweroff once after it.
-/

namespace StegoLab
namespace PilotGuard

open Transaction Program

variable {session_identifier : String} {session : PilotSession}

/-! ### Sessions -/

/-- The deadlines of an open session are in order. -/
lemma checkpoint_lt_poweroff (h : session.validate = .ok ()) (hopen : session.stopped_at = none) :
    session.checkpoint_at < session.poweroff_at := by
  obtain ⟨-, -, -, -, htimes⟩ := PilotSession.validate_eq_ok.mp h
  obtain ⟨_, hkind, -⟩ := bind_eq_ok.mp htimes
  unfold PilotSession.consistent_kind at hkind
  split_ifs at hkind with hattested hevidence
  · obtain ⟨_, hstopped, -⟩ := bind_eq_ok.mp hkind
    rw [raise_if_eq_ok, not_or, hopen] at hstopped
    exact absurd hstopped.2 (by simp)
  · rw [raise_if_eq_ok, not_not] at hkind
    exact hkind.2.1

lemma active_ordered {ledger : PilotBudgetLedger} (h : ledger.validate = .ok ())
    (hactive : active ledger session_identifier = .ok session) :
    session.checkpoint_at < session.poweroff_at := by
  obtain ⟨hlast, -, hopen⟩ := active_eq_ok hactive
  exact checkpoint_lt_poweroff (ledger.session_valid h (List.mem_of_getLast? hlast)) hopen

lemma load_ledger_fst {stored ledger : PilotBudgetLedger}
    (h : (load_ledger stored).1 = .ok ledger) : ledger = stored ∧ stored.validate = .ok () := by
  have hload : load_ledger stored = (.ok ledger, (load_ledger stored).2) := Prod.ext h rfl
  obtain ⟨read_ledger, _, hread, hrest⟩ := bind_ok.mp hload
  obtain ⟨rfl, rfl⟩ := read_ok.mp hread
  obtain ⟨_, hvalid, hreturn⟩ := lift_bind_ok.mp hrest
  obtain ⟨rfl, -⟩ := pure_ok.mp hreturn
  exact ⟨rfl, refuse_invalid_eq_ok.mp hvalid⟩

lemma read_session_ordered {reading : FirstReading}
    (h : read_session session_identifier reading = .ok session) :
    session.checkpoint_at < session.poweroff_at := by
  obtain ⟨_, -, hread⟩ := bind_eq_ok.mp (mapError_eq_ok.mp h)
  cases hstored : reading.stored with
  | none =>
    rw [hstored] at hread
    exact absurd hread (by simp)
  | some stored =>
    rw [hstored] at hread
    obtain ⟨ledger, hload, hsession⟩ := bind_eq_ok.mp hread
    obtain ⟨found, hactive, hclock⟩ := bind_eq_ok.mp hsession
    obtain ⟨_, -, hreturn⟩ := bind_eq_ok.mp hclock
    obtain rfl := pure_eq_ok.mp hreturn
    obtain ⟨rfl, hvalid⟩ := load_ledger_fst hload
    exact active_ordered hvalid hactive

lemma observe_session_ordered {stored ledger : PilotBudgetLedger} {now : ℚ}
    (h : observe_session now session_identifier stored = (.ok session, ledger)) :
    session.checkpoint_at < session.poweroff_at := by
  obtain ⟨hvalid, hrest⟩ := load_bind_ok.mp h
  obtain ⟨found, hactive, hclock⟩ := lift_bind_ok.mp hrest
  obtain ⟨_, -, hsave⟩ := lift_bind_ok.mp hclock
  obtain ⟨-, hreturn⟩ := save_bind_ok.mp hsave
  obtain ⟨rfl, -⟩ := pure_ok.mp hreturn
  have hordered : found.checkpoint_at < found.poweroff_at := active_ordered hvalid hactive
  exact hordered

lemma observe_ordered {observation : Observation}
    (h : observe session_identifier observation = .ok session) :
    session.checkpoint_at < session.poweroff_at := by
  unfold observe at h
  cases hlock : observation.lock with
  | busy => simp [hlock] at h
  | unavailable => simp [hlock] at h
  | taken =>
    simp only [hlock] at h
    split_ifs at h with hclose
    unfold observe_locked at h
    cases hstored : observation.stored with
    | none => simp [hstored] at h
    | some stored =>
      simp only [hstored] at h
      obtain ⟨found, hobserved, hsaved⟩ := bind_eq_ok.mp h
      obtain ⟨_, -, hreturn⟩ := bind_eq_ok.mp hsaved
      obtain rfl := pure_eq_ok.mp hreturn
      exact observe_session_ordered (Prod.ext (mapError_eq_ok.mp hobserved) rfl)

/-! ### Deadlines -/

namespace GuardDeadlines

variable {deadlines : GuardDeadlines} {clock : ClockReading}

lemma from_session_ordered (h : session.checkpoint_at < session.poweroff_at) :
    (from_session session clock).checkpoint ≤ (from_session session clock).stop := by
  apply add_le_add_right
  apply max_le_max_left
  exact sub_le_sub_right h.le _

lemma shorten_ordered (h : deadlines.checkpoint ≤ deadlines.stop)
    (hsession : session.checkpoint_at < session.poweroff_at) :
    (deadlines.shorten session clock).checkpoint ≤ (deadlines.shorten session clock).stop :=
  min_le_min h (from_session_ordered hsession)

/-- No deadline is later. -/
def NoLater (earlier later : GuardDeadlines) : Prop :=
  later.checkpoint ≤ earlier.checkpoint ∧ later.stop ≤ earlier.stop

lemma NoLater.trans {a b c : GuardDeadlines} (h : NoLater a b) (h' : NoLater b c) : NoLater a c :=
  ⟨h'.1.trans h.1, h'.2.trans h.2⟩

lemma noLater_shorten : NoLater deadlines (deadlines.shorten session clock) :=
  ⟨min_le_left _ _, min_le_left _ _⟩

end GuardDeadlines

open GuardDeadlines

/-! ### What a guard may do -/

def GuardEvent.deadlines? : GuardEvent → Option GuardDeadlines
  | .deadlines targets => some targets
  | _ => none

def GuardEvent.clock? : GuardEvent → Option ℚ
  | .clock now => some now
  | _ => none

/-- The deadlines behind these events. -/
def in_force (past : List GuardEvent) : Option GuardDeadlines :=
  latest GuardEvent.deadlines? past

/-- The guard's clock, as it was read last, shows the stop deadline or a later time. -/
def StopDue (past : List GuardEvent) : Prop :=
  ∃ deadlines now, in_force past = some deadlines ∧ latest GuardEvent.clock? past = some now ∧
    deadlines.stop ≤ now

/-- A deadline at which something is still to be done. -/
def Pending (past : List GuardEvent) (deadline : ℚ) : Prop :=
  ∃ deadlines, in_force past = some deadlines ∧
    (deadline = deadlines.stop ∨
      (deadline = deadlines.checkpoint ∧ .request_checkpoint ∉ past))

/-- A reading that fails other than by contention. -/
def Fails (session_identifier : String) (start : GuardStart) (rounds : List GuardRound)
    (failure : GuardFailure) : Prop :=
  read_session session_identifier start.reading = .error failure ∨
    (failure.code ≠ some "pilot_budget_busy" ∧
      ∃ round ∈ rounds, observe session_identifier round.observation = .error failure)

/-- What the guard may do behind other events. -/
def Allowed (Failure : GuardFailure → Prop) (past : List GuardEvent) : GuardEvent → Prop
  | .clock _ => True
  | .deadlines deadlines => deadlines.checkpoint ≤ deadlines.stop ∧
    ∀ earlier, in_force past = some earlier → NoLater earlier deadlines
  | .request_checkpoint => .request_checkpoint ∉ past ∧ .poweroff ∉ past
  | .sleep now seconds => 0 ≤ seconds ∧
    ∀ deadline, Pending past deadline → seconds ≤ max 0 (deadline - now)
  | .stopping_early failure => Failure failure
  | .poweroff => .request_checkpoint ∈ past ∧ .poweroff ∉ past ∧
    (StopDue past ∨ ∃ failure, .stopping_early failure ∈ past)

/-! ### A guard at work -/

section Work

variable {Failure : GuardFailure → Prop} {events : List GuardEvent} {state : GuardState}
  {deadlines : GuardDeadlines} {actions : StopActions}

/-- The events of a guard that has not powered off. -/
structure Guarding (Failure : GuardFailure → Prop) (state : GuardState) : Prop where
  lawful : LawfulTrace (Allowed Failure) state.events
  running : .poweroff ∉ state.events
  requested : state.checkpoint_requested = true ↔ .request_checkpoint ∈ state.events

/-- The same with deadlines. -/
structure Bound (Failure : GuardFailure → Prop) (deadlines : GuardDeadlines) (state : GuardState) :
    Prop extends Guarding Failure state where
  in_force : in_force state.events = some deadlines
  ordered : deadlines.checkpoint ≤ deadlines.stop

lemma guarding_initial : Guarding Failure {} where
  lawful := .nil
  running := List.not_mem_nil
  requested := by simp

/-- An event that is no action. -/
lemma Guarding.record {event : GuardEvent} (h : Guarding Failure state)
    (hevent : Allowed Failure state.events event) (hpoweroff : event ≠ .poweroff)
    (hrequest : event ≠ .request_checkpoint) :
    Guarding Failure { state with events := state.events ++ [event] } where
  lawful := h.lawful.snoc hevent
  running := by simp [h.running, hpoweroff.symm]
  requested := by simp [h.requested, hrequest.symm]

lemma Bound.record {event : GuardEvent} (h : Bound Failure deadlines state)
    (hevent : Allowed Failure state.events event) (hpoweroff : event ≠ .poweroff)
    (hrequest : event ≠ .request_checkpoint) (hdeadlines : event.deadlines? = none) :
    Bound Failure deadlines { state with events := state.events ++ [event] } where
  toGuarding := h.toGuarding.record hevent hpoweroff hrequest
  in_force := (latest_snoc_of_none hdeadlines).trans h.in_force
  ordered := h.ordered

/-- New deadlines that are no later. -/
lemma Guarding.bound (h : Guarding Failure state) (hordered : deadlines.checkpoint ≤ deadlines.stop)
    (hlater : ∀ earlier, PilotGuard.in_force state.events = some earlier →
      NoLater earlier deadlines) :
    Bound Failure deadlines { state with events := state.events ++ [.deadlines deadlines] } where
  toGuarding := h.record ⟨hordered, hlater⟩ (by simp) (by simp)
  in_force := latest_snoc_of_some rfl
  ordered := hordered

/-! ### Steps -/

lemma contract_record {event : GuardEvent} {P : GuardState → Prop} {Q : Unit → GuardState → Prop}
    {R : Stop GuardFailure → GuardState → Prop}
    (h : ∀ state, P state → Q () { state with events := state.events ++ [event] }) :
    Contract P (record event) Q R where
  returns hs hx := by
    obtain ⟨-, rfl⟩ := Prod.ext_iff.mp hx
    exact h _ hs
  fails _ hx := absurd (congrArg Prod.fst hx) (by simp [record])

lemma contract_mark_requested {P : GuardState → Prop} {Q : Unit → GuardState → Prop}
    {R : Stop GuardFailure → GuardState → Prop}
    (h : ∀ state, P state → Q () { state with checkpoint_requested := true }) :
    Contract P mark_requested Q R where
  returns hs hx := by
    obtain ⟨-, rfl⟩ := Prod.ext_iff.mp hx
    exact h _ hs
  fails _ hx := absurd (congrArg Prod.fst hx) (by simp [mark_requested])

/-- A request only adds its event, whatever the host answers. -/
lemma contract_request_checkpoint {P : GuardState → Prop} {Q : Unit → GuardState → Prop}
    {R : Stop GuardFailure → GuardState → Prop}
    (h : ∀ state, P state → Q () { state with events := state.events ++ [.request_checkpoint] }) :
    Contract P (request_checkpoint actions) Q R := by
  apply contract_catching (S := fun e state => e = .raised .os_error ∧ Q () state)
  · apply (contract_record h).bind
    intro _
    apply contract_attempt
    · intro _ _ state hstate
      exact hstate
    · intro e he state hstate
      unfold raise_if at he
      split_ifs at he
      obtain rfl := Except.error.inj he
      exact ⟨rfl, hstate⟩
  · intro failure
    apply Contract.ite
    · intro _
      apply Contract.pure
      intro state hstate
      exact hstate.2
    · intro hother
      apply contract_raise
      intro state hstate
      exact absurd (Stop.raised.inj hstate.1) hother
  · intro state hstate
    exact absurd hstate.1 (by simp)

/-! ### Rounds -/

/-- The end of the loop at the stop deadline. -/
structure Due (Failure : GuardFailure → Prop) (state : GuardState) : Prop
    extends Guarding Failure state where
  saved : .request_checkpoint ∈ state.events
  due : StopDue state.events

/-- The end of the loop by a failure, or where its readings end. -/
structure Broken (Failure : GuardFailure → Prop) (Cut : Prop) (stop : Stop GuardFailure)
    (state : GuardState) : Prop where
  guarding : Guarding Failure state
  failed : ∀ failure, stop = .raised failure → Failure failure
  cut : stop = .crashed → Cut

/-- A request that is due. -/
lemma Bound.request (h : Bound Failure deadlines state) (hnot : state.checkpoint_requested = false) :
    Bound Failure deadlines
      { checkpoint_requested := true, events := state.events ++ [.request_checkpoint] } where
  lawful := by
    apply h.lawful.snoc
    refine ⟨?_, h.running⟩
    rw [← h.requested, hnot]
    exact Bool.false_ne_true
  running := by simp [h.running]
  requested := by simp
  in_force := (latest_snoc_of_none rfl).trans h.in_force
  ordered := h.ordered

/-- What the beginning of a round leaves: a request, where one was due. -/
structure Asked (Failure : GuardFailure → Prop) (deadlines : GuardDeadlines) (now : ℚ)
    (state : GuardState) : Prop extends Bound Failure deadlines state where
  clock : latest GuardEvent.clock? state.events = some now
  saved : deadlines.checkpoint ≤ now → .request_checkpoint ∈ state.events

lemma contract_save_when_due {now : ℚ} {R : Stop GuardFailure → GuardState → Prop} :
    Contract (fun state => Bound Failure deadlines state ∧
        latest GuardEvent.clock? state.events = some now)
      (save_when_due actions now deadlines) (fun _ => Asked Failure deadlines now) R := by
  apply (Contract.read (Q := fun state s => state = s ∧ Bound Failure deadlines s ∧
    latest GuardEvent.clock? s.events = some now) fun s hs => ⟨rfl, hs⟩).bind
  intro state
  apply Contract.ite
  · rintro ⟨-, hnot⟩
    apply (contract_mark_requested (Q := fun _ s => ∃ t, s = { t with checkpoint_requested := true }
      ∧ t.checkpoint_requested = false ∧ Bound Failure deadlines t ∧
        latest GuardEvent.clock? t.events = some now) ?_).bind
    · intro _
      apply contract_request_checkpoint
      rintro s ⟨t, rfl, hbefore, hbound, hclock⟩
      exact ⟨hbound.request hbefore, (latest_snoc_of_none rfl).trans hclock, fun _ => by simp⟩
    · rintro s ⟨rfl, hbound, hclock⟩
      exact ⟨state, rfl, hnot, hbound, hclock⟩
  · intro hnot
    apply Contract.pure
    rintro s ⟨rfl, hbound, hclock⟩
    refine ⟨hbound, hclock, fun hdue => ?_⟩
    rw [← hbound.requested]
    by_contra hrequested
    exact hnot ⟨hdue, Bool.eq_false_of_not_eq_true hrequested⟩

/-- A look at the ledger keeps the deadlines or brings them closer. -/
lemma contract_look {round : GuardRound} {Cut : Prop}
    (hfails : ∀ failure, observe session_identifier round.observation = .error failure →
      failure.code ≠ some "pilot_budget_busy" → Failure failure) :
    Contract (Bound Failure deadlines) (look session_identifier round deadlines)
      (fun next state => (0 ≤ next.1 ∧ next.2.stop ≤ deadlines.stop) ∧ Bound Failure next.2 state)
      (Broken Failure Cut) := by
  unfold look
  cases hobserved : observe session_identifier round.observation with
  | error failure =>
    apply Contract.ite
    · intro _
      apply Contract.pure
      intro state hstate
      exact ⟨⟨zero_le_one, le_rfl⟩, hstate⟩
    · intro hcode
      apply contract_raise
      intro state hstate
      refine ⟨hstate.toGuarding, fun other hother => ?_, fun h => absurd h (by simp)⟩
      rw [← Stop.raised.inj hother]
      exact hfails failure hobserved hcode
  | ok session =>
    have hsession := observe_ordered hobserved
    apply (contract_record (Q := fun _ => Bound Failure (deadlines.shorten session round.clock))
      ?_).bind
    · intro _
      apply Contract.pure
      intro state hstate
      exact ⟨⟨by norm_num, noLater_shorten.2⟩, hstate⟩
    · intro state hstate
      apply hstate.toGuarding.bound (shorten_ordered hstate.ordered hsession)
      intro earlier hearlier
      obtain rfl := Option.some.inj (hstate.in_force.symm.trans hearlier)
      exact noLater_shorten

/-- A sleep ends before every pending deadline that is still ahead. -/
lemma contract_sleep_until {before_sleep interval : ℚ} {R : Stop GuardFailure → GuardState → Prop}
    (hinterval : 0 ≤ interval) :
    Contract (Bound Failure deadlines) (sleep_until before_sleep interval deadlines)
      (fun _ => Bound Failure deadlines) R := by
  apply (Contract.read (Q := fun state s => state = s ∧ Bound Failure deadlines s)
    fun s hs => ⟨rfl, hs⟩).bind
  intro state
  apply contract_record
  rintro s ⟨rfl, hbound⟩
  apply hbound.record _ (by simp) (by simp) rfl
  refine ⟨le_min hinterval (le_max_left _ _), ?_⟩
  rintro deadline ⟨targets, htargets, hdeadline⟩
  obtain rfl := Option.some.inj (hbound.in_force.symm.trans htargets)
  apply (min_le_right _ _).trans
  apply max_le_max_left
  apply sub_le_sub_right
  split_ifs with hrequested
  · rcases hdeadline with rfl | ⟨-, hnot⟩
    · exact le_rfl
    · exact absurd (hbound.requested.mp hrequested) hnot
  · rcases hdeadline with rfl | ⟨rfl, -⟩
    · exact hbound.ordered
    · exact le_rfl

lemma contract_guard_loop {rounds : List GuardRound}
    (hfails : ∀ round ∈ rounds, ∀ failure,
      observe session_identifier round.observation = .error failure →
      failure.code ≠ some "pilot_budget_busy" → Failure failure) :
    Contract (Bound Failure deadlines) (guard_loop session_identifier actions rounds deadlines)
      (fun _ => Due Failure)
      (Broken Failure (∀ round ∈ rounds, round.now < deadlines.stop)) := by
  induction rounds generalizing deadlines with
  | nil =>
    apply contract_crashed
    intro state hstate
    exact ⟨hstate.toGuarding, fun _ h => absurd h (by simp), fun _ _ h => absurd h List.not_mem_nil⟩
  | cons round rounds ih =>
    rw [List.forall_mem_cons] at hfails
    apply (contract_record (Q := fun _ s => Bound Failure deadlines s ∧
      latest GuardEvent.clock? s.events = some round.now) ?_).bind
    · intro _
      apply contract_save_when_due.bind
      intro _
      apply Contract.ite
      · intro hstop
        apply Contract.pure
        intro state hstate
        exact ⟨hstate.toGuarding, hstate.saved (hstate.ordered.trans hstop),
          deadlines, round.now, hstate.in_force, hstate.clock, hstop⟩
      · intro hbefore
        apply ((contract_look hfails.1).strengthen fun _ hstate => hstate.toBound).bind
        rintro ⟨interval, next⟩
        apply Contract.assume
        rintro ⟨hinterval, hnext⟩
        apply (contract_sleep_until hinterval).bind
        intro _
        apply (ih hfails.2).mono (fun _ => id) fun _ _ => id
        intro stop state hstate
        refine ⟨hstate.guarding, hstate.failed, fun hcut => ?_⟩
        rw [List.forall_mem_cons]
        exact ⟨not_le.mp hbefore, fun other hother => (hstate.cut hcut other hother).trans_le hnext⟩
    · intro state hstate
      exact ⟨hstate.record trivial (by simp) (by simp) rfl, latest_snoc_of_some rfl⟩

/-! ### The end of a run -/

/-- What is needed before poweroff. -/
structure Ready (Failure : GuardFailure → Prop) (state : GuardState) : Prop where
  lawful : LawfulTrace (Allowed Failure) state.events
  running : .poweroff ∉ state.events
  saved : .request_checkpoint ∈ state.events
  reason : StopDue state.events ∨ ∃ failure, .stopping_early failure ∈ state.events

/-- The events behind poweroff. -/
structure Off (Failure : GuardFailure → Prop) (state : GuardState) : Prop where
  lawful : LawfulTrace (Allowed Failure) state.events
  off : .poweroff ∈ state.events

lemma contract_stop_early {failure : GuardFailure} {R : Stop GuardFailure → GuardState → Prop}
    (h : Failure failure) :
    Contract (Guarding Failure) (stop_early actions failure) (fun _ => Ready Failure) R := by
  apply (contract_record (Q := fun _ s => Guarding Failure s ∧
    .stopping_early failure ∈ s.events) ?_).bind
  · intro _
    apply (Contract.read (Q := fun state s => state = s ∧ Guarding Failure s ∧
      .stopping_early failure ∈ s.events) fun s hs => ⟨rfl, hs⟩).bind
    intro state
    apply Contract.ite
    · intro hnot
      apply contract_request_checkpoint
      rintro s ⟨rfl, hguarding, hstopping⟩
      have hunsaved : .request_checkpoint ∉ state.events := by
        rw [← hguarding.requested, hnot]
        exact Bool.false_ne_true
      exact ⟨hguarding.lawful.snoc ⟨hunsaved, hguarding.running⟩, by simp [hguarding.running],
        by simp, Or.inr ⟨failure, by simp [hstopping]⟩⟩
    · intro hasked
      apply Contract.pure
      rintro s ⟨rfl, hguarding, hstopping⟩
      refine ⟨hguarding.lawful, hguarding.running, ?_, Or.inr ⟨failure, hstopping⟩⟩
      rw [← hguarding.requested]
      exact Bool.eq_true_of_not_eq_false hasked
  · intro state hstate
    exact ⟨hstate.record h (by simp) (by simp), by simp⟩

lemma Due.ready (h : Due Failure state) : Ready Failure state :=
  ⟨h.lawful, h.running, h.saved, Or.inl h.due⟩

/-- Poweroff is requested, whatever the host answers. -/
lemma contract_poweroff : Contract (Ready Failure) (poweroff actions) (fun _ => Off Failure)
    fun stop state => stop ≠ .crashed ∧ Off Failure state := by
  apply (contract_record (Q := fun _ => Off Failure) ?_).bind
  · intro _
    apply contract_attempt
    · intro _ _ state hstate
      exact hstate
    · intro _ _ state hstate
      exact ⟨by simp, hstate⟩
  · intro state hstate
    exact ⟨hstate.lawful.snoc ⟨hstate.saved, hstate.running, hstate.reason⟩, by simp⟩

/-- A run that goes on has not read its stop deadline, or a later time. -/
def Cut (session_identifier : String) (start : GuardStart) (rounds : List GuardRound) : Prop :=
  ∃ session, read_session session_identifier start.reading = .ok session ∧
    ∀ round ∈ rounds, round.now < (from_session session start.clock).stop

theorem contract_run_guard (session_identifier : String) (actions : StopActions)
    (start : GuardStart) (rounds : List GuardRound) :
    Contract (· = {}) (run_guard session_identifier actions start rounds)
      (fun _ => Off (Fails session_identifier start rounds))
      fun stop state =>
        (stop = .crashed ∧ Guarding (Fails session_identifier start rounds) state ∧
          Cut session_identifier start rounds) ∨
        (stop ≠ .crashed ∧ Off (Fails session_identifier start rounds) state) := by
  set Failure := Fails session_identifier start rounds
  have hbody : Contract (· = ({} : GuardState)) (do
      let session ← attempt (read_session session_identifier start.reading)
      let deadlines := GuardDeadlines.from_session session start.clock
      record (.deadlines deadlines)
      guard_loop session_identifier actions rounds deadlines)
      (fun _ => Due Failure) (Broken Failure (Cut session_identifier start rounds)) := by
    apply (contract_attempt (Q := fun session s => s = {} ∧
      read_session session_identifier start.reading = .ok session) ?_ ?_).bind
    · intro session
      apply (contract_record (Q := fun _ s =>
        read_session session_identifier start.reading = .ok session ∧
          Bound Failure (from_session session start.clock) s) ?_).bind
      · intro _
        apply Contract.assume
        intro hread
        apply (contract_guard_loop ?_).mono (fun _ => id) fun _ _ => id
        · intro stop state hstate
          exact ⟨hstate.guarding, hstate.failed, fun hcut => ⟨session, hread, hstate.cut hcut⟩⟩
        · intro round hround failure hfailure hcode
          exact Or.inr ⟨hcode, round, hround, hfailure⟩
      · rintro _ ⟨rfl, hread⟩
        refine ⟨hread, guarding_initial.bound (from_session_ordered (read_session_ordered hread)) ?_⟩
        intro earlier hearlier
        exact absurd hearlier (by simp [PilotGuard.in_force, latest_nil])
    · intro session hread state hstate
      exact ⟨hstate, hread⟩
    · rintro failure hread _ rfl
      refine ⟨guarding_initial, fun other hother => ?_, fun h => absurd h (by simp)⟩
      rw [← Stop.raised.inj hother]
      exact Or.inl hread
  have htry : Contract (· = ({} : GuardState)) (catching (do
      let session ← attempt (read_session session_identifier start.reading)
      let deadlines := GuardDeadlines.from_session session start.clock
      record (.deadlines deadlines)
      guard_loop session_identifier actions rounds deadlines) (stop_early actions))
      (fun _ => Ready Failure) fun stop state => stop = .crashed ∧ Guarding Failure state ∧
        Cut session_identifier start rounds := by
    apply contract_catching (hbody.weaken fun _ _ hdue => hdue.ready)
    · intro failure
      apply (Contract.assume (p := Failure failure) contract_stop_early).strengthen
      intro state hstate
      exact ⟨hstate.failed failure rfl, hstate.guarding⟩
    · intro state hstate
      exact ⟨rfl, hstate.guarding, hstate.cut rfl⟩
  apply contract_finally_do htry
  · intro _
    exact contract_poweroff.mono (fun _ => id) (fun _ _ => id) fun _ _ => Or.inr
  · intro failure
    apply Contract.strengthen (P := fun _ => False) _ fun _ hstate => absurd hstate.1 (by simp)
    exact ⟨fun h => h.elim, fun h => h.elim⟩
  · intro state hstate
    exact Or.inl hstate

end Work

/-! ### Stopping in time -/

/-- What a guard has done, whether its run has ended or goes on. -/
structure StopsInTime (Failure : GuardFailure → Prop) (ended : Prop) (events : List GuardEvent) :
    Prop where
  no_later : (events.filterMap GuardEvent.deadlines?).Pairwise NoLater
  ordered : ∀ deadlines, .deadlines deadlines ∈ events → deadlines.checkpoint ≤ deadlines.stop
  once : ended → events.count .request_checkpoint = 1 ∧ events.count .poweroff = 1
  saved_first : ∀ past future, events = past ++ .poweroff :: future → .request_checkpoint ∈ past
  early : ∀ past future, events = past ++ .poweroff :: future → ¬ StopDue past →
    ∃ failure, .stopping_early failure ∈ past ∧ Failure failure
  sleeps : ∀ past now seconds future, events = past ++ .sleep now seconds :: future →
    0 ≤ seconds ∧ ∀ deadline, Pending past deadline → seconds ≤ max 0 (deadline - now)

section Stopping

variable {Failure : GuardFailure → Prop} {events : List GuardEvent}

lemma stopsInTime_of_lawful {ended : Prop} (h : LawfulTrace (Allowed Failure) events)
    (hended : ended → .poweroff ∈ events) : StopsInTime Failure ended events where
  no_later := h.pairwise NoLater.trans fun past event targets hallowed htargets => by
    cases event with
    | deadlines found =>
      obtain rfl := Option.some.inj htargets
      exact hallowed.2
    | _ => exact absurd htargets (by simp [GuardEvent.deadlines?])
  ordered deadlines hdeadlines := by
    obtain ⟨past, future, hsplit⟩ := List.append_of_mem hdeadlines
    exact (h past _ future hsplit).1
  once hend := by
    obtain ⟨past, future, hsplit⟩ := List.append_of_mem (hended hend)
    have hsaved := (h past _ future hsplit).1
    have hsaves : events.count .request_checkpoint ≤ 1 := h.count_le_one fun _ hallowed => hallowed.1
    have hstops : events.count .poweroff ≤ 1 := h.count_le_one fun _ hallowed => hallowed.2.1
    have hsave : .request_checkpoint ∈ events := by
      rw [hsplit]
      exact List.mem_append_left _ hsaved
    exact ⟨le_antisymm hsaves (List.one_le_count_iff.mpr hsave),
      le_antisymm hstops (List.one_le_count_iff.mpr (hended hend))⟩
  saved_first past future hsplit := (h past _ future hsplit).1
  early past future hsplit hbefore := by
    obtain ⟨-, -, hdue | ⟨failure, hfailure⟩⟩ := h past _ future hsplit
    · exact absurd hdue hbefore
    · obtain ⟨first, rest, hfirst⟩ := List.append_of_mem hfailure
      refine ⟨failure, hfailure, h first (.stopping_early failure) (rest ++ .poweroff :: future) ?_⟩
      rw [hsplit, hfirst, List.append_assoc, List.cons_append]
  sleeps past now seconds future hsplit := h past _ future hsplit

end Stopping

/-- A run ends as soon as its clock shows the first stop deadline. -/
theorem guard_ends (session_identifier : String) (actions : StopActions) (start : GuardStart)
    (rounds : List GuardRound) :
    (run_guard session_identifier actions start rounds {}).1 ≠ .error .crashed ∨
      Cut session_identifier start rounds := by
  have hcontract := contract_run_guard session_identifier actions start rounds
  rcases hrun : run_guard session_identifier actions start rounds {} with ⟨stop | _, state⟩
  · rcases hcontract.fails rfl hrun with ⟨-, -, hcut⟩ | ⟨hstop, -⟩
    · exact Or.inr hcut
    · exact Or.inl fun h => hstop (Except.error.inj h)
  · exact Or.inl (by simp)

end PilotGuard
end StegoLab

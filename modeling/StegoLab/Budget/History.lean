import Mathlib.Data.List.Nodup
import Mathlib.Tactic.Ring
import StegoLab.Budget.LedgerProperties
import StegoLab.Budget.OperationProperties

/-!
# The history of a ledger

Along every run no session is lost, closed sessions are final, and charges only grow.
-/

namespace StegoLab

variable {ledger ledger' ledger'' : PilotBudgetLedger} {session session' session'' : PilotSession}

/-! ### Allocations -/

lemma sum_apply_transfer (allocations : PilotStage → ℚ) (transfer : StageTransfer) :
    (PILOT_STAGES.map (apply_transfer allocations transfer)).sum
      = (PILOT_STAGES.map allocations).sum := by
  obtain ⟨from_stage, to_stage, seconds, _, _⟩ := transfer
  cases from_stage <;> cases to_stage <;>
    (simp [apply_transfer, PILOT_STAGES, Function.update]; try ring)

/-- Transfers never change the total. -/
theorem sum_effective_allocations (ledger : PilotBudgetLedger) :
    (PILOT_STAGES.map ledger.effective_allocations).sum = maximum_total_seconds := by
  have hloop : ∀ (transfers : List StageTransfer) (allocations : PilotStage → ℚ),
      (PILOT_STAGES.map (transfers.foldl apply_transfer allocations)).sum
        = (PILOT_STAGES.map allocations).sum := by
    intro transfers
    induction transfers with
    | nil => exact fun _ => rfl
    | cons transfer transfers ih =>
      intro allocations
      rw [List.foldl_cons, ih, sum_apply_transfer]
  rw [PilotBudgetLedger.effective_allocations, hloop]
  norm_num [PILOT_STAGES, STAGE_SECONDS, maximum_total_seconds]

/-- A stage that no transfer names keeps its allocation. -/
lemma foldl_apply_transfer_of_ne {stage : PilotStage} {transfers : List StageTransfer}
    (h : ∀ transfer ∈ transfers, transfer.from_stage ≠ stage ∧ transfer.to_stage ≠ stage)
    (allocations : PilotStage → ℚ) :
    transfers.foldl apply_transfer allocations stage = allocations stage := by
  induction transfers generalizing allocations with
  | nil => rfl
  | cons transfer transfers ih =>
    obtain ⟨hfrom, hto⟩ := h transfer List.mem_cons_self
    rw [List.foldl_cons, ih fun transfer hmem => h transfer (List.mem_cons_of_mem _ hmem)]
    rw [apply_transfer, Function.update_of_ne (Ne.symm hto), Function.update_of_ne (Ne.symm hfrom)]

/-! ### Sessions -/

/-- The recorded charge of a session. -/
def PilotSession.recorded_charge (session : PilotSession) : ℚ :=
  or_time session.stopped_at session.last_observed_at - session.started_at

/-- A later state of a session: a closed one is unchanged. -/
def Succeeds (session session' : PilotSession) : Prop :=
  session' = session ∨ session.stopped_at = none ∧ Continues session session'

lemma Succeeds.trans (h : Succeeds session session') (h' : Succeeds session' session'') :
    Succeeds session session'' := by
  rcases h with rfl | ⟨hopen, hcontinues⟩
  · exact h'
  · rcases h' with rfl | ⟨_, hcontinues'⟩
    · exact Or.inr ⟨hopen, hcontinues⟩
    · refine Or.inr ⟨hopen, hcontinues'.session_identifier.trans hcontinues.session_identifier,
        hcontinues'.started_at.trans hcontinues.started_at,
        hcontinues'.deadline_at.trans hcontinues.deadline_at,
        hcontinues'.stage.trans hcontinues.stage,
        hcontinues.observed.trans hcontinues'.observed, fun stop hstop => ?_⟩
      exact hcontinues.observed.trans (hcontinues'.stopped stop hstop)

lemma Succeeds.same (h : Succeeds session session') :
    session'.session_identifier = session.session_identifier ∧
      session'.started_at = session.started_at := by
  rcases h with rfl | ⟨_, hcontinues⟩
  · exact ⟨rfl, rfl⟩
  · exact ⟨hcontinues.session_identifier, hcontinues.started_at⟩

/-- The charge of a session never decreases. -/
lemma Succeeds.charge_le (h : Succeeds session session') :
    session.recorded_charge ≤ session'.recorded_charge := by
  rcases h with rfl | ⟨hopen, hcontinues⟩
  · exact le_rfl
  · rw [PilotSession.recorded_charge, PilotSession.recorded_charge, hopen, hcontinues.started_at]
    apply sub_le_sub_right
    unfold or_time
    cases hstop : session'.stopped_at with
    | none => exact hcontinues.observed
    | some stop =>
      dsimp only
      split_ifs
      · exact hcontinues.observed
      · exact hcontinues.stopped stop hstop

/-- Every session of the first ledger is in the second, which has all its transfers. -/
structure Extends (ledger ledger' : PilotBudgetLedger) : Prop where
  kept : ∀ session ∈ ledger.sessions, ∃ session' ∈ ledger'.sessions, Succeeds session session'
  transfers : ledger.stage_transfers <+: ledger'.stage_transfers

lemma Extends.refl (ledger : PilotBudgetLedger) : Extends ledger ledger :=
  ⟨fun session hsession => ⟨session, hsession, Or.inl rfl⟩, List.prefix_rfl⟩

lemma Extends.trans (h : Extends ledger ledger') (h' : Extends ledger' ledger'') :
    Extends ledger ledger'' := by
  refine ⟨fun session hsession => ?_, h.transfers.trans h'.transfers⟩
  obtain ⟨session', hsession', hsucceeds⟩ := h.kept session hsession
  obtain ⟨session'', hsession'', hsucceeds'⟩ := h'.kept session' hsession'
  exact ⟨session'', hsession'', hsucceeds.trans hsucceeds'⟩

lemma mem_insert_session {sessions : List PilotSession} (hmem : session ∈ sessions)
    (inserted : PilotSession) : session ∈ insert_session sessions inserted := by
  rw [insert_session]
  have hsplit := List.take_append_drop
    (bisect_left (sessions.map (·.started_at)) inserted.started_at) sessions
  rw [← hsplit, List.mem_append] at hmem
  rcases hmem with hmem | hmem
  · exact List.mem_append_left _ hmem
  · exact List.mem_append_right _ (List.mem_cons_of_mem _ hmem)

lemma mem_replace_last (hlast : ledger.sessions.getLast? = some session)
    (hmem : session' ∈ ledger.sessions) (replaced : PilotSession) :
    session' = session ∨ session' ∈ (ledger.replace_last replaced).sessions := by
  obtain ⟨before, hsplit⟩ := List.getLast?_eq_some_iff.mp hlast
  rw [PilotBudgetLedger.replace_last, hsplit, List.dropLast_concat]
  rw [hsplit, List.mem_append, List.mem_singleton] at hmem
  rcases hmem with hmem | hmem
  · exact Or.inr (List.mem_append_left _ hmem)
  · exact Or.inl hmem

/-- Every change extends the ledger. -/
lemma Changed.extends {now : ℚ} (h : Changed now ledger ledger') : Extends ledger ledger' := by
  cases h with
  | started session _ _ =>
    exact ⟨fun session hsession => ⟨session, List.mem_append_left _ hsession, Or.inl rfl⟩,
      List.prefix_rfl⟩
  | continued session session' hlast hopen hcontinues =>
    refine ⟨fun other hother => ?_, List.prefix_rfl⟩
    rcases mem_replace_last hlast hother session' with rfl | hmem
    · exact ⟨session', List.mem_append_right _ (List.mem_singleton_self _),
        Or.inr ⟨hopen, hcontinues⟩⟩
    · exact ⟨other, hmem, Or.inl rfl⟩
  | attested session =>
    exact ⟨fun other hother => ⟨other, mem_insert_session hother session, Or.inl rfl⟩,
      List.prefix_rfl⟩
  | transferred transfer =>
    exact ⟨fun session hsession => ⟨session, hsession, Or.inl rfl⟩, List.prefix_append _ _⟩

/-! ### Runs -/

/-- A step keeps a ledger valid and extends it. -/
lemma budget_step_extends {event : ℚ × BudgetOperation} (hvalid : ledger.validate = .ok ())
    (h : budget_step ledger event ledger') :
    ledger'.validate = .ok () ∧ Extends ledger ledger' := by
  rcases budget_step_cases h with rfl | haccepted
  · exact ⟨hvalid, Extends.refl _⟩
  · exact ⟨haccepted.after, haccepted.changed.extends⟩

lemma validate_empty : ({} : PilotBudgetLedger).validate = .ok () := by
  decide

/-- Every reachable ledger is valid. -/
theorem validate_of_run {events : List (ℚ × BudgetOperation)}
    (h : Run budget_step {} events ledger) : ledger.validate = .ok () :=
  h.invariant (fun ledger => ledger.validate = .ok ())
    (fun hvalid hstep => (budget_step_extends hvalid hstep).1) validate_empty

/-- A session that is stopped while the clock reads an earlier time than observed before. -/
def stopped_session : List (ℚ × BudgetOperation) :=
  [(1000, .start_session "first" "i-0123abcd" .setup 900 (some 1000)),
    (1500, .observe_session "first"), (1400, .confirm_stopped "first" "console")]

end StegoLab

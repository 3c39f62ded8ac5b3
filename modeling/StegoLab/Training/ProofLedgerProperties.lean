import Mathlib.Tactic.Ring
import StegoLab.Training.ProofLedger

/-!
# Charges and reservations

Charges add up, and reconciling a valid ledger or reserving time in it gives a valid ledger.
-/

namespace StegoLab

variable {ledger reserved : BudgetLedger} {request : ProofRequest} {identifier : String}
  {now seconds : ℚ}

namespace BudgetLedger

/-! ### Charges -/

lemma names_charge : (ledger.charge identifier seconds).names = ledger.names := by
  rw [names, charge, names, List.map_map]
  refine List.map_congr_left fun experiment _ => ?_
  by_cases h : experiment.experiment_identifier = identifier
  · simp [h]
  · simp [h]

/-- A charge to an experiment of the ledger is part of the time of all experiments. -/
lemma experiment_seconds_charge (seconds : ℚ) (hnodup : ledger.names.Nodup) (hmem : identifier ∈ ledger.names) :
    (ledger.charge identifier seconds).experiment_seconds = ledger.experiment_seconds + seconds := by
  obtain ⟨consumed, experiments, active⟩ := ledger
  simp only [experiment_seconds, charge, names] at *
  induction experiments with
  | nil => exact absurd hmem List.not_mem_nil
  | cons experiment experiments ih =>
    rw [List.map_cons, List.nodup_cons] at hnodup
    rw [List.map_cons, List.map_cons, List.sum_cons, List.map_cons, List.sum_cons]
    by_cases h : experiment.experiment_identifier = identifier
    · have hothers : experiments.map (fun other =>
          if other.experiment_identifier = identifier then
            { other with consumed_seconds := other.consumed_seconds + seconds }
          else other) = experiments := by
        refine (List.map_congr_left fun other hother => ?_).trans (List.map_id _)
        rw [if_neg]
        · rfl
        · intro heq
          apply hnodup.1
          exact List.mem_map.mpr ⟨other, hother, heq.trans h.symm⟩
      rw [hothers, if_pos h]
      ring
    · rw [List.map_cons, List.mem_cons] at hmem
      rw [ih hnodup.2 (hmem.resolve_left (Ne.symm h)), if_neg h]
      ring

lemma experiment_consumed_charge (other : String) :
    (ledger.charge identifier seconds).experiment_consumed other
      = ledger.experiment_consumed other
        + if other = identifier ∧ identifier ∈ ledger.names then seconds else 0 := by
  obtain ⟨consumed, experiments, active⟩ := ledger
  simp only [experiment_consumed, charge, names]
  induction experiments with
  | nil => simp
  | cons experiment experiments ih =>
    rw [List.map_cons, List.find?_cons, List.find?_cons]
    by_cases hother : experiment.experiment_identifier = other
    · by_cases h : experiment.experiment_identifier = identifier
      · obtain rfl := hother.symm.trans h
        simp [h]
      · have hne : other ≠ identifier := fun heq => h (hother.trans heq)
        simp [hother, hne]
    · by_cases h : experiment.experiment_identifier = identifier
      · have hne : other ≠ identifier := fun heq => hother (h.trans heq.symm)
        simp only [h, if_true]
        rw [h] at hother
        simp only [hother, decide_false]
        rw [ih]
        simp [hne]
      · simp only [h, if_false, hother, decide_false]
        rw [ih]
        simp [Ne.symm h]

lemma active_reconciled : ledger.reconciled.active = none := by
  unfold reconciled
  cases h : ledger.active with
  | none => exact h
  | some active => rfl

lemma reconciled_of_idle (h : ledger.active = none) : ledger.reconciled = ledger := by
  rw [reconciled, h]

/-! ### Validity -/

/-- A charge keeps a ledger valid, and the reservation may be dropped. -/
lemma valid_charge (h : ledger.Valid) (hseconds : 0 ≤ seconds) (hmem : identifier ∈ ledger.names) :
    ({ ledger.charge identifier seconds with active := none } : BudgetLedger).Valid := by
  obtain ⟨hconsumed, hlength, hexperiments, -, hnodup, haccounts, -⟩ := h
  refine ⟨add_nonneg hconsumed hseconds, ?_, fun experiment hexperiment => ?_, by simp, ?_, ?_,
    by simp⟩
  · simpa [charge] using hlength
  · obtain ⟨before, hbefore, rfl⟩ := List.mem_map.mp hexperiment
    obtain ⟨hpattern, hspent⟩ := hexperiments before hbefore
    by_cases h : before.experiment_identifier = identifier
    · rw [if_pos h]
      exact ⟨hpattern, add_nonneg hspent hseconds⟩
    · rw [if_neg h]
      exact ⟨hpattern, hspent⟩
  · exact names_charge.symm ▸ hnodup
  · have hsum := experiment_seconds_charge seconds hnodup hmem
    change |(ledger.charge identifier seconds).experiment_seconds
      - (ledger.consumed_seconds + seconds)| ≤ _
    rw [hsum, add_sub_add_right_eq_sub]
    exact haccounts

lemma valid_reconciled (h : ledger.Valid) : ledger.reconciled.Valid := by
  unfold reconciled
  cases hactive : ledger.active with
  | none => exact h
  | some active =>
    obtain ⟨-, hpositive, -⟩ := h.2.2.2.1 active hactive
    exact valid_charge h hpositive.le (h.2.2.2.2.2.2 active hactive)

end BudgetLedger

/-! ### Admission -/

/-- What an invocation that is let in reserves. -/
structure Admitted (request : ProofRequest) (now : ℚ) (ledger reserved : BudgetLedger) : Prop where
  consumed_seconds : reserved.consumed_seconds = ledger.consumed_seconds
  experiments : reserved.experiments = ledger.experiments ∧
      request.experiment_identifier ∈ ledger.names ∨
    reserved.experiments
        = ledger.experiments ++ [{ experiment_identifier := request.experiment_identifier }] ∧
      request.experiment_identifier ∉ ledger.names ∧ ledger.experiments.length < 2
  active : reserved.active = some
    { experiment_identifier := request.experiment_identifier
      started_at := now
      reserved_seconds := ledger.allowance request.experiment_identifier }
  valid : ({ experiment_identifier := request.experiment_identifier
             started_at := now
             reserved_seconds := ledger.allowance request.experiment_identifier } :
    ActiveBudget).Valid

/-- A new slot does not change what the experiments have consumed. -/
lemma BudgetLedger.experiment_consumed_append (other : String) :
    ({ ledger with experiments :=
        ledger.experiments ++ [{ experiment_identifier := identifier }] } :
      BudgetLedger).experiment_consumed other = ledger.experiment_consumed other := by
  simp only [experiment_consumed, List.find?_append]
  cases ledger.experiments.find? fun experiment =>
      experiment.experiment_identifier = other with
  | some experiment => rfl
  | none =>
    by_cases h : identifier = other
    · simp [h]
    · simp [h]

theorem admitted_of_admission (h : admission request now ledger = .ok reserved) :
    Admitted request now ledger reserved := by
  unfold admission at h
  obtain ⟨retry, -, h⟩ := bind_eq_ok.mp h
  obtain ⟨_, -, h⟩ := bind_eq_ok.mp h
  obtain ⟨_, hslots, h⟩ := bind_eq_ok.mp h
  obtain ⟨_, -, h⟩ := bind_eq_ok.mp h
  obtain ⟨_, hactive, h⟩ := bind_eq_ok.mp h
  obtain rfl := pure_eq_ok.mp h
  rw [raise_if_eq_ok, not_not] at hactive
  rw [raise_if_eq_ok, not_and, not_le] at hslots
  by_cases hexisting : request.experiment_identifier ∈ ledger.names
  · have hcontains : ledger.names.contains request.experiment_identifier = true := by simpa
    rw [hcontains] at hactive
    exact ⟨by simp [hexisting], Or.inl ⟨by simp [hexisting], hexisting⟩, by simp [hexisting],
      by simpa using hactive⟩
  · have hcontains : ledger.names.contains request.experiment_identifier = false := by simpa
    have hallowance : ({ ledger with experiments := ledger.experiments
        ++ [{ experiment_identifier := request.experiment_identifier }] } :
          BudgetLedger).allowance request.experiment_identifier
        = ledger.allowance request.experiment_identifier := by
      rw [BudgetLedger.allowance, BudgetLedger.allowance, BudgetLedger.experiment_consumed_append]
    simp only [hcontains, Bool.false_eq_true, if_false, hallowance] at hactive
    refine ⟨by simp [hexisting], Or.inr ⟨by simp [hexisting], hexisting, hslots hcontains⟩, ?_,
      hactive⟩
    simp [hexisting, hallowance]

/-- A reservation in a valid ledger is valid. -/
lemma Admitted.valid_reserved (h : Admitted request now ledger reserved) (hvalid : ledger.Valid)
    (hidentifier : experiment_pattern request.experiment_identifier = true) : reserved.Valid := by
  obtain ⟨hconsumed, hlength, hexperiments, -, hnodup, haccounts, -⟩ := hvalid
  have hactive : ∀ active ∈ reserved.active, active.Valid := by
    intro active hactive
    rw [h.active, Option.mem_some_iff] at hactive
    exact hactive ▸ h.valid
  have hnamed : request.experiment_identifier ∈ reserved.names →
      ∀ active ∈ reserved.active, active.experiment_identifier ∈ reserved.names := by
    intro hmem active hactive
    rw [h.active, Option.mem_some_iff] at hactive
    exact hactive ▸ hmem
  rcases h.experiments with ⟨hsame, hmem⟩ | ⟨hnew, hmem, hslots⟩
  · refine ⟨h.consumed_seconds ▸ hconsumed, hsame ▸ hlength, hsame ▸ hexperiments, hactive, ?_, ?_,
      hnamed ?_⟩
    · rw [BudgetLedger.names, hsame]
      exact hnodup
    · rw [BudgetLedger.experiment_seconds, hsame, h.consumed_seconds]
      exact haccounts
    · rw [BudgetLedger.names, hsame]
      exact hmem
  · have hnames : reserved.names = ledger.names ++ [request.experiment_identifier] := by
      rw [BudgetLedger.names, hnew, List.map_append]
      rfl
    refine ⟨h.consumed_seconds ▸ hconsumed, ?_, fun experiment hexperiment => ?_, hactive, ?_, ?_,
      hnamed ?_⟩
    · rw [hnew, List.length_append, List.length_singleton]
      exact hslots
    · rw [hnew, List.mem_append, List.mem_singleton] at hexperiment
      rcases hexperiment with hexperiment | rfl
      · exact hexperiments experiment hexperiment
      · exact ⟨hidentifier, le_rfl⟩
    · rw [hnames, List.nodup_append]
      refine ⟨hnodup, by simp, fun name hname other hother heq => hmem ?_⟩
      rw [List.mem_singleton] at hother
      exact (heq.trans hother) ▸ hname
    · have hsum : reserved.experiment_seconds = ledger.experiment_seconds := by
        rw [BudgetLedger.experiment_seconds, hnew, List.map_append, List.sum_append]
        simp [BudgetLedger.experiment_seconds]
      rw [hsum, h.consumed_seconds]
      exact haccounts
    · rw [hnames]
      simp

end StegoLab

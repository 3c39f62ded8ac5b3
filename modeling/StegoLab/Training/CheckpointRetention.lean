import StegoLab.Training.Checkpoints

/-!
# Retention of checkpoints

An index is computed from the one before and the latest checkpoint. It is the index that all
checkpoints ever saved would give.
-/

namespace StegoLab

variable {saved : List CheckpointSummary} {item latest : CheckpointSummary}
  {index next : CheckpointIndex}

/-- Why a checkpoint is kept, among all that were saved. -/
def KeptCheckpoint (saved : List CheckpointSummary) (item : CheckpointSummary) : Prop :=
  item.pinned = true ∨ saved.getLast? = some item ∨ item ∈ measured_best saved

instance KeptCheckpoint.decidable (saved : List CheckpointSummary) (item : CheckpointSummary) :
    Decidable (KeptCheckpoint saved item) :=
  inferInstanceAs (Decidable (_ ∨ _))

/-- What is kept of all checkpoints ever saved. -/
def retention (saved : List CheckpointSummary) : List CheckpointSummary :=
  saved.filter fun item => KeptCheckpoint saved item

/-- The saved checkpoints have distinct identifiers. -/
def Distinct (saved : List CheckpointSummary) : Prop :=
  (saved.map CheckpointSummary.checkpoint_identifier).Nodup

lemma Distinct.sublist {kept : List CheckpointSummary} (h : Distinct saved)
    (hkept : kept.Sublist saved) : Distinct kept :=
  List.Nodup.sublist (hkept.map _) h

lemma Distinct.eq_of_identifier {other : CheckpointSummary} (h : Distinct saved)
    (hitem : item ∈ saved) (hother : other ∈ saved)
    (heq : item.checkpoint_identifier = other.checkpoint_identifier) : item = other :=
  List.inj_on_of_nodup_map h hitem hother heq

/-- Distinct identifiers give distinct ranks. -/
lemma Distinct.nodup_rank (h : Distinct saved) : (saved.map CheckpointSummary.rank).Nodup := by
  apply List.Nodup.of_map fun rank : CheckpointRank => (ofLex (ofLex (ofLex (ofLex rank).2).2).2).2
  rw [List.map_map]
  exact h

lemma measured_sublist {kept : List CheckpointSummary} (h : kept.Sublist saved) :
    (measured kept).Sublist (measured saved) :=
  h.filter _

lemma Distinct.nodup_measured (h : Distinct saved) :
    ((measured saved).map CheckpointSummary.rank).Nodup :=
  (h.sublist List.filter_sublist).nodup_rank

lemma mem_of_mem_measured_best (h : Distinct saved) (hitem : item ∈ measured_best saved) :
    item ∈ measured saved :=
  ((Ranking.mem_best h.nodup_measured).mp hitem).1

/-- The three measured best are those that fewer than three measured ones outrank. -/
lemma mem_measured_best (h : Distinct saved) : item ∈ measured_best saved ↔
    item ∈ saved ∧ item.metrics.isSome = true ∧
      Ranking.outranking CheckpointSummary.rank (measured saved) item < 3 := by
  rw [measured_best, Ranking.mem_best h.nodup_measured, measured, List.mem_filter, and_assoc]

/-- What is kept after one more checkpoint was kept before it. -/
lemma kept_of_append (h : Distinct (saved ++ [latest])) (hitem : item ∈ saved)
    (hkept : KeptCheckpoint (saved ++ [latest]) item) : KeptCheckpoint saved item := by
  have hne : latest ≠ item := by
    rintro rfl
    have hdisjoint := (List.nodup_append.mp (List.Nodup.of_map _ h)).2.2
    exact hdisjoint latest hitem latest (List.mem_singleton_self _) rfl
  rcases hkept with hpinned | hlast | hbest
  · exact Or.inl hpinned
  · rw [List.getLast?_append_of_ne_nil _ (by simp), List.getLast?_singleton] at hlast
    exact absurd (Option.some.inj hlast) hne
  · have hmeasured := (List.mem_filter.mp (mem_of_mem_measured_best h hbest)).2
    exact Or.inr (Or.inr (Ranking.mem_best_of_sublist h.nodup_measured
      (measured_sublist (List.sublist_append_left _ _))
      (List.mem_filter.mpr ⟨hitem, hmeasured⟩) hbest))

/-- The candidates of a save have the same three best as all checkpoints. -/
lemma mem_measured_best_candidates (h : Distinct (saved ++ [latest])) :
    item ∈ measured_best (retention saved ++ [latest]) ↔
      item ∈ measured_best (saved ++ [latest]) := by
  refine Ranking.mem_best_of_kept h.nodup_measured
    (measured_sublist (List.filter_sublist.append_right _)) fun item hbest => ?_
  obtain ⟨hitem, hmeasured⟩ := List.mem_filter.mp (mem_of_mem_measured_best h hbest)
  refine List.mem_filter.mpr ⟨?_, hmeasured⟩
  rcases List.mem_append.mp hitem with hsaved | hlatest
  · exact List.mem_append_left _ (List.mem_filter.mpr ⟨hsaved, decide_eq_true
      (kept_of_append h hsaved (Or.inr (Or.inr hbest)))⟩)
  · exact List.mem_append_right _ hlatest

/-- The test of `_retained` on a candidate. -/
lemma kept_iff_candidate (h : Distinct (saved ++ [latest]))
    (hitem : item ∈ retention saved ++ [latest]) :
    (item.pinned || (latest.checkpoint_identifier ::
      (measured_best (retention saved ++ [latest])).map
        CheckpointSummary.checkpoint_identifier).contains item.checkpoint_identifier) = true ↔
      KeptCheckpoint (saved ++ [latest]) item := by
  have hmem : item ∈ saved ++ [latest] := (List.filter_sublist.append_right _).subset hitem
  have hlast : (saved ++ [latest]).getLast? = some latest := by simp
  rw [Bool.or_eq_true, List.contains_iff_mem, List.mem_cons, List.mem_map, KeptCheckpoint, hlast]
  refine or_congr_right (or_congr ⟨fun heq => ?_, fun heq => ?_⟩ ⟨?_, fun hbest => ?_⟩)
  · exact congrArg some (h.eq_of_identifier (by simp) hmem heq.symm)
  · rw [Option.some.inj heq]
  · rintro ⟨other, hother, heq⟩
    have hbest := (mem_measured_best_candidates h).mp hother
    have hsaved := (List.mem_filter.mp (mem_of_mem_measured_best h hbest)).1
    exact h.eq_of_identifier hsaved hmem heq ▸ hbest
  · exact ⟨item, (mem_measured_best_candidates h).mpr hbest, rfl⟩

/-- A computed index is valid, and its latest checkpoint is the new one. -/
lemma retained_ok (hretained : retained index latest = .ok next) :
    next.Valid ∧ next.latest_identifier = some latest.checkpoint_identifier := by
  obtain ⟨_, hvalid, hnext⟩ := bind_eq_ok.mp hretained
  obtain rfl := pure_eq_ok.mp hnext
  exact ⟨not_not.mp (raise_if_eq_ok.mp hvalid), rfl⟩

/-- Retention from the previous index is retention from everything. -/
theorem retained_eq_retention (h : Distinct (saved ++ [latest]))
    (hindex : index.checkpoints = retention saved) (hretained : retained index latest = .ok next) :
    next.checkpoints = retention (saved ++ [latest]) := by
  obtain ⟨_, -, hnext⟩ := bind_eq_ok.mp hretained
  obtain rfl := pure_eq_ok.mp hnext
  dsimp only
  rw [hindex, List.filter_congr fun item hitem =>
    Bool.eq_iff_iff.mpr ((kept_iff_candidate h hitem).trans decide_eq_true_iff.symm)]
  rw [retention, List.filter_append, retention, List.filter_append, List.filter_filter]
  congr 1
  refine List.filter_congr fun item hitem => ?_
  by_cases hkept : KeptCheckpoint (saved ++ [latest]) item
  · simp [hkept, kept_of_append h hitem hkept]
  · simp [hkept]

end StegoLab

import Mathlib.Data.List.Sort

/-!
# Rankings

The best few items of a list, by a rank that no two of them share. A selection that keeps them can
go on from what it has kept.
-/

namespace Ranking

variable {α κ : Type*} [LinearOrder κ] (rank : α → κ)

/-- The last few items in the order of their rank. -/
def best (count : ℕ) (items : List α) : List α :=
  let sorted := items.insertionSort fun a b => rank a ≤ rank b
  sorted.drop (sorted.length - count)

/-- How many items have a higher rank. -/
def outranking (items : List α) (item : α) : ℕ :=
  items.countP fun other => rank item < rank other

variable {rank} {count : ℕ} {items kept : List α} {item : α}

lemma outranking_cons_of_le {first : α} (h : rank first ≤ rank item) :
    outranking rank (first :: items) item = outranking rank items item := by
  rw [outranking, List.countP_cons_of_neg (by simpa using h)]
  rfl

/-- In a list with increasing ranks, the last items are those that few outrank. -/
lemma mem_drop_iff (h : items.Pairwise fun a b => rank a < rank b) :
    item ∈ items.drop (items.length - count) ↔
      item ∈ items ∧ outranking rank items item < count := by
  induction items with
  | nil => simp
  | cons first rest ih =>
    obtain ⟨hfirst, hrest⟩ := List.pairwise_cons.mp h
    have hbound : outranking rank rest item ≤ rest.length := List.countP_le_length
    by_cases hcount : count ≤ rest.length
    · rw [List.length_cons, Nat.succ_sub hcount, List.drop_succ_cons, ih hrest, List.mem_cons]
      constructor
      · rintro ⟨hitem, hoverall⟩
        rw [outranking_cons_of_le (hfirst item hitem).le]
        exact ⟨Or.inr hitem, hoverall⟩
      · rintro ⟨rfl | hitem, hoverall⟩
        · have hall : outranking rank rest item = rest.length :=
            List.countP_eq_length.mpr fun other hother => by simpa using hfirst other hother
          rw [outranking_cons_of_le le_rfl, hall] at hoverall
          omega
        · rw [outranking_cons_of_le (hfirst item hitem).le] at hoverall
          exact ⟨hitem, hoverall⟩
    · rw [List.length_cons, Nat.sub_eq_zero_of_le (by omega), List.drop_zero]
      refine ⟨fun hitem => ⟨hitem, ?_⟩, And.left⟩
      rcases List.mem_cons.mp hitem with rfl | hitem
      · rw [outranking_cons_of_le le_rfl]
        omega
      · rw [outranking_cons_of_le (hfirst item hitem).le]
        omega

/-- In an increasing list, the first items are those with few before them. -/
lemma mem_take_iff {keys : List κ} {key : κ} (h : keys.Pairwise (· < ·)) :
    key ∈ keys.take count ↔ key ∈ keys ∧ keys.countP (· < key) < count := by
  induction keys generalizing count with
  | nil => simp
  | cons first rest ih =>
    obtain ⟨hfirst, hrest⟩ := List.pairwise_cons.mp h
    cases count with
    | zero => simp
    | succ count =>
      rw [List.take_succ_cons, List.mem_cons, List.mem_cons, ih hrest]
      constructor
      · rintro (rfl | ⟨hkey, hfew⟩)
        · have hnone : (key :: rest).countP (· < key) = 0 :=
            List.countP_eq_zero.mpr fun other hother => by
              rcases List.mem_cons.mp hother with rfl | hother
              · simp
              · simpa using (hfirst other hother).le
          exact ⟨Or.inl rfl, hnone ▸ Nat.succ_pos count⟩
        · rw [List.countP_cons_of_pos (by simpa using hfirst key hkey)]
          exact ⟨Or.inr hkey, Nat.succ_lt_succ hfew⟩
      · rintro ⟨rfl | hkey, hfew⟩
        · exact Or.inl rfl
        · rw [List.countP_cons_of_pos (by simpa using hfirst key hkey)] at hfew
          exact Or.inr ⟨hkey, Nat.lt_of_succ_lt_succ hfew⟩

/-- Items with distinct ranks are sorted strictly. -/
lemma pairwise_insertionSort_rank (h : (items.map rank).Nodup) :
    (items.insertionSort fun a b => rank a ≤ rank b).Pairwise fun a b => rank a < rank b := by
  have : Std.Total fun a b => rank a ≤ rank b := ⟨fun a b => le_total (rank a) (rank b)⟩
  have : IsTrans α fun a b => rank a ≤ rank b := ⟨fun _ _ _ => le_trans⟩
  have hsorted := List.pairwise_insertionSort (fun a b => rank a ≤ rank b) items
  have hperm := (List.perm_insertionSort (fun a b => rank a ≤ rank b) items).map rank
  have hdistinct := List.pairwise_map.mp (hperm.nodup_iff.mpr h)
  exact hsorted.imp₂ (fun _ _ => lt_of_le_of_ne) hdistinct

/-- The best items are those that few outrank. -/
theorem mem_best (h : (items.map rank).Nodup) :
    item ∈ best rank count items ↔ item ∈ items ∧ outranking rank items item < count := by
  have hperm := List.perm_insertionSort (fun a b => rank a ≤ rank b) items
  rw [best, mem_drop_iff (pairwise_insertionSort_rank h), hperm.mem_iff, outranking,
    hperm.countP_eq, outranking]

lemma length_best : (best rank count items).length = min items.length count := by
  rw [best, List.length_drop, List.length_insertionSort]
  omega

lemma nodup_best (h : (items.map rank).Nodup) : (best rank count items).Nodup := by
  have hperm := List.perm_insertionSort (fun a b => rank a ≤ rank b) items
  exact (hperm.nodup_iff.mpr (List.Nodup.of_map rank h)).sublist (List.drop_sublist _ _)

lemma outranking_le_of_sublist (h : kept.Sublist items) :
    outranking rank kept item ≤ outranking rank items item :=
  h.countP_le

/-- Every best item outranks every other one. -/
lemma rank_lt_of_best (h : (items.map rank).Nodup) {other : α}
    (hother : other ∈ best rank count items) (hitem : count ≤ outranking rank items item) :
    rank item < rank other := by
  obtain ⟨-, hfew⟩ := (mem_best h).mp hother
  by_contra hle
  have hmono : outranking rank items item ≤ outranking rank items other :=
    List.countP_mono_left fun third _ hthird =>
      decide_eq_true ((not_lt.mp hle).trans_lt (of_decide_eq_true hthird))
  omega

/-- What keeps the best items has the same best items. -/
theorem mem_best_of_kept (h : (items.map rank).Nodup) (hkept : kept.Sublist items)
    (hbest : ∀ item ∈ best rank count items, item ∈ kept) :
    item ∈ best rank count kept ↔ item ∈ best rank count items := by
  rw [mem_best (h.sublist (hkept.map rank)), mem_best h]
  constructor
  · rintro ⟨hitem, hfew⟩
    refine ⟨hkept.subset hitem, ?_⟩
    by_contra hmany
    have houtranked : (best rank count items).Subperm (kept.filter fun other =>
        rank item < rank other) :=
      List.subperm_of_subset (nodup_best h) fun other hother => List.mem_filter.mpr
        ⟨hbest other hother, decide_eq_true (rank_lt_of_best h hother (not_lt.mp hmany))⟩
    have hlength := houtranked.length_le
    rw [length_best, ← List.countP_eq_length_filter] at hlength
    have hbound : outranking rank items item ≤ items.length := List.countP_le_length
    change _ ≤ outranking rank kept item at hlength
    omega
  · rintro ⟨hitem, hfew⟩
    exact ⟨hbest item ((mem_best h).mpr ⟨hitem, hfew⟩),
      (outranking_le_of_sublist hkept).trans_lt hfew⟩

/-- An item that is among the best of more items is among the best of fewer. -/
theorem mem_best_of_sublist (h : (items.map rank).Nodup) (hkept : kept.Sublist items)
    (hitem : item ∈ kept) (hbest : item ∈ best rank count items) :
    item ∈ best rank count kept :=
  (mem_best (h.sublist (hkept.map rank))).mpr
    ⟨hitem, (outranking_le_of_sublist hkept).trans_lt ((mem_best h).mp hbest).2⟩

end Ranking

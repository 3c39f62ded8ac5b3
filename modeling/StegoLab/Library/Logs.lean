import Mathlib.Data.List.Basic
import Mathlib.Order.Defs.LinearOrder

/-!
# Append-only logs

A log only grows. A reader has a position in it and takes what follows in pages; pages that start
where the page before ended are one slice of the log, whatever is appended in between.
-/

namespace Log

variable {α : Type*} {log log' : List α} {a b c : ℕ} {entry : α}

/-- The entries from one position to another. -/
def slice (log : List α) (a b : ℕ) : List α :=
  (log.drop a).take (b - a)

@[simp] lemma slice_self : slice log a a = [] := by
  simp [slice]

/-- Two slices that meet are one. -/
lemma slice_append_slice (hab : a ≤ b) (hbc : b ≤ c) :
    slice log a b ++ slice log b c = slice log a c := by
  have hdrop : (log.drop a).drop (b - a) = log.drop b := by
    rw [List.drop_drop, Nat.add_sub_cancel' hab]
  have hlength : c - a = (b - a) + (c - b) := by omega
  unfold slice
  rw [hlength, List.take_add, hdrop]

/-- What is appended behind a slice leaves it alone. -/
lemma slice_of_prefix ( hprefix : log <+: log') (hb : b ≤ log.length) :
    slice log' a b = slice log a b := by
  obtain ⟨more, rfl⟩ := hprefix
  unfold slice
  by_cases hab : a ≤ b
  · rw [List.drop_append_of_le_length (Nat.le_trans hab hb), List.take_append_of_le_length]
    rw [List.length_drop]
    omega
  · rw [Nat.sub_eq_zero_of_le (Nat.le_of_not_le hab), List.take_zero, List.take_zero]

lemma getElem?_of_prefix ( hprefix : log <+: log') (h : log[a]? = some entry) :
    log'[a]? = some entry := by
  obtain ⟨more, rfl⟩ := hprefix
  obtain ⟨ha, -⟩ := List.getElem?_eq_some_iff.mp h
  rw [List.getElem?_append_left ha, h]

/-- The first entry of a slice. -/
lemma slice_cons (hab : a < b) (h : log[a]? = some entry) :
    slice log a b = entry :: slice log (a + 1) b := by
  obtain ⟨ha, hentry⟩ := List.getElem?_eq_some_iff.mp h
  obtain ⟨n, hn⟩ := Nat.exists_eq_succ_of_ne_zero (Nat.sub_ne_zero_of_lt hab)
  unfold slice
  rw [List.drop_eq_getElem_cons ha, hentry, hn, List.take_succ_cons, Nat.sub_add_eq, hn]
  rfl

lemma slice_succ (h : log[a]? = some entry) : slice log a (a + 1) = [entry] := by
  unfold slice
  rw [Nat.add_sub_cancel_left, List.take_one, List.head?_drop, h]
  rfl

/-- A page is the slice that it reaches. -/
lemma take_drop_eq_slice (n : ℕ) :
    (log.drop a).take n = slice log a (min (a + n) (max a log.length)) := by
  unfold slice
  by_cases ha : log.length ≤ a
  · rw [List.drop_eq_nil_of_le ha, List.take_nil, List.take_nil]
  · rw [List.take_eq_take_iff, List.length_drop]
    omega

end Log

import Mathlib.Algebra.BigOperators.Group.Finset.Basic
import Mathlib.Algebra.BigOperators.Ring.Finset
import Mathlib.Data.Finset.Max
import Mathlib.Data.Nat.ModEq
import Mathlib.Order.Interval.Finset.Nat
import Mathlib.Tactic.Ring
import Mathlib.Tactic.Linarith

/-!
# Cyclic repetition

`n` positions hold the copies of `L` items, position `p` a copy of item `p % L`. They are read
in `n / L` full rows of length `L` and a partial last row of length `n % L`.
-/

namespace Repetition

/-- The positions below `n` that hold a copy of item `j`. -/
def copies (n L j : ℕ) : Finset ℕ :=
  (Finset.range n).filter fun p => p % L = j

@[simp] lemma mem_copies {n L j p : ℕ} : p ∈ copies n L j ↔ p < n ∧ p % L = j := by
  simp [copies]

/-- The number of rows that reach item `j`. -/
def repetitions (n L j : ℕ) : ℕ :=
  n / L + if j < n % L then 1 else 0

lemma lt_repetitions_iff {n L j r : ℕ} (hj : j < L) :
    r < repetitions n L j ↔ r * L + j < n := by
  have hn : n / L * L + n % L = n := Nat.div_add_mod' n L
  have hmod : n % L < L := Nat.mod_lt n (by omega)
  have hmono : ∀ a b : ℕ, a < b → a * L + L ≤ b * L := fun a b hab => by
    calc a * L + L = (a + 1) * L := by ring
      _ ≤ b * L := Nat.mul_le_mul_right L hab
  unfold repetitions
  constructor
  · intro h
    rcases Nat.lt_or_ge r (n / L) with hr | hr
    · have := hmono r (n / L) hr
      omega
    · obtain rfl : r = n / L := by split_ifs at h <;> omega
      split_ifs at h <;> omega
  · intro h
    by_contra hge
    rcases Nat.lt_or_ge (n / L) r with hr | hr
    · have := hmono (n / L) r hr
      omega
    · obtain rfl : r = n / L := by omega
      split_ifs at hge <;> omega

/-- The copies of item `j`, row by row. -/
lemma copies_eq_image {n L j : ℕ} (hj : j < L) :
    copies n L j = (Finset.range (repetitions n L j)).image fun r => r * L + j := by
  ext p
  simp only [mem_copies, Finset.mem_image, Finset.mem_range]
  constructor
  · rintro ⟨hp, rfl⟩
    refine ⟨p / L, ?_, Nat.div_add_mod' p L⟩
    rw [lt_repetitions_iff hj, Nat.div_add_mod']
    exact hp
  · rintro ⟨r, hr, rfl⟩
    refine ⟨(lt_repetitions_iff hj).mp hr, ?_⟩
    rw [Nat.mul_add_mod_self_right, Nat.mod_eq_of_lt hj]

lemma card_copies {n L j : ℕ} (hj : j < L) : (copies n L j).card = repetitions n L j := by
  rw [copies_eq_image hj, Finset.card_image_of_injective, Finset.card_range]
  intro r s h
  exact Nat.eq_of_mul_eq_mul_right (by omega) (Nat.add_right_cancel h)

section Sum

variable {M : Type*} [AddCommMonoid M]

/-- Summing the full rows and then the partial row sums over all the copies of an item. -/
lemma sum_rows_add_extra {n L j : ℕ} (hj : j < L) (f : ℕ → M) :
    ∑ r ∈ Finset.range (n / L), f (r * L + j)
        + (if j < n % L then f (n / L * L + j) else 0)
      = ∑ p ∈ copies n L j, f p := by
  have hinj : Set.InjOn (fun r => r * L + j) (Finset.range (repetitions n L j)) := by
    intro r _ s _ h
    exact Nat.eq_of_mul_eq_mul_right (by omega) (Nat.add_right_cancel h)
  rw [copies_eq_image hj, Finset.sum_image hinj, repetitions]
  split_ifs
  · rw [Finset.sum_range_succ]
  · simp

end Sum

/-! ### Votes -/

/-- The copies of item `j` that satisfy `p`. -/
def votes (n L j : ℕ) (p : ℕ → Prop) [DecidablePred p] : ℕ :=
  ((copies n L j).filter p).card

lemma votes_add_votes_not (n L j : ℕ) (p : ℕ → Prop) [DecidablePred p] :
    votes n L j p + votes n L j (fun i => ¬ p i) = (copies n L j).card :=
  Finset.card_filter_add_card_filter_not p

lemma sum_indicator (n L j : ℕ) (p : ℕ → Prop) [DecidablePred p] :
    ∑ i ∈ copies n L j, (if p i then 1 else 0) = votes n L j p := by
  rw [votes, Finset.card_filter]

/-! ### Windows -/

/-- Among more than `q` copies of one item inside a window, the first leaves room for `q` further
rows. -/
lemma exists_first_copy {n L j start stop q : ℕ} {S : Finset ℕ} (hS : S ⊆ copies n L j)
    (hwindow : ∀ p ∈ S, start ≤ p ∧ p < stop) (hcard : q < S.card) :
    ∃ p ∈ S, start ≤ p ∧ p + L * q < stop := by
  have hne : S.Nonempty := Finset.card_pos.mp (by omega)
  set first := S.min' hne with hfirst
  have hmem : first ∈ S := S.min'_mem hne
  refine ⟨first, hmem, (hwindow first hmem).1, ?_⟩
  by_contra hstop
  have hrow : ∀ p ∈ S, first + L * ((p - first) / L) = p := by
    intro p hp
    have hle : first ≤ p := S.min'_le p hp
    have hmod : first ≡ p [MOD L] :=
      (mem_copies.mp (hS hmem)).2.trans (mem_copies.mp (hS hp)).2.symm
    rw [Nat.mul_div_cancel' ((Nat.modEq_iff_dvd' hle).mp hmod)]
    omega
  -- Otherwise the rows of the copies, counted from the first, are all below `q`.
  have hrows : S.card ≤ (Finset.range q).card := by
    refine Finset.card_le_card_of_injOn (fun p => (p - first) / L) (fun p hp => ?_) ?_
    · have hp' := hrow p hp
      have hlt := (hwindow p hp).2
      refine Finset.mem_coe.mpr (Finset.mem_range.mpr ?_)
      have hrange : L * ((p - first) / L) < L * q := by omega
      exact Nat.lt_of_mul_lt_mul_left hrange
    · intro p hp r hr heq
      rw [← hrow p hp, ← hrow r hr]
      simp only at heq
      rw [heq]
  rw [Finset.card_range] at hrows
  omega

/-- A window of `k * B` numbers holds at most `k` of each residue modulo `B`. -/
lemma card_residue_window {B : ℕ} (hB : 0 < B) (k m r : ℕ) :
    ((Finset.Ico m (m + k * B)).filter fun i => i % B = r).card ≤ k := by
  refine (Finset.card_le_card_of_injOn (fun i => (i - m) / B) (fun i hi => ?_) ?_).trans_eq
    (Finset.card_range k)
  · obtain ⟨hrange, -⟩ := Finset.mem_filter.mp (Finset.mem_coe.mp hi)
    obtain ⟨hm, hlt⟩ := Finset.mem_Ico.mp hrange
    refine Finset.mem_coe.mpr (Finset.mem_range.mpr ((Nat.div_lt_iff_lt_mul hB).mpr ?_))
    omega
  · intro i hi i' hi' hrow
    obtain ⟨hrange, hmod⟩ := Finset.mem_filter.mp (Finset.mem_coe.mp hi)
    obtain ⟨hrange', hmod'⟩ := Finset.mem_filter.mp (Finset.mem_coe.mp hi')
    have hm := (Finset.mem_Ico.mp hrange).1
    have hm' := (Finset.mem_Ico.mp hrange').1
    have hsame : i - m + m ≡ i' - m + m [MOD B] := by
      rw [Nat.sub_add_cancel hm, Nat.sub_add_cancel hm']
      exact hmod.trans hmod'.symm
    have hcolumn : (i - m) % B = (i' - m) % B := Nat.ModEq.add_right_cancel' m hsame
    have hi := Nat.div_add_mod (i - m) B
    have hi' := Nat.div_add_mod (i' - m) B
    simp only at hrow
    rw [hrow, hcolumn] at hi
    omega

end Repetition

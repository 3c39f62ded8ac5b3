import Mathlib.Data.Finset.Card
import Mathlib.Data.Finset.Range
import Mathlib.Logic.Function.Iterate
import Mathlib.Logic.Relation

/-!
# Union-find

A list of parent pointers is a forest when some rank falls along every edge. Following the
pointers leads every node to its root. `find` reaches it while halving the path, and linking one
root below another merges two classes.
-/

namespace UnionFind

open Relation

/-- The parent of a node. A node outside the list is its own parent. -/
def parent (parents : List ℕ) (index : ℕ) : ℕ :=
  parents.getD index index

/-- Follow the parents of a node to its root, halving the path. -/
def find : ℕ → List ℕ → ℕ → List ℕ × ℕ
  | 0, parents, index => (parents, index)
  | fuel + 1, parents, index =>
    if parent parents index = index then (parents, index)
    else
      let parents := parents.set index (parent parents (parent parents index))
      find fuel parents (parent parents index)

lemma parent_of_length_le {parents : List ℕ} {i : ℕ} (h : parents.length ≤ i) :
    parent parents i = i := by
  rw [parent, List.getD_eq_getElem?_getD, List.getElem?_eq_none h, Option.getD_none]

lemma parent_set {parents : List ℕ} {a : ℕ} (ha : a < parents.length) (b i : ℕ) :
    parent (parents.set a b) i = if i = a then b else parent parents i := by
  rw [parent, parent, List.getD_eq_getElem?_getD, List.getElem?_set, List.getD_eq_getElem?_getD]
  by_cases hi : a = i
  · subst hi
    simp [ha]
  · rw [if_neg hi, if_neg (Ne.symm hi)]

@[simp] lemma parent_range (n i : ℕ) : parent (List.range n) i = i := by
  rw [parent, List.getD_eq_getElem?_getD]
  by_cases hi : i < n
  · rw [List.getElem?_range hi, Option.getD_some]
  · rw [List.getElem?_eq_none (by simpa using hi), Option.getD_none]

/-! ### Forests -/

/-- The rank falls along every edge and is bounded by the number of nodes. -/
structure Ranked (rank : ℕ → ℕ) (parents : List ℕ) : Prop where
  bound : ∀ i < parents.length, parent parents i < parents.length
  decreasing : ∀ i, parent parents i ≠ i → rank (parent parents i) < rank i
  rank_lt : ∀ i < parents.length, rank i < parents.length

/-- Parent pointers without cycles. -/
def Forest (parents : List ℕ) : Prop :=
  ∃ rank, Ranked rank parents

/-- Any falling rank can be replaced by a bounded one. -/
lemma Forest.of_decreasing {parents : List ℕ} (rank : ℕ → ℕ)
    (bound : ∀ i < parents.length, parent parents i < parents.length)
    (decreasing : ∀ i, parent parents i ≠ i → rank (parent parents i) < rank i) :
    Forest parents := by
  set below : ℕ → Finset ℕ := fun i => (Finset.range parents.length).filter fun j => rank j < rank i
  refine ⟨fun i => (below i).card, bound, fun i hi => ?_, fun i hi => ?_⟩
  · have hlt : i < parents.length := by
      by_contra hge
      exact hi (parent_of_length_le (Nat.le_of_not_lt hge))
    refine Finset.card_lt_card (Finset.ssubset_iff_of_subset (fun j hj => ?_) |>.mpr
      ⟨parent parents i, ?_, ?_⟩)
    · obtain ⟨hmem, hrank⟩ := Finset.mem_filter.mp hj
      exact Finset.mem_filter.mpr ⟨hmem, hrank.trans (decreasing i hi)⟩
    · exact Finset.mem_filter.mpr ⟨Finset.mem_range.mpr (bound i hlt), decreasing i hi⟩
    · intro hmem
      exact lt_irrefl _ (Finset.mem_filter.mp hmem).2
  · have hsub : below i ⊂ Finset.range parents.length := by
      refine Finset.ssubset_iff_of_subset (Finset.filter_subset _ _) |>.mpr
        ⟨i, Finset.mem_range.mpr hi, fun hmem => ?_⟩
      exact lt_irrefl _ (Finset.mem_filter.mp hmem).2
    simpa using Finset.card_lt_card hsub

/-- Every node of `List.range n` is a root. -/
lemma Forest.range (n : ℕ) : Forest (List.range n) := by
  refine Forest.of_decreasing (fun _ => 0) (fun i hi => ?_) fun i hi => ?_
  · rwa [parent_range]
  · exact absurd (parent_range n i) hi

/-! ### Roots -/

/-- The node reached by following the parents as often as there are nodes. -/
def root (parents : List ℕ) (i : ℕ) : ℕ :=
  (parent parents)^[parents.length] i

section Root

variable {parents : List ℕ} {rank : ℕ → ℕ}

lemma root_of_fixed {r : ℕ} (h : parent parents r = r) : root parents r = r :=
  Function.iterate_fixed h _

@[simp] lemma root_range (n i : ℕ) : root (List.range n) i = i :=
  root_of_fixed (parent_range n i)

lemma Ranked.fixed_iterate (h : Ranked rank parents) :
    ∀ k i, rank i ≤ k → parent parents ((parent parents)^[k] i) = (parent parents)^[k] i
  | 0, i, hk => by
    by_contra hne
    have := h.decreasing i hne
    omega
  | k + 1, i, hk => by
    rw [Function.iterate_succ_apply]
    by_cases hi : parent parents i = i
    · rw [hi, Function.iterate_fixed hi]
      exact hi
    · have := h.decreasing i hi
      exact h.fixed_iterate k (parent parents i) (by omega)

lemma Forest.parent_root (h : Forest parents) (i : ℕ) :
    parent parents (root parents i) = root parents i := by
  obtain ⟨rank, h⟩ := h
  by_cases hi : i < parents.length
  · exact h.fixed_iterate _ _ (h.rank_lt i hi).le
  · have hfixed : parent parents i = i := parent_of_length_le (Nat.le_of_not_lt hi)
    rw [root_of_fixed hfixed]
    exact hfixed

lemma Forest.root_parent (h : Forest parents) (i : ℕ) :
    root parents (parent parents i) = root parents i := by
  rw [root, ← Function.iterate_succ_apply, Function.iterate_succ_apply']
  exact h.parent_root i

lemma Forest.root_lt (h : Forest parents) {i : ℕ} (hi : i < parents.length) :
    root parents i < parents.length := by
  obtain ⟨rank, h⟩ := h
  suffices ∀ k, (parent parents)^[k] i < parents.length from this _
  intro k
  induction k with
  | zero => exact hi
  | succ k ih =>
    rw [Function.iterate_succ_apply']
    exact h.bound _ ih

/-- A map that is constant along edges and fixes the roots is the root. -/
lemma Forest.eq_root (h : Forest parents) {g : ℕ → ℕ} (hparent : ∀ i, g (parent parents i) = g i)
    (hfixed : ∀ r, parent parents r = r → g r = r) (i : ℕ) : g i = root parents i := by
  have hiterate : ∀ k, g ((parent parents)^[k] i) = g i := by
    intro k
    induction k with
    | zero => rfl
    | succ k ih => rw [Function.iterate_succ_apply', hparent, ih]
  rw [← hiterate parents.length]
  exact hfixed _ (h.parent_root i)

end Root

/-! ### Finding -/

section Find

variable {parents : List ℕ} {rank : ℕ → ℕ}

/-- Halving one step of a path keeps the forest and its roots. -/
lemma Ranked.halve (h : Ranked rank parents) {index : ℕ} (hindex : index < parents.length)
    (hne : parent parents index ≠ index) :
    Ranked rank (parents.set index (parent parents (parent parents index))) ∧
      ∀ i, root (parents.set index (parent parents (parent parents index))) i = root parents i := by
  set grandparent := parent parents (parent parents index) with hgrand
  have hparent : parent parents index < parents.length := h.bound _ hindex
  have hrank : rank grandparent < rank index := by
    by_cases hroot : grandparent = parent parents index
    · rw [hroot]
      exact h.decreasing index hne
    · exact (h.decreasing _ hroot).trans (h.decreasing index hne)
  have hranked : Ranked rank (parents.set index grandparent) := by
    refine ⟨fun i hi => ?_, fun i hi => ?_, fun i hi => ?_⟩
    · rw [List.length_set] at hi ⊢
      rw [parent_set hindex]
      split_ifs
      · exact h.bound _ hparent
      · exact h.bound _ hi
    · rw [parent_set hindex] at hi ⊢
      split_ifs at hi ⊢ with heq
      · rw [heq]
        exact hrank
      · exact h.decreasing i hi
    · rw [List.length_set] at hi ⊢
      exact h.rank_lt i hi
  have hforest : Forest parents := ⟨rank, h⟩
  refine ⟨hranked, fun i => ?_⟩
  -- the old root is constant along the new edges and fixes the new roots
  refine ((Forest.eq_root ⟨rank, hranked⟩ (g := root parents) (fun j => ?_) fun r hr => ?_) i).symm
  · rw [parent_set hindex]
    split_ifs with heq
    · rw [hgrand, hforest.root_parent, hforest.root_parent, heq]
    · exact hforest.root_parent j
  · rw [parent_set hindex] at hr
    split_ifs at hr with heq
    · rw [hr, heq] at hrank
      exact absurd hrank (lt_irrefl _)
    · exact root_of_fixed hr

/-- Enough fuel reaches the root, and the forest keeps all its roots. -/
theorem Ranked.find_spec : ∀ {fuel : ℕ} {parents : List ℕ} {index : ℕ}, Ranked rank parents →
    index < parents.length → rank index < fuel →
      Ranked rank (find fuel parents index).1 ∧
        (find fuel parents index).1.length = parents.length ∧
        (∀ i, root (find fuel parents index).1 i = root parents i) ∧
        (find fuel parents index).2 = root parents index
  | 0, _, _, _, _, hfuel => absurd hfuel (Nat.not_lt_zero _)
  | fuel + 1, parents, index, h, hindex, hfuel => by
    rw [find]
    by_cases hroot : parent parents index = index
    · rw [if_pos hroot]
      exact ⟨h, rfl, fun _ => rfl, (root_of_fixed hroot).symm⟩
    · rw [if_neg hroot]
      obtain ⟨hranked, hroots⟩ := h.halve hindex hroot
      set halved := parents.set index (parent parents (parent parents index)) with hhalved
      have hnext : parent halved index = parent parents (parent parents index) := by
        rw [hhalved, parent_set hindex, if_pos rfl]
      have hmoved : parent halved index ≠ index := by
        intro heq
        have h₁ := h.decreasing index hroot
        have h₂ : rank index ≤ rank (parent parents index) := by
          by_cases hp : parent parents (parent parents index) = parent parents index
          · rw [hnext, hp] at heq
            exact absurd heq hroot
          · have := h.decreasing _ hp
            rw [← hnext, heq] at this
            omega
        omega
      have hlen : halved.length = parents.length := List.length_set
      have hrank := hranked.decreasing index hmoved
      obtain ⟨hr, hl, hroot', hres⟩ := hranked.find_spec
        (hranked.bound index (hlen ▸ hindex)) (by omega : rank (parent halved index) < fuel)
      refine ⟨hr, hl.trans hlen, fun i => (hroot' i).trans (hroots i), ?_⟩
      rw [hres, Forest.root_parent ⟨rank, hranked⟩, hroots]

/-- As much fuel as there are nodes is enough. -/
theorem Forest.find_spec (h : Forest parents) {index : ℕ} (hindex : index < parents.length) :
    Forest (find parents.length parents index).1 ∧
      (find parents.length parents index).1.length = parents.length ∧
      (∀ i, root (find parents.length parents index).1 i = root parents i) ∧
      (find parents.length parents index).2 = root parents index := by
  obtain ⟨rank, h⟩ := h
  obtain ⟨hranked, hrest⟩ := h.find_spec hindex (h.rank_lt index hindex)
  exact ⟨⟨rank, hranked⟩, hrest⟩

end Find

/-! ### Linking -/

/-- Setting the parent of a root merges its class into the class of another root. -/
theorem Forest.link {parents : List ℕ} (h : Forest parents) {a b : ℕ} (ha : a < parents.length)
    (hb : b < parents.length) (hroot_a : parent parents a = a) (hroot_b : parent parents b = b) :
    Forest (parents.set a b) ∧
      ∀ i, root (parents.set a b) i = if root parents i = a then b else root parents i := by
  have hroot_b' : root parents b = b := root_of_fixed hroot_b
  have hforest : Forest (parents.set a b) := by
    by_cases hab : a = b
    · subst hab
      have hsame : parents.set a a = parents := by
        refine List.ext_getElem? fun i => ?_
        rw [List.getElem?_set]
        split_ifs with hi
        · subst hi
          rw [parent, List.getD_eq_getElem?_getD, List.getElem?_eq_getElem ha] at hroot_a
          rw [List.getElem?_eq_getElem ha]
          exact congrArg some hroot_a.symm
        · rfl
      rwa [hsame]
    · obtain ⟨rank, hr⟩ := h
      have h : Forest parents := ⟨rank, hr⟩
      -- lift the whole class of `a` above the rank of `b`
      refine Forest.of_decreasing
        (fun i => if root parents i = a then rank i + rank b + 1 else rank i)
        (fun i hi => ?_) fun i hi => ?_
      · rw [List.length_set] at hi ⊢
        rw [parent_set ha]
        split_ifs
        · exact hb
        · exact hr.bound i hi
      · rw [parent_set ha] at hi ⊢
        by_cases hia : i = a
        · subst hia
          rw [if_pos rfl, hroot_b', if_neg (Ne.symm hab), root_of_fixed hroot_a, if_pos rfl]
          omega
        · rw [if_neg hia] at hi ⊢
          have := hr.decreasing i hi
          rw [h.root_parent]
          split_ifs <;> omega
  refine ⟨hforest, fun i => (hforest.eq_root
    (g := fun i => if root parents i = a then b else root parents i) (fun j => ?_) fun r hr => ?_) i |>.symm⟩
  · rw [parent_set ha]
    by_cases hja : j = a
    · subst hja
      rw [if_pos rfl, hroot_b', root_of_fixed hroot_a, if_pos rfl, ite_self]
    · rw [if_neg hja, h.root_parent]
  · rw [parent_set ha] at hr
    split_ifs at hr with hra
    · subst hra
      rw [if_pos (root_of_fixed hroot_a)]
      exact hr
    · rw [root_of_fixed hr, if_neg hra]

/-- Make the root of `y` the parent of the root of `x`. -/
def unite (parents : List ℕ) (x y : ℕ) : List ℕ :=
  let (parents, target) := find parents.length parents y
  let (parents, source) := find parents.length parents x
  parents.set source target

theorem Forest.unite_spec {parents : List ℕ} (h : Forest parents) {x y : ℕ}
    (hx : x < parents.length) (hy : y < parents.length) :
    Forest (unite parents x y) ∧ (unite parents x y).length = parents.length ∧
      ∀ i, root (unite parents x y) i
        = if root parents i = root parents x then root parents y else root parents i := by
  obtain ⟨hforest₁, hlen₁, hroot₁, htarget⟩ := h.find_spec hy
  set found₁ := (find parents.length parents y).1 with hfound₁
  obtain ⟨hforest₂, hlen₂, hroot₂, hsource⟩ := hforest₁.find_spec (hlen₁ ▸ hx : x < found₁.length)
  set found₂ := (find found₁.length found₁ x).1 with hfound₂
  have hroots : ∀ i, root found₂ i = root parents i := fun i => (hroot₂ i).trans (hroot₁ i)
  have hlen : found₂.length = parents.length := hlen₂.trans hlen₁
  have hunite : unite parents x y = found₂.set (root parents x) (root parents y) := by
    rw [unite, ← htarget, ← hroot₁ x, ← hsource]
  have hlt : ∀ {i}, i < parents.length → root parents i < found₂.length := fun hi =>
    hlen ▸ h.root_lt hi
  have hfixed : ∀ i, parent found₂ (root parents i) = root parents i := fun i => by
    rw [← hroots]
    exact hforest₂.parent_root i
  obtain ⟨hforest, hroot⟩ := hforest₂.link (hlt hx) (hlt hy) (hfixed x) (hfixed y)
  rw [hunite]
  refine ⟨hforest, List.length_set.trans hlen, fun i => ?_⟩
  rw [hroot, hroots]

/-! ### Classes -/

/-- A relation whose pairs are connected in another has a coarser closure there. -/
lemma eqvGen_of_imp {α : Type*} {R S : α → α → Prop} (h : ∀ i j, R i j → EqvGen S i j) {i j : α}
    (hij : EqvGen R i j) : EqvGen S i j := by
  induction hij with
  | rel i j hij => exact h i j hij
  | refl i => exact .refl i
  | symm i j _ ih => exact .symm _ _ ih
  | trans i j k _ _ ih₁ ih₂ => exact .trans _ _ _ ih₁ ih₂

/-- When classes are the fibres of a map, merging two fibres adds one pair to the relation. -/
lemma merge_iff {α : Type*} {R : α → α → Prop} {f f' : α → ℕ} {x y : α}
    (hclass : ∀ i j, f i = f j ↔ EqvGen R i j)
    (hmerge : ∀ i, f' i = if f i = f x then f y else f i) (i j : α) :
    f' i = f' j ↔ EqvGen (fun i j => R i j ∨ i = x ∧ j = y) i j := by
  have hold : ∀ {i j}, f i = f j → EqvGen (fun i j => R i j ∨ i = x ∧ j = y) i j :=
    fun h => ((hclass _ _).mp h).mono fun _ _ => Or.inl
  have hnew : EqvGen (fun i j => R i j ∨ i = x ∧ j = y) x y := .rel _ _ (Or.inr ⟨rfl, rfl⟩)
  constructor
  · intro h
    rw [hmerge, hmerge] at h
    split_ifs at h with hi hj hj
    · exact hold (hi.trans hj.symm)
    · exact ((hold hi).trans _ _ _ hnew).trans _ _ _ (hold h)
    · exact ((hold h).trans _ _ _ (hnew.symm _ _)).trans _ _ _ (hold hj.symm)
    · exact hold h
  · intro h
    induction h with
    | rel i j hij =>
      rcases hij with hij | ⟨rfl, rfl⟩
      · rw [hmerge, hmerge, (hclass i j).mpr (.rel _ _ hij)]
      · rw [hmerge, hmerge, if_pos rfl, ite_eq_left_iff.mpr fun _ => rfl]
    | refl i => rfl
    | symm i j _ ih => exact ih.symm
    | trans i j k _ _ ih₁ ih₂ => exact ih₁.trans ih₂

end UnionFind

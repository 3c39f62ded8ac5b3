import Mathlib.LinearAlgebra.Lagrange
import Mathlib.Data.Nat.Count
import StegoLab.Library.Interleaving

/-!
# Evaluation codes

A word of `k` symbols of a field is extended to `n` symbols: the values, at `n` points, of the
polynomial of degree below `k` that interpolates the word at the first `k` points. Two different
words agree at fewer than `k` points, so up to `(n - k) / 2` changed symbols can be undone.
-/

namespace EvaluationCode

open Interleaving Polynomial

/-! ### Distance of words -/

section Distance

variable {α : Type*} [DecidableEq α]

lemma changed_symbols_comm {n : ℕ} {xs ys : List α} (hxs : xs.length = n) (hys : ys.length = n) :
    changed_symbols xs ys = changed_symbols ys xs := by
  rw [changed_symbols_eq_countP hxs hys, changed_symbols_eq_countP hys hxs]
  refine List.countP_congr fun i _ => ?_
  simp only [decide_eq_true_eq]
  exact ne_comm

lemma changed_symbols_triangle {n : ℕ} {xs ys zs : List α} (hxs : xs.length = n)
    (hys : ys.length = n) (hzs : zs.length = n) :
    changed_symbols xs zs ≤ changed_symbols xs ys + changed_symbols ys zs := by
  rw [changed_symbols_eq_countP hxs hzs, changed_symbols_eq_countP hxs hys,
    changed_symbols_eq_countP hys hzs]
  induction List.range n with
  | nil => simp
  | cons i is ih =>
    simp only [List.countP_cons, decide_eq_true_eq]
    by_cases hxy : xs[i]? = ys[i]?
    · rw [hxy]
      omega
    · rw [if_pos hxy]
      split_ifs <;> omega

end Distance

/-! ### Encoding -/

section Code

variable {F : Type*} [Field F] {α : Type*} (e : α ≃ F) (points : ℕ → F) (k n : ℕ)

/-- The polynomial of degree below `k` through the symbols of a word. -/
noncomputable def interpolant (word : List α) : F[X] :=
  Lagrange.interpolate (Finset.range k) points fun i => (word[i]?.map e).getD 0

/-- The values of the interpolant at the first `n` points. -/
noncomputable def encode (word : List α) : List α :=
  (List.range n).map fun i => e.symm ((interpolant e points k word).eval (points i))

@[simp] lemma length_encode (word : List α) : (encode e points k n word).length = n := by
  simp [encode]

variable {e points k n}

lemma getElem?_encode (word : List α) {i : ℕ} (hi : i < n) :
    (encode e points k n word)[i]?
      = some (e.symm ((interpolant e points k word).eval (points i))) := by
  rw [encode, List.getElem?_map, List.getElem?_range hi]
  rfl

/-- The first `k` symbols of a codeword are the word itself. -/
lemma getElem?_encode_of_lt (hpoints : Set.InjOn points (Finset.range n)) (hk : k ≤ n)
    {word : List α} (hword : word.length = k) {i : ℕ} (hi : i < k) :
    (encode e points k n word)[i]? = word[i]? := by
  have hnodes : Set.InjOn points (Finset.range k) :=
    hpoints.mono fun j hj => Finset.mem_coe.mpr (Finset.mem_range.mpr
      ((Finset.mem_range.mp (Finset.mem_coe.mp hj)).trans_le hk))
  have hlen : i < word.length := hword ▸ hi
  rw [getElem?_encode word (hi.trans_le hk), interpolant,
    Lagrange.eval_interpolate_at_node _ hnodes (Finset.mem_range.mpr hi),
    List.getElem?_eq_getElem hlen]
  simp

variable [DecidableEq α]

/-- The codewords of different words differ in more than `n - k` symbols. -/
theorem lt_changed_symbols_encode (hpoints : Set.InjOn points (Finset.range n)) (hk : k ≤ n)
    {word word' : List α} (hword : word.length = k) (hword' : word'.length = k)
    (hne : word ≠ word') :
    n - k < changed_symbols (encode e points k n word) (encode e points k n word') := by
  by_contra hle
  rw [changed_symbols_eq_countP (length_encode ..) (length_encode ..), ← Nat.count,
    Nat.count_eq_card_filter_range] at hle
  simp only [ne_eq] at hle
  set unchanged := (Finset.range n).filter fun i =>
    (encode e points k n word)[i]? = (encode e points k n word')[i]? with hunchanged
  -- at least `k` symbols are unchanged, and there the interpolants agree
  have hcard : k ≤ unchanged.card := by
    have hsum := Finset.card_filter_add_card_filter_not (s := Finset.range n)
      fun i => (encode e points k n word)[i]? = (encode e points k n word')[i]?
    rw [← hunchanged, Finset.card_range] at hsum
    omega
  have hnodes : Set.InjOn points (Finset.range k) := hpoints.mono fun j hj =>
    Finset.mem_coe.mpr (Finset.range_subset_range.mpr hk (Finset.mem_coe.mp hj))
  have hdegree (word : List α) :
      (interpolant e points k word).degree < unchanged.card := by
    refine (Lagrange.degree_interpolate_lt _ hnodes).trans_le ?_
    rw [Finset.card_range]
    exact_mod_cast hcard
  have heq : interpolant e points k word = interpolant e points k word' := by
    refine eq_of_degrees_lt_of_eval_index_eq unchanged
      (hpoints.mono fun j hj => ?_) (hdegree word) (hdegree word') fun i hi => ?_
    · exact Finset.mem_coe.mpr (Finset.mem_filter.mp (Finset.mem_coe.mp hj)).1
    · obtain ⟨hin, hsame⟩ := Finset.mem_filter.mp hi
      have hi : i < n := Finset.mem_range.mp hin
      simp only [getElem?_encode _ hi, Option.some.injEq, EmbeddingLike.apply_eq_iff_eq] at hsame
      exact hsame
  apply hne
  refine List.ext_getElem? fun i => ?_
  by_cases hi : i < k
  · rw [← getElem?_encode_of_lt hpoints hk hword hi, ← getElem?_encode_of_lt hpoints hk hword' hi,
      encode, encode, heq]
  · rw [List.getElem?_eq_none (by omega), List.getElem?_eq_none (by omega)]

/-! ### Unique decoding -/

open Classical in
/-- The word of `k` symbols whose codeword is within `t` symbols of the received one. -/
noncomputable def decode (e : α ≃ F) (points : ℕ → F) (k n t : ℕ) (received : List α) :
    Option (List α) :=
  if h : ∃ word : List α, word.length = k ∧
      changed_symbols (encode e points k n word) received ≤ t
  then some h.choose
  else none

/-- Up to half of the added symbols may change. -/
theorem decode_of_changed (hpoints : Set.InjOn points (Finset.range n)) (hk : k ≤ n) {t : ℕ}
    (ht : 2 * t ≤ n - k) {word received : List α} (hword : word.length = k)
    (hreceived : received.length = n)
    (hchanged : changed_symbols (encode e points k n word) received ≤ t) :
    decode e points k n t received = some word := by
  have hexists : ∃ word : List α, word.length = k ∧
      changed_symbols (encode e points k n word) received ≤ t := ⟨word, hword, hchanged⟩
  obtain ⟨hlen, hnear⟩ := hexists.choose_spec
  rw [decode, dif_pos hexists, Option.some_inj]
  by_contra hne
  have hfar := lt_changed_symbols_encode (e := e) hpoints hk hlen hword hne
  have htriangle := changed_symbols_triangle (length_encode e points k n hexists.choose) hreceived
    (length_encode e points k n word)
  rw [changed_symbols_comm hreceived (length_encode e points k n word)] at htriangle
  omega

end Code

end EvaluationCode

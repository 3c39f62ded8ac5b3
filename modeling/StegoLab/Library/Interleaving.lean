import Mathlib.Data.List.Range
import Mathlib.Tactic.Ring
import Mathlib.Tactic.Linarith

/-!
# Interleaving of words

A list of `n` words of one length is sent column by column: column `0` of every word, then
column `1`, and so on. Symbol `c` of word `w` lands at position `c * n + w`, and the stride of
step `n` from position `w` reads word `w` back, whether or not symbols were changed in between.
-/

namespace Interleaving

variable {α : Type*}

/-! ### Concatenations of pieces of one length -/

lemma length_flatMap_range (n m : ℕ) (f : ℕ → List α) (hf : ∀ i < n, (f i).length = m) :
    ((List.range n).flatMap f).length = n * m := by
  induction n with
  | zero => simp
  | succ n ih =>
    rw [List.range_succ, List.flatMap_append, List.length_append,
      ih fun i hi => hf i (by omega)]
    simp [hf n (by omega), Nat.succ_mul]

/-- Piece `i` of a concatenation of pieces of length `m` starts at position `i * m`. -/
lemma getElem?_flatMap_range (n m : ℕ) (f : ℕ → List α) (hf : ∀ i < n, (f i).length = m)
    {i j : ℕ} (hi : i < n) (hj : j < m) :
    ((List.range n).flatMap f)[i * m + j]? = (f i)[j]? := by
  induction n with
  | zero => omega
  | succ n ih =>
    have hlen : ((List.range n).flatMap f).length = n * m :=
      length_flatMap_range n m f fun i hi => hf i (by omega)
    rw [List.range_succ, List.flatMap_append]
    rcases Nat.lt_succ_iff_lt_or_eq.mp hi with hlt | rfl
    · have hbound : i * m + j < n * m := by
        calc i * m + j < i * m + m := by omega
          _ = (i + 1) * m := by ring
          _ ≤ n * m := Nat.mul_le_mul_right m hlt
      rw [List.getElem?_append_left (by omega)]
      exact ih (fun i hi => hf i (by omega)) hlt
    · rw [List.getElem?_append_right (by omega), hlen]
      simp

/-! ### Columns -/

/-- Read the words column by column. -/
def interleave (width : ℕ) (words : List (List α)) : List α :=
  (List.range width).flatMap fun column => words.filterMap fun word => word[column]?

lemma filterMap_column {width column : ℕ} {words : List (List α)}
    (hwords : ∀ word ∈ words, word.length = width) (hc : column < width) :
    (words.filterMap fun word => word[column]?).length = words.length ∧
      ∀ w : ℕ, (words.filterMap fun word => word[column]?)[w]? = words[w]?.bind (·[column]?) := by
  induction words with
  | nil => simp
  | cons word words ih =>
    have hword : column < word.length := by
      rw [hwords word (by simp)]
      exact hc
    obtain ⟨hlen, hget⟩ := ih fun word' hmem => hwords word' (by simp [hmem])
    rw [List.filterMap_cons, List.getElem?_eq_getElem hword]
    refine ⟨by simp [hlen], fun w => ?_⟩
    cases w with
    | zero => simp [List.getElem?_eq_getElem hword]
    | succ w => simpa using hget w

lemma length_interleave {width : ℕ} {words : List (List α)}
    (hwords : ∀ word ∈ words, word.length = width) :
    (interleave width words).length = width * words.length :=
  length_flatMap_range _ _ _ fun _ hc => (filterMap_column hwords hc).1

/-- Symbol `c` of word `w` stands at position `c * n + w` of the `n` interleaved words. -/
lemma getElem?_interleave {width : ℕ} {words : List (List α)}
    (hwords : ∀ word ∈ words, word.length = width) {c w : ℕ} (hc : c < width)
    (hw : w < words.length) :
    (interleave width words)[c * words.length + w]? = words[w]?.bind (·[c]?) := by
  rw [interleave, getElem?_flatMap_range width words.length _
    (fun _ hc => (filterMap_column hwords hc).1) hc hw]
  exact (filterMap_column hwords hc).2 w

/-! ### Strides -/

/-- Every `step`-th symbol from position `start` on. -/
def stride (start step : ℕ) (xs : List α) : List α :=
  (List.range' start ((xs.length - start + (step - 1)) / step) step).filterMap fun i => xs[i]?

lemma filterMap_getElem?_range (n : ℕ) (f : ℕ → ℕ) (xs : List α) (hf : ∀ i < n, f i < xs.length) :
    ((List.range n).filterMap fun i => xs[f i]?).length = n ∧
      ∀ i < n, ((List.range n).filterMap fun i => xs[f i]?)[i]? = xs[f i]? := by
  induction n with
  | zero => simp
  | succ n ih =>
    obtain ⟨hlen, hget⟩ := ih fun i hi => hf i (by omega)
    rw [List.range_succ, List.filterMap_append]
    have hn : f n < xs.length := hf n (by omega)
    have hlast : [n].filterMap (fun i => xs[f i]?) = [xs[f n]] := by
      simp [List.getElem?_eq_getElem hn]
    rw [hlast]
    refine ⟨by simp [hlen], fun i hi => ?_⟩
    rcases Nat.lt_succ_iff_lt_or_eq.mp hi with hlt | rfl
    · rw [List.getElem?_append_left (by omega)]
      exact hget i hlt
    · rw [List.getElem?_append_right (by omega), hlen]
      simp [List.getElem?_eq_getElem (hf i (by omega))]

lemma stride_count {width step start : ℕ} (hs : start < step) (hw : 0 < width) :
    (width * step - start + (step - 1)) / step = width := by
  obtain ⟨k, rfl⟩ : ∃ k, width = k + 1 := ⟨width - 1, by omega⟩
  have hle : step ≤ (k + 1) * step := Nat.le_mul_of_pos_left step (by omega)
  rw [show (k + 1) * step - start + (step - 1) = (2 * step - 1 - start - step) + (k + 1) * step by
    have : (k + 1) * step = k * step + step := by ring
    omega]
  rw [Nat.add_mul_div_right _ _ (by omega), Nat.div_eq_of_lt (by omega)]
  omega

/-- A stride through `width * step` symbols reads one symbol of each column. -/
lemma stride_spec {width step start : ℕ} {xs : List α} (hlen : xs.length = width * step)
    (hs : start < step) :
    (stride start step xs).length = width ∧
      ∀ c < width, (stride start step xs)[c]? = xs[c * step + start]? := by
  rcases Nat.eq_zero_or_pos width with rfl | hw
  · have hnil : xs = [] := List.eq_nil_of_length_eq_zero (by omega)
    subst hnil
    simp [stride]
  · have hbound : ∀ c < width, start + step * c < xs.length := by
      intro c hc
      rw [hlen]
      calc start + step * c < step + step * c := by omega
        _ = (c + 1) * step := by ring
        _ ≤ width * step := Nat.mul_le_mul_right step hc
    have hstride : stride start step xs
        = (List.range width).filterMap fun c => xs[start + step * c]? := by
      have hrange : List.range' start width step = (List.range width).map (start + step * ·) :=
        List.ext_getElem (by simp) fun i h₁ h₂ => by simp
      rw [stride, hlen, stride_count hs hw, hrange, List.filterMap_map]
      rfl
    obtain ⟨hl, hg⟩ := filterMap_getElem?_range width (fun c => start + step * c) xs hbound
    rw [hstride]
    refine ⟨hl, fun c hc => ?_⟩
    rw [hg c hc, Nat.add_comm start, Nat.mul_comm step]

/-- The stride of word `w` undoes the interleaving. -/
lemma stride_interleave {width : ℕ} {words : List (List α)}
    (hwords : ∀ word ∈ words, word.length = width) {w : ℕ} (hw : w < words.length) :
    stride w words.length (interleave width words) = words[w] := by
  obtain ⟨hlen, hget⟩ := stride_spec (length_interleave hwords) hw
  have hword : (words[w]).length = width := hwords _ (List.getElem_mem hw)
  refine List.ext_getElem? fun c => ?_
  rcases Nat.lt_or_ge c width with hc | hc
  · rw [hget c hc, getElem?_interleave hwords hc hw, List.getElem?_eq_getElem hw]
    rfl
  · rw [List.getElem?_eq_none (by omega), List.getElem?_eq_none (by omega)]

/-! ### Changed symbols -/

variable [DecidableEq α]

/-- The number of positions at which two words of one length differ. -/
def changed_symbols (xs ys : List α) : ℕ :=
  (xs.zip ys).countP fun p => p.1 ≠ p.2

lemma changed_symbols_eq_countP {n : ℕ} {xs ys : List α} (hxs : xs.length = n)
    (hys : ys.length = n) :
    changed_symbols xs ys = (List.range n).countP fun i => xs[i]? ≠ ys[i]? := by
  induction n generalizing xs ys with
  | zero =>
    rw [List.eq_nil_of_length_eq_zero hxs]
    simp [changed_symbols]
  | succ n ih =>
    obtain ⟨x, xs, rfl⟩ := List.exists_cons_of_length_eq_add_one hxs
    obtain ⟨y, ys, rfl⟩ := List.exists_cons_of_length_eq_add_one hys
    have hrest := ih (Nat.succ.inj hxs) (Nat.succ.inj hys)
    rw [changed_symbols] at hrest ⊢
    rw [List.zip_cons_cons, List.countP_cons, hrest, List.range_succ_eq_map, List.countP_cons,
      List.countP_map]
    simp [Function.comp_def]

/-- The positions of one word that differ are counted column by column. -/
lemma changed_symbols_stride {width step start : ℕ} {xs ys : List α}
    (hxs : xs.length = width * step) (hys : ys.length = width * step) (hs : start < step) :
    changed_symbols (stride start step xs) (stride start step ys)
      = (List.range width).countP fun c => xs[c * step + start]? ≠ ys[c * step + start]? := by
  obtain ⟨hlx, hgx⟩ := stride_spec hxs hs
  obtain ⟨hly, hgy⟩ := stride_spec hys hs
  rw [changed_symbols_eq_countP hlx hly]
  refine List.countP_congr fun c hmem => ?_
  have hc : c < width := List.mem_range.mp hmem
  rw [hgx c hc, hgy c hc]

end Interleaving

import StegoLab.Protocol.PayloadMap

/-!
# Votes as counts

Recovery reshapes a map into full repetitions and a remainder. A recovered bit is nevertheless
decided by a count over the positions that are congruent to it, for hard bits and for logits of
one magnitude alike.
-/

namespace StegoLab

open Bits Repetition

/-- The positions congruent to `j` modulo `L` that hold `value`. -/
def tally (flat : List UInt8) (L j : ℕ) (value : UInt8) : ℕ :=
  ((Finset.range flat.length).filter fun p => p % L = j ∧ flat[p]? = some value).card

/-- The logit of a hard bit: plus one or minus one. -/
def signed_logit (bit : UInt8) : Logit :=
  .finite (if bit = 1 then 1 else -1)

/-! ### Tallies -/

lemma votes_eq_tally (flat : List UInt8) (L j : ℕ) (value : UInt8) :
    votes flat.length L j (fun p => flat[p]? = some value) = tally flat L j value := by
  rw [votes, tally, copies, Finset.filter_filter]

lemma le_one_cases {value : UInt8} (h : value ≤ 1) : value = 0 ∨ value = 1 := by
  rw [UInt8.le_iff_toNat_le] at h
  rcases Nat.le_one_iff_eq_zero_or_eq_one.mp h with h | h
  · exact Or.inl (UInt8.toNat_inj.mp h)
  · exact Or.inr (UInt8.toNat_inj.mp h)

/-- In a map of hard bits, the copies that are not one are zero. -/
lemma votes_not_one_eq_tally {flat : List UInt8} (hbits : ∀ value ∈ flat, value ≤ 1) (L j : ℕ) :
    votes flat.length L j (fun p => ¬ flat[p]? = some 1) = tally flat L j 0 := by
  rw [← votes_eq_tally, votes, votes]
  congr 1
  refine Finset.filter_congr fun p hp => ?_
  obtain ⟨hlt, -⟩ := mem_copies.mp hp
  rw [List.getElem?_eq_getElem hlt]
  rcases le_one_cases (hbits flat[p] (List.getElem_mem hlt)) with h | h
  · simp [h]
  · simp [h]

lemma vote_eq_tally {flat : List UInt8} (hbits : ∀ value ∈ flat, value ≤ 1) (L j : ℕ) :
    vote flat L j = decide (tally flat L j 0 < tally flat L j 1) := by
  rw [vote, votes_not_one_eq_tally hbits, votes_eq_tally]

/-! ### Signed logits -/

/-- The value of the signed logit of a bit. -/
def signed_value (bit : UInt8) : ℚ :=
  if bit = 1 then 1 else -1

lemma finite_values_signed (flat : List UInt8) :
    finite_values (flat.map signed_logit) = some (flat.map signed_value) := by
  induction flat with
  | nil => rfl
  | cons bit flat ih =>
    rw [List.map_cons, signed_logit, finite_values, ih]
    rfl

/-- The signed values of the copies of a bit sum to the ones less the zeros. -/
lemma sum_signed {flat : List UInt8} (hbits : ∀ value ∈ flat, value ≤ 1) (L j : ℕ) :
    ∑ p ∈ copies flat.length L j, (flat.map signed_value).getD p 0
      = (tally flat L j 1 : ℚ) - tally flat L j 0 := by
  rw [← votes_eq_tally flat L j 1, ← votes_not_one_eq_tally hbits, ← sum_indicator,
    ← sum_indicator, Nat.cast_sum, Nat.cast_sum, ← Finset.sum_sub_distrib]
  refine Finset.sum_congr rfl fun p hp => ?_
  obtain ⟨hlt, -⟩ := mem_copies.mp hp
  rw [List.getD_eq_getElem?_getD, List.getElem?_map, List.getElem?_eq_getElem hlt]
  by_cases hone : flat[p] = 1
  · simp [signed_value, hone]
  · simp [signed_value, hone]

/-- The sign of the summed logits is the vote of the hard bits. -/
lemma getElem?_signed_sums {flat : List UInt8} (hbits : ∀ value ∈ flat, value ≤ 1) {L j : ℕ}
    (hj : j < L) :
    ((column_sums (flat.map signed_value) L).map fun sum => decide (sum > 0))[j]?
      = some (vote flat L j) := by
  rw [List.getElem?_map, getElem?_column_sums _ hj, List.length_map, sum_signed hbits,
    vote_eq_tally hbits, Option.map_some, Option.some_inj, decide_eq_decide, gt_iff_lt, sub_pos,
    Nat.cast_lt]

/-! ### Recovery -/

section Recovery

variable {context : ProtocolContext} {values : NDArray} {flat : List UInt8}

/-- Neither path accepts a context that is not valid, or an array of another shape. -/
lemma recover_payload_bytes_refused
    (h : ¬ (context.Valid ∧ values.shape = [1, context.height, context.width])) :
    recover_payload_bytes values context = fail invalid_protocol_input := by
  rw [recover_payload_bytes]
  by_cases hvalid : context.Valid
  · have hshape : values.shape ≠ [1, context.height, context.width] := fun heq => h ⟨hvalid, heq⟩
    rw [calculate_capacity_of_valid hvalid]
    simp only [bind, Except.bind]
    rw [if_pos hshape]
    rfl
  · rw [calculate_capacity, dif_neg hvalid]
    rfl

/-- What recovery accepts: a valid context, the shape of its image, and hard bits. -/
lemma recover_payload_bytes_uint8_accepts {received : List UInt8}
    (hdata : values.data = .uint8 flat)
    (h : recover_payload_bytes values context = .ok received) :
    context.Valid ∧ values.shape = [1, context.height, context.width] ∧
      ∀ value ∈ flat, value ≤ 1 := by
  by_cases hshape : context.Valid ∧ values.shape = [1, context.height, context.width]
  · refine ⟨hshape.1, hshape.2, fun value hvalue => ?_⟩
    by_contra hgt
    have hany : flat.any (· > 1) = true :=
      List.any_eq_true.mpr ⟨value, hvalue, decide_eq_true (UInt8.not_le.mp hgt)⟩
    rw [recover_payload_bytes, calculate_capacity_of_valid hshape.1] at h
    simp only [bind, Except.bind, pure, Except.pure] at h
    rw [if_neg (by simp [hshape.2]), hdata] at h
    simp only at h
    rw [if_pos hany] at h
    cases h
  · rw [recover_payload_bytes_refused hshape] at h
    cases h

/-- What `recover_payload_bytes` reads from signed logits of the right shape. -/
lemma recover_payload_bytes_signed (h : context.Valid)
    (hshape : values.shape = [1, context.height, context.width])
    (hdata : values.data = .float32 (flat.map signed_logit)) (hbits : ∀ value ∈ flat, value ≤ 1) :
    recover_payload_bytes values context = .ok
      (packbits ((List.range (capacity_of context h).protected_bits).map
        (vote flat (capacity_of context h).protected_bits))) := by
  rw [recover_payload_bytes, calculate_capacity_of_valid h]
  simp only [bind, Except.bind, pure, Except.pure]
  rw [if_neg (by simp [hshape]), hdata]
  simp only [finite_values_signed, Except.ok.injEq]
  congr 1
  refine List.ext_getElem? fun j => ?_
  rcases Nat.lt_or_ge j (capacity_of context h).protected_bits with hj | hj
  · rw [getElem?_signed_sums hbits hj, List.getElem?_map, List.getElem?_range hj]
    rfl
  · rw [List.getElem?_eq_none (by simpa using hj), List.getElem?_eq_none (by simpa using hj)]

/-- The map of the smallest image with one in every position. -/
def map_of_ones : NDArray where
  shape := [1, 512, 512]
  data := .uint8 (List.replicate 262144 1)
  size_eq := by rw [ArrayData.size, List.length_replicate]; rfl

/-- The signed logits of `map_of_ones`. -/
def logits_of_ones : NDArray where
  shape := [1, 512, 512]
  data := .float32 ((List.replicate 262144 1).map signed_logit)
  size_eq := by rw [ArrayData.size, List.length_map, List.length_replicate]; rfl

end Recovery

end StegoLab

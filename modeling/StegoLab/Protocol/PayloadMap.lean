import Mathlib.Data.Rat.Defs
import Mathlib.Algebra.Order.Ring.Rat
import Mathlib.Algebra.BigOperators.Intervals
import Mathlib.Tactic.Ring
import Mathlib.Tactic.Linarith
import Mathlib.Tactic.Positivity
import Mathlib.Tactic.Push
import StegoLab.Library.Bits
import StegoLab.Library.Repetition
import StegoLab.Protocol.Context

/-!
# Payload maps

The protected bits are repeated cyclically over every pixel position in row order. Recovery sums
the copies of each bit: hard bits vote, and logits are added. The sums of `float64` values are
exact rationals here.
-/

namespace StegoLab

open Bits Repetition

/-! ### Arrays -/

/-- A value of a `float32` array. -/
inductive Logit where
  | finite (value : ℚ)
  | nonfinite
  deriving DecidableEq

/-- The values of an array in row order, by its element type. -/
inductive ArrayData where
  | uint8 (flat : List UInt8)
  | float32 (flat : List Logit)
  | other (size : ℕ)
  deriving DecidableEq

def ArrayData.size : ArrayData → ℕ
  | .uint8 flat => flat.length
  | .float32 flat => flat.length
  | .other size => size

/-- An array whose shape accounts for all its values. -/
structure NDArray where
  shape : List ℕ
  data : ArrayData
  size_eq : data.size = shape.prod
  deriving DecidableEq

/-- `array.reshape(shape)`. -/
def reshape (data : ArrayData) (shape : List ℕ) : Except Raised NDArray :=
  if h : data.size = shape.prod then .ok { shape := shape, data := data, size_eq := h }
  else .error .value_error

/-- `np.resize(values, size)` of a nonempty array: repeat the values cyclically. -/
def resize (values : List UInt8) (size : ℕ) : List UInt8 :=
  (List.range size).map fun p => values.getD (p % values.length) 0

/-! ### Creation and recovery -/

/-- Repeat MSB-first protected bits over every position in row order. -/
def create_payload_map (protected_bytes : List UInt8) (context : ProtocolContext) :
    Except Raised NDArray := do
  let capacity ← calculate_capacity context
  if protected_bytes.length * 8 ≠ capacity.protected_bits then fail invalid_protocol_input
  let bits := unpackbits protected_bytes
  reshape (.uint8 (resize bits capacity.payload_map_bits)) [1, context.height, context.width]

/-- The sum of every column of the full rows, plus the partial last row. -/
def column_sums (flat : List ℚ) (L : ℕ) : List ℚ :=
  let full_count := flat.length / L
  let extra := flat.length % L
  (List.range L).map fun j =>
    ((List.range full_count).map fun r => flat.getD (r * L + j) 0).sum
      + if j < extra then flat.getD (full_count * L + j) 0 else 0

/-- Twice the ones minus the number of copies. -/
def hard_bit_sums (sums : List ℚ) (full_count extra : ℕ) : List ℚ :=
  sums.mapIdx fun j sum => sum * 2 - full_count - if j < extra then 1 else 0

/-- The finite values of a `float32` array. -/
def finite_values : List Logit → Option (List ℚ)
  | [] => some []
  | .finite value :: flat => (finite_values flat).map (value :: ·)
  | .nonfinite :: _ => none

/-- Vote hard bits or sum finite logits; exact ties recover as zero. -/
def recover_payload_bytes (values : NDArray) (context : ProtocolContext) :
    Except Raised (List UInt8) := do
  let capacity ← calculate_capacity context
  if values.shape ≠ [1, context.height, context.width] then fail invalid_protocol_input
  match values.data with
  | .other _ => fail invalid_protocol_input
  | .uint8 flat =>
    if flat.any (· > 1) then fail invalid_protocol_input
    let sums := column_sums (flat.map fun value => (value.toNat : ℚ)) capacity.protected_bits
    let sums := hard_bit_sums sums (flat.length / capacity.protected_bits)
      (flat.length % capacity.protected_bits)
    return packbits (sums.map fun sum => decide (sum > 0))
  | .float32 flat =>
    match finite_values flat with
    | none => fail invalid_protocol_input
    | some flat =>
      let sums := column_sums flat capacity.protected_bits
      return packbits (sums.map fun sum => decide (sum > 0))

/-! ### Column sums -/

@[simp] lemma length_column_sums (flat : List ℚ) (L : ℕ) : (column_sums flat L).length = L := by
  simp [column_sums]

lemma sum_map_range {M : Type*} [AddCommMonoid M] (n : ℕ) (f : ℕ → M) :
    ((List.range n).map f).sum = ∑ i ∈ Finset.range n, f i := by
  induction n with
  | zero => simp
  | succ n ih => rw [List.range_succ, List.map_append, List.sum_append, ih, Finset.sum_range_succ]; simp

/-- Column `j` sums the values at all the copies of item `j`. -/
lemma getElem?_column_sums (flat : List ℚ) {L j : ℕ} (hj : j < L) :
    (column_sums flat L)[j]? = some (∑ p ∈ copies flat.length L j, flat.getD p 0) := by
  rw [column_sums, List.getElem?_map, List.getElem?_range hj, Option.map_some, sum_map_range,
    sum_rows_add_extra hj fun p => flat.getD p 0]

/-! ### Hard votes -/

/-- Whether the copies of item `j` vote for one: more ones than zeros. -/
def vote (flat : List UInt8) (L j : ℕ) : Bool :=
  votes flat.length L j (fun p => ¬ flat[p]? = some 1)
    < votes flat.length L j (fun p => flat[p]? = some 1)

lemma sum_ones {flat : List UInt8} (hbits : ∀ value ∈ flat, value ≤ 1) (L j : ℕ) :
    ∑ p ∈ copies flat.length L j, ((flat.map fun value => (value.toNat : ℚ)).getD p 0)
      = votes flat.length L j (fun p => flat[p]? = some 1) := by
  rw [← sum_indicator, Nat.cast_sum]
  refine Finset.sum_congr rfl fun p hp => ?_
  obtain ⟨hlt, -⟩ := mem_copies.mp hp
  have hle := hbits flat[p] (List.getElem_mem hlt)
  have hcases : flat[p] = 0 ∨ flat[p] = 1 := by
    rw [UInt8.le_iff_toNat_le] at hle
    rcases Nat.le_one_iff_eq_zero_or_eq_one.mp hle with h | h
    · exact Or.inl (UInt8.toNat_inj.mp h)
    · exact Or.inr (UInt8.toNat_inj.mp h)
  rw [List.getD_eq_getElem?_getD, List.getElem?_map, List.getElem?_eq_getElem hlt]
  rcases hcases with h | h <;> rw [h] <;> simp

/-- The hard-bit sum of item `j` is positive exactly when its copies vote for one. -/
lemma getElem?_hard_bit_sums {flat : List UInt8} (hbits : ∀ value ∈ flat, value ≤ 1) {L j : ℕ}
    (hj : j < L) :
    ((hard_bit_sums (column_sums (flat.map fun value => (value.toNat : ℚ)) L)
        (flat.length / L) (flat.length % L)).map fun sum => decide (sum > 0))[j]?
      = some (vote flat L j) := by
  set ones := votes flat.length L j (fun p => flat[p]? = some 1) with hones
  set zeros := votes flat.length L j (fun p => ¬ flat[p]? = some 1) with hzeros
  have htotal : ones + zeros = flat.length / L + if j < flat.length % L then 1 else 0 := by
    rw [hones, hzeros, votes_add_votes_not, card_copies hj, repetitions]
  have hcast : (ones : ℚ) + zeros = (flat.length / L : ℕ) + if j < flat.length % L then 1 else 0 := by
    have := congrArg (fun n : ℕ => (n : ℚ)) htotal
    split_ifs at this ⊢ <;> push_cast at this ⊢ <;> linarith
  rw [List.getElem?_map, hard_bit_sums, List.getElem?_mapIdx, getElem?_column_sums _ hj,
    List.length_map, sum_ones hbits, ← hones]
  simp only [Option.map_some, Option.some.injEq, vote, ← hones, ← hzeros, decide_eq_decide]
  constructor
  · intro h
    have : (zeros : ℚ) < ones := by linarith
    exact_mod_cast this
  · intro h
    have : (zeros : ℚ) < ones := by exact_mod_cast h
    linarith

/-! ### Specifications -/

/-- What `recover_payload_bytes` reads from hard bits of the right shape. -/
lemma recover_payload_bytes_uint8 {context : ProtocolContext} (h : context.Valid)
    {values : NDArray} {flat : List UInt8}
    (hshape : values.shape = [1, context.height, context.width]) (hdata : values.data = .uint8 flat)
    (hbits : ∀ value ∈ flat, value ≤ 1) :
    recover_payload_bytes values context = .ok
      (packbits ((List.range (capacity_of context h).protected_bits).map
        (vote flat (capacity_of context h).protected_bits))) := by
  have hguard : ¬ (flat.any (· > 1)) = true := by
    simp only [List.any_eq_true, decide_eq_true_eq, not_exists, not_and]
    exact fun value hvalue => UInt8.not_lt.mpr (hbits value hvalue)
  rw [recover_payload_bytes, calculate_capacity_of_valid h]
  simp only [bind, Except.bind, pure, Except.pure]
  rw [if_neg (by simp [hshape]), hdata]
  simp only
  rw [if_neg hguard]
  simp only [Except.ok.injEq]
  congr 1
  refine List.ext_getElem? fun j => ?_
  rcases Nat.lt_or_ge j (capacity_of context h).protected_bits with hj | hj
  · rw [getElem?_hard_bit_sums hbits hj, List.getElem?_map, List.getElem?_range hj]
    rfl
  · rw [List.getElem?_eq_none (by simpa [hard_bit_sums] using hj),
      List.getElem?_eq_none (by simpa using hj)]

/-- The map of the protected bytes repeats their bits over every position. -/
lemma create_payload_map_eq {context : ProtocolContext} (h : context.Valid)
    {protected_bytes : List UInt8}
    (hlen : protected_bytes.length * 8 = (capacity_of context h).protected_bits) :
    ∃ map, create_payload_map protected_bytes context = .ok map ∧
      map.shape = [1, context.height, context.width] ∧
      map.data = .uint8 (resize (unpackbits protected_bytes) (context.width * context.height)) := by
  have hsize : (ArrayData.uint8 (resize (unpackbits protected_bytes)
      (context.width * context.height))).size = [1, context.height, context.width].prod := by
    simp [ArrayData.size, resize, Nat.mul_comm]
  refine ⟨⟨_, _, hsize⟩, ?_, rfl, rfl⟩
  rw [create_payload_map, calculate_capacity_of_valid h]
  simp only [bind, Except.bind]
  rw [if_neg (by simp [hlen]), payload_map_bits_eq]
  exact dif_pos hsize

end StegoLab

import Mathlib.Data.List.Range
import Mathlib.Data.Nat.Bitwise
import StegoLab.Library.Interleaving

/-!
# Bits of bytes

Bytes are unpacked into bits from the most significant one on, and packed back.
-/

namespace Bits

/-- Bit `k` of a byte, counted from the most significant one. -/
def bit_of (byte : UInt8) (k : ℕ) : UInt8 :=
  if byte.toNat.testBit (7 - k) then 1 else 0

/-- The bits of the bytes as values `0` and `1`. -/
def unpackbits (bytes : List UInt8) : List UInt8 :=
  (List.range bytes.length).flatMap fun i => (List.range 8).map (bit_of (bytes.getD i 0))

/-- The byte whose leading bits are given; missing bits are zero. -/
def pack_byte (bits : List Bool) : UInt8 :=
  UInt8.ofNat ((List.range 8).map fun k => if bits.getD k false then 2 ^ (7 - k) else 0).sum

/-- Pack bits into bytes, filling the last byte with zeros. -/
def packbits (bits : List Bool) : List UInt8 :=
  (List.range ((bits.length + 7) / 8)).map fun i => pack_byte (bits.drop (8 * i))

lemma bit_of_eq_zero_or_one (byte : UInt8) (k : ℕ) : bit_of byte k = 0 ∨ bit_of byte k = 1 := by
  unfold bit_of
  split_ifs <;> simp

@[simp] lemma length_unpackbits (bytes : List UInt8) :
    (unpackbits bytes).length = bytes.length * 8 :=
  Interleaving.length_flatMap_range _ 8 _ fun _ _ => by simp

/-- Bit `k` of byte `i` is unpacked at position `8 * i + k`. -/
lemma getElem?_unpackbits (bytes : List UInt8) {i k : ℕ} (hi : i < bytes.length) (hk : k < 8) :
    (unpackbits bytes)[8 * i + k]? = some (bit_of bytes[i] k) := by
  rw [unpackbits, Nat.mul_comm 8, Interleaving.getElem?_flatMap_range _ 8 _ (by simp) hi hk]
  simp [hk, List.getElem?_eq_getElem hi]

lemma unpackbits_le_one (bytes : List UInt8) : ∀ bit ∈ unpackbits bytes, bit ≤ 1 := by
  intro bit hbit
  simp only [unpackbits, List.mem_flatMap, List.mem_map] at hbit
  obtain ⟨_, _, k, _, rfl⟩ := hbit
  rcases bit_of_eq_zero_or_one _ k with h | h <;> rw [h] <;> decide

set_option maxRecDepth 8000 in
private lemma sum_bits : ∀ n < 256, ((List.range 8).map fun k =>
    if n.testBit (7 - k) then 2 ^ (7 - k) else 0).sum = n := by
  decide

/-- A byte is packed from its own bits. -/
lemma pack_byte_bit_of (byte : UInt8) (bits : List Bool)
    (hbits : ∀ k < 8, bits[k]? = some (decide (bit_of byte k = 1))) : pack_byte bits = byte := by
  have hsum : ((List.range 8).map fun k => if bits.getD k false then 2 ^ (7 - k) else 0)
      = (List.range 8).map fun k => if byte.toNat.testBit (7 - k) then 2 ^ (7 - k) else 0 := by
    refine List.map_congr_left fun k hk => ?_
    rw [List.getD_eq_getElem?_getD, hbits k (List.mem_range.mp hk), bit_of]
    split_ifs <;> simp_all
  rw [pack_byte, hsum, sum_bits _ byte.toNat_lt]
  exact UInt8.ofNat_toNat

@[simp] lemma length_packbits (bits : List Bool) : (packbits bits).length = (bits.length + 7) / 8 := by
  simp [packbits]

/-- Packing restores every byte all of whose bits are intact. -/
lemma getElem?_packbits {bits : List Bool} {bytes : List UInt8}
    (hlen : bits.length = bytes.length * 8) {i : ℕ} (hi : i < bytes.length)
    (hbits : ∀ k < 8, bits[8 * i + k]? = some (decide (bit_of bytes[i] k = 1))) :
    (packbits bits)[i]? = bytes[i]? := by
  have hcount : i < (bits.length + 7) / 8 := by omega
  have hbyte : pack_byte (bits.drop (8 * i)) = bytes[i] := by
    refine pack_byte_bit_of _ _ fun k hk => ?_
    rw [List.getElem?_drop]
    exact hbits k hk
  simp [packbits, hcount, hbyte, hi]

/-! ### Unpacking -/

private lemma testBit_digits : ∀ b₀ b₁ b₂ b₃ b₄ b₅ b₆ b₇ : Bool, ∀ k < 8,
    ((List.range 8).map fun i =>
      if [b₀, b₁, b₂, b₃, b₄, b₅, b₆, b₇].getD i false then 2 ^ (7 - i) else 0).sum.testBit (7 - k)
      = [b₀, b₁, b₂, b₃, b₄, b₅, b₆, b₇].getD k false := by
  decide +kernel

/-- The first eight values of a list, filled with `false`. -/
private lemma getD_first_eight (bits : List Bool) : ∀ k < 8,
    [bits.getD 0 false, bits.getD 1 false, bits.getD 2 false, bits.getD 3 false,
      bits.getD 4 false, bits.getD 5 false, bits.getD 6 false, bits.getD 7 false].getD k false
      = bits.getD k false
  | 0, _ | 1, _ | 2, _ | 3, _ | 4, _ | 5, _ | 6, _ | 7, _ => rfl

private lemma sum_bits_lt : ∀ b₀ b₁ b₂ b₃ b₄ b₅ b₆ b₇ : Bool,
    ((List.range 8).map fun i =>
      if [b₀, b₁, b₂, b₃, b₄, b₅, b₆, b₇].getD i false then 2 ^ (7 - i) else 0).sum < 256 := by
  decide +kernel

/-- A packed byte has the given leading bits. -/
lemma bit_of_pack_byte (bits : List Bool) {k : ℕ} (hk : k < 8) :
    bit_of (pack_byte bits) k = if bits.getD k false then 1 else 0 := by
  have hsum : ((List.range 8).map fun i => if bits.getD i false then 2 ^ (7 - i) else 0)
      = (List.range 8).map fun i =>
        if [bits.getD 0 false, bits.getD 1 false, bits.getD 2 false, bits.getD 3 false,
          bits.getD 4 false, bits.getD 5 false, bits.getD 6 false, bits.getD 7 false].getD i false
        then 2 ^ (7 - i) else 0 := by
    refine List.map_congr_left fun i hi => ?_
    rw [getD_first_eight bits i (List.mem_range.mp hi)]
  rw [bit_of, pack_byte, hsum, UInt8.toNat_ofNat', Nat.mod_eq_of_lt (sum_bits_lt ..),
    testBit_digits _ _ _ _ _ _ _ _ k hk, getD_first_eight bits k hk]

/-- Unpacking restores the packed bits, when they fill whole bytes. -/
lemma getElem?_unpackbits_packbits {bits : List Bool} {j : ℕ} (hfull : bits.length % 8 = 0)
    (hj : j < bits.length) :
    (unpackbits (packbits bits))[j]? = bits[j]?.map fun bit => if bit then 1 else 0 := by
  have hbyte : j / 8 < (packbits bits).length := by
    rw [length_packbits]
    omega
  have hbit := getElem?_unpackbits (packbits bits) hbyte (Nat.mod_lt j (by decide))
  have hword : (packbits bits)[j / 8] = pack_byte (bits.drop (8 * (j / 8))) := by simp [packbits]
  rw [Nat.div_add_mod, hword, bit_of_pack_byte _ (Nat.mod_lt j (by decide)),
    List.getD_eq_getElem?_getD, List.getElem?_drop, Nat.div_add_mod] at hbit
  rw [hbit, List.getElem?_eq_getElem hj]
  rfl

end Bits

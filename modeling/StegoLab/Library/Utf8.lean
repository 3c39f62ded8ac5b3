import Mathlib.Algebra.BigOperators.Group.List.Basic

/-!
# Strict UTF-8

A text is a list of code points, some of which may be lone surrogates. Strict encoding refuses
surrogates, strict decoding refuses every byte sequence that no scalar text encodes to, and
decoding undoes encoding.
-/

namespace Utf8

/-- A code point: a Unicode scalar value or one of the 2048 surrogates. -/
inductive CodePoint where
  | scalar (c : Char)
  | surrogate (n : Fin 2048)
  deriving DecidableEq

/-- The scalar values of a text without surrogates. -/
def scalars : List CodePoint → Option (List Char)
  | [] => some []
  | .scalar c :: text => (scalars text).map (c :: ·)
  | .surrogate _ :: _ => none

/-- Strict encoding. -/
def encode (text : List CodePoint) : Option (List UInt8) :=
  (scalars text).map (·.flatMap String.utf8EncodeChar)

/-- Strict decoding. -/
def decode (bytes : List UInt8) : Option (List CodePoint) :=
  bytes.toByteArray.utf8Decode?.map fun chars => chars.toList.map .scalar

lemma scalars_eq_some {text : List CodePoint} {chars : List Char} (h : scalars text = some chars) :
    text = chars.map .scalar := by
  induction text generalizing chars with
  | nil =>
    obtain rfl : chars = [] := by simpa [scalars] using h.symm
    rfl
  | cons point text ih =>
    cases point with
    | surrogate n => simp [scalars] at h
    | scalar c =>
      simp only [scalars, Option.map_eq_some_iff] at h
      obtain ⟨rest, hrest, rfl⟩ := h
      rw [ih hrest]
      rfl

lemma scalars_map_scalar (chars : List Char) : scalars (chars.map .scalar) = some chars := by
  induction chars with
  | nil => rfl
  | cons c chars ih => simp [scalars, ih]

/-- Decoding returns the encoded text. -/
theorem decode_of_encode {text : List CodePoint} {bytes : List UInt8}
    (h : encode text = some bytes) : decode bytes = some text := by
  simp only [encode, Option.map_eq_some_iff] at h
  obtain ⟨chars, hchars, rfl⟩ := h
  have hbytes : (chars.flatMap String.utf8EncodeChar).toByteArray = chars.utf8Encode := rfl
  rw [decode, hbytes, List.utf8Decode?_utf8Encode, scalars_eq_some hchars]
  rfl

/-- Strict decoding accepts only the bytes that its result encodes to. -/
theorem encode_of_decode {bytes : List UInt8} {text : List CodePoint}
    (h : decode bytes = some text) : encode text = some bytes := by
  rw [decode, Option.map_eq_some_iff] at h
  obtain ⟨chars, hchars, rfl⟩ := h
  obtain ⟨valid, hvalid⟩ := ByteArray.isSome_utf8Decode?_iff.mp (Option.isSome_of_eq_some hchars)
  rw [hvalid, List.utf8Decode?_utf8Encode, Option.some_inj] at hchars
  have hbytes : valid.flatMap String.utf8EncodeChar = bytes :=
    List.toByteArray_inj.mp hvalid.symm
  rw [← hchars, encode]
  simp only
  rw [scalars_map_scalar, Option.map_some, hbytes]

/-- A text never has more code points than its encoding has bytes. -/
lemma length_le_of_encode {text : List CodePoint} {bytes : List UInt8}
    (h : encode text = some bytes) : text.length ≤ bytes.length := by
  simp only [encode, Option.map_eq_some_iff] at h
  obtain ⟨chars, hchars, rfl⟩ := h
  rw [scalars_eq_some hchars, List.length_map, List.length_flatMap]
  have hone : ∀ n ∈ chars.map fun c => (String.utf8EncodeChar c).length, 1 ≤ n := by
    intro n hn
    obtain ⟨c, -, rfl⟩ := List.mem_map.mp hn
    exact List.length_pos_iff.mpr String.utf8EncodeChar_ne_nil
  simpa using List.length_le_sum_of_one_le _ hone

/-! ### Scalar text -/

/-- The code points of a text without surrogates. -/
def code_points (text : String) : List CodePoint :=
  text.toList.map .scalar

/-- A text without surrogates is encoded in its own bytes. -/
lemma length_of_encode_code_points {text : String} {bytes : List UInt8}
    (h : encode (code_points text) = some bytes) : bytes.length = text.utf8ByteSize := by
  rw [encode, code_points, scalars_map_scalar, Option.map_some, Option.some_inj] at h
  have hbytes : (text.toList.flatMap String.utf8EncodeChar).toByteArray = text.toByteArray :=
    String.utf8Encode_toList
  rw [← h, ← List.size_toByteArray, hbytes, String.size_toByteArray]

end Utf8

import Mathlib.FieldTheory.Finite.GaloisField
import StegoLab.Library.EvaluationCode
import StegoLab.Protocol.Correction

/-!
# A correcting codec

The evaluation code of 223 symbols at 255 points of the field with 256 elements has the
correction radius that the protocol relies on.
-/

namespace StegoLab

open EvaluationCode Interleaving

/-- A byte as a number below 256. -/
def byte_equiv : UInt8 ≃ Fin 256 where
  toFun := UInt8.toFin
  invFun := UInt8.ofFin
  left_inv _ := rfl
  right_inv _ := rfl

/-- The bytes as the elements of the field with 256 elements. -/
noncomputable def field_equiv : UInt8 ≃ GaloisField 2 8 :=
  byte_equiv.trans (Finite.equivFinOfCardEq (GaloisField.card 2 8 (by decide))).symm

/-- The points of the code. -/
noncomputable def code_points (i : ℕ) : GaloisField 2 8 :=
  field_equiv (UInt8.ofNat i)

lemma injOn_code_points : Set.InjOn code_points (Finset.range 255) := by
  intro i hi j hj h
  have hi' : i < 255 := Finset.mem_range.mp (Finset.mem_coe.mp hi)
  have hj' : j < 255 := Finset.mem_range.mp (Finset.mem_coe.mp hj)
  have hbyte := congrArg UInt8.toNat (field_equiv.injective h)
  rw [UInt8.toNat_ofNat', UInt8.toNat_ofNat'] at hbyte
  omega

/-- The codec of the code with 32 added symbols. -/
noncomputable def evaluation_codec : ReedSolomonCodec :=
  { encode := EvaluationCode.encode field_equiv code_points 223 255
    decode := EvaluationCode.decode field_equiv code_points 223 255 16 }

/-- The code has the correction radius of the protocol's codec. -/
theorem evaluation_codec_lawful : evaluation_codec.Lawful where
  length_encode _ _ := length_encode ..
  decode_changed _ _ hblock hword hchanged :=
    decode_of_changed injOn_code_points (by decide) (by decide) hblock hword hchanged

end StegoLab

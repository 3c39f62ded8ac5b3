import Mathlib.Data.Int.Notation
import StegoLab.Failures
import StegoLab.Library.Decompression

/-!
# Pixel streams of PNG images

The compressed pixels of an image are checked without keeping them: one complete zlib stream that
decodes to the bytes of its scanlines.
-/

namespace StegoLab

/-! ### The pixel budget -/

/-- One pass over the pixel grid. -/
structure Pass where
  start_x : ℕ
  start_y : ℕ
  step_x : ℕ
  step_y : ℕ
  deriving DecidableEq, Repr

def WHOLE_GRID : List Pass :=
  [⟨0, 0, 1, 1⟩]

def ADAM7 : List Pass :=
  [⟨0, 0, 8, 8⟩, ⟨4, 0, 8, 8⟩, ⟨0, 4, 4, 8⟩, ⟨2, 0, 4, 4⟩, ⟨0, 2, 2, 4⟩, ⟨1, 0, 2, 2⟩, ⟨0, 1, 1, 2⟩]

def passes (interlace : ℕ) : List Pass :=
  if interlace = 0 then WHOLE_GRID else ADAM7

/-- `max(0, (size - start + step - 1) // step)`. -/
def covered (size start step : ℕ) : ℕ :=
  (max 0 (((size : ℤ) - start + step - 1) / step)).toNat

def Pass.width (pass : Pass) (width : ℕ) : ℕ :=
  covered width pass.start_x pass.step_x

def Pass.height (pass : Pass) (height : ℕ) : ℕ :=
  covered height pass.start_y pass.step_y

/-- The bytes of a pass: its pixels, and one filter byte for each of its rows. -/
def Pass.bytes (pass : Pass) (width height channels : ℕ) : ℕ :=
  if pass.width width ≠ 0 ∧ pass.height height ≠ 0 then
    pass.height height * (1 + pass.width width * channels)
  else 0

def expected_bytes (width height channels interlace : ℕ) : ℕ :=
  (passes interlace).foldl (fun total pass => total + pass.bytes width height channels) 0

/-! ### The validator -/

/-- The exceptions of the validator: its own `ValueError`s, and those of the decompressor. -/
inductive PixelFailure (ε : Type) where
  | value_error (message : String)
  | zlib_error (e : ε)
  deriving DecidableEq

structure PixelStreamValidator {ε : Type} (zlib : Decompressor ε) where
  expected_bytes : ℕ
  decoded_bytes : ℕ
  decoder : zlib.State

def OUTPUT_BYTES : ℕ := 64 * 1024

namespace PixelStreamValidator

variable {ε : Type} {zlib : Decompressor ε}

/-- What a call leaves: its outcome and the validator. -/
abbrev Outcome (zlib : Decompressor ε) : Type :=
  Except (PixelFailure ε) Unit × PixelStreamValidator zlib

/-- `PixelStreamValidator(width, height, channels, interlace)`. -/
def create (zlib : Decompressor ε) (width height channels interlace : ℕ) :
    PixelStreamValidator zlib where
  expected_bytes := StegoLab.expected_bytes width height channels interlace
  decoded_bytes := 0
  decoder := zlib.start

/-- The validator once output has been decoded and discarded. -/
def decoded (validator : PixelStreamValidator zlib) (output : List UInt8) (decoder : zlib.State) :
    PixelStreamValidator zlib :=
  { validator with
    decoded_bytes := validator.decoded_bytes + output.length
    decoder := decoder }

/-- The loop of `feed`; nothing when it has not ended after these rounds. -/
def feed_loop : ℕ → PixelStreamValidator zlib → List UInt8 → Option (Outcome zlib)
  | 0, _, _ => none
  | rounds + 1, validator, pending =>
    match zlib.decompress validator.decoder pending OUTPUT_BYTES with
    | .error e => some (.error (.zlib_error e), validator)
    | .ok (output, decoder) =>
      let validator := validator.decoded output decoder
      if validator.expected_bytes < validator.decoded_bytes ∨ zlib.unused_data decoder ≠ [] then
        some (.error (.value_error "PNG pixel data exceeds its expected size."), validator)
      else if zlib.unconsumed_tail decoder = [] ∧ output.length < OUTPUT_BYTES then
        some (.ok (), validator)
      else feed_loop rounds validator (zlib.unconsumed_tail decoder)

def feed (rounds : ℕ) (validator : PixelStreamValidator zlib) (data : List UInt8) :
    Option (Outcome zlib) :=
  if zlib.eof validator.decoder = true ∧ data ≠ [] then
    some (.error (.value_error "PNG contains data after its compressed pixel stream."), validator)
  else feed_loop rounds validator data

/-- One call of `feed` for each chunk, until one fails. -/
def feed_chunks (rounds : ℕ) : PixelStreamValidator zlib → List (List UInt8) → Option (Outcome zlib)
  | validator, [] => some (.ok (), validator)
  | validator, data :: chunks =>
    match feed rounds validator data with
    | some (.ok (), validator) => feed_chunks rounds validator chunks
    | ended => ended

def finish (validator : PixelStreamValidator zlib) : Except (PixelFailure ε) Unit :=
  raise_if (zlib.eof validator.decoder = false ∨ validator.decoded_bytes ≠ validator.expected_bytes)
    (.value_error "PNG compressed pixel data is incomplete.")

/-- Every chunk is fed and the stream finished without a failure. -/
def Accepts (rounds : ℕ) (validator : PixelStreamValidator zlib) (chunks : List (List UInt8)) :
    Prop :=
  ∃ fed, feed_chunks rounds validator chunks = some (.ok (), fed) ∧ finish fed = .ok ()

end PixelStreamValidator

end StegoLab

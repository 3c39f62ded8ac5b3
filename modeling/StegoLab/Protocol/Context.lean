import Mathlib.Tactic.Linarith
import StegoLab.Failures

/-!
# Protocol contexts and payload capacity

A `ProtocolContext` binds the dimensions of an image and the compatibility identity of a model.
`calculate_capacity` accounts for every byte and repeated bit of the layout that fits it.
-/

namespace StegoLab

/-! ### Fixed failures -/

def recovery_failure : ApplicationFailure :=
  { code := "message_recovery_failed"
    message :=
      "No valid hidden message could be recovered. Check the password, model, and image."
    status_code := 422 }

def invalid_protocol_input : ApplicationFailure :=
  { code := "invalid_protocol_input"
    message := "Use supported image dimensions and the matching protocol profile."
    status_code := 422 }

/-! ### Contexts -/

def MINIMUM_IMAGE_SIDE : ℕ := 512
def MAXIMUM_IMAGE_SIDE : ℕ := 4096
def MAXIMUM_IMAGE_AREA : ℕ := 8850000

/-- A context as its caller built it, possibly without validation. -/
structure ProtocolContext where
  width : ℕ
  height : ℕ
  protocol_version : ℕ := 1
  profile_identifier : String := "test_only_v1"
  compatibility_identifier : String := "public_fixture_v1"
  deriving DecidableEq, Repr

def lower_or_digit (c : Char) : Bool :=
  ('a' ≤ c ∧ c ≤ 'z') ∨ ('0' ≤ c ∧ c ≤ '9')

/-- The pattern `^[a-z0-9][a-z0-9_.-]{0,127}$`. -/
def compatibility_pattern (identifier : String) : Bool :=
  match identifier.toList with
  | [] => false
  | first :: rest =>
    lower_or_digit first && decide (rest.length ≤ 127) &&
      rest.all fun c => lower_or_digit c || c == '_' || c == '.' || c == '-'

/-- What the record's own validation accepts. -/
def ProtocolContext.Valid (context : ProtocolContext) : Prop :=
  (MINIMUM_IMAGE_SIDE ≤ context.width ∧ context.width ≤ MAXIMUM_IMAGE_SIDE) ∧
    (MINIMUM_IMAGE_SIDE ≤ context.height ∧ context.height ≤ MAXIMUM_IMAGE_SIDE) ∧
    context.width * context.height ≤ MAXIMUM_IMAGE_AREA ∧
    context.protocol_version = 1 ∧ context.profile_identifier = "test_only_v1" ∧
    compatibility_pattern context.compatibility_identifier = true

instance (context : ProtocolContext) : Decidable context.Valid := by
  unfold ProtocolContext.Valid
  infer_instance

/-- Revalidate even constructed records before using sizes or identities. -/
def validate_context (context : ProtocolContext) : Except Raised ProtocolContext :=
  if context.Valid then .ok context else fail invalid_protocol_input

@[simp] lemma validate_context_of_valid {context : ProtocolContext} (h : context.Valid) :
    validate_context context = .ok context :=
  if_pos h

/-! ### Capacity -/

/-- The layout of one frame, with the bounds its record declares. -/
structure PayloadCapacity where
  maximum_message_bytes : ℕ
  padding_bytes_at_capacity : ℕ
  block_count : ℕ
  frame_bytes : ℕ
  correction_bytes : ℕ
  protected_bits : ℕ
  payload_map_bits : ℕ
  repeated_bits : ℕ
  minimum_repetitions : ℕ
  additional_repetitions : ℕ
  maximum_message_bytes_range : 256 ≤ maximum_message_bytes ∧ maximum_message_bytes ≤ 1024
  padding_range : padding_bytes_at_capacity < 223
  block_count_range : 2 ≤ block_count ∧ block_count ≤ 5
  frame_bytes_range : 446 ≤ frame_bytes ∧ frame_bytes ≤ 1115
  correction_bytes_range : 64 ≤ correction_bytes ∧ correction_bytes ≤ 160
  protected_bits_range : 4080 ≤ protected_bits ∧ protected_bits ≤ 10200
  payload_map_bits_range : 262144 ≤ payload_map_bits ∧ payload_map_bits ≤ 8850000
  minimum_repetitions_range : 1 ≤ minimum_repetitions
  deriving DecidableEq, Repr

lemma ProtocolContext.Valid.pixels_range {context : ProtocolContext} (h : context.Valid) :
    262144 ≤ context.width * context.height ∧ context.width * context.height ≤ 8850000 := by
  obtain ⟨⟨hw, -⟩, ⟨hh, -⟩, harea, -⟩ := h
  exact ⟨Nat.mul_le_mul hw hh, harea⟩

/-- The longest message of an image with `pixels` pixels. -/
def maximum_bytes (pixels : ℕ) : ℕ :=
  min 1024 (pixels / 1024)

/-- The number of codewords that a header, a length, a tag and the longest message fill. -/
def blocks_for (maximum : ℕ) : ℕ :=
  (maximum + 63 + 222) / 223

lemma blocks_for_range {pixels : ℕ} (h : 262144 ≤ pixels) :
    256 ≤ maximum_bytes pixels ∧ 2 ≤ blocks_for (maximum_bytes pixels) ∧
      blocks_for (maximum_bytes pixels) ≤ 5 ∧
      maximum_bytes pixels + 63 ≤ blocks_for (maximum_bytes pixels) * 223 ∧
      blocks_for (maximum_bytes pixels) * 223 < maximum_bytes pixels + 63 + 223 := by
  unfold blocks_for maximum_bytes
  omega

/-- The layout accounting of a valid context. -/
def capacity_of (context : ProtocolContext) (h : context.Valid) : PayloadCapacity :=
  let pixels := context.width * context.height
  let maximum := maximum_bytes pixels
  let blocks := blocks_for maximum
  let protected_bits := blocks * 255 * 8
  have hpixels : 262144 ≤ pixels ∧ pixels ≤ 8850000 := h.pixels_range
  have hblocks : 256 ≤ maximum ∧ 2 ≤ blocks ∧ blocks ≤ 5 ∧ maximum + 63 ≤ blocks * 223 ∧
      blocks * 223 < maximum + 63 + 223 := blocks_for_range hpixels.1
  have hmaximum : maximum ≤ 1024 := Nat.min_le_left _ _
  have hprotected : 4080 ≤ protected_bits ∧ protected_bits ≤ 10200 := by omega
  { maximum_message_bytes := maximum
    padding_bytes_at_capacity := blocks * 223 - 63 - maximum
    block_count := blocks
    frame_bytes := blocks * 223
    correction_bytes := blocks * 32
    protected_bits := protected_bits
    payload_map_bits := pixels
    repeated_bits := pixels - protected_bits
    minimum_repetitions := pixels / protected_bits
    additional_repetitions := pixels % protected_bits
    maximum_message_bytes_range := by omega
    padding_range := by omega
    block_count_range := by omega
    frame_bytes_range := by omega
    correction_bytes_range := by omega
    protected_bits_range := hprotected
    payload_map_bits_range := hpixels
    minimum_repetitions_range := (Nat.one_le_div_iff (by omega)).mpr (by omega) }

/-- Return internal layout accounting, without advertising model support. -/
def calculate_capacity (context : ProtocolContext) : Except Raised PayloadCapacity :=
  if h : context.Valid then
    let capacity := capacity_of context h
    if capacity.protected_bits > context.width * context.height then
      fail invalid_protocol_input
    else .ok capacity
  else fail invalid_protocol_input

/-- Every valid context has a layout, and its protected bits fit the image. -/
lemma calculate_capacity_of_valid {context : ProtocolContext} (h : context.Valid) :
    calculate_capacity context = .ok (capacity_of context h) := by
  have hpixels := h.pixels_range
  have hbits := (capacity_of context h).protected_bits_range
  rw [calculate_capacity, dif_pos h]
  exact if_neg (by omega)

section Layout

variable {context : ProtocolContext} (h : context.Valid)

lemma frame_bytes_eq : (capacity_of context h).frame_bytes
    = (capacity_of context h).block_count * 223 := rfl

lemma protected_bits_eq : (capacity_of context h).protected_bits
    = (capacity_of context h).block_count * 255 * 8 := rfl

lemma payload_map_bits_eq : (capacity_of context h).payload_map_bits
    = context.width * context.height := rfl

/-- The header, the length, the longest message and the tag fit a frame. -/
lemma message_fits_frame :
    45 + 2 + (capacity_of context h).maximum_message_bytes + 16
      ≤ (capacity_of context h).frame_bytes := by
  have := blocks_for_range h.pixels_range.1
  change 45 + 2 + maximum_bytes _ + 16 ≤ blocks_for (maximum_bytes _) * 223
  omega

end Layout

example : (capacity_of ⟨513, 517, 1, "test_only_v1", "public_fixture_v1"⟩
    (by decide)).maximum_message_bytes = 259 := by
  decide

end StegoLab

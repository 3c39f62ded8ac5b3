import StegoLab.Library.Interleaving
import StegoLab.Protocol.Context

/-!
# Byte correction and interleaving

A frame is cut into blocks of 223 bytes, each encoded to a codeword of 255 symbols, and the
codewords are interleaved column by column. The Reed-Solomon codec is a library object, taken as
a parameter together with its documented correction radius.
-/

namespace StegoLab

open Interleaving

/-- `RSCodec(nsym=32, nsize=255, ...)`: `encode`, and the first component of `decode`. -/
structure ReedSolomonCodec where
  encode : List UInt8 → List UInt8
  decode : List UInt8 → Option (List UInt8)

/-- The codec corrects at most sixteen changed symbols of a codeword it produced. -/
structure ReedSolomonCodec.Lawful (codec : ReedSolomonCodec) : Prop where
  length_encode : ∀ block, block.length = 223 → (codec.encode block).length = 255
  decode_changed : ∀ block word, block.length = 223 → word.length = 255 →
    changed_symbols (codec.encode block) word ≤ 16 → codec.decode word = some block

/-- The codewords of a frame. -/
def codewords (codec : ReedSolomonCodec) (frame : List UInt8) : List (List UInt8) :=
  (List.range' 0 ((frame.length + 222) / 223) 223).map fun offset =>
    codec.encode ((frame.drop offset).take 223)

/-- Protect all header and ciphertext bytes, then interleave block columns. -/
def protect_frame (codec : ReedSolomonCodec) (frame : List UInt8) (context : ProtocolContext) :
    Except Raised (List UInt8) := do
  let capacity ← calculate_capacity context
  if frame.length ≠ capacity.frame_bytes then fail invalid_protocol_input
  return interleave 255 (codewords codec frame)

/-- Undo column interleaving and correct blocks before authentication. -/
def restore_frame (codec : ReedSolomonCodec) (received : List UInt8) (context : ProtocolContext) :
    Except Raised (List UInt8) := do
  let capacity ← calculate_capacity context
  if received.length * 8 ≠ capacity.protected_bits then fail recovery_failure
  match (List.range capacity.block_count).mapM fun index =>
      codec.decode (stride index capacity.block_count received) with
  | none => fail recovery_failure
  | some blocks => return blocks.flatten

/-! ### Blocks -/

section Blocks

variable {codec : ReedSolomonCodec} {frame : List UInt8} {blocks : ℕ}

/-- Block `b` of a frame. -/
def frame_block (frame : List UInt8) (b : ℕ) : List UInt8 :=
  (frame.drop (b * 223)).take 223

lemma length_frame_block (hlen : frame.length = blocks * 223) {b : ℕ} (hb : b < blocks) :
    (frame_block frame b).length = 223 := by
  have : b * 223 + 223 ≤ blocks * 223 := by omega
  simp only [frame_block, List.length_take, List.length_drop]
  omega

/-- The blocks of a frame, in order, are the frame. -/
lemma flatten_frame_blocks (hlen : frame.length = blocks * 223) :
    ((List.range blocks).map (frame_block frame)).flatten = frame := by
  have hstart : ∀ n, ((List.range n).map (frame_block frame)).flatten = frame.take (n * 223) := by
    intro n
    induction n with
    | zero => simp
    | succ n ih =>
      rw [List.range_succ, List.map_append, List.flatten_append, ih, Nat.succ_mul, List.take_add]
      simp [frame_block]
  rw [hstart, ← hlen, List.take_length]

lemma codewords_eq (hlen : frame.length = blocks * 223) :
    codewords codec frame = (List.range blocks).map fun b => codec.encode (frame_block frame b) := by
  have hcount : (frame.length + 222) / 223 = blocks := by omega
  have hrange : List.range' 0 blocks 223 = (List.range blocks).map (· * 223) :=
    List.ext_getElem (by simp) fun i h₁ h₂ => by simp [Nat.mul_comm]
  rw [codewords, hcount, hrange, List.map_map]
  rfl

lemma length_of_mem_codewords (lawful : codec.Lawful) (hlen : frame.length = blocks * 223) :
    ∀ word ∈ codewords codec frame, word.length = 255 := by
  rw [codewords_eq hlen]
  intro word hword
  obtain ⟨b, hb, rfl⟩ := List.mem_map.mp hword
  exact lawful.length_encode _ (length_frame_block hlen (List.mem_range.mp hb))

/-- The stride of index `b` through the protected bytes is codeword `b`. -/
lemma stride_codewords (lawful : codec.Lawful) (hlen : frame.length = blocks * 223) {b : ℕ}
    (hb : b < blocks) :
    stride b blocks (interleave 255 (codewords codec frame))
      = codec.encode (frame_block frame b) := by
  have hcount : (codewords codec frame).length = blocks := by simp [codewords_eq hlen]
  have hword : b < (codewords codec frame).length := by omega
  have := stride_interleave (length_of_mem_codewords lawful hlen) hword
  rw [hcount] at this
  rw [this]
  simp [codewords_eq hlen]

end Blocks

/-! ### Specifications -/

lemma mapM_eq_some_of_forall {α β : Type} {f : α → Option β} {g : α → β} :
    ∀ {xs : List α}, (∀ x ∈ xs, f x = some (g x)) → xs.mapM f = some (xs.map g)
  | [], _ => by simp
  | x :: xs, h => by
    rw [List.mapM_cons, h x (by simp), mapM_eq_some_of_forall fun y hy => h y (by simp [hy])]
    rfl

/-- A frame of the context's length is protected into one byte per symbol of each codeword. -/
lemma protect_frame_eq {codec : ReedSolomonCodec} {context : ProtocolContext}
    (h : context.Valid) {frame : List UInt8} (hlen : frame.length = (capacity_of context h).frame_bytes) :
    protect_frame codec frame context = .ok (interleave 255 (codewords codec frame)) := by
  rw [protect_frame, calculate_capacity_of_valid h]
  simp only [bind, Except.bind, pure, Except.pure]
  rw [if_neg (by simp [hlen])]

lemma length_protected {codec : ReedSolomonCodec} (lawful : codec.Lawful)
    {frame : List UInt8} {blocks : ℕ} (hlen : frame.length = blocks * 223) :
    (interleave 255 (codewords codec frame)).length = 255 * blocks := by
  rw [length_interleave (length_of_mem_codewords lawful hlen), codewords_eq hlen]
  simp

/-- The frame survives when every codeword has at most sixteen changed symbols. -/
theorem restore_frame_of_changed {codec : ReedSolomonCodec} (lawful : codec.Lawful)
    {context : ProtocolContext} (h : context.Valid) {frame received : List UInt8}
    (hlen : frame.length = (capacity_of context h).frame_bytes)
    (hreceived : received.length = 255 * (capacity_of context h).block_count)
    (hchanged : ∀ b < (capacity_of context h).block_count,
      changed_symbols
        (stride b (capacity_of context h).block_count (interleave 255 (codewords codec frame)))
        (stride b (capacity_of context h).block_count received) ≤ 16) :
    restore_frame codec received context = .ok frame := by
  set blocks := (capacity_of context h).block_count with hblocks
  have hframe : frame.length = blocks * 223 := hlen
  have hdecode : ∀ b ∈ List.range blocks,
      codec.decode (stride b blocks received) = some (frame_block frame b) := by
    intro b hb
    have hb' : b < blocks := List.mem_range.mp hb
    refine lawful.decode_changed _ _ (length_frame_block hframe hb') ?_ ?_
    · exact (stride_spec hreceived hb').1
    · rw [← stride_codewords lawful hframe hb']
      exact hchanged b hb'
  rw [restore_frame, calculate_capacity_of_valid h]
  simp only [bind, Except.bind, pure, Except.pure]
  rw [if_neg (by rw [hreceived, protected_bits_eq, ← hblocks]; omega), ← hblocks,
    mapM_eq_some_of_forall hdecode]
  simp only [flatten_frame_blocks hframe]

end StegoLab

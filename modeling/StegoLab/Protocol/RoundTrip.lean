import StegoLab.Protocol.Frame
import StegoLab.Protocol.ReedSolomon
import StegoLab.Protocol.PayloadMap

/-!
# Messages through a damaged map

Encoding a message, repeating its protected bits over an image and reading them back returns the
message as long as no codeword has more than sixteen symbols with an outvoted bit.
-/

namespace StegoLab

open Bits Interleaving Repetition
open Utf8 (CodePoint)

/-- Return protected frame bytes. -/
def encode_message (sealing : Sealing) (codec : ReedSolomonCodec) (message password : List CodePoint)
    (context : ProtocolContext) (salt nonce : List UInt8) : Except Raised (List UInt8) := do
  let frame ← create_frame sealing message password context salt nonce
  protect_frame codec frame context

/-- Correct and authenticate a frame before returning the exact message. -/
def decode_message (sealing : Sealing) (codec : ReedSolomonCodec) (protected_bytes : List UInt8)
    (password : List CodePoint) (context : ProtocolContext) : Except Raised (List CodePoint) := do
  let frame ← restore_frame codec protected_bytes context
  recover_frame sealing frame password context

/-! ### Damage -/

/-- Whether the copies of bit `j` no longer vote for its value. -/
def outvoted (bits flat : List UInt8) (j : ℕ) : Bool :=
  vote flat bits.length j != decide (bits[j]? = some 1)

/-- The symbols of codeword `block` that contain an outvoted bit. -/
def damaged_symbols (bits flat : List UInt8) (block_count block : ℕ) : ℕ :=
  (List.range 255).countP fun c =>
    (List.range 8).any fun k => outvoted bits flat (8 * (c * block_count + block) + k)

/-- The copies of an undamaged map vote for every bit. -/
lemma outvoted_resize {bits : List UInt8} (hbits : ∀ bit ∈ bits, bit ≤ 1) {n : ℕ}
    (hn : bits.length ≤ n) {j : ℕ} (hj : j < bits.length) :
    outvoted bits (resize bits n) j = false := by
  have hlen : (resize bits n).length = n := by simp [resize]
  have hcopy : ∀ p ∈ copies n bits.length j, (resize bits n)[p]? = some bits[j] := by
    intro p hp
    obtain ⟨hlt, hmod⟩ := mem_copies.mp hp
    rw [resize, List.getElem?_map, List.getElem?_range hlt, Option.map_some, hmod,
      List.getD_eq_getElem?_getD, List.getElem?_eq_getElem hj, Option.getD_some]
  have hpos : 0 < (copies n bits.length j).card :=
    Finset.card_pos.mpr ⟨j, mem_copies.mpr ⟨by omega, Nat.mod_eq_of_lt hj⟩⟩
  rw [outvoted, bne_eq_false_iff_eq, vote, hlen, List.getElem?_eq_getElem hj, decide_eq_decide]
  by_cases hone : bits[j] = 1
  · rw [votes, Finset.filter_false_of_mem fun p hp => by simp [hcopy p hp, hone], votes,
      Finset.filter_true_of_mem fun p hp => by rw [hcopy p hp, hone]]
    simpa [hone] using hpos
  · rw [votes, votes, Finset.filter_false_of_mem (p := fun p => (resize bits n)[p]? = some 1)
      fun p hp => by simp [hcopy p hp, hone]]
    simp [hone]

lemma resize_le_one {bits : List UInt8} (hbits : ∀ bit ∈ bits, bit ≤ 1) {n : ℕ} :
    ∀ bit ∈ resize bits n, bit ≤ 1 := by
  intro bit hbit
  obtain ⟨p, -, rfl⟩ := List.mem_map.mp hbit
  rw [List.getD_eq_getElem?_getD]
  cases hget : bits[p % bits.length]? with
  | none => decide
  | some value => exact hbits value (List.mem_of_getElem? hget)

lemma damaged_symbols_resize {bytes : List UInt8} {blocks block n : ℕ}
    (hlen : bytes.length = 255 * blocks) (hb : block < blocks) (hn : bytes.length * 8 ≤ n) :
    damaged_symbols (unpackbits bytes) (resize (unpackbits bytes) n) blocks block = 0 := by
  rw [damaged_symbols, List.countP_eq_zero]
  intro c hc hdamaged
  obtain ⟨k, hk, hout⟩ := List.any_eq_true.mp hdamaged
  have hbyte : (c + 1) * blocks ≤ 255 * blocks :=
    Nat.mul_le_mul_right blocks (List.mem_range.mp hc)
  rw [Nat.succ_mul] at hbyte
  have hk : k < 8 := List.mem_range.mp hk
  rw [outvoted_resize (unpackbits_le_one bytes) (by simpa using hn)
    (by rw [length_unpackbits]; omega)] at hout
  exact Bool.false_ne_true hout

/-- The bytes that the votes of the copies spell. -/
def voted_bytes (flat : List UInt8) (L : ℕ) : List UInt8 :=
  packbits ((List.range L).map (vote flat L))

lemma length_voted_bytes (flat : List UInt8) {bytes : List UInt8} {L : ℕ}
    (hL : bytes.length * 8 = L) : (voted_bytes flat L).length = bytes.length := by
  rw [voted_bytes, length_packbits, List.length_map, List.length_range]
  omega

/-- A byte without an outvoted bit is read back. -/
lemma getElem?_voted_bytes {bytes flat : List UInt8} {i : ℕ} (hi : i < bytes.length)
    (hvote : ∀ k < 8, outvoted (unpackbits bytes) flat (8 * i + k) = false) :
    (voted_bytes flat (bytes.length * 8))[i]? = bytes[i]? := by
  refine getElem?_packbits (by simp) hi fun k hk => ?_
  have hj : 8 * i + k < bytes.length * 8 := by omega
  have hbit := hvote k hk
  rw [outvoted, length_unpackbits, getElem?_unpackbits bytes hi hk, bne_eq_false_iff_eq] at hbit
  rw [List.getElem?_map, List.getElem?_range hj, Option.map_some, hbit]
  simp

/-- Every changed symbol of a codeword contains an outvoted bit. -/
lemma changed_symbols_le_damaged {bytes flat : List UInt8} {blocks block : ℕ}
    (hlen : bytes.length = 255 * blocks) (hb : block < blocks) :
    changed_symbols (stride block blocks bytes)
        (stride block blocks (voted_bytes flat (bytes.length * 8)))
      ≤ damaged_symbols (unpackbits bytes) flat blocks block := by
  have hvoted := (length_voted_bytes flat (rfl : bytes.length * 8 = _)).trans hlen
  rw [changed_symbols_stride hlen hvoted hb, damaged_symbols]
  refine List.countP_mono_left fun c hc hchanged => ?_
  have hbyte : c * blocks + block < bytes.length := by
    have : (c + 1) * blocks ≤ 255 * blocks := Nat.mul_le_mul_right blocks (List.mem_range.mp hc)
    rw [Nat.succ_mul] at this
    omega
  by_contra hkept
  rw [Bool.not_eq_true, List.any_eq_false] at hkept
  have hread : (voted_bytes flat (bytes.length * 8))[c * blocks + block]?
      = bytes[c * blocks + block]? :=
    getElem?_voted_bytes hbyte fun k hk =>
      Bool.eq_false_iff.mpr (hkept k (List.mem_range.mpr hk))
  rw [decide_eq_true_eq] at hchanged
  exact hchanged hread.symm

/-! ### Round trip -/

section RoundTrip

variable {sealing : Sealing} {codec : ReedSolomonCodec} {context : ProtocolContext}

/-- Bytes whose codewords are damaged in at most sixteen symbols restore the frame. -/
lemma restore_frame_of_votes (lawful : codec.Lawful) (h : context.Valid) {frame flat : List UInt8}
    (hlen : frame.length = (capacity_of context h).frame_bytes)
    (hdamage : ∀ block < (capacity_of context h).block_count,
      damaged_symbols (unpackbits (interleave 255 (codewords codec frame))) flat
        (capacity_of context h).block_count block ≤ 16) :
    restore_frame codec (voted_bytes flat (capacity_of context h).protected_bits) context
      = .ok frame := by
  have hbytes := length_protected lawful (hlen.trans (frame_bytes_eq h))
  have hbits : (interleave 255 (codewords codec frame)).length * 8
      = (capacity_of context h).protected_bits := by
    rw [hbytes, protected_bits_eq]
    ring
  refine restore_frame_of_changed lawful h hlen ?_ fun block hb => ?_
  · exact (length_voted_bytes flat hbits).trans hbytes
  · rw [← hbits]
    exact (changed_symbols_le_damaged hbytes hb).trans (hdamage block hb)

/-- A message that fits is encoded, mapped and recovered exactly from every map of hard bits that
leaves each codeword with at most sixteen damaged symbols. -/
theorem decode_message_of_damaged_map (hsealing : sealing.Lawful) (hcodec : codec.Lawful)
    (h : context.Valid) {message password : List CodePoint}
    {encoded password_data salt nonce : List UInt8}
    (hencode : Utf8.encode message = some encoded)
    (hfits : encoded.length ≤ (capacity_of context h).maximum_message_bytes)
    (hpassword : password_bytes password = .ok password_data)
    (hsalt : salt.length = SALT_BYTES) (hnonce : nonce.length = NONCE_BYTES) :
    ∃ protected_bytes map,
      encode_message sealing codec message password context salt nonce = .ok protected_bytes ∧
      protected_bytes.length * 8 = (capacity_of context h).protected_bits ∧
      create_payload_map protected_bytes context = .ok map ∧
      map.shape = [1, context.height, context.width] ∧
      map.data = .uint8 (resize (unpackbits protected_bytes) (context.width * context.height)) ∧
      ∀ (damaged : NDArray) (flat : List UInt8), damaged.shape = map.shape →
        damaged.data = .uint8 flat → (∀ value ∈ flat, value ≤ 1) →
        (∀ block < (capacity_of context h).block_count,
          damaged_symbols (unpackbits protected_bytes) flat (capacity_of context h).block_count block
            ≤ 16) →
        ∃ received, recover_payload_bytes damaged context = .ok received ∧
          decode_message sealing codec received password context = .ok message := by
  obtain ⟨frame, hcreate, hlen, hrecover⟩ :=
    recover_frame_of_create hsealing h hencode hfits hpassword hsalt hnonce
  have hbytes := length_protected hcodec (hlen.trans (frame_bytes_eq h))
  have hbits : (interleave 255 (codewords codec frame)).length * 8
      = (capacity_of context h).protected_bits := by
    rw [hbytes, protected_bits_eq]
    ring
  obtain ⟨map, hmap, hshape, hdata⟩ := create_payload_map_eq h hbits
  refine ⟨_, map, ?_, hbits, hmap, hshape, hdata, fun damaged flat hdamaged hflat hle hdamage => ?_⟩
  · rw [encode_message, hcreate]
    exact protect_frame_eq h hlen
  · refine ⟨_, recover_payload_bytes_uint8 h (hdamaged.trans hshape) hflat hle, ?_⟩
    have hrestore := restore_frame_of_votes hcodec h hlen hdamage
    rw [voted_bytes] at hrestore
    rw [decode_message, hrestore]
    exact hrecover

/-- The message "hi" in the smallest image, read back from its own map. -/
theorem decode_message_hi :
    ∃ protected_bytes map received,
      encode_message clear_sealing evaluation_codec [.scalar 'h', .scalar 'i'] [.scalar 'p']
        ⟨512, 512, 1, "test_only_v1", "public_fixture_v1"⟩ (List.replicate 16 7)
        (List.replicate 24 9) = .ok protected_bytes ∧
      create_payload_map protected_bytes ⟨512, 512, 1, "test_only_v1", "public_fixture_v1"⟩
        = .ok map ∧
      recover_payload_bytes map ⟨512, 512, 1, "test_only_v1", "public_fixture_v1"⟩
        = .ok received ∧
      decode_message clear_sealing evaluation_codec received [.scalar 'p']
        ⟨512, 512, 1, "test_only_v1", "public_fixture_v1"⟩ = .ok [.scalar 'h', .scalar 'i'] := by
  have h : (⟨512, 512, 1, "test_only_v1", "public_fixture_v1"⟩ : ProtocolContext).Valid := by decide
  have hfits : 2 ≤ (capacity_of _ h).maximum_message_bytes :=
    le_trans (by decide) (capacity_of _ h).maximum_message_bytes_range.1
  obtain ⟨bytes, map, hencode, hbits, hmap, hshape, hdata, hdecode⟩ :=
    @decode_message_of_damaged_map clear_sealing evaluation_codec _ clear_sealing_lawful
      evaluation_codec_lawful h [.scalar 'h', .scalar 'i'] [.scalar 'p'] _ _ (List.replicate 16 7)
      (List.replicate 24 9) rfl hfits rfl rfl rfl
  have hlen : bytes.length = 255 * (capacity_of _ h).block_count := by
    rw [protected_bits_eq] at hbits
    omega
  obtain ⟨received, hreceived, hmessage⟩ := hdecode map _ rfl hdata
    (resize_le_one (unpackbits_le_one bytes)) fun block hb => by
      rw [damaged_symbols_resize hlen hb]
      · exact Nat.zero_le _
      · rw [hbits]
        exact (capacity_of _ h).protected_bits_range.2.trans (by decide)
  exact ⟨bytes, map, received, hencode, hmap, hreceived, hmessage⟩

end RoundTrip

end StegoLab

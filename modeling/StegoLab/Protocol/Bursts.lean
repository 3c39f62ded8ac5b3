import StegoLab.Protocol.RoundTrip

/-!
# Bursts

A burst changes a run of consecutive positions. The repetition outvotes every bit whose copies
the run reaches fewer times than half, and the interleaving spreads the bytes of the rest evenly
over the codewords, so a run that is not too long leaves each codeword correctable.
-/

namespace StegoLab

open Bits Interleaving Repetition
open Utf8 (CodePoint)

/-- The longest run of changed positions that the layout of a capacity tolerates. -/
def burst_length (capacity : PayloadCapacity) : ℕ :=
  capacity.protected_bits * ((capacity.minimum_repetitions - 1) / 2)
    + 128 * capacity.block_count - 7

/-- Whether two maps agree outside `length` consecutive positions from `start` on. -/
def ConfinedTo (start length : ℕ) (original flat : List UInt8) : Prop :=
  ∀ p, p < start ∨ start + length ≤ p → flat[p]? = original[p]?

/-! ### Outvoted bits -/

/-- The copies of bit `j` that no longer hold it. -/
def changed_copies (original flat : List UInt8) (L j : ℕ) : Finset ℕ :=
  (copies flat.length L j).filter fun p => flat[p]? ≠ original[p]?

lemma mem_changed_copies {original flat : List UInt8} {L j p : ℕ} :
    p ∈ changed_copies original flat L j
      ↔ p ∈ copies flat.length L j ∧ flat[p]? ≠ original[p]? := by
  rw [changed_copies, Finset.mem_filter]

/-- A copy of bit `j` in an undamaged map. -/
lemma getElem?_resize {bits : List UInt8} {n j p : ℕ} (hj : j < bits.length)
    (hp : p ∈ copies n bits.length j) : (resize bits n)[p]? = some bits[j] := by
  obtain ⟨hlt, hmod⟩ := mem_copies.mp hp
  rw [resize, List.getElem?_map, List.getElem?_range hlt, Option.map_some, hmod,
    List.getD_eq_getElem?_getD, List.getElem?_eq_getElem hj, Option.getD_some]

/-- An outvoted bit has lost at least half of its copies. -/
lemma card_changed_copies {bits flat : List UInt8} {j : ℕ} (hj : j < bits.length)
    (houtvoted : outvoted bits flat j = true) :
    flat.length / bits.length
      ≤ 2 * (changed_copies (resize bits flat.length) flat bits.length j).card := by
  set changed := changed_copies (resize bits flat.length) flat bits.length j with hchanged
  have hcopies : flat.length / bits.length ≤ (copies flat.length bits.length j).card := by
    rw [card_copies hj, repetitions]
    exact Nat.le_add_right _ _
  have htotal := votes_add_votes_not flat.length bits.length j (fun p => flat[p]? = some 1)
  have hsub {v : ℕ → Prop} [DecidablePred v] (hv : ∀ p, v p → flat[p]? ≠ some bits[j]) :
      votes flat.length bits.length j v ≤ changed.card := by
    refine Finset.card_le_card fun p hp => ?_
    obtain ⟨hcopy, hvote⟩ := Finset.mem_filter.mp hp
    refine mem_changed_copies.mpr ⟨hcopy, ?_⟩
    rw [getElem?_resize hj hcopy]
    exact hv p hvote
  rw [outvoted, bne_iff_ne, ne_eq, vote, List.getElem?_eq_getElem hj, decide_eq_decide,
    Option.some_inj] at houtvoted
  by_cases hone : bits[j] = 1
  · have hlost := hsub (v := fun p => ¬ flat[p]? = some 1) fun p hp => by rwa [hone]
    simp only [hone, iff_true] at houtvoted
    omega
  · have hlost := hsub (v := fun p => flat[p]? = some 1) fun p hp heq =>
      hone (Option.some_inj.mp (heq.symm.trans hp))
    simp only [hone, iff_false, not_not] at houtvoted
    omega

/-! ### Damaged symbols -/

lemma countP_range_eq_card (n : ℕ) (p : ℕ → Bool) :
    (List.range n).countP p = ((Finset.range n).filter fun c => p c = true).card := by
  induction n with
  | zero => rfl
  | succ n ih =>
    rw [List.range_succ, List.countP_append, ih, Finset.range_add_one, Finset.filter_insert]
    cases hp : p n with
    | false => simp [hp]
    | true =>
      rw [if_pos rfl, Finset.card_insert_of_notMem (by simp)]
      simp [hp]

/-- The bytes of a run of surplus positions cover few symbols of each codeword. -/
lemma card_reached_symbols {B block length : ℕ} (start : ℕ) (hblock : block < B)
    (hlength : length ≤ 128 * B - 7) {reached : Finset ℕ}
    (hreached : ∀ c ∈ reached, ∃ p, start ≤ p ∧ p < start + length ∧
      p % (8 * (255 * B)) / 8 = c * B + block) : reached.card ≤ 16 := by
  have hsub : reached ⊆ ((Finset.Ico (start / 8) (start / 8 + 16 * B)).filter
      fun m => m % B = block).image fun m => m % (255 * B) / B := by
    intro c hc
    obtain ⟨p, hstart, hstop, hbyte⟩ := hreached c hc
    rw [Nat.mod_mul_right_div_self] at hbyte
    refine Finset.mem_image.mpr ⟨p / 8, Finset.mem_filter.mpr ⟨Finset.mem_Ico.mpr ?_, ?_⟩, ?_⟩
    · omega
    · calc p / 8 % B = p / 8 % (255 * B) % B := (Nat.mod_mul_left_mod ..).symm
        _ = block := by rw [hbyte, Nat.mul_add_mod_self_right, Nat.mod_eq_of_lt hblock]
    · rw [hbyte, Nat.mul_comm, Nat.mul_add_div (by omega), Nat.div_eq_of_lt hblock, Nat.add_zero]
  calc reached.card ≤ _ := Finset.card_le_card hsub
    _ ≤ _ := Finset.card_image_le
    _ ≤ 16 := card_residue_window (by omega) 16 _ _

/-- A burst damages at most sixteen symbols of each codeword. -/
lemma damaged_symbols_of_burst {bytes flat : List UInt8} {B block start length : ℕ}
    (hbytes : bytes.length = 255 * B) (hblock : block < B)
    (hconfined : ConfinedTo start length (resize (unpackbits bytes) flat.length) flat)
    (hrows : 1 ≤ flat.length / (bytes.length * 8))
    (hlength : length ≤ bytes.length * 8 * ((flat.length / (bytes.length * 8) - 1) / 2)
      + 128 * B - 7) :
    damaged_symbols (unpackbits bytes) flat B block ≤ 16 := by
  set q := (flat.length / (bytes.length * 8) - 1) / 2 with hq
  rw [damaged_symbols, countP_range_eq_card]
  have hsurplus : length - bytes.length * 8 * q ≤ 128 * B - 7 := by omega
  refine card_reached_symbols start hblock hsurplus fun c hc => ?_
  obtain ⟨hc, hany⟩ := Finset.mem_filter.mp hc
  obtain ⟨k, hk, houtvoted⟩ := List.any_eq_true.mp hany
  have hk : k < 8 := List.mem_range.mp hk
  have hc : c < 255 := Finset.mem_range.mp hc
  have hbyte : c * B + block < 255 * B := by
    calc c * B + block < c * B + B := by omega
      _ = (c + 1) * B := by ring
      _ ≤ 255 * B := Nat.mul_le_mul_right B hc
  have hj : 8 * (c * B + block) + k < (unpackbits bytes).length := by
    rw [length_unpackbits]
    omega
  -- The first changed copy of the outvoted bit lies in the surplus of the run.
  have hlost := card_changed_copies hj houtvoted
  rw [length_unpackbits] at hlost
  set changed := changed_copies (resize (unpackbits bytes) flat.length) flat (bytes.length * 8)
    (8 * (c * B + block) + k)
  have hcopies : changed ⊆ copies flat.length (bytes.length * 8) (8 * (c * B + block) + k) :=
    fun p hp => (mem_changed_copies.mp hp).1
  have hwindow : ∀ p ∈ changed, start ≤ p ∧ p < start + length := by
    intro p hp
    by_contra hout
    exact (mem_changed_copies.mp hp).2 (hconfined p (by omega))
  have hcard : q < changed.card := by omega
  obtain ⟨p, hp, hstart, hstop⟩ := exists_first_copy hcopies hwindow hcard
  obtain ⟨hcopy, -⟩ := mem_changed_copies.mp hp
  have hmod := (mem_copies.mp hcopy).2
  refine ⟨p, hstart, by omega, ?_⟩
  rw [show 8 * (255 * B) = bytes.length * 8 by omega, hmod]
  omega

/-! ### Messages -/

section Messages

variable {sealing : Sealing} {codec : ReedSolomonCodec} {context : ProtocolContext}

/-- What an encoded message is made of. -/
lemma encode_message_eq_ok {message password : List CodePoint}
    {salt nonce protected_bytes : List UInt8}
    (h : encode_message sealing codec message password context salt nonce = .ok protected_bytes) :
    ∃ frame, create_frame sealing message password context salt nonce = .ok frame ∧
      protect_frame codec frame context = .ok protected_bytes := by
  rw [encode_message] at h
  exact bind_eq_ok.mp h

/-- A message that fits is encoded into a map of hard bits. -/
lemma exists_map_of_fits (hsealing : sealing.Lawful) (hcodec : codec.Lawful) (h : context.Valid)
    {message password : List CodePoint} {encoded password_data salt nonce : List UInt8}
    (hutf8 : Utf8.encode message = some encoded)
    (hfits : encoded.length ≤ (capacity_of context h).maximum_message_bytes)
    (hpassword : password_bytes password = .ok password_data)
    (hsalt : salt.length = SALT_BYTES) (hnonce : nonce.length = NONCE_BYTES) :
    ∃ protected_bytes map,
      encode_message sealing codec message password context salt nonce = .ok protected_bytes ∧
      create_payload_map protected_bytes context = .ok map ∧
      map.data = .uint8 (resize (unpackbits protected_bytes) (context.width * context.height)) := by
  obtain ⟨frame, hcreate, hframe, -⟩ :=
    recover_frame_of_create hsealing h hutf8 hfits hpassword hsalt hnonce
  have hbytes := length_protected hcodec (hframe.trans (frame_bytes_eq h))
  obtain ⟨map, hmap, -, hdata⟩ := create_payload_map_eq h
    (by rw [hbytes, protected_bits_eq]; ring :
      (interleave 255 (codewords codec frame)).length * 8 = _)
  refine ⟨_, map, ?_, hmap, hdata⟩
  rw [encode_message, hcreate]
  exact protect_frame_eq h hframe

/-- A message is recovered exactly from every map whose changes are confined to one run of
positions, wherever it starts, that is not longer than the layout tolerates. -/
theorem decode_message_of_burst (hsealing : sealing.Lawful) (hcodec : codec.Lawful)
    {message password : List CodePoint} {salt nonce protected_bytes original flat : List UInt8}
    {map damaged : NDArray} {capacity : PayloadCapacity} {start length : ℕ}
    (hsalt : salt.length = SALT_BYTES) (hnonce : nonce.length = NONCE_BYTES)
    (hencode : encode_message sealing codec message password context salt nonce
      = .ok protected_bytes)
    (hmap : create_payload_map protected_bytes context = .ok map)
    (hcapacity : calculate_capacity context = .ok capacity)
    (horiginal : map.data = .uint8 original)
    (hshape : damaged.shape = map.shape) (hdata : damaged.data = .uint8 flat)
    (hbits : ∀ value ∈ flat, value ≤ 1)
    (hconfined : ConfinedTo start length original flat)
    (hlength : length ≤ burst_length capacity) :
    ∃ received, recover_payload_bytes damaged context = .ok received ∧
      decode_message sealing codec received password context = .ok message := by
  obtain ⟨frame, hcreate, hprotect⟩ := encode_message_eq_ok hencode
  obtain ⟨h, encoded, password_data, _, hutf8, hfits, hpassword, -, -⟩ := create_frame_eq_ok hcreate
  obtain ⟨_, hcreate', hframe, hrecover⟩ :=
    recover_frame_of_create hsealing h hutf8 hfits hpassword hsalt hnonce
  obtain rfl := Except.ok.inj (hcreate.symm.trans hcreate')
  obtain rfl := Except.ok.inj ((protect_frame_eq h hframe).symm.trans hprotect)
  obtain rfl := Except.ok.inj ((calculate_capacity_of_valid h).symm.trans hcapacity)
  have hbytes := length_protected hcodec (hframe.trans (frame_bytes_eq h))
  set bytes := interleave 255 (codewords codec frame)
  have hL : bytes.length * 8 = (capacity_of context h).protected_bits := by
    rw [hbytes, protected_bits_eq]
    ring
  obtain ⟨_, hmap', hmapshape, hmapdata⟩ := create_payload_map_eq h hL
  obtain rfl := Except.ok.inj (hmap.symm.trans hmap')
  obtain rfl := ArrayData.uint8.inj (horiginal.symm.trans hmapdata)
  have hsize : flat.length = context.width * context.height := by
    have hprod := damaged.size_eq
    rw [hdata, hshape, hmapshape] at hprod
    simpa [ArrayData.size, Nat.mul_comm] using hprod
  rw [← hsize] at hconfined
  have hrepetitions : flat.length / (bytes.length * 8)
      = (capacity_of context h).minimum_repetitions := by
    rw [hsize, hL]
    rfl
  refine ⟨_, recover_payload_bytes_uint8 h (hshape.trans hmapshape) hdata hbits, ?_⟩
  have hrestore := restore_frame_of_votes hcodec h hframe fun block hblock =>
    damaged_symbols_of_burst hbytes hblock hconfined
      (hrepetitions ▸ (capacity_of context h).minimum_repetitions_range)
      (by rw [hrepetitions, hL]; exact hlength)
  rw [voted_bytes] at hrestore
  rw [decode_message, hrestore]
  exact hrecover

/-- The values with a run of positions set to zero. -/
def erase_run (start length : ℕ) (flat : List UInt8) : List UInt8 :=
  flat.mapIdx fun p value => if start ≤ p ∧ p < start + length then 0 else value

lemma confinedTo_erase_run (start length : ℕ) (flat : List UInt8) :
    ConfinedTo start length flat (erase_run start length flat) := by
  intro p hp
  have hout : ¬ (start ≤ p ∧ p < start + length) := by omega
  simp only [erase_run, List.getElem?_mapIdx, if_neg hout, Option.map_id']

lemma erase_run_le_one {flat : List UInt8} (hbits : ∀ value ∈ flat, value ≤ 1) (start length : ℕ) :
    ∀ value ∈ erase_run start length flat, value ≤ 1 := by
  intro value hvalue
  obtain ⟨p, hp, rfl⟩ := List.mem_mapIdx.mp hvalue
  split_ifs
  · decide
  · exact hbits _ (List.getElem_mem hp)

/-- The map of "hi" in the smallest image, with the longest run from position 100 on erased. -/
theorem decode_message_hi_erased :
    ∃ (protected_bytes received original : List UInt8) (map damaged : NDArray),
      encode_message clear_sealing evaluation_codec [.scalar 'h', .scalar 'i'] [.scalar 'p']
        ⟨512, 512, 1, "test_only_v1", "public_fixture_v1"⟩ (List.replicate 16 7)
        (List.replicate 24 9) = .ok protected_bytes ∧
      create_payload_map protected_bytes ⟨512, 512, 1, "test_only_v1", "public_fixture_v1"⟩
        = .ok map ∧
      map.data = .uint8 original ∧ damaged.data = .uint8 (erase_run 100 126729 original) ∧
      recover_payload_bytes damaged ⟨512, 512, 1, "test_only_v1", "public_fixture_v1"⟩
        = .ok received ∧
      decode_message clear_sealing evaluation_codec received [.scalar 'p']
        ⟨512, 512, 1, "test_only_v1", "public_fixture_v1"⟩ = .ok [.scalar 'h', .scalar 'i'] := by
  have h : (⟨512, 512, 1, "test_only_v1", "public_fixture_v1"⟩ : ProtocolContext).Valid := by decide
  have hfits : 2 ≤ (capacity_of _ h).maximum_message_bytes :=
    le_trans (by decide) (capacity_of _ h).maximum_message_bytes_range.1
  obtain ⟨bytes, map, hencode, hmap, hdata⟩ :=
    @exists_map_of_fits clear_sealing evaluation_codec _ clear_sealing_lawful
      evaluation_codec_lawful h [.scalar 'h', .scalar 'i'] [.scalar 'p'] _ _ (List.replicate 16 7)
      (List.replicate 24 9) rfl hfits rfl rfl rfl
  set original := resize (unpackbits bytes) (512 * 512)
  have hsize : (ArrayData.uint8 (erase_run 100 126729 original)).size = map.shape.prod := by
    rw [← map.size_eq, hdata, ArrayData.size, ArrayData.size, erase_run, List.length_mapIdx]
  obtain ⟨received, hreceived, hmessage⟩ := @decode_message_of_burst clear_sealing
    evaluation_codec ⟨512, 512, 1, "test_only_v1", "public_fixture_v1"⟩ clear_sealing_lawful
    evaluation_codec_lawful [.scalar 'h', .scalar 'i'] [.scalar 'p'] (List.replicate 16 7)
    (List.replicate 24 9) bytes original (erase_run 100 126729 original) map
    ⟨map.shape, .uint8 (erase_run 100 126729 original), hsize⟩ (capacity_of _ h) 100 126729 rfl rfl
    hencode hmap (calculate_capacity_of_valid h) hdata rfl rfl
    (erase_run_le_one (resize_le_one (unpackbits_le_one bytes)) 100 126729)
    (confinedTo_erase_run 100 126729 original) (by decide +revert)
  exact ⟨bytes, received, original, map, ⟨map.shape, _, hsize⟩, hencode, hmap, hdata, rfl,
    hreceived, hmessage⟩

end Messages

end StegoLab

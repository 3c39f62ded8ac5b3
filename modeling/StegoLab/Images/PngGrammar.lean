import StegoLab.Images.PngHeader
import StegoLab.Protocol.Authenticity

/-!
# The grammar of PNG images

What the bytes of an accepted image are, as a list of chunks, and how the scan reads that list back
from the bytes.
-/

namespace StegoLab

/-! ### Chunks as bytes -/

section Bytes

variable (crc32 : List UInt8 → UInt32)

/-- The length, the name, the content and the checksum of a chunk. -/
def PngChunk.bytes (chunk : PngChunk) : List UInt8 :=
  big_endian 4 chunk.content.length ++ (chunk.name ++ (chunk.content
    ++ big_endian 4 (crc32 (chunk.name ++ chunk.content)).toNat))

def chunk_bytes (chunks : List PngChunk) : List UInt8 :=
  chunks.flatMap fun chunk => chunk.bytes crc32

end Bytes

/-- A name of four letters with a capital third one, and a length that four bytes can hold. -/
structure PngChunk.Framed (chunk : PngChunk) : Prop where
  length_name : chunk.name.length = 4
  letters : ∀ value ∈ chunk.name, is_letter value = true
  reserved : is_capital (chunk.name.getD 2 0) = true
  length_content : chunk.content.length < 256 ^ 4

def PngChunk.Critical (chunk : PngChunk) : Prop :=
  is_capital (chunk.name.getD 0 0) = true

instance (chunk : PngChunk) : Decidable chunk.Critical :=
  inferInstanceAs (Decidable (_ = _))

/-! ### Contents -/

/-- The fields of a header that is supported. -/
structure ValidHeader (policy : ImagePolicy) (content : List UInt8) : Prop where
  length : content.length = 13
  dimensions : policy.Allows (unpack_header content).width (unpack_header content).height
  depth : (unpack_header content).depth = 8
  color_type : (unpack_header content).color_type ∈ color_types policy
  compression : (unpack_header content).compression = 0
  filtering : (unpack_header content).filtering = 0
  interlace : (unpack_header content).interlace = 0 ∨ (unpack_header content).interlace = 1

/-- A printable Latin-1 name without spaces that lead, trail or follow each other. -/
structure ProfileName (name : List UInt8) : Prop where
  length : 1 ≤ name.length ∧ name.length ≤ 79
  printable : ∀ value ∈ name, (32 ≤ value ∧ value ≤ 126) ∨ 161 ≤ value
  head : name.head? ≠ some 0x20
  last : name.getLast? ≠ some 0x20
  single : ¬ [0x20, 0x20] <:+: name

variable {ε : Type} {zlib : Decompressor ε} (Stream : List UInt8 → List UInt8 → Prop)
  (policy : ImagePolicy)

/-- A profile name, its separator, the compression method and a profile of at most 1 MiB. -/
def ValidProfile (content : List UInt8) : Prop :=
  ∃ name compressed profile, content = name ++ 0 :: 0 :: compressed ∧ ProfileName name ∧
    Stream compressed profile ∧ profile.length ≤ 1024 * 1024

/-- The content is right for the name, where the name says anything about it. -/
structure WellFormed (chunk : PngChunk) : Prop where
  palette : chunk.name = PLTE →
    (0 < chunk.content.length ∧ chunk.content.length ≤ 768) ∧ chunk.content.length % 3 = 0
  profile : chunk.name = iCCP → ValidProfile Stream chunk.content
  standard : chunk.name = sRGB → chunk.content.length = 1 ∧ chunk.content.getD 0 0 ≤ 3
  gamma : chunk.name = gAMA → chunk.content.length = 4 ∧ chunk.content ≠ [0, 0, 0, 0]
  chromaticities : chunk.name = cHRM → chunk.content.length = 32

/-! ### The grammar -/

/-- The names of chunks that occur once at most, and before the pixels. -/
def DECLARATIONS : List (List UInt8) := [PLTE, iCCP, sRGB, gAMA, cHRM]

def UNSUPPORTED : List (List UInt8) := [acTL, fcTL, fdAT, tRNS, cICP]

def chunk_names (chunks : List PngChunk) : List (List UInt8) :=
  chunks.map PngChunk.name

/-- The data of the pixels, chunk by chunk. -/
def pixel_data (chunks : List PngChunk) : List (List UInt8) :=
  (chunks.filter fun chunk => chunk.name = IDAT).map PngChunk.content

/-- The bytes that the pixels of a header take. -/
def header_bytes (content : List UInt8) : ℕ :=
  expected_bytes (unpack_header content).width (unpack_header content).height
    (color_channels (unpack_header content).color_type) (unpack_header content).interlace

/-- The chunks of an accepted image. -/
structure Grammar (validate_pixels : Bool) (chunks : List PngChunk) : Prop where
  framed : ∀ chunk ∈ chunks, chunk.Framed
  critical : ∀ chunk ∈ chunks, chunk.Critical → chunk.name ∈ CRITICAL_NAMES
  header : ∃ header rest, chunks = header :: rest ∧ header.name = IHDR ∧
    IHDR ∉ chunk_names rest ∧ ValidHeader policy header.content ∧
    -- The pixels fill the scanlines of the header.
    (validate_pixels = true → ∃ pixels, Stream (pixel_data chunks).flatten pixels ∧
      pixels.length = header_bytes header.content)
  last : ∃ front last, chunks = front ++ [last] ∧ last.name = IEND ∧ last.content = [] ∧
    IEND ∉ chunk_names front
  pixels : ∃ before pixels after, chunks = before ++ pixels ++ after ∧ pixels ≠ [] ∧
    (∀ chunk ∈ pixels, chunk.name = IDAT) ∧ IDAT ∉ chunk_names before ∧ IDAT ∉ chunk_names after
  once : ∀ name ∈ DECLARATIONS, (chunk_names chunks).count name ≤ 1
  early : ∀ before chunk after, chunks = before ++ chunk :: after → chunk.name ∈ DECLARATIONS →
    IDAT ∉ chunk_names before
  wellFormed : ∀ chunk ∈ chunks, WellFormed Stream chunk
  supported : ∀ name ∈ UNSUPPORTED, name ∉ chunk_names chunks
  declared : gAMA ∈ chunk_names chunks ∨ cHRM ∈ chunk_names chunks →
    iCCP ∈ chunk_names chunks ∨ sRGB ∈ chunk_names chunks

/-! ### Reading chunks back -/

section Reading

variable {crc32 : List UInt8 → UInt32} {rest next : List UInt8} {chunk : PngChunk}

lemma from_bytes_lt (bytes : List UInt8) : from_bytes bytes < 256 ^ bytes.length := by
  induction bytes using List.reverseRecOn with
  | nil => simp [from_bytes]
  | append_singleton bytes byte ih =>
    rw [from_bytes_append_singleton, List.length_append, List.length_singleton, pow_succ]
    have := byte.toNat_lt
    omega

lemma valid_name_iff : valid_name chunk.name = true ∧ chunk.content.length < 256 ^ 4 ↔
    chunk.Framed ∧ (chunk.Critical → chunk.name ∈ CRITICAL_NAMES) := by
  unfold valid_name PngChunk.Critical
  constructor
  · rintro ⟨h, hcontent⟩
    simp only [Bool.and_eq_true, decide_eq_true_eq, List.all_eq_true, Bool.not_eq_true',
      Bool.and_eq_false_iff, Bool.not_eq_false'] at h
    obtain ⟨⟨⟨hlength, hletters⟩, hreserved⟩, hcritical⟩ := h
    refine ⟨⟨hlength, hletters, hreserved, hcontent⟩, fun hcapital => ?_⟩
    rcases hcritical with hsmall | hknown
    · exact absurd hcapital (by rw [hsmall]; exact Bool.false_ne_true)
    · exact List.contains_iff_mem.mp hknown
  · rintro ⟨⟨hlength, hletters, hreserved, hcontent⟩, hcritical⟩
    refine ⟨?_, hcontent⟩
    simp only [Bool.and_eq_true, decide_eq_true_eq, List.all_eq_true, Bool.not_eq_true',
      Bool.and_eq_false_iff, Bool.not_eq_false']
    refine ⟨⟨⟨hlength, hletters⟩, hreserved⟩, ?_⟩
    cases hcapital : is_capital (chunk.name.getD 0 0) with
    | false => exact Or.inl rfl
    | true => exact Or.inr (List.contains_iff_mem.mpr (hcritical hcapital))

/-- The fields of bytes that are laid out as a chunk. -/
structure Fields (rest length name content checksum next : List UInt8) : Prop where
  bytes : rest = length ++ (name ++ (content ++ (checksum ++ next)))
  four_length : length.length = 4
  four_name : name.length = 4
  four_checksum : checksum.length = 4

section Fields

variable {length name content checksum : List UInt8}
  (h : Fields rest length name content checksum next)

include h

lemma Fields.length_rest : rest.length = content.length + 12 + next.length := by
  obtain ⟨rfl, hlength, hname, hchecksum⟩ := h
  simp only [List.length_append, hlength, hname, hchecksum]
  omega

lemma Fields.take_length : rest.take 4 = length := by
  obtain ⟨rfl, hlength, -, -⟩ := h
  exact List.take_left' hlength

lemma Fields.drop_length : rest.drop 4 = name ++ (content ++ (checksum ++ next)) := by
  obtain ⟨rfl, hlength, -, -⟩ := h
  exact List.drop_left' hlength

lemma Fields.take_name : (rest.drop 4).take 4 = name := by
  rw [h.drop_length]
  exact List.take_left' h.four_name

lemma Fields.drop_name : rest.drop 8 = content ++ (checksum ++ next) := by
  rw [← List.drop_drop (i := 4) (j := 4), h.drop_length]
  exact List.drop_left' h.four_name

lemma Fields.take_content : (rest.drop 8).take content.length = content := by
  rw [h.drop_name, List.take_left]

lemma Fields.drop_content : rest.drop (content.length + 8) = checksum ++ next := by
  rw [Nat.add_comm, ← List.drop_drop, h.drop_name, List.drop_left]

lemma Fields.take_checksum : (rest.drop (content.length + 8)).take 4 = checksum := by
  rw [h.drop_content]
  exact List.take_left' h.four_checksum

lemma Fields.drop_checksum : rest.drop (content.length + 12) = next := by
  rw [show content.length + 12 = content.length + 8 + 4 from rfl,
    ← List.drop_drop (i := 4) (j := content.length + 8), h.drop_content]
  exact List.drop_left' h.four_checksum

end Fields

/-- Bytes that are long enough for their length field have the fields of a chunk. -/
lemma fields_of_length (hlength : from_bytes (rest.take 4) + 12 ≤ rest.length) :
    Fields rest (rest.take 4) ((rest.drop 4).take 4)
      ((rest.drop 8).take (from_bytes (rest.take 4)))
      ((rest.drop (from_bytes (rest.take 4) + 8)).take 4)
      (rest.drop (from_bytes (rest.take 4) + 12)) where
  bytes := by
    set n := from_bytes (rest.take 4)
    have hchecksum : (rest.drop (n + 8)).take 4 ++ rest.drop (n + 12) = rest.drop (n + 8) := by
      rw [show n + 12 = n + 8 + 4 from rfl, ← List.drop_drop (i := 4) (j := n + 8),
        List.take_append_drop]
    have hcontent : (rest.drop 8).take n ++ rest.drop (n + 8) = rest.drop 8 := by
      rw [Nat.add_comm n, ← List.drop_drop, List.take_append_drop]
    have hname : (rest.drop 4).take 4 ++ rest.drop 8 = rest.drop 4 := by
      rw [show 8 = 4 + 4 from rfl, ← List.drop_drop, List.take_append_drop]
    rw [hchecksum, hcontent, hname, List.take_append_drop]
  four_length := by
    rw [List.length_take]
    omega
  four_name := by
    rw [List.length_take, List.length_drop]
    omega
  four_checksum := by
    rw [List.length_take, List.length_drop]
    omega

/-- A chunk is read back from its bytes. -/
lemma read_chunk_bytes (hframed : chunk.Framed)
    (hcritical : chunk.Critical → chunk.name ∈ CRITICAL_NAMES) :
    (read_chunk crc32 (chunk.bytes crc32 ++ next) : Except (PngException ε) _)
      = .ok (chunk, next) := by
  set checksum := big_endian 4 (crc32 (chunk.name ++ chunk.content)).toNat
  have h : Fields (chunk.bytes crc32 ++ next) (big_endian 4 chunk.content.length) chunk.name
      chunk.content checksum next := by
    refine ⟨?_, length_big_endian _ _, hframed.length_name, length_big_endian _ _⟩
    simp only [PngChunk.bytes, List.append_assoc, checksum]
  have hvalid := (valid_name_iff.mpr ⟨hframed, hcritical⟩).1
  have hlength : from_bytes (big_endian 4 chunk.content.length) = chunk.content.length :=
    from_bytes_big_endian hframed.length_content
  have hchecksum : from_bytes checksum = (crc32 (chunk.name ++ chunk.content)).toNat :=
    from_bytes_big_endian (UInt32.toNat_lt _)
  have hrest := h.length_rest
  unfold read_chunk
  dsimp only
  rw [h.take_length, hlength, h.take_name, h.take_content, h.take_checksum, hchecksum,
    h.drop_checksum]
  simp only [raise_if, hvalid, ne_eq, not_true_eq_false, reduceIte, Bool.true_eq_false]
  rw [if_neg (by omega)]
  rfl

/-- A chunk that is read stands for the bytes that it is read from. -/
lemma of_read_chunk
    (h : (read_chunk crc32 rest : Except (PngException ε) _) = .ok (chunk, next)) :
    rest = chunk.bytes crc32 ++ next ∧ chunk.Framed ∧
      (chunk.Critical → chunk.name ∈ CRITICAL_NAMES) := by
  unfold read_chunk at h
  obtain ⟨_, hlength, h⟩ := bind_eq_ok.mp h
  obtain ⟨_, hvalid, h⟩ := bind_eq_ok.mp h
  obtain ⟨_, hchecksum, h⟩ := bind_eq_ok.mp h
  obtain ⟨rfl, rfl⟩ := Prod.mk.inj (pure_eq_ok.mp h)
  rw [raise_if_eq_ok, not_lt] at hlength
  rw [raise_if_eq_ok, Bool.not_eq_false] at hvalid
  rw [raise_if_eq_ok, not_not] at hchecksum
  have hfields := fields_of_length hlength
  have hcontent : ((rest.drop 8).take (from_bytes (rest.take 4))).length
      = from_bytes (rest.take 4) := by
    rw [List.length_take, List.length_drop]
    omega
  have hfour : from_bytes (rest.take 4) < 256 ^ 4 := by
    have := from_bytes_lt (rest.take 4)
    rwa [hfields.four_length] at this
  refine ⟨?_, valid_name_iff.mp ⟨hvalid, by rwa [hcontent]⟩⟩
  have hlength_bytes : big_endian 4 (from_bytes (rest.take 4)) = rest.take 4 := by
    have := big_endian_from_bytes (rest.take 4)
    rwa [hfields.four_length] at this
  have hchecksum_bytes := big_endian_from_bytes
    ((rest.drop (from_bytes (rest.take 4) + 8)).take 4)
  rw [hfields.four_checksum] at hchecksum_bytes
  simp only [PngChunk.bytes, List.append_assoc]
  rw [hcontent, hlength_bytes, hchecksum, hchecksum_bytes]
  exact hfields.bytes

end Reading

end StegoLab

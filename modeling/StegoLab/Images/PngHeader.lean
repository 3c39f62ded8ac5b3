import Mathlib.Data.Finset.Insert
import StegoLab.Images.ImagePolicy
import StegoLab.Images.PixelStream
import StegoLab.Protocol.Frame

/-!
# Headers of PNG images

The chunks of a PNG image are read one after another, before any pixel is decoded for use.
-/

namespace StegoLab

/-! ### Chunk names -/

def IHDR : List UInt8 := [0x49, 0x48, 0x44, 0x52]
def PLTE : List UInt8 := [0x50, 0x4c, 0x54, 0x45]
def IDAT : List UInt8 := [0x49, 0x44, 0x41, 0x54]
def IEND : List UInt8 := [0x49, 0x45, 0x4e, 0x44]
def acTL : List UInt8 := [0x61, 0x63, 0x54, 0x4c]
def fcTL : List UInt8 := [0x66, 0x63, 0x54, 0x4c]
def fdAT : List UInt8 := [0x66, 0x64, 0x41, 0x54]
def tRNS : List UInt8 := [0x74, 0x52, 0x4e, 0x53]
def cICP : List UInt8 := [0x63, 0x49, 0x43, 0x50]
def iCCP : List UInt8 := [0x69, 0x43, 0x43, 0x50]
def sRGB : List UInt8 := [0x73, 0x52, 0x47, 0x42]
def gAMA : List UInt8 := [0x67, 0x41, 0x4d, 0x41]
def cHRM : List UInt8 := [0x63, 0x48, 0x52, 0x4d]

def CRITICAL_NAMES : List (List UInt8) := [IHDR, PLTE, IDAT, IEND]
def COLOR_NAMES : List (List UInt8) := [iCCP, sRGB, gAMA, cHRM]

def is_capital (value : UInt8) : Bool :=
  65 ≤ value && value ≤ 90

def is_letter (value : UInt8) : Bool :=
  is_capital value || (97 ≤ value && value ≤ 122)

/-- Four letters with a capital third one, and a known name where the first one is a capital. -/
def valid_name (name : List UInt8) : Bool :=
  name.length = 4 && name.all is_letter && is_capital (name.getD 2 0)
    && !(is_capital (name.getD 0 0) && !CRITICAL_NAMES.contains name)

/-! ### Exceptions -/

/-- What ends the scan early. The last case is a decompression that has not ended in the rounds that
it was given. -/
inductive PngException (ε : Type) where
  | application (failure : ApplicationFailure)
  | pixels (failure : PixelFailure ε)
  | unfinished

/-- `raise image_failure(code)`. -/
def invalid_image {ε : Type} (code : String) : PngException ε :=
  .application (image_failure code)

/-! ### Reading chunks -/

structure PngChunk where
  name : List UInt8
  content : List UInt8
  deriving DecidableEq, Repr

section Reading

variable {ε : Type} (crc32 : List UInt8 → UInt32)

/-- The chunk at the start of the bytes, and the bytes behind it. -/
def read_chunk (rest : List UInt8) : Except (PngException ε) (PngChunk × List UInt8) := do
  let length := from_bytes (rest.take 4)
  let name := (rest.drop 4).take 4
  raise_if (rest.length < length + 12) (invalid_image "image_invalid")
  let content := (rest.drop 8).take length
  let checksum := from_bytes ((rest.drop (length + 8)).take 4)
  raise_if (valid_name name = false) (invalid_image "image_invalid")
  raise_if ((crc32 (name ++ content)).toNat ≠ checksum) (invalid_image "image_invalid")
  return (⟨name, content⟩, rest.drop (length + 12))

end Reading

/-! ### The state of the scan -/

/-- The fields of an `IHDR` chunk. -/
structure ImageHeader where
  width : ℕ
  height : ℕ
  depth : ℕ
  color_type : ℕ
  compression : ℕ
  filtering : ℕ
  interlace : ℕ
  deriving DecidableEq, Repr

/-- `struct.unpack(">IIBBBBB", content)`. -/
def unpack_header (content : List UInt8) : ImageHeader where
  width := from_bytes (content.take 4)
  height := from_bytes ((content.drop 4).take 4)
  depth := (content.getD 8 0).toNat
  color_type := (content.getD 9 0).toNat
  compression := (content.getD 10 0).toNat
  filtering := (content.getD 11 0).toNat
  interlace := (content.getD 12 0).toNat

def color_channels (color_type : ℕ) : ℕ :=
  if color_type = 0 then 1 else if color_type = 2 then 3 else 4

def color_types (policy : ImagePolicy) : List ℕ :=
  if policy.allow_grayscale then [0, 2, 6] else [2, 6]

structure PngState {ε : Type} (zlib : Decompressor ε) where
  first : Bool := true
  seen : Finset (List UInt8) := ∅
  width : ℕ := 0
  height : ℕ := 0
  color_type : ℕ := 0
  pixels_finished : Bool := false
  pixel_stream : Option (PixelStreamValidator zlib) := none

section Scan

variable {ε : Type} {zlib : Decompressor ε} (policy : ImagePolicy) (validate_pixels : Bool)

/-- The state behind an accepted `IHDR` chunk. -/
def PngState.opened (state : PngState zlib) (header : ImageHeader) : PngState zlib :=
  { state with
    first := false
    width := header.width
    height := header.height
    color_type := header.color_type
    pixel_stream :=
      if validate_pixels then
        some (.create zlib header.width header.height (color_channels header.color_type)
          header.interlace)
      else none }

/-- The first chunk is the only header. -/
def check_header (state : PngState zlib) (chunk : PngChunk) :
    Except (PngException ε) (PngState zlib) :=
  if state.first then do
    raise_if (chunk.name ≠ IHDR ∨ chunk.content.length ≠ 13) (invalid_image "image_invalid")
    let header := unpack_header chunk.content
    (policy.check_dimensions header.width header.height).mapError .application
    raise_if (header.depth ≠ 8 ∨ header.color_type ∉ color_types policy)
      (invalid_image "image_invalid")
    raise_if (header.compression ≠ 0 ∨ header.filtering ≠ 0 ∨ header.interlace ∉ [0, 1])
      (invalid_image "image_invalid")
    return state.opened validate_pixels header
  else do
    raise_if (chunk.name = IHDR) (invalid_image "image_invalid")
    return state

def check_palette (state : PngState zlib) (chunk : PngChunk) : Except (PngException ε) Unit :=
  raise_if (chunk.name = PLTE ∧ (PLTE ∈ state.seen ∨ IDAT ∈ state.seen
      ∨ ¬ (0 < chunk.content.length ∧ chunk.content.length ≤ 768) ∨ chunk.content.length % 3 ≠ 0))
    (invalid_image "image_invalid")

/-- The rounds that a decompression of these pixels can take. -/
def enough_rounds (validator : PixelStreamValidator zlib) : ℕ :=
  validator.expected_bytes / OUTPUT_BYTES + 1

/-- `pixel_stream.feed(content)`. -/
def feed_pixels (validator : PixelStreamValidator zlib) (content : List UInt8) :
    Except (PngException ε) (PixelStreamValidator zlib) :=
  match validator.feed (enough_rounds validator) content with
  | none => .error .unfinished
  | some (.error failure, _) => .error (.pixels failure)
  | some (.ok (), fed) => .ok fed

/-- The pixel data is one run of chunks. -/
def check_pixels (state : PngState zlib) (chunk : PngChunk) :
    Except (PngException ε) (PngState zlib) :=
  if chunk.name = IDAT then do
    raise_if (state.pixels_finished = true) (invalid_image "image_invalid")
    match state.pixel_stream with
    | none => return state
    | some validator => do
      let fed ← feed_pixels validator chunk.content
      return { state with pixel_stream := some fed }
  else if IDAT ∈ state.seen then return { state with pixels_finished := true }
  else return state

def check_unsupported (chunk : PngChunk) : Except (PngException ε) Unit := do
  raise_if (chunk.name ∈ [acTL, fcTL, fdAT, tRNS]) (invalid_image "image_invalid")
  raise_if (chunk.name = cICP) (invalid_image "image_color")

/-- The profile of a chunk is one stream of at most 1 MiB. -/
def check_profile (zlib : Decompressor ε) (compressed : List UInt8) :
    Except (PngException ε) Unit :=
  match zlib.decompress zlib.start compressed (1024 * 1024 + 1) with
  | .error _ => .error (invalid_image "image_color")
  | .ok (profile, decoder) =>
    raise_if (1024 * 1024 < profile.length ∨ zlib.eof decoder = false
      ∨ zlib.unused_data decoder ≠ []) (invalid_image "image_color")

/-- `_check_profile_chunk`: the name of a profile and its compressed data. -/
def check_profile_chunk (zlib : Decompressor ε) (content : List UInt8) :
    Except (PngException ε) Unit := do
  let name := content.takeWhile (· ≠ 0)
  let payload := (content.dropWhile (· ≠ 0)).drop 1
  raise_if ((0 : UInt8) ∉ content ∨ ¬ (1 ≤ name.length ∧ name.length ≤ 79)
      ∨ (∃ value ∈ name, value < 32 ∨ (126 < value ∧ value < 161))
      ∨ name.head? = some 0x20 ∨ name.getLast? = some 0x20 ∨ [0x20, 0x20] <:+: name
      ∨ payload.length < 2 ∨ payload.getD 0 0 ≠ 0)
    (invalid_image "image_color")
  check_profile zlib (payload.drop 1)

def check_color (state : PngState zlib) (chunk : PngChunk) : Except (PngException ε) Unit :=
  if chunk.name ∈ COLOR_NAMES then do
    raise_if (chunk.name ∈ state.seen ∨ IDAT ∈ state.seen) (invalid_image "image_color")
    raise_if (chunk.name = sRGB ∧ (chunk.content.length ≠ 1 ∨ 3 < chunk.content.getD 0 0))
      (invalid_image "image_color")
    raise_if (chunk.name = gAMA ∧ (chunk.content.length ≠ 4 ∨ chunk.content = [0, 0, 0, 0]))
      (invalid_image "image_color")
    raise_if (chunk.name = cHRM ∧ chunk.content.length ≠ 32) (invalid_image "image_color")
    if chunk.name = iCCP then check_profile_chunk zlib chunk.content else return ()
  else return ()

/-- The checks of one chunk that has been read. -/
def check_chunk (state : PngState zlib) (chunk : PngChunk) :
    Except (PngException ε) (PngState zlib) := do
  let state ← check_header policy validate_pixels state chunk
  check_palette state chunk
  let state ← check_pixels state chunk
  check_unsupported chunk
  check_color state chunk
  return { state with seen := insert chunk.name state.seen }

end Scan

/-! ### The scan -/

section Reading

variable {ε : Type} {crc32 : List UInt8 → UInt32} {rest next : List UInt8} {chunk : PngChunk}

lemma length_of_read_chunk (hlength : 12 ≤ rest.length)
    (h : (read_chunk crc32 rest : Except (PngException ε) _) = .ok (chunk, next)) :
    next.length < rest.length := by
  unfold read_chunk at h
  obtain ⟨_, -, h⟩ := bind_eq_ok.mp h
  obtain ⟨_, -, h⟩ := bind_eq_ok.mp h
  obtain ⟨_, -, h⟩ := bind_eq_ok.mp h
  obtain ⟨-, rfl⟩ := Prod.mk.inj (pure_eq_ok.mp h)
  rw [List.length_drop]
  omega

end Reading

section Header

variable {ε : Type} (crc32 : List UInt8 → UInt32) (zlib : Decompressor ε) (policy : ImagePolicy)
  (validate_pixels : Bool)

/-- The loop of `_png_header`, and whether it saw the end of the image. -/
def scan_chunks (state : PngState zlib) (rest : List UInt8) :
    Except (PngException ε) (PngState zlib × Bool) :=
  if hlength : 12 ≤ rest.length then
    match hread : (read_chunk crc32 rest : Except (PngException ε) _) with
    | .error e => .error e
    | .ok (chunk, next) =>
      match check_chunk policy validate_pixels state chunk with
      | .error e => .error e
      | .ok state =>
        if chunk.name = IEND then
          if chunk.content.length ≠ 0 ∨ next ≠ [] then .error (invalid_image "image_invalid")
          else .ok (state, true)
        else scan_chunks state next
  else .ok (state, false)
termination_by rest.length
decreasing_by exact length_of_read_chunk hlength hread

inductive SourceFormat where
  | JPEG
  | PNG
  deriving DecidableEq, Repr

inductive ImageMode where
  | L
  | RGB
  | RGBA
  deriving DecidableEq, Repr

structure SourceHeader where
  format : SourceFormat
  width : ℕ
  height : ℕ
  mode : ImageMode
  png_chunks : Finset (List UInt8) := ∅
  has_profile : Bool := false
  deriving DecidableEq

def color_mode (color_type : ℕ) : ImageMode :=
  if color_type = 0 then .L else if color_type = 6 then .RGBA else .RGB

/-- `pixel_stream.finish()`, where there is one. -/
def finish_pixels (state : PngState zlib) : Except (PngException ε) Unit :=
  match state.pixel_stream with
  | none => .ok ()
  | some validator => validator.finish.mapError .pixels

/-- `_png_header`. -/
def png_header (data : List UInt8) : Except (PngException ε) SourceHeader := do
  let (state, saw_end) ← scan_chunks crc32 zlib policy validate_pixels {} (data.drop 8)
  raise_if (state.first = true ∨ saw_end = false ∨ IDAT ∉ state.seen)
    (invalid_image "image_invalid")
  finish_pixels zlib state
  raise_if ((gAMA ∈ state.seen ∨ cHRM ∈ state.seen) ∧ ¬ (iCCP ∈ state.seen ∨ sRGB ∈ state.seen))
    (invalid_image "image_color")
  return {
    format := .PNG
    width := state.width
    height := state.height
    mode := color_mode state.color_type
    png_chunks := state.seen }

/-- The failures of the pixels are failures of the image. -/
def public_exception : PngException ε → PngException ε
  | .pixels _ => invalid_image "image_invalid"
  | e => e

/-- `inspect_header`, with the reader of JPEG headers. -/
def inspect_header (jpeg_header : List UInt8 → ImagePolicy → Except ApplicationFailure SourceHeader)
    (data : List UInt8) : Except (PngException ε) SourceHeader := do
  raise_if (policy.maximum_bytes < data.length) (.application policy.limit_failure)
  if PNG_SIGNATURE <+: data then
    (png_header crc32 zlib policy validate_pixels data).mapError public_exception
  else if [0xff, 0xd8] <+: data then
    (jpeg_header data policy).mapError .application
  else .error (invalid_image "image_invalid")

end Header

end StegoLab

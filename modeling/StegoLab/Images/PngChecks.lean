import StegoLab.Images.PixelStreamProperties
import StegoLab.Images.PngGrammar

/-!
# The checks of one chunk

When each check passes, in the words of the grammar.
-/

namespace StegoLab

variable {ε : Type} {zlib : Decompressor ε} {Stream : List UInt8 → List UInt8 → Prop}
  {policy : ImagePolicy} {validate_pixels : Bool} {state state' : PngState zlib} {chunk : PngChunk}
  {content : List UInt8} {u : Unit}

/-! ### The header -/

lemma raise_check_dimensions (width height : ℕ) :
    ((policy.check_dimensions width height).mapError PngException.application
      : Except (PngException ε) Unit) = .ok u ↔ policy.Allows width height := by
  unfold ImagePolicy.check_dimensions raise_if
  by_cases h : policy.Allows width height
  · simp [h, Except.mapError]
  · simp [h, Except.mapError]

lemma check_header_first (hfirst : state.first = true) :
    check_header policy validate_pixels state chunk = .ok state' ↔
      (chunk.name = IHDR ∧ ValidHeader policy chunk.content) ∧
        state.opened validate_pixels (unpack_header chunk.content) = state' := by
  unfold check_header
  rw [if_pos hfirst]
  simp only [bind_eq_ok, raise_if_eq_ok, raise_check_dimensions, exists_const, pure_eq_ok, not_or,
    not_not, List.mem_cons, List.not_mem_nil, or_false]
  constructor
  · rintro ⟨⟨hname, hlength⟩, hdimensions, ⟨hdepth, hcolor⟩,
      ⟨hcompression, hfiltering, hinterlace⟩, hstate⟩
    exact ⟨⟨hname, hlength, hdimensions, hdepth, hcolor, hcompression, hfiltering, by tauto⟩,
      hstate⟩
  · rintro ⟨⟨hname, hheader⟩, hstate⟩
    have hinterlace := hheader.interlace
    exact ⟨⟨hname, hheader.length⟩, hheader.dimensions, ⟨hheader.depth, hheader.color_type⟩,
      ⟨hheader.compression, hheader.filtering, by tauto⟩, hstate⟩

lemma check_header_later (hfirst : state.first = false) :
    check_header policy validate_pixels state chunk = .ok state' ↔
      chunk.name ≠ IHDR ∧ state = state' := by
  unfold check_header
  rw [if_neg (by rw [hfirst]; exact Bool.false_ne_true)]
  simp only [bind_eq_ok, raise_if_eq_ok, exists_const, pure_eq_ok, ne_eq]

/-! ### Declarations -/

lemma check_palette_eq_ok : check_palette state chunk = .ok u ↔
    (chunk.name = PLTE → (PLTE ∉ state.seen ∧ IDAT ∉ state.seen) ∧
      (0 < chunk.content.length ∧ chunk.content.length ≤ 768) ∧ chunk.content.length % 3 = 0) := by
  rw [check_palette, raise_if_eq_ok]
  tauto

lemma check_unsupported_eq_ok :
    (check_unsupported chunk : Except (PngException ε) Unit) = .ok u ↔
      chunk.name ∉ UNSUPPORTED := by
  unfold check_unsupported
  simp only [bind_eq_ok, raise_if_eq_ok, UNSUPPORTED, List.mem_cons, List.not_mem_nil, or_false]
  constructor
  · rintro ⟨_, hanimated, hcolor⟩
    tauto
  · intro h
    exact ⟨(), by tauto, by tauto⟩

/-- The first separator cuts a content in two. -/
lemma content_of_separator (h : (0 : UInt8) ∈ content) :
    content = content.takeWhile (· ≠ 0) ++ 0 :: (content.dropWhile (· ≠ 0)).drop 1 := by
  induction content with
  | nil => exact absurd h List.not_mem_nil
  | cons value rest ih =>
    by_cases hvalue : value = 0
    · subst hvalue
      simp
    · have hrest : (0 : UInt8) ∈ rest := by
        rcases List.mem_cons.mp h with hzero | hrest
        · exact absurd hzero.symm hvalue
        · exact hrest
      have hcut := ih hrest
      rw [List.takeWhile_cons_of_pos (by simpa using hvalue),
        List.dropWhile_cons_of_pos (by simpa using hvalue), List.cons_append, ← hcut]

lemma takeWhile_of_separator {name rest : List UInt8} (h : ∀ value ∈ name, value ≠ 0) :
    (name ++ 0 :: rest).takeWhile (· ≠ 0) = name := by
  rw [List.takeWhile_append_of_pos (by simpa using h)]
  simp

lemma dropWhile_of_separator {name rest : List UInt8} (h : ∀ value ∈ name, value ≠ 0) :
    (name ++ 0 :: rest).dropWhile (· ≠ 0) = 0 :: rest := by
  rw [List.dropWhile_append_of_pos (by simpa using h)]
  simp

lemma printable_iff (value : UInt8) :
    ¬ (value < 32 ∨ (126 < value ∧ value < 161)) ↔ (32 ≤ value ∧ value ≤ 126) ∨ 161 ≤ value := by
  simp only [UInt8.lt_iff_toNat_lt, UInt8.le_iff_toNat_le, UInt8.reduceToNat]
  omega

/-- The profile is decompressed whole, and is not too large. -/
lemma check_profile_eq_ok (h : zlib.Lawful Stream) {compressed : List UInt8} :
    check_profile zlib compressed = .ok u ↔
      ∃ profile, Stream compressed profile ∧ profile.length ≤ 1024 * 1024 := by
  have honce := @Decompressor.Lawful.at_once _ _ _ h compressed (1024 * 1024 + 1)
  simp only [Nat.lt_succ_iff] at honce
  rw [← honce, check_profile]
  cases hround : zlib.decompress zlib.start compressed (1024 * 1024 + 1) with
  | error e => simp
  | ok result =>
    obtain ⟨profile, decoder⟩ := result
    simp only [raise_if_eq_ok, not_or, not_lt, Bool.not_eq_false, not_not]
    constructor
    · rintro ⟨hlength, heof, hunused⟩
      exact ⟨profile, decoder, rfl, hlength, heof, hunused⟩
    · rintro ⟨profile', decoder', hsame, hlength, heof, hunused⟩
      obtain ⟨rfl, rfl⟩ := Prod.mk.inj (Except.ok.inj hsame)
      exact ⟨hlength, heof, hunused⟩

lemma check_profile_chunk_eq_ok (h : zlib.Lawful Stream) :
    check_profile_chunk zlib content = .ok u ↔ ValidProfile Stream content := by
  unfold check_profile_chunk
  dsimp only
  rw [bind_eq_ok]
  simp only [raise_if_eq_ok, check_profile_eq_ok h, exists_const, not_or, not_not, not_lt]
  constructor
  · rintro ⟨⟨hseparator, hlength, hprintable, hhead, hlast, hsingle, hpayload, hmethod⟩,
      profile, hstream, hprofile⟩
    have hcontent := content_of_separator hseparator
    obtain ⟨method, compressed, hsplit⟩ :
        ∃ method compressed, (content.dropWhile (· ≠ 0)).drop 1 = method :: compressed := by
      apply List.exists_cons_of_ne_nil
      intro hnil
      rw [hnil] at hpayload
      exact absurd hpayload (by decide)
    rw [hsplit] at hcontent hmethod hstream
    obtain rfl : method = 0 := hmethod
    refine ⟨_, compressed, profile, hcontent, ⟨hlength, fun value hvalue => ?_, hhead, hlast,
      hsingle⟩, hstream, hprofile⟩
    rw [← printable_iff]
    intro hbad
    exact hprintable ⟨value, hvalue, hbad⟩
  · rintro ⟨name, compressed, profile, rfl, hname, hstream, hprofile⟩
    have hvalues : ∀ value ∈ name, value ≠ 0 := by
      rintro value hvalue rfl
      exact absurd (hname.printable 0 hvalue) (by decide)
    rw [takeWhile_of_separator hvalues, dropWhile_of_separator hvalues]
    have hcompressed : compressed ≠ [] := by
      rintro rfl
      exact h.nonempty hstream
    refine ⟨⟨by simp, hname.length, ?_, hname.head, hname.last, hname.single, ?_, rfl⟩, profile,
      hstream, hprofile⟩
    · rintro ⟨value, hvalue, hbad⟩
      exact (printable_iff value).mpr (hname.printable value hvalue) hbad
    · have := List.length_pos_of_ne_nil hcompressed
      simp only [List.drop_succ_cons, List.drop_zero, List.length_cons]
      omega

lemma mem_COLOR_NAMES {name : List UInt8} :
    name ∈ COLOR_NAMES ↔ name = iCCP ∨ name = sRGB ∨ name = gAMA ∨ name = cHRM := by
  simp [COLOR_NAMES]

lemma check_color_eq_ok (h : zlib.Lawful Stream) : check_color state chunk = .ok u ↔
    (chunk.name ∈ COLOR_NAMES → chunk.name ∉ state.seen ∧ IDAT ∉ state.seen) ∧
    (chunk.name = iCCP → ValidProfile Stream chunk.content) ∧
    (chunk.name = sRGB → chunk.content.length = 1 ∧ chunk.content.getD 0 0 ≤ 3) ∧
    (chunk.name = gAMA → chunk.content.length = 4 ∧ chunk.content ≠ [0, 0, 0, 0]) ∧
    (chunk.name = cHRM → chunk.content.length = 32) := by
  unfold check_color
  by_cases hcolor : chunk.name ∈ COLOR_NAMES
  · rw [if_pos hcolor]
    simp only [bind_eq_ok, raise_if_eq_ok, exists_const]
    have hprofile : (if chunk.name = iCCP then check_profile_chunk zlib chunk.content
        else (pure () : Except (PngException ε) Unit)) = .ok u ↔
        (chunk.name = iCCP → ValidProfile Stream chunk.content) := by
      by_cases hname : chunk.name = iCCP
      · rw [if_pos hname, check_profile_chunk_eq_ok h]
        exact ⟨fun hvalid _ => hvalid, fun hvalid => hvalid hname⟩
      · rw [if_neg hname]
        exact ⟨fun _ hname' => absurd hname' hname, fun _ => rfl⟩
    rw [hprofile]
    simp only [not_or, not_and, not_not, UInt8.not_lt, ne_eq, hcolor, forall_const]
    tauto
  · rw [if_neg hcolor]
    rw [mem_COLOR_NAMES, not_or, not_or, not_or] at hcolor
    obtain ⟨hiccp, hsrgb, hgama, hchrm⟩ := hcolor
    rw [mem_COLOR_NAMES]
    constructor
    · intro _
      tauto
    · intro _
      rfl

/-! ### Pixels -/

lemma check_pixels_other (hname : chunk.name ≠ IDAT) :
    check_pixels state chunk = .ok state' ↔
      (if IDAT ∈ state.seen then { state with pixels_finished := true } else state) = state' := by
  unfold check_pixels
  rw [if_neg hname]
  split_ifs
  · exact pure_eq_ok
  · exact pure_eq_ok

lemma check_pixels_skipped (hname : chunk.name = IDAT) (hstream : state.pixel_stream = none) :
    check_pixels state chunk = .ok state' ↔ state.pixels_finished = false ∧ state = state' := by
  unfold check_pixels
  rw [if_pos hname, hstream]
  simp only [bind_eq_ok, raise_if_eq_ok, exists_const, pure_eq_ok, Bool.not_eq_true]

lemma check_pixels_fed (hname : chunk.name = IDAT) {validator : PixelStreamValidator zlib}
    (hstream : state.pixel_stream = some validator) :
    check_pixels state chunk = .ok state' ↔ state.pixels_finished = false ∧
      ∃ fed, feed_pixels validator chunk.content = .ok fed ∧
        { state with pixel_stream := some fed } = state' := by
  unfold check_pixels
  rw [if_pos hname, hstream]
  simp only [bind_eq_ok, raise_if_eq_ok, exists_const, pure_eq_ok, Bool.not_eq_true]

lemma feed_pixels_eq_ok {validator fed : PixelStreamValidator zlib} :
    feed_pixels validator content = .ok fed ↔
      validator.feed (enough_rounds validator) content = some (.ok (), fed) := by
  unfold feed_pixels
  split
  · next hfeed => simp [hfeed]
  · next hfeed => simp [hfeed]
  · next hfeed => simp [hfeed]

end StegoLab

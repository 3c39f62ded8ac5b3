import StegoLab.Images.PngChecks

/-!
# The scan of a list of chunks

What the state of the scan says of the chunks behind it, and when the next chunk is allowed.
-/

namespace StegoLab

open PixelStreamValidator

variable {ε : Type} {zlib : Decompressor ε} {Stream : List UInt8 → List UInt8 → Prop}
  {policy : ImagePolicy} {validate_pixels : Bool} {state state' : PngState zlib}
  {past : List PngChunk} {chunk : PngChunk}

/-! ### Feeding one chunk more -/

section Feeding

variable {rounds : ℕ} {validator fed : PixelStreamValidator zlib} {data : List UInt8}
  {outcome : Except (PixelFailure ε) Unit}

lemma expected_of_feed_loop (h : feed_loop rounds validator data = some (outcome, fed)) :
    fed.expected_bytes = validator.expected_bytes := by
  induction rounds generalizing validator data with
  | zero => exact absurd h (by simp [feed_loop])
  | succ rounds ih =>
    rw [feed_loop] at h
    split at h
    · obtain ⟨-, rfl⟩ := Prod.mk.inj (Option.some.inj h)
      rfl
    · dsimp only at h
      split_ifs at h
      · obtain ⟨-, rfl⟩ := Prod.mk.inj (Option.some.inj h)
        rfl
      · obtain ⟨-, rfl⟩ := Prod.mk.inj (Option.some.inj h)
        rfl
      · have hrest := ih h
        exact hrest

lemma expected_of_feed (h : feed rounds validator data = some (outcome, fed)) :
    fed.expected_bytes = validator.expected_bytes := by
  rw [feed] at h
  split_ifs at h
  · obtain ⟨-, rfl⟩ := Prod.mk.inj (Option.some.inj h)
    rfl
  · exact expected_of_feed_loop h

lemma feed_chunks_cons {chunks : List (List UInt8)} :
    feed_chunks rounds validator (data :: chunks) = some (.ok (), fed) ↔
      ∃ next, feed rounds validator data = some (.ok (), next) ∧
        feed_chunks rounds next chunks = some (.ok (), fed) := by
  rw [feed_chunks]
  rcases hfeed : feed rounds validator data with _ | ⟨e | u, next⟩
  · simp
  · simp
  · simp

lemma feed_chunks_snoc {chunks : List (List UInt8)} :
    feed_chunks rounds validator (chunks ++ [data]) = some (.ok (), fed) ↔
      ∃ next, feed_chunks rounds validator chunks = some (.ok (), next) ∧
        feed rounds next data = some (.ok (), fed) := by
  induction chunks generalizing validator with
  | nil =>
    rw [List.nil_append, feed_chunks_cons]
    simp [feed_chunks]
  | cons first chunks ih =>
    rw [List.cons_append, feed_chunks_cons]
    simp only [ih, feed_chunks_cons]
    constructor
    · rintro ⟨next, hfirst, next', hchunks, hdata⟩
      exact ⟨next', ⟨next, hfirst, hchunks⟩, hdata⟩
    · rintro ⟨next', ⟨next, hfirst, hchunks⟩, hdata⟩
      exact ⟨next, hfirst, next', hchunks, hdata⟩

lemma expected_of_feed_chunks {chunks : List (List UInt8)}
    (h : feed_chunks rounds validator chunks = some (.ok (), fed)) :
    fed.expected_bytes = validator.expected_bytes := by
  induction chunks generalizing validator with
  | nil =>
    obtain ⟨-, rfl⟩ := Prod.mk.inj (Option.some.inj h)
    rfl
  | cons data chunks ih =>
    obtain ⟨next, hfeed, hchunks⟩ := feed_chunks_cons.mp h
    rw [ih hchunks, expected_of_feed hfeed]

end Feeding

/-! ### The chunks behind the scan -/

/-- Some chunk stands between pixel data and the end. -/
def Finished (past : List PngChunk) : Prop :=
  ∃ before chunk after, past = before ++ chunk :: after ∧ chunk.name ≠ IDAT ∧
    IDAT ∈ chunk_names before

/-- The validator that a header opens. -/
def first_stream (zlib : Decompressor ε) (header : PngChunk) : PixelStreamValidator zlib :=
  .create zlib (unpack_header header.content).width (unpack_header header.content).height
    (color_channels (unpack_header header.content).color_type)
    (unpack_header header.content).interlace

/-- The validator of the first chunk after the pixel data of all of them. -/
def FedTo (chunks : List PngChunk) (fed : PixelStreamValidator zlib) : Prop :=
  ∃ header rest, chunks = header :: rest ∧
    feed_chunks (enough_rounds (first_stream zlib header)) (first_stream zlib header)
      (pixel_data chunks) = some (.ok (), fed)

/-- What the state says of the chunks behind the scan. -/
structure Progress (validate_pixels : Bool) (past : List PngChunk) (state : PngState zlib) :
    Prop where
  first : state.first = true ↔ past = []
  seen : ∀ name, name ∈ state.seen ↔ name ∈ chunk_names past
  finished : state.pixels_finished = true ↔ Finished past
  idle : past = [] ∨ validate_pixels = false → state.pixel_stream = none
  fed : past ≠ [] → validate_pixels = true →
    ∃ validator, state.pixel_stream = some validator ∧ FedTo past validator

/-- The next chunk fits what stands before it. -/
structure Allowed (Stream : List UInt8 → List UInt8 → Prop) (policy : ImagePolicy)
    (past : List PngChunk) (chunk : PngChunk) : Prop where
  header : past = [] → chunk.name = IHDR ∧ ValidHeader policy chunk.content
  only : past ≠ [] → chunk.name ≠ IHDR
  declared : chunk.name ∈ DECLARATIONS →
    chunk.name ∉ chunk_names past ∧ IDAT ∉ chunk_names past
  wellFormed : WellFormed Stream chunk
  together : chunk.name = IDAT → ¬ Finished past
  supported : chunk.name ∉ UNSUPPORTED

lemma chunk_names_append (chunks chunks' : List PngChunk) :
    chunk_names (chunks ++ chunks') = chunk_names chunks ++ chunk_names chunks' :=
  List.map_append

lemma mem_chunk_names_snoc {name : List UInt8} :
    name ∈ chunk_names (past ++ [chunk]) ↔ name ∈ chunk_names past ∨ name = chunk.name := by
  rw [chunk_names_append, List.mem_append]
  simp [chunk_names]

lemma not_finished_nil : ¬ Finished [] := by
  rintro ⟨before, chunk, after, hsplit, -, -⟩
  exact absurd hsplit (by simp)

lemma finished_snoc : Finished (past ++ [chunk]) ↔
    Finished past ∨ (chunk.name ≠ IDAT ∧ IDAT ∈ chunk_names past) := by
  constructor
  · rintro ⟨before, other, after, hsplit, hother, hpixels⟩
    rcases List.eq_nil_or_concat after with rfl | ⟨front, last, rfl⟩
    · obtain ⟨rfl, hchunk⟩ := List.append_inj' hsplit rfl
      obtain rfl := (List.cons.inj hchunk).1
      exact Or.inr ⟨hother, hpixels⟩
    · rw [List.concat_eq_append, ← List.cons_append, ← List.append_assoc] at hsplit
      obtain ⟨rfl, -⟩ := List.append_inj' hsplit rfl
      exact Or.inl ⟨before, other, front, rfl, hother, hpixels⟩
  · rintro (⟨before, other, after, rfl, hother, hpixels⟩ | ⟨hchunk, hpixels⟩)
    · exact ⟨before, other, after ++ [chunk], by simp, hother, hpixels⟩
    · exact ⟨past, chunk, [], rfl, hchunk, hpixels⟩

lemma pixel_data_snoc_of_ne (h : chunk.name ≠ IDAT) : pixel_data (past ++ [chunk]) = pixel_data past := by
  simp [pixel_data, List.filter_append, h]

lemma pixel_data_snoc (h : chunk.name = IDAT) :
    pixel_data (past ++ [chunk]) = pixel_data past ++ [chunk.content] := by
  simp [pixel_data, List.filter_append, h]

/-- Another chunk of pixel data is fed to what the earlier ones have left. -/
lemma fedTo_snoc {validator fed : PixelStreamValidator zlib} (h : FedTo past validator)
    (hname : chunk.name = IDAT) :
    FedTo (past ++ [chunk]) fed ↔ feed_pixels validator chunk.content = .ok fed := by
  obtain ⟨header, rest, rfl, hfed⟩ := h
  have hrounds : enough_rounds validator = enough_rounds (first_stream zlib header) := by
    rw [enough_rounds, enough_rounds, expected_of_feed_chunks hfed]
  rw [feed_pixels_eq_ok, hrounds]
  constructor
  · rintro ⟨header', rest', hsplit, hfed'⟩
    obtain rfl := (List.cons.inj hsplit).1
    rw [pixel_data_snoc hname, feed_chunks_snoc] at hfed'
    obtain ⟨next, hnext, hfed'⟩ := hfed'
    rw [hfed] at hnext
    obtain ⟨-, rfl⟩ := Prod.mk.inj (Option.some.inj hnext)
    exact hfed'
  · intro hfeed
    refine ⟨header, rest ++ [chunk], rfl, ?_⟩
    rw [pixel_data_snoc hname, feed_chunks_snoc]
    exact ⟨validator, hfed, hfeed⟩

lemma fedTo_snoc_of_ne {fed : PixelStreamValidator zlib} (hpast : past ≠ [])
    (hname : chunk.name ≠ IDAT) : FedTo (past ++ [chunk]) fed ↔ FedTo past fed := by
  obtain ⟨header, rest, rfl⟩ := List.exists_cons_of_ne_nil hpast
  unfold FedTo
  rw [pixel_data_snoc_of_ne hname]
  constructor
  · rintro ⟨header', rest', hsplit, hfed⟩
    obtain rfl := (List.cons.inj hsplit).1
    exact ⟨header, rest, rfl, hfed⟩
  · rintro ⟨header', rest', hsplit, hfed⟩
    obtain ⟨rfl, rfl⟩ := List.cons.inj hsplit
    exact ⟨header, rest ++ [chunk], rfl, hfed⟩

/-! ### One chunk -/

lemma progress_empty : Progress validate_pixels [] ({} : PngState zlib) where
  first := ⟨fun _ => rfl, fun _ => rfl⟩
  seen name := by simp [chunk_names]
  finished := ⟨fun h => absurd h Bool.false_ne_true, fun h => absurd h not_finished_nil⟩
  idle _ := rfl
  fed h := absurd rfl h

lemma seen_of_check_pixels (h : check_pixels state chunk = .ok state') :
    state'.seen = state.seen ∧ state'.first = state.first := by
  by_cases hname : chunk.name = IDAT
  · cases hstream : state.pixel_stream with
    | none =>
      obtain ⟨-, rfl⟩ := (check_pixels_skipped hname hstream).mp h
      exact ⟨rfl, rfl⟩
    | some validator =>
      obtain ⟨-, fed, -, rfl⟩ := (check_pixels_fed hname hstream).mp h
      exact ⟨rfl, rfl⟩
  · obtain rfl := (check_pixels_other hname).mp h
    split_ifs
    · exact ⟨rfl, rfl⟩
    · exact ⟨rfl, rfl⟩

lemma mem_DECLARATIONS {name : List UInt8} :
    name ∈ DECLARATIONS ↔ name = PLTE ∨ name ∈ COLOR_NAMES := by
  simp [DECLARATIONS, COLOR_NAMES]

/-- The checks of a chunk, one after another. -/
lemma check_chunk_eq_ok (h : zlib.Lawful Stream) :
    check_chunk policy validate_pixels state chunk = .ok state' ↔
      ∃ opened checked, check_header policy validate_pixels state chunk = .ok opened ∧
        check_pixels opened chunk = .ok checked ∧
        (chunk.name ∈ DECLARATIONS → chunk.name ∉ opened.seen ∧ IDAT ∉ opened.seen) ∧
        WellFormed Stream chunk ∧ chunk.name ∉ UNSUPPORTED ∧
        { checked with seen := insert chunk.name checked.seen } = state' := by
  unfold check_chunk
  simp only [bind_eq_ok, pure_eq_ok, check_palette_eq_ok, check_unsupported_eq_ok,
    check_color_eq_ok h, exists_const]
  constructor
  · rintro ⟨opened, hheader, hpalette, checked, hpixels, hsupported,
      ⟨hcolor, hprofile, hstandard, hgamma, hchromaticities⟩, hstate⟩
    have hseen := (seen_of_check_pixels hpixels).1
    rw [hseen] at hcolor
    refine ⟨opened, checked, hheader, hpixels, fun hdeclared => ?_, ⟨fun hname => (hpalette hname).2,
      hprofile, hstandard, hgamma, hchromaticities⟩, hsupported, hstate⟩
    rcases mem_DECLARATIONS.mp hdeclared with hname | hname
    · rw [hname]
      exact (hpalette hname).1
    · exact hcolor hname
  · rintro ⟨opened, checked, hheader, hpixels, hdeclared, hformed, hsupported, hstate⟩
    have hseen := (seen_of_check_pixels hpixels).1
    refine ⟨opened, hheader, fun hname => ⟨?_, hformed.palette hname⟩, checked, hpixels, hsupported,
      ⟨fun hname => ?_, hformed.profile, hformed.standard, hformed.gamma, hformed.chromaticities⟩,
      hstate⟩
    · rw [← hname]
      exact hdeclared (mem_DECLARATIONS.mpr (Or.inl hname))
    · rw [hseen]
      exact hdeclared (mem_DECLARATIONS.mpr (Or.inr hname))

lemma mem_insert_seen (hprogress : ∀ name, name ∈ state.seen ↔ name ∈ chunk_names past)
    (name : List UInt8) :
    name ∈ insert chunk.name state.seen ↔ name ∈ chunk_names (past ++ [chunk]) := by
  rw [Finset.mem_insert, mem_chunk_names_snoc, hprogress name]
  tauto

/-- The first chunk opens the pixel stream. -/
lemma progress_opened (hprogress : Progress validate_pixels [] state) (hname : chunk.name = IHDR) :
    Progress validate_pixels [chunk]
      { state.opened validate_pixels (unpack_header chunk.content) with
        seen := insert chunk.name state.seen } where
  first := ⟨fun h => absurd h Bool.false_ne_true, fun h => absurd h (by simp)⟩
  seen := mem_insert_seen hprogress.seen
  finished := by
    change state.pixels_finished = true ↔ Finished ([] ++ [chunk])
    rw [hprogress.finished, finished_snoc]
    simp [chunk_names]
  idle h := by
    rcases h with h | h
    · exact absurd h (by simp)
    · subst h
      rfl
  fed _ hvalidate := by
    subst hvalidate
    refine ⟨first_stream zlib chunk, rfl, chunk, [], rfl, ?_⟩
    have hpixels : pixel_data [chunk] = [] := by
      have hdata := @pixel_data_snoc_of_ne [] chunk (by rw [hname]; decide)
      exact hdata
    rw [hpixels]
    rfl

/-- A chunk without pixel data may end the pixel data. -/
lemma progress_other (hprogress : Progress validate_pixels past state) (hpast : past ≠ [])
    (hname : chunk.name ≠ IDAT) :
    Progress validate_pixels (past ++ [chunk])
      { (if IDAT ∈ state.seen then { state with pixels_finished := true } else state) with
        seen := insert chunk.name state.seen } := by
  have hstream : (if IDAT ∈ state.seen then { state with pixels_finished := true }
      else state).pixel_stream = state.pixel_stream := by
    split_ifs
    · rfl
    · rfl
  have hfirst : (if IDAT ∈ state.seen then { state with pixels_finished := true }
      else state).first = state.first := by
    split_ifs
    · rfl
    · rfl
  constructor
  · change (if IDAT ∈ state.seen then _ else state).first = true ↔ _
    rw [hfirst, hprogress.first]
    simp [hpast]
  · exact mem_insert_seen hprogress.seen
  · change (if IDAT ∈ state.seen then _ else state).pixels_finished = true ↔ _
    rw [finished_snoc, ← hprogress.finished, ← hprogress.seen]
    by_cases hpixels : IDAT ∈ state.seen
    · rw [if_pos hpixels]
      simp [hname, hpixels]
    · rw [if_neg hpixels]
      simp [hpixels]
  · intro hidle
    change (if IDAT ∈ state.seen then _ else state).pixel_stream = none
    rw [hstream]
    rcases hidle with hnil | hvalidate
    · exact absurd hnil (by simp)
    · exact hprogress.idle (Or.inr hvalidate)
  · intro _ hvalidate
    obtain ⟨validator, hvalidator, hfed⟩ := hprogress.fed hpast hvalidate
    exact ⟨validator, hstream.trans hvalidator, (fedTo_snoc_of_ne hpast hname).mpr hfed⟩

/-- A chunk of pixel data is fed to the stream, where there is one. -/
lemma progress_pixels (hprogress : Progress validate_pixels past state) (hpast : past ≠ [])
    (hname : chunk.name = IDAT) {stream : Option (PixelStreamValidator zlib)}
    (hidle : validate_pixels = false → stream = none)
    (hfed : validate_pixels = true → ∃ fed, stream = some fed ∧ FedTo (past ++ [chunk]) fed) :
    Progress validate_pixels (past ++ [chunk])
      { state with
        pixel_stream := stream
        seen := insert chunk.name state.seen } where
  first := by
    change state.first = true ↔ _
    rw [hprogress.first]
    simp [hpast]
  seen := mem_insert_seen hprogress.seen
  finished := by
    change state.pixels_finished = true ↔ _
    rw [hprogress.finished, finished_snoc]
    simp [hname]
  idle h := by
    rcases h with hnil | hvalidate
    · exact absurd hnil (by simp)
    · exact hidle hvalidate
  fed _ hvalidate := hfed hvalidate

/-- A chunk that passes is allowed, and the state goes on to it. -/
lemma of_check_chunk (h : zlib.Lawful Stream) (hprogress : Progress validate_pixels past state)
    (hok : check_chunk policy validate_pixels state chunk = .ok state') :
    Allowed Stream policy past chunk ∧ Progress validate_pixels (past ++ [chunk]) state' := by
  obtain ⟨opened, checked, hheader, hpixels, hdeclared, hformed, hsupported, rfl⟩ :=
    (check_chunk_eq_ok h).mp hok
  rcases List.eq_nil_or_concat past with rfl | ⟨front, last, rfl⟩
  · obtain ⟨⟨hname, hvalid⟩, rfl⟩ := (check_header_first (hprogress.first.mpr rfl)).mp hheader
    have hother : chunk.name ≠ IDAT := by
      rw [hname]
      decide
    have hnone : IDAT ∉ (state.opened validate_pixels (unpack_header chunk.content)).seen := by
      change IDAT ∉ state.seen
      rw [hprogress.seen]
      exact List.not_mem_nil
    obtain rfl := (check_pixels_other hother).mp hpixels
    rw [if_neg hnone]
    constructor
    · exact ⟨fun _ => ⟨hname, hvalid⟩, fun h => absurd rfl h,
        fun _ => ⟨List.not_mem_nil, List.not_mem_nil⟩, hformed, fun _ => not_finished_nil,
        hsupported⟩
    · exact progress_opened hprogress hname
  · set past := front.concat last
    have hpast : past ≠ [] := by simp [past]
    have hfirst : state.first = false := by
      rw [← Bool.not_eq_true, hprogress.first]
      exact hpast
    obtain ⟨honly, rfl⟩ := (check_header_later hfirst).mp hheader
    rw [hprogress.seen, hprogress.seen] at hdeclared
    by_cases hname : chunk.name = IDAT
    · have hallowed (hrunning : state.pixels_finished = false) :
          Allowed Stream policy past chunk := by
        refine ⟨fun h => absurd h hpast, fun _ => honly, hdeclared, hformed, fun _ hfinished => ?_,
          hsupported⟩
        rw [← hprogress.finished, hrunning] at hfinished
        exact absurd hfinished Bool.false_ne_true
      cases hstream : state.pixel_stream with
      | none =>
        obtain ⟨hrunning, rfl⟩ := (check_pixels_skipped hname hstream).mp hpixels
        refine ⟨hallowed hrunning, ?_⟩
        have hnext := progress_pixels hprogress hpast hname (fun _ => hstream) fun hvalidate => ?_
        · exact hnext
        · obtain ⟨validator, hvalidator, -⟩ := hprogress.fed hpast hvalidate
          rw [hstream] at hvalidator
          exact absurd hvalidator (by simp)
      | some validator =>
        obtain ⟨hrunning, fed, hfeed, rfl⟩ := (check_pixels_fed hname hstream).mp hpixels
        refine ⟨hallowed hrunning, progress_pixels hprogress hpast hname (fun hvalidate => ?_)
          fun hvalidate => ?_⟩
        · have hnone := hprogress.idle (Or.inr hvalidate)
          rw [hstream] at hnone
          exact absurd hnone (by simp)
        · obtain ⟨validator', hvalidator, hfed⟩ := hprogress.fed hpast hvalidate
          rw [hstream] at hvalidator
          obtain rfl := Option.some.inj hvalidator
          exact ⟨fed, rfl, (fedTo_snoc hfed hname).mpr hfeed⟩
    · obtain rfl := (check_pixels_other hname).mp hpixels
      constructor
      · exact ⟨fun h => absurd h hpast, fun _ => honly, hdeclared, hformed,
          fun h => absurd h hname, hsupported⟩
      · have hnext := progress_other hprogress hpast hname
        have hseen : (if IDAT ∈ state.seen then { state with pixels_finished := true }
            else state).seen = state.seen := by
          split_ifs
          · rfl
          · rfl
        rw [hseen]
        exact hnext

/-- An allowed chunk passes when its pixel data, where it has any, can be fed. -/
lemma check_chunk_of_allowed (h : zlib.Lawful Stream)
    (hprogress : Progress validate_pixels past state) (hallowed : Allowed Stream policy past chunk)
    (hfed : validate_pixels = true → ∃ fed : PixelStreamValidator zlib, FedTo (past ++ [chunk]) fed) :
    ∃ state', check_chunk policy validate_pixels state chunk = .ok state' := by
  have hdeclared := hallowed.declared
  rw [← hprogress.seen, ← hprogress.seen] at hdeclared
  by_cases hpast : past = []
  · obtain ⟨hname, hvalid⟩ := hallowed.header hpast
    have hother : chunk.name ≠ IDAT := by
      rw [hname]
      decide
    exact ⟨_, (check_chunk_eq_ok h).mpr ⟨_, _,
      (check_header_first (hprogress.first.mpr hpast)).mpr ⟨⟨hname, hvalid⟩, rfl⟩,
      (check_pixels_other hother).mpr rfl, hdeclared, hallowed.wellFormed, hallowed.supported, rfl⟩⟩
  · have hfirst : state.first = false := by
      rw [← Bool.not_eq_true, hprogress.first]
      exact hpast
    have hheader : check_header policy validate_pixels state chunk = .ok state :=
      (check_header_later hfirst).mpr ⟨hallowed.only hpast, rfl⟩
    have hpixels : ∃ checked, check_pixels state chunk = .ok checked := by
      by_cases hname : chunk.name = IDAT
      · have hrunning : state.pixels_finished = false := by
          rw [← Bool.not_eq_true, hprogress.finished]
          exact hallowed.together hname
        cases hvalidate : validate_pixels with
        | false =>
          exact ⟨_, (check_pixels_skipped hname (hprogress.idle (Or.inr hvalidate))).mpr
            ⟨hrunning, rfl⟩⟩
        | true =>
          obtain ⟨validator, hvalidator, hbefore⟩ := hprogress.fed hpast hvalidate
          obtain ⟨fed, hafter⟩ := hfed hvalidate
          exact ⟨_, (check_pixels_fed hname hvalidator).mpr
            ⟨hrunning, fed, (fedTo_snoc hbefore hname).mp hafter, rfl⟩⟩
      · exact ⟨_, (check_pixels_other hname).mpr rfl⟩
    obtain ⟨checked, hpixels⟩ := hpixels
    exact ⟨_, (check_chunk_eq_ok h).mpr ⟨_, _, hheader, hpixels, hdeclared, hallowed.wellFormed,
      hallowed.supported, rfl⟩⟩

/-! ### All chunks -/

/-- Every chunk fits what stands before it. -/
def AllAllowed (Stream : List UInt8 → List UInt8 → Prop) (policy : ImagePolicy)
    (chunks : List PngChunk) : Prop :=
  ∀ before chunk after, chunks = before ++ chunk :: after → Allowed Stream policy before chunk

lemma allAllowed_nil : AllAllowed Stream policy [] :=
  fun _ _ _ hsplit => absurd hsplit (by simp)

lemma allAllowed_snoc :
    AllAllowed Stream policy (past ++ [chunk]) ↔
      AllAllowed Stream policy past ∧ Allowed Stream policy past chunk := by
  constructor
  · intro h
    refine ⟨?_, h past chunk [] rfl⟩
    rintro before other after rfl
    exact h before other (after ++ [chunk]) (by simp)
  · rintro ⟨hpast, hchunk⟩ before other after hsplit
    rcases List.eq_nil_or_concat after with rfl | ⟨front, last, rfl⟩
    · obtain ⟨rfl, heq⟩ := List.append_inj' hsplit rfl
      obtain rfl := (List.cons.inj heq).1
      exact hchunk
    · rw [List.concat_eq_append, ← List.cons_append, ← List.append_assoc] at hsplit
      obtain ⟨rfl, -⟩ := List.append_inj' hsplit rfl
      exact hpast before other front rfl

/-- The checks of the chunks of a list, one after another. -/
def check_chunks (policy : ImagePolicy) (validate_pixels : Bool) (chunks : List PngChunk) :
    Except (PngException ε) (PngState zlib) :=
  chunks.foldlM (check_chunk policy validate_pixels) {}

lemma check_chunks_snoc : (check_chunks policy validate_pixels (past ++ [chunk])
      : Except (PngException ε) (PngState zlib)) = .ok state' ↔
    ∃ state, check_chunks policy validate_pixels past = .ok state ∧
      check_chunk policy validate_pixels state chunk = .ok state' := by
  rw [check_chunks, List.foldlM_append, bind_eq_ok]
  simp [check_chunks]

/-- Chunks that pass are allowed, and the state is that behind them. -/
lemma of_check_chunks (h : zlib.Lawful Stream) {chunks : List PngChunk}
    (hok : check_chunks policy validate_pixels chunks = .ok state) :
    AllAllowed Stream policy chunks ∧ Progress validate_pixels chunks state := by
  induction chunks using List.reverseRecOn generalizing state with
  | nil =>
    obtain rfl := pure_eq_ok.mp hok
    exact ⟨allAllowed_nil, progress_empty⟩
  | append_singleton past chunk ih =>
    obtain ⟨before, hbefore, hchunk⟩ := check_chunks_snoc.mp hok
    obtain ⟨hallowed, hprogress⟩ := ih hbefore
    obtain ⟨hnext, hprogress⟩ := of_check_chunk h hprogress hchunk
    exact ⟨allAllowed_snoc.mpr ⟨hallowed, hnext⟩, hprogress⟩

/-- What can be fed with a chunk more can be fed without it. -/
lemma FedTo.before {fed : PixelStreamValidator zlib} (hpast : past ≠ [])
    (h : FedTo (past ++ [chunk]) fed) : ∃ validator : PixelStreamValidator zlib, FedTo past validator := by
  by_cases hname : chunk.name = IDAT
  · obtain ⟨header, rest, hsplit, hfed⟩ := h
    obtain ⟨header', rest', rfl⟩ := List.exists_cons_of_ne_nil hpast
    obtain rfl := (List.cons.inj hsplit).1
    rw [pixel_data_snoc hname, feed_chunks_snoc] at hfed
    obtain ⟨next, hnext, -⟩ := hfed
    exact ⟨next, header', rest', rfl, hnext⟩
  · exact ⟨fed, (fedTo_snoc_of_ne hpast hname).mp h⟩

/-- Allowed chunks pass when their pixel data can be fed. -/
lemma check_chunks_of_allowed (h : zlib.Lawful Stream) {chunks : List PngChunk}
    (hallowed : AllAllowed Stream policy chunks)
    (hfed : chunks ≠ [] → validate_pixels = true →
      ∃ fed : PixelStreamValidator zlib, FedTo chunks fed) :
    ∃ state : PngState zlib, check_chunks policy validate_pixels chunks = .ok state := by
  induction chunks using List.reverseRecOn with
  | nil => exact ⟨_, rfl⟩
  | append_singleton past chunk ih =>
    obtain ⟨hpast, hchunk⟩ := allAllowed_snoc.mp hallowed
    have hlast := hfed (by simp)
    obtain ⟨state, hstate⟩ := ih hpast fun hnil hvalidate => by
      obtain ⟨fed, hfed⟩ := hlast hvalidate
      exact hfed.before hnil
    obtain ⟨state', hstate'⟩ := check_chunk_of_allowed h (of_check_chunks h hstate).2 hchunk hlast
    exact ⟨state', check_chunks_snoc.mpr ⟨state, hstate, hstate'⟩⟩

end StegoLab

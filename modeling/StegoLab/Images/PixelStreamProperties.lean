import StegoLab.Images.PassCoverage

/-!
# What the validator accepts

Whatever the chunks, the validator accepts one complete stream of the expected size. It stops at the
first output beyond that size.
-/

namespace StegoLab
namespace PixelStreamValidator

variable {ε : Type} {zlib : Decompressor ε} {Stream : List UInt8 → List UInt8 → Prop}
  {validator : PixelStreamValidator zlib} {taken content pending : List UInt8}

/-! ### The state between two rounds -/

/-- The validator has taken these bytes, which decode to this content. -/
structure Position (validator : PixelStreamValidator zlib) (taken content : List UInt8) : Prop where
  history : zlib.History validator.decoder taken content
  counted : validator.decoded_bytes = content.length
  within : validator.decoded_bytes ≤ validator.expected_bytes
  clean : zlib.eof validator.decoder = true →
    zlib.unused_data validator.decoder = [] ∧ zlib.unconsumed_tail validator.decoder = []

/-- The end of the stream has been seen where there is one. -/
def Settled (Stream : List UInt8 → List UInt8 → Prop) (validator : PixelStreamValidator zlib)
    (taken : List UInt8) : Prop :=
  ∀ whole, Stream taken whole → zlib.eof validator.decoder = true

/-- What a call of `feed` leaves. -/
structure Fed (Stream : List UInt8 → List UInt8 → Prop) (validator : PixelStreamValidator zlib)
    (taken pending : List UInt8) (outcome : Except (PixelFailure ε) Unit)
    (fed : PixelStreamValidator zlib) : Prop where
  expected : fed.expected_bytes = validator.expected_bytes
  bounded : fed.decoded_bytes ≤ validator.expected_bytes + OUTPUT_BYTES
  returned : outcome = .ok () →
    (∃ content, fed.Position (taken ++ pending) content) ∧ fed.Settled Stream (taken ++ pending)
  accepted : ∀ more whole, Stream (taken ++ pending ++ more) whole →
    whole.length = validator.expected_bytes → outcome = .ok ()

lemma Position.create (h : zlib.Lawful Stream) (width height channels interlace : ℕ) :
    (create zlib width height channels interlace).Position [] [] where
  history := .start
  counted := rfl
  within := Nat.zero_le _
  clean heof := by
    rw [PixelStreamValidator.create, h.open_start] at heof
    exact absurd heof Bool.false_ne_true

/-! ### One round -/

section Round

variable {used output : List UInt8} {decoder : zlib.State}
  (h : zlib.Lawful Stream) (hposition : validator.Position taken content)
  (hopen : zlib.eof validator.decoder = false)
  (hround : zlib.decompress validator.decoder (used ++ zlib.rest decoder) OUTPUT_BYTES
    = .ok (output, decoder))

include h hposition hround in
lemma bounded_round :
    (validator.decoded output decoder).decoded_bytes ≤ validator.expected_bytes + OUTPUT_BYTES := by
  apply Nat.add_le_add hposition.within
  exact h.within_limit (by decide) hround

include h hopen in
lemma rest_of_clean (hunused : zlib.unused_data decoder = [])
    (hround : ∃ data, zlib.decompress validator.decoder data OUTPUT_BYTES = .ok (output, decoder)) :
    zlib.rest decoder = zlib.unconsumed_tail decoder := by
  obtain ⟨data, hround⟩ := hround
  unfold Decompressor.rest
  split_ifs with heof
  · rw [hunused, h.no_tail hopen hround heof]
  · rfl

include h hposition hopen hround in
lemma Position.round (hunused : zlib.unused_data decoder = [])
    (hwithin : (validator.decoded output decoder).decoded_bytes ≤ validator.expected_bytes) :
    (validator.decoded output decoder).Position (taken ++ used) (content ++ output) where
  history := .decompress hposition.history hopen hround
  counted := by
    rw [List.length_append, ← hposition.counted]
    rfl
  within := hwithin
  clean heof := ⟨hunused, h.no_tail hopen hround heof⟩

include h hposition hopen hround in
/-- On a stream of the expected size a round exceeds nothing. -/
lemma accepted_round {more whole : List UInt8}
    (hstream : Stream (taken ++ (used ++ zlib.rest decoder) ++ more) whole)
    (hlength : whole.length = validator.expected_bytes) :
    (validator.decoded output decoder).decoded_bytes ≤ validator.expected_bytes
      ∧ zlib.unused_data decoder = [] := by
  obtain ⟨output', decoder', hround', hcontent⟩ :=
    h.accepts OUTPUT_BYTES hposition.history hopen hstream
  rw [hround] at hround'
  obtain ⟨rfl, rfl⟩ := Prod.mk.inj (Except.ok.inj hround')
  constructor
  · calc validator.decoded_bytes + output.length = (content ++ output).length := by
          rw [List.length_append, hposition.counted]
      _ ≤ whole.length := hcontent.length_le
      _ = validator.expected_bytes := hlength
  · cases heof : zlib.eof decoder with
    | false => exact h.no_unused_data hopen hround heof
    | true =>
      -- The stream ended with the bytes taken, so there is nothing behind them.
      have hended := h.stream_of_eof (.decompress hposition.history hopen hround) heof
      have hbeginning : taken ++ used <+: taken ++ (used ++ zlib.rest decoder) ++ more := by
        rw [← List.append_assoc taken, List.append_assoc]
        exact List.prefix_append _ _
      have heq := (h.self_terminating hended hstream hbeginning).1
      have hrest : zlib.rest decoder = [] := by
        have := congrArg List.length heq
        simp only [List.length_append] at this
        exact List.eq_nil_of_length_eq_zero (by omega)
      rwa [Decompressor.rest, if_pos heof] at hrest

end Round

/-! ### The loop -/

lemma OUTPUT_BYTES_pos : 0 < OUTPUT_BYTES := by
  decide

/-- The loop ends, since every round but the last one decodes a full output. -/
lemma feed_loop_fed (h : zlib.Lawful Stream) {rounds : ℕ}
    (hposition : validator.Position taken content)
    (hpending : zlib.eof validator.decoder = true → pending = [])
    (hrounds : validator.expected_bytes - validator.decoded_bytes < OUTPUT_BYTES * rounds) :
    ∃ outcome fed, feed_loop rounds validator pending = some (outcome, fed)
      ∧ Fed Stream validator taken pending outcome fed := by
  induction rounds generalizing validator taken content pending with
  | zero => exact absurd hrounds (Nat.not_lt_zero _)
  | succ rounds ih =>
    rw [feed_loop]
    cases hopen : zlib.eof validator.decoder with
    | true =>
      obtain rfl := hpending hopen
      obtain ⟨hunused, htail⟩ := hposition.clean hopen
      rw [h.idle hopen]
      have hsame : validator.decoded [] validator.decoder = validator := rfl
      have hcheck : ¬ (validator.expected_bytes < validator.decoded_bytes
          ∨ zlib.unused_data validator.decoder ≠ []) := by
        rintro (hover | hdata)
        · exact absurd hposition.within (not_le.mpr hover)
        · exact hdata hunused
      simp only [hsame, if_neg hcheck]
      rw [if_pos ⟨htail, OUTPUT_BYTES_pos⟩]
      refine ⟨_, _, rfl, rfl, hposition.within.trans (Nat.le_add_right _ _), fun _ => ?_,
        fun _ _ _ _ => rfl⟩
      rw [List.append_nil]
      exact ⟨⟨content, hposition⟩, fun _ _ => hopen⟩
    | false =>
      rcases hround : zlib.decompress validator.decoder pending OUTPUT_BYTES with e | ⟨output, decoder⟩
      · refine ⟨_, _, rfl, rfl, hposition.within.trans (Nat.le_add_right _ _), fun hok => ?_,
          fun more whole hstream _ => ?_⟩
        · exact absurd hok (by simp)
        · obtain ⟨output, decoder, hok, _⟩ :=
            h.accepts OUTPUT_BYTES hposition.history hopen hstream
          rw [hround] at hok
          exact absurd hok (by simp)
      · obtain ⟨used, rfl⟩ := h.keeps_rest hposition.history hopen hround
        simp only
        split_ifs with hexceeds hlast
        · refine ⟨_, _, rfl, rfl, bounded_round h hposition hround, fun hok => ?_,
            fun more whole hstream hlength => ?_⟩
          · exact absurd hok (by simp)
          · obtain ⟨hwithin, hunused⟩ := accepted_round h hposition hopen hround hstream hlength
            rcases hexceeds with hover | hdata
            · exact absurd hwithin (not_le.mpr hover)
            · exact absurd hunused hdata
        · rw [not_or, not_lt, not_not] at hexceeds
          have hnext := hposition.round h hopen hround hexceeds.2 hexceeds.1
          have hrest := (rest_of_clean h hopen hexceeds.2 ⟨_, hround⟩).trans hlast.1
          refine ⟨_, _, rfl, rfl, bounded_round h hposition hround, fun _ => ?_, fun _ _ _ _ => rfl⟩
          rw [hrest, List.append_nil]
          refine ⟨⟨_, hnext⟩, fun whole hstream => ?_⟩
          rw [hrest, List.append_nil] at hround
          exact h.eof_of_stream hposition.history hopen hround hlast.2 hstream
        · rw [not_or, not_lt, not_not] at hexceeds
          have hnext := hposition.round h hopen hround hexceeds.2 hexceeds.1
          have hrest := rest_of_clean h hopen hexceeds.2 ⟨_, hround⟩
          have hfull : output.length = OUTPUT_BYTES := by
            by_cases htail : zlib.unconsumed_tail decoder = []
            · apply le_antisymm (h.within_limit OUTPUT_BYTES_pos hround)
              exact not_lt.mp fun hshort => hlast ⟨htail, hshort⟩
            · cases heof : zlib.eof decoder with
              | true => exact absurd (h.no_tail hopen hround heof) htail
              | false => exact h.full_of_tail OUTPUT_BYTES_pos hopen hround heof htail
          have hfewer : (validator.decoded output decoder).expected_bytes
              - (validator.decoded output decoder).decoded_bytes < OUTPUT_BYTES * rounds := by
            change validator.expected_bytes - (validator.decoded_bytes + output.length) < _
            rw [Nat.mul_succ] at hrounds
            have hpositive := OUTPUT_BYTES_pos
            have hwithin : validator.decoded_bytes + output.length ≤ validator.expected_bytes :=
              hexceeds.1
            omega
          obtain ⟨outcome, fed, hloop, hfed⟩ :=
            ih hnext (fun heof => (hnext.clean heof).2) hfewer
          refine ⟨outcome, fed, hloop, hfed.expected, hfed.bounded, fun hok => ?_,
            fun more whole hstream hlength => ?_⟩
          · have hreturned := hfed.returned hok
            rw [hrest, ← List.append_assoc]
            exact hreturned
          · apply hfed.accepted more whole _ hlength
            rw [hrest, ← List.append_assoc taken] at hstream
            exact hstream

/-! ### Chunks -/

/-- Every call of `feed` ends. -/
lemma feed_fed (h : zlib.Lawful Stream) {rounds : ℕ} (data : List UInt8)
    (hposition : validator.Position taken content)
    (hrounds : validator.expected_bytes < OUTPUT_BYTES * rounds) :
    ∃ outcome fed, feed rounds validator data = some (outcome, fed)
      ∧ Fed Stream validator taken data outcome fed := by
  rw [feed]
  split_ifs with hafter
  · refine ⟨_, _, rfl, rfl, hposition.within.trans (Nat.le_add_right _ _), fun hok => ?_,
      fun more whole hstream _ => ?_⟩
    · exact absurd hok (by simp)
    · have hended := h.stream_of_eof hposition.history hafter.1
      have hbeginning : taken <+: taken ++ data ++ more := by
        rw [List.append_assoc]
        exact List.prefix_append _ _
      have heq := (h.self_terminating hended hstream hbeginning).1
      have hdata : data = [] := by
        have := congrArg List.length heq
        simp only [List.length_append] at this
        exact List.eq_nil_of_length_eq_zero (by omega)
      exact absurd hdata hafter.2
  · apply feed_loop_fed h hposition
    · intro heof
      by_contra hdata
      exact hafter ⟨heof, hdata⟩
    · omega

/-- What the calls of `feed` leave. -/
lemma feed_chunks_fed (h : zlib.Lawful Stream) {rounds : ℕ} (chunks : List (List UInt8))
    (hposition : validator.Position taken content) (hsettled : validator.Settled Stream taken)
    (hrounds : validator.expected_bytes < OUTPUT_BYTES * rounds) :
    ∃ outcome fed, feed_chunks rounds validator chunks = some (outcome, fed)
      ∧ Fed Stream validator taken chunks.flatten outcome fed := by
  induction chunks generalizing validator taken content with
  | nil =>
    refine ⟨_, _, rfl, rfl, hposition.within.trans (Nat.le_add_right _ _), fun _ => ?_,
      fun _ _ _ _ => rfl⟩
    rw [List.flatten_nil, List.append_nil]
    exact ⟨⟨content, hposition⟩, hsettled⟩
  | cons data chunks ih =>
    obtain ⟨outcome, fed, hfeed, hfed⟩ := feed_fed h data hposition hrounds
    cases outcome with
    | error e =>
      refine ⟨.error e, fed, ?_, hfed.expected, hfed.bounded, fun hok => ?_,
        fun more whole hstream hlength => ?_⟩
      · rw [feed_chunks, hfeed]
      · exact absurd hok (by simp)
      · apply hfed.accepted (chunks.flatten ++ more) whole _ hlength
        rw [List.flatten_cons] at hstream
        simpa only [List.append_assoc] using hstream
    | ok u =>
      obtain ⟨⟨content', hposition'⟩, hsettled'⟩ := hfed.returned rfl
      have hexpected := hfed.expected
      obtain ⟨outcome, fed', hchunks, hfed'⟩ := ih hposition' hsettled' (by rwa [hexpected])
      refine ⟨outcome, fed', ?_, hfed'.expected.trans hexpected, ?_, fun hok => ?_,
        fun more whole hstream hlength => ?_⟩
      · rw [feed_chunks, hfeed]
        exact hchunks
      · rw [← hexpected]
        exact hfed'.bounded
      · rw [List.flatten_cons, ← List.append_assoc]
        exact hfed'.returned hok
      · apply hfed'.accepted more whole
        · rw [List.flatten_cons, ← List.append_assoc] at hstream
          exact hstream
        · rw [hexpected]
          exact hlength

lemma finish_eq_ok {u : Unit} : finish validator = .ok u ↔
    zlib.eof validator.decoder = true ∧ validator.decoded_bytes = validator.expected_bytes := by
  rw [finish, raise_if_eq_ok, not_or, Bool.not_eq_false, not_not]

/-- A validator accepts the chunks of one complete stream of the expected size, and no others. -/
theorem accepts_iff (h : zlib.Lawful Stream) {rounds : ℕ} (chunks : List (List UInt8))
    (hposition : validator.Position taken content) (hsettled : validator.Settled Stream taken)
    (hrounds : validator.expected_bytes < OUTPUT_BYTES * rounds) :
    validator.Accepts rounds chunks ↔
      ∃ whole, Stream (taken ++ chunks.flatten) whole ∧ whole.length = validator.expected_bytes := by
  obtain ⟨outcome, fed, hchunks, hfed⟩ := feed_chunks_fed h chunks hposition hsettled hrounds
  constructor
  · rintro ⟨fed', hok, hfinish⟩
    obtain ⟨rfl, rfl⟩ := Prod.mk.inj (Option.some.inj (hchunks.symm.trans hok))
    obtain ⟨⟨whole, hposition'⟩, -⟩ := hfed.returned rfl
    obtain ⟨heof, hdecoded⟩ := finish_eq_ok.mp hfinish
    refine ⟨whole, h.stream_of_eof hposition'.history heof, ?_⟩
    rw [← hposition'.counted, hdecoded, hfed.expected]
  · rintro ⟨whole, hstream, hlength⟩
    have hok : outcome = .ok () := by
      apply hfed.accepted [] whole _ hlength
      rwa [List.append_nil]
    subst hok
    obtain ⟨⟨content', hposition'⟩, hsettled'⟩ := hfed.returned rfl
    have heof := hsettled' whole hstream
    have hcontent : content' = whole :=
      (h.self_terminating (h.stream_of_eof hposition'.history heof) hstream List.prefix_rfl).2
    refine ⟨fed, hchunks, finish_eq_ok.mpr ⟨heof, ?_⟩⟩
    rw [hposition'.counted, hcontent, hlength, hfed.expected]

lemma settled_create (h : zlib.Lawful Stream) (width height channels interlace : ℕ) :
    (create zlib width height channels interlace).Settled Stream [] :=
  fun _ hstream => absurd hstream h.nonempty

end PixelStreamValidator

/-! ### The budget -/

open PixelStreamValidator

/-- The stored stream of one black pixel. -/
def BLACK_PIXEL_STREAM : List UInt8 :=
  [0x78, 0x01, 0x01, 0x02, 0x00, 0xfd, 0xff, 0x00, 0x00, 0x00, 0x02, 0x00, 0x01]

def BLACK_PIXEL : List UInt8 :=
  [0x00, 0x00]

end StegoLab

import Mathlib.Data.List.Basic
import Mathlib.Data.Nat.Notation

/-!
# Incremental decompression

A decompressor takes a compressed stream in pieces and returns the content in pieces of a bounded
size. What it does not take of a piece it keeps: as its tail when the output is full, as unused data
when the stream has ended.
-/

/-- A decompression object and what it shows of itself. -/
structure Decompressor (ε : Type) where
  State : Type
  start : State
  decompress : State → List UInt8 → ℕ → Except ε (List UInt8 × State)
  eof : State → Bool
  unused_data : State → List UInt8
  unconsumed_tail : State → List UInt8

namespace Decompressor

variable {ε : Type} (zlib : Decompressor ε)

/-- What is kept of the last piece. -/
def rest (state : zlib.State) : List UInt8 :=
  if zlib.eof state = true then zlib.unused_data state else zlib.unconsumed_tail state

/-- The object has taken these bytes and has returned this content. -/
inductive History : zlib.State → List UInt8 → List UInt8 → Prop where
  | start : History zlib.start [] []
  | decompress {state state' : zlib.State} {taken used content output : List UInt8} {limit : ℕ} :
    History state taken content → zlib.eof state = false →
    zlib.decompress state (used ++ zlib.rest state') limit = .ok (output, state') →
    History state' (taken ++ used) (content ++ output)

/-- A decompressor of a format, whose streams `Stream` relates to their contents. -/
structure Lawful (Stream : List UInt8 → List UInt8 → Prop) : Prop where
  /-- The format tells where a stream ends. -/
  self_terminating : ∀ {z z' content content'}, Stream z content → Stream z' content' → z <+: z' →
    z = z' ∧ content = content'
  nonempty : ∀ {content}, ¬ Stream [] content
  open_start : zlib.eof zlib.start = false
  within_limit : ∀ {state state' data limit output}, 0 < limit →
    zlib.decompress state data limit = .ok (output, state') → output.length ≤ limit
  /-- The bytes that are not taken are the last ones. -/
  keeps_rest : ∀ {state state' taken content data limit output},
    zlib.History state taken content → zlib.eof state = false →
    zlib.decompress state data limit = .ok (output, state') →
    ∃ used, data = used ++ zlib.rest state'
  /-- Input is put off only when the output is full. -/
  full_of_tail : ∀ {state state' data limit output}, 0 < limit → zlib.eof state = false →
    zlib.decompress state data limit = .ok (output, state') → zlib.eof state' = false →
    zlib.unconsumed_tail state' ≠ [] → output.length = limit
  no_unused_data : ∀ {state state' data limit output}, zlib.eof state = false →
    zlib.decompress state data limit = .ok (output, state') → zlib.eof state' = false →
    zlib.unused_data state' = []
  no_tail : ∀ {state state' data limit output}, zlib.eof state = false →
    zlib.decompress state data limit = .ok (output, state') → zlib.eof state' = true →
    zlib.unconsumed_tail state' = []
  /-- The end is reported for a stream whose content has been returned. -/
  stream_of_eof : ∀ {state taken content}, zlib.History state taken content →
    zlib.eof state = true → Stream taken content
  /-- With room for output left, the end of a stream is seen. -/
  eof_of_stream : ∀ {state state' taken content data limit output whole},
    zlib.History state taken content → zlib.eof state = false →
    zlib.decompress state data limit = .ok (output, state') → output.length < limit →
    Stream (taken ++ data) whole → zlib.eof state' = true
  /-- A beginning of a stream is decompressed to a beginning of its content. -/
  accepts : ∀ {state taken content data more whole} (limit : ℕ), zlib.History state taken content →
    zlib.eof state = false → Stream (taken ++ data ++ more) whole →
    ∃ output state', zlib.decompress state data limit = .ok (output, state') ∧
      content ++ output <+: whole
  /-- Nothing comes after the end. -/
  idle : ∀ {state limit}, zlib.eof state = true → zlib.decompress state [] limit = .ok ([], state)

/-- A stream that is given at once and whose content fits is decompressed whole. -/
theorem Lawful.at_once {zlib : Decompressor ε} {Stream : List UInt8 → List UInt8 → Prop}
    (h : zlib.Lawful Stream) {data : List UInt8} {limit : ℕ} :
    (∃ output state, zlib.decompress zlib.start data limit = .ok (output, state) ∧
      output.length < limit ∧ zlib.eof state = true ∧ zlib.unused_data state = []) ↔
      ∃ whole, Stream data whole ∧ whole.length < limit := by
  constructor
  · rintro ⟨output, state, hok, hroom, heof, hunused⟩
    obtain ⟨used, rfl⟩ := h.keeps_rest .start h.open_start hok
    have hstream := h.stream_of_eof (.decompress .start h.open_start hok) heof
    have hrest : zlib.rest state = [] := by
      rw [rest, if_pos heof, hunused]
    rw [hrest, List.append_nil]
    exact ⟨output, hstream, hroom⟩
  · rintro ⟨whole, hstream, hroom⟩
    have hbeginning : Stream ([] ++ data ++ []) whole := by
      rwa [List.append_nil]
    obtain ⟨output, state, hok, houtput⟩ := h.accepts limit .start h.open_start hbeginning
    have hshort : output.length < limit := Nat.lt_of_le_of_lt houtput.length_le hroom
    have heof := h.eof_of_stream .start h.open_start hok hshort hstream
    obtain ⟨used, rfl⟩ := h.keeps_rest .start h.open_start hok
    have hended := h.stream_of_eof (.decompress .start h.open_start hok) heof
    have hused := (h.self_terminating hended hstream (List.prefix_append _ _)).1
    have hrest : zlib.rest state = [] := List.append_right_eq_self.mp hused.symm
    rw [rest, if_pos heof] at hrest
    exact ⟨output, state, hok, hshort, heof, hrest⟩

/-! ### The decompressor of one stream -/

namespace Single

/-- How far a stream has been taken and its content returned. -/
structure State where
  taken : ℕ
  returned : ℕ
  unused : List UInt8
  tail : List UInt8
  deriving DecidableEq

variable (stream content : List UInt8)

def Ended (state : State) : Prop :=
  stream.length ≤ state.taken ∧ content.length ≤ state.returned

instance (state : State) : Decidable (Ended stream content state) :=
  inferInstanceAs (Decidable (_ ∧ _))

/-- The content that is there once the whole stream has been taken. -/
def output (state : State) (taken limit : ℕ) : List UInt8 :=
  if stream.length ≤ taken then (content.drop state.returned).take limit else []

/-- The state behind a piece of the stream. -/
def next (state : State) (data : List UInt8) (limit : ℕ) : State :=
  let used := data.take (stream.length - state.taken)
  let taken := state.taken + used.length
  let returned := state.returned + (output stream content state taken limit).length
  let ended := stream.length ≤ taken ∧ content.length ≤ returned
  { taken := taken
    returned := returned
    unused := if ended then data.drop used.length else []
    tail := if ended then [] else data.drop used.length }

def take_piece (state : State) (data : List UInt8) (limit : ℕ) :
    Except Unit (List UInt8 × State) :=
  if Ended stream content state then .ok ([], { state with unused := state.unused ++ data })
  else if data.take (stream.length - state.taken) <+: stream.drop state.taken then
    .ok (output stream content state
      (state.taken + (data.take (stream.length - state.taken)).length) limit,
      next stream content state data limit)
  else .error ()

end Single

/-- A decompressor that knows one stream and returns its content at the end of the stream. -/
abbrev single (stream content : List UInt8) : Decompressor Unit where
  State := Single.State
  start := ⟨0, 0, [], []⟩
  decompress := Single.take_piece stream content
  eof state := decide (Single.Ended stream content state)
  unused_data := Single.State.unused
  unconsumed_tail := Single.State.tail

namespace Single

variable {stream content : List UInt8} {state state' : State} {data taken returned : List UInt8}
  {output' : List UInt8} {limit : ℕ}

/-- A decompression that succeeds before the end takes a beginning of what is missing. -/
lemma of_take_piece (hopen : ¬ Ended stream content state)
    (h : take_piece stream content state data limit = .ok (output', state')) :
    data.take (stream.length - state.taken) <+: stream.drop state.taken ∧
      output' = output stream content state
        (state.taken + (data.take (stream.length - state.taken)).length) limit ∧
      state' = next stream content state data limit := by
  rw [take_piece, if_neg hopen] at h
  split_ifs at h with hbegins
  obtain ⟨rfl, rfl⟩ := Prod.mk.inj (Except.ok.inj h)
  exact ⟨hbegins, rfl, rfl⟩

lemma take_piece_of_prefix (hopen : ¬ Ended stream content state)
    (h : data.take (stream.length - state.taken) <+: stream.drop state.taken) :
    take_piece stream content state data limit = .ok (output stream content state
      (state.taken + (data.take (stream.length - state.taken)).length) limit,
      next stream content state data limit) := by
  rw [take_piece, if_neg hopen, if_pos h]

lemma length_output_le {taken : ℕ} : (output stream content state taken limit).length ≤ limit := by
  unfold output
  split_ifs
  · exact List.length_take_le _ _
  · exact Nat.zero_le _

/-- When input is left although the stream has not ended, the output is full. -/
lemma length_output_eq (hopen : ¬ Ended stream content (next stream content state data limit))
    (htail : (next stream content state data limit).tail ≠ []) :
    (output stream content state
      (state.taken + (data.take (stream.length - state.taken)).length) limit).length = limit := by
  have hdrop : data.drop (data.take (stream.length - state.taken)).length ≠ [] := by
    intro hnil
    exact htail ((if_neg hopen).trans hnil)
  have htaken : stream.length ≤ state.taken + (data.take (stream.length - state.taken)).length := by
    rw [List.length_take] at hdrop ⊢
    rw [ne_eq, List.drop_eq_nil_iff] at hdrop
    omega
  have hreturned : ¬ content.length ≤ state.returned + (output stream content state
      (state.taken + (data.take (stream.length - state.taken)).length) limit).length :=
    fun h => hopen ⟨htaken, h⟩
  rw [output, if_pos htaken, List.length_take, List.length_drop] at hreturned ⊢
  omega

/-- With room for output left, a stream that has been taken has ended. -/
lemma ended_of_room (hdata : state.taken + data.length = stream.length)
    (hroom : (output stream content state
      (state.taken + (data.take (stream.length - state.taken)).length) limit).length < limit) :
    Ended stream content (next stream content state data limit) := by
  have htaken : stream.length ≤ state.taken + (data.take (stream.length - state.taken)).length := by
    rw [List.length_take]
    omega
  refine ⟨htaken, ?_⟩
  change content.length ≤ state.returned + (output stream content state
    (state.taken + (data.take (stream.length - state.taken)).length) limit).length
  rw [output, if_pos htaken, List.length_take, List.length_drop] at hroom ⊢
  omega

lemma rest_next : (single stream content).rest (next stream content state data limit)
    = data.drop (data.take (stream.length - state.taken)).length := by
  unfold Decompressor.rest
  by_cases hended : Ended stream content (next stream content state data limit)
  · rw [if_pos (decide_eq_true hended)]
    exact if_pos hended
  · rw [if_neg (by simpa [single] using hended)]
    exact if_neg hended

/-- The state stands for what has been taken and returned. -/
structure Traced (stream content : List UInt8) (state : State) (taken returned : List UInt8) :
    Prop where
  taken : taken = stream.take state.taken
  within : state.taken ≤ stream.length
  returned : returned = content.take state.returned
  bounded : state.returned ≤ content.length

lemma Traced.next (limit : ℕ) (h : Traced stream content state taken returned)
    (hbegins : data.take (stream.length - state.taken) <+: stream.drop state.taken) :
    Traced stream content (next stream content state data limit)
      (taken ++ data.take (stream.length - state.taken))
      (returned ++ output stream content state
        (state.taken + (data.take (stream.length - state.taken)).length) limit) where
  taken := by
    change _ = stream.take (state.taken + (data.take (stream.length - state.taken)).length)
    rw [h.taken, List.take_add, ← List.prefix_iff_eq_take.mp hbegins]
  within := by
    have hlength := hbegins.length_le
    rw [List.length_drop] at hlength
    have hwithin := h.within
    change state.taken + (data.take (stream.length - state.taken)).length ≤ stream.length
    omega
  returned := by
    change _ = content.take (state.returned + (output stream content state _ limit).length)
    rw [h.returned, List.take_add]
    congr 1
    unfold output
    split_ifs
    · rw [List.length_take, List.take_eq_take_iff]
      omega
    · rfl
  bounded := by
    change state.returned + (output stream content state _ limit).length ≤ content.length
    have hbounded := h.bounded
    unfold output
    split_ifs
    · rw [List.length_take, List.length_drop]
      omega
    · exact hbounded

lemma traced {state : (single stream content).State}
    (h : (single stream content).History state taken returned) :
    Traced stream content state taken returned := by
  induction h with
  | start => exact ⟨rfl, Nat.zero_le _, rfl, Nat.zero_le _⟩
  | @decompress state state' taken used returned output limit _ hopen hround ih =>
    have hnot : ¬ Ended stream content state := of_decide_eq_false hopen
    obtain ⟨hbegins, rfl, hstate⟩ := of_take_piece hnot hround
    have hrest : (single stream content).rest state' = _ := hstate ▸ rest_next
    have hused : used = (used ++ (single stream content).rest state').take
        (stream.length - state.taken) := by
      have hsplit := List.take_append_drop
        ((used ++ (single stream content).rest state').take (stream.length - state.taken)).length
        (used ++ (single stream content).rest state')
      rw [← hrest] at hsplit
      have htake := List.append_cancel_right hsplit
      exact htake.symm.trans (List.prefix_iff_eq_take.mp (List.take_prefix _ _)).symm
    have hnext := ih.next limit hbegins
    rw [← hstate, ← hused] at hnext
    rw [← hused]
    exact hnext

end Single

open Single in
/-- The decompressor of one stream is lawful. -/
theorem lawful_single {stream content : List UInt8} (hstream : stream ≠ []) :
    (single stream content).Lawful fun z whole => z = stream ∧ whole = content where
  self_terminating := by
    rintro _ _ _ _ ⟨rfl, rfl⟩ ⟨rfl, rfl⟩ _
    exact ⟨rfl, rfl⟩
  nonempty h := hstream h.1.symm
  open_start := by
    apply decide_eq_false
    rintro ⟨h, -⟩
    exact hstream (List.eq_nil_of_length_eq_zero (Nat.le_zero.mp h))
  within_limit := by
    intro state state' data limit output' _ h
    by_cases hended : Ended stream content state
    · change take_piece stream content state data limit = _ at h
      rw [take_piece, if_pos hended] at h
      obtain ⟨rfl, -⟩ := Prod.mk.inj (Except.ok.inj h)
      exact Nat.zero_le _
    · obtain ⟨-, rfl, -⟩ := of_take_piece hended h
      exact length_output_le
  keeps_rest := by
    intro state state' taken returned data limit output' _ hopen h
    obtain ⟨-, -, rfl⟩ := of_take_piece (of_decide_eq_false hopen) h
    rw [rest_next]
    exact ⟨_, (List.take_append_drop _ data).symm⟩
  full_of_tail := by
    intro state state' data limit output' _ hopen h hopen' htail
    obtain ⟨-, rfl, rfl⟩ := of_take_piece (of_decide_eq_false hopen) h
    exact length_output_eq (of_decide_eq_false hopen') htail
  no_unused_data := by
    intro state state' data limit output' hopen h hopen'
    obtain ⟨-, -, rfl⟩ := of_take_piece (of_decide_eq_false hopen) h
    exact if_neg (of_decide_eq_false hopen')
  no_tail := by
    intro state state' data limit output' hopen h heof
    obtain ⟨-, -, rfl⟩ := of_take_piece (of_decide_eq_false hopen) h
    exact if_pos (of_decide_eq_true heof)
  stream_of_eof := by
    intro state taken returned hhistory heof
    obtain ⟨htaken, hreturned⟩ : Ended stream content state := of_decide_eq_true heof
    have htraced := traced hhistory
    rw [htraced.taken, htraced.returned, List.take_of_length_le htaken,
      List.take_of_length_le hreturned]
    exact ⟨rfl, rfl⟩
  eof_of_stream := by
    rintro state state' taken returned data limit output' _ hhistory hopen h hroom ⟨hwhole, -⟩
    obtain ⟨-, rfl, rfl⟩ := of_take_piece (of_decide_eq_false hopen) h
    have htraced := traced hhistory
    have hdata : state.taken + data.length = stream.length := by
      rw [← congrArg List.length hwhole, List.length_append, htraced.taken, List.length_take,
        Nat.min_eq_left htraced.within]
    exact decide_eq_true (ended_of_room hdata hroom)
  accepts := by
    rintro state taken returned data more _ limit hhistory hopen ⟨hwhole, rfl⟩
    have htraced := traced hhistory
    have hmissing : stream.drop state.taken = data ++ more := by
      have hlength : taken.length = state.taken := by
        rw [htraced.taken, List.length_take, Nat.min_eq_left htraced.within]
      rw [← hwhole, List.append_assoc, ← hlength, List.drop_left]
    have hbegins : data.take (stream.length - state.taken) <+: stream.drop state.taken := by
      rw [hmissing]
      exact (List.take_prefix _ _).trans (List.prefix_append _ _)
    refine ⟨_, _, take_piece_of_prefix (of_decide_eq_false hopen) hbegins, ?_⟩
    rw [(htraced.next limit hbegins).returned]
    exact List.take_prefix _ _
  idle := by
    intro state limit heof
    change take_piece stream content state [] limit = _
    rw [take_piece, if_pos (of_decide_eq_true heof), List.append_nil]

end Decompressor

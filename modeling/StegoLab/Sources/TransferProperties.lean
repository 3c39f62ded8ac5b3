import Mathlib.Data.List.ReduceOption
import StegoLab.Sources.Transfer

/-!
# What a download leaves behind

The part file, the digest and the count of a download stay in step over every body, however it is
cut into pieces, and at every stop.
-/

namespace StegoLab

open Transaction Program

variable {faults : CacheFaults} {transport : TransportOpen} {asset : RemoteAsset}
  {file : PartialFile} {maximum_bytes : ℕ} {stop : ℕ → Bool} {sha256 : List UInt8 → String}
  {data : List UInt8} {network : ℕ}

/-! ### The part file -/

lemma get?_modify_partials {disk : CacheDisk} {directory : String}
    {f : CacheDirectory → CacheDirectory} (key : String) :
    (disk.modify directory f).partials.get? key =
      if key = directory then (disk.partials.get? directory).map f else disk.partials.get? key := by
  rw [CacheDisk.modify]
  cases h : disk.partials.get? directory with
  | none =>
    by_cases hkey : key = directory
    · rw [if_pos hkey, hkey, h]
      rfl
    · rw [if_neg hkey]
  | some content =>
    rw [Dict.get?_insert]
    rfl

/-- The part file has these bytes, and this many body bytes have arrived. -/
def TransferState.Holds (state : TransferState) (file : PartialFile) (data : List UInt8)
    (network : ℕ) : Prop :=
  state.disk.part? file.directory file.name = some data ∧ state.network = network

/-- A part file can be replaced where its directory is there. -/
lemma part?_put {disk : CacheDisk} (h : (disk.partials.get? file.directory).isSome = true) :
    (file.put data disk).part? file.directory file.name = some data := by
  obtain ⟨content, hcontent⟩ := Option.isSome_iff_exists.mp h
  rw [CacheDisk.part?, PartialFile.put, get?_modify_partials, if_pos rfl, hcontent]
  exact (Dict.get?_insert ..).trans (if_pos rfl)

lemma isSome_of_part? {disk : CacheDisk} (h : disk.part? file.directory file.name = some data) :
    (disk.partials.get? file.directory).isSome = true := by
  obtain ⟨content, hcontent, -⟩ := Option.bind_eq_some_iff.mp h
  exact Option.isSome_of_eq_some hcontent

/-! ### Guards -/

section Guards

variable {σ α : Type} {P : σ → Prop} {R : Stop FetchException → σ → Prop} {Q : α → σ → Prop}

/-- The rest of a program behind a check. -/
lemma contract_guard {condition : Prop} [Decidable condition] {exception : FetchException}
    {rest : Program σ FetchException α}
    (hraise : condition → ∀ s, P s → R (.raised exception) s)
    (hrest : ¬ condition → Contract P rest Q R) :
    Contract P (attempt (raise_if condition exception) >>= fun _ => rest) Q R := by
  refine Contract.bind (Q := fun _ s => ¬ condition ∧ P s)
    (contract_attempt (fun _ hok s hs => ⟨raise_if_eq_ok.mp hok, hs⟩) fun e herror => ?_)
    fun _ => .assume hrest
  rw [raise_if] at herror
  split_ifs at herror with hcondition
  obtain rfl := Except.error.inj herror
  exact hraise hcondition

end Guards

/-! ### The body -/

/-- The pieces of a body that are taken before a stop or the limit ends the loop, from the number
of bytes that the file has. -/
def taken (maximum_bytes : ℕ) (stop : ℕ → Bool) :
    List (List UInt8) → ℕ → ℕ → List (List UInt8)
  | [], _, _ => []
  | chunk :: rest, index, received =>
    if maximum_bytes < received + chunk.length ∨ stop index = true then [chunk]
    else chunk :: taken maximum_bytes stop rest (index + 1) (received + chunk.length)

/-- What is taken of a body begins with its first piece. -/
lemma exists_taken_cons (maximum_bytes : ℕ) (stop : ℕ → Bool) (chunk : List UInt8)
    (rest : List (List UInt8)) (index received : ℕ) :
    ∃ more, (taken maximum_bytes stop (chunk :: rest) index received).flatten = chunk ++ more := by
  rw [taken]
  split_ifs
  · exact ⟨[], rfl⟩
  · exact ⟨_, List.flatten_cons⟩

/-- What is taken of a body are its first pieces. -/
lemma taken_prefix (chunks : List (List UInt8)) (index received : ℕ) :
    taken maximum_bytes stop chunks index received <+: chunks := by
  induction chunks generalizing index received with
  | nil => exact List.prefix_refl _
  | cons chunk rest ih =>
    rw [taken]
    split_ifs
    · exact ⟨rest, rfl⟩
    · exact (List.prefix_cons_inj chunk).mpr (ih _ _)

/-- A stop is asked for after one of so many pieces. -/
def StopAsked (stop : ℕ → Bool) (index count : ℕ) : Prop :=
  ∃ i < count, stop (index + i) = true

lemma StopAsked.succ {index count : ℕ} (h : StopAsked stop (index + 1) count) :
    StopAsked stop index (count + 1) := by
  obtain ⟨i, hi, hstop⟩ := h
  refine ⟨i + 1, Nat.succ_lt_succ hi, ?_⟩
  rw [← Nat.add_assoc, Nat.add_right_comm]
  exact hstop

lemma StopAsked.of_succ {index count : ℕ} (h : StopAsked stop index (count + 1))
    (hfirst : ¬ stop index = true) : StopAsked stop (index + 1) count := by
  obtain ⟨i, hi, hstop⟩ := h
  cases i with
  | zero => exact absurd hstop hfirst
  | succ i =>
    refine ⟨i, Nat.lt_of_succ_lt_succ hi, ?_⟩
    rw [Nat.add_right_comm]
    exact hstop

/-- The loop over a body came to its end. -/
structure BodyEnded (interruption : Option ApplicationFailure) (maximum_bytes : ℕ)
    (stop : ℕ → Bool) (chunks : List (List UInt8)) (index received : ℕ)
    (digested body : List UInt8) (result : ℕ × List UInt8) : Prop where
  whole : interruption = none
  unstopped : ¬ StopAsked stop index chunks.length
  body_eq : body = chunks.flatten
  received_eq : result.1 = received + body.length
  digested_eq : result.2 = digested ++ body
  limited : chunks ≠ [] → result.1 ≤ maximum_bytes

/-- The loop over a body was left, after some of what is taken of it, or by a stop after all. -/
def BodyLeft (file : PartialFile) (data : List UInt8) (network : ℕ) (body : List UInt8)
    (asked : Prop) (e : Stop FetchException) (state : TransferState) : Prop :=
  (network ≤ state.network ∧ state.network ≤ network + body.length) ∧
    (e = .raised .download_stopped →
      asked ∧ state.Holds file (data ++ body) (network + body.length))

/-- Leaving by another way than a stop. -/
lemma BodyLeft.of_other {body : List UInt8} {asked : Prop} {e : Stop FetchException}
    {state : TransferState} (he : e ≠ .raised .download_stopped)
    (hnetwork : network ≤ state.network) (hbody : state.network ≤ network + body.length) :
    BodyLeft file data network body asked e state :=
  ⟨⟨hnetwork, hbody⟩, fun h => absurd h he⟩

/-- The loop over the rest of a body came to its end. -/
lemma BodyEnded.cons {interruption : Option ApplicationFailure} {chunks : List (List UInt8)}
    {index received : ℕ} {chunk digested body : List UInt8} {result : ℕ × List UInt8}
    (h : BodyEnded interruption maximum_bytes stop chunks (index + 1) (received + chunk.length)
      (digested ++ chunk) body result) (hroom : received + chunk.length ≤ maximum_bytes)
    (hgoes : ¬ stop index = true) :
    BodyEnded interruption maximum_bytes stop (chunk :: chunks) index received digested
      (chunk ++ body) result where
  whole := h.whole
  unstopped hasked := h.unstopped (hasked.of_succ hgoes)
  body_eq := by rw [h.body_eq, List.flatten_cons]
  received_eq := by rw [h.received_eq, List.length_append, Nat.add_assoc]
  digested_eq := by rw [h.digested_eq, List.append_assoc]
  limited _ := by
    cases chunks with
    | nil => simpa [h.received_eq, h.body_eq] using hroom
    | cons => exact h.limited (List.cons_ne_nil _ _)

/-- The loop over the rest of a body was left. -/
lemma BodyLeft.cons {chunk body : List UInt8} {index count : ℕ} {e : Stop FetchException}
    {state : TransferState}
    (h : BodyLeft file (data ++ chunk) (network + chunk.length) body
      (StopAsked stop (index + 1) count) e state) :
    BodyLeft file data network (chunk ++ body) (StopAsked stop index (count + 1)) e state := by
  obtain ⟨⟨hleast, hmost⟩, hstopped⟩ := h
  rw [BodyLeft, List.length_append, ← List.append_assoc, ← Nat.add_assoc]
  exact ⟨⟨(Nat.le_add_right _ _).trans hleast, hmost⟩, fun he => (hstopped he).imp_left .succ⟩

/-- The ways that operations and refusals end are no stops. -/
lemma ne_download_stopped {exception : Raised} {e : Stop FetchException}
    (h : e = .raised (.raised exception) ∨ e = .crashed) : e ≠ .raised .download_stopped := by
  rcases h with rfl | rfl
  · simp
  · simp

lemma contract_progress {index : ℕ} {P : TransferState → Prop}
    {R : Stop FetchException → TransferState → Prop}
    (h : ∀ e, e ≠ .raised .download_stopped → ∀ state, P state → R e state) :
    Contract P (inspect (faults.progress index) (.application progress_failure)) (fun _ => P) R :=
  contract_atomically_stops (fun _ => id) fun e he => h e (ne_download_stopped he)

lemma contract_arrive {chunk : List UInt8} {R : Stop FetchException → TransferState → Prop} :
    Contract (fun state => state.Holds file data network) (arrive chunk)
      (fun _ state => state.Holds file data (network + chunk.length)) R where
  returns h hx := by
    obtain rfl := congrArg Prod.snd hx
    exact ⟨h.1, congrArg (· + chunk.length) h.2⟩
  fails _ hx := absurd (congrArg Prod.fst hx) (by simp [arrive])

/-- A piece is appended whole, or the loop is left. -/
lemma contract_append {chunk body : List UInt8} {index : ℕ} {asked : Prop}
    (hbody : chunk.length ≤ body.length) :
    Contract (fun state => state.Holds file data (network + chunk.length))
      (on_disk (file.append (faults.append index) chunk))
      (fun _ state => state.Holds file (data ++ chunk) (network + chunk.length))
      (BodyLeft file data network body asked) := by
  refine .within fun state h => contract_operation_stops ?_ ?_
  · rintro disk rfl
    refine ⟨?_, h.2⟩
    show (file.put (_ ++ chunk) state.disk).part? file.directory file.name = _
    rw [h.1]
    exact part?_put (isSome_of_part? h.1)
  · rintro reached - e he disk -
    refine .of_other (ne_download_stopped he) ?_ ?_
    · exact (Nat.le_add_right _ _).trans h.2.ge
    · exact h.2.le.trans (Nat.add_le_add_left hbody network)

/-- The loop keeps the file, the digest and the counts in step. -/
lemma contract_receive_chunks (interruption : Option ApplicationFailure)
    (chunks : List (List UInt8)) (index received : ℕ) (digested : List UInt8) (data : List UInt8)
    (network : ℕ) :
    Contract (fun state => state.Holds file data network)
      (receive_chunks faults interruption file maximum_bytes stop chunks index received digested)
      (fun result state =>
        BodyEnded interruption maximum_bytes stop chunks index received digested
            (taken maximum_bytes stop chunks index received).flatten result ∧
          state.Holds file (data ++ (taken maximum_bytes stop chunks index received).flatten)
            (network + (taken maximum_bytes stop chunks index received).flatten.length))
      (BodyLeft file data network (taken maximum_bytes stop chunks index received).flatten
        (StopAsked stop index chunks.length)) := by
  induction chunks generalizing index received digested data network with
  | nil =>
    have hleft : ∀ e, e ≠ .raised .download_stopped → ∀ state : TransferState,
        state.Holds file data network →
          BodyLeft file data network [] (StopAsked stop index 0) e state :=
      fun e he state h => .of_other he h.2.ge h.2.le
    cases interruption with
    | some failure =>
      rw [receive_chunks]
      exact contract_raise fun state => hleft _ (ne_download_stopped (Or.inl rfl)) state
    | none =>
      rw [receive_chunks]
      refine (contract_progress hleft).bind fun _ => .pure fun state h => ⟨?_, ?_⟩
      · exact ⟨rfl, fun ⟨_, hi, _⟩ => absurd hi (Nat.not_lt_zero _), rfl, rfl,
          (List.append_nil _).symm, fun hne => absurd rfl hne⟩
      · simpa [taken] using h
  | cons chunk rest ih =>
    obtain ⟨more, hmore⟩ := exists_taken_cons maximum_bytes stop chunk rest index received
    have hbody : chunk.length
        ≤ (taken maximum_bytes stop (chunk :: rest) index received).flatten.length := by
      rw [hmore, List.length_append]
      exact Nat.le_add_right _ _
    have hleft : ∀ {data' : List UInt8} e, e ≠ .raised .download_stopped →
        ∀ state : TransferState, state.Holds file data' (network + chunk.length) →
          BodyLeft file data network
            (taken maximum_bytes stop (chunk :: rest) index received).flatten
            (StopAsked stop index (rest.length + 1)) e state :=
      fun e he state h => .of_other he ((Nat.le_add_right _ _).trans h.2.ge)
        (h.2.le.trans (Nat.add_le_add_left hbody network))
    rw [receive_chunks]
    -- the piece has arrived before the limit is looked at
    have harrive : Contract (fun state => state.Holds file data network) (arrive chunk)
        (fun _ state => state.Holds file data (network + chunk.length))
        (BodyLeft file data network
          (taken maximum_bytes stop (chunk :: rest) index received).flatten
          (StopAsked stop index (rest.length + 1))) :=
      contract_arrive
    refine harrive.bind fun _ => contract_guard ?_ fun hroom => ?_
    · exact fun _ => hleft _ (ne_download_stopped (Or.inl rfl))
    refine (contract_append hbody).bind fun _ => (contract_progress hleft).bind fun _ => ?_
    refine contract_guard (fun hstop state h => ?_) fun hgoes => ?_
    · have htaken : taken maximum_bytes stop (chunk :: rest) index received = [chunk] := by
        rw [taken, if_pos (Or.inr hstop)]
      have hasked : StopAsked stop index (rest.length + 1) := ⟨0, Nat.succ_pos _, hstop⟩
      rw [htaken]
      simpa [BodyLeft, h.2, hasked] using h
    · have htaken : taken maximum_bytes stop (chunk :: rest) index received
          = chunk :: taken maximum_bytes stop rest (index + 1) (received + chunk.length) := by
        rw [taken, if_neg (by simp [hroom, hgoes])]
      rw [htaken, List.flatten_cons, List.length_append, ← List.append_assoc, ← Nat.add_assoc]
      refine (ih _ _ _ _ _).mono (fun _ => id) ?_ ?_
      · rintro result state ⟨hended, hholds⟩
        exact ⟨hended.cons (not_lt.mp hroom) hgoes, hholds⟩
      · exact fun e state h => h.cons

/-! ### The download -/

/-- The bytes of a part file that a download asks to continue from. -/
def RemoteAsset.offered (asset : RemoteAsset) (data : List UInt8) : List UInt8 :=
  if asset.resumable = true then data else []

/-- The bytes that stay in front of the body of a response. -/
def TransportResponse.kept (response : TransportResponse) (offered : List UInt8) : List UInt8 :=
  if response.status = 206 then offered else []

/-- What the transport answers to a download that finds these bytes. -/
def ServerAnswers (transport : TransportOpen) (asset : RemoteAsset) (data : List UInt8)
    (response : TransportResponse) : Prop :=
  transport (download_request asset (asset.offered data).length) = .ok response

/-- The bytes in front of the body of an answer. -/
def TransportResponse.prefix_of (response : TransportResponse) (asset : RemoteAsset)
    (data : List UInt8) : List UInt8 :=
  response.kept (asset.offered data)

/-- The body of an answer, as far as it is taken. -/
def TransportResponse.taken_of (response : TransportResponse) (asset : RemoteAsset)
    (data : List UInt8) (maximum_bytes : ℕ) (stop : ℕ → Bool) : List UInt8 :=
  (taken maximum_bytes stop response.chunks 0 (response.prefix_of asset data).length).flatten

/-- Nothing has been taken of a body. -/
def DownloadRefused (network : ℕ) (e : Stop FetchException) (state : TransferState) : Prop :=
  e ≠ .raised .download_stopped ∧ state.network = network

lemma contract_truncate :
    Contract (fun state => state.Holds file data network) (on_disk (file.truncate faults))
      (fun _ state => state.Holds file [] network) (DownloadRefused network) := by
  refine .within fun state h => contract_atomically_stops ?_ ?_
  · rintro disk rfl
    exact ⟨part?_put (isSome_of_part? h.1), h.2⟩
  · exact fun e he _ _ => ⟨ne_download_stopped he, h.2⟩

lemma int_of_error {text : String} {e : FetchException} (h : int_of text = .error e) :
    e = .raised .value_error := by
  rw [int_of] at h
  cases hnumber : Text.int? text with
  | none =>
    rw [hnumber] at h
    exact (Except.error.inj h).symm
  | some n =>
    rw [hnumber] at h
    exact absurd h (by simp)

lemma map_error {α β : Type} {f : α → β} {x : Except FetchException α} {e : FetchException}
    (h : f <$> x = .error e) : x = .error e := by
  cases x with
  | error e' => exact congrArg Except.error (Except.error.inj h)
  | ok a => exact absurd h (by simp)

/-- A number that is too long for `int` is no stop. -/
lemma refused_value_error {e : FetchException} {state : TransferState}
    (h : e = .raised .value_error) (hholds : state.Holds file data network) :
    DownloadRefused network (.raised e) state :=
  ⟨ne_download_stopped (Or.inl (congrArg Stop.raised h)), hholds.2⟩

lemma content_range_start_error {response : TransportResponse} {e : FetchException}
    (h : content_range_start response = .error e) : e = .raised .value_error := by
  rw [content_range_start] at h
  split_ifs at h
  exact int_of_error (map_error h)

lemma announced_total_error {response : TransportResponse} {offset : ℕ} {e : FetchException}
    (h : announced_total response offset = .error e) : e = .raised .value_error := by
  rw [announced_total] at h
  split_ifs at h
  exact int_of_error (map_error h)

/-- A response starts from nothing, or continues a file where its bytes end. -/
def TransportResponse.Continues (response : TransportResponse) (data : List UInt8) : Prop :=
  response.status = 200 ∨ response.status = 206 ∧ data ≠ [] ∧
    content_range_start response = .ok (some data.length)

/-- The file has the bytes that the response continues. -/
lemma contract_accept_response {response : TransportResponse} :
    Contract (fun state => state.Holds file data network)
      (accept_response faults response file data.length)
      (fun offset state => (offset = (response.kept data).length ∧ response.Continues data) ∧
        state.Holds file (response.kept data) network) (DownloadRefused network) := by
  have hrefuse : ∀ state : TransferState, state.Holds file data network →
      DownloadRefused network (.raised (.transfer "download_status")) state :=
    fun state h => ⟨ne_download_stopped (Or.inl rfl), h.2⟩
  rw [accept_response]
  refine .ite (fun hcontinued => ?_) fun _ => .ite (fun hwhole => ?_) fun _ => contract_raise hrefuse
  · refine Contract.bind (Q := fun start (state : TransferState) =>
      content_range_start response = .ok start ∧ state.Holds file data network)
      (contract_attempt (fun start hstart state h => ⟨hstart, h⟩) ?_) fun start => .ite
        (fun hhere => .pure fun state h => ?_) fun _ => contract_raise fun state h => hrefuse state h.2
    · exact fun e herror state => refused_value_error (content_range_start_error herror)
    · have hkept : response.kept data = data := by
        rw [TransportResponse.kept, if_pos hcontinued.1]
      rw [hkept]
      refine ⟨⟨rfl, Or.inr ⟨hcontinued.1, ?_, hhere ▸ h.1⟩⟩, h.2⟩
      exact fun hempty => hcontinued.2 (congrArg List.length hempty)
  · have hkept : response.kept data = [] := by
      rw [TransportResponse.kept, if_neg (by simp [hwhole])]
    rw [hkept]
    dsimp only
    have hcontinues : response.Continues data := Or.inl hwhole
    refine .ite (fun _ => contract_truncate.bind fun _ => .pure fun state h => ?_)
      fun hempty => .pure fun state h => ⟨⟨rfl, hcontinues⟩, ?_⟩
    · exact ⟨⟨rfl, hcontinues⟩, h⟩
    rw [List.eq_nil_of_length_eq_zero (not_not.mp hempty)] at h
    exact h

/-- An answer is accepted, and the size that it announces or is expected is within the limit. -/
def LetThrough (asset : RemoteAsset) (maximum_bytes : ℕ) (data : List UInt8)
    (response : TransportResponse) : Prop :=
  response.Continues (asset.offered data) ∧
    ∃ announced, announced_total response (response.prefix_of asset data).length = .ok announced ∧
      ∀ size ∈ announced.or asset.expected_size, size ≤ maximum_bytes

/-- What is left when the download of a file ends early. -/
def DownloadLeft (transport : TransportOpen) (asset : RemoteAsset) (file : PartialFile)
    (maximum_bytes : ℕ) (stop : ℕ → Bool) (data : List UInt8) (network : ℕ)
    (e : Stop FetchException) (state : TransferState) : Prop :=
  DownloadRefused network e state ∨ ∃ response, ServerAnswers transport asset data response ∧
    LetThrough asset maximum_bytes data response ∧ BodyLeft file (response.prefix_of asset data) network
      (response.taken_of asset data maximum_bytes stop)
      (StopAsked stop 0 response.chunks.length) e state

/-- The whole body of an answer has been received behind the bytes that it continues. -/
structure Streaming (asset : RemoteAsset) (file : PartialFile) (maximum_bytes : ℕ)
    (stop : ℕ → Bool) (data : List UInt8) (network : ℕ) (response : TransportResponse)
    (streamed : Streamed) (state : TransferState) : Prop where
  offset_eq : streamed.offset = (response.prefix_of asset data).length
  continues : response.Continues (asset.offered data)
  total_eq : ∃ announced, announced_total response streamed.offset = .ok announced ∧
    streamed.total = announced.or asset.expected_size
  total_le : ∀ size ∈ streamed.total, size ≤ maximum_bytes
  ended : BodyEnded response.interruption maximum_bytes stop response.chunks 0 streamed.offset
    (response.prefix_of asset data) (response.taken_of asset data maximum_bytes stop)
    (streamed.received, streamed.digested)
  holds : state.Holds file
    (response.prefix_of asset data ++ response.taken_of asset data maximum_bytes stop)
    (network + (response.taken_of asset data maximum_bytes stop).length)

lemma Streaming.letThrough {response : TransportResponse} {streamed : Streamed}
    {state : TransferState}
    (h : Streaming asset file maximum_bytes stop data network response streamed state) :
    LetThrough asset maximum_bytes data response := by
  obtain ⟨announced, hannounced, htotal⟩ := h.total_eq
  refine ⟨h.continues, announced, h.offset_eq ▸ hannounced, ?_⟩
  rw [← htotal]
  exact h.total_le

/-- A stream that ended leaves its bytes to any other failure that follows. -/
lemma Streaming.left {response : TransportResponse} {streamed : Streamed} {state : TransferState}
    {e : Stop FetchException}
    (h : Streaming asset file maximum_bytes stop data network response streamed state)
    (hanswer : ServerAnswers transport asset data response) (he : e ≠ .raised .download_stopped) :
    DownloadLeft transport asset file maximum_bytes stop data network e state :=
  Or.inr ⟨response, hanswer, h.letThrough, .of_other he
    ((Nat.le_add_right _ _).trans h.holds.2.ge) h.holds.2.le⟩

/-- A failure that takes the place of another one. -/
lemma DownloadLeft.other {e e' : Stop FetchException} {state : TransferState}
    (h : DownloadLeft transport asset file maximum_bytes stop data network e state)
    (he' : e' ≠ .raised .download_stopped) :
    DownloadLeft transport asset file maximum_bytes stop data network e' state := by
  rcases h with hrefused | ⟨response, hanswer, hthrough, hleft⟩
  · exact Or.inl ⟨he', hrefused.2⟩
  · exact Or.inr ⟨response, hanswer, hthrough, .of_other he' hleft.1.1 hleft.1.2⟩

/-- The file is emptied before an answer that it cannot be continued with. -/
lemma contract_offer :
    Contract (fun state => state.Holds file data network)
      (if data.length ≠ 0 ∧ asset.resumable = false then
        on_disk (file.truncate faults) >>= fun _ => pure 0
      else (pure data.length : TransferProgram ℕ))
      (fun offset state => offset = (asset.offered data).length ∧
        state.Holds file (asset.offered data) network) (DownloadRefused network) := by
  refine .ite (fun hfresh => contract_truncate.bind fun _ => .pure fun state h => ?_)
    fun hoffered => .pure fun state h => ?_
  · rw [RemoteAsset.offered, if_neg (by simp [hfresh.2])]
    exact ⟨rfl, h⟩
  · have hsame : asset.offered data = data := by
      rw [RemoteAsset.offered]
      split_ifs with hresumable
      · rfl
      · have hempty : data.length = 0 := by
          simpa [Bool.not_eq_true _ ▸ hresumable] using hoffered
        exact (List.eq_nil_of_length_eq_zero hempty).symm
    rw [hsame]
    exact ⟨rfl, h⟩

lemma contract_iter_existing :
    Contract (fun state => state.Holds file data network)
      (on_disk (file.iter_existing faults data.length))
      (fun existing state => existing = data ∧ state.Holds file data network)
      (DownloadRefused network) := by
  refine .within fun state h => ?_
  refine Contract.bind (Q := fun _ => (· = state.disk)) ?_ fun _ => ?_
  · exact contract_atomically_stops (fun _ => id) fun e he _ _ => ⟨ne_download_stopped he, h.2⟩
  · refine Contract.bind (Q := fun disk disk' => disk = state.disk ∧ disk' = state.disk)
      (.read fun disk hdisk => ⟨hdisk, hdisk⟩) fun disk => .assume fun hdisk => ?_
    subst hdisk
    rw [h.1]
    refine .pure fun disk hdisk => ⟨List.take_length, ?_⟩
    rw [hdisk]
    exact h

lemma open_response_eq_ok {request : TransportRequest} {response : TransportResponse} :
    open_response transport request = .ok response ↔ transport request = .ok response := by
  rw [open_response]
  cases transport request with
  | error e => simp [Except.mapError]
  | ok answer => simp [Except.mapError]

lemma open_response_error {request : TransportRequest} {e : FetchException}
    (h : open_response transport request = .error e) : ∃ exception, e = .raised exception := by
  rw [open_response] at h
  cases hopened : transport request with
  | error exception =>
    rw [hopened] at h
    exact ⟨exception, (Except.error.inj h).symm⟩
  | ok answer =>
    rw [hopened] at h
    exact absurd h (by simp [Except.mapError])

theorem contract_stream :
    Contract (fun state => state.Holds file data network)
      (stream faults transport asset file maximum_bytes stop data.length)
      (fun streamed state => ∃ response, ServerAnswers transport asset data response ∧
        Streaming asset file maximum_bytes stop data network response streamed state)
      (DownloadLeft transport asset file maximum_bytes stop data network) := by
  have hrefuse : ∀ {exception : Raised} {kept : List UInt8} (state : TransferState),
      state.Holds file kept network →
        DownloadLeft transport asset file maximum_bytes stop data network
          (.raised (.raised exception)) state :=
    fun state h => Or.inl ⟨ne_download_stopped (Or.inl rfl), h.2⟩
  rw [stream]
  refine (contract_offer.mono (fun _ => id) (fun _ _ => id) fun _ _ => Or.inl).bind
    fun offset => .assume fun hoffset => ?_
  subst hoffset
  refine Contract.bind (Q := fun response state => ServerAnswers transport asset data response ∧
    state.Holds file (asset.offered data) network)
    (contract_attempt (fun response hopened state h => ⟨?_, h⟩) fun e hopened state h => ?_)
    fun response => .assume fun hanswer => ?_
  · exact open_response_eq_ok.mp hopened
  · obtain ⟨exception, rfl⟩ := open_response_error hopened
    exact hrefuse state h
  refine (contract_accept_response.mono (fun _ => id) (fun _ _ => id) fun _ _ => Or.inl).bind
    fun offset => .assume fun hoffset => ?_
  obtain ⟨rfl, hcontinues⟩ := hoffset
  refine (contract_iter_existing.mono (fun _ => id) (fun _ _ => id) fun _ _ => Or.inl).bind
    fun existing => .assume fun hexisting => ?_
  subst hexisting
  refine Contract.bind (Q := fun announced state =>
    announced_total response (response.prefix_of asset data).length = .ok announced ∧
      state.Holds file (response.prefix_of asset data) network)
    (contract_attempt (fun announced hannounced state h => ⟨hannounced, h⟩)
      fun e herror state h => ?_)
    fun announced => .assume (P := (TransferState.Holds · file (response.prefix_of asset data) network))
      fun hannounced => ?_
  · exact Or.inl (refused_value_error (announced_total_error herror) h)
  dsimp only
  refine contract_guard (fun _ => hrefuse) fun htotal => ?_
  have hlimited : ∀ size ∈ announced.or asset.expected_size, size ≤ maximum_bytes :=
    fun size hsize => not_lt.mp fun hlarge => htotal ⟨size, hsize, hlarge⟩
  have hthrough : LetThrough asset maximum_bytes data response :=
    ⟨hcontinues, announced, hannounced, hlimited⟩
  refine Contract.bind ((contract_receive_chunks _ _ _ _ _ _ _).mono (fun _ => id) (fun _ _ => id)
    fun _ _ hleft => Or.inr ⟨response, hanswer, hthrough, hleft⟩) fun result => .pure fun state h => ?_
  exact ⟨response, hanswer, rfl, hcontinues, ⟨announced, hannounced, rfl⟩, hlimited, h.1, h.2⟩

/-- Closing the file changes nothing. -/
lemma contract_close {P : TransferState → Prop} {R : Stop FetchException → TransferState → Prop}
    (h : ∀ e, e ≠ .raised .download_stopped → ∀ state, P state → R e state) :
    Contract P (on_disk (PartialFile.close faults)) (fun _ => P) R := by
  refine .within fun state hstate => contract_atomically_stops ?_ ?_
  · rintro disk rfl
    exact hstate
  · rintro e he disk rfl
    exact h e (ne_download_stopped he) state hstate

lemma contract_open_for_append :
    Contract (fun state => (state.disk.part? file.directory file.name).getD [] = data ∧
        state.network = network)
      (on_disk (file.open_for_append faults))
      (fun size state => size = data.length ∧ state.Holds file data network) (DownloadRefused network) := by
  refine .within fun state h => ?_
  have hrefuse : ∀ e, e = .raised FetchException.os_error ∨ e = .crashed → ∀ disk : CacheDisk,
      DownloadRefused network e { state with disk := disk } :=
    fun e he disk => ⟨ne_download_stopped he, h.2⟩
  refine Contract.bind (Q := fun disk disk' => disk = state.disk ∧ disk' = state.disk)
    (.read fun disk hdisk => ⟨hdisk, hdisk⟩) fun disk => .assume fun hdisk => ?_
  subst hdisk
  refine .ite (fun _ => contract_raise fun _ _ => hrefuse _ (Or.inl rfl) _) fun hthere => ?_
  refine Contract.bind (Q := fun _ (disk : CacheDisk) =>
    disk.part? file.directory file.name = some data)
    (contract_atomically_stops ?_ fun e he disk _ => hrefuse e he disk) fun _ => ?_
  · rintro disk rfl
    rw [h.1]
    exact part?_put (Option.isSome_iff_ne_none.mpr (by simpa using hthere))
  · refine Contract.bind (Q := fun _ (disk : CacheDisk) =>
      disk.part? file.directory file.name = some data)
      (contract_atomically_stops (fun _ => id) fun e he disk _ => hrefuse e he disk) fun _ => ?_
    refine Contract.bind (Q := fun disk (disk' : CacheDisk) =>
      disk.part? file.directory file.name = some data ∧ disk' = disk)
      (.read fun disk hdisk => ⟨hdisk, rfl⟩) fun disk => .assume fun hdisk => ?_
    refine .pure fun disk' hdisk' => ?_
    subst hdisk'
    rw [hdisk]
    exact ⟨rfl, hdisk, h.2⟩

/-- A download returned: its result describes the file. -/
structure Downloaded (sha256 : List UInt8 → String) (asset : RemoteAsset) (file : PartialFile)
    (maximum_bytes : ℕ) (stop : ℕ → Bool) (data : List UInt8) (network : ℕ)
    (response : TransportResponse) (outcome : DownloadOutcome) (state : TransferState) : Prop where
  streaming : ∃ total, (∀ size ∈ total, size = outcome.size) ∧
    Streaming asset file maximum_bytes stop data network response
      { offset := outcome.resumed_from, total, received := outcome.size,
        digested := response.prefix_of asset data ++
          response.taken_of asset data maximum_bytes stop } state
  checksum : outcome.sha256 = sha256 (response.prefix_of asset data ++
    response.taken_of asset data maximum_bytes stop)
  expected_size : ∀ size ∈ asset.expected_size, size = outcome.size
  expected_sha256 : ∀ expected ∈ asset.expected_sha256, outcome.sha256 = Text.lower expected

theorem contract_download_asset :
    Contract (fun state => (state.disk.part? file.directory file.name).getD [] = data ∧
        state.network = network)
      (download_asset faults sha256 transport asset file maximum_bytes stop)
      (fun outcome state => ∃ response, ServerAnswers transport asset data response ∧
        Downloaded sha256 asset file maximum_bytes stop data network response outcome state)
      (DownloadLeft transport asset file maximum_bytes stop data network) := by
  rw [download_asset]
  refine (contract_open_for_append.mono (fun _ => id) (fun _ _ => id) fun _ _ => Or.inl).bind
    fun size => .assume fun hsize => ?_
  subst hsize
  refine Contract.bind (contract_finally contract_stream (fun streamed => ?_) fun e => ?_)
    fun streamed => ?_
  · refine contract_close fun e he state h => ?_
    obtain ⟨response, hanswer, hstreaming⟩ := h
    exact hstreaming.left hanswer he
  · exact contract_close fun e he state h => DownloadLeft.other h he
  refine .exists_pre fun response => .assume fun hanswer => ?_
  have hleft : ∀ {code : String} (state : TransferState),
      Streaming asset file maximum_bytes stop data network response streamed state →
        DownloadLeft transport asset file maximum_bytes stop data network
          (.raised (.transfer code)) state :=
    fun state h => h.left hanswer (ne_download_stopped (Or.inl rfl))
  dsimp only
  refine contract_guard (fun _ => hleft) fun hsizes => ?_
  refine contract_guard (fun _ => hleft) fun hchecksum => .pure fun state h => ?_
  have hexact : ∀ {announced : Option ℕ},
      announced ∈ [streamed.total, asset.expected_size] →
        ∀ size ∈ announced, size = streamed.received := by
    intro announced hannounced size hsize
    refine not_not.mp fun hne => hsizes ⟨size, List.reduceOption_mem_iff.mpr ?_, hne⟩
    rw [← Option.mem_def.mp hsize]
    exact hannounced
  refine ⟨response, hanswer, ⟨streamed.total, hexact (by simp), ?_⟩, ?_, hexact (by simp), ?_⟩
  · rw [← h.ended.digested_eq]
    exact h
  · exact congrArg sha256 h.ended.digested_eq
  · intro expected hexpected
    exact not_not.mp fun hne => hchecksum ⟨expected, hexpected, hne⟩

end StegoLab

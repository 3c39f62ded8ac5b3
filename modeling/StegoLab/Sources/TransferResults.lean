import StegoLab.Sources.TransferProperties

/-!
# What a download reports

A download that returns describes its part file, and one that is stopped leaves the bytes that it
continues and all that has been received. The limit is only looked at when a size is announced or a
piece of the body arrives: a file that is above it already is returned when neither happens.
-/

namespace StegoLab

open Transaction Program

variable {faults : CacheFaults} {transport : TransportOpen} {asset : RemoteAsset}
  {file : PartialFile} {maximum_bytes : ℕ} {stop : ℕ → Bool} {sha256 : List UInt8 → String}
  {data : List UInt8} {state after : TransferState}

/-! ### Results -/

/-- What the result of a download says of its part file. -/
structure Describes (sha256 : List UInt8 → String) (asset : RemoteAsset) (file : PartialFile)
    (maximum_bytes : ℕ) (outcome : DownloadOutcome) (content : List UInt8)
    (after : TransferState) : Prop where
  content_eq : after.disk.part? file.directory file.name = some content
  size_eq : outcome.size = content.length
  sha256_eq : outcome.sha256 = sha256 content
  expected_size : ∀ size ∈ asset.expected_size, outcome.size = size
  expected_sha256 : ∀ expected ∈ asset.expected_sha256, outcome.sha256 = Text.lower expected
  limited : outcome.size ≤ maximum_bytes

/-- The part file has the bytes that the answer continues, and the pieces that have arrived. -/
def KeepsReceived (transport : TransportOpen) (asset : RemoteAsset) (file : PartialFile)
    (data : List UInt8) (state after : TransferState) : Prop :=
  ∃ response, ServerAnswers transport asset data response ∧ ∃ received, received <+: response.chunks ∧
    after.disk.part? file.directory file.name
      = some (response.prefix_of asset data ++ received.flatten) ∧
    after.network = state.network + received.flatten.length

/-- Whatever happens to the files, a download that finds these bytes in its part file returns a
description of it, and leaves what it received when it is stopped. -/
def FaithfulResult (sha256 : List UInt8 → String) (transport : TransportOpen) (asset : RemoteAsset)
    (file : PartialFile) (maximum_bytes : ℕ) (stop : ℕ → Bool) (data : List UInt8) : Prop :=
  ∀ (faults : CacheFaults) (state : TransferState),
    (state.disk.part? file.directory file.name).getD [] = data →
      (∀ outcome after,
        download_asset faults sha256 transport asset file maximum_bytes stop state
            = (.ok outcome, after) →
          ∃ content, Describes sha256 asset file maximum_bytes outcome content after) ∧
      ∀ after,
        download_asset faults sha256 transport asset file maximum_bytes stop state
            = (.error (.raised .download_stopped), after) →
          KeepsReceived transport asset file data state after

/-- A part file above the limit, which an answer continues that neither announces a size nor has a
body, where no size is expected. -/
structure Overlong (sha256 : List UInt8 → String) (transport : TransportOpen) (asset : RemoteAsset)
    (maximum_bytes : ℕ) (data : List UInt8) (response : TransportResponse) : Prop where
  above : maximum_bytes < data.length
  resumable : asset.resumable = true
  unexpected : asset.expected_size = none
  expected_sha256 : ∀ expected ∈ asset.expected_sha256, sha256 data = Text.lower expected
  answer : transport (download_request asset data.length) = .ok response
  status : response.status = 206
  range : content_range_start response = .ok (some data.length)
  unannounced : announced_total response data.length = .ok none
  bodiless : response.chunks = []
  whole : response.interruption = none

lemma offered_of_ne_nil (h : asset.offered data ≠ []) :
    asset.resumable = true ∧ asset.offered data = data := by
  rw [RemoteAsset.offered] at h ⊢
  split_ifs at h ⊢ with hresumable
  · exact ⟨hresumable, rfl⟩
  · exact absurd rfl h

lemma kept_of_ne_nil {response : TransportResponse} {offered : List UInt8}
    (h : response.kept offered ≠ []) : response.status = 206 ∧ response.kept offered = offered := by
  rw [TransportResponse.kept] at h ⊢
  split_ifs at h ⊢ with hstatus
  · exact ⟨hstatus, rfl⟩
  · exact absurd rfl h

/-- A result above the limit comes of such an answer. -/
lemma Downloaded.overlong {network : ℕ} {response : TransportResponse} {outcome : DownloadOutcome}
    (h : Downloaded sha256 asset file maximum_bytes stop data network response outcome after)
    (hanswer : ServerAnswers transport asset data response) (habove : maximum_bytes < outcome.size) :
    Overlong sha256 transport asset maximum_bytes data response := by
  obtain ⟨total, hexact, hstreaming⟩ := h.streaming
  have hbodiless : response.chunks = [] :=
    not_not.mp fun hne => absurd (hstreaming.ended.limited hne) (not_le.mpr habove)
  have hbody : response.taken_of asset data maximum_bytes stop = [] := by
    rw [hstreaming.ended.body_eq, hbodiless, List.flatten_nil]
  have hsize : outcome.size = (response.prefix_of asset data).length := by
    have hreceived := hstreaming.ended.received_eq
    rw [hbody, List.length_nil, Nat.add_zero] at hreceived
    exact hreceived.trans hstreaming.offset_eq
  -- a size that was announced or expected would have been compared
  have hunknown : total = none := by
    refine Option.eq_none_iff_forall_not_mem.mpr fun size hmem => ?_
    exact absurd (hexact size hmem ▸ hstreaming.total_le size hmem) (not_le.mpr habove)
  obtain ⟨announced, hannounced, htotal⟩ := hstreaming.total_eq
  obtain ⟨rfl, hunexpected⟩ := Option.or_eq_none_iff.mp (htotal.symm.trans hunknown)
  have hprefix : response.kept (asset.offered data) ≠ [] :=
    List.ne_nil_of_length_pos (hsize ▸ (Nat.zero_le maximum_bytes).trans_lt habove)
  obtain ⟨hstatus, hkept⟩ := kept_of_ne_nil hprefix
  obtain ⟨hresumable, hoffered⟩ := offered_of_ne_nil (hkept ▸ hprefix)
  have hsame : response.prefix_of asset data = data := hkept.trans hoffered
  have hcontinues : content_range_start response = .ok (some (asset.offered data).length) := by
    rcases hstreaming.continues with hwhole | ⟨-, -, hstart⟩
    · exact absurd (hwhole.symm.trans hstatus) (by decide)
    · exact hstart
  have hchecksum := h.checksum
  rw [hbody, hsame, List.append_nil] at hchecksum
  rw [ServerAnswers, hoffered] at hanswer
  rw [hoffered] at hcontinues
  rw [hstreaming.offset_eq, hsame] at hannounced
  rw [hsame] at hsize
  exact {
    above := hsize ▸ habove
    resumable := hresumable
    unexpected := hunexpected
    expected_sha256 := fun expected hexpected => hchecksum ▸ h.expected_sha256 expected hexpected
    answer := hanswer
    status := hstatus
    range := hcontinues
    unannounced := hannounced
    bodiless := hbodiless
    whole := hstreaming.ended.whole }

/-- A check that passes. -/
lemma attempt_raise_if {σ : Type} {condition : Prop} [Decidable condition]
    {exception : FetchException} {s : σ} (h : ¬ condition) :
    attempt (raise_if condition exception) s = (.ok (), s) := by
  rw [raise_if_eq_ok.mpr h]
  rfl

lemma open_for_append_returns
    (h : state.disk.part? file.directory file.name = some data) :
    ∃ opened : TransferState, opened.disk.part? file.directory file.name = some data ∧
      on_disk (file.open_for_append {}) state = (.ok data.length, opened) := by
  have hput : (file.put data state.disk).part? file.directory file.name = some data :=
    part?_put (isSome_of_part? h)
  refine ⟨{ state with disk := file.put data state.disk }, hput, ?_⟩
  have hthere : (state.disk.partials.get? file.directory).isNone = false := by
    simpa using isSome_of_part? h
  have hopened : file.open_for_append {} state.disk
      = (.ok data.length, file.put data state.disk) := by
    rw [PartialFile.open_for_append, read_bind, if_neg (by simp [hthere])]
    have hsame : file.put ((state.disk.part? file.directory file.name).getD []) state.disk
        = file.put data state.disk := by
      rw [h, Option.getD_some]
    refine (bind_of_ok atomically_none).trans ?_
    rw [hsame]
    refine (bind_of_ok inspect_none).trans ?_
    rw [read_bind, hput]
    rfl
  rw [on_disk, within, hopened]

/-- Such an answer gives a result above the limit. -/
lemma Overlong.returns {response : TransportResponse}
    (h : Overlong sha256 transport asset maximum_bytes data response)
    (hstate : state.disk.part? file.directory file.name = some data) :
    ∃ outcome after,
      download_asset {} sha256 transport asset file maximum_bytes stop state = (.ok outcome, after) ∧
        outcome.size = data.length := by
  obtain ⟨opened, hopened, hopen⟩ := open_for_append_returns hstate
  have hnonempty : data.length ≠ 0 := Nat.ne_of_gt ((Nat.zero_le _).trans_lt h.above)
  have hresponse : attempt (open_response transport (download_request asset data.length)) opened
      = (.ok response, opened) := by
    rw [open_response_eq_ok.mpr h.answer]
    rfl
  have haccept : accept_response {} response file data.length opened
      = (.ok data.length, opened) := by
    rw [accept_response, if_pos ⟨h.status, hnonempty⟩, h.range]
    refine (bind_of_ok (a := some data.length) (t := opened) rfl).trans ?_
    rw [if_pos rfl]
    rfl
  have hexisting : on_disk (file.iter_existing {} data.length) opened = (.ok data, opened) := by
    have hread : file.iter_existing {} data.length opened.disk = (.ok data, opened.disk) := by
      refine (bind_of_ok inspect_none).trans ?_
      rw [read_bind, hopened]
      exact Prod.ext (congrArg Except.ok List.take_length) rfl
    rw [on_disk, within, hread]
  have hannounced : attempt (announced_total response data.length) opened
      = (.ok none, opened) := by
    rw [h.unannounced]
    rfl
  have hreceive : receive_chunks {} response.interruption file maximum_bytes stop response.chunks 0
      data.length data opened = (.ok (data.length, data), opened) := by
    rw [h.whole, h.bodiless, receive_chunks]
    rfl
  have hstream : stream {} transport asset file maximum_bytes stop data.length opened
      = (.ok { offset := data.length, total := none, received := data.length, digested := data },
        opened) := by
    rw [stream, if_neg (by simp [h.resumable])]
    refine (bind_of_ok (a := data.length) (t := opened) rfl).trans ?_
    refine (bind_of_ok hresponse).trans ((bind_of_ok haccept).trans ?_)
    refine (bind_of_ok hexisting).trans ((bind_of_ok hannounced).trans ?_)
    rw [h.unexpected]
    refine (bind_of_ok (a := ()) (t := opened) ?_).trans ((bind_of_ok hreceive).trans rfl)
    exact attempt_raise_if (by simp)
  refine ⟨{ size := data.length, sha256 := sha256 data, resumed_from := data.length }, opened, ?_,
    rfl⟩
  rw [download_asset]
  refine (bind_of_ok hopen).trans ((bind_of_ok (finally_do_of_ok hstream (u := opened) rfl)).trans ?_)
  refine (bind_of_ok (attempt_raise_if ?_)).trans ((bind_of_ok (attempt_raise_if ?_)).trans rfl)
  · simp [h.unexpected]
  · rintro ⟨expected, hexpected, hne⟩
    exact hne (h.expected_sha256 expected hexpected)

/-- Every part file is on some disk. -/
lemma exists_state_of_part (file : PartialFile) (data : List UInt8) :
    ∃ state : TransferState, state.disk.part? file.directory file.name = some data := by
  let directory : CacheDirectory := { files := Dict.empty.insert file.name data }
  refine ⟨{ disk := { partials := Dict.empty.insert file.directory directory } }, ?_⟩
  simp [CacheDisk.part?, directory]

/-- Such an answer is a counterexample, whoever stops the download. -/
lemma Overlong.not_faithfulResult {response : TransportResponse}
    (h : Overlong sha256 transport asset maximum_bytes data response) :
    ¬ FaithfulResult sha256 transport asset file maximum_bytes stop data := by
  intro hfaithful
  obtain ⟨state, hstate⟩ := exists_state_of_part file data
  obtain ⟨outcome, after, hreturned, hsize⟩ := h.returns hstate
  obtain ⟨content, hdescribes⟩ := (hfaithful {} state (by rw [hstate]; rfl)).1 outcome after hreturned
  exact absurd (hsize ▸ hdescribes.limited) (not_le.mpr h.above)

/-- A result describes its part file, unless the file is above the limit and nothing says so. -/
theorem download_result_faithful_iff (sha256 : List UInt8 → String) (transport : TransportOpen)
    (asset : RemoteAsset) (file : PartialFile) (maximum_bytes : ℕ) (stop : ℕ → Bool)
    (data : List UInt8) :
    FaithfulResult sha256 transport asset file maximum_bytes stop data ↔
      ¬ ∃ response, Overlong sha256 transport asset maximum_bytes data response := by
  constructor
  · exact fun hfaithful ⟨_, hoverlong⟩ => hoverlong.not_faithfulResult hfaithful
  · intro hoverlong faults state hdata
    constructor
    · intro outcome after hreturned
      obtain ⟨response, hanswer, hdownloaded⟩ :=
        contract_download_asset.returns ⟨hdata, rfl⟩ hreturned
      obtain ⟨total, -, hstreaming⟩ := hdownloaded.streaming
      refine ⟨_, hstreaming.holds.1, ?_, hdownloaded.checksum, ?_, hdownloaded.expected_sha256, ?_⟩
      · rw [List.length_append, ← hstreaming.offset_eq]
        exact hstreaming.ended.received_eq
      · exact fun size hsize => (hdownloaded.expected_size size hsize).symm
      · exact not_lt.mp fun habove => hoverlong ⟨response, hdownloaded.overlong hanswer habove⟩
    · intro after hstopped
      rcases contract_download_asset.fails ⟨hdata, rfl⟩ hstopped with hrefused | hleft
      · exact absurd rfl hrefused.1
      · obtain ⟨response, hanswer, -, -, hleft⟩ := hleft
        exact ⟨response, hanswer, _, taken_prefix _ _ _, (hleft rfl).2⟩

/-! ### A file above the limit -/

/-- A resumable file whose size nobody announces. -/
def unsized_asset : RemoteAsset where
  url := "https://huggingface.co/datasets/owner/images/resolve/main/images.tar"
  basename := "images.tar"
  expected_size := none
  expected_sha256 := none
  etag := none
  resumable := true

/-- A server that has nothing to add to three bytes. -/
def nothing_more : TransportResponse where
  status := 206
  headers := Dict.empty.insert "content-range" "bytes 3-"
  chunks := []

def images_part : PartialFile where
  directory := "hugging_face/images"
  name := "images.tar.part"

lemma nothing_more_overlong (sha256 : List UInt8 → String) :
    Overlong sha256 (fun _ => .ok nothing_more) unsized_asset 2 [1, 2, 3] nothing_more where
  above := by decide
  resumable := rfl
  unexpected := rfl
  expected_sha256 := by simp [unsized_asset]
  answer := rfl
  status := rfl
  range := by decide
  unannounced := by decide
  bodiless := rfl
  whole := rfl

/-- A limit of two bytes does not keep three bytes from being returned as the download. -/
theorem download_above_limit :
    ¬ FaithfulResult
      (fun _ => "039058c6f2c0cb492c533b0a4d14ef77cc0f78abccced5287d84a1a2011cfb81")
      (fun _ => .ok nothing_more) unsized_asset images_part 2 (fun _ => false) [1, 2, 3] :=
  (nothing_more_overlong _).not_faithfulResult

end StegoLab

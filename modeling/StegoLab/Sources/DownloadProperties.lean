import StegoLab.Sources.CacheProperties
import StegoLab.Sources.Downloads

/-!
# What the download of an asset counts

How many body bytes arrive while an asset is downloaded, and how many the report counts.
-/

namespace StegoLab

open Transaction Program DatasetCache

variable {sha256 : List UInt8 → String} {run : DownloadRun} {surroundings : DownloadSurroundings}
  {need : AssetNeed} {url : String} {disk : CacheDisk} {file : PartialFile}
  {opened : CachePartial} {bytes : List UInt8} {network : ℕ} {report : DownloadReport}

/-! ### Where a download starts -/

/-- The bytes that the download of an asset starts from. -/
def starting_bytes (run : DownloadRun) (surroundings : DownloadSurroundings) (need : AssetNeed)
    (disk : CacheDisk) : List UInt8 :=
  match part_file run.plan.resolved.source_kind need.identity need.asset with
  | .ok file =>
    if run.resume = true then adopted_bytes surroundings.faults.opening file need.asset disk else []
  | .error _ => []

/-- What the server answers to the download of an asset. -/
def AnswersNeed (run : DownloadRun) (surroundings : DownloadSurroundings) (need : AssetNeed)
    (url : String) (disk : CacheDisk) (response : TransportResponse) : Prop :=
  ServerAnswers (surroundings.transport need.asset.authorization_host) (remote_asset need.asset url)
    (starting_bytes run surroundings need disk) response

lemma AnswersNeed.unique {response response' : TransportResponse}
    (h : AnswersNeed run surroundings need url disk response)
    (h' : AnswersNeed run surroundings need url disk response') : response = response' :=
  Except.ok.inj (Eq.trans (Eq.symm h) h')

/-- The answer is accepted, with a size within the limit of the run. -/
def AcceptsNeed (run : DownloadRun) (surroundings : DownloadSurroundings) (need : AssetNeed)
    (url : String) (disk : CacheDisk) (response : TransportResponse) : Prop :=
  LetThrough (remote_asset need.asset url) run.maximum_bytes
    (starting_bytes run surroundings need disk) response

/-- The bytes that stay in front of the body of the answer. -/
def continued_bytes (run : DownloadRun) (surroundings : DownloadSurroundings) (need : AssetNeed)
    (url : String) (disk : CacheDisk) (response : TransportResponse) : List UInt8 :=
  response.prefix_of (remote_asset need.asset url) (starting_bytes run surroundings need disk)

/-- The body of the answer, as far as a stop or the limit of the asset lets it arrive. -/
def body_bytes (run : DownloadRun) (surroundings : DownloadSurroundings) (need : AssetNeed)
    (url : String) (disk : CacheDisk) (response : TransportResponse) : List UInt8 :=
  response.taken_of (remote_asset need.asset url) (starting_bytes run surroundings need disk)
    run.maximum_bytes surroundings.stop

lemma contract_open_part {faults : CacheFaults} :
    Contract (fun _ => True) (file.open_for_append faults)
      (fun _ disk => (disk.partials.get? file.directory).isSome = true) fun _ _ => True := by
  refine Contract.bind (Q := fun disk disk' => disk' = disk) (.read fun _ _ => rfl) fun disk => ?_
  refine .ite (fun _ => contract_raise fun _ _ => trivial) fun hthere => ?_
  refine Contract.bind (Q := fun _ (disk : CacheDisk) =>
    (disk.partials.get? file.directory).isSome = true)
    (contract_atomically ?_ fun _ _ _ _ => trivial) fun _ => ?_
  · rintro _ rfl
    exact isSome_of_part? (part?_put (Option.isSome_iff_ne_none.mpr (by simpa using hthere)))
  · refine (contract_inspect fun _ _ _ _ => trivial).bind fun _ => ?_
    exact Contract.bind (Q := fun _ (disk : CacheDisk) =>
      (disk.partials.get? file.directory).isSome = true) (.read fun _ h => h)
      fun _ => .pure fun _ h => h

lemma contract_discard_partial_bytes :
    Contract (fun _ => True) (discard_partial_bytes surroundings opened)
      (fun discarded disk => discarded.file = opened.file ∧ disk.part_bytes opened.file = [])
      fun _ _ => True := by
  refine contract_open_part.bind fun _ => ?_
  refine Contract.bind (Q := fun _ (disk : CacheDisk) => disk.part_bytes opened.file = [])
    (contract_finally (contract_atomically (fun disk h => ?_) fun _ _ _ _ => trivial)
      (fun _ => contract_inspect fun _ _ _ _ => trivial)
      fun _ => contract_inspect fun _ _ _ _ => trivial) fun _ => contract_update_partial
  rw [CacheDisk.part_bytes, part?_put h]
  rfl

lemma stopless_open_download : Stopless (open_download run surroundings need) := by
  refine stopless_open_partial.bind fun opened => .ite (fun _ => stopless_pure) fun _ => ?_
  refine stopless_size.bind fun size => .ite (fun _ => stopless_pure) fun _ => ?_
  refine stopless_open_for_append.bind fun _ => ?_
  refine Stopless.bind ?_ fun _ => stopless_update_partial
  exact Stopless.finally_do stopless_operation stopless_operation

/-- A download starts from the bytes of the partial download that it adopts and may resume. -/
lemma contract_open_download :
    Contract (· = disk) (open_download run surroundings need)
      (fun opened after =>
        part_file run.plan.resolved.source_kind need.identity need.asset = .ok opened.file ∧
          after.part_bytes opened.file = starting_bytes run surroundings need disk)
      fun _ _ => True := by
  refine contract_open_partial.bind fun opened => .assume fun hfile => ?_
  have hstarting : starting_bytes run surroundings need disk = if run.resume = true then
      adopted_bytes surroundings.faults.opening opened.file need.asset disk else [] := by
    rw [starting_bytes, hfile]
  rw [hstarting]
  refine .ite (fun hresume => .pure fun after h => ?_) fun hresume => ?_
  · rw [if_pos hresume]
    exact ⟨hfile, h⟩
  rw [if_neg hresume]
  refine contract_size.bind fun size => .assume fun hsize => ?_
  refine .ite (fun hempty => .pure fun after h => ⟨hfile, ?_⟩) fun _ => ?_
  · rw [h]
    exact List.eq_nil_of_length_eq_zero (hsize.symm.trans hempty)
  · refine contract_discard_partial_bytes.mono (fun _ _ => trivial) ?_ fun _ _ => id
    rintro discarded after ⟨hsame, h⟩
    rw [hsame]
    exact ⟨hfile, h⟩

/-! ### What a download counts -/

/-- So many body bytes have arrived, and so much is counted as received. -/
def DownloadState.Counts (state : DownloadState) (network bytes_received : ℕ) : Prop :=
  state.network = network ∧ state.report.bytes_received = bytes_received

/-- An answer that came whole, or up to a stop: the body bytes have arrived, and so much is
counted. -/
def Received (run : DownloadRun) (surroundings : DownloadSurroundings) (need : AssetNeed)
    (url : String) (before after : DownloadState) (asked : TransportResponse → Prop)
    (counted : TransportResponse → ℕ) : Prop :=
  ∃ response, AnswersNeed run surroundings need url before.disk response ∧
    AcceptsNeed run surroundings need url before.disk response ∧ asked response ∧ after.Counts
      (before.network + (body_bytes run surroundings need url before.disk response).length)
      (before.report.bytes_received + counted response)

/-- A stop is asked for before the answer has come whole. -/
def InterruptedDownload (surroundings : DownloadSurroundings) (response : TransportResponse) : Prop :=
  StopAsked surroundings.stop 0 response.chunks.length

/-- At most the body of an accepted answer has arrived. -/
def Spent (run : DownloadRun) (surroundings : DownloadSurroundings) (need : AssetNeed)
    (url : String) (before after : DownloadState) : Prop :=
  after.network = before.network ∨
    ∃ response, AnswersNeed run surroundings need url before.disk response ∧
      AcceptsNeed run surroundings need url before.disk response ∧ before.network ≤ after.network ∧ after.network ≤ before.network +
        (body_bytes run surroundings need url before.disk response).length

/-- How a download ends early. -/
def EndsEarly (run : DownloadRun) (surroundings : DownloadSurroundings) (need : AssetNeed)
    (url : String) (before : DownloadState) (e : Stop FetchException) (after : DownloadState) :
    Prop :=
  Spent run surroundings need url before after ∧
    (e = .raised .download_stopped → Received run surroundings need url before after
      (InterruptedDownload surroundings) fun response =>
        (continued_bytes run surroundings need url before.disk response ++
            body_bytes run surroundings need url before.disk response).length
          - (starting_bytes run surroundings need before.disk).length)

lemma Received.spent {before after : DownloadState} {asked : TransportResponse → Prop}
    {counted : TransportResponse → ℕ}
    (h : Received run surroundings need url before after asked counted) :
    Spent run surroundings need url before after := by
  obtain ⟨response, hanswer, haccepts, -, hnetwork, -⟩ := h
  exact Or.inr ⟨response, hanswer, haccepts, hnetwork.ge.trans' (Nat.le_add_right _ _), hnetwork.le⟩

lemma EndsEarly.of_other {before after : DownloadState} {e : Stop FetchException}
    (he : e ≠ .raised .download_stopped) (h : Spent run surroundings need url before after) :
    EndsEarly run surroundings need url before e after :=
  ⟨h, fun hstopped => absurd hstopped he⟩

/-- The cache, while the network and the report stay as they are. -/
lemma contract_in_cache {α : Type} {x : CacheProgram α} {P : CacheDisk → Prop}
    {Q : α → CacheDisk → Prop} (h : Contract P x Q fun _ _ => True) (hstopless : Stopless x) :
    Contract (fun state => P state.disk ∧ state.network = network ∧ state.report = report)
      (in_cache x)
      (fun a state => Q a state.disk ∧ state.network = network ∧ state.report = report)
      fun e state => e ≠ .raised .download_stopped ∧ state.network = network
        ∧ state.report = report := by
  refine .within fun state hstate => ⟨?_, ?_⟩
  · rintro _ a after rfl hx
    exact ⟨h.returns hstate.1 hx, hstate.2⟩
  · rintro _ e after rfl hx
    exact ⟨hstopless.fails trivial hx, hstate.2⟩

/-- The download of the file itself, while the report stays as it is. -/
lemma contract_in_transfer {faults : CacheFaults} {transport : TransportOpen} {asset : RemoteAsset}
    {maximum_bytes : ℕ} {stop : ℕ → Bool} :
    Contract (fun state => state.disk.part_bytes file = bytes ∧ state.network = network
        ∧ state.report = report)
      (in_transfer (download_asset faults sha256 transport asset file maximum_bytes stop))
      (fun outcome state => (∃ response, ServerAnswers transport asset bytes response ∧
          Downloaded sha256 asset file maximum_bytes stop bytes network response outcome
            state.toTransferState) ∧ state.report = report)
      fun e state => DownloadLeft transport asset file maximum_bytes stop bytes network e
        state.toTransferState ∧ state.report = report := by
  refine .within fun state hstate => ⟨?_, ?_⟩
  · rintro _ outcome after rfl hx
    exact ⟨contract_download_asset.returns ⟨hstate.1, hstate.2.1⟩ hx, hstate.2.2⟩
  · rintro _ e after rfl hx
    exact ⟨contract_download_asset.fails ⟨hstate.1, hstate.2.1⟩ hx, hstate.2.2⟩

lemma contract_record_report {f : DownloadReport → DownloadReport} {P : DownloadState → Prop}
    {Q : Unit → DownloadState → Prop} {R : Stop FetchException → DownloadState → Prop}
    (h : ∀ state, P state → Q () { state with report := f state.report }) :
    Contract P (record_report f) Q R where
  returns hs hx := by
    obtain rfl := congrArg Prod.snd hx
    exact h _ hs
  fails _ hx := absurd (congrArg Prod.fst hx) (by simp [record_report])

lemma stopless_remove_partial {faults : CacheFaults} {kind : SourceKind} {identity owner : String} :
    Stopless ( remove_partial faults kind identity owner) := by
  refine (stopless_attempt fun _ => cache_directory_error).bind fun directory => ?_
  refine stopless_cache_locked (stopless_read_partial_record.bind fun record => ?_)
  exact .ite (fun _ => stopless_remove_tree.bind fun _ => stopless_pure) fun _ => stopless_pure

/-- What only looks at the cache leaves what has arrived. -/
lemma contract_in_cache_spent {α : Type} {x : CacheProgram α} {before : DownloadState}
    (h : Stopless x) :
    Contract (Spent run surroundings need url before) (in_cache x)
      (fun _ => Spent run surroundings need url before)
      (EndsEarly run surroundings need url before) := by
  refine .within fun state hstate => ⟨fun _ _ => hstate, ?_⟩
  rintro _ e after rfl hx
  exact .of_other (h.fails trivial hx) hstate

/-- The handlers around a download count what a stop left, and nothing else. -/
lemma contract_download_interrupted (before : DownloadState) (e : FetchException) :
    Contract (fun state => DownloadLeft (surroundings.transport need.asset.authorization_host)
        (remote_asset need.asset url) opened.file run.maximum_bytes surroundings.stop
        (starting_bytes run surroundings need before.disk) before.network (.raised e)
        state.toTransferState ∧ state.report = before.report)
      (download_interrupted run surroundings need opened
        (starting_bytes run surroundings need before.disk).length e)
      (fun _ _ => False) (EndsEarly run surroundings need url before) := by
  cases e with
  | download_stopped =>
    refine Contract.from_each fun state h => ?_
    obtain ⟨⟨hrefused, -⟩ | ⟨response, hanswer, haccepts, -, hstopped⟩, hreport⟩ := h
    · exact absurd rfl hrefused
    obtain ⟨hasked, hholds⟩ := hstopped rfl
    have hspent : ∀ {e : Stop FetchException} {after : DownloadState},
        e ≠ .raised .download_stopped ∧ after.network = state.network ∧
          after.report = state.report → EndsEarly run surroundings need url before e after := by
      intro e after h
      refine .of_other h.1 (Or.inr ⟨response, hanswer, haccepts, ?_, ?_⟩)
      · exact (Nat.le_add_right _ _).trans (h.2.1.trans hholds.2).ge
      · exact (h.2.1.trans hholds.2).le
    have hbytes : state.disk.part_bytes opened.file
        = continued_bytes run surroundings need url before.disk response ++
          body_bytes run surroundings need url before.disk response := by
      rw [CacheDisk.part_bytes, hholds.1]
      rfl
    have hsize : Contract (· = state) (in_cache (opened.file.size surroundings.faults.interrupted))
        (fun size after => size = (continued_bytes run surroundings need url before.disk response ++
            body_bytes run surroundings need url before.disk response).length ∧
          after.network = state.network ∧ after.report = state.report)
        (EndsEarly run surroundings need url before) := by
      refine (contract_in_cache
        (P := fun disk => disk.part_bytes opened.file = state.disk.part_bytes opened.file)
        contract_size stopless_size).mono ?_ ?_ fun _ _ => hspent
      · rintro _ rfl
        exact ⟨rfl, rfl, rfl⟩
      · exact fun size after h => ⟨h.1.1.trans (congrArg List.length hbytes), h.2⟩
    refine hsize.bind fun size => .assume fun hsize => ?_
    have hupdate : Contract (fun after => after.network = state.network ∧
          after.report = state.report)
        (in_cache ( update_partial surroundings.faults.interrupted surroundings.updated_at opened
          size))
        (fun _ after => after.network = state.network ∧ after.report = state.report)
        (EndsEarly run surroundings need url before) := by
      refine (contract_in_cache (P := fun _ => True) (Q := fun _ _ => True)
        ⟨fun _ _ => trivial, fun _ _ => trivial⟩ stopless_update_partial).mono
        (fun _ h => ⟨trivial, h⟩) (fun _ _ h => h.2) fun _ _ => hspent
    refine hupdate.bind fun _ => ?_
    refine Contract.bind (Q := fun _ after => Received run surroundings need url before after
        (InterruptedDownload surroundings) fun response =>
          (continued_bytes run surroundings need url before.disk response ++
              body_bytes run surroundings need url before.disk response).length
            - (starting_bytes run surroundings need before.disk).length)
      (contract_record_report fun after h => ?_)
      fun _ => contract_raise fun after h => ⟨h.spent, fun _ => h⟩
    refine ⟨response, hanswer, haccepts, hasked, h.1.trans hholds.2, ?_⟩
    rw [hsize, h.2, hreport]
  | raised exception =>
    refine Contract.strengthen (P := Spent run surroundings need url before) ?_ fun state h => ?_
    · have hraise : Contract (Spent run surroundings need url before)
          (raise (.raised exception) : DownloadProgram DownloadOutcome) (fun _ _ => False)
          (EndsEarly run surroundings need url before) :=
        contract_raise fun _ => .of_other (ne_download_stopped (Or.inl rfl))
      cases exception with
      | value_error => exact hraise
      | os_error => exact hraise
      | application failure =>
        refine .ite (fun _ => ?_) fun _ => hraise
        exact (contract_in_cache_spent stopless_remove_partial).bind fun _ => hraise
    · rcases h.1 with hrefused | ⟨response, hanswer, haccepts, hleft, -⟩
      · exact Or.inl hrefused.2
      · exact Or.inr ⟨response, hanswer, haccepts, hleft⟩

/-- The download of an asset counts the body that arrived when it came whole. -/
theorem contract_download (before : DownloadState) :
    Contract (· = before) (download sha256 run surroundings need url)
      (fun _ after => Received run surroundings need url before after
        (fun response => ¬ InterruptedDownload surroundings response)
        fun response => (body_bytes run surroundings need url before.disk response).length)
      (EndsEarly run surroundings need url before) := by
  have hbefore : ∀ {e : Stop FetchException} {state : DownloadState},
      e ≠ .raised .download_stopped ∧ state.network = before.network ∧
        state.report = before.report → EndsEarly run surroundings need url before e state :=
    fun h => .of_other h.1 (Or.inl h.2.1)
  have hopen : Contract (· = before) (in_cache (open_download run surroundings need))
      (fun opened after => after.disk.part_bytes opened.file
          = starting_bytes run surroundings need before.disk ∧
        after.network = before.network ∧ after.report = before.report)
      (EndsEarly run surroundings need url before) := by
    refine (contract_in_cache (P := (· = before.disk)) contract_open_download
      stopless_open_download).mono ?_ ?_ fun _ _ => hbefore
    · rintro _ rfl
      exact ⟨rfl, rfl, rfl⟩
    · exact fun opened after h => ⟨h.1.2, h.2⟩
  refine hopen.bind fun opened => ?_
  have hsize : Contract (fun state => state.disk.part_bytes opened.file
        = starting_bytes run surroundings need before.disk ∧
          state.network = before.network ∧ state.report = before.report)
      (in_cache (opened.file.size surroundings.faults.started))
      (fun size state => size = (starting_bytes run surroundings need before.disk).length ∧
        state.disk.part_bytes opened.file = starting_bytes run surroundings need before.disk ∧
          state.network = before.network ∧ state.report = before.report)
      (EndsEarly run surroundings need url before) :=
    (contract_in_cache contract_size stopless_size).mono (fun _ => id)
      (fun _ _ h => ⟨h.1.1, h.1.2, h.2⟩) fun _ _ => hbefore
  refine hsize.bind fun size => .assume ?_
  rintro rfl
  refine (contract_catching contract_in_transfer (fun e => ?_) ?_).bind fun outcome => ?_
  · exact (contract_download_interrupted before e).weaken fun _ _ => False.elim
  · intro state h
    refine .of_other (by simp) ?_
    rcases h.1 with hrefused | ⟨response, hanswer, haccepts, hleft, -⟩
    · exact Or.inl hrefused.2
    · exact Or.inr ⟨response, hanswer, haccepts, hleft⟩
  refine Contract.bind (Q := fun _ after => Received run surroundings need url before after
      (fun response => ¬ InterruptedDownload surroundings response)
      fun response => (body_bytes run surroundings need url before.disk response).length)
    (contract_record_report fun state h => ?_) fun _ => ?_
  · obtain ⟨⟨response, hanswer, hdownloaded⟩, hreport⟩ := h
    obtain ⟨total, -, hstreaming⟩ := hdownloaded.streaming
    have hsum : outcome.size = outcome.resumed_from
        + (body_bytes run surroundings need url before.disk response).length :=
      hstreaming.ended.received_eq
    have hreceived : outcome.size - outcome.resumed_from
        = (body_bytes run surroundings need url before.disk response).length := by
      rw [hsum, Nat.add_sub_cancel_left]
    refine ⟨response, hanswer, hstreaming.letThrough, hstreaming.ended.unstopped, hstreaming.holds.2, ?_⟩
    exact congrArg₂ (· + ·) (congrArg DownloadReport.bytes_received hreport) hreceived
  · refine .within fun state hstate => ⟨fun _ _ => hstate, ?_⟩
    rintro _ e after rfl hx
    exact .of_other (stopless_complete.fails trivial hx) hstate.spent

end StegoLab

import StegoLab.Sources.DownloadAccounting

/-!
# The budget of a fetch

The announced sizes of all assets together are checked before anything is downloaded, but the
downloads themselves are each held to the whole limit. A run stays within it when no answer has a
body beyond what the assets before it have left.
-/

namespace StegoLab

open Transaction Program DatasetCache

variable {sha256 : List UInt8 → String} {checksum : ByteArray → String} {run : DownloadRun}
  {surroundings : ℕ → DownloadSurroundings} {around : DownloadSurroundings} {need : AssetNeed}
  {needs : List AssetNeed} {index : ℕ} {url : String} {before after : DownloadState}
  {response : TransportResponse}

/-! ### One asset -/

/-- The asset is neither cached nor local, and its download is not stopped before it begins. -/
def Fetches (around : DownloadSurroundings) (need : AssetNeed) (url : String) : Prop :=
  around.stop_between = false ∧ need.entry = none ∧ need.asset.local_file = none ∧
    need.asset.url = some url

/-- The server sends a body of so many bytes for the asset. -/
def Sends (run : DownloadRun) (around : DownloadSurroundings) (need : AssetNeed)
    (disk : CacheDisk) (body : List UInt8) : Prop :=
  ∃ url response, Fetches around need url ∧ AnswersNeed run around need url disk response ∧
    AcceptsNeed run around need url disk response ∧
    body = body_bytes run around need url disk response

/-- What the server sends is within what has been left of the limit. -/
def StepWithin (run : DownloadRun) (around : DownloadSurroundings) (need : AssetNeed)
    (state : DownloadState) : Prop :=
  ∀ body, Sends run around need state.disk body → state.network + body.length ≤ run.maximum_bytes

/-- The whole body has arrived, if there is one. -/
def Arrived (run : DownloadRun) (around : DownloadSurroundings) (need : AssetNeed)
    (before after : DownloadState) : Prop :=
  (after.network = before.network ∧ ∀ url, ¬ Fetches around need url) ∨
    ∃ body, Sends run around need before.disk body ∧ after.network = before.network + body.length

/-- At most the body has arrived, if there is one. -/
def ArrivedPartly (run : DownloadRun) (around : DownloadSurroundings) (need : AssetNeed)
    (before after : DownloadState) : Prop :=
  after.network = before.network ∨ ∃ body, Sends run around need before.disk body ∧
    before.network ≤ after.network ∧ after.network ≤ before.network + body.length

lemma Sends.unique {disk : CacheDisk} {body body' : List UInt8}
    (h : Sends run around need disk body) (h' : Sends run around need disk body') :
    body = body' := by
  obtain ⟨url, response, ⟨-, -, -, hurl⟩, hanswer, -, rfl⟩ := h
  obtain ⟨url', response', ⟨-, -, -, hurl'⟩, hanswer', -, rfl⟩ := h'
  obtain rfl := Option.some_inj.mp (hurl.symm.trans hurl')
  rw [hanswer.unique hanswer']

lemma Arrived.partly (h : Arrived run around need before after) :
    ArrivedPartly run around need before after := by
  rcases h with ⟨hsame, -⟩ | ⟨body, hsends, hnetwork⟩
  · exact Or.inl hsame
  · exact Or.inr ⟨body, hsends, hnetwork.ge.trans' (Nat.le_add_right _ _), hnetwork.le⟩

lemma ArrivedPartly.least (h : ArrivedPartly run around need before after) :
    before.network ≤ after.network := by
  rcases h with hsame | ⟨-, -, hleast, -⟩
  · exact hsame.ge
  · exact hleast

lemma ArrivedPartly.within (h : ArrivedPartly run around need before after)
    (hbefore : before.network ≤ run.maximum_bytes) (hwithin : StepWithin run around need before) :
    after.network ≤ run.maximum_bytes := by
  rcases h with hsame | ⟨body, hsends, -, hmost⟩
  · exact hsame.le.trans hbefore
  · exact hmost.trans (hwithin body hsends)

/-- What has arrived whole and is within the limit was sent within it. -/
lemma Arrived.stepWithin (h : Arrived run around need before after)
    (hafter : after.network ≤ run.maximum_bytes) : StepWithin run around need before := by
  intro body hsends
  rcases h with ⟨-, hnone⟩ | ⟨body', hsends', hnetwork⟩
  · obtain ⟨url, -, hfetches, -⟩ := hsends
    exact absurd hfetches (hnone url)
  · rw [hsends.unique hsends', ← hnetwork]
    exact hafter

/-- A call that ends early has let something of the body arrive; all that is sent when it ends by a
stop. -/
def StepEndsEarly (run : DownloadRun) (around : DownloadSurroundings) (need : AssetNeed)
    (before : DownloadState) (e : Stop FetchException) (after : DownloadState) : Prop :=
  ArrivedPartly run around need before after ∧
    (e = .raised .download_stopped → Arrived run around need before after)

lemma contract_ensure_asset (before : DownloadState) :
    Contract (· = before) (ensure_asset sha256 run around need)
      (fun _ after => Arrived run around need before after)
      (StepEndsEarly run around need before) := by
  rw [ensure_asset]
  refine .ite (fun hstop => contract_raise ?_) fun hgoes => ?_
  · rintro state rfl
    have hnone : ∀ url, ¬ Fetches around need url := fun url hfetches =>
      absurd (hstop.symm.trans hfetches.1) (by simp)
    exact ⟨Or.inl rfl, fun _ => Or.inl ⟨rfl, hnone⟩⟩
  cases hentry : need.entry with
  | some entry =>
    refine .pure ?_
    rintro state rfl
    exact Or.inl ⟨rfl, fun url hfetches => absurd (hentry.symm.trans hfetches.2.1) (by simp)⟩
  | none =>
    cases hlocal : need.asset.local_file with
    | some source =>
      have hnone : ∀ url, ¬ Fetches around need url := fun url hfetches =>
        absurd (hlocal.symm.trans hfetches.2.2.1) (by simp)
      refine .within fun state hstate => ?_
      have hsame : state.network = before.network := hstate ▸ rfl
      constructor
      · intro _ _ _ _ _
        exact Or.inl ⟨hsame, hnone⟩
      · rintro _ e after rfl hx
        exact ⟨Or.inl hsame, fun h => absurd h (stopless_import_file.fails trivial hx)⟩
    | none =>
      cases hurl : need.asset.url with
      | none =>
        refine contract_raise ?_
        rintro state rfl
        exact ⟨Or.inl rfl, fun h => absurd h (ne_download_stopped (Or.inl rfl))⟩
      | some url =>
        have hfetches : Fetches around need url :=
          ⟨by simpa using hgoes, hentry, hlocal, hurl⟩
        have harrived : ∀ {after : DownloadState} {asked : TransportResponse → Prop}
            {counted : TransportResponse → ℕ},
            Received run around need url before after asked counted →
              Arrived run around need before after := by
          rintro after asked counted ⟨response, hanswer, haccepts, -, hnetwork, -⟩
          exact Or.inr ⟨_, ⟨url, response, hfetches, hanswer, haccepts, rfl⟩, hnetwork⟩
        refine (contract_download before).mono (fun _ => id) (fun _ _ => harrived) ?_
        rintro e after ⟨hspent, hstopped⟩
        refine ⟨?_, fun he => harrived (hstopped he)⟩
        rcases hspent with hsame | ⟨response, hanswer, haccepts, hspent⟩
        · exact Or.inl hsame
        · exact Or.inr ⟨_, ⟨url, response, hfetches, hanswer, haccepts, rfl⟩, hspent⟩

/-! ### All assets -/

/-- Every answer to a run has its body within what has been left of the limit. -/
def WithinBudget (sha256 : List UInt8 → String) (run : DownloadRun)
    (surroundings : ℕ → DownloadSurroundings) : ℕ → List AssetNeed → DownloadState → Prop
  | _, [], _ => True
  | index, need :: rest, state => StepWithin run (surroundings index) need state ∧
    ∀ entry next, ensure_asset sha256 run (surroundings index) need state = (.ok entry, next) →
      WithinBudget sha256 run surroundings (index + 1) rest
        { next with report := next.report.completed need entry }

/-- The loop stays within the limit while the answers are within the budget. -/
lemma contract_ensure_from (needs : List AssetNeed) (index : ℕ) (before : DownloadState)
    (hbefore : before.network ≤ run.maximum_bytes)
    (hwithin : WithinBudget sha256 run surroundings index needs before) :
    Contract (· = before) (ensure_from sha256 run surroundings index needs)
      (fun _ after => after.network ≤ run.maximum_bytes)
      fun _ after => after.network ≤ run.maximum_bytes := by
  induction needs generalizing index before with
  | nil =>
    refine .pure ?_
    rintro state rfl
    exact hbefore
  | cons need rest ih =>
    have hstep : Contract (· = before) (ensure_asset sha256 run (surroundings index) need)
        (fun entry next =>
          ensure_asset sha256 run (surroundings index) need before = (.ok entry, next) ∧
            next.network ≤ run.maximum_bytes)
        fun _ after => after.network ≤ run.maximum_bytes := by
      constructor
      · rintro _ entry next rfl hx
        exact ⟨hx, ((contract_ensure_asset _).returns rfl hx).partly.within hbefore hwithin.1⟩
      · rintro _ e after rfl hx
        exact ((contract_ensure_asset _).fails rfl hx).1.within hbefore hwithin.1
    rw [ensure_from]
    refine hstep.bind fun entry => Contract.from_each fun next hnext => ?_
    obtain ⟨hrun, hle⟩ := hnext
    refine Contract.bind (Q := fun _ state =>
      state = { next with report := next.report.completed need entry })
      (contract_record_report ?_) fun _ => ?_
    · rintro _ rfl
      rfl
    refine (contract_inspect ?_).bind fun _ => ih _ _ hle (hwithin.2 entry next hrun)
    rintro - e _ rfl
    exact hle

lemma record_report_bind {α : Type} {f : DownloadReport → DownloadReport}
    {g : Unit → DownloadProgram α} :
    (record_report f >>= g) before = g () { before with report := f before.report } := rfl

/-- The run came to its end or to a stop. -/
def EndsRun {α : Type} (outcome : Except (Stop FetchException) α) : Prop :=
  (∃ a, outcome = .ok a) ∨ outcome = .error (.raised .download_stopped)

/-- A run that ends within the limit had its answers within the budget. -/
lemma withinBudget_of_ensure_from {outcome : Except (Stop FetchException) Unit}
    (h : ensure_from sha256 run surroundings index needs before = (outcome, after))
    (hends : EndsRun outcome) :
    before.network ≤ after.network ∧ (after.network ≤ run.maximum_bytes →
      WithinBudget sha256 run surroundings index needs before) := by
  induction needs generalizing index before with
  | nil =>
    obtain ⟨-, rfl⟩ := pure_cases h
    exact ⟨le_rfl, fun _ => trivial⟩
  | cons need rest ih =>
    rw [ensure_from] at h
    rcases bind_cases h with ⟨e, hasset, rfl⟩ | ⟨entry, next, hasset, h⟩
    · -- the asset itself was stopped
      obtain rfl : e = .raised .download_stopped := by
        rcases hends with ⟨_, hok⟩ | hstopped
        · exact absurd hok (by simp)
        · exact Except.error.inj hstopped
      have hfails := (contract_ensure_asset before).fails rfl hasset
      refine ⟨hfails.1.least, fun hafter => ⟨(hfails.2 rfl).stepWithin hafter, ?_⟩⟩
      intro entry next hreturned
      exact absurd (congrArg Prod.fst (hasset.symm.trans hreturned)) (by simp)
    · have harrived := (contract_ensure_asset before).returns rfl hasset
      rw [record_report_bind] at h
      rcases bind_cases h with ⟨e, hinspect, rfl⟩ | ⟨_, reported, hinspect, h⟩
      · have hother := stopless_operation.fails trivial hinspect
        rcases hends with ⟨_, hok⟩ | hstopped
        · exact absurd hok (by simp)
        · exact absurd (Except.error.inj hstopped) hother
      · obtain ⟨-, rfl⟩ := inspect_returned hinspect
        obtain ⟨hgrown, hrest⟩ := ih h
        refine ⟨harrived.partly.least.trans hgrown, fun hafter => ⟨?_, ?_⟩⟩
        · exact harrived.stepWithin (hgrown.trans hafter)
        · intro entry' next' hreturned
          obtain ⟨hentry, rfl⟩ := Prod.mk.inj (hasset.symm.trans hreturned)
          obtain rfl := Except.ok.inj hentry
          exact hrest hafter

/-! ### Announced sizes -/

/-- The server sends no more than the size that was announced for the asset. -/
def Honours (run : DownloadRun) (around : DownloadSurroundings) (need : AssetNeed) : Prop :=
  ∀ disk body size, Sends run around need disk body → need.asset.expected_size = some size →
    body.length ≤ size

/-- The estimate of the remaining bytes keeps a run within its budget when all sizes are announced
and honoured. -/
lemma withinBudget_of_honours {remaining : ℕ} {state : DownloadState}
    (hhonours : ∀ position need, needs[position]? = some need →
      Honours run (surroundings (index + position)) need)
    (hremaining : remaining_bytes needs = some remaining)
    (hle : state.network + remaining ≤ run.maximum_bytes) :
    WithinBudget sha256 run surroundings index needs state := by
  induction needs generalizing index remaining state with
  | nil => trivial
  | cons need rest ih =>
    have hrest : ∀ position need, rest[position]? = some need →
        Honours run (surroundings (index + 1 + position)) need := by
      intro position need hneed
      rw [Nat.add_assoc, Nat.add_comm 1]
      exact hhonours (position + 1) need hneed
    rw [remaining_bytes] at hremaining
    split_ifs at hremaining with hpresent
    · -- the asset is not downloaded
      have hnone : ∀ url, ¬ Fetches (surroundings index) need url := by
        rintro url ⟨-, hentry, hlocal, -⟩
        simp [hentry, hlocal] at hpresent
      refine ⟨?_, fun entry next hreturned => ih hrest hremaining ?_⟩
      · rintro body ⟨url, -, hfetches, -⟩
        exact absurd hfetches (hnone url)
      · rcases (contract_ensure_asset state).returns rfl hreturned with ⟨hsame, -⟩ | ⟨_, hsends, -⟩
        · exact hsame ▸ hle
        · obtain ⟨url, -, hfetches, -⟩ := hsends
          exact absurd hfetches (hnone url)
    · obtain ⟨size, hsize, others, hothers, rfl⟩ :
          ∃ size, need.asset.expected_size = some size ∧
            ∃ others, remaining_bytes rest = some others ∧ size + others = remaining := by
        simpa [Option.bind_eq_some_iff] using hremaining
      have hbody : ∀ body, Sends run (surroundings index) need state.disk body →
          body.length ≤ size :=
        fun body hsends => hhonours 0 need rfl state.disk body size hsends hsize
      refine ⟨fun body hsends => ?_, fun entry next hreturned => ih hrest hothers ?_⟩
      · have := hbody body hsends
        omega
      · show next.network + others ≤ run.maximum_bytes
        rcases (contract_ensure_asset state).returns rfl hreturned with
          ⟨hsame, -⟩ | ⟨body, hsends, hnetwork⟩
        · omega
        · have := hbody body hsends
          omega

/-! ### A whole run -/

lemma in_cache_network {α : Type} {x : CacheProgram α} {outcome : Except (Stop FetchException) α}
    (h : in_cache x before = (outcome, after)) : after.network = before.network := by
  obtain ⟨-, rfl⟩ := Prod.ext_iff.mp h
  rfl

lemma in_cache_returned {α : Type} {x : CacheProgram α} {outcome : Except (Stop FetchException) α}
    (h : in_cache x before = (outcome, after)) : x before.disk = (outcome, after.disk) := by
  obtain ⟨houtcome, rfl⟩ := Prod.ext_iff.mp h
  exact Prod.ext houtcome rfl

lemma mapError_ok {x : Except Raised Unit}
    (h : x.mapError FetchException.raised = .ok ()) : x = .ok () := by
  cases x with
  | ok _ => rfl
  | error _ => exact absurd h (by simp [Except.mapError])

/-- Every answer to a run that passes the checks of space has its body within what has been left of
the limit. -/
def RunWithin (sha256 : List UInt8 → String) (checksum : ByteArray → String) (run : DownloadRun)
    (surroundings : ℕ → DownloadSurroundings) (space : SpaceChecks) (before : DownloadState) :
    Prop :=
  ∀ needs started,
    in_cache (asset_needs sha256 run surroundings checksum 0 run.plan.resolved.assets) before
        = (.ok needs, started) →
      check_space run space needs = .ok () →
        WithinBudget sha256 run surroundings 0 needs
          { started with report := started.report.begun needs }

lemma asset_needs_assets {assets : List PlannedAsset} {disk next : CacheDisk}
    (h : asset_needs sha256 run surroundings checksum index assets disk = (.ok needs, next)) :
    needs.map AssetNeed.asset = assets := by
  induction assets generalizing index needs disk next with
  | nil =>
    obtain ⟨hneeds, -⟩ := pure_ok.mp h
    rw [← hneeds, List.map_nil]
  | cons asset rest ih =>
    rw [asset_needs] at h
    obtain ⟨entry, found, -, hrest⟩ := bind_ok.mp h
    obtain ⟨others, last, hothers, hneeds⟩ := bind_ok.mp hrest
    rw [← (pure_ok.mp hneeds).1, List.map_cons, ih hothers]

lemma remaining_bytes_announced
    (h : ∀ asset ∈ needs.map AssetNeed.asset, asset.expected_size.isSome = true) :
    ∃ remaining, remaining_bytes needs = some remaining := by
  induction needs with
  | nil => exact ⟨0, rfl⟩
  | cons need rest ih =>
    rw [List.map_cons, List.forall_mem_cons] at h
    obtain ⟨others, hothers⟩ := ih h.2
    obtain ⟨size, hsize⟩ := Option.isSome_iff_exists.mp h.1
    rw [remaining_bytes]
    split_ifs
    · exact ⟨others, hothers⟩
    · exact ⟨size + others, by simp [hsize, hothers]⟩

lemma check_space_remaining {space : SpaceChecks} {remaining : ℕ}
    (h : check_space run space needs = .ok ()) (hremaining : remaining_bytes needs = some remaining) :
    remaining ≤ run.maximum_bytes := by
  rw [check_space, hremaining] at h
  obtain ⟨_, hraised, -⟩ := bind_eq_ok.mp h
  exact not_lt.mp (raise_if_eq_ok.mp hraised)

/-- A run whose sizes are all announced and honoured has its answers within the budget. -/
theorem runWithin_of_honours {space : SpaceChecks} (hstart : before.network = 0)
    (hsizes : ∀ asset ∈ run.plan.resolved.assets, asset.expected_size.isSome = true)
    (hhonours : ∀ index need, Honours run (surroundings index) need) :
    RunWithin sha256 checksum run surroundings space before := by
  intro needs started hneeds haccepted
  have hsame : started.network = 0 := (in_cache_network hneeds).trans hstart
  have hassets : needs.map AssetNeed.asset = run.plan.resolved.assets :=
    asset_needs_assets (in_cache_returned hneeds)
  obtain ⟨remaining, hremaining⟩ := remaining_bytes_announced (hassets ▸ hsizes)
  have hle := check_space_remaining haccepted hremaining
  refine withinBudget_of_honours (fun position need _ => hhonours _ need) hremaining ?_
  show started.network + remaining ≤ run.maximum_bytes
  omega

/-- A run that has not received anything yet never receives more than its limit while every answer
is within what has been left of it; and a run that comes to its end or to a stop within its limit
has had no other answers. -/
theorem downloads_within_budget {space : SpaceChecks} {progress : Fault Unit}
    {outcome : Except (Stop FetchException) Unit}
    (h : download_assets sha256 run surroundings checksum space progress before = (outcome, after))
    (hstart : before.network = 0) :
    (RunWithin sha256 checksum run surroundings space before →
      after.network ≤ run.maximum_bytes) ∧
    (EndsRun outcome → after.network ≤ run.maximum_bytes →
      RunWithin sha256 checksum run surroundings space before) := by
  rw [download_assets] at h
  rcases bind_cases h with ⟨e, hneeds, rfl⟩ | ⟨needs, started, hneeds, hchecks⟩
  · have hsame := in_cache_network hneeds
    refine ⟨fun _ => by simp [hsame, hstart], fun _ _ needs started hreturned _ => ?_⟩
    exact absurd (congrArg Prod.fst (hneeds.symm.trans hreturned)) (by simp)
  have hsame := in_cache_network hneeds
  rw [hstart] at hsame
  rcases bind_cases hchecks with ⟨e, hcheck, rfl⟩ | ⟨⟨⟩, checked, hcheck, hensure⟩
  · -- the estimate is refused
    obtain ⟨⟨exception, herror, -⟩, rfl⟩ := attempt_failed hcheck
    refine ⟨fun _ => by simp [hsame], fun _ _ needs' started' hreturned haccepted => ?_⟩
    obtain ⟨hneeds', rfl⟩ := Prod.mk.inj (hneeds.symm.trans hreturned)
    obtain rfl := Except.ok.inj hneeds'
    rw [haccepted] at herror
    exact absurd herror (by simp [Except.mapError])
  obtain ⟨hok, rfl⟩ := attempt_returned hcheck
  have haccepted := mapError_ok hok
  rw [ensure_assets, record_report_bind] at hensure
  rcases bind_cases hensure with ⟨e, hinspect, rfl⟩ | ⟨⟨⟩, reported, hinspect, hloop⟩
  · -- the first report fails
    have hkept := (contract_inspect (P := (· = { checked with report := checked.report.begun needs }))
      (R := fun _ state => state.network = 0) ?_).fails rfl hinspect
    · refine ⟨fun _ => by simp [hkept], fun hends _ => ?_⟩
      rcases hends with ⟨_, hreturned⟩ | hstopped
      · exact absurd hreturned (by simp)
      · exact absurd (Except.error.inj hstopped) (stopless_operation.fails trivial hinspect)
    · rintro - e _ rfl
      exact hsame
  obtain ⟨-, rfl⟩ := inspect_returned hinspect
  constructor
  · intro hwithin
    have hkept := contract_ensure_from needs 0 { checked with report := checked.report.begun needs }
      (hsame.le.trans (Nat.zero_le _)) (hwithin needs checked hneeds haccepted)
    cases outcome with
    | ok _ => exact hkept.returns rfl hloop
    | error _ => exact hkept.fails rfl hloop
  · intro hends hafter needs' started' hreturned _
    obtain ⟨hneeds', rfl⟩ := Prod.mk.inj (hneeds.symm.trans hreturned)
    obtain rfl := Except.ok.inj hneeds'
    exact (withinBudget_of_ensure_from hloop hends).2 hafter

/-! ### Two files of unannounced size -/

/-- A digest that only tells texts of even and of odd length apart. -/
def length_checksum (data : ByteArray) : String :=
  String.ofList (List.replicate 64 (if data.size % 2 = 0 then 'a' else 'b'))

def masks_asset : PlannedAsset :=
  { images_asset with
    url := some "https://huggingface.co/datasets/owner/images/resolve/main/masks.tar"
    path := "masks.tar" }

def masked_run : DownloadRun where
  plan := { images_plan with
    resolved := { images_plan.resolved with assets := [images_asset, masks_asset] } }
  owner := "a"
  maximum_bytes := 3
  resume := true
  created_at := "now"

/-- A server that sends three bytes for every file. -/
def unannounced_server : DownloadSurroundings where
  transport _ _ := .ok { status := 200, headers := .empty, chunks := [[1, 2, 3]] }
  disk_usage := some { total := 0, free := 10 * 1024 ^ 3 }
  updated_at := "now"

def ample_space : SpaceChecks where
  cache := some { total := 0, free := 10 * 1024 ^ 3 }
  data := some { total := 0, free := 10 * 1024 ^ 3 }
  grown total := total

def masked_download : Except (Stop FetchException) Unit × DownloadState :=
  download_assets (fun _ => images_identity) masked_run (fun _ => unannounced_server)
    length_checksum ample_space .none {}

lemma masked_download_network : masked_download.2.network = 6 := by
  decide +kernel

/-- Both files are received whole, six bytes where three were allowed. -/
theorem masked_download_above_budget :
    ¬ ∀ (sha256 : List UInt8 → String) (checksum : ByteArray → String) (run : DownloadRun)
      (surroundings : ℕ → DownloadSurroundings) (space : SpaceChecks) (progress : Fault Unit)
      (before after : DownloadState) (outcome : Except (Stop FetchException) Unit),
      download_assets sha256 run surroundings checksum space progress before = (outcome, after) →
        before.network = 0 → after.network ≤ run.maximum_bytes := by
  intro hwithin
  have hle : masked_download.2.network ≤ masked_run.maximum_bytes :=
    hwithin _ _ _ _ _ _ _ _ _ Prod.mk.eta.symm rfl
  rw [masked_download_network] at hle
  exact absurd hle (by decide)

theorem masked_download_within_budget :
    (RunWithin (fun _ => images_identity) length_checksum masked_run (fun _ => unannounced_server)
        ample_space {} → masked_download.2.network ≤ masked_run.maximum_bytes) ∧
    (EndsRun masked_download.1 → masked_download.2.network ≤ masked_run.maximum_bytes →
      RunWithin (fun _ => images_identity) length_checksum masked_run (fun _ => unannounced_server)
        ample_space {}) :=
  downloads_within_budget Prod.mk.eta.symm rfl

end StegoLab

import StegoLab.Sources.DownloadProperties

/-!
# The count of received bytes

The report counts the body bytes that arrive, also when a download is stopped: the count comes from
the sizes of the part file, so that a stopped download that had to start again counts only what has
grown above the file that it found.
-/

namespace StegoLab

open Transaction Program DatasetCache

variable {sha256 : List UInt8 → String} {run : DownloadRun} {surroundings : DownloadSurroundings}
  {need : AssetNeed} {url : String} {before after : DownloadState} {disk : CacheDisk}
  {outcome : Except (Stop FetchException) CacheEntry}

/-- The report has grown by as many bytes as have arrived. -/
def CountsArrivals (before after : DownloadState) : Prop :=
  after.report.bytes_received + before.network = before.report.bytes_received + after.network

/-- A download that found bytes and could not continue them is stopped after some of the body. -/
def StoppedAnew (run : DownloadRun) (surroundings : DownloadSurroundings) (need : AssetNeed)
    (url : String) (disk : CacheDisk) : Prop :=
  starting_bytes run surroundings need disk ≠ [] ∧
    ∃ response, AnswersNeed run surroundings need url disk response ∧
      InterruptedDownload surroundings response ∧
      continued_bytes run surroundings need url disk response = [] ∧
      body_bytes run surroundings need url disk response ≠ []

/-- An answer continues all bytes that a download starts from, or none of them. -/
lemma continued_bytes_cases (run : DownloadRun) (surroundings : DownloadSurroundings)
    (need : AssetNeed) (url : String) (disk : CacheDisk) (response : TransportResponse) :
    continued_bytes run surroundings need url disk response
        = starting_bytes run surroundings need disk ∨
      continued_bytes run surroundings need url disk response = [] := by
  rw [continued_bytes, TransportResponse.prefix_of, TransportResponse.kept]
  split_ifs
  · rw [RemoteAsset.offered]
    split_ifs
    · exact Or.inl rfl
    · exact Or.inr rfl
  · exact Or.inr rfl

/-- So many more bytes in the part file are those of the body, unless it started again. -/
lemma grown_eq_iff {start kept body : List UInt8} (h : kept = start ∨ kept = []) :
    (kept ++ body).length - start.length = body.length ↔
      ¬ (start ≠ [] ∧ kept = [] ∧ body ≠ []) := by
  rcases h with rfl | rfl
  · refine iff_of_true (by simp) ?_
    rintro ⟨hstart, hkept, -⟩
    exact hstart hkept
  · simp only [List.nil_append, ne_eq, true_and, ← List.length_eq_zero_iff]
    omega

lemma Received.countsArrivals_iff {asked : TransportResponse → Prop}
    {counted : TransportResponse → ℕ}
    (h : Received run surroundings need url before after asked counted) :
    CountsArrivals before after ↔
      ∃ response, AnswersNeed run surroundings need url before.disk response ∧
        counted response = (body_bytes run surroundings need url before.disk response).length := by
  obtain ⟨response, hanswer, -, -, hnetwork, hcounted⟩ := h
  have hexact : CountsArrivals before after ↔
      counted response = (body_bytes run surroundings need url before.disk response).length := by
    rw [CountsArrivals, hnetwork, hcounted]
    omega
  rw [hexact]
  constructor
  · exact fun h => ⟨response, hanswer, h⟩
  · rintro ⟨response', hanswer', h⟩
    rwa [hanswer.unique hanswer']

/-- A download that completes or is stopped counts what has arrived, unless it is stopped after it
started again. -/
theorem download_counts_arrivals_iff
    (h : download sha256 run surroundings need url before = (outcome, after))
    (hends : (∃ entry, outcome = .ok entry) ∨ outcome = .error (.raised .download_stopped)) :
    CountsArrivals before after ↔ ¬ StoppedAnew run surroundings need url before.disk := by
  rcases hends with ⟨entry, rfl⟩ | rfl
  · have hreceived := (contract_download before).returns rfl h
    have ⟨response, hanswer, _, hwhole, _⟩ := hreceived
    have hcounts : CountsArrivals before after :=
      hreceived.countsArrivals_iff.mpr ⟨response, hanswer, rfl⟩
    refine iff_of_true hcounts ?_
    rintro ⟨-, response', hanswer', hinterrupted, -⟩
    rw [hanswer'.unique hanswer] at hinterrupted
    exact hwhole hinterrupted
  · have hreceived := ((contract_download before).fails rfl h).2 rfl
    have ⟨response, hanswer, _, hinterrupted, _⟩ := hreceived
    have hgrown : _ ↔ ¬ (_ ∧ _ ∧ body_bytes run surroundings need url before.disk response ≠ []) :=
      grown_eq_iff (continued_bytes_cases run surroundings need url before.disk response)
    rw [hreceived.countsArrivals_iff]
    constructor
    · rintro ⟨response', hanswer', hcounted⟩ ⟨hstart, response'', hanswer'', -, hanew⟩
      rw [hanswer'.unique hanswer] at hcounted
      rw [hanswer''.unique hanswer] at hanew
      exact hgrown.mp hcounted ⟨hstart, hanew⟩
    · intro hsteady
      refine ⟨response, hanswer, hgrown.mpr ?_⟩
      rintro ⟨hstart, hanew⟩
      exact hsteady ⟨hstart, response, hanswer, hinterrupted, hanew⟩

/-! ### A download that starts again -/

def images_identity : String :=
  "aaaaaaaaaaaaaaaaaaaaaaaaaaaaaaaaaaaaaaaaaaaaaaaaaaaaaaaaaaaaaaaa"

def images_url : String :=
  "https://huggingface.co/datasets/owner/images/resolve/main/images.tar"

def images_asset : PlannedAsset where
  url := some images_url
  path := "images.tar"
  expected_size := none
  expected_sha256 := none
  etag := none
  resumable := true
  authorization_host := none

def images_need : AssetNeed where
  asset := images_asset
  identity := images_identity
  entry := none

def images_plan : MaterializationPlan where
  resolved := {
    source_kind := .hugging_face
    reference := "owner/images"
    requested_revision := none
    resolved_revision := "main"
    access := .available
    access_guidance := none
    content := .images
    assets := [images_asset]
    supports_pause := true
    declared_splits := false
    split_mapping := .empty
    member_split_labels := .empty
    warnings := []
    terms_reference := "terms" }
  source_name := "images"
  identity := images_identity
  maximum_images := 10
  training_intended := false

def images_run : DownloadRun where
  plan := images_plan
  owner := "a"
  maximum_bytes := 100
  resume := true
  created_at := "now"

/-- A record of three bytes that an earlier run has received. -/
def images_record : ValidPartialRecord :=
  ⟨{ owner := "a", bytes_received := 3, updated_at := "now" }, by decide⟩

def paused_state : DownloadState where
  disk := {
    partials := Dict.empty.insert ("hugging_face/" ++ images_identity) {
      record := some images_record
      files := Dict.empty.insert "images.tar.part" [1, 2, 3] } }

/-- A server that sends the whole file again, and a stop after its first piece. -/
def restarting_server : DownloadSurroundings where
  transport _ _ := .ok { status := 200, headers := .empty, chunks := [[4, 5], [6]] }
  stop _ := true
  disk_usage := some { total := 0, free := 10 * 1024 ^ 3 }
  updated_at := "now"

/-- The run from three bytes that is stopped after two new ones. -/
def restarted_download : Except (Stop FetchException) CacheEntry × DownloadState :=
  download (fun _ => "") images_run restarting_server images_need images_url paused_state

lemma restarted_download_stopped :
    restarted_download.1 = .error (.raised .download_stopped) := by
  decide +kernel

/-- Two bytes arrive and none is counted. -/
theorem restarted_download_uncounted :
    ¬ ∀ (sha256 : List UInt8 → String) (run : DownloadRun) (surroundings : DownloadSurroundings)
      (need : AssetNeed) (url : String) (before after : DownloadState)
      (outcome : Except (Stop FetchException) CacheEntry),
      download sha256 run surroundings need url before = (outcome, after) →
        ((∃ entry, outcome = .ok entry) ∨ outcome = .error (.raised .download_stopped)) →
          CountsArrivals before after := by
  intro hcounts
  have harrived : CountsArrivals paused_state restarted_download.2 :=
    hcounts _ _ _ _ _ _ _ _ Prod.mk.eta.symm (Or.inr restarted_download_stopped)
  have hnetwork : restarted_download.2.network = 2 := by decide +kernel
  have hreport : restarted_download.2.report.bytes_received = 0 := by decide +kernel
  rw [CountsArrivals, hnetwork, hreport] at harrived
  exact absurd harrived (by decide)

theorem download_counts_arrivals_restarted :
    CountsArrivals paused_state restarted_download.2 ↔
      ¬ StoppedAnew images_run restarting_server images_need images_url paused_state.disk :=
  download_counts_arrivals_iff Prod.mk.eta.symm (Or.inr restarted_download_stopped)

end StegoLab

import StegoLab.Sources.Cache

/-!
# Downloads

Bringing every planned asset into the cache: reuse it, import it or download it.
-/

namespace StegoLab

open Transaction Program

/-! ### Failures -/

def UNUSABLE_PARTIAL_CODES : List String :=
  ["download_checksum_mismatch", "download_size_mismatch"]

def UNREACHABLE_MESSAGE : String :=
  "A planned file has neither a download address nor a local copy. "
    ++ "Inspect the source again before fetching it."

def source_asset_unreachable : ApplicationFailure where
  code := "source_asset_unreachable"
  message := UNREACHABLE_MESSAGE
  status_code := 502

/-! ### Runs -/

/-- One planned asset with its cache identity and any verified cache entry. -/
structure AssetNeed where
  asset : PlannedAsset
  identity : String
  entry : Option CacheEntry

/-- What the download phase reused, imported or received. -/
structure DownloadReport where
  entries : Dict CacheEntry := .empty
  bytes_received : ℕ := 0
  bytes_total : Option ℕ := some 0
  bytes_present : ℕ := 0
  assets_completed : ℕ := 0

/-- What the download phase shares between its assets. -/
structure DownloadRun where
  plan : MaterializationPlan
  owner : String
  maximum_bytes : ℕ
  resume : Bool
  created_at : String

/-- What happens to the file operations of each part of a download. -/
structure DownloadFaults where
  lookup : CacheFaults := {}
  opening : CacheFaults := {}
  discarding : CacheFaults := {}
  recording : CacheFaults := {}
  started : CacheFaults := {}
  transfer : CacheFaults := {}
  interrupted : CacheFaults := {}
  publishing : CacheFaults := {}
  completed : Fault Unit := .none

/-- What one asset of a run meets: the servers, the stops, the disk and the clock. -/
structure DownloadSurroundings where
  transport : Option String → TransportOpen
  stop_between : Bool := false
  stop : ℕ → Bool := fun _ => false
  disk_usage : Option DiskUsage
  updated_at : String
  local_file : String → Option (List (List UInt8)) := fun _ => none
  faults : DownloadFaults := {}

/-- The cache and the network, with the report of the run. -/
structure DownloadState extends TransferState where
  report : DownloadReport := {}

abbrev DownloadProgram (α : Type) : Type :=
  Program DownloadState FetchException α

/-- A program over the cache alone. -/
def in_cache {α : Type} (program : CacheProgram α) : DownloadProgram α :=
  within (fun state => state.disk) (fun disk state => { state with disk := disk }) program

/-- A program over the cache and the network. -/
def in_transfer {α : Type} (program : TransferProgram α) : DownloadProgram α :=
  within DownloadState.toTransferState
    (fun transfer state => { state with toTransferState := transfer }) program

/-- A change of the report. -/
def record_report (f : DownloadReport → DownloadReport) : DownloadProgram Unit :=
  fun state => (.ok (), { state with report := f state.report })

def DownloadRun.provenance (run : DownloadRun) : DatasetCache.Provenance where
  reference := run.plan.resolved.reference
  revision := run.plan.resolved.resolved_revision
  terms_reference := run.plan.resolved.terms_reference
  created_at := run.created_at

section Downloads

variable (sha256 : List UInt8 → String) (run : DownloadRun) (surroundings : DownloadSurroundings)

/-! ### One asset -/

/-- `_discard_partial_bytes`: drop the bytes of an adopted partial download. -/
def discard_partial_bytes (opened : CachePartial) : CacheProgram CachePartial := do
  let _ ← opened.file.open_for_append surroundings.faults.discarding
  finally_do (opened.file.truncate surroundings.faults.discarding)
    (PartialFile.close surroundings.faults.discarding)
  DatasetCache.update_partial surroundings.faults.recording surroundings.updated_at opened 0

/-- The partial download that an asset starts from. -/
def open_download (need : AssetNeed) : CacheProgram CachePartial := do
  let opened ← DatasetCache.open_partial surroundings.faults.opening surroundings.disk_usage
    surroundings.updated_at run.plan.resolved.source_kind need.identity need.asset run.owner
  if run.resume = true then return opened
  else do
    let size ← opened.file.size surroundings.faults.discarding
    if size = 0 then return opened
    else discard_partial_bytes surroundings opened

def remote_asset (asset : PlannedAsset) (url : String) : RemoteAsset where
  url := url
  basename := asset.basename
  expected_size := asset.expected_size
  expected_sha256 := asset.expected_sha256
  etag := asset.etag
  resumable := asset.resumable

/-- The handlers around the download of one asset. -/
def download_interrupted (need : AssetNeed) (opened : CachePartial) (started_from : ℕ)
    (e : FetchException) : DownloadProgram DownloadOutcome :=
  match e with
  | .download_stopped => do
    let received ← in_cache (opened.file.size surroundings.faults.interrupted)
    let _ ← in_cache ( DatasetCache.update_partial surroundings.faults.interrupted
      surroundings.updated_at opened received)
    record_report fun report =>
      { report with bytes_received := report.bytes_received + (received - started_from) }
    raise .download_stopped
  | .raised (.application failure) => do
    if failure.code ∈ UNUSABLE_PARTIAL_CODES then do
      let _ ← in_cache ( DatasetCache.remove_partial surroundings.faults.interrupted
        run.plan.resolved.source_kind need.identity run.owner)
      raise e
    else raise e
  | e => raise e

/-- `_download`: stream one asset into its part file, then seal it into the cache. -/
def download (need : AssetNeed) (url : String) : DownloadProgram CacheEntry := do
  let opened ← in_cache (open_download run surroundings need)
  let started_from ← in_cache (opened.file.size surroundings.faults.started)
  let outcome ← catching
    (in_transfer (download_asset surroundings.faults.transfer sha256
      (surroundings.transport need.asset.authorization_host) (remote_asset need.asset url)
      opened.file run.maximum_bytes surroundings.stop))
    (download_interrupted run surroundings need opened started_from)
  record_report fun report =>
    { report with
      bytes_received := report.bytes_received + (outcome.size - outcome.resumed_from)
      bytes_present := report.bytes_present + outcome.size }
  in_cache (DatasetCache.complete surroundings.faults.publishing sha256 opened outcome
    run.provenance)

/-- The entry of one asset: reused, imported or downloaded. -/
def ensure_asset (need : AssetNeed) : DownloadProgram CacheEntry := do
  if surroundings.stop_between = true then raise .download_stopped
  else
    match need.entry, need.asset.local_file, need.asset.url with
    | some entry, _, _ => return entry
    | none, some file, _ => in_cache (DatasetCache.import_file surroundings.faults.opening sha256
        surroundings.disk_usage surroundings.updated_at run.plan.resolved.source_kind need.identity
        need.asset (surroundings.local_file file) run.owner run.provenance)
    | none, none, some url => download sha256 run surroundings need url
    | none, none, none => raise (.application source_asset_unreachable)

end Downloads

/-! ### All assets -/

section Assets

variable (sha256 : List UInt8 → String) (run : DownloadRun)
  (surroundings : ℕ → DownloadSurroundings)

/-- The report with one more asset. -/
def DownloadReport.completed (need : AssetNeed) (entry : CacheEntry) (report : DownloadReport) :
    DownloadReport :=
  { report with
    entries := report.entries.insert need.identity entry
    assets_completed := report.assets_completed + 1 }

/-- The loop of `ensure_assets`. -/
def ensure_from : ℕ → List AssetNeed → DownloadProgram Unit
  | _, [] => return ()
  | index, need :: rest => do
    let entry ← ensure_asset sha256 run (surroundings index) need
    record_report (.completed need entry)
    inspect (surroundings index).faults.completed (.application progress_failure)
    ensure_from (index + 1) rest

/-- `remaining_bytes`: the sizes still to download, or none when one of them is unknown. -/
def remaining_bytes : List AssetNeed → Option ℕ
  | [] => some 0
  | need :: rest =>
    if need.entry.isSome = true ∨ need.asset.local_file.isSome = true then remaining_bytes rest
    else do
      let size ← need.asset.expected_size
      let others ← remaining_bytes rest
      return size + others

/-- The report of a run that begins. -/
def DownloadReport.begun (needs : List AssetNeed) (report : DownloadReport) : DownloadReport :=
  { report with bytes_total := remaining_bytes needs }

/-- `ensure_assets`: make every asset a verified cache entry. -/
def ensure_assets (progress : Fault Unit) (needs : List AssetNeed) : DownloadProgram Unit := do
  record_report (.begun needs)
  inspect progress (.application progress_failure)
  ensure_from sha256 run surroundings 0 needs

/-- `asset_needs`: pair every asset with its cache identity and any verified cache entry. -/
def asset_needs (checksum : ByteArray → String) :
    ℕ → List PlannedAsset → CacheProgram (List AssetNeed)
  | _, [] => return []
  | index, asset :: rest => do
    let resolved := run.plan.resolved
    let identity := asset_identity checksum resolved.source_kind resolved.reference
      resolved.resolved_revision asset.path asset.expected_sha256
    let entry ← DatasetCache.find_complete (surroundings index).faults.lookup sha256
      resolved.source_kind identity true
    let needs ← asset_needs checksum (index + 1) rest
    return { asset, identity, entry } :: needs

/-- The free space that `check_space` looks at, and what an archive grows to by `int(total * 1.1)`. -/
structure SpaceChecks where
  cache : Option DiskUsage
  data : Option DiskUsage
  grown : ℕ → ℕ

/-- `check_space`: refuse early when the download or the raw folder would break the reserve. -/
def check_space (space : SpaceChecks) (needs : List AssetNeed) : Except Raised Unit := do
  match remaining_bytes needs with
  | none => pure ()
  | some remaining => do
    raise_if (run.maximum_bytes < remaining)
      (.application (transfer_failure "download_too_large"))
    ensure_disk_reserve space.cache remaining
  let sizes := run.plan.resolved.assets.map PlannedAsset.expected_size
  if sizes.all Option.isSome = true then
    let total := sizes.reduceOption.sum
    ensure_disk_reserve space.data
      (if run.plan.resolved.source_kind = .hugging_face then total else space.grown total)
  else pure ()

/-- `download_assets`: check the space estimate, then bring every asset into the cache. -/
def download_assets (checksum : ByteArray → String) (space : SpaceChecks) (progress : Fault Unit) :
    DownloadProgram Unit := do
  let needs ← in_cache (asset_needs sha256 run surroundings checksum 0 run.plan.resolved.assets)
  attempt ((check_space run space needs).mapError .raised)
  ensure_assets sha256 run surroundings progress needs

end Assets

end StegoLab

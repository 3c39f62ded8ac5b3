import StegoLab.Library.Runs
import StegoLab.Sources.DownloadOwnership
import StegoLab.Workflow.Supervision

/-!
# The history of a fetch job

A fetch job is queued, run, paused, resumed and cancelled, while its worker and the workers of
other jobs change the download cache. A change that is not saved leaves the job as it was.
-/

namespace StegoLab

open Transaction Program

/-! ### States and events -/

/-- A fetch job, the partial downloads that its runner has been told of, and the cache. -/
structure FetchJob where
  job : JobSnapshot
  reported : List String := []
  disk : CacheDisk := {}

/-- `run_label_for`: the label of a worker from the identifier of its job. -/
def run_label_for (job_identifier : String) : String :=
  if "job_".toList <+: job_identifier.toList then
    String.ofList (job_identifier.toList.drop "job_".length)
  else job_identifier

def FetchJob.label (s : FetchJob) : String :=
  run_label_for s.job.job_identifier

/-- One run of the download phase, with all it meets. -/
structure DownloadCall where
  sha256 : List UInt8 → String
  run : DownloadRun
  surroundings : ℕ → DownloadSurroundings
  checksum : ByteArray → String
  space : SpaceChecks
  progress : Fault Unit := .none

/-- The cache after the download phase, however it ended. -/
def DownloadCall.apply (call : DownloadCall) (disk : CacheDisk) : CacheDisk :=
  (download_assets call.sha256 call.run call.surroundings call.checksum call.space call.progress
    { disk := disk }).2.disk

/-- What happens to a fetch job and around it. -/
inductive FetchEvent where
  | claim
  | download (call : DownloadCall)
  | report (record : DatasetFetchProgress) (partial_directories : List String) (saved : Bool)
  | act (action : JobAction) (faults : DiscardFaults) (saved : Bool)
  | leave (closing : Bool) (ended : WorkerExit ⊕ ApplicationFailure) (faults : DiscardFaults)
    (saved : Bool)
  | fail (closing : Bool)
  | interrupt
  | download_other (call : DownloadCall)
  | sweep (faults : String × Bool → CacheFaults) (checksum : ByteArray → String)
    (service : SourceService) (lock : CacheFaults)

/-! ### Steps -/

/-- The worker of the job may be alive: it runs, or a shutdown has not waited for it. -/
def worked_on (job : JobSnapshot) : Bool :=
  job.status = .running || job.status = .interrupted

/-- The branch of `fetch_action_changes` that removes partial downloads. -/
def action_discards (job : JobSnapshot) (action : JobAction) : Bool :=
  action = .cancel && (job.status = .queued || job.status = .paused)

/-- The branch of `stopped_changes` that removes partial downloads, where the end of the run comes
to it. -/
def exit_discards (job : JobSnapshot) : WorkerExit ⊕ ApplicationFailure → Bool
  | .inl exit =>
    !(exit.code = 0 && has_text exit.result "status" ["completed", "reused"]) &&
      has_text exit.result "status" ["stopped"] && job.requested_action = some .cancel
  | .inr _ => job.requested_action = some .cancel

/-- Save the changes of the job. -/
def FetchJob.saved (saved : Bool) (changes : JobSnapshot → JobSnapshot) (s : FetchJob) : FetchJob :=
  if saved = true then { s with job := changes s.job } else s

/-- Save the changes after the partial downloads of the job have been removed. -/
def FetchJob.discarded (faults : DiscardFaults) (reported : List String) (saved : Bool)
    (changes : JobSnapshot → JobSnapshot) (s : FetchJob) : FetchJob :=
  match discard_partials faults s.label reported s.disk with
  | (.error _, disk) => { s with disk := disk }
  | (.ok (), disk) => { s with disk := disk }.saved saved changes

/-- `report_failure`, and the interruption of an unfinished job. -/
def ended_as (status : JobStatus) (job : JobSnapshot) : JobSnapshot :=
  { job with status := status, phase := status.label, available_actions := [] }

/-- One step, where it is possible. -/
def FetchEvent.step : FetchEvent → FetchJob → Option FetchJob
  | .claim, s =>
    if s.job.status = .queued then
      some { s with
        reported := []
        job := { s.job with
          status := .running, phase := "preparing"
          available_actions := initial_running_actions s.job } }
    else none
  | .download call, s =>
    if worked_on s.job = true ∧ call.run.owner = s.label then
      some { s with disk := call.apply s.disk }
    else none
  | .report record partial_directories saved, s =>
    if worked_on s.job = true then
      some ({ s with reported := partial_directories }.saved saved (progress_changes record))
    else none
  | .act action faults saved, s =>
    if action ∈ s.job.available_actions then
      match fetch_action_changes s.job action with
      | .error _ => some s
      | .ok changes =>
        if action_discards s.job action = true then some (s.discarded faults [] saved changes)
        else some (s.saved saved changes)
    else none
  | .leave closing ended faults saved, s =>
    if worked_on s.job = true then
      match fetch_changes closing s.job ended with
      | .error _ => some s
      | .ok changes =>
        if exit_discards s.job ended = true then
          some (s.discarded faults s.reported saved changes)
        else some (s.saved saved changes)
    else none
  | .fail closing, s =>
    if worked_on s.job = true then
      some { s with job := ended_as (if closing then .interrupted else .failed) s.job }
    else none
  | .interrupt, s =>
    if unfinished s.job = true then some { s with job := ended_as .interrupted s.job } else none
  | .download_other call, s =>
    if call.run.owner ≠ s.label then some { s with disk := call.apply s.disk } else none
  | .sweep faults checksum service lock, s =>
    some { s with disk := (remove_unused faults checksum service lock s.disk).2 }

/-- The steps of a fetch job. -/
def FetchStep (s : FetchJob) (event : FetchEvent) (t : FetchJob) : Prop :=
  event.step s = some t

end StegoLab

import StegoLab.Workflow.Service

/-!
# Supervision

The sections of the scheduler thread, of startup and shutdown, and of the cache cleanup.
-/

namespace StegoLab

open CanonicalJson

variable (surroundings : Surroundings)

/-! ### Interruption -/

def FETCH_INTERRUPTED : JobError where
  code := "fetch_interrupted"
  message := "The application stopped while this download was running. "
    ++ "Start it again to continue from the saved partial download."

def INPUTS_LOST : JobError where
  code := "inputs_lost"
  message := "The application restarted before this job finished. The message "
    ++ "and password were not saved. Start the job again."

/-- `interruption_error`: other jobs keep their error. -/
def interruption_error (job : JobSnapshot) : Option JobError :=
  if is_inference job then some INPUTS_LOST else job.error

def interrupt (job : JobSnapshot) : Section JobSnapshot :=
  change surroundings job
    (fun job =>
      { job with
        status := .interrupted, phase := "interrupted", available_actions := []
        error := if is_fetch job then some FETCH_INTERRUPTED else interruption_error job })
    none

/-- Queued and running jobs are unfinished. -/
def unfinished (job : JobSnapshot) : Bool :=
  job.status = .queued || job.status = .running

def interrupt_unfinished : List JobSnapshot → Section Unit
  | [] => return ()
  | job :: jobs =>
    if unfinished job then do
      let _ ← interrupt surroundings job
      interrupt_unfinished jobs
    else interrupt_unfinished jobs

/-! ### Startup and shutdown -/

def workspace_busy : ApplicationFailure where
  code := "workspace_busy"
  message := "Another application owns this local queue."

/-- `start`; `owned` says whether another application holds the queue lock. -/
def start (owned : Bool) : Section Unit := do
  raise_if (owned = true) (Raised.application workspace_busy)
  let service ← Transaction.read
  Transaction.write { service with ownership := true }
  let jobs ← list_jobs surroundings
  interrupt_unfinished surroundings jobs
  let service ← Transaction.read
  Transaction.write { service with thread := .checking }

/-- `halt_for_storage`: stop admission independently of failed persistence. -/
def halt_for_storage (service : WorkspaceJobService) : WorkspaceJobService :=
  { service with persistence_failed := true, closing := true }

/-- The first section of `close_supervisor` asks a running training job to stop. -/
def request_stop : Section Unit := do
  let service ← Transaction.read
  match service.active_identifier with
  | none => return ()
  | some identifier =>
    let job ← get_job surroundings identifier
    if job.operation = .train ∧ job.status = .running then do
      let _ ← change surroundings job
        (fun job =>
          { job with requested_action := some .stop, phase := "saving", available_actions := [] })
        none
      return ()
    else return ()

/-- The second section of `close_supervisor`: only the owner of the queue reconciles it. -/
def reconcile : Section Unit := do
  let service ← Transaction.read
  if service.persistence_failed = false ∧ service.ownership = true then do
    let jobs ← list_jobs surroundings
    interrupt_unfinished surroundings jobs
  else return ()

/-- `thread.is_alive()`, and false without a thread. -/
def Scheduler.is_alive : Scheduler → Bool
  | .absent => false
  | .ended => false
  | _ => true

/-- The end of `close_supervisor`: a live thread keeps the queue lock. -/
def release_ownership (service : WorkspaceJobService) : WorkspaceJobService :=
  if service.thread.is_alive then service else { service with ownership := false }

/-! ### The scheduler -/

/-- Persist the ownership of a queued job before its work is launched. -/
def claim (queued : JobSnapshot) : Section Unit := do
  let _ ← change surroundings queued
    (fun job =>
      { job with
        status := .running, phase := "preparing"
        available_actions := initial_running_actions job })
    none
  let service ← Transaction.read
  Transaction.write { service with active_identifier := some queued.job_identifier }

/-- A queued job that the command-line proof does not hold back. -/
def schedulable (proof_locked : Bool) (job : JobSnapshot) : Bool :=
  job.status = .queued &&
    !(proof_locked && job.operation ∈ [.train, .evaluate, .«export»])

/-- `next_job`. -/
def next_job (proof_busy : Except Raised Bool) : Section (Option JobSnapshot) := do
  let proof_locked ← proof_busy
  let jobs ← list_jobs surroundings
  match jobs.find? (schedulable proof_locked) with
  | none => return none
  | some queued =>
    claim surroundings queued
    return some queued

/-- The public code and message of a failure. -/
def reported_error (failure : Raised) (reference : String) : JobError :=
  match failure with
  | .application failure =>
    { code := failure.code, message := failure.message, diagnostic_reference := some reference }
  | _ =>
    { code := "workflow_failed"
      message := "The operation could not finish. Check saved data, available time, and storage."
      diagnostic_reference := some reference }

/-- `report_failure`: record a safe error of an operation. -/
def report_failure (identifier reference : String) (failure : Raised) : Section Unit := do
  let job ← get_job surroundings identifier
  let service ← Transaction.read
  if service.closing = true ∧ is_inference job = true then do
    let _ ← interrupt surroundings job
    return ()
  else do
    let _ ← change surroundings job
      (fun job =>
        { job with
          status := if service.closing then .interrupted else .failed
          phase := if service.closing then "interrupted" else "failed"
          available_actions := []
          error := some (reported_error failure reference) })
      none
    return ()

/-! ### Running a job -/

/-- `secrets.pop`: hand the secrets to the runner exactly once. -/
def take_secrets (identifier : String) : Section Unit := do
  let inference ← require_inference
  raise_if ((inference.entries.get? identifier).isNone = true)
    (Raised.application
      { code := INPUTS_LOST.code, message := INPUTS_LOST.message, status_code := 422 })
  let service ← Transaction.read
  Transaction.write { service with inference := some (inference.discard identifier) }

/-- A training job is checked again before its worker starts. -/
def check_training (workspace : Workspace) (request : WorkflowRequest) : Section Unit :=
  if request.operation = .train then do
    require_storage
    let checked ← workspace.training_preflight
    raise_if (checked.allowed = false) (Raised.application (training_unavailable checked.blockers))
  else return ()

/-- The checks of `run_job` before the worker of a request starts. -/
def prepare_run (workspace : Workspace) (identifier : String) : StoredRequest → Section Unit
  | .inference _ => take_secrets identifier
  | .fetch _ => return ()
  | .workflow request => do
    check_training workspace request
    workspace.resolve_request

/-- The part of `run_job` before the worker starts. -/
def begin_run (workspace : Workspace) (identifier : String) : Section StoredRequest := do
  let service ← Transaction.read
  let request ← service.store.request surroundings.database identifier
  prepare_run workspace identifier request
  return request

/-- A complete step of the training log. -/
structure TrainingStep where
  global_step : ℕ
  metrics : List (String × ℚ)

inductive FetchPhase where
  | resolving
  | downloading
  | extracting
  | preparing
  | cleaning
  | completed
  deriving DecidableEq, Repr

def FetchPhase.label : FetchPhase → String
  | .resolving => "resolving"
  | .downloading => "downloading"
  | .extracting => "extracting"
  | .preparing => "preparing"
  | .cleaning => "cleaning"
  | .completed => "completed"

/-- A progress record of the fetch worker. -/
structure DatasetFetchProgress where
  sequence : ℕ
  phase : FetchPhase
  bytes_received : ℕ
  bytes_total : Option ℕ
  files_completed : ℕ
  files_total : Option ℕ
  assets_completed : ℕ
  assets_total : ℕ
  supports_pause : Bool

/-- What a running job can report. -/
inductive Report where
  | training (step : TrainingStep)
  | fetch (record : DatasetFetchProgress)
  | inference (phase : String)

/-- `progress_ratio`: the counter that describes the current phase. -/
def progress_ratio (record : DatasetFetchProgress) : Option ℚ :=
  match record.phase, record.bytes_total, record.files_total with
  | .downloading, some total, _ => if total = 0 then none else some (min 1 (record.bytes_received / total))
  | .preparing, _, some total => if total = 0 then none else some (min 1 (record.files_completed / total))
  | .completed, _, _ => some 1
  | _, _, _ => none

/-- `progress_changes`. -/
def progress_changes (record : DatasetFetchProgress) (job : JobSnapshot) : JobSnapshot :=
  { job with
    phase :=
      match job.requested_action with
      | some .cancel => "cancelling"
      | some .pause => "pausing"
      | _ => record.phase.label
    progress := progress_ratio record
    metrics :=
      [("sequence", (record.sequence : ℚ)), ("bytes_received", (record.bytes_received : ℚ)),
        ("files_completed", (record.files_completed : ℚ)),
        ("assets_completed", (record.assets_completed : ℚ)),
        ("assets_total", (record.assets_total : ℚ))]
        ++ (record.bytes_total.toList.map fun total => ("bytes_total", (total : ℚ)))
        ++ (record.files_total.toList.map fun total => ("files_total", (total : ℚ)))
    available_actions :=
      if job.requested_action = none then
        if record.supports_pause ∧ record.phase = .downloading then [.cancel, .pause] else [.cancel]
      else job.available_actions }

/-- The changes that a report makes; `stop_after_step` belongs to a training request. -/
def report_changes (stop_after_step : ℕ) : Report → JobSnapshot → JobSnapshot
  | .training step, job =>
    { job with
      phase := if job.requested_action.isSome then "saving" else "training"
      progress := some (min 1 (step.global_step / stop_after_step))
      metrics := step.metrics }
  | .fetch record, job => progress_changes record job
  | .inference phase, job => { job with phase := phase }

/-- An inference job refuses new processes once shutdown began. -/
def refuse_report : Report → Section Unit
  | .inference _ => refuse_closing
  | _ => return ()

/-- Publish the progress of a running job. -/
def report_progress (identifier : String) (stop_after_step : ℕ) (report : Report) :
    Section Unit := do
  refuse_report report
  let job ← get_job surroundings identifier
  let _ ← change surroundings job (report_changes stop_after_step report) none

/-- The exit code of a worker and its summary. -/
structure WorkerExit where
  code : ℤ
  result : List (String × Json)

/-- `public_result`: remove private output locations. -/
def public_result (result : List (String × Json)) : List (String × Json) :=
  result.filter fun field =>
    field.1 ∉ ["checkpoint", "directory", "encoder_directory", "decoder_directory",
      "report_directory"]

/-- `result.get(key) in values` for text values. -/
def has_text (result : List (String × Json)) (key : String) (values : List String) : Bool :=
  match result.lookup key with
  | some (.str value) => value ∈ values
  | _ => false

/-- `result.get("checkpoint") is not None`. -/
def has_checkpoint (result : List (String × Json)) : Bool :=
  match result.lookup "checkpoint" with
  | none => false
  | some .null => false
  | some _ => true

/-- A checkpoint path is inspected and registered under a public identifier. -/
def register_checkpoint (register : String → Except Raised String) (result : List (String × Json)) :
    Except Raised (List (String × Json)) :=
  match result.lookup "checkpoint" with
  | some (.str checkpoint) => do
    let identifier ← register checkpoint
    return public_result result ++ [("checkpoint_identifier", .str identifier)]
  | _ => return public_result result

/-- Whether a worker of a request exited with all its checks passed. -/
def run_success (request : WorkflowRequest) (exit : WorkerExit) : Bool :=
  exit.code = 0 ||
    (request.operation = .train && (exit.code = 130 || exit.code = 143)
      && has_checkpoint exit.result)

/-- The final status of a training-family job. -/
def run_status (request : WorkflowRequest) (exit : WorkerExit) : JobStatus :=
  if request.operation = .train ∧ has_text exit.result "status" ["stopped", "budget_exhausted"]
    ∧ run_success request exit then .stopped
  else if run_success request exit then .completed
  else .failed

def workflow_incomplete : JobError where
  code := "workflow_incomplete"
  message := "The operation ended before all checks finished. Review its saved results."

/-- The end of `run_job`: verify the publication of the worker and publish the final state. -/
def finish_workflow (register : String → Except Raised String) (identifier : String)
    (request : WorkflowRequest) (outcome : Except Raised WorkerExit) : Section Unit := do
  let exit ← outcome
  let published ← register_checkpoint register exit.result
  let job ← get_job surroundings identifier
  let _ ← change surroundings job
    (fun job =>
      { job with
        status := run_status request exit
        phase := (run_status request exit).label
        available_actions := []
        result := some published
        progress := if run_status request exit = .completed then some 1 else job.progress
        error := if run_success request exit then none else some workflow_incomplete })
    none

/-- `stopped_changes`: map a stop that the runner asked for. -/
def stopped_changes (closing : Bool) (job : JobSnapshot) : Option (JobSnapshot → JobSnapshot) :=
  if job.requested_action = some .cancel then
    some fun job =>
      { job with status := .cancelled, phase := "cancelled", available_actions := [] }
  else if job.requested_action = some .pause then
    some fun job =>
      { job with status := .paused, phase := "paused", available_actions := [.resume, .cancel] }
  else if closing then
    some fun job =>
      { job with
        status := .interrupted, phase := "interrupted", available_actions := []
        error := some FETCH_INTERRUPTED }
  else none

/-- `exit_changes`: map the exit of the fetch worker onto the final state of the job. -/
def exit_changes (closing : Bool) (job : JobSnapshot) (exit : WorkerExit) :
    Except Raised (JobSnapshot → JobSnapshot) :=
  if exit.code = 0 ∧ has_text exit.result "status" ["completed", "reused"] then
    .ok fun job =>
      { job with
        status := .completed, phase := "completed", progress := some 1
        result := some (public_result exit.result), available_actions := [], error := none }
  else
    match if has_text exit.result "status" ["stopped"] then stopped_changes closing job else none with
    | none => fail (fetch_failure "workflow_failed")
    | some changes => .ok changes

/-- A worker that fails without a summary may still have been asked to stop; every other failure
is raised. -/
def expected_exit : Except Raised WorkerExit → Except Raised (WorkerExit ⊕ ApplicationFailure)
  | .ok exit => .ok (.inl exit)
  | .error (.application failure) =>
    if failure.code = "workflow_failed" then .ok (.inr failure) else .error (.application failure)
  | .error raised => .error raised

/-- The changes that end a fetch run. -/
def fetch_changes (closing : Bool) (job : JobSnapshot) :
    WorkerExit ⊕ ApplicationFailure → Except Raised (JobSnapshot → JobSnapshot)
  | .inl exit => exit_changes closing job exit
  | .inr failure =>
    match stopped_changes closing job with
    | none => .error (.application failure)
    | some changes => .ok changes

/-- The end of `run_fetch_job`. -/
def finish_fetch (identifier : String) (outcome : Except Raised WorkerExit) : Section Unit := do
  let ended ← expected_exit outcome
  let service ← Transaction.read
  let job ← get_job surroundings identifier
  let changes ← fetch_changes service.closing job ended
  let _ ← change surroundings job changes none

/-- The end of `run_inference`. -/
def finish_inference (identifier : String) (outcome : Except Raised (List (String × Json))) :
    Section Unit := do
  let result ← outcome
  let job ← get_job surroundings identifier
  let _ ← change surroundings job
    (fun job =>
      { job with
        status := .completed, phase := "completed", available_actions := []
        result := some result, progress := some 1, error := none })
    none

/-- How the work of a job ended: a worker exit, or the published result of an inference. -/
structure Outcome where
  worker : Except Raised WorkerExit
  inference : Except Raised (List (String × Json))
  register : String → Except Raised String

/-- The last section of `run_job`. -/
def finish_run (identifier : String) (request : StoredRequest) (outcome : Outcome) : Section Unit :=
  match request with
  | .workflow request =>
    finish_workflow surroundings outcome.register identifier request outcome.worker
  | .fetch _ => finish_fetch surroundings identifier outcome.worker
  | .inference _ => finish_inference surroundings identifier outcome.inference

/-! ### Cache cleanup -/

def cache_busy : ApplicationFailure where
  code := "cache_busy"
  message := "A dataset download is queued, running, or paused. Wait for it to "
    ++ "finish or cancel it first."
  status_code := 409

/-- The section of `remove_unused` that raises the cleanup flag. -/
def begin_cleanup : Section Unit := do
  require_storage
  let jobs ← list_jobs surroundings
  raise_if (jobs.any active_fetch = true) (Raised.application cache_busy)
  let service ← Transaction.read
  raise_if (service.cache_cleanup_in_progress = true)
    (Raised.application (fetch_failure "dataset_cleanup_busy"))
  Transaction.write { service with cache_cleanup_in_progress := true }

/-- The section of `remove_unused` that lowers it again, however the deletion ended. -/
def end_cleanup (service : WorkspaceJobService) : WorkspaceJobService :=
  { service with cache_cleanup_in_progress := false }

end StegoLab

import StegoLab.Library.Transactions
import StegoLab.Uploads.Records
import StegoLab.Workflow.Store

/-!
# The job service

The state of the supervisor and the sections that create and change jobs. Every section holds the
service lock, so it is one step; a request has passed `require_storage`, and `require_inference`
where it applies, before it took the lock.
-/

namespace StegoLab

open CanonicalJson

/-! ### State -/

/-- What the scheduler thread is about to do. -/
inductive Scheduler where
  | absent
  | checking
  | polling
  | waiting
  | starting (identifier : String)
  | executing (identifier : String) (request : StoredRequest)
  | failing (identifier : String) (failure : Raised)
  | releasing (identifier : String) (halt : Bool)
  | halting
  | ended

/-- How far `close_supervisor` has come. -/
inductive Closer where
  | serving
  | begun
  | stopped
  | joined
  | reconciled
  | closed
  deriving DecidableEq

/-- `InferenceSecretStore`. -/
structure InferenceSecretStore where
  capacity : ℕ := 8
  entries : Dict (Dict String) := .empty

/-- The attributes of the service, its scheduler thread, and the progress of its shutdown. -/
structure WorkspaceJobService where
  store : WorkflowStore := .created
  closing : Bool := false
  active_identifier : Option String := none
  ownership : Bool := false
  persistence_failed : Bool := false
  inference : Option InferenceSecretStore := none
  cache_cleanup_in_progress : Bool := false
  thread : Scheduler := .absent
  closer : Closer := .serving

/-- What a section reads from outside: whether the database works, and the clock at the save of
each job. -/
structure Surroundings where
  database : Access → Bool
  now : String → ℕ

/-- A section under the service lock. -/
abbrev Section (α : Type) : Type :=
  Transaction WorkspaceJobService Raised α

variable (surroundings : Surroundings)

/-! ### Saving -/

/-- `store.save`. -/
def save (snapshot : JobSnapshot) (request : Option StoredRequest)
    (mutation : Option (String × String)) : Section JobSnapshot := do
  let service ← Transaction.read
  let result ← service.store.save surroundings.database snapshot request mutation
  Transaction.write { service with store := result.2 }
  return result.1

/-- `_change`: validate and publish a transition together with its event. -/
def change (job : JobSnapshot) (changes : JobSnapshot → JobSnapshot)
    (mutation : Option (String × String)) : Section JobSnapshot := do
  let updated ← JobSnapshot.model_validate
    { changes job with updated_at := surroundings.now job.job_identifier }
  save surroundings updated none mutation

def get_job (identifier : String) : Section JobSnapshot := do
  let service ← Transaction.read
  service.store.get surroundings.database identifier

def list_jobs : Section (List JobSnapshot) := do
  let service ← Transaction.read
  service.store.list_jobs surroundings.database

def require_storage : Section Unit := do
  let service ← Transaction.read
  raise_if (service.persistence_failed = true) (Raised.application StorageFailure)

/-- `replay`, and the change that an identifier is used for when it is new. -/
def unless_replayed (identifier fingerprint : String) (accept : Section JobSnapshot) :
    Section JobSnapshot := do
  let service ← Transaction.read
  let previous ← service.store.replay surroundings.database identifier fingerprint
  match previous with
  | some job => return job
  | none => accept

/-! ### Submissions -/

def service_stopping : ApplicationFailure where
  code := "service_stopping"
  message := "The application is stopping. Retry after restart."

def training_unavailable (blockers : List String) : ApplicationFailure where
  code := "training_unavailable"
  message := " ".intercalate blockers
  status_code := 422

def experiment_busy : ApplicationFailure where
  code := "experiment_busy"
  message := "This experiment already has a queued or running job."
  status_code := 409

def refuse_closing : Section Unit := do
  let service ← Transaction.read
  raise_if (service.closing = true) (Raised.application service_stopping)

/-- The first snapshot of a submitted job. -/
def queued_snapshot (identifier : String) (now : ℕ) (operation : Operation)
    (experiment_identifier : Option String) (settings : Json) : JobSnapshot where
  job_identifier := identifier
  status := .queued
  phase := "queued"
  available_actions := [.cancel]
  created_at := now
  updated_at := now
  operation := operation
  experiment_identifier := experiment_identifier
  frozen_settings := settings

/-- What the checks of a request read from the workspace. -/
structure Workspace where
  training_preflight : Except Raised TrainingPreflight
  resolve_request : Except Raised Unit

/-- A training job must be allowed, and alone for its experiment. -/
def training_settings (workspace : Workspace) (request : WorkflowRequest) : Section Json := do
  require_storage
  let checked ← workspace.training_preflight
  raise_if (checked.allowed = false) (Raised.application (training_unavailable checked.blockers))
  let jobs ← list_jobs surroundings
  raise_if ((jobs.any fun job =>
      job.operation = .train && job.experiment_identifier = some request.experiment_identifier
        && (job.status = .queued || job.status = .running)) = true)
    (Raised.application experiment_busy)
  return dict (request.fields ++ [("configuration", checked.resolved_settings)])

/-- The frozen settings of a workflow request. -/
def request_settings (workspace : Workspace) (request : WorkflowRequest) : Section Json :=
  if request.operation = .train then training_settings surroundings workspace request
  else return dict request.fields

/-- `submit`: accept one frozen request after resolving its references. -/
def submit (fingerprint : Json → String) (workspace : Workspace) (uuid4 : String)
    (request : WorkflowRequest) : Section JobSnapshot :=
  unless_replayed surroundings request.client_request_identifier
      (fingerprint (dict request.fields)) do
    refuse_closing
    let settings ← request_settings surroundings workspace request
    workspace.resolve_request
    let identifier := "job_" ++ uuid4
    save surroundings
      (queued_snapshot identifier (surroundings.now identifier) request.operation
        (some request.experiment_identifier) settings)
      (some (.workflow request))
      (some (request.client_request_identifier, fingerprint (dict request.fields)))

/-! ### Fetch jobs -/

def fetch_messages : String → String
  | "dataset_fetch_busy" =>
    "A dataset download is already queued, running or paused. Wait for it or cancel it first."
  | "dataset_cleanup_busy" =>
    "Unused downloads are being removed right now. Wait for the cleanup "
      ++ "to finish, then try again."
  | "dataset_uploads_unavailable" => "Dataset uploads are not available in this application."
  | "action_unavailable" => "This action is not supported for this job."
  | "service_stopping" => "The application is stopping. Retry after restart."
  | _ =>
    "The download could not finish. Check the source, free space and "
      ++ "the run log, then start it again."

def fetch_failure (code : String) : ApplicationFailure where
  code := code
  message := fetch_messages code
  status_code :=
    if code = "dataset_fetch_busy" ∨ code = "dataset_cleanup_busy" ∨ code = "action_unavailable"
      then 409 else 503

/-- The upload store's answer for the session of an upload source, when uploads are attached. -/
abbrev UploadReading : Type :=
  Option (Except Raised DatasetUploadSession)

/-- `require_complete_upload`. -/
def require_complete_upload (dataset_uploads : UploadReading) : Except Raised Unit := do
  match dataset_uploads with
  | none => fail (fetch_failure "dataset_uploads_unavailable")
  | some reading =>
    let session ← reading
    raise_if (session.complete = false)
      (Raised.application (upload_incomplete (session.chunk_count - session.received_chunks.length)
        session.chunk_count))

/-- An upload source must be complete; the other sources need no check. -/
def check_source (dataset_uploads : UploadReading) : DatasetSourceSpec → Except Raised Unit
  | .upload _ => require_complete_upload dataset_uploads
  | _ => return ()

/-- `submit_fetch`: accept one fetch at a time. -/
def submit_fetch (fingerprint : Json → String) (dataset_uploads : UploadReading) (uuid4 : String)
    (request : DatasetFetchRequest) : Section JobSnapshot :=
  unless_replayed surroundings request.client_request_identifier
      (fingerprint (dict request.fields)) do
    let service ← Transaction.read
    raise_if (service.closing = true) (Raised.application (fetch_failure "service_stopping"))
    check_source dataset_uploads request.source
    raise_if (service.cache_cleanup_in_progress = true)
      (Raised.application (fetch_failure "dataset_cleanup_busy"))
    let jobs ← list_jobs surroundings
    raise_if (jobs.any active_fetch = true) (Raised.application (fetch_failure "dataset_fetch_busy"))
    let identifier := "job_" ++ uuid4
    save surroundings
      (queued_snapshot identifier (surroundings.now identifier) .fetch_dataset none
        (dict request.fields))
      (some (.fetch request))
      (some (request.client_request_identifier, fingerprint (dict request.fields)))

/-! ### Encode and decode jobs -/

def MAXIMUM_INFERENCE_JOBS : ℕ := 8
def MAXIMUM_SECRET_BYTES : ℕ := 4096

def queue_full_failure : ApplicationFailure where
  code := "inference_queue_full"
  message := "Eight encode or decode jobs are already waiting or running. "
    ++ "Wait for one to finish, then retry."
  status_code := 409

def inference_unavailable : ApplicationFailure where
  code := "inference_unavailable"
  message := "Encode and Decode are not available in this application."

/-- `secrets.put`: keep one bounded secret set for an accepted job. -/
def InferenceSecretStore.put (store : InferenceSecretStore) (job_identifier : String)
    (secrets : Dict String) : Except Raised InferenceSecretStore := do
  raise_if ((secrets.entries.map fun entry => entry.1.utf8ByteSize + entry.2.utf8ByteSize).sum
    > MAXIMUM_SECRET_BYTES) .value_error
  raise_if ((store.entries.get? job_identifier).isNone = true
    ∧ store.entries.entries.length ≥ store.capacity) (.application queue_full_failure)
  return { store with entries := store.entries.insert job_identifier secrets }

/-- `secrets.pop` and `secrets.discard`. -/
def InferenceSecretStore.discard (store : InferenceSecretStore) (job_identifier : String) :
    InferenceSecretStore :=
  { store with entries := store.entries.erase job_identifier }

def require_inference : Section InferenceSecretStore := do
  let service ← Transaction.read
  match service.inference with
  | none => fail inference_unavailable
  | some inference => return inference

/-- Keep the secrets of an accepted job in memory. -/
def put_secrets (job_identifier : String) (secrets : Dict String) : Section Unit := do
  let inference ← require_inference
  let stored ← inference.put job_identifier secrets
  let service ← Transaction.read
  Transaction.write { service with inference := some stored }

/-- The secrets of a request. -/
def InferenceJobRequest.secrets (request : InferenceJobRequest) : Dict String :=
  match request.message with
  | none => Dict.of_items [("password", request.password)]
  | some message => Dict.of_items [("password", request.password), ("message", message)]

/-- The payload that a retry is bound to; `digest` has a key that lives only in memory. -/
def InferenceJobRequest.payload (digest : Dict String → String) (request : InferenceJobRequest) :
    Json :=
  dict
    [("operation", .str (if request.message.isSome then "encode" else "decode")),
      ("image_reference", .str request.image_reference),
      ("model_identifier", .str request.model_identifier),
      ("secret_digest", .str (digest request.secrets))]

/-- `submit_inference`: save the settings durably and the secrets in memory only. -/
def submit_inference (fingerprint : Json → String) (digest : Dict String → String)
    (admit_inference : Except Raised InferenceJobRecord) (uuid4 : String)
    (request : InferenceJobRequest) : Section JobSnapshot :=
  unless_replayed surroundings request.client_request_identifier
      (fingerprint (request.payload digest)) do
    let record ← admit_inference
    refuse_closing
    let jobs ← list_jobs surroundings
    let waiting := jobs.filter fun job =>
      is_inference job && (job.status = .queued || job.status = .running)
    raise_if (waiting.length ≥ MAXIMUM_INFERENCE_JOBS) (Raised.application queue_full_failure)
    let identifier := "job_" ++ uuid4
    let accepted ← save surroundings
      (queued_snapshot identifier (surroundings.now identifier) record.operation none
        (dict record.fields))
      (some (.inference record))
      (some (request.client_request_identifier, fingerprint (request.payload digest)))
    put_secrets accepted.job_identifier request.secrets
    return accepted

/-! ### Actions -/

def action_unavailable : ApplicationFailure where
  code := "action_unavailable"
  message := "This action is no longer available. Refresh the job."
  status_code := 409

def action_unsupported : ApplicationFailure where
  code := "action_unavailable"
  message := "This action is not supported for this job."
  status_code := 409

/-- `_action_changes`: the transition that an action causes for a training-family job. -/
def action_changes (job : JobSnapshot) (action : JobAction) :
    Except Raised (JobSnapshot → JobSnapshot) :=
  if action = .cancel ∧ job.status = .queued then
    .ok fun job =>
      { job with
        requested_action := some action, available_actions := [],
        status := .cancelled, phase := "cancelled" }
  else if action = .stop ∧ job.status = .running ∧ job.operation = .train then
    .ok fun job =>
      { job with requested_action := some action, available_actions := [], phase := "saving" }
  else fail action_unsupported

/-- `fetch_action_changes`: the transition that an action causes for a fetch job. -/
def fetch_action_changes (job : JobSnapshot) (action : JobAction) :
    Except Raised (JobSnapshot → JobSnapshot) :=
  if action = .cancel ∧ (job.status = .queued ∨ job.status = .paused) then
    .ok fun job =>
      { job with
        requested_action := some action, available_actions := [],
        status := .cancelled, phase := "cancelled" }
  else if action = .cancel ∧ job.status = .running then
    .ok fun job =>
      { job with requested_action := some action, available_actions := [], phase := "cancelling" }
  else if action = .pause ∧ job.status = .running ∧ .pause ∈ job.available_actions then
    .ok fun job =>
      { job with requested_action := some action, available_actions := [], phase := "pausing" }
  else if action = .resume ∧ job.status = .paused then
    .ok fun job =>
      { job with
        status := .queued, phase := "queued", requested_action := none,
        available_actions := [.cancel] }
  else fail (fetch_failure "action_unavailable")

/-- Fetch jobs have their own transitions. -/
def requested_changes (job : JobSnapshot) (action : JobAction) :
    Except Raised (JobSnapshot → JobSnapshot) :=
  if is_fetch job then fetch_action_changes job action else action_changes job action

/-- A cancelled job forgets its secrets. -/
def discard_secrets (job : JobSnapshot) : Section Unit := do
  let service ← Transaction.read
  Transaction.write <|
    if job.status = .cancelled then
      { service with
        inference := service.inference.map fun inference => inference.discard job.job_identifier }
    else service

/-- `action`: persist the intent of an action before acknowledging it. -/
def action (fingerprint : Json → String) (identifier : String) (request : WorkflowActionRequest) :
    Section JobSnapshot :=
  unless_replayed surroundings request.client_request_identifier
      (fingerprint (request.payload identifier)) do
    let job ← get_job surroundings identifier
    raise_if (request.action ∉ job.available_actions) (Raised.application action_unavailable)
    let changes ← requested_changes job request.action
    let changed ← change surroundings job changes
      (some (request.client_request_identifier, fingerprint (request.payload identifier)))
    discard_secrets changed
    return changed

end StegoLab

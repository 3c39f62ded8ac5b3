import Mathlib.Data.Rat.Defs
import StegoLab.Sources.Specifications

/-!
# Jobs

Job snapshots, the requests that create and change them, and the events that publish them.
-/

namespace StegoLab

open CanonicalJson

/-! ### Snapshots -/

inductive JobStatus where
  | queued
  | running
  | paused
  | stopped
  | completed
  | cancelled
  | failed
  | interrupted
  | needs_input
  deriving DecidableEq, Repr

inductive JobAction where
  | pause
  | resume
  | stop
  | cancel
  | supply_missing_inputs
  deriving DecidableEq, Repr

inductive Operation where
  | train
  | evaluate
  | «export»
  | prepare_dataset
  | fetch_dataset
  | encode
  | decode
  deriving DecidableEq, Repr

def JobStatus.label : JobStatus → String
  | .queued => "queued"
  | .running => "running"
  | .paused => "paused"
  | .stopped => "stopped"
  | .completed => "completed"
  | .cancelled => "cancelled"
  | .failed => "failed"
  | .interrupted => "interrupted"
  | .needs_input => "needs_input"

def JobAction.label : JobAction → String
  | .pause => "pause"
  | .resume => "resume"
  | .stop => "stop"
  | .cancel => "cancel"
  | .supply_missing_inputs => "supply_missing_inputs"

def Operation.label : Operation → String
  | .train => "train"
  | .evaluate => "evaluate"
  | .«export» => "export"
  | .prepare_dataset => "prepare_dataset"
  | .fetch_dataset => "fetch_dataset"
  | .encode => "encode"
  | .decode => "decode"

/-- The public error of a job. -/
structure JobError where
  code : String
  message : String
  diagnostic_reference : Option String := none
  deriving DecidableEq, Repr

/-- A saved job, without secret data. Times are in microseconds. -/
structure JobSnapshot where
  job_identifier : String
  status : JobStatus
  phase : String
  available_actions : List JobAction
  created_at : ℕ
  updated_at : ℕ
  progress : Option ℚ := none
  operation : Operation
  experiment_identifier : Option String := none
  frozen_settings : Json
  result : Option (List (String × Json)) := none
  error : Option JobError := none
  metrics : List (String × ℚ) := []
  requested_action : Option JobAction := none
  latest_event_identifier : Option ℕ := none

/-- The bounds of the fields of a snapshot. -/
def JobSnapshot.valid (snapshot : JobSnapshot) : Bool :=
  1 ≤ snapshot.job_identifier.length && snapshot.job_identifier.length ≤ 128
    && 1 ≤ snapshot.phase.length && snapshot.phase.length ≤ 128
    && snapshot.progress.all fun progress => 0 ≤ progress && progress ≤ 1

/-- `JobSnapshot.model_validate`. -/
def JobSnapshot.model_validate (snapshot : JobSnapshot) : Except Raised JobSnapshot := do
  raise_if (snapshot.valid = false) .value_error
  return snapshot

/-- The notification of a saved snapshot. -/
structure JobEvent where
  event_identifier : ℕ
  job_identifier : String
  status : JobStatus
  phase : String
  created_at : ℕ
  snapshot : JobSnapshot

/-- Final states of a job. -/
def JobStatus.Terminal (status : JobStatus) : Prop :=
  status ∈ [.completed, .cancelled, .failed, .stopped, .interrupted]

instance (status : JobStatus) : Decidable status.Terminal :=
  inferInstanceAs (Decidable (status ∈ _))

/-! ### Requests -/

/-- A request of the browser; its operation is one of train, evaluate, export and
prepare_dataset. -/
structure WorkflowRequest where
  client_request_identifier : String
  operation : Operation
  experiment_identifier : String := "cpu_experiment"
  dataset_identifier : Option String := none
  checkpoint_identifier : Option String := none
  cpu_threads : ℕ := 4
  stop_after_step : ℕ := 1000
  source_identifier : Option String := none
  source_subdirectory : String := ""
  dataset_name : String := "local_images"
  export_name : String := "001V"
  lightweight : Bool := false
  allowed : operation ∈ [.train, .evaluate, .«export», .prepare_dataset]
  steps : 1 ≤ stop_after_step ∧ stop_after_step ≤ 1000

structure WorkflowActionRequest where
  client_request_identifier : String
  action : JobAction
  allowed : action ∈ [.stop, .cancel, .pause, .resume]

structure TrainingPreflight where
  allowed : Bool
  blockers : List String := []
  resolved_settings : Json

structure DatasetFetchRequest where
  client_request_identifier : String
  source : DatasetSourceSpec
  source_name : String
  dataset_name : String
  maximum_images : ℕ := MAXIMUM_IMAGES
  training_intended : Bool := true
  prepare : Bool := true

/-- The settings of an encode or decode job, without its secrets. -/
structure InferenceJobRecord where
  operation : Operation
  image_reference : String
  model_identifier : String
  message_byte_count : ℕ
  width : ℕ
  height : ℕ
  allowed : operation ∈ [.encode, .decode]

/-- An encode request carries a message, a decode request does not. -/
structure InferenceJobRequest where
  client_request_identifier : String
  image_reference : String
  model_identifier : String
  message : Option String
  password : String

/-- The frozen request of a job. -/
inductive StoredRequest where
  | workflow (request : WorkflowRequest)
  | inference (record : InferenceJobRecord)
  | fetch (request : DatasetFetchRequest)

/-- `operation`, which tells the stored requests apart. -/
def StoredRequest.operation : StoredRequest → Operation
  | .workflow request => request.operation
  | .inference record => record.operation
  | .fetch _ => .fetch_dataset

/-! ### Serialization -/

def WorkflowRequest.fields (request : WorkflowRequest) : List (String × Json) :=
  [("client_request_identifier", .str request.client_request_identifier),
    ("operation", .str request.operation.label),
    ("experiment_identifier", .str request.experiment_identifier),
    ("dataset_identifier", optional_str request.dataset_identifier),
    ("checkpoint_identifier", optional_str request.checkpoint_identifier),
    ("cpu_threads", .num request.cpu_threads),
    ("stop_after_step", .num request.stop_after_step),
    ("source_identifier", optional_str request.source_identifier),
    ("source_subdirectory", .str request.source_subdirectory),
    ("dataset_name", .str request.dataset_name),
    ("export_name", .str request.export_name),
    ("lightweight", .bool request.lightweight)]

def DatasetFetchRequest.fields (request : DatasetFetchRequest) : List (String × Json) :=
  [("client_request_identifier", .str request.client_request_identifier),
    ("operation", .str "fetch_dataset"),
    ("source", request.source.model_dump),
    ("source_name", .str request.source_name),
    ("dataset_name", .str request.dataset_name),
    ("maximum_images", .num request.maximum_images),
    ("training_intended", .bool request.training_intended),
    ("prepare", .bool request.prepare)]

def InferenceJobRecord.fields (record : InferenceJobRecord) : List (String × Json) :=
  [("operation", .str record.operation.label),
    ("image_reference", .str record.image_reference),
    ("model_identifier", .str record.model_identifier),
    ("message_byte_count", .num record.message_byte_count),
    ("width", .num record.width),
    ("height", .num record.height)]

/-- The payload that an action request is bound to. -/
def WorkflowActionRequest.payload (identifier : String) (request : WorkflowActionRequest) : Json :=
  dict
    [("job", .str identifier),
      ("client_request_identifier", .str request.client_request_identifier),
      ("action", .str request.action.label)]

/-! ### Kinds of jobs -/

/-- `is_fetch`. -/
def is_fetch (job : JobSnapshot) : Bool :=
  job.operation = .fetch_dataset

/-- `is_inference`. -/
def is_inference (job : JobSnapshot) : Bool :=
  job.operation = .encode || job.operation = .decode

def ACTIVE_FETCH_STATES : List JobStatus := [.queued, .running, .paused]

/-- A fetch job that is queued, running or paused. -/
def active_fetch (job : JobSnapshot) : Bool :=
  is_fetch job && job.status ∈ ACTIVE_FETCH_STATES

/-- `initial_running_actions`: the actions a job offers the moment the scheduler starts it. -/
def initial_running_actions (job : JobSnapshot) : List JobAction :=
  if job.operation = .train then [.stop]
  else if is_fetch job then [.cancel]
  else []

end StegoLab

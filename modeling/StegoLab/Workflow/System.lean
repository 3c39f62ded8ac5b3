import StegoLab.Library.Runs
import StegoLab.Workflow.Supervision

/-!
# The job system

Requests, the scheduler thread, startup, shutdown and the cache cleanup take steps in any order.
A step is one section under the service lock, or one change of a flag outside it; a crash ends the
process between two steps and keeps only the database.
-/

namespace StegoLab

open CanonicalJson

/-- A step of the system with everything it reads from outside. -/
inductive Event where
  | submit (surroundings : Surroundings) (workspace : Workspace) (uuid4 : String)
      (request : WorkflowRequest)
  | submit_fetch (surroundings : Surroundings) (dataset_uploads : UploadReading) (uuid4 : String)
      (request : DatasetFetchRequest)
  | submit_inference (surroundings : Surroundings) (digest : Dict String → String)
      (admit_inference : Except Raised InferenceJobRecord) (uuid4 : String)
      (request : InferenceJobRequest)
  | action (surroundings : Surroundings) (identifier : String) (request : WorkflowActionRequest)
  | begin_cleanup (surroundings : Surroundings)
  | end_cleanup
  | start (surroundings : Surroundings) (owned : Bool)
  | check
  | poll (surroundings : Surroundings) (proof_busy : Except Raised Bool)
  | maintain (raised : Bool)
  | begin_run (surroundings : Surroundings) (workspace : Workspace)
  | report (surroundings : Surroundings) (report : Report)
  | finish (surroundings : Surroundings) (outcome : Outcome)
  | report_failure (surroundings : Surroundings) (reference : String)
  | release
  | halt
  | begin_close
  | request_stop (surroundings : Surroundings)
  | join
  | reconcile (surroundings : Surroundings)
  | release_ownership
  | crash (inference : Bool)

/-! ### Control flow -/

/-- A storage failure ends the scheduler, every other exception is reported. -/
def after_raise (identifier : String) : Raised → Scheduler
  | .application failure =>
    if failure = StorageFailure then .releasing identifier true
    else .failing identifier (.application failure)
  | raised => .failing identifier raised

def after_poll : Except Raised (Option JobSnapshot) → Scheduler
  | .ok none => .waiting
  | .ok (some queued) => .starting queued.job_identifier
  | .error _ => .halting

def after_begin (identifier : String) : Except Raised StoredRequest → Scheduler
  | .ok request => .executing identifier request
  | .error raised => after_raise identifier raised

/-- The worker supervision turns every exception of a report into a failed worker, except
application failures. -/
def after_report (identifier : String) (request : StoredRequest) : Except Raised Unit → Scheduler
  | .error (.application failure) => after_raise identifier (.application failure)
  | _ => .executing identifier request

def after_finish (identifier : String) : Except Raised Unit → Scheduler
  | .ok _ => .releasing identifier false
  | .error raised => after_raise identifier raised

def after_report_failure (identifier : String) : Except Raised Unit → Scheduler
  | .ok _ => .releasing identifier false
  | .error _ => .releasing identifier true

/-- Every exception of a section of `close_supervisor` halts the service. -/
def settle (outcome : Except Raised Unit) (service : WorkspaceJobService) : WorkspaceJobService :=
  match outcome with
  | .ok _ => service
  | .error _ => halt_for_storage service

/-- A report of the kind that the running request makes. -/
def reports : StoredRequest → Report → Prop
  | .workflow request, .training _ => request.operation = .train
  | .fetch _, .fetch _ => True
  | .inference _, .inference phase => phase ∈ ["processing", "verifying_saved_image"]
  | _, _ => False

def stop_after_step : StoredRequest → ℕ
  | .workflow request => request.stop_after_step
  | _ => 1

/-! ### Steps -/

variable (fingerprint : Json → String)

/-- One step of one of the parties. -/
inductive Step : WorkspaceJobService → Event → WorkspaceJobService → Prop where
  | submit {s t : WorkspaceJobService} {surroundings : Surroundings} {workspace : Workspace}
      {uuid4 : String} {request : WorkflowRequest} {outcome : Except Raised JobSnapshot}
      (h : submit surroundings fingerprint workspace uuid4 request s = (outcome, t)) :
      Step s (.submit surroundings workspace uuid4 request) t
  | submit_fetch {s t : WorkspaceJobService} {surroundings : Surroundings}
      {dataset_uploads : UploadReading} {uuid4 : String} {request : DatasetFetchRequest}
      {outcome : Except Raised JobSnapshot}
      (h : submit_fetch surroundings fingerprint dataset_uploads uuid4 request s = (outcome, t)) :
      Step s (.submit_fetch surroundings dataset_uploads uuid4 request) t
  | submit_inference {s t : WorkspaceJobService} {surroundings : Surroundings}
      {digest : Dict String → String} {admit_inference : Except Raised InferenceJobRecord}
      {uuid4 : String} {request : InferenceJobRequest} {outcome : Except Raised JobSnapshot}
      (hinference : s.inference.isSome = true)
      (h : submit_inference surroundings fingerprint digest admit_inference uuid4 request s
        = (outcome, t)) :
      Step s (.submit_inference surroundings digest admit_inference uuid4 request) t
  | action {s t : WorkspaceJobService} {surroundings : Surroundings} {identifier : String}
      {request : WorkflowActionRequest} {outcome : Except Raised JobSnapshot}
      (h : action surroundings fingerprint identifier request s = (outcome, t)) :
      Step s (.action surroundings identifier request) t
  | begin_cleanup {s t : WorkspaceJobService} {surroundings : Surroundings}
      {outcome : Except Raised Unit} (h : begin_cleanup surroundings s = (outcome, t)) :
      Step s (.begin_cleanup surroundings) t
  | end_cleanup {s : WorkspaceJobService} (h : s.cache_cleanup_in_progress = true) :
      Step s .end_cleanup (end_cleanup s)
  | start {s t : WorkspaceJobService} {surroundings : Surroundings} {owned : Bool}
      {outcome : Except Raised Unit} (hthread : s.thread = .absent) (hownership : s.ownership = false)
      (hcloser : s.closer = .serving) (h : start surroundings owned s = (outcome, t)) :
      Step s (.start surroundings owned) t
  | check {s : WorkspaceJobService} (hthread : s.thread = .checking) :
      Step s .check { s with thread := if s.closing then .ended else .polling }
  | poll {s t : WorkspaceJobService} {surroundings : Surroundings}
      {proof_busy : Except Raised Bool} {outcome : Except Raised (Option JobSnapshot)}
      (hthread : s.thread = .polling) (h : next_job surroundings proof_busy s = (outcome, t)) :
      Step s (.poll surroundings proof_busy) { t with thread := after_poll outcome }
  | maintain {s : WorkspaceJobService} {raised : Bool} (hthread : s.thread = .waiting) :
      Step s (.maintain raised) { s with thread := if raised then .halting else .checking }
  | begin_run {s t : WorkspaceJobService} {surroundings : Surroundings} {workspace : Workspace}
      {identifier : String} {outcome : Except Raised StoredRequest}
      (hthread : s.thread = .starting identifier)
      (h : begin_run surroundings workspace identifier s = (outcome, t)) :
      Step s (.begin_run surroundings workspace) { t with thread := after_begin identifier outcome }
  | report {s t : WorkspaceJobService} {surroundings : Surroundings} {report : Report}
      {identifier : String} {request : StoredRequest} {outcome : Except Raised Unit}
      (hthread : s.thread = .executing identifier request) (hreport : reports request report)
      (h : report_progress surroundings identifier (stop_after_step request) report s
        = (outcome, t)) :
      Step s (.report surroundings report)
        { t with thread := after_report identifier request outcome }
  | finish {s t : WorkspaceJobService} {surroundings : Surroundings} {exit : Outcome}
      {identifier : String} {request : StoredRequest} {outcome : Except Raised Unit}
      (hthread : s.thread = .executing identifier request)
      (h : finish_run surroundings identifier request exit s = (outcome, t)) :
      Step s (.finish surroundings exit) { t with thread := after_finish identifier outcome }
  | report_failure {s t : WorkspaceJobService} {surroundings : Surroundings} {reference : String}
      {identifier : String} {failure : Raised} {outcome : Except Raised Unit}
      (hthread : s.thread = .failing identifier failure)
      (h : report_failure surroundings identifier reference failure s = (outcome, t)) :
      Step s (.report_failure surroundings reference)
        { t with thread := after_report_failure identifier outcome }
  | release {s : WorkspaceJobService} {identifier : String} {halt : Bool}
      (hthread : s.thread = .releasing identifier halt) :
      Step s .release
        { s with active_identifier := none, thread := if halt then .halting else .checking }
  | halt {s : WorkspaceJobService} (hthread : s.thread = .halting) :
      Step s .halt { halt_for_storage s with thread := .ended }
  | begin_close {s : WorkspaceJobService} (hcloser : s.closer = .serving) :
      Step s .begin_close { s with closing := true, closer := .begun }
  | request_stop {s t : WorkspaceJobService} {surroundings : Surroundings}
      {outcome : Except Raised Unit} (hcloser : s.closer = .begun)
      (h : request_stop surroundings s = (outcome, t)) :
      Step s (.request_stop surroundings) { settle outcome t with closer := .stopped }
  -- The joins give up after their timeouts, so the thread may still be alive here.
  | join {s : WorkspaceJobService} (hcloser : s.closer = .stopped) :
      Step s .join { s with closer := .joined }
  | reconcile {s t : WorkspaceJobService} {surroundings : Surroundings}
      {outcome : Except Raised Unit} (hcloser : s.closer = .joined)
      (h : reconcile surroundings s = (outcome, t)) :
      Step s (.reconcile surroundings) { settle outcome t with closer := .reconciled }
  | release_ownership {s : WorkspaceJobService} (hcloser : s.closer = .reconciled) :
      Step s .release_ownership { release_ownership s with closer := .closed }
  | crash {s : WorkspaceJobService} {inference : Bool} :
      Step s (.crash inference)
        { store := s.store, inference := if inference then some {} else none }

/-- The states that a new application can reach. -/
def Reachable (s : WorkspaceJobService) : Prop :=
  ∃ events, Run (Step fingerprint) {} events s

/-! ### A small application -/

/-- The database works, and the clock stands still. -/
def working : Surroundings where
  database _ := true
  now _ := 0

def archive_request : DatasetFetchRequest where
  client_request_identifier := "a"
  source := .https_archive { terms_reference := "t", url := "u" }
  source_name := "s"
  dataset_name := "d"

/-- An application that has started. -/
def started : WorkspaceJobService :=
  (start working false {}).2

/-- It has accepted a fetch. -/
def with_fetch : WorkspaceJobService :=
  (submit_fetch working (fun _ => "f") none "1" archive_request started).2

end StegoLab

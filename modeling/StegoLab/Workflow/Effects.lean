import StegoLab.Workflow.Sections

/-!
# What a step can do

Every step of the system has one of eight effects on the store, the scheduler thread and the flags.
The invariants are derived from this list.
-/

namespace StegoLab

open CanonicalJson Transaction

/-! ### The effects -/

/-- The identifier and the payload of a request. -/
def Event.request : Event → Option (String × Json)
  | .submit _ _ _ request => some (request.client_request_identifier, dict request.fields)
  | .submit_fetch _ _ _ request => some (request.client_request_identifier, dict request.fields)
  | .submit_inference _ digest _ _ request =>
    some (request.client_request_identifier, request.payload digest)
  | .action _ identifier request =>
    some (request.client_request_identifier, request.payload identifier)
  | _ => none

/-- The mutation that an accepted request records. -/
def Event.mutation (fingerprint : Json → String) (e : Event) : Option (String × String) :=
  e.request.map fun request => (request.1, fingerprint request.2)

/-- The job that the thread is working on. -/
def Scheduler.holds : Scheduler → Option String
  | .starting identifier => some identifier
  | .executing identifier _ => some identifier
  | .failing identifier _ => some identifier
  | _ => none

/-- The thread is alive between two jobs. -/
def Scheduler.idle : Scheduler → Bool
  | .checking => true
  | .polling => true
  | .waiting => true
  | .releasing _ halt => !halt
  | _ => false

/-- A shutdown that is under way started before the step, or has set the closing flag. -/
def Shutdown (s t : WorkspaceJobService) : Prop :=
  t.closer ≠ .serving →
    s.closer ≠ .serving ∧ (s.closing = true → t.closing = true) ∨ t.closing = true

/-- The thread takes up no job, and the flags move as they may. -/
structure Control (s t : WorkspaceJobService) : Prop where
  holds : t.thread.holds = none ∨ t.thread.holds = s.thread.holds
  idle : t.thread.idle = true → s.thread.idle = true
  closing : t.thread.holds ≠ none → s.closing = true → t.closing = true
  cleanup : t.cache_cleanup_in_progress = true →
    s.cache_cleanup_in_progress = true ∨ ∀ job ∈ s.store.sorted_jobs, active_fetch job = false
  shutdown : Shutdown s t

/-- The same job with another state. -/
structure SameJob (job snapshot : JobSnapshot) : Prop where
  job_identifier : snapshot.job_identifier = job.job_identifier
  operation : snapshot.operation = job.operation

/-- The status changes of user actions. -/
def ActionMoves (job snapshot : JobSnapshot) : Prop :=
  job.status = .running ∧ snapshot.status = .running ∨
    (job.status = .queued ∨ job.status = .paused) ∧ snapshot.status = .cancelled ∨
    is_fetch job = true ∧ job.status = .paused ∧ snapshot.status = .queued

/-- Some unfinished jobs were interrupted, each with its event. -/
structure Interrupted (store store' : WorkflowStore) : Prop where
  job : ∀ key, store'.job? key = store.job? key ∨
    ∃ job snapshot, store.job? key = some job ∧ unfinished job = true ∧
      store'.job? key = some snapshot ∧ SameJob job snapshot ∧ snapshot.status = .interrupted
  events : ∃ events, store'.events = store.events ++ events ∧ ∀ event ∈ events,
    event.status = .interrupted ∧
      (∃ job, store.job? event.job_identifier = some job ∧ unfinished job = true) ∧
      ∃ job, store'.job? event.job_identifier = some job ∧ job.status = .interrupted
  mutations : store'.mutations = store.mutations

/-- The exits of a worker that leave an interrupted job interrupted: the run fails, or it is a
fetch that stopped without having been asked to cancel or to pause. -/
def keeps_interrupted (job : JobSnapshot) (exit : Outcome) : StoredRequest → Prop
  | .workflow _ =>
    ∀ worker, exit.worker = .ok worker →
      ∃ raised, register_checkpoint exit.register worker.result = .error raised
  | .fetch _ =>
    job.requested_action ≠ some .cancel ∧ job.requested_action ≠ some .pause ∧
      ∀ worker, exit.worker = .ok worker →
        ¬ (worker.code = 0 ∧ has_text worker.result "status" ["completed", "reused"] = true)
  | .inference _ => ∃ raised, exit.inference = .error raised

/-- The effects of a step. -/
inductive Effect (fingerprint : Json → String) (s : WorkspaceJobService) (e : Event)
    (t : WorkspaceJobService) : Prop where
  /-- No snapshot is saved. -/
  | unchanged (hstore : t.store = s.store) (hcontrol : Control s t)
  /-- A submission is accepted. -/
  | created {snapshot : JobSnapshot} {request : StoredRequest} {m : String × String}
      (hmutation : e.mutation fingerprint = some m)
      (hsaved : s.store.Saved snapshot (some request) (some m) t.store)
      (hstatus : snapshot.status = .queued)
      (hfetch : is_fetch snapshot = true → s.cache_cleanup_in_progress = false ∧
        ∀ job ∈ s.store.sorted_jobs, active_fetch job = false)
      (hcontrol : Control s t)
      (hcleanup : t.cache_cleanup_in_progress = s.cache_cleanup_in_progress)
  /-- A user action is accepted. -/
  | acted {job snapshot : JobSnapshot} {m : String × String}
      (hmutation : e.mutation fingerprint = some m)
      (hjob : s.store.job? snapshot.job_identifier = some job) (hsame : SameJob job snapshot)
      (hsaved : s.store.Saved snapshot none (some m) t.store) (hmoves : ActionMoves job snapshot)
      (hcontrol : Control s t)
  /-- Progress, or the request of the shutdown to stop: the status stays. -/
  | marked {job snapshot : JobSnapshot} (hrequest : e.request = none)
      (hjob : s.store.job? snapshot.job_identifier = some job) (hsame : SameJob job snapshot)
      (hsaved : s.store.Saved snapshot none none t.store) (hstatus : snapshot.status = job.status)
      (hcontrol : Control s t)
  /-- The scheduler takes up a queued job. -/
  | claimed {job snapshot : JobSnapshot} (hrequest : e.request = none)
      (hidle : s.thread.idle = true)
      (hjob : s.store.job? snapshot.job_identifier = some job) (hsame : SameJob job snapshot)
      (hsaved : s.store.Saved snapshot none none t.store) (hqueued : job.status = .queued)
      (hstatus : snapshot.status = .running)
      (hthread : t.thread = .starting snapshot.job_identifier) (hshutdown : Shutdown s t)
      (hcleanup : t.cache_cleanup_in_progress = s.cache_cleanup_in_progress)
  /-- The run of a job ends with its outcome. -/
  | finished {job snapshot : JobSnapshot} {request : StoredRequest} {surroundings : Surroundings}
      {exit : Outcome} (he : e = .finish surroundings exit)
      (hthread : s.thread = .executing snapshot.job_identifier request)
      (hjob : s.store.job? snapshot.job_identifier = some job) (hsame : SameJob job snapshot)
      (hsaved : s.store.Saved snapshot none none t.store)
      (hstatus : snapshot.status ≠ .running ∧ snapshot.status ≠ .queued)
      (hkeeps : keeps_interrupted job exit request → snapshot.status = .interrupted)
      (hthread' : t.thread = .releasing snapshot.job_identifier false) (hshutdown : Shutdown s t)
      (hcleanup : t.cache_cleanup_in_progress = s.cache_cleanup_in_progress)
  /-- The failure of a run is recorded. -/
  | failed {job snapshot : JobSnapshot} (hrequest : e.request = none)
      (hholds : s.thread.holds = some snapshot.job_identifier)
      (hjob : s.store.job? snapshot.job_identifier = some job) (hsame : SameJob job snapshot)
      (hsaved : s.store.Saved snapshot none none t.store)
      (hstatus : snapshot.status = if s.closing then .interrupted else .failed)
      (hthread : t.thread = .releasing snapshot.job_identifier false) (hshutdown : Shutdown s t)
      (hcleanup : t.cache_cleanup_in_progress = s.cache_cleanup_in_progress)
  /-- Unfinished jobs are interrupted at startup, where no thread exists yet, or at shutdown. -/
  | interrupted (hrequest : e.request = none) (hinterrupted : Interrupted s.store t.store)
      (hphase : s.thread = .absent ∧ (t.thread = .absent ∨ t.thread = .checking ∧
          ∀ job ∈ t.store.sorted_jobs, unfinished job = false) ∨
        (∃ surroundings, e = .reconcile surroundings) ∧ s.closer = .joined ∧ t.thread = s.thread ∧
          (s.closing = true → t.closing = true))
      (hshutdown : Shutdown s t)
      (hcleanup : t.cache_cleanup_in_progress = s.cache_cleanup_in_progress)

end StegoLab

import Mathlib.Logic.Relation
import StegoLab.Library.Traces
import StegoLab.Workflow.Secrets

/-!
# The events are a journal

Whatever a step does to the store, it does by saves: of new jobs, or of jobs that are stored. So the
events are numbered from one, and the saved snapshot of a job is the one of its last event.
-/

namespace StegoLab

open CanonicalJson Relation Transaction

variable {fingerprint : Json → String} {surroundings : Surroundings} {s t u : WorkspaceJobService}
  {e : Event} {job saved : JobSnapshot} {mutation : Option (String × String)}

/-! ### Saves -/

/-- One save, of a new job or of a stored one. -/
def Publishes (store store' : WorkflowStore) : Prop :=
  ∃ snapshot request mutation, store.Saved snapshot request mutation store' ∧
    snapshot.latest_event_identifier = some (store.events.length + 1) ∧
      (request = none → (store.job? snapshot.job_identifier).isSome = true)

/-- The saves that lead from one store to another. -/
def Recorded (s t : WorkspaceJobService) : Prop :=
  ReflTransGen Publishes s.store t.store

/-- The job is stored, in whatever state. -/
def Known (job : JobSnapshot) (t : WorkspaceJobService) : Prop :=
  (t.store.job? job.job_identifier).isSome = true

lemma Recorded.refl (s : WorkspaceJobService) : Recorded s s :=
  ReflTransGen.refl

lemma Recorded.trans (h : Recorded s t) (h' : Recorded t u) : Recorded s u :=
  ReflTransGen.trans h h'

lemma Recorded.of_eq (hstore : t.store = s.store) : Recorded s t := by
  unfold Recorded
  rw [hstore]

lemma Publishes.job_kept {store store' : WorkflowStore} (h : Publishes store store') {key : String}
    (hkey : (store.job? key).isSome = true) : (store'.job? key).isSome = true := by
  obtain ⟨snapshot, request, mutation, hsaved, -, -⟩ := h
  rw [hsaved.job key]
  split_ifs
  · rfl
  · exact hkey

lemma job_kept_of_published {store store' : WorkflowStore} (h : ReflTransGen Publishes store store')
    {key : String} (hkey : (store.job? key).isSome = true) : (store'.job? key).isSome = true := by
  induction h with
  | refl => exact hkey
  | tail _ hlast ih => exact hlast.job_kept ih

lemma Known.of_recorded (h : Known job s) (hrecorded : Recorded s t) : Known job t :=
  job_kept_of_published hrecorded h

lemma recorded_save {snapshot : JobSnapshot} {request : Option StoredRequest}
    (hknown : request = none → Known snapshot s)
    (h : save surroundings snapshot request mutation s = (.ok saved, t)) : Recorded s t := by
  obtain ⟨rfl, store, rfl, hsaved⟩ := save_ok h
  exact ReflTransGen.single ⟨_, request, mutation, hsaved, rfl, hknown⟩

lemma recorded_change {changes : JobSnapshot → JobSnapshot} (hkeeps : KeepsJob changes job)
    (hknown : Known job s)
    (h : change surroundings job changes mutation s = (.ok saved, t)) : Recorded s t := by
  obtain ⟨updated, hvalid, hsave⟩ := lift_bind_ok.mp h
  obtain ⟨-, -, hvalid⟩ := bind_eq_ok.mp hvalid
  obtain rfl := pure_eq_ok.mp hvalid
  apply recorded_save _ hsave
  intro _
  unfold Known
  rw [hkeeps.job_identifier]
  exact hknown

/-! ### Contracts -/

/-- The section does to the store nothing but saves. -/
abbrev KeepsRecord {α : Type} (s : WorkspaceJobService) (x : Section α) : Prop :=
  Transaction.Keeps (Recorded s) x

lemma record_guard {α : Type} {P : WorkspaceJobService → Prop} {x : Section α} (hx : ReadOnly x)
    (hP : ∀ t, P t → Recorded s t) : Contract P x (fun _ => P) fun _ => Recorded s :=
  .of_readOnly hx fun _ => hP

/-- A section that leaves the store alone. -/
lemma record_same {α : Type} {x : Section α}
    (hx : ∀ {t outcome u}, x t = (outcome, u) → u.store = t.store) : KeepsRecord s x where
  returns ht h := ht.trans (.of_eq (hx h))
  fails ht h := ht.trans (.of_eq (hx h))

lemma record_get_job {identifier : String} :
    Contract (Recorded s) (get_job surroundings identifier)
      (fun job t => Recorded s t ∧ Known job t) fun _ => Recorded s where
  returns hs h := by
    obtain rfl := readOnly_get_job identifier _ _ _ h
    refine ⟨hs, ?_⟩
    unfold Known
    rw [WorkflowStore.identifier_of_job? (get_job_ok h), get_job_ok h]
    rfl
  fails hs h := readOnly_get_job identifier _ _ _ h ▸ hs

lemma record_list_jobs :
    Contract (Recorded s) (list_jobs surroundings)
      (fun jobs t => Recorded s t ∧ ∀ job ∈ jobs, Known job t) fun _ => Recorded s where
  returns hs h := by
    obtain rfl := readOnly_list_jobs _ _ _ h
    obtain rfl := list_jobs_ok h
    refine ⟨hs, fun job hjob => ?_⟩
    unfold Known
    rw [WorkflowStore.mem_sorted_jobs.mp hjob]
    rfl
  fails hs h := readOnly_list_jobs _ _ _ h ▸ hs

lemma record_change {changes : JobSnapshot → JobSnapshot} (jobs : List JobSnapshot)
    (hkeeps : KeepsJob changes job) :
    Contract (fun t => (Recorded s t ∧ Known job t) ∧ ∀ other ∈ jobs, Known other t)
      (change surroundings job changes mutation)
      (fun _ t => Recorded s t ∧ ∀ other ∈ jobs, Known other t) fun _ => Recorded s where
  returns hs h := by
    have hrecorded := recorded_change hkeeps hs.1.2 h
    exact ⟨hs.1.1.trans hrecorded, fun other hother => (hs.2 other hother).of_recorded hrecorded⟩
  fails hs h := eq_of_error h (atomic_change _ _ _) ▸ hs.1.1

lemma record_change_job {changes : JobSnapshot → JobSnapshot} (hkeeps : KeepsJob changes job) :
    Contract (fun t => Recorded s t ∧ Known job t) (change surroundings job changes mutation)
      (fun _ => Recorded s) fun _ => Recorded s :=
  (record_change [] hkeeps).mono (fun _ h => ⟨h, by simp⟩) (fun _ _ h => h.1) fun _ _ => id

/-- A new job. -/
lemma record_save {snapshot : JobSnapshot} {request : StoredRequest} :
    KeepsRecord s (save surroundings snapshot (some request) mutation) where
  returns hs h := hs.trans (recorded_save (fun hnone => absurd hnone (by simp)) h)
  fails hs h := eq_of_error h (atomic_save _ _ _) ▸ hs

/-! ### Requests -/

lemma record_unless_replayed {identifier print : String} {accept : Section JobSnapshot}
    (haccept : KeepsRecord s accept) :
    KeepsRecord s (unless_replayed surroundings identifier print accept) := by
  refine (record_guard readOnly_read fun _ => id).bind fun service => ?_
  refine (record_guard (readOnly_lift _) fun _ => id).bind fun previous => ?_
  cases previous with
  | none => exact haccept
  | some job => exact .pure fun _ => id

lemma record_submit {workspace : Workspace} {uuid4 : String} {request : WorkflowRequest} :
    KeepsRecord s (submit surroundings fingerprint workspace uuid4 request) := by
  refine record_unless_replayed ?_
  refine (record_guard readOnly_refuse_closing fun _ => id).bind fun _ => ?_
  refine (record_guard (readOnly_request_settings _ _) fun _ => id).bind fun settings => ?_
  exact (record_guard (readOnly_lift _) fun _ => id).bind fun _ => record_save

lemma record_submit_fetch {dataset_uploads : UploadReading} {uuid4 : String}
    {request : DatasetFetchRequest} :
    KeepsRecord s (submit_fetch surroundings fingerprint dataset_uploads uuid4 request) := by
  refine record_unless_replayed ?_
  refine (record_guard readOnly_read fun _ => id).bind fun service => ?_
  refine (record_guard (readOnly_lift _) fun _ => id).bind fun _ => ?_
  refine (record_guard (readOnly_lift _) fun _ => id).bind fun _ => ?_
  refine (record_guard (readOnly_lift _) fun _ => id).bind fun _ => ?_
  refine (record_guard readOnly_list_jobs fun _ => id).bind fun jobs => ?_
  exact (record_guard (readOnly_lift _) fun _ => id).bind fun _ => record_save

lemma record_submit_inference {digest : Dict String → String}
    {admit_inference : Except Raised InferenceJobRecord} {uuid4 : String}
    {request : InferenceJobRequest} :
    KeepsRecord s (submit_inference surroundings fingerprint digest admit_inference uuid4 request) := by
  refine record_unless_replayed ?_
  refine (record_guard (readOnly_lift _) fun _ => id).bind fun record => ?_
  refine (record_guard readOnly_refuse_closing fun _ => id).bind fun _ => ?_
  refine (record_guard readOnly_list_jobs fun _ => id).bind fun jobs => ?_
  refine (record_guard (readOnly_lift _) fun _ => id).bind fun _ => ?_
  refine record_save.bind fun accepted => Contract.bind (record_same ?_) fun _ => .pure fun _ => id
  intro t outcome u h
  obtain ⟨inference, rfl⟩ := put_secrets_frame h
  rfl

lemma record_action {identifier : String} {request : WorkflowActionRequest} :
    KeepsRecord s (action surroundings fingerprint identifier request) := by
  refine record_unless_replayed (record_get_job.bind fun job => ?_)
  refine (record_guard (readOnly_lift _) fun _ h => h.1).bind fun _ => ?_
  refine Contract.bind (Q := fun changes t => KeepsJob changes job ∧ Recorded s t ∧ Known job t)
    (.lift (fun _ h _ ht => ⟨keepsJob_requested_changes h, ht⟩) fun _ _ _ h => h.1) fun changes => ?_
  refine .assume fun hkeeps => (record_change_job hkeeps).bind fun changed => ?_
  refine Contract.bind (record_same ?_) fun _ => .pure fun _ => id
  intro t outcome u h
  obtain ⟨inference, rfl⟩ := discard_secrets_frame h
  rfl

/-! ### Startup and shutdown -/

lemma record_interrupt_unfinished (jobs : List JobSnapshot) :
    Contract (fun t => Recorded s t ∧ ∀ job ∈ jobs, Known job t)
      (interrupt_unfinished surroundings jobs) (fun _ => Recorded s) fun _ => Recorded s := by
  induction jobs with
  | nil => exact .pure fun _ h => h.1
  | cons job jobs ih =>
    refine .ite (fun _ => ?_) fun _ => ?_
    · refine Contract.bind ((record_change jobs ⟨rfl, rfl, rfl⟩).strengthen fun t ht => ?_) fun _ => ih
      obtain ⟨hjob, hjobs⟩ := List.forall_mem_cons.mp ht.2
      exact ⟨⟨ht.1, hjob⟩, hjobs⟩
    · exact ih.strengthen fun t ht => ⟨ht.1, (List.forall_mem_cons.mp ht.2).2⟩

/-- Replacing other fields of what was read. -/
lemma record_write {service service' : WorkspaceJobService} (hstore : service'.store = service.store) :
    Contract (fun t => service = t ∧ Recorded s t) (Transaction.write service' : Section Unit)
      (fun _ => Recorded s) fun _ => Recorded s :=
  .write fun _ h => (h.1 ▸ h.2).trans (.of_eq hstore)

lemma record_read : Contract (Recorded s) (Transaction.read : Section WorkspaceJobService)
    (fun service t => service = t ∧ Recorded s t) fun _ => Recorded s :=
  .read fun _ h => ⟨rfl, h⟩

lemma record_start {owned : Bool} : KeepsRecord s (start surroundings owned) := by
  refine (record_guard (readOnly_lift _) fun _ => id).bind fun _ => ?_
  refine record_read.bind fun service => Contract.bind (record_write (by rfl)) fun _ => ?_
  refine record_list_jobs.bind fun jobs => (record_interrupt_unfinished jobs).bind fun _ => ?_
  exact record_read.bind fun service => record_write rfl

lemma record_request_stop : KeepsRecord s (request_stop surroundings) := by
  refine (record_guard readOnly_read fun _ => id).bind fun service => ?_
  cases service.active_identifier with
  | none => exact .pure fun _ => id
  | some identifier =>
    refine record_get_job.bind fun job => .ite (fun _ => ?_) fun _ => .pure fun _ h => h.1
    exact (record_change_job ⟨rfl, rfl, rfl⟩).bind fun _ => .pure fun _ => id

lemma record_reconcile : KeepsRecord s (reconcile surroundings) := by
  refine (record_guard readOnly_read fun _ => id).bind fun service => ?_
  exact .ite (fun _ => record_list_jobs.bind record_interrupt_unfinished) fun _ => .pure fun _ => id

lemma record_begin_cleanup : KeepsRecord s (begin_cleanup surroundings) := by
  refine (record_guard readOnly_require_storage fun _ => id).bind fun _ => ?_
  refine (record_guard readOnly_list_jobs fun _ => id).bind fun jobs => ?_
  refine (record_guard (readOnly_lift _) fun _ => id).bind fun _ => ?_
  refine record_read.bind fun service =>
    (record_guard (readOnly_lift _) fun _ h => h.2).bind fun _ => ?_
  exact record_write rfl

/-! ### The scheduler -/

lemma record_next_job {proof_busy : Except Raised Bool} :
    KeepsRecord s (next_job surroundings proof_busy) := by
  refine (record_guard (readOnly_lift _) fun _ => id).bind fun proof_locked => ?_
  refine record_list_jobs.bind fun jobs => ?_
  cases hfind : jobs.find? (schedulable proof_locked) with
  | none => exact .pure fun _ h => h.1
  | some queued =>
    have hmem : queued ∈ jobs := List.mem_of_find?_eq_some hfind
    refine Contract.bind (Q := fun _ => Recorded s) ?_ fun _ => .pure fun _ => id
    refine Contract.bind ((record_change_job ⟨rfl, rfl, rfl⟩).strengthen fun t ht => ?_) fun _ => ?_
    · exact ⟨ht.1, ht.2 queued hmem⟩
    · exact record_read.bind fun service => record_write rfl

lemma record_begin_run {workspace : Workspace} {identifier : String} :
    KeepsRecord s (begin_run surroundings workspace identifier) := by
  refine (record_guard readOnly_read fun _ => id).bind fun service => ?_
  refine (record_guard (readOnly_lift _) fun _ => id).bind fun request => ?_
  refine Contract.bind (record_same ?_) fun _ => .pure fun _ => id
  intro t outcome u h
  obtain ⟨inference, rfl⟩ := prepare_run_frame h
  rfl

lemma record_report_progress {identifier : String} {steps : ℕ} {report : Report} :
    KeepsRecord s (report_progress surroundings identifier steps report) := by
  refine (record_guard (readOnly_refuse_report report) fun _ => id).bind fun _ => ?_
  refine record_get_job.bind fun job => ?_
  refine Contract.bind (record_change_job (keepsJob_report_changes steps report job)) fun _ => ?_
  exact .pure fun _ => id

lemma record_finish_run {identifier : String} {request : StoredRequest} {exit : Outcome} :
    KeepsRecord s (finish_run surroundings identifier request exit) := by
  cases request with
  | workflow request =>
    refine (record_guard (readOnly_lift _) fun _ => id).bind fun worker => ?_
    refine (record_guard (readOnly_lift _) fun _ => id).bind fun published => ?_
    refine record_get_job.bind fun job => ?_
    exact (record_change_job ⟨rfl, rfl, rfl⟩).bind fun _ => .pure fun _ => id
  | fetch request =>
    refine (record_guard (readOnly_lift _) fun _ => id).bind fun ended => ?_
    refine (record_guard readOnly_read fun _ => id).bind fun service => ?_
    refine record_get_job.bind fun job => ?_
    refine Contract.bind (Q := fun changes t => KeepsJob changes job ∧ Recorded s t ∧ Known job t)
      (.lift (fun _ h _ ht => ⟨keepsJob_fetch_changes h, ht⟩) fun _ _ _ h => h.1) fun changes => ?_
    exact .assume fun hkeeps => (record_change_job hkeeps).bind fun _ => .pure fun _ => id
  | inference record =>
    refine (record_guard (readOnly_lift _) fun _ => id).bind fun result => ?_
    refine record_get_job.bind fun job => ?_
    exact (record_change_job ⟨rfl, rfl, rfl⟩).bind fun _ => .pure fun _ => id

lemma record_report_failure {identifier reference : String} {failure : Raised} :
    KeepsRecord s (report_failure surroundings identifier reference failure) := by
  refine record_get_job.bind fun job => ?_
  refine (record_guard readOnly_read fun _ h => h.1).bind fun service => ?_
  refine .ite (fun _ => ?_) fun _ => ?_
  · exact (record_change_job ⟨rfl, rfl, rfl⟩).bind fun _ => .pure fun _ => id
  · exact (record_change_job ⟨rfl, rfl, rfl⟩).bind fun _ => .pure fun _ => id

/-! ### Steps -/

theorem Step.recorded (h : Step fingerprint s e t) : Recorded s t := by
  have hends : ∀ {α : Type} {x : Section α} {outcome : Except Raised α} {u : WorkspaceJobService},
      KeepsRecord s x → x s = (outcome, u) → Recorded s u :=
    fun hx h => hx.ends (.refl s) h
  have hsettled : ∀ {outcome : Except Raised Unit} {u : WorkspaceJobService} {closer : Closer},
      Recorded s u → Recorded s { settle outcome u with closer } :=
    fun hu => hu.trans (.of_eq (settle_steady _ _).1)
  have hmoved : ∀ {u : WorkspaceJobService} {thread : Scheduler},
      Recorded s u → Recorded s { u with thread } :=
    fun hu => hu.trans (.of_eq rfl)
  cases h with
  | submit h => exact hends record_submit h
  | submit_fetch h => exact hends record_submit_fetch h
  | submit_inference _ h => exact hends record_submit_inference h
  | action h => exact hends record_action h
  | begin_cleanup h => exact hends record_begin_cleanup h
  | end_cleanup => exact .refl s
  | start _ _ _ h => exact hends record_start h
  | check => exact .refl s
  | poll _ h => exact hmoved (hends record_next_job h)
  | maintain => exact .refl s
  | begin_run _ h => exact hmoved (hends record_begin_run h)
  | report _ _ h => exact hmoved (hends record_report_progress h)
  | finish _ h => exact hmoved (hends record_finish_run h)
  | report_failure _ h => exact hmoved (hends record_report_failure h)
  | release => exact .refl s
  | halt => exact .refl s
  | begin_close => exact .refl s
  | request_stop _ h => exact hsettled (hends record_request_stop h)
  | join => exact .refl s
  | reconcile _ h => exact hsettled (hends record_reconcile h)
  | release_ownership =>
    apply Recorded.of_eq
    unfold StegoLab.release_ownership
    split <;> rfl
  | crash => exact .refl s

/-! ### The journal -/

/-- The snapshot of an event, where it is one of this job. -/
def JobEvent.of_job (key : String) (event : JobEvent) : Option JobSnapshot :=
  if event.job_identifier = key then some event.snapshot else none

/-- The event is the one with this number, and its snapshot says so. -/
structure JobEvent.Numbered (event : JobEvent) (number : ℕ) : Prop where
  event_identifier : event.event_identifier = number
  revision : event.snapshot.latest_event_identifier = some number
  job_identifier : event.job_identifier = event.snapshot.job_identifier

/-- The events are numbered from one, and every job is as its last event left it. -/
structure Journaled (store : WorkflowStore) : Prop where
  numbered : ∀ {position : ℕ} {event : JobEvent}, store.events[position]? = some event →
    event.Numbered (position + 1)
  job : ∀ key, store.job? key = latest (JobEvent.of_job key) store.events

variable {store store' : WorkflowStore}

lemma journaled_created : Journaled .created where
  numbered h := absurd h (by simp [WorkflowStore.created])
  job _ := rfl

lemma Publishes.events (h : Publishes store store') :
    ∃ event, store'.events = store.events ++ [event] ∧ event.Numbered (store.events.length + 1) ∧
      ∀ key, store'.job? key = if event.job_identifier = key then some event.snapshot
        else store.job? key := by
  obtain ⟨snapshot, request, mutation, hsaved, hrevision, hknown⟩ := h
  refine ⟨_, hsaved.events, ⟨rfl, hrevision, rfl⟩, fun key => ?_⟩
  rw [hsaved.job key]
  show _ = if snapshot.job_identifier = key then some snapshot else store.job? key
  by_cases hkey : key = snapshot.job_identifier
  · rw [if_pos ⟨hkey, fun hnone => hkey ▸ hknown hnone⟩, if_pos hkey.symm]
  · rw [if_neg fun hboth => hkey hboth.1, if_neg fun heq => hkey heq.symm]

/-- A save writes the next entry of the journal. -/
lemma Journaled.publishes (h : Journaled store) (hpublishes : Publishes store store') :
    Journaled store' := by
  obtain ⟨event, hevents, hnumbered, hjobs⟩ := hpublishes.events
  constructor
  · intro position other hother
    rw [hevents, List.getElem?_append] at hother
    split_ifs at hother with hposition
    · exact h.numbered hother
    · obtain ⟨hlast, rfl⟩ := List.getElem?_eq_some_iff.mp hother
      have hzero : position - store.events.length = 0 := by simpa using hlast
      have hend : position = store.events.length := by omega
      subst hend
      simpa using hnumbered
  · intro key
    rw [hjobs key, hevents]
    by_cases hkey : event.job_identifier = key
    · have hnote : event.of_job key = some event.snapshot := by
        simp [JobEvent.of_job, hkey]
      rw [if_pos hkey, latest_snoc_of_some hnote]
    · rw [if_neg hkey, latest_snoc_of_none, h.job key]
      simp [JobEvent.of_job, hkey]

lemma Journaled.published (h : Journaled store) (hpublished : ReflTransGen Publishes store store') :
    Journaled store' := by
  induction hpublished with
  | refl => exact h
  | tail _ hlast ih => exact ih.publishes hlast

/-- The journal only grows. -/
lemma prefix_events (h : ReflTransGen Publishes store store') : store.events <+: store'.events := by
  induction h with
  | refl => exact List.prefix_rfl
  | tail _ hlast ih =>
    obtain ⟨event, hevents, -, -⟩ := hlast.events
    rw [hevents]
    exact ih.trans (List.prefix_append _ _)

theorem journaled_of_reachable (h : Reachable fingerprint s) : Journaled s.store := by
  obtain ⟨events, hrun⟩ := h
  exact hrun.invariant (fun s => Journaled s.store) (fun hs hstep => hs.published hstep.recorded)
    journaled_created

end StegoLab

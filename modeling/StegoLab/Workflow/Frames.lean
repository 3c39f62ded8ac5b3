import StegoLab.Library.Contracts
import StegoLab.Workflow.StepEffects

/-!
# What a step leaves alone

A saved job keeps its request, its operation and its settings, and only four kinds of steps touch
the secrets. Every section is a contract that keeps this frame.
-/

namespace StegoLab

open CanonicalJson Transaction

variable {fingerprint : Json → String} {surroundings : Surroundings} {s t u : WorkspaceJobService}
  {e : Event} {job saved : JobSnapshot} {mutation : Option (String × String)}

/-! ### Rows -/

/-- What no change of a job touches. -/
structure SameRow (row row' : JobRow) : Prop where
  request : row'.request = row.request
  operation : row'.snapshot.operation = row.snapshot.operation
  frozen_settings : row'.snapshot.frozen_settings = row.snapshot.frozen_settings

lemma SameRow.refl (row : JobRow) : SameRow row row :=
  ⟨rfl, rfl, rfl⟩

lemma SameRow.trans {row row' row'' : JobRow} (h : SameRow row row') (h' : SameRow row' row'') :
    SameRow row row'' where
  request := h'.request.trans h.request
  operation := h'.operation.trans h.operation
  frozen_settings := h'.frozen_settings.trans h.frozen_settings

/-- A snapshot that was made for its request. -/
structure JobRow.Matches (row : JobRow) : Prop where
  operation : row.snapshot.operation = row.request.operation
  settings : ∀ record, row.request = .inference record →
    row.snapshot.frozen_settings = dict record.fields

lemma JobRow.Matches.of_same {row row' : JobRow} (h : row.Matches) (hsame : SameRow row row') :
    row'.Matches where
  operation := by rw [hsame.operation, hsame.request, h.operation]
  settings record hrecord := by
    rw [hsame.frozen_settings, h.settings record (hsame.request ▸ hrecord)]

/-- Saved jobs keep their rows, and new ones are no encode or decode jobs. -/
structure KeepsRows (s t : WorkspaceJobService) : Prop where
  kept : ∀ key row, s.store.jobs.get? key = some row →
    ∃ row', t.store.jobs.get? key = some row' ∧ SameRow row row'
  added : ∀ key row', s.store.jobs.get? key = none → t.store.jobs.get? key = some row' →
    row'.Matches ∧ ∀ record, row'.request ≠ .inference record

lemma KeepsRows.of_eq (hstore : t.store = s.store) : KeepsRows s t where
  kept key row hrow := ⟨row, hstore ▸ hrow, .refl row⟩
  added key row' hnone hrow' := by
    rw [hstore, hnone] at hrow'
    exact absurd hrow' (by simp)

lemma KeepsRows.trans (h : KeepsRows s t) (h' : KeepsRows t u) : KeepsRows s u where
  kept key row hrow := by
    obtain ⟨row', hrow', hsame⟩ := h.kept key row hrow
    obtain ⟨row'', hrow'', hsame'⟩ := h'.kept key row' hrow'
    exact ⟨row'', hrow'', hsame.trans hsame'⟩
  added key row'' hnone hrow'' := by
    cases hmiddle : t.store.jobs.get? key with
    | none => exact h'.added key row'' hmiddle hrow''
    | some row' =>
      obtain ⟨hmatches, hother⟩ := h.added key row' hnone hmiddle
      obtain ⟨_, hrow, hsame⟩ := h'.kept key row' hmiddle
      obtain rfl := Option.some_inj.mp (hrow.symm.trans hrow'')
      exact ⟨hmatches.of_same hsame, fun record => hsame.request ▸ hother record⟩

/-- The secrets, the scheduler thread and the closing flag stay. -/
structure Steady (s t : WorkspaceJobService) : Prop where
  inference : t.inference = s.inference
  thread : t.thread = s.thread
  closing : t.closing = s.closing

/-- What most sections keep. -/
structure Framed (s t : WorkspaceJobService) : Prop where
  rows : KeepsRows s t
  steady : Steady s t

lemma Framed.of_eq (hstore : t.store = s.store) (hsteady : Steady s t) : Framed s t :=
  ⟨.of_eq hstore, hsteady⟩

lemma Framed.refl (s : WorkspaceJobService) : Framed s s :=
  .of_eq rfl ⟨rfl, rfl, rfl⟩

lemma Framed.trans (h : Framed s t) (h' : Framed t u) : Framed s u where
  rows := h.rows.trans h'.rows
  steady :=
    ⟨h'.steady.inference.trans h.steady.inference, h'.steady.thread.trans h.steady.thread,
      h'.steady.closing.trans h.steady.closing⟩

/-! ### Saves -/

/-- The rows after a changed job was written. -/
lemma update_job_rows (store : WorkflowStore) (snapshot : JobSnapshot) (key : String) :
    (store.update_job snapshot).jobs.get? key = (store.jobs.get? key).map fun row =>
      if key = snapshot.job_identifier then { row with snapshot } else row := by
  unfold WorkflowStore.update_job
  by_cases hkey : key = snapshot.job_identifier
  · subst hkey
    cases hrow : store.jobs.get? snapshot.job_identifier with
    | none => simp [hrow]
    | some row => simp
  · split <;> simp [hkey]

/-- The rows after a new job was written. -/
lemma insert_job_rows {store store' : WorkflowStore} {snapshot : JobSnapshot}
    {request : StoredRequest} (h : store.insert_job snapshot request = .ok store') :
    store.jobs.get? snapshot.job_identifier = none ∧ ∀ key, store'.jobs.get? key =
      if key = snapshot.job_identifier then some { snapshot, request } else store.jobs.get? key := by
  obtain ⟨_, hfresh, hinsert⟩ := bind_eq_ok.mp h
  obtain rfl := pure_eq_ok.mp hinsert
  exact ⟨by simpa using raise_if_eq_ok.mp hfresh, fun key => Dict.get?_insert ..⟩

/-- What `save` leaves of the service: the store, with the rows of its jobs. -/
lemma save_rows {snapshot : JobSnapshot} {request : Option StoredRequest}
    (h : save surroundings snapshot request mutation s = (.ok saved, t)) :
    saved = { snapshot with latest_event_identifier := some (s.store.events.length + 1) } ∧
      (∃ store, t = { s with store := store }) ∧
        ∃ store, s.store.write_job saved request = .ok store ∧ t.store.jobs = store.jobs := by
  rw [save, read_bind] at h
  obtain ⟨⟨saved', store⟩, hsave, hrest⟩ := lift_bind_ok.mp h
  obtain ⟨_, u, hwrite, hpure⟩ := bind_ok.mp hrest
  obtain rfl := write_ok.mp hwrite
  obtain ⟨rfl, rfl⟩ := pure_ok.mp hpure
  rw [WorkflowStore.save] at hsave
  obtain ⟨-, -, hsave⟩ := bind_eq_ok.mp hsave
  obtain ⟨middle, hjob, hsave⟩ := bind_eq_ok.mp hsave
  obtain ⟨final, hmutation, hsave⟩ := bind_eq_ok.mp hsave
  obtain ⟨rfl, rfl⟩ := Prod.ext_iff.mp (pure_eq_ok.mp hsave)
  exact ⟨rfl, ⟨_, rfl⟩, middle, hjob, (WorkflowStore.write_mutation_eq_ok hmutation).2.1⟩

/-- The job is stored, perhaps in a later state. -/
def Stored (s : WorkspaceJobService) (job : JobSnapshot) : Prop :=
  ∃ row, s.store.jobs.get? job.job_identifier = some row ∧
    row.snapshot.operation = job.operation ∧ row.snapshot.frozen_settings = job.frozen_settings

lemma Stored.of_framed (h : Stored s job) (hframed : Framed s t) : Stored t job := by
  obtain ⟨row, hrow, hoperation, hsettings⟩ := h
  obtain ⟨row', hrow', hsame⟩ := hframed.rows.kept _ row hrow
  exact ⟨row', hrow', hsame.operation.trans hoperation, hsame.frozen_settings.trans hsettings⟩

/-- A change of the state of a job, and of nothing else about it. -/
structure KeepsJob (changes : JobSnapshot → JobSnapshot) (job : JobSnapshot) : Prop where
  job_identifier : (changes job).job_identifier = job.job_identifier
  operation : (changes job).operation = job.operation
  frozen_settings : (changes job).frozen_settings = job.frozen_settings

lemma framed_change {changes : JobSnapshot → JobSnapshot} (hkeeps : KeepsJob changes job)
    (hstored : Stored s job)
    (h : change surroundings job changes mutation s = (.ok saved, t)) : Framed s t := by
  obtain ⟨updated, hvalid, hsave⟩ := lift_bind_ok.mp h
  obtain ⟨-, -, hvalid⟩ := bind_eq_ok.mp hvalid
  obtain rfl := pure_eq_ok.mp hvalid
  obtain ⟨rfl, ⟨store, rfl⟩, store', hwrite, hrows⟩ := save_rows hsave
  obtain rfl := pure_eq_ok.mp hwrite
  have hlookup : ∀ key, store.jobs.get? key = _ :=
    fun key => hrows ▸ update_job_rows s.store _ key
  refine ⟨⟨fun key row hrow => ?_, fun key row' hnone hrow' => ?_⟩, rfl, rfl, rfl⟩
  · refine ⟨_, by rw [hlookup, hrow]; rfl, ?_⟩
    dsimp only
    split_ifs with hkey
    · obtain ⟨row', hrow', hoperation, hsettings⟩ := hstored
      rw [← hkeeps.job_identifier, ← hkey, hrow] at hrow'
      obtain rfl := Option.some_inj.mp hrow'
      exact ⟨rfl, hkeeps.operation.trans hoperation.symm,
        hkeeps.frozen_settings.trans hsettings.symm⟩
    · exact .refl row
  · rw [hlookup, hnone] at hrow'
    exact absurd hrow' (by simp)

/-! ### Contracts -/

/-- The section keeps the frame from a given state. -/
abbrev KeepsFrame {α : Type} (s : WorkspaceJobService) (x : Section α) : Prop :=
  Transaction.Keeps (Framed s) x

lemma frame_guard {α : Type} {P : WorkspaceJobService → Prop} {x : Section α} (hx : ReadOnly x)
    (hP : ∀ t, P t → Framed s t) : Contract P x (fun _ => P) fun _ => Framed s :=
  .of_readOnly hx fun _ => hP

lemma frame_get_job {identifier : String} :
    Contract (Framed s) (get_job surroundings identifier)
      (fun job t => Framed s t ∧ Stored t job) fun _ => Framed s where
  returns hs h := by
    obtain rfl := readOnly_get_job identifier _ _ _ h
    obtain ⟨row, hrow, hjob⟩ := WorkflowStore.job?_eq_some.mp (get_job_ok h)
    refine ⟨hs, row, ?_, by rw [hjob], by rw [hjob]⟩
    rw [WorkflowStore.identifier_of_job? (get_job_ok h), hrow]
  fails hs h := readOnly_get_job identifier _ _ _ h ▸ hs

lemma frame_list_jobs :
    Contract (Framed s) (list_jobs surroundings)
      (fun jobs t => Framed s t ∧ ∀ job ∈ jobs, Stored t job) fun _ => Framed s where
  returns hs h := by
    obtain rfl := readOnly_list_jobs _ _ _ h
    obtain rfl := list_jobs_ok h
    refine ⟨hs, fun job hjob => ?_⟩
    obtain ⟨row, hrow, heq⟩ :=
      WorkflowStore.job?_eq_some.mp (WorkflowStore.mem_sorted_jobs.mp hjob)
    exact ⟨row, hrow, by rw [heq], by rw [heq]⟩
  fails hs h := readOnly_list_jobs _ _ _ h ▸ hs

/-- A change keeps the frame, and every stored job stored. -/
lemma frame_change {changes : JobSnapshot → JobSnapshot} (jobs : List JobSnapshot)
    (hkeeps : KeepsJob changes job) :
    Contract (fun t => (Framed s t ∧ Stored t job) ∧ ∀ other ∈ jobs, Stored t other)
      (change surroundings job changes mutation)
      (fun _ t => Framed s t ∧ ∀ other ∈ jobs, Stored t other) fun _ => Framed s where
  returns hs h := by
    have hframed := framed_change hkeeps hs.1.2 h
    exact ⟨hs.1.1.trans hframed, fun other hother => (hs.2 other hother).of_framed hframed⟩
  fails hs h := eq_of_error h (atomic_change _ _ _) ▸ hs.1.1

lemma frame_change_job {changes : JobSnapshot → JobSnapshot} (hkeeps : KeepsJob changes job) :
    Contract (fun t => Framed s t ∧ Stored t job) (change surroundings job changes mutation)
      (fun _ => Framed s) fun _ => Framed s :=
  (frame_change [] hkeeps).mono (fun _ h => ⟨h, by simp⟩) (fun _ _ h => h.1)
    fun _ _ => id

/-! ### Submissions -/

/-- The saved jobs keep all of their rows. -/
def Untouched (s t : WorkspaceJobService) : Prop :=
  ∀ key row, s.store.jobs.get? key = some row → t.store.jobs.get? key = some row

/-- What a submission that keeps no secrets leaves. -/
def Submitted (s t : WorkspaceJobService) : Prop :=
  Framed s t ∧ Untouched s t

lemma Submitted.refl (s : WorkspaceJobService) : Submitted s s :=
  ⟨.refl s, fun _ _ => id⟩

lemma Submitted.trans (h : Submitted s t) (h' : Submitted t u) : Submitted s u :=
  ⟨h.1.trans h'.1, fun key row hrow => h'.2 key row (h.2 key row hrow)⟩

lemma submitted_guard {α : Type} {x : Section α} (hx : ReadOnly x) :
    Transaction.Keeps (Submitted s) x :=
  .of_readOnly hx fun _ _ => id

lemma submitted_unless_replayed {identifier print : String} {accept : Section JobSnapshot}
    (haccept : Transaction.Keeps (Submitted s) accept) :
    Transaction.Keeps (Submitted s) (unless_replayed surroundings identifier print accept) := by
  refine (submitted_guard readOnly_read).bind fun service => ?_
  refine (submitted_guard (readOnly_lift _)).bind fun previous => ?_
  cases previous with
  | none => exact haccept
  | some job => exact .pure fun _ => id

/-- A new job that is no encode or decode job. -/
lemma submitted_save {snapshot : JobSnapshot} {request : StoredRequest}
    (hmatches : ∀ saved, saved.operation = snapshot.operation →
      saved.frozen_settings = snapshot.frozen_settings →
        ({ snapshot := saved, request } : JobRow).Matches)
    (hother : ∀ record, request ≠ .inference record)
    (h : save surroundings snapshot (some request) mutation s = (.ok saved, t)) : Submitted s t := by
  obtain ⟨rfl, ⟨store, rfl⟩, store', hwrite, hrows⟩ := save_rows h
  obtain ⟨hnone, hlookup⟩ := insert_job_rows hwrite
  change store.jobs = store'.jobs at hrows
  rw [← hrows] at hlookup
  have huntouched : Untouched s { s with store } := by
    intro key row hrow
    change store.jobs.get? key = some row
    rw [hlookup, if_neg, hrow]
    rintro rfl
    exact absurd (hnone.symm.trans hrow) (by simp)
  refine ⟨⟨⟨fun key row hrow => ⟨row, huntouched key row hrow, .refl row⟩,
    fun key row' hfree hrow' => ?_⟩, rfl, rfl, rfl⟩, huntouched⟩
  · change store.jobs.get? key = some row' at hrow'
    rw [hlookup] at hrow'
    split_ifs at hrow' with hkey
    · obtain rfl := Option.some_inj.mp hrow'
      exact ⟨hmatches _ rfl rfl, hother⟩
    · exact absurd (hfree.symm.trans hrow') (by simp)

lemma submitted_submit {workspace : Workspace} {uuid4 : String} {request : WorkflowRequest} :
    Transaction.Keeps (Submitted s) (submit surroundings fingerprint workspace uuid4 request) := by
  refine submitted_unless_replayed ?_
  refine (submitted_guard readOnly_refuse_closing).bind fun _ => ?_
  refine (submitted_guard (readOnly_request_settings _ _)).bind fun settings => ?_
  refine (submitted_guard (readOnly_lift _)).bind fun _ => ?_
  constructor
  · intro t saved u ht h
    refine ht.trans (submitted_save (fun saved hoperation _ => ⟨hoperation, ?_⟩) ?_ h)
    · exact fun record hrecord => absurd hrecord (by simp)
    · simp
  · exact fun ht h => eq_of_error h (atomic_save _ _ _) ▸ ht

lemma submitted_submit_fetch {dataset_uploads : UploadReading} {uuid4 : String}
    {request : DatasetFetchRequest} :
    Transaction.Keeps (Submitted s)
      (submit_fetch surroundings fingerprint dataset_uploads uuid4 request) := by
  refine submitted_unless_replayed ?_
  refine (submitted_guard readOnly_read).bind fun service => ?_
  refine (submitted_guard (readOnly_lift _)).bind fun _ => ?_
  refine (submitted_guard (readOnly_lift _)).bind fun _ => ?_
  refine (submitted_guard (readOnly_lift _)).bind fun _ => ?_
  refine (submitted_guard readOnly_list_jobs).bind fun jobs => ?_
  refine (submitted_guard (readOnly_lift _)).bind fun _ => ?_
  constructor
  · intro t saved u ht h
    refine ht.trans (submitted_save (fun saved hoperation _ => ⟨hoperation, ?_⟩) ?_ h)
    · exact fun record hrecord => absurd hrecord (by simp)
    · simp
  · exact fun ht h => eq_of_error h (atomic_save _ _ _) ▸ ht

/-! ### Startup and shutdown -/

lemma frame_read : Contract (Framed s) (Transaction.read : Section WorkspaceJobService)
    (fun service t => service = t ∧ Framed s t) fun _ => Framed s :=
  .read fun _ h => ⟨rfl, h⟩

/-- Replacing other fields of what was read. -/
lemma frame_write {service service' : WorkspaceJobService} (hstore : service'.store = service.store)
    (hsteady : Steady service service') :
    Contract (fun t => service = t ∧ Framed s t) (Transaction.write service' : Section Unit)
      (fun _ => Framed s) fun _ => Framed s :=
  .write fun _ h => (h.1 ▸ h.2).trans (.of_eq hstore hsteady)

lemma frame_interrupt (jobs : List JobSnapshot) :
    Contract (fun t => (Framed s t ∧ Stored t job) ∧ ∀ other ∈ jobs, Stored t other)
      (interrupt surroundings job) (fun _ t => Framed s t ∧ ∀ other ∈ jobs, Stored t other)
      fun _ => Framed s :=
  frame_change jobs ⟨rfl, rfl, rfl⟩

lemma frame_interrupt_unfinished (jobs : List JobSnapshot) :
    Contract (fun t => Framed s t ∧ ∀ job ∈ jobs, Stored t job)
      (interrupt_unfinished surroundings jobs) (fun _ => Framed s) fun _ => Framed s := by
  induction jobs with
  | nil => exact .pure fun _ h => h.1
  | cons job jobs ih =>
    refine .ite (fun _ => ?_) fun _ => ?_
    · refine Contract.bind ((frame_interrupt jobs).strengthen fun t ht => ?_) fun _ => ih
      obtain ⟨hjob, hjobs⟩ := List.forall_mem_cons.mp ht.2
      exact ⟨⟨ht.1, hjob⟩, hjobs⟩
    · exact ih.strengthen fun t ht => ⟨ht.1, (List.forall_mem_cons.mp ht.2).2⟩

/-- The end of a start is the birth of the thread. -/
lemma frame_start {owned : Bool} : Contract (Framed s) (start surroundings owned)
    (fun _ t => KeepsRows s t ∧ t.inference = s.inference ∧ t.closing = s.closing ∧
      t.thread = .checking) fun _ => Framed s := by
  refine (frame_guard (readOnly_lift _) fun _ => id).bind fun _ => ?_
  refine frame_read.bind fun service =>
    Contract.bind (frame_write (by rfl) (by exact ⟨rfl, rfl, rfl⟩)) fun _ => ?_
  refine frame_list_jobs.bind fun jobs => (frame_interrupt_unfinished jobs).bind fun _ => ?_
  refine frame_read.bind fun service => .write fun _ h => ?_
  obtain ⟨rfl, hframed⟩ := h
  exact ⟨hframed.rows.trans (.of_eq rfl), hframed.steady.inference, hframed.steady.closing, rfl⟩

lemma frame_request_stop : KeepsFrame s (request_stop surroundings) := by
  refine (frame_guard readOnly_read fun _ => id).bind fun service => ?_
  cases service.active_identifier with
  | none => exact .pure fun _ => id
  | some identifier =>
    refine frame_get_job.bind fun job => .ite (fun _ => ?_) fun _ => .pure fun _ h => h.1
    exact (frame_change_job ⟨rfl, rfl, rfl⟩).bind fun _ => .pure fun _ => id

lemma frame_reconcile : KeepsFrame s (reconcile surroundings) := by
  refine (frame_guard readOnly_read fun _ => id).bind fun service => ?_
  exact .ite (fun _ => frame_list_jobs.bind frame_interrupt_unfinished) fun _ => .pure fun _ => id

/-! ### The scheduler -/

lemma frame_next_job {proof_busy : Except Raised Bool} :
    KeepsFrame s (next_job surroundings proof_busy) := by
  refine (frame_guard (readOnly_lift _) fun _ => id).bind fun proof_locked => ?_
  refine frame_list_jobs.bind fun jobs => ?_
  cases hfind : jobs.find? (schedulable proof_locked) with
  | none => exact .pure fun _ h => h.1
  | some queued =>
    have hmem : queued ∈ jobs := List.mem_of_find?_eq_some hfind
    refine Contract.bind (Q := fun _ => Framed s) ?_ fun _ => .pure fun _ => id
    refine Contract.bind ((frame_change_job ⟨rfl, rfl, rfl⟩).strengthen fun t ht => ?_) fun _ => ?_
    · exact ⟨ht.1, ht.2 queued hmem⟩
    · exact frame_read.bind fun service => frame_write rfl ⟨rfl, rfl, rfl⟩

lemma keepsJob_report_changes (steps : ℕ) (report : Report) (job : JobSnapshot) :
    KeepsJob (report_changes steps report) job := by
  cases report with
  | training step => exact ⟨rfl, rfl, rfl⟩
  | fetch record => exact ⟨rfl, rfl, rfl⟩
  | inference phase => exact ⟨rfl, rfl, rfl⟩

lemma frame_report_progress {identifier : String} {steps : ℕ} {report : Report} :
    KeepsFrame s (report_progress surroundings identifier steps report) := by
  refine (frame_guard (readOnly_refuse_report report) fun _ => id).bind fun _ => ?_
  refine frame_get_job.bind fun job => ?_
  refine Contract.bind (frame_change_job (keepsJob_report_changes steps report job)) fun _ => ?_
  exact .pure fun _ => id

lemma keepsJob_stopped_changes {closing : Bool} {changes : JobSnapshot → JobSnapshot}
    (h : stopped_changes closing job = some changes) : KeepsJob changes job := by
  unfold stopped_changes at h
  split_ifs at h
  · obtain rfl := Option.some_inj.mp h
    exact ⟨rfl, rfl, rfl⟩
  · obtain rfl := Option.some_inj.mp h
    exact ⟨rfl, rfl, rfl⟩
  · obtain rfl := Option.some_inj.mp h
    exact ⟨rfl, rfl, rfl⟩

lemma keepsJob_fetch_changes {closing : Bool} {ended : WorkerExit ⊕ ApplicationFailure}
    {changes : JobSnapshot → JobSnapshot} (h : fetch_changes closing job ended = .ok changes) :
    KeepsJob changes job := by
  unfold fetch_changes exit_changes at h
  split at h
  · split_ifs at h
    · obtain rfl := Except.ok.inj h
      exact ⟨rfl, rfl, rfl⟩
    · split at h
      · simp [fail] at h
      · next hstopped =>
        obtain rfl := Except.ok.inj h
        exact keepsJob_stopped_changes hstopped
    · simp [fail] at h
  · split at h
    · simp at h
    · next hstopped =>
      obtain rfl := Except.ok.inj h
      exact keepsJob_stopped_changes hstopped

lemma frame_finish_run {identifier : String} {request : StoredRequest} {exit : Outcome} :
    KeepsFrame s (finish_run surroundings identifier request exit) := by
  cases request with
  | workflow request =>
    refine (frame_guard (readOnly_lift _) fun _ => id).bind fun worker => ?_
    refine (frame_guard (readOnly_lift _) fun _ => id).bind fun published => ?_
    refine frame_get_job.bind fun job => ?_
    exact (frame_change_job ⟨rfl, rfl, rfl⟩).bind fun _ => .pure fun _ => id
  | fetch request =>
    refine (frame_guard (readOnly_lift _) fun _ => id).bind fun ended => ?_
    refine (frame_guard readOnly_read fun _ => id).bind fun service => ?_
    refine frame_get_job.bind fun job => ?_
    refine Contract.bind (Q := fun changes t => KeepsJob changes job ∧ Framed s t ∧ Stored t job)
      (.lift (fun _ h _ ht => ⟨keepsJob_fetch_changes h, ht⟩) fun _ _ _ h => h.1) fun changes => ?_
    exact .assume fun hkeeps => (frame_change_job hkeeps).bind fun _ => .pure fun _ => id
  | inference record =>
    refine (frame_guard (readOnly_lift _) fun _ => id).bind fun result => ?_
    refine frame_get_job.bind fun job => ?_
    exact (frame_change_job ⟨rfl, rfl, rfl⟩).bind fun _ => .pure fun _ => id

lemma frame_report_failure {identifier reference : String} {failure : Raised} :
    KeepsFrame s (report_failure surroundings identifier reference failure) := by
  refine frame_get_job.bind fun job => ?_
  refine (frame_guard readOnly_read fun _ h => h.1).bind fun service => ?_
  refine .ite (fun _ => ?_) fun _ => ?_
  · exact (frame_change_job ⟨rfl, rfl, rfl⟩).bind fun _ => .pure fun _ => id
  · exact (frame_change_job ⟨rfl, rfl, rfl⟩).bind fun _ => .pure fun _ => id

/-! ### Steps -/

lemma of_keeps {α : Type} {P : WorkspaceJobService → Prop} {x : Section α}
    {outcome : Except Raised α} (hx : Transaction.Keeps P x) (hs : P s) (h : x s = (outcome, t)) :
    P t := by
  cases outcome with
  | ok a => exact hx.returns hs h
  | error raised => exact hx.fails hs h

lemma framed_of_keeps {α : Type} {x : Section α} {outcome : Except Raised α}
    (hx : KeepsFrame s x) (h : x s = (outcome, t)) : Framed s t :=
  of_keeps hx (.refl s) h

lemma framed_begin_cleanup {outcome : Except Raised Unit}
    (h : begin_cleanup surroundings s = (outcome, t)) : Framed s t := by
  refine framed_of_keeps ?_ h
  refine (frame_guard readOnly_require_storage fun _ => id).bind fun _ => ?_
  refine (frame_guard readOnly_list_jobs fun _ => id).bind fun jobs => ?_
  refine (frame_guard (readOnly_lift _) fun _ => id).bind fun _ => ?_
  refine frame_read.bind fun service => (frame_guard (readOnly_lift _) fun _ h => h.2).bind fun _ => ?_
  exact frame_write rfl ⟨rfl, rfl, rfl⟩

lemma settle_steady (outcome : Except Raised Unit) (service : WorkspaceJobService) :
    (settle outcome service).store = service.store ∧
      (settle outcome service).inference = service.inference ∧
      (settle outcome service).thread = service.thread ∧
      (service.closing = true → (settle outcome service).closing = true) := by
  cases outcome with
  | ok _ => exact ⟨rfl, rfl, rfl, id⟩
  | error _ => exact ⟨rfl, rfl, rfl, fun _ => rfl⟩

/-- The steps that hand secrets in or out, or forget them. -/
def Event.secretive : Event → Bool
  | .submit_inference .. => true
  | .action .. => true
  | .begin_run .. => true
  | .crash _ => true
  | _ => false

/-- The thread is born checking, does not vanish, and takes the secrets of a job that it starts. -/
structure Proceeds (thread thread' : Scheduler) : Prop where
  born : thread = .absent → thread' = .absent ∨ thread' = .checking
  stays : thread' = .absent → thread = .absent
  starts : ∀ identifier, thread = .starting identifier → thread' = thread

lemma Proceeds.refl (thread : Scheduler) : Proceeds thread thread :=
  ⟨Or.inl, id, fun _ _ => rfl⟩

/-- A thread that is neither absent nor about to start a job. -/
lemma Proceeds.of_busy {thread thread' : Scheduler} (habsent : thread ≠ .absent)
    (hstarting : ∀ identifier, thread ≠ .starting identifier) (hthread' : thread' ≠ .absent) :
    Proceeds thread thread' :=
  ⟨fun h => absurd h habsent, fun h => absurd h hthread', fun id h => absurd h (hstarting id)⟩

/-- What a step without secrets does to the rows, the secrets, the flag and the thread. -/
structure StepFrame (s t : WorkspaceJobService) : Prop where
  rows : KeepsRows s t
  inference : t.inference = s.inference
  closing : s.closing = true → t.closing = true
  thread : Proceeds s.thread t.thread

lemma StepFrame.of_framed (h : Framed s t) : StepFrame s t :=
  ⟨h.rows, h.steady.inference, fun hclosing => h.steady.closing.trans hclosing,
    h.steady.thread ▸ .refl _⟩

/-- A section whose thread goes on elsewhere. -/
lemma StepFrame.of_moved (h : Framed s t) {thread : Scheduler} (hthread : Proceeds s.thread thread) :
    StepFrame s { t with thread } :=
  ⟨h.rows.trans (.of_eq rfl), h.steady.inference, fun hclosing => h.steady.closing.trans hclosing,
    hthread⟩

lemma StepFrame.of_settled (h : Framed s t) {outcome : Except Raised Unit} {closer : Closer} :
    StepFrame s { settle outcome t with closer } := by
  obtain ⟨hstore, hinference, hthread, hclosing⟩ := settle_steady outcome t
  refine ⟨h.rows.trans (.of_eq hstore), hinference.trans h.steady.inference,
    fun hs => hclosing (h.steady.closing.trans hs), ?_⟩
  change Proceeds s.thread (settle outcome t).thread
  rw [hthread, h.steady.thread]
  exact .refl _

lemma after_raise_ne_absent (identifier : String) (raised : Raised) :
    after_raise identifier raised ≠ .absent := by
  cases raised with
  | application failure =>
    rw [after_raise]
    split_ifs <;> simp
  | value_error => simp [after_raise]
  | os_error => simp [after_raise]

theorem Step.frame (h : Step fingerprint s e t) (he : e.secretive = false) : StepFrame s t := by
  have hflags : ∀ {t : WorkspaceJobService}, t.store = s.store → t.inference = s.inference →
      (s.closing = true → t.closing = true) → Proceeds s.thread t.thread → StepFrame s t :=
    fun hstore hinference hclosing hthread => ⟨.of_eq hstore, hinference, hclosing, hthread⟩
  cases h with
  | submit h => exact .of_framed (of_keeps submitted_submit (.refl s) h).1
  | submit_fetch h => exact .of_framed (of_keeps submitted_submit_fetch (.refl s) h).1
  | submit_inference => exact absurd he (by simp [Event.secretive])
  | action => exact absurd he (by simp [Event.secretive])
  | begin_cleanup h => exact .of_framed (framed_begin_cleanup h)
  | end_cleanup => exact hflags rfl rfl id (.refl _)
  | @start _ _ _ outcome hthread _ _ h =>
    cases outcome with
    | error raised => exact .of_framed (frame_start.fails (.refl s) h)
    | ok _ =>
      obtain ⟨hrows, hinference, hclosing, hborn⟩ := frame_start.returns (.refl s) h
      refine ⟨hrows, hinference, fun hs => hclosing.trans hs, fun _ => Or.inr hborn,
        fun _ => hthread, fun id hid => ?_⟩
      rw [hthread] at hid
      exact absurd hid (by simp)
  | check hthread =>
    refine hflags rfl rfl id (.of_busy (by simp [hthread]) (by simp [hthread]) ?_)
    cases s.closing <;> simp
  | @poll _ _ _ outcome hthread h =>
    refine .of_moved (framed_of_keeps frame_next_job h)
      (.of_busy (by simp [hthread]) (by simp [hthread]) ?_)
    rcases outcome with raised | _ | queued <;> simp [after_poll]
  | @maintain raised hthread =>
    refine hflags rfl rfl id (.of_busy (by simp [hthread]) (by simp [hthread]) ?_)
    cases raised <;> simp
  | begin_run => exact absurd he (by simp [Event.secretive])
  | @report _ _ _ identifier request outcome hthread _ h =>
    refine .of_moved (framed_of_keeps frame_report_progress h)
      (.of_busy (by simp [hthread]) (by simp [hthread]) ?_)
    rcases outcome with (failure | _ | _) | _
    · exact after_raise_ne_absent identifier (.application failure)
    · simp [after_report]
    · simp [after_report]
    · simp [after_report]
  | @finish _ _ _ identifier _ outcome hthread h =>
    refine .of_moved (framed_of_keeps frame_finish_run h)
      (.of_busy (by simp [hthread]) (by simp [hthread]) ?_)
    cases outcome with
    | error raised => exact after_raise_ne_absent identifier raised
    | ok _ => simp [after_finish]
  | @report_failure _ _ _ _ _ outcome hthread h =>
    refine .of_moved (framed_of_keeps frame_report_failure h)
      (.of_busy (by simp [hthread]) (by simp [hthread]) ?_)
    cases outcome <;> simp [after_report_failure]
  | @release _ halt hthread =>
    refine hflags rfl rfl id (.of_busy (by simp [hthread]) (by simp [hthread]) ?_)
    cases halt <;> simp
  | halt hthread =>
    exact hflags rfl rfl (fun _ => rfl) (.of_busy (by simp [hthread]) (by simp [hthread]) (by simp))
  | begin_close => exact hflags rfl rfl (fun _ => rfl) (.refl _)
  | request_stop _ h => exact .of_settled (framed_of_keeps frame_request_stop h)
  | join => exact hflags rfl rfl id (.refl _)
  | reconcile _ h => exact .of_settled (framed_of_keeps frame_reconcile h)
  | release_ownership =>
    unfold StegoLab.release_ownership
    split <;> exact hflags rfl rfl id (.refl _)
  | crash => exact absurd he (by simp [Event.secretive])

end StegoLab

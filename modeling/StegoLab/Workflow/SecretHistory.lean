import StegoLab.Workflow.Secrets

/-!
# The life of secrets

In every state of an open application, the stored secrets are those of the queued jobs and of a
running one that has not taken them yet, and no secrets are handed out twice.
-/

namespace StegoLab

open CanonicalJson Transaction

variable {fingerprint : Json → String} {s t : WorkspaceJobService} {e : Event}
  {handed : List String}

/-! ### The history -/

/-- Requests are served once the application has started, and admitted by the checks of an image
and a model. -/
structure Serves (s : WorkspaceJobService) (e : Event) : Prop where
  started : e.request ≠ none → s.thread ≠ .absent
  admission : ∀ surroundings digest admission uuid4 request,
    e = .submit_inference surroundings digest admission uuid4 request →
      ∃ reading, admission = admit_inference reading request

/-- The job whose secrets a step hands to the runner. -/
def handed_out (s t : WorkspaceJobService) : List String :=
  match s.thread, t.thread with
  | .starting identifier, .executing _ (.inference _) => [identifier]
  | _, _ => []

/-- A step of the system, with the jobs whose secrets have been handed out so far. -/
def HandedStep (fingerprint : Json → String) (s : WorkspaceJobService × List String) (e : Event)
    (t : WorkspaceJobService × List String) : Prop :=
  Step fingerprint s.1 e t.1 ∧ Serves s.1 e ∧ t.2 = s.2 ++ handed_out s.1 t.1

/-! ### The invariant -/

/-- The stored secrets match the jobs, the thread, and what has been handed out. -/
structure Entrusted (s : WorkspaceJobService) (handed : List String) : Prop where
  capacity : ∀ inference, s.inference = some inference →
    inference.capacity = MAXIMUM_INFERENCE_JOBS ∧
      inference.entries.entries.length ≤ MAXIMUM_INFERENCE_JOBS
  rows : ∀ key row, s.store.jobs.get? key = some row → row.Matches
  absent : s.thread = .absent → ∀ key, s.secrets? key = none
  shutdown : s.closer ≠ .serving → s.closing = true
  held : ∀ key, s.thread.holds = some key → ∃ job, s.store.job? key = some job ∧
    (is_inference job = true → job.status ≠ .queued)
  taken : s.closing = false → ∀ key, s.thread.holds = some key → s.thread ≠ .starting key →
    s.secrets? key = none
  stored : s.closing = false → ∀ key, s.secrets? key ≠ none →
    ∃ job, s.store.job? key = some job ∧ is_waiting job = true
  queued : s.closing = false → s.thread ≠ .absent → ∀ key job, s.store.job? key = some job →
    is_inference job = true → job.status = .queued → s.secrets? key ≠ none
  spent : ∀ key ∈ handed, s.secrets? key = none ∧ s.store.jobs.get? key ≠ none
  nodup : handed.Nodup

lemma entrusted_initial : Entrusted {} [] where
  capacity inference h := absurd h (by simp)
  rows key row h := absurd h (by simp [WorkflowStore.created])
  absent _ _ := rfl
  shutdown h := absurd rfl h
  held key h := absurd h (by simp [Scheduler.holds])
  taken _ key h := absurd h (by simp [Scheduler.holds])
  stored _ key h := absurd rfl h
  queued _ h := absurd rfl h
  spent key h := absurd h List.not_mem_nil
  nodup := List.nodup_nil

lemma KeepsRows.matches (h : KeepsRows s t)
    (hs : ∀ key row, s.store.jobs.get? key = some row → row.Matches) {key : String} {row : JobRow}
    (hrow : t.store.jobs.get? key = some row) : row.Matches := by
  cases hbefore : s.store.jobs.get? key with
  | none => exact (h.added key row hbefore hrow).1
  | some row' =>
    obtain ⟨_, hafter, hsame⟩ := h.kept key row' hbefore
    obtain rfl := Option.some_inj.mp (hafter.symm.trans hrow)
    exact (hs key row' hbefore).of_same hsame

lemma KeepsRows.present (h : KeepsRows s t) {key : String} (hs : s.store.jobs.get? key ≠ none) :
    t.store.jobs.get? key ≠ none := by
  obtain ⟨row, hrow⟩ := Option.ne_none_iff_exists'.mp hs
  obtain ⟨row', hrow', -⟩ := h.kept key row hrow
  rw [hrow']
  simp

lemma job?_ne_none {store : WorkflowStore} {key : String} :
    store.job? key ≠ none ↔ store.jobs.get? key ≠ none := by
  unfold WorkflowStore.job?
  rw [Ne, Option.map_eq_none_iff]

/-- The thread takes up a job only when it starts it. -/
lemma Effect.holds (h : Effect fingerprint s e t) {key : String}
    (hholds : t.thread.holds = some key) :
    s.thread.holds = some key ∨
      t.thread = .starting key ∧ ∃ job, t.store.job? key = some job ∧ job.status = .running := by
  have hcontrol : Control s t → s.thread.holds = some key := by
    intro hcontrol
    rcases hcontrol.holds with hnone | hsame
    · exact absurd (hnone.symm.trans hholds) (by simp)
    · exact hsame.symm.trans hholds
  cases h with
  | unchanged _ hc => exact Or.inl (hcontrol hc)
  | created _ _ _ _ hc => exact Or.inl (hcontrol hc)
  | acted _ _ _ _ _ hc => exact Or.inl (hcontrol hc)
  | marked _ _ _ _ _ hc => exact Or.inl (hcontrol hc)
  | @claimed _ snapshot _ _ hjob _ hsaved _ hstatus hthread =>
    rw [hthread] at hholds
    obtain rfl : snapshot.job_identifier = key := Option.some_inj.mp hholds
    exact Or.inr ⟨hthread, snapshot, by rw [hsaved.job?_eq hjob, if_pos rfl], hstatus⟩
  | finished _ _ _ _ _ _ _ hthread =>
    rw [hthread] at hholds
    exact absurd hholds (by simp [Scheduler.holds])
  | failed _ _ _ _ _ _ hthread =>
    rw [hthread] at hholds
    exact absurd hholds (by simp [Scheduler.holds])
  | interrupted _ _ hphase =>
    rcases hphase with ⟨-, habsent | ⟨hchecking, -⟩⟩ | ⟨-, -, hsame, -⟩
    · rw [habsent] at hholds
      exact absurd hholds (by simp [Scheduler.holds])
    · rw [hchecking] at hholds
      exact absurd hholds (by simp [Scheduler.holds])
    · exact Or.inl (hsame ▸ hholds)

/-- A thread that is born finds no unfinished job. -/
lemma Effect.born (h : Effect fingerprint s e t) (hrequest : e.request = none)
    (habsent : s.thread = .absent) (hchecking : t.thread = .checking) {job : JobSnapshot}
    (hjob : job ∈ t.store.sorted_jobs) : unfinished job = false := by
  have hmutation : e.mutation fingerprint = none := by rw [Event.mutation, hrequest]; rfl
  have hcontrol : ¬ Control s t := by
    intro hcontrol
    have hidle := hcontrol.idle (by rw [hchecking]; rfl)
    rw [habsent] at hidle
    exact absurd hidle (by simp [Scheduler.idle])
  cases h with
  | unchanged _ hc => exact absurd hc hcontrol
  | created hmutation' => exact absurd (hmutation.symm.trans hmutation') (by simp)
  | acted hmutation' => exact absurd (hmutation.symm.trans hmutation') (by simp)
  | marked _ _ _ _ _ hc => exact absurd hc hcontrol
  | claimed _ hidle =>
    rw [habsent] at hidle
    exact absurd hidle (by simp [Scheduler.idle])
  | finished _ hthread =>
    rw [habsent] at hthread
    exact absurd hthread (by simp)
  | failed _ hholds =>
    rw [habsent] at hholds
    exact absurd hholds (by simp [Scheduler.holds])
  | interrupted _ _ hphase =>
    rcases hphase with ⟨-, hnone | ⟨-, hdone⟩⟩ | ⟨-, -, hsame, -⟩
    · rw [hchecking] at hnone
      exact absurd hnone (by simp)
    · exact hdone job hjob
    · rw [hsame, habsent] at hchecking
      exact absurd hchecking (by simp)

lemma Effect.shutdown (h : Effect fingerprint s e t) (hs : s.closer ≠ .serving → s.closing = true)
    (ht : t.closer ≠ .serving) : t.closing = true := by
  have hshutdown : Shutdown s t := by
    cases h with
    | unchanged _ hc => exact hc.shutdown
    | created _ _ _ _ hc => exact hc.shutdown
    | acted _ _ _ _ _ hc => exact hc.shutdown
    | marked _ _ _ _ _ hc => exact hc.shutdown
    | claimed _ _ _ _ _ _ _ _ hshutdown => exact hshutdown
    | finished _ _ _ _ _ _ _ _ hshutdown => exact hshutdown
    | failed _ _ _ _ _ _ _ hshutdown => exact hshutdown
    | interrupted _ _ _ hshutdown => exact hshutdown
  rcases hshutdown ht with ⟨hbefore, hkept⟩ | hclosing
  · exact hkept (hs hbefore)
  · exact hclosing

/-! ### Steps -/

section Steps

lemma secrets?_of_eq (h : t.inference = s.inference) (key : String) :
    t.secrets? key = s.secrets? key := by
  rw [WorkspaceJobService.secrets?, h, WorkspaceJobService.secrets?]

/-- A step that is no request and leaves the secrets alone. -/
lemma Entrusted.of_frame (h : Entrusted s handed) (hframe : StepFrame s t)
    (heffect : Effect fingerprint s e t) (hrequest : e.request = none)
    (hcloser : t.closer ≠ .serving → t.closing = true) : Entrusted t handed where
  capacity := hframe.inference ▸ h.capacity
  rows _ _ := hframe.rows.matches h.rows
  absent habsent key := by
    rw [secrets?_of_eq hframe.inference, h.absent (hframe.thread.stays habsent)]
  shutdown := hcloser
  held key hholds := by
    rcases heffect.holds hholds with hs | ⟨-, job, hjob, hrunning⟩
    · obtain ⟨job, hjob, hqueued⟩ := h.held key hs
      have hpresent : t.store.job? key ≠ none := job?_ne_none.mpr
        (hframe.rows.present (job?_ne_none.mp (by simp [hjob])))
      obtain ⟨job', hjob'⟩ := Option.ne_none_iff_exists'.mp hpresent
      refine ⟨job', hjob', fun his hstatus => ?_⟩
      obtain ⟨before, hbefore, hwaiting, hcame⟩ := heffect.came_from hframe.rows hjob'
        (is_waiting_eq.mpr ⟨his, Or.inl hstatus⟩)
      obtain rfl := Option.some_inj.mp (hbefore.symm.trans hjob)
      rcases hcame with hsame | ⟨-, hrunning⟩
      · exact hqueued (is_waiting_eq.mp hwaiting).1 (hsame.symm.trans hstatus)
      · rw [hstatus] at hrunning
        exact absurd hrunning (by decide)
    · exact ⟨job, hjob, fun _ hqueued => by
        rw [hrunning] at hqueued
        exact absurd hqueued (by decide)⟩
  taken hopen key hholds hne := by
    have hopen' : s.closing = false := Bool.eq_false_iff.mpr fun hclosing =>
      absurd (hframe.closing hclosing) (by simp [hopen])
    rw [secrets?_of_eq hframe.inference]
    rcases heffect.holds hholds with hs | ⟨hstarting, -⟩
    · refine h.taken hopen' key hs fun hstarting => hne ?_
      rw [hframe.thread.starts key hstarting, hstarting]
    · exact absurd hstarting hne
  stored hopen key hsecrets := by
    rw [secrets?_of_eq hframe.inference] at hsecrets
    have hopen' : s.closing = false := Bool.eq_false_iff.mpr fun hclosing =>
      absurd (hframe.closing hclosing) (by simp [hopen])
    obtain ⟨job, hjob, hwaiting⟩ := h.stored hopen' key hsecrets
    refine heffect.goes_on hrequest hjob hwaiting (fun hholds => ?_) (fun habsent => ?_) ?_
    · have hstarting : s.thread = .starting key :=
        not_not.mp fun hne => hsecrets (h.taken hopen' key hholds hne)
      exact hframe.thread.starts key hstarting
    · exact hsecrets (h.absent habsent key)
    · exact not_not.mp fun hne => absurd (h.shutdown hne) (by simp [hopen'])
  queued hopen hpresent key job hjob his hstatus := by
    rw [secrets?_of_eq hframe.inference]
    have hopen' : s.closing = false := Bool.eq_false_iff.mpr fun hclosing =>
      absurd (hframe.closing hclosing) (by simp [hopen])
    by_cases habsent : s.thread = .absent
    · have hchecking := (hframe.thread.born habsent).resolve_left hpresent
      have hmem : job ∈ t.store.sorted_jobs := by
        rw [WorkflowStore.mem_sorted_jobs, WorkflowStore.identifier_of_job? hjob, hjob]
      have hdone := heffect.born hrequest habsent hchecking hmem
      exact absurd hdone (by simp [unfinished, hstatus])
    · obtain ⟨before, hbefore, hwaiting, hcame⟩ := heffect.came_from hframe.rows hjob
        (is_waiting_eq.mpr ⟨his, Or.inl hstatus⟩)
      refine h.queued hopen' habsent key before hbefore (is_waiting_eq.mp hwaiting).1 ?_
      rcases hcame with hsame | ⟨-, hrunning⟩
      · exact hsame.symm.trans hstatus
      · rw [hstatus] at hrunning
        exact absurd hrunning (by decide)
  spent key hkey := by
    obtain ⟨hnone, hpresent⟩ := h.spent key hkey
    exact ⟨by rw [secrets?_of_eq hframe.inference, hnone], hframe.rows.present hpresent⟩
  nodup := h.nodup

/-- A submission of another kind of job. -/
lemma Entrusted.of_submitted (h : Entrusted s handed) (hsubmitted : Submitted s t)
    (hcloser : t.closer ≠ .serving → t.closing = true) : Entrusted t handed := by
  obtain ⟨⟨hrows, hinference, hthread, hclosing⟩, huntouched⟩ := hsubmitted
  have hjobs : ∀ key job, s.store.job? key = some job → t.store.job? key = some job := by
    intro key job hjob
    obtain ⟨row, hrow, hrow_job⟩ := WorkflowStore.job?_eq_some.mp hjob
    exact WorkflowStore.job?_eq_some.mpr ⟨row, huntouched key row hrow, hrow_job⟩
  refine ⟨hinference ▸ h.capacity, fun _ _ => hrows.matches h.rows, fun habsent key => ?_,
    hcloser, fun key hholds => ?_, fun hopen key hholds hne => ?_,
    fun hopen key hsecrets => ?_, fun hopen hpresent key job hjob his hstatus => ?_, fun key hkey => ?_, h.nodup⟩
  · rw [secrets?_of_eq hinference, h.absent (hthread ▸ habsent)]
  · obtain ⟨job, hjob, hqueued⟩ := h.held key (hthread ▸ hholds)
    exact ⟨job, hjobs key job hjob, hqueued⟩
  · rw [secrets?_of_eq hinference]
    exact h.taken (hclosing ▸ hopen) key (hthread ▸ hholds) (hthread ▸ hne)
  · rw [secrets?_of_eq hinference] at hsecrets
    obtain ⟨job, hjob, hwaiting⟩ := h.stored (hclosing ▸ hopen) key hsecrets
    exact ⟨job, hjobs key job hjob, hwaiting⟩
  · rw [secrets?_of_eq hinference]
    refine h.queued (hclosing ▸ hopen) (hthread ▸ hpresent) key job ?_ his hstatus
    cases hbefore : s.store.job? key with
    | none =>
      obtain ⟨row, hrow, hrow_job⟩ := WorkflowStore.job?_eq_some.mp hjob
      obtain ⟨hmatches, hother⟩ := hrows.added key row (Option.map_eq_none_iff.mp hbefore) hrow
      obtain ⟨record, hrecord⟩ := hmatches.of_inference (hrow_job ▸ his)
      exact absurd hrecord (hother record)
    | some before => exact (hjobs key before hbefore).symm.trans hjob
  · obtain ⟨hnone, hpresent⟩ := h.spent key hkey
    exact ⟨by rw [secrets?_of_eq hinference, hnone], hrows.present hpresent⟩

/-- The stored secrets are at most as many as the waiting jobs. -/
lemma Entrusted.room (h : Entrusted s handed) (hopen : s.closing = false)
    {inference : InferenceSecretStore} (hinference : s.inference = some inference)
    (hroom : (s.store.sorted_jobs.filter is_waiting).length < MAXIMUM_INFERENCE_JOBS) :
    inference.entries.entries.length < inference.capacity := by
  have hsubset : inference.entries.entries.map Prod.fst ⊆
      (s.store.sorted_jobs.filter is_waiting).map JobSnapshot.job_identifier := by
    intro key hkey
    obtain ⟨entry, hentry, rfl⟩ := List.mem_map.mp hkey
    have hget : inference.entries.get? entry.1 = some entry.2 :=
      (Dict.lookup_eq_some_iff inference.entries.nodup_keys).mpr hentry
    have hsecrets : s.secrets? entry.1 ≠ none := by
      rw [WorkspaceJobService.secrets?, hinference, Option.bind_some, hget]
      simp
    obtain ⟨job, hjob, hwaiting⟩ := h.stored hopen entry.1 hsecrets
    have hidentifier := WorkflowStore.identifier_of_job? hjob
    refine List.mem_map.mpr ⟨job, List.mem_filter.mpr ⟨?_, hwaiting⟩, hidentifier⟩
    rw [WorkflowStore.mem_sorted_jobs, hidentifier, hjob]
  have hlength := (List.subperm_of_subset inference.entries.nodup_keys hsubset).length_le
  rw [List.length_map, List.length_map] at hlength
  rw [(h.capacity inference hinference).1]
  exact hlength.trans_lt hroom

/-- An accepted encode or decode job, with its secrets. -/
lemma Entrusted.of_put (h : Entrusted s handed) {saved : JobSnapshot} {record : InferenceJobRecord}
    {u : WorkspaceJobService} {inference : InferenceSecretStore} {secrets : Dict String}
    (hpresent : s.thread ≠ .absent) (hinference : s.inference = some inference)
    (hsaved : SavedInference s saved record u) :
    Entrusted { u with inference := some { inference with
      entries := inference.entries.insert saved.job_identifier secrets } } handed := by
  have hroom := h.room hsaved.closing hinference hsaved.room
  obtain ⟨hopen, -, hstatus, hmatches, ⟨store, rfl⟩, hfresh, hrows⟩ := hsaved
  have hcapacity := h.capacity inference hinference
  have hjobs : ∀ key, store.job? key = if key = saved.job_identifier then some saved
      else s.store.job? key := by
    intro key
    change (store.jobs.get? key).map JobRow.snapshot = _
    rw [show store.jobs.get? key = _ from hrows key]
    split_ifs <;> rfl
  have hsecrets : ∀ key, ({ s with
      store
      inference := some { inference with
        entries := inference.entries.insert saved.job_identifier secrets } } :
      WorkspaceJobService).secrets? key
        = if key = saved.job_identifier then some secrets else s.secrets? key := by
    intro key
    unfold WorkspaceJobService.secrets?
    rw [hinference]
    exact Dict.get?_insert ..
  have hnew : s.store.job? saved.job_identifier = none := Option.map_eq_none_iff.mpr hfresh
  refine ⟨fun inference' hinference' => ?_, fun key row hrow => ?_, fun habsent => ?_, h.shutdown,
    fun key hholds => ?_, fun _ key hholds hne => ?_, fun _ key hkey => ?_,
    fun _ _ key job hjob his hqueued => ?_, fun key hkey => ?_, h.nodup⟩
  · obtain rfl := Option.some_inj.mp hinference'
    refine ⟨hcapacity.1, (Dict.length_insert_entry_le ..).trans ?_⟩
    rw [hcapacity.1] at hroom
    exact hroom
  · rw [show store.jobs.get? key = _ from hrows key] at hrow
    split_ifs at hrow
    · obtain rfl := Option.some_inj.mp hrow
      exact hmatches
    · exact h.rows key row hrow
  · exact absurd habsent hpresent
  · obtain ⟨job, hjob, hqueued⟩ := h.held key hholds
    refine ⟨job, ?_, hqueued⟩
    rw [hjobs, if_neg, hjob]
    rintro rfl
    exact absurd (hnew.symm.trans hjob) (by simp)
  · rw [hsecrets, if_neg, h.taken hopen key hholds hne]
    rintro rfl
    obtain ⟨job, hjob, -⟩ := h.held _ hholds
    exact absurd (hnew.symm.trans hjob) (by simp)
  · rw [hsecrets] at hkey
    rw [hjobs]
    split_ifs at hkey ⊢ with heq
    · refine ⟨saved, rfl, is_waiting_eq.mpr ⟨?_, Or.inl hstatus⟩⟩
      have hallowed : record.operation = .encode ∨ record.operation = .decode := by
        simpa using record.allowed
      rw [is_inference, hmatches.operation]
      exact Bool.or_eq_true_iff.mpr (hallowed.imp decide_eq_true decide_eq_true)
    · exact h.stored hopen key hkey
  · rw [hjobs] at hjob
    rw [hsecrets]
    split_ifs at hjob ⊢ with heq
    · simp
    · exact h.queued hopen hpresent key job hjob his hqueued
  · obtain ⟨hnone, hkept⟩ := h.spent key hkey
    have hne : key ≠ saved.job_identifier := by
      rintro rfl
      exact hkept hfresh
    refine ⟨by rw [hsecrets, if_neg hne, hnone], ?_⟩
    rw [show store.jobs.get? key = _ from hrows key, if_neg hne]
    exact hkept

lemma discarded_secrets? {service : WorkspaceJobService} {identifier : String}
    (h : t.inference = service.inference.map fun inference => inference.discard identifier)
    (key : String) :
    t.secrets? key = if key = identifier then none else service.secrets? key := by
  unfold WorkspaceJobService.secrets?
  rw [h]
  cases service.inference with
  | none => simp
  | some inference => exact Dict.get?_erase ..

/-- Forgetting secrets keeps the bounds of the store. -/
lemma Entrusted.discarded_capacity (h : Entrusted s handed) {identifier : String}
    (hinference : t.inference = s.inference.map fun inference => inference.discard identifier)
    (inference : InferenceSecretStore) (heq : t.inference = some inference) :
    inference.capacity = MAXIMUM_INFERENCE_JOBS ∧
      inference.entries.entries.length ≤ MAXIMUM_INFERENCE_JOBS := by
  rw [hinference] at heq
  obtain ⟨before, hbefore, rfl⟩ := Option.map_eq_some_iff.mp heq
  obtain ⟨hcapacity, hlength⟩ := h.capacity before hbefore
  exact ⟨hcapacity, (List.length_filter_le ..).trans hlength⟩

/-- A user action; a cancelled job forgets its secrets. -/
lemma Entrusted.of_moved (h : Entrusted s handed) {job saved : JobSnapshot}
    (hmoved : Moved s job saved t) : Entrusted t handed := by
  obtain ⟨hrows, hsteady⟩ := hmoved.frame
  have hrows' : KeepsRows s t := hrows.trans (.of_eq rfl)
  have hthread : t.thread = s.thread := hsteady.thread
  have hclosing : t.closing = s.closing := hsteady.closing
  have hforget : ∀ key, s.secrets? key = none → t.secrets? key = none := by
    intro key hnone
    by_cases hcancelled : saved.status = .cancelled
    · rw [discarded_secrets? (hmoved.inference.trans (if_pos hcancelled)), hnone]
      simp
    · rw [secrets?_of_eq (hmoved.inference.trans (if_neg hcancelled)), hnone]
  -- The secrets that are left, and the job that they belong to.
  have hleft : ∀ key, t.secrets? key ≠ none → s.secrets? key ≠ none ∧
      (key = saved.job_identifier → saved.status ≠ .cancelled) := by
    intro key hsecrets
    refine ⟨fun hnone => hsecrets (hforget key hnone), ?_⟩
    rintro rfl hcancelled
    refine hsecrets ?_
    rw [discarded_secrets? (hmoved.inference.trans (if_pos hcancelled)), if_pos rfl]
  refine ⟨fun inference heq => ?_, fun _ _ => hrows'.matches h.rows, fun habsent key => ?_,
    fun hne => ?_, fun key hholds => ?_, fun hopen key hholds hne => ?_,
    fun hopen key hsecrets => ?_, fun hopen hpresent key job' hjob' his hqueued => ?_, fun key hkey => ?_, h.nodup⟩
  · by_cases hcancelled : saved.status = .cancelled
    · exact h.discarded_capacity (hmoved.inference.trans (if_pos hcancelled)) inference heq
    · exact h.capacity inference (heq ▸ (hmoved.inference.trans (if_neg hcancelled)).symm)
  · exact hforget key (h.absent (hthread ▸ habsent) key)
  · rw [hclosing]
    exact h.shutdown (hmoved.closer ▸ hne)
  · obtain ⟨before, hbefore, hbefore_queued⟩ := h.held key (hthread ▸ hholds)
    rw [hmoved.jobs]
    split_ifs with hkey
    · refine ⟨saved, rfl, fun his hqueued => ?_⟩
      have hrunning := (hmoved.came_from his (Or.inl hqueued)).1
      rw [hqueued] at hrunning
      exact absurd hrunning (by decide)
    · exact ⟨before, hbefore, hbefore_queued⟩
  · exact hforget key (h.taken (hclosing ▸ hopen) key (hthread ▸ hholds) (hthread ▸ hne))
  · obtain ⟨hbefore, hkept⟩ := hleft key hsecrets
    obtain ⟨job', hjob', hwaiting⟩ := h.stored (hclosing ▸ hopen) key hbefore
    rw [hmoved.jobs]
    split_ifs with hkey
    · obtain rfl : job = job' := by
        rw [hkey, hmoved.stored] at hjob'
        exact Option.some_inj.mp hjob'
      obtain ⟨his, hstatus⟩ := is_waiting_eq.mp hwaiting
      refine ⟨saved, rfl, is_waiting_eq.mpr ⟨is_inference_of_same hmoved.same ▸ his, ?_⟩⟩
      rcases hmoved.moves with ⟨-, hrunning⟩ | ⟨-, hcancelled⟩ | ⟨-, -, hqueued⟩
      · exact Or.inr hrunning
      · exact absurd hcancelled (hkept hkey)
      · exact Or.inl hqueued
    · exact ⟨job', hjob', hwaiting⟩
  · rw [hmoved.jobs] at hjob'
    split_ifs at hjob' with hkey
    · obtain rfl := Option.some_inj.mp hjob'
      have hrunning := (hmoved.came_from his (Or.inl hqueued)).1
      rw [hqueued] at hrunning
      exact absurd hrunning (by decide)
    · have hbefore := h.queued (hclosing ▸ hopen) (hthread ▸ hpresent) key job' hjob' his hqueued
      by_cases hcancelled : saved.status = .cancelled
      · rw [discarded_secrets? (hmoved.inference.trans (if_pos hcancelled)), if_neg hkey]
        exact hbefore
      · rw [secrets?_of_eq (hmoved.inference.trans (if_neg hcancelled))]
        exact hbefore
  · obtain ⟨hnone, hpresent⟩ := h.spent key hkey
    exact ⟨hforget key hnone, hrows'.present hpresent⟩

/-- A new process knows the saved jobs and no secrets. -/
lemma Entrusted.of_crash (h : Entrusted s handed) (attached : Bool) :
    Entrusted { store := s.store, inference := if attached then some {} else none } handed := by
  have hnone : ∀ key, ({ store := s.store, inference := if attached then some {} else none } :
      WorkspaceJobService).secrets? key = none := by
    intro key
    cases attached <;> rfl
  refine ⟨fun inference hinference => ?_, h.rows, fun _ => hnone, fun hne => absurd rfl hne,
    fun key hholds => absurd hholds (by simp [Scheduler.holds]), fun _ key _ _ => hnone key,
    fun _ key hkey => absurd (hnone key) hkey, fun _ hpresent => absurd rfl hpresent,
    fun key hkey => ⟨hnone key, (h.spent key hkey).2⟩, h.nodup⟩
  cases attached with
  | false => simp at hinference
  | true =>
    obtain rfl := Option.some_inj.mp hinference
    exact ⟨rfl, Nat.zero_le _⟩

/-- The thread goes on with the job that it holds, whose secrets are gone, or without a job. -/
lemma Entrusted.of_thread (h : Entrusted s handed) {thread : Scheduler}
    (hs : s.thread ≠ .absent) (habsent : thread ≠ .absent)
    (hholds : ∀ key, thread.holds = some key → s.thread.holds = some key ∧
      (s.closing = false → s.secrets? key = none)) : Entrusted { s with thread } handed where
  capacity := h.capacity
  rows := h.rows
  absent hthread := absurd hthread habsent
  shutdown := h.shutdown
  held key hkey := h.held key (hholds key hkey).1
  taken hopen key hkey _ := (hholds key hkey).2 hopen
  stored := h.stored
  queued hopen _ := h.queued hopen hs
  spent := h.spent
  nodup := h.nodup

/-- The secrets of the job that the thread starts are taken. -/
lemma Entrusted.of_taken (h : Entrusted s handed) {identifier : String} {request : StoredRequest}
    {inference : InferenceSecretStore} (hthread : s.thread = .starting identifier)
    (hinference : s.inference = some inference) (hsecrets : s.secrets? identifier ≠ none) :
    Entrusted { s with
      inference := some (inference.discard identifier)
      thread := .executing identifier request } (handed ++ [identifier]) := by
  have hgone : ∀ key, WorkspaceJobService.secrets? { s with
      inference := some (inference.discard identifier)
      thread := .executing identifier request } key =
      if key = identifier then none else s.secrets? key :=
    discarded_secrets? (by rw [hinference]; rfl)
  have hholds : s.thread.holds = some identifier := by rw [hthread]; rfl
  have hpresent : s.thread ≠ .absent := by simp [hthread]
  obtain ⟨job, hjob, hjob_queued⟩ := h.held identifier hholds
  refine ⟨h.discarded_capacity (by rw [hinference]; rfl), h.rows, by simp, h.shutdown,
    fun key hkey => ?_, fun _ key hkey _ => ?_, fun hopen key hkey => ?_,
    fun hopen _ key job' hjob' his hqueued => ?_, fun key hkey => ?_, ?_⟩
  · obtain rfl : identifier = key := Option.some_inj.mp hkey
    exact ⟨job, hjob, hjob_queued⟩
  · obtain rfl : identifier = key := Option.some_inj.mp hkey
    rw [hgone, if_pos rfl]
  · rw [hgone] at hkey
    split_ifs at hkey with heq
    · exact absurd rfl hkey
    · exact h.stored hopen key hkey
  · have hne : key ≠ identifier := by
      rintro rfl
      obtain rfl := Option.some_inj.mp (hjob'.symm.trans hjob)
      exact hjob_queued his hqueued
    rw [hgone, if_neg hne]
    exact h.queued hopen hpresent key job' hjob' his hqueued
  · rw [hgone]
    rcases List.mem_append.mp hkey with hkey | hkey
    · obtain ⟨hnone, hkept⟩ := h.spent key hkey
      exact ⟨by rw [hnone]; simp, hkept⟩
    · obtain rfl := List.mem_singleton.mp hkey
      exact ⟨if_pos rfl, job?_ne_none.mp (by simp [hjob])⟩
  · refine List.nodup_append.mpr ⟨h.nodup, List.nodup_singleton _, fun key hkey other hother => ?_⟩
    obtain rfl := List.mem_singleton.mp hother
    rintro rfl
    exact hsecrets (h.spent key hkey).1

/-- The start of a run hands the secrets of its job out, or fails without any. -/
lemma Entrusted.of_begin_run (h : Entrusted s handed) {surroundings : Surroundings}
    {workspace : Workspace} {identifier : String} {outcome : Except Raised StoredRequest}
    (hthread : s.thread = .starting identifier)
    (hrun : begin_run surroundings workspace identifier s = (outcome, t)) :
    Entrusted { t with thread := after_begin identifier outcome }
      (handed ++ handed_out s { t with thread := after_begin identifier outcome }) := by
  have hholds : s.thread.holds = some identifier := by rw [hthread]; rfl
  have hpresent : s.thread ≠ .absent := by simp [hthread]
  obtain ⟨job, hjob, -⟩ := h.held identifier hholds
  obtain ⟨row, hrow, -⟩ := WorkflowStore.job?_eq_some.mp hjob
  -- A job of another kind has no secrets.
  have hother : (∀ record, row.request ≠ .inference record) → s.closing = false →
      s.secrets? identifier = none := by
    intro hkind hopen
    by_contra hsecrets
    obtain ⟨job', hjob', hwaiting⟩ := h.stored hopen identifier hsecrets
    obtain ⟨row', hrow', hrow_job⟩ := WorkflowStore.job?_eq_some.mp hjob'
    obtain rfl := Option.some_inj.mp (hrow'.symm.trans hrow)
    obtain ⟨record, hrecord⟩ := (h.rows _ _ hrow).of_inference
      (hrow_job ▸ (is_waiting_eq.mp hwaiting).1)
    exact hkind record hrecord
  cases outcome with
  | ok request =>
    obtain ⟨⟨row', hrow', rfl⟩, hcases⟩ := begin_run_ok hrun
    obtain rfl := Option.some_inj.mp (hrow'.symm.trans hrow)
    rcases hcases with ⟨⟨record, hrecord⟩, hsecrets, inference, hinference, rfl⟩ | ⟨hkind, rfl⟩
    · have hout : handed_out s { s with
          inference := some (inference.discard identifier)
          thread := .executing identifier row'.request } = [identifier] := by
        rw [hrecord, handed_out, hthread]
      change Entrusted _ (handed ++ handed_out s { s with
          inference := some (inference.discard identifier)
          thread := .executing identifier row'.request })
      rw [hout]
      exact h.of_taken hthread hinference hsecrets
    · have hout : handed_out t { t with thread := .executing identifier row'.request } = [] := by
        rw [handed_out, hthread]
        cases hrequest : row'.request with
        | inference record => exact absurd hrequest (hkind record)
        | fetch _ => rfl
        | workflow _ => rfl
      change Entrusted _ (handed ++ handed_out t
        { t with thread := .executing identifier row'.request })
      rw [hout, List.append_nil]
      refine h.of_thread hpresent (by simp [after_begin]) fun key hkey => ?_
      obtain rfl : identifier = key := Option.some_inj.mp hkey
      exact ⟨hholds, hother hkind⟩
  | error raised =>
    obtain ⟨rfl, hcases⟩ := begin_run_error hrun
    have hout : handed_out t { t with thread := after_raise identifier raised } = [] := by
      rw [handed_out, hthread]
      cases raised with
      | application failure =>
        rw [after_raise]
        split_ifs <;> rfl
      | value_error => rfl
      | os_error => rfl
    change Entrusted _ (handed ++ handed_out t { t with thread := after_raise identifier raised })
    rw [hout, List.append_nil]
    refine h.of_thread hpresent (after_raise_ne_absent identifier raised) fun key hkey => ?_
    have hsame : (after_raise identifier raised).holds = some identifier := by
      rcases (after_raise_holds identifier raised).1 with hnone | hsome
      · rw [after_begin, hnone] at hkey
        exact absurd hkey (by simp)
      · exact hsome
    obtain rfl : identifier = key := Option.some_inj.mp (hsame.symm.trans hkey)
    refine ⟨hholds, fun hopen => ?_⟩
    rcases hcases with rfl | hnone | ⟨row', hrow', hkind⟩
    · exact absurd hsame (by simp [after_raise, Scheduler.holds])
    · exact absurd (hnone.symm.trans hrow) (by simp)
    · obtain rfl := Option.some_inj.mp (hrow'.symm.trans hrow)
      by_cases hrecord : ∃ record, row'.request = .inference record
      · obtain ⟨record, hrecord⟩ := hrecord
        exact hkind record hrecord
      · exact hother (fun record heq => hrecord ⟨record, heq⟩) hopen

lemma handed_out_eq_nil (h : ∀ identifier, s.thread = .starting identifier →
    t.thread = .starting identifier ∨ t.thread = .absent) : handed_out s t = [] := by
  unfold handed_out
  cases hthread : s.thread with
  | starting identifier =>
    rcases h identifier hthread with hsame | habsent
    · rw [hsame]
    · rw [habsent]
  | _ => rfl

/-- A submission of an admitted encode or decode job: its secrets always find room. -/
lemma Entrusted.submit_inference (h : Entrusted s handed) {surroundings : Surroundings}
    {digest : Dict String → String} {reading : InferenceReading} {uuid4 : String}
    {request : InferenceJobRequest} {outcome : Except Raised JobSnapshot}
    (hpresent : s.thread ≠ .absent) (hattached : s.inference.isSome = true)
    (hsubmit : submit_inference surroundings fingerprint digest (admit_inference reading request)
      uuid4 request s = (outcome, t)) :
    t = s ∨ (∃ job, outcome = .ok job) ∧ t.thread = s.thread ∧ Entrusted t handed := by
  obtain ⟨inference, hinference⟩ := Option.isSome_iff_exists.mp hattached
  rcases submit_inference_cases hsubmit with rfl | ⟨record, saved, u, hrecord, hsaved, hput⟩
  · exact Or.inl rfl
  have hroom := h.room hsaved.closing hinference hsaved.room
  have hsize := secret_size_of_admitted (admit_inference_ok hrecord)
  obtain ⟨store, hframe⟩ := hsaved.frame
  have hinference' : u.inference = some inference := by rw [hframe, ← hinference]
  rw [bind_of_ok (put_secrets_eq hinference' hsize hroom)] at hput
  obtain ⟨rfl, rfl⟩ := Prod.mk.inj hput
  refine Or.inr ⟨⟨saved, rfl⟩, ?_, h.of_put hpresent hinference hsaved⟩
  change u.thread = s.thread
  rw [hframe]

theorem Entrusted.step {s t : WorkspaceJobService × List String} (h : Entrusted s.1 s.2)
    (hstep : HandedStep fingerprint s e t) : Entrusted t.1 t.2 := by
  obtain ⟨s, handed⟩ := s
  obtain ⟨t, handed'⟩ := t
  obtain ⟨hstep, hserves, hhanded⟩ := hstep
  change Entrusted s handed at h
  change handed' = handed ++ handed_out s t at hhanded
  change Entrusted t handed'
  have heffect := hstep.effect
  -- Steps that hand nothing out.
  have hkeeps : (∀ identifier, s.thread = .starting identifier →
      t.thread = .starting identifier ∨ t.thread = .absent) → Entrusted t handed →
      Entrusted t handed' := by
    intro hthread hentrusted
    rw [hhanded, handed_out_eq_nil hthread, List.append_nil]
    exact hentrusted
  have hframed : e.secretive = false → e.request = none → Entrusted t handed' := by
    intro hsecretive hrequest
    have hframe := hstep.frame hsecretive
    exact hkeeps (fun id hid => Or.inl ((hframe.thread.starts id hid).trans hid))
      (h.of_frame hframe heffect hrequest (heffect.shutdown h.shutdown))
  cases hstep with
  | submit hrun =>
    have hsubmitted := of_keeps submitted_submit (.refl s) hrun
    exact hkeeps (fun id hid => Or.inl (hsubmitted.1.steady.thread.trans hid))
      (h.of_submitted hsubmitted (heffect.shutdown h.shutdown))
  | submit_fetch hrun =>
    have hsubmitted := of_keeps submitted_submit_fetch (.refl s) hrun
    exact hkeeps (fun id hid => Or.inl (hsubmitted.1.steady.thread.trans hid))
      (h.of_submitted hsubmitted (heffect.shutdown h.shutdown))
  | submit_inference hinference hrun =>
    obtain ⟨reading, rfl⟩ := hserves.admission _ _ _ _ _ rfl
    rcases h.submit_inference (hserves.started (by simp [Event.request])) hinference hrun with
      rfl | ⟨-, hthread, hentrusted⟩
    · exact hkeeps (fun _ hid => Or.inl hid) h
    · exact hkeeps (fun _ hid => Or.inl (hthread.trans hid)) hentrusted
  | action hrun =>
    rcases action_cases hrun with rfl | ⟨job, saved, hmoved⟩
    · exact hkeeps (fun _ hid => Or.inl hid) h
    · exact hkeeps (fun _ hid => Or.inl (hmoved.frame.steady.thread.trans hid)) (h.of_moved hmoved)
  | begin_run hthread hrun =>
    rw [hhanded]
    exact h.of_begin_run hthread hrun
  | crash => exact hkeeps (fun _ _ => Or.inr rfl) (h.of_crash _)
  | begin_cleanup => exact hframed rfl rfl
  | end_cleanup => exact hframed rfl rfl
  | start => exact hframed rfl rfl
  | check => exact hframed rfl rfl
  | poll => exact hframed rfl rfl
  | maintain => exact hframed rfl rfl
  | report => exact hframed rfl rfl
  | finish => exact hframed rfl rfl
  | report_failure => exact hframed rfl rfl
  | release => exact hframed rfl rfl
  | halt => exact hframed rfl rfl
  | begin_close => exact hframed rfl rfl
  | request_stop => exact hframed rfl rfl
  | join => exact hframed rfl rfl
  | reconcile => exact hframed rfl rfl
  | release_ownership => exact hframed rfl rfl

end Steps

lemma entrusted_of_run {events : List Event}
    (h : Run (HandedStep fingerprint) ({}, []) events (s, handed)) : Entrusted s handed :=
  h.invariant (fun state => Entrusted state.1 state.2) (fun hs hstep => hs.step hstep)
    entrusted_initial

/-! ### Secrets are kept exactly as long as they are needed -/

/-- What holds of the stored secrets while the supervisor is open. -/
structure SecretsKept (fingerprint : Json → String) (s : WorkspaceJobService)
    (handed : List String) : Prop where
  /-- Every queued encode or decode job has its secrets. -/
  queued : ∀ key job, s.store.job? key = some job → is_inference job = true →
    job.status = .queued → s.secrets? key ≠ none
  /-- Every secret set belongs to a queued job, or to a running one that has not taken it. -/
  stored : ∀ key, s.secrets? key ≠ none → ∃ job, s.store.job? key = some job ∧
    is_inference job = true ∧ (job.status = .queued ∨ job.status = .running ∧ key ∉ handed)
  /-- There are at most eight. -/
  bounded : ∀ inference, s.inference = some inference → inference.entries.entries.length ≤ 8
  /-- A submission that raises has saved no job. -/
  room : ∀ surroundings digest reading uuid4 request raised t, s.inference.isSome = true →
    submit_inference surroundings fingerprint digest (admit_inference reading request) uuid4
      request s = (.error raised, t) → t = s

/-- No secrets are handed out twice, and while the supervisor is open they match the jobs. -/
theorem secrets_kept {events : List Event}
    (h : Run (HandedStep fingerprint) ({}, []) events (s, handed)) :
    (handed.Nodup ∧ ∀ key ∈ handed, s.secrets? key = none) ∧
      (s.closing = false → s.thread ≠ .absent → SecretsKept fingerprint s handed) := by
  have hentrusted := entrusted_of_run h
  refine ⟨⟨hentrusted.nodup, fun key hkey => (hentrusted.spent key hkey).1⟩,
    fun hopen hpresent => ?_⟩
  constructor
  · exact hentrusted.queued hopen hpresent
  · intro key hsecrets
    obtain ⟨job, hjob, hwaiting⟩ := hentrusted.stored hopen key hsecrets
    obtain ⟨his, hstatus⟩ := is_waiting_eq.mp hwaiting
    refine ⟨job, hjob, his, hstatus.imp_right fun hrunning => ⟨hrunning, fun hkey => ?_⟩⟩
    exact hsecrets (hentrusted.spent key hkey).1
  · exact fun inference hinference => (hentrusted.capacity inference hinference).2
  · intro surroundings digest reading uuid4 request raised t hattached hsubmit
    rcases hentrusted.submit_inference hpresent hattached hsubmit with hsame | ⟨⟨job, hok⟩, -⟩
    · exact hsame
    · exact absurd hok (by simp)

/-! A decode job is submitted, and taken up. -/

def decode_request : InferenceJobRequest where
  client_request_identifier := "c"
  image_reference := "image"
  model_identifier := "model"
  message := none
  password := "password"

def decode_reading : InferenceReading where
  image := .ok { purpose := .encoded, prepared_width := 512, prepared_height := 512 }
  model := .ok { model_identifier := "model", compatibility_identifier := "dense" }

/-- An application with its secret store. -/
def attached : WorkspaceJobService :=
  { inference := some {} }

def attached_started : WorkspaceJobService :=
  (start working false attached).2

def with_decode : WorkspaceJobService :=
  (submit_inference working (fun _ => "f") (fun _ => "d")
    (admit_inference decode_reading decode_request) "1" decode_request attached_started).2

def decode_polling : WorkspaceJobService :=
  { with_decode with thread := .polling }

def decode_claimed : WorkspaceJobService :=
  let polled := next_job working (.ok false) decode_polling
  { polled.2 with thread := after_poll polled.1 }

def open_workspace : Workspace where
  training_preflight := .ok { allowed := true, resolved_settings := .null }
  resolve_request := .ok ()

/-- The runner has taken the secrets. -/
def decode_running : WorkspaceJobService :=
  let begun := begin_run working open_workspace "job_1" decode_claimed
  { begun.2 with thread := after_begin "job_1" begun.1 }

lemma present_of_alive (h : s.thread.is_alive = true) : s.thread ≠ .absent := by
  intro habsent
  rw [habsent] at h
  exact absurd h (by decide)

lemma serves_internal (h : e.request = none) : Serves s e :=
  ⟨fun hrequest => absurd h hrequest, fun _ _ _ _ _ heq => absurd h (by simp [heq, Event.request])⟩

lemma run_decode_running : Run (HandedStep fun _ => "f") ({}, [])
    [.crash true, .start working false,
      .submit_inference working (fun _ => "d") (admit_inference decode_reading decode_request) "1"
        decode_request,
      .check, .poll working (.ok false), .begin_run working open_workspace]
    (decode_running, ["job_1"]) := by
  have hcrash : Step (fun _ => "f") {} (.crash true) attached := .crash
  have hstart : Step (fun _ => "f") attached (.start working false) attached_started :=
    .start rfl rfl rfl Prod.mk.eta.symm
  have hsubmit : Step (fun _ => "f") attached_started (.submit_inference working (fun _ => "d")
      (admit_inference decode_reading decode_request) "1" decode_request) with_decode :=
    .submit_inference rfl Prod.mk.eta.symm
  have hcheck : Step (fun _ => "f") with_decode .check decode_polling := .check rfl
  have hpoll : Step (fun _ => "f") decode_polling (.poll working (.ok false)) decode_claimed :=
    .poll rfl Prod.mk.eta.symm
  have hbegin : Step (fun _ => "f") decode_claimed (.begin_run working open_workspace)
      decode_running := .begin_run rfl Prod.mk.eta.symm
  have hserves : Serves attached_started (.submit_inference working (fun _ => "d")
      (admit_inference decode_reading decode_request) "1" decode_request) := by
    refine ⟨fun _ => present_of_alive rfl, fun _ _ _ _ _ heq => ?_⟩
    injection heq with _ _ hadmission _ hrequest
    exact ⟨decode_reading, hadmission ▸ hrequest ▸ rfl⟩
  exact .cons (t := (attached, [])) ⟨hcrash, serves_internal rfl, rfl⟩ <|
    .cons (t := (attached_started, [])) ⟨hstart, serves_internal rfl, rfl⟩ <|
    .cons (t := (with_decode, [])) ⟨hsubmit, hserves, rfl⟩ <|
    .cons (t := (decode_polling, [])) ⟨hcheck, serves_internal rfl, rfl⟩ <|
    .cons (t := (decode_claimed, [])) ⟨hpoll, serves_internal rfl, rfl⟩ <|
    .cons (t := (decode_running, ["job_1"])) ⟨hbegin, serves_internal rfl, rfl⟩ .nil

theorem secrets_kept_decode : SecretsKept (fun _ => "f") decode_running ["job_1"] :=
  (secrets_kept run_decode_running).2 (by decide) (present_of_alive rfl)

end StegoLab

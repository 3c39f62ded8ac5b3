import StegoLab.Workflow.StepEffects

/-!
# Exclusion

At most one job runs, at most one fetch job is active, and a cache cleanup excludes every fetch
job. The shutdown is left out: it may give up waiting for a live runner.
-/

namespace StegoLab

open CanonicalJson Transaction

variable {fingerprint : Json → String} {surroundings : Surroundings} {s t : WorkspaceJobService}
  {e : Event} {events : List Event} {store store' : WorkflowStore} {key : String}

/-! ### Running and active jobs -/

/-- The saved job is in status running. -/
def Running (store : WorkflowStore) (key : String) : Prop :=
  ∃ job, store.job? key = some job ∧ job.status = .running

/-- The saved job is a fetch that is queued, running or paused. -/
def ActiveFetch (store : WorkflowStore) (key : String) : Prop :=
  ∃ job, store.job? key = some job ∧ active_fetch job = true

lemma not_activeFetch (h : ∀ job ∈ store.sorted_jobs, active_fetch job = false) :
    ¬ ActiveFetch store key := by
  rintro ⟨job, hjob, hactive⟩
  have hmem : job ∈ store.sorted_jobs := by
    rw [WorkflowStore.mem_sorted_jobs, WorkflowStore.identifier_of_job? hjob, hjob]
  rw [h job hmem] at hactive
  exact absurd hactive (by decide)

lemma active_fetch_iff {job : JobSnapshot} :
    active_fetch job = true ↔
      job.operation = .fetch_dataset ∧
        (job.status = .queued ∨ job.status = .running ∨ job.status = .paused) := by
  simp [active_fetch, is_fetch, ACTIVE_FETCH_STATES]

/-- The store has no running job and no active fetch that it did not have before. -/
structure Narrows (store store' : WorkflowStore) : Prop where
  running : ∀ key, Running store' key → Running store key
  active : ∀ key, ActiveFetch store' key → ActiveFetch store key

/-- Replacing one job narrows the store when the new snapshot is no more active than the old. -/
lemma narrows_of_saved {job snapshot : JobSnapshot} {mutation : Option (String × String)}
    (hsaved : store.Saved snapshot none mutation store')
    (hjob : store.job? snapshot.job_identifier = some job)
    (hrunning : snapshot.status = .running → job.status = .running)
    (hactive : active_fetch snapshot = true → active_fetch job = true) : Narrows store store' := by
  have hlookup := hsaved.job?_eq hjob
  constructor
  · rintro key ⟨job', hjob', hstatus⟩
    rw [hlookup] at hjob'
    split_ifs at hjob' with hkey
    · obtain rfl := Option.some_inj.mp hjob'
      exact ⟨job, hkey ▸ hjob, hrunning hstatus⟩
    · exact ⟨job', hjob', hstatus⟩
  · rintro key ⟨job', hjob', hfetch⟩
    rw [hlookup] at hjob'
    split_ifs at hjob' with hkey
    · obtain rfl := Option.some_inj.mp hjob'
      exact ⟨job, hkey ▸ hjob, hactive hfetch⟩
    · exact ⟨job', hjob', hfetch⟩

lemma narrows_of_interrupted (h : Interrupted store store') : Narrows store store' := by
  constructor
  · rintro key ⟨job', hjob', hstatus⟩
    rcases h.job key with hkept | ⟨job, snapshot, hjob, -, hsnapshot, -, hinterrupted⟩
    · exact ⟨job', hkept ▸ hjob', hstatus⟩
    · obtain rfl := Option.some_inj.mp (hjob'.symm.trans hsnapshot)
      rw [hinterrupted] at hstatus
      exact absurd hstatus (by decide)
  · rintro key ⟨job', hjob', hfetch⟩
    rcases h.job key with hkept | ⟨job, snapshot, hjob, -, hsnapshot, -, hinterrupted⟩
    · exact ⟨job', hkept ▸ hjob', hfetch⟩
    · obtain rfl := Option.some_inj.mp (hjob'.symm.trans hsnapshot)
      rw [active_fetch_iff, hinterrupted] at hfetch
      exact absurd hfetch.2 (by decide)

/-- A user action starts no job and makes no fetch active. -/
lemma narrows_of_acted {job snapshot : JobSnapshot} {mutation : Option (String × String)}
    (hsaved : store.Saved snapshot none mutation store')
    (hjob : store.job? snapshot.job_identifier = some job) (hsame : SameJob job snapshot)
    (hmoves : ActionMoves job snapshot) : Narrows store store' := by
  refine narrows_of_saved hsaved hjob (fun hrunning => ?_) (fun hactive => ?_)
  · rcases hmoves with ⟨hbefore, -⟩ | ⟨-, hafter⟩ | ⟨-, -, hafter⟩
    · exact hbefore
    · exact absurd (hrunning.symm.trans hafter) (by decide)
    · exact absurd (hrunning.symm.trans hafter) (by decide)
  · rw [active_fetch_iff, hsame.operation] at hactive
    rw [active_fetch_iff]
    rcases hmoves with ⟨hbefore, -⟩ | ⟨-, hafter⟩ | ⟨-, hbefore, -⟩
    · exact ⟨hactive.1, Or.inr (Or.inl hbefore)⟩
    · rw [hafter] at hactive
      exact absurd hactive.2 (by decide)
    · exact ⟨hactive.1, Or.inr (Or.inr hbefore)⟩

/-! ### The invariant -/

/-- A step of `close_supervisor`. -/
def Event.closes : Event → Bool
  | .begin_close => true
  | .request_stop _ => true
  | .join => true
  | .reconcile _ => true
  | .release_ownership => true
  | _ => false

/-- A step while the application is open. -/
def OpenStep (fingerprint : Json → String) (s : WorkspaceJobService) (e : Event)
    (t : WorkspaceJobService) : Prop :=
  Step fingerprint s e t ∧ e.closes = false

/-- The scheduler owns the running job, and the store lock guards the fetch jobs. -/
structure Exclusive (s : WorkspaceJobService) : Prop where
  running : ∀ key key', Running s.store key → Running s.store key' → key = key'
  held : ∀ key, s.thread.holds = some key → Running s.store key
  idle : s.thread.idle = true → ∀ key, ¬ Running s.store key
  active : ∀ key key', ActiveFetch s.store key → ActiveFetch s.store key' → key = key'
  cleanup : s.cache_cleanup_in_progress = true → ∀ key, ¬ ActiveFetch s.store key

/-- A step that narrows the store and keeps every running job keeps the invariant. -/
lemma Exclusive.of_narrows (h : Exclusive s) (hcontrol : Control s t)
    (hnarrows : Narrows s.store t.store)
    (hkept : ∀ key, Running s.store key → Running t.store key) :
    Exclusive t where
  running key key' hkey hkey' := h.running key key' (hnarrows.running _ hkey)
    (hnarrows.running _ hkey')
  held key hholds := by
    rcases hcontrol.holds with hnone | hsame
    · rw [hnone] at hholds
      exact absurd hholds (by simp)
    · exact hkept key (h.held key (hsame ▸ hholds))
  idle hidle key hkey := h.idle (hcontrol.idle hidle) key (hnarrows.running _ hkey)
  active key key' hkey hkey' := h.active key key' (hnarrows.active _ hkey) (hnarrows.active _ hkey')
  cleanup hflag key hkey := by
    rcases hcontrol.cleanup hflag with hbefore | hnone
    · exact h.cleanup hbefore key (hnarrows.active _ hkey)
    · exact not_activeFetch hnone (hnarrows.active _ hkey)

/-- A running job that a user action or a report touches goes on running. -/
lemma running_kept {job snapshot : JobSnapshot} {mutation : Option (String × String)}
    (hsaved : store.Saved snapshot none mutation store')
    (hjob : store.job? snapshot.job_identifier = some job)
    (hstatus : job.status = .running → snapshot.status = .running) (key : String)
    (hkey : Running store key) : Running store' key := by
  obtain ⟨job', hjob', hrunning⟩ := hkey
  have hlookup := hsaved.job?_eq hjob key
  by_cases hsame : key = snapshot.job_identifier
  · rw [if_pos hsame] at hlookup
    rw [hsame, hjob, Option.some_inj] at hjob'
    exact ⟨snapshot, hlookup, hstatus (hjob' ▸ hrunning)⟩
  · rw [if_neg hsame] at hlookup
    exact ⟨job', hlookup.trans hjob', hrunning⟩

/-- The end of the only running job leaves none running. -/
lemma Exclusive.of_ended (h : Exclusive s) {job snapshot : JobSnapshot}
    (hholds : s.thread.holds = some snapshot.job_identifier)
    (hjob : s.store.job? snapshot.job_identifier = some job) (hsame : SameJob job snapshot)
    (hsaved : s.store.Saved snapshot none none t.store)
    (hstatus : snapshot.status ≠ .running ∧ snapshot.status ≠ .queued)
    (hthread : t.thread = .releasing snapshot.job_identifier false)
    (hcleanup : t.cache_cleanup_in_progress = s.cache_cleanup_in_progress) : Exclusive t := by
  obtain ⟨job', hjob', hrunning⟩ := h.held _ hholds
  obtain rfl := Option.some_inj.mp (hjob.symm.trans hjob')
  have hnarrows : Narrows s.store t.store := by
    refine narrows_of_saved hsaved hjob (fun hafter => absurd hafter hstatus.1)
      (fun hactive => ?_)
    rw [active_fetch_iff, hsame.operation] at hactive
    exact active_fetch_iff.mpr ⟨hactive.1, Or.inr (Or.inl hrunning)⟩
  have hnone : ∀ key, ¬ Running t.store key := by
    intro key hkey
    have hsame_key := h.running _ _ (hnarrows.running _ hkey) ⟨job, hjob, hrunning⟩
    obtain ⟨job', hjob', hrunning'⟩ := hkey
    rw [hsaved.job?_eq hjob, if_pos hsame_key, Option.some_inj] at hjob'
    exact hstatus.1 (hjob' ▸ hrunning')
  refine ⟨fun key _ hkey => absurd hkey (hnone key), fun key hheld => ?_,
    fun _ => hnone, fun key key' hkey hkey' => ?_, fun hflag key hkey => ?_⟩
  · rw [hthread] at hheld
    exact absurd hheld (by simp [Scheduler.holds])
  · exact h.active key key' (hnarrows.active _ hkey) (hnarrows.active _ hkey')
  · exact h.cleanup (hcleanup ▸ hflag) key (hnarrows.active _ hkey)

/-- A submitted job is queued, and a fetch job is submitted only when none is active. -/
lemma Exclusive.of_created (h : Exclusive s) (hcontrol : Control s t) {snapshot : JobSnapshot}
    {request : StoredRequest} {mutation : Option (String × String)}
    (hsaved : s.store.Saved snapshot (some request) mutation t.store)
    (hstatus : snapshot.status = .queued)
    (hfetch : is_fetch snapshot = true → s.cache_cleanup_in_progress = false ∧
      ∀ job ∈ s.store.sorted_jobs, active_fetch job = false)
    (hcleanup : t.cache_cleanup_in_progress = s.cache_cleanup_in_progress) : Exclusive t := by
  have hlookup := hsaved.job?_new
  have hrunning : ∀ key, Running t.store key → Running s.store key := by
    rintro key ⟨job, hjob, hjob_running⟩
    rw [hlookup] at hjob
    split_ifs at hjob with hkey
    · rw [Option.some_inj] at hjob
      rw [← hjob, hstatus] at hjob_running
      exact absurd hjob_running (by decide)
    · exact ⟨job, hjob, hjob_running⟩
  have hkept : ∀ key, Running s.store key → Running t.store key := by
    rintro key ⟨job, hjob, hjob_running⟩
    refine ⟨job, ?_, hjob_running⟩
    rw [hlookup, if_neg, hjob]
    rintro rfl
    exact absurd ((hsaved.fresh (by simp)).symm.trans hjob) (by simp)
  have hactive : ∀ key, ActiveFetch t.store key →
      ActiveFetch s.store key ∨ key = snapshot.job_identifier ∧ is_fetch snapshot = true := by
    rintro key ⟨job, hjob, hjob_active⟩
    rw [hlookup] at hjob
    split_ifs at hjob with hkey
    · rw [Option.some_inj] at hjob
      rw [← hjob, active_fetch, Bool.and_eq_true] at hjob_active
      exact Or.inr ⟨hkey, hjob_active.1⟩
    · exact Or.inl ⟨job, hjob, hjob_active⟩
  refine ⟨fun key key' hkey hkey' => h.running _ _ (hrunning _ hkey) (hrunning _ hkey'),
    fun key hheld => ?_, fun hidle key hkey => h.idle (hcontrol.idle hidle) key (hrunning _ hkey),
    fun key key' hkey hkey' => ?_, fun hflag key hkey => ?_⟩
  · rcases hcontrol.holds with hnone | hsame
    · rw [hnone] at hheld
      exact absurd hheld (by simp)
    · exact hkept key (h.held key (hsame ▸ hheld))
  · rcases hactive key hkey with hbefore | ⟨hnew, hnew_fetch⟩
    · rcases hactive key' hkey' with hbefore' | ⟨hnew', hnew_fetch⟩
      · exact h.active key key' hbefore hbefore'
      · exact absurd hbefore (not_activeFetch (hfetch hnew_fetch).2)
    · rcases hactive key' hkey' with hbefore' | ⟨hnew', -⟩
      · exact absurd hbefore' (not_activeFetch (hfetch hnew_fetch).2)
      · rw [hnew, hnew']
  · rw [hcleanup] at hflag
    rcases hactive key hkey with hbefore | ⟨-, hnew_fetch⟩
    · exact h.cleanup hflag key hbefore
    · exact absurd hflag (by simp [(hfetch hnew_fetch).1])

/-- The scheduler takes up a job only when none is running. -/
lemma Exclusive.of_claimed (h : Exclusive s) {job snapshot : JobSnapshot}
    (hidle : s.thread.idle = true) (hjob : s.store.job? snapshot.job_identifier = some job)
    (hsame : SameJob job snapshot) (hsaved : s.store.Saved snapshot none none t.store)
    (hqueued : job.status = .queued) (hstatus : snapshot.status = .running)
    (hthread : t.thread = .starting snapshot.job_identifier)
    (hcleanup : t.cache_cleanup_in_progress = s.cache_cleanup_in_progress) : Exclusive t := by
  have hlookup := hsaved.job?_eq hjob
  have hrunning : ∀ key, Running t.store key → key = snapshot.job_identifier := by
    rintro key ⟨job', hjob', hjob_running⟩
    rw [hlookup] at hjob'
    split_ifs at hjob' with hkey
    · exact hkey
    · exact absurd ⟨job', hjob', hjob_running⟩ (h.idle hidle key)
  have hactive : ∀ key, ActiveFetch t.store key → ActiveFetch s.store key := by
    rintro key ⟨job', hjob', hjob_active⟩
    rw [hlookup] at hjob'
    split_ifs at hjob' with hkey
    · obtain rfl := Option.some_inj.mp hjob'
      rw [active_fetch_iff, hsame.operation] at hjob_active
      exact ⟨job, hkey ▸ hjob, active_fetch_iff.mpr ⟨hjob_active.1, Or.inl hqueued⟩⟩
    · exact ⟨job', hjob', hjob_active⟩
  refine ⟨fun key key' hkey hkey' => (hrunning key hkey).trans (hrunning key' hkey').symm,
    fun key hheld => ?_, fun hidle' => ?_, fun key key' hkey hkey' =>
      h.active key key' (hactive _ hkey) (hactive _ hkey'),
    fun hflag key hkey => h.cleanup (hcleanup ▸ hflag) key (hactive _ hkey)⟩
  · rw [hthread] at hheld
    obtain rfl := Option.some_inj.mp hheld
    exact ⟨snapshot, (hlookup _).trans (if_pos rfl), hstatus⟩
  · rw [hthread] at hidle'
    exact absurd hidle' (by simp [Scheduler.idle])

/-- Startup leaves no job running; a startup that fails leaves no thread. -/
lemma Exclusive.of_started (h : Exclusive s) (hinterrupted : Interrupted s.store t.store)
    (hthread : t.thread = .absent ∨ t.thread = .checking ∧
      ∀ job ∈ t.store.sorted_jobs, unfinished job = false)
    (hcleanup : t.cache_cleanup_in_progress = s.cache_cleanup_in_progress) : Exclusive t := by
  have hnarrows := narrows_of_interrupted hinterrupted
  refine ⟨fun key key' hkey hkey' =>
      h.running _ _ (hnarrows.running _ hkey) (hnarrows.running _ hkey'),
    fun key hheld => ?_, fun hidle key hkey => ?_, fun key key' hkey hkey' =>
      h.active _ _ (hnarrows.active _ hkey) (hnarrows.active _ hkey'),
    fun hflag key hkey => h.cleanup (hcleanup ▸ hflag) key (hnarrows.active _ hkey)⟩
  · rcases hthread with hthread | ⟨hthread, -⟩
    · rw [hthread] at hheld
      exact absurd hheld (by simp [Scheduler.holds])
    · rw [hthread] at hheld
      exact absurd hheld (by simp [Scheduler.holds])
  · rcases hthread with hthread | ⟨-, hnone⟩
    · rw [hthread] at hidle
      exact absurd hidle (by simp [Scheduler.idle])
    · obtain ⟨job, hjob, hrunning⟩ := hkey
      have hmem : job ∈ t.store.sorted_jobs := by
        rw [WorkflowStore.mem_sorted_jobs, WorkflowStore.identifier_of_job? hjob, hjob]
      have hunfinished := hnone job hmem
      rw [unfinished, hrunning] at hunfinished
      exact absurd hunfinished (by decide)

/-- Every step of an open application keeps the invariant. -/
theorem Exclusive.step (h : Exclusive s) (hstep : OpenStep fingerprint s e t) : Exclusive t := by
  cases hstep.1.effect with
  | unchanged hstore hcontrol =>
    exact h.of_narrows hcontrol (hstore ▸ ⟨fun _ => id, fun _ => id⟩) (hstore ▸ fun _ => id)
  | created hmutation hsaved hstatus hfetch hcontrol hcleanup =>
    exact h.of_created hcontrol hsaved hstatus hfetch hcleanup
  | acted hmutation hjob hsame hsaved hmoves hcontrol =>
    refine h.of_narrows hcontrol (narrows_of_acted hsaved hjob hsame hmoves)
      (running_kept hsaved hjob fun hrunning => ?_)
    rcases hmoves with ⟨-, hafter⟩ | ⟨hbefore, -⟩ | ⟨-, hbefore, -⟩
    · exact hafter
    · rw [hrunning] at hbefore
      exact absurd hbefore (by decide)
    · exact absurd (hrunning.symm.trans hbefore) (by decide)
  | marked _ hjob hsame hsaved hstatus hcontrol =>
    refine h.of_narrows hcontrol (narrows_of_saved hsaved hjob (fun hrunning => ?_)
      fun hactive => ?_) (running_kept hsaved hjob fun hrunning => hstatus.trans hrunning)
    · exact hstatus.symm.trans hrunning
    · rw [active_fetch_iff, hsame.operation, hstatus] at hactive
      exact active_fetch_iff.mpr hactive
  | claimed _ hidle hjob hsame hsaved hqueued hstatus hthread _ hcleanup =>
    exact h.of_claimed hidle hjob hsame hsaved hqueued hstatus hthread hcleanup
  | finished he hthread hjob hsame hsaved hstatus hkeeps hthread' _ hcleanup =>
    exact h.of_ended (by rw [hthread]; rfl) hjob hsame hsaved hstatus hthread' hcleanup
  | failed _ hholds hjob hsame hsaved hstatus hthread _ hcleanup =>
    refine h.of_ended hholds hjob hsame hsaved ?_ hthread hcleanup
    rw [hstatus]
    cases s.closing
    · exact ⟨by decide, by decide⟩
    · exact ⟨by decide, by decide⟩
  | interrupted _ hinterrupted hphase _ hcleanup =>
    rcases hphase with ⟨-, hthread⟩ | ⟨⟨surroundings, rfl⟩, -⟩
    · exact h.of_started hinterrupted hthread hcleanup
    · exact absurd hstep.2 (by simp [Event.closes])

lemma exclusive_initial : Exclusive {} where
  running key key' h := by
    obtain ⟨job, hjob, -⟩ := h
    exact absurd hjob (by simp [WorkflowStore.job?, WorkflowStore.created])
  held key h := absurd h (by simp [Scheduler.holds])
  idle h := absurd h (by simp [Scheduler.idle])
  active key key' h := by
    obtain ⟨job, hjob, -⟩ := h
    exact absurd hjob (by simp [WorkflowStore.job?, WorkflowStore.created])
  cleanup h := absurd h (by simp)

/-- Every run of an open application keeps the invariant. -/
theorem exclusive_of_run (h : Run (OpenStep fingerprint) {} events s) : Exclusive s :=
  h.invariant Exclusive (fun h hstep => h.step hstep) exclusive_initial

/-! ### Refusals -/

/-- The service stays as it was, and the request fails unless it repeats a recorded one. -/
def RefusedRequest {α : Type} (s t : WorkspaceJobService) (identifier : String)
    (outcome : Except Raised α) : Prop :=
  t = s ∧ (s.store.mutations.get? identifier = none → ∃ raised, outcome = .error raised)

/-- A request is refused when its acceptance always fails without a trace. -/
lemma refused_of_accept {identifier fingerprint : String} {accept : Section JobSnapshot}
    {outcome : Except Raised JobSnapshot}
    (haccept : ∀ outcome t, accept s = (outcome, t) → t = s ∧ ∃ raised, outcome = .error raised)
    (h : unless_replayed surroundings identifier fingerprint accept s = (outcome, t)) :
    RefusedRequest s t identifier outcome := by
  rw [unless_replayed_eq] at h
  rcases hreplay : s.store.replay surroundings.database identifier fingerprint with raised | previous
  · rw [hreplay] at h
    exact ⟨(congrArg Prod.snd h).symm, fun _ => ⟨raised, (congrArg Prod.fst h).symm⟩⟩
  · rw [hreplay] at h
    cases previous with
    | none =>
      obtain ⟨hsame, hraised⟩ := haccept _ _ h
      exact ⟨hsame, fun _ => hraised⟩
    | some job =>
      refine ⟨(congrArg Prod.snd h).symm, fun hunused => ?_⟩
      -- Only a recorded identifier is answered with a saved job.
      obtain ⟨-, -, hfound⟩ := bind_eq_ok.mp hreplay
      rw [hunused] at hfound
      exact absurd (pure_eq_ok.mp hfound) (by simp)

lemma submit_fetch_refused {dataset_uploads : UploadReading} {uuid4 : String}
    {request : DatasetFetchRequest} {outcome : Except Raised JobSnapshot}
    (hcleanup : s.cache_cleanup_in_progress = true)
    (h : submit_fetch surroundings fingerprint dataset_uploads uuid4 request s = (outcome, t)) :
    RefusedRequest s t request.client_request_identifier outcome := by
  refine refused_of_accept (fun outcome t haccept => ?_) h
  rw [read_bind] at haccept
  rcases (readOnly_lift _).bind_cases haccept with hraised | ⟨_, -, hclosing⟩
  · exact hraised
  rcases (readOnly_lift _).bind_cases hclosing with hraised | ⟨_, -, hsource⟩
  · exact hraised
  rcases (readOnly_lift _).bind_cases hsource with hraised | ⟨_, hflag, -⟩
  · exact hraised
  · exact absurd hcleanup (raise_if_eq_ok.mp (lift_ok.mp hflag).1)

lemma resume_refused {identifier : String} {request : WorkflowActionRequest}
    {outcome : Except Raised JobSnapshot} (hresume : request.action = .resume)
    (hnone : ∀ key, ¬ ActiveFetch s.store key)
    (h : action surroundings fingerprint identifier request s = (outcome, t)) :
    RefusedRequest s t request.client_request_identifier outcome := by
  refine refused_of_accept (fun outcome t haccept => ?_) h
  rcases (readOnly_get_job _).bind_cases haccept with hraised | ⟨job, hget, havailable⟩
  · exact hraised
  rcases (readOnly_lift _).bind_cases havailable with hraised | ⟨_, -, hchanges⟩
  · exact hraised
  rcases (readOnly_lift _).bind_cases hchanges with hraised | ⟨changes, hrequested, -⟩
  · exact hraised
  -- Only a paused fetch can be resumed, and it would be active.
  have hpaused : is_fetch job = true ∧ job.status = .paused := by
    have hmoves := (lift_ok.mp hrequested).1
    rw [hresume, requested_changes, fetch_action_changes, action_changes] at hmoves
    by_cases hfetch : is_fetch job = true
    · refine ⟨hfetch, ?_⟩
      by_contra hstatus
      simp [hfetch, hstatus, fail] at hmoves
    · simp [hfetch, fail] at hmoves
  refine absurd ⟨job, get_job_ok hget, ?_⟩ (hnone identifier)
  rw [active_fetch, hpaused.1, hpaused.2]
  rfl

lemma cleanup_refused {outcome : Except Raised Unit} (hactive : ActiveFetch s.store key)
    (h : begin_cleanup surroundings s = (outcome, t)) : t = s ∧ ∃ raised, outcome = .error raised := by
  rcases readOnly_require_storage.bind_cases h with hraised | ⟨_, -, hstored⟩
  · exact hraised
  rcases readOnly_list_jobs.bind_cases hstored with hraised | ⟨jobs, hlist, hlisted⟩
  · exact hraised
  obtain rfl := list_jobs_ok hlist
  rcases (readOnly_lift _).bind_cases hlisted with hraised | ⟨_, hnone, -⟩
  · exact hraised
  · obtain ⟨job, hjob, hfetch⟩ := hactive
    have hmem : job ∈ s.store.sorted_jobs := by
      rw [WorkflowStore.mem_sorted_jobs, WorkflowStore.identifier_of_job? hjob, hjob]
    exact absurd (List.any_eq_true.mpr ⟨job, hmem, hfetch⟩) (raise_if_eq_ok.mp (lift_ok.mp hnone).1)

/-! ### Mutual exclusion -/

/-- Jobs that all have one identifier are at most one. -/
lemma length_filter_le_one {p : JobSnapshot → Bool}
    (h : ∀ a ∈ store.sorted_jobs, ∀ b ∈ store.sorted_jobs, p a = true → p b = true →
      a.job_identifier = b.job_identifier) : (store.sorted_jobs.filter p).length ≤ 1 := by
  have hnodup : ((store.sorted_jobs.filter p).map JobSnapshot.job_identifier).Nodup :=
    WorkflowStore.nodup_sorted_jobs.sublist (List.filter_sublist.map _)
  have hsame : ∀ a ∈ store.sorted_jobs.filter p, ∀ b ∈ store.sorted_jobs.filter p,
      a.job_identifier = b.job_identifier := by
    intro a ha b hb
    rw [List.mem_filter] at ha hb
    exact h a ha.1 b hb.1 ha.2 hb.2
  match hjobs : store.sorted_jobs.filter p with
  | [] => exact Nat.zero_le 1
  | [_] => exact le_rfl
  | a :: b :: rest =>
    rw [hjobs] at hnodup hsame
    rw [List.map_cons, List.nodup_cons] at hnodup
    refine absurd ?_ hnodup.1
    rw [hsame a List.mem_cons_self b (List.mem_cons_of_mem _ List.mem_cons_self)]
    exact List.mem_map_of_mem List.mem_cons_self

/-- In every state that an open application reaches, at most one job runs and at most one fetch is
active; a cleanup excludes active fetches, refuses to admit or resume one, and is refused while
one is active. -/
theorem jobs_exclusive (h : Run (OpenStep fingerprint) {} events s) :
    (s.store.sorted_jobs.filter fun job => job.status = .running).length ≤ 1 ∧
      (s.store.sorted_jobs.filter active_fetch).length ≤ 1 ∧
      (s.cache_cleanup_in_progress = true →
        (∀ job ∈ s.store.sorted_jobs, active_fetch job = false) ∧
        (∀ surroundings dataset_uploads uuid4 request outcome t,
          submit_fetch surroundings fingerprint dataset_uploads uuid4 request s = (outcome, t) →
            RefusedRequest s t request.client_request_identifier outcome) ∧
        (∀ surroundings identifier request outcome t, request.action = .resume →
          action surroundings fingerprint identifier request s = (outcome, t) →
            RefusedRequest s t request.client_request_identifier outcome)) ∧
      (∀ job ∈ s.store.sorted_jobs, active_fetch job = true → ∀ surroundings outcome t,
        begin_cleanup surroundings s = (outcome, t) → t = s ∧ ∃ raised, outcome = .error raised) := by
  have hexclusive := exclusive_of_run h
  refine ⟨length_filter_le_one fun a ha b hb ha' hb' => ?_,
    length_filter_le_one fun a ha b hb ha' hb' => ?_, fun hcleanup => ⟨fun job hjob => ?_, ?_, ?_⟩,
    fun job hjob hactive surroundings outcome t => ?_⟩
  · exact hexclusive.running _ _ ⟨a, WorkflowStore.mem_sorted_jobs.mp ha, of_decide_eq_true ha'⟩
      ⟨b, WorkflowStore.mem_sorted_jobs.mp hb, of_decide_eq_true hb'⟩
  · exact hexclusive.active _ _ ⟨a, WorkflowStore.mem_sorted_jobs.mp ha, ha'⟩
      ⟨b, WorkflowStore.mem_sorted_jobs.mp hb, hb'⟩
  · exact Bool.eq_false_iff.mpr fun hactive =>
      hexclusive.cleanup hcleanup _ ⟨job, WorkflowStore.mem_sorted_jobs.mp hjob, hactive⟩
  · exact fun _ _ _ _ _ _ => submit_fetch_refused hcleanup
  · exact fun _ _ _ _ _ hresume => resume_refused hresume (hexclusive.cleanup hcleanup)
  · exact cleanup_refused ⟨job, WorkflowStore.mem_sorted_jobs.mp hjob, hactive⟩

/-! ### A running fetch -/

/-- The scheduler has taken the fetch up. -/
def with_running_fetch : WorkspaceJobService :=
  let polled := next_job working (.ok false) { with_fetch with thread := .polling }
  { polled.2 with thread := after_poll polled.1 }

lemma run_with_running_fetch :
    Run (OpenStep fun _ => "f") {}
      [.start working false, .submit_fetch working none "1" archive_request, .check,
        .poll working (.ok false)] with_running_fetch := by
  have hcheck : Step (fun _ => "f") with_fetch .check { with_fetch with thread := .polling } :=
    .check rfl
  exact .cons ⟨.start rfl rfl rfl rfl, rfl⟩ (.cons ⟨.submit_fetch rfl, rfl⟩
    (.cons ⟨hcheck, rfl⟩ (.cons ⟨.poll rfl rfl, rfl⟩ .nil)))

theorem jobs_exclusive_running_fetch :
    (∀ job ∈ with_running_fetch.store.sorted_jobs, job.status = .running ∧ active_fetch job = true) ∧
      (with_running_fetch.store.sorted_jobs.filter active_fetch).length ≤ 1 := by
  exact ⟨by decide, (jobs_exclusive run_with_running_fetch).2.1⟩

end StegoLab

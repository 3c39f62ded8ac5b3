import StegoLab.Workflow.StepEffects

/-!
# Finality

A job that is completed, cancelled, failed, stopped or interrupted keeps that status along every
run in which no runner publishes an outcome for a job that the shutdown has already interrupted.
-/

namespace StegoLab

open CanonicalJson Transaction

variable {fingerprint : Json → String} {s t : WorkspaceJobService} {e : Event}
  {events : List Event} {store store' : WorkflowStore}

/-- No event and no saved snapshot changes a final status. -/
structure Settled (store : WorkflowStore) : Prop where
  events : store.events.Pairwise fun earlier later =>
    earlier.job_identifier = later.job_identifier → earlier.status.Terminal →
      later.status = earlier.status
  current : ∀ event ∈ store.events, event.status.Terminal →
    ∃ job, store.job? event.job_identifier = some job ∧ job.status = event.status

/-- The step does not publish the outcome of a run over an interruption: if it ends the run of an
interrupted job, the run failed, or it is a fetch that stopped without a request to cancel or to
pause. -/
def RespectsInterruption (s : WorkspaceJobService) (e : Event) : Prop :=
  ∀ surroundings exit identifier request job, e = .finish surroundings exit →
    s.thread = .executing identifier request → s.store.job? identifier = some job →
      job.status = .interrupted → keeps_interrupted job exit request

/-- A step that respects interruptions. -/
def RespectfulStep (fingerprint : Json → String) (s : WorkspaceJobService) (e : Event)
    (t : WorkspaceJobService) : Prop :=
  Step fingerprint s e t ∧ RespectsInterruption s e

/-! ### One save -/

lemma settled_created : Settled .created where
  events := List.Pairwise.nil
  current _ hevent := absurd hevent List.not_mem_nil

/-- A save that changes no final status. -/
lemma Settled.of_saved (h : Settled store) {snapshot : JobSnapshot}
    {request : Option StoredRequest} {mutation : Option (String × String)}
    (hsaved : store.Saved snapshot request mutation store')
    (hlookup : ∀ key, store'.job? key =
      if key = snapshot.job_identifier then some snapshot else store.job? key)
    (hstatus : ∀ job, store.job? snapshot.job_identifier = some job → job.status.Terminal →
      snapshot.status = job.status) : Settled store' := by
  have hlater : ∀ event ∈ store.events, event.job_identifier = snapshot.job_identifier →
      event.status.Terminal → snapshot.status = event.status := by
    intro event hevent hsame hterminal
    obtain ⟨job, hjob, hjob_status⟩ := h.current event hevent hterminal
    rw [← hjob_status] at hterminal ⊢
    exact hstatus job (hsame ▸ hjob) hterminal
  constructor
  · rw [hsaved.events, List.pairwise_append]
    refine ⟨h.events, List.pairwise_singleton _ _, fun event hevent later hmem => ?_⟩
    obtain rfl := List.mem_singleton.mp hmem
    exact hlater event hevent
  · intro event hevent hterminal
    rw [hsaved.events, List.mem_append, List.mem_singleton] at hevent
    rcases hevent with hevent | rfl
    · by_cases hsame : event.job_identifier = snapshot.job_identifier
      · exact ⟨snapshot, (hlookup _).trans (if_pos hsame), hlater event hevent hsame hterminal⟩
      · obtain ⟨job, hjob, hjob_status⟩ := h.current event hevent hterminal
        exact ⟨job, (hlookup _).trans ((if_neg hsame).trans hjob), hjob_status⟩
    · exact ⟨snapshot, (hlookup _).trans (if_pos rfl), rfl⟩

/-- An unfinished job has no final status. -/
lemma not_terminal_of_unfinished {job : JobSnapshot} (h : unfinished job = true) :
    ¬ job.status.Terminal := by
  rw [unfinished, Bool.or_eq_true] at h
  rcases h with hstatus | hstatus
  · rw [of_decide_eq_true hstatus]
    decide
  · rw [of_decide_eq_true hstatus]
    decide

lemma Settled.of_interrupted (h : Settled store) (hinterrupted : Interrupted store store') :
    Settled store' := by
  obtain ⟨events, hevents, hall⟩ := hinterrupted.events
  constructor
  · rw [hevents, List.pairwise_append]
    refine ⟨h.events, ?_, fun event hevent later hlater hsame hterminal => ?_⟩
    · refine List.pairwise_of_forall_mem_list fun a ha b hb _ _ => ?_
      rw [(hall a ha).1, (hall b hb).1]
    · obtain ⟨job, hjob, hstatus⟩ := h.current event hevent hterminal
      obtain ⟨-, ⟨job', hjob', hunfinished⟩, -⟩ := hall later hlater
      obtain rfl := Option.some_inj.mp (hjob.symm.trans (hsame ▸ hjob'))
      exact absurd (hstatus ▸ hterminal) (not_terminal_of_unfinished hunfinished)
  · intro event hevent hterminal
    rw [hevents, List.mem_append] at hevent
    rcases hevent with hevent | hevent
    · obtain ⟨job, hjob, hstatus⟩ := h.current event hevent hterminal
      rcases hinterrupted.job event.job_identifier with hsame | ⟨job', _, hjob', hunfinished, _⟩
      · exact ⟨job, hsame.trans hjob, hstatus⟩
      · obtain rfl := Option.some_inj.mp (hjob.symm.trans hjob')
        exact absurd (hstatus ▸ hterminal) (not_terminal_of_unfinished hunfinished)
    · obtain ⟨hstatus, -, job, hjob, hjob_status⟩ := hall event hevent
      exact ⟨job, hjob, hjob_status.trans hstatus.symm⟩

/-! ### The invariant -/

/-- The job of the thread runs, or the shutdown has interrupted it. -/
structure Supervised (s : WorkspaceJobService) : Prop where
  settled : Settled s.store
  held : ∀ key, s.thread.holds = some key → ∃ job, s.store.job? key = some job ∧
    (job.status = .running ∨ job.status = .interrupted ∧ s.closing = true)
  shutdown : s.closer ≠ .serving → s.closing = true

lemma Shutdown.closing (h : Shutdown s t) (hs : s.closer ≠ .serving → s.closing = true) :
    t.closer ≠ .serving → t.closing = true := by
  intro ht
  rcases h ht with ⟨hbefore, hkept⟩ | hclosing
  · exact hkept (hs hbefore)
  · exact hclosing

/-- A step whose thread keeps its job, if that job keeps running or interrupted. -/
lemma Supervised.of_control (h : Supervised s) (hcontrol : Control s t)
    (hsettled : Settled t.store)
    (hjob : ∀ key job, s.store.job? key = some job →
      job.status = .running ∨ job.status = .interrupted →
      ∃ job', t.store.job? key = some job' ∧ job'.status = job.status) : Supervised t where
  settled := hsettled
  held key hholds := by
    rcases hcontrol.holds with hnone | hsame
    · rw [hnone] at hholds
      exact absurd hholds (by simp)
    · obtain ⟨job, hlookup, hstatus⟩ := h.held key (hsame ▸ hholds)
      have hclosing := hcontrol.closing (by rw [hholds]; simp)
      rcases hstatus with hrunning | ⟨hinterrupted, hclosed⟩
      · obtain ⟨job', hjob', hsame_status⟩ := hjob key job hlookup (Or.inl hrunning)
        exact ⟨job', hjob', Or.inl (hsame_status.trans hrunning)⟩
      · obtain ⟨job', hjob', hsame_status⟩ := hjob key job hlookup (Or.inr hinterrupted)
        exact ⟨job', hjob', Or.inr ⟨hsame_status.trans hinterrupted, hclosing hclosed⟩⟩
  shutdown := hcontrol.shutdown.closing h.shutdown

/-- A saved change keeps the statuses of the other jobs. -/
lemma status_kept {job snapshot : JobSnapshot} {mutation : Option (String × String)}
    (hsaved : store.Saved snapshot none mutation store')
    (hjob : store.job? snapshot.job_identifier = some job)
    (hstatus : job.status = .running ∨ job.status = .interrupted → snapshot.status = job.status)
    (key : String) (other : JobSnapshot) (hother : store.job? key = some other)
    (hactive : other.status = .running ∨ other.status = .interrupted) :
    ∃ job', store'.job? key = some job' ∧ job'.status = other.status := by
  have hlookup := hsaved.job?_eq hjob key
  by_cases hkey : key = snapshot.job_identifier
  · rw [hkey, hjob, Option.some_inj] at hother
    rw [if_pos hkey] at hlookup
    exact ⟨snapshot, hlookup, hother ▸ hstatus (hother ▸ hactive)⟩
  · exact ⟨other, hlookup.trans ((if_neg hkey).trans hother), rfl⟩

/-- The end of a run leaves the thread without a job. -/
lemma Supervised.of_ended (h : Supervised s) {job snapshot : JobSnapshot}
    (hjob : s.store.job? snapshot.job_identifier = some job)
    (hsaved : s.store.Saved snapshot none none t.store)
    (hstatus : job.status.Terminal → snapshot.status = job.status)
    (hthread : t.thread = .releasing snapshot.job_identifier false) (hshutdown : Shutdown s t) :
    Supervised t where
  settled := by
    refine h.settled.of_saved hsaved (hsaved.job?_eq hjob) fun job' hjob' hterminal => ?_
    obtain rfl := Option.some_inj.mp (hjob.symm.trans hjob')
    exact hstatus hterminal
  held key hholds := by
    rw [hthread] at hholds
    exact absurd hholds (by simp [Scheduler.holds])
  shutdown := hshutdown.closing h.shutdown

/-- Every step that respects interruptions keeps the invariant. -/
theorem Supervised.step (h : Supervised s) (hstep : RespectfulStep fingerprint s e t) :
    Supervised t := by
  cases hstep.1.effect with
  | unchanged hstore hcontrol =>
    exact h.of_control hcontrol (hstore ▸ h.settled) fun key job hjob _ => ⟨job, hstore ▸ hjob, rfl⟩
  | created hmutation hsaved hstatus hfetch hcontrol =>
    have hfresh := hsaved.fresh (by simp)
    refine h.of_control hcontrol (h.settled.of_saved hsaved hsaved.job?_new fun job hjob => ?_)
      fun key job hjob _ => ⟨job, (hsaved.job?_new key).trans ((if_neg ?_).trans hjob), rfl⟩
    · exact absurd (hfresh.symm.trans hjob) (by simp)
    · rintro rfl
      exact absurd (hfresh.symm.trans hjob) (by simp)
  | @acted job snapshot m hmutation hjob hsame hsaved hmoves hcontrol =>
    -- Actions start from queued, running and paused jobs only.
    have hstatus : job.status.Terminal → snapshot.status = job.status := by
      rcases hmoves with ⟨hbefore, hafter⟩ | ⟨hbefore | hbefore, -⟩ | ⟨-, hbefore, -⟩
      · exact fun _ => hafter.trans hbefore.symm
      all_goals
        rw [hbefore]
        exact fun hterminal => absurd hterminal (by decide)
    refine h.of_control hcontrol (h.settled.of_saved hsaved (hsaved.job?_eq hjob)
      fun job' hjob' hterminal => ?_) (status_kept hsaved hjob fun hactive => ?_)
    · obtain rfl := Option.some_inj.mp (hjob.symm.trans hjob')
      exact hstatus hterminal
    · rcases hmoves with ⟨hbefore, hafter⟩ | ⟨hbefore | hbefore, -⟩ | ⟨-, hbefore, -⟩
      · exact hafter.trans hbefore.symm
      all_goals
        rw [hbefore] at hactive
        exact absurd hactive (by decide)
  | marked _ hjob hsame hsaved hstatus hcontrol =>
    refine h.of_control hcontrol (h.settled.of_saved hsaved (hsaved.job?_eq hjob)
      fun job' hjob' _ => ?_) (status_kept hsaved hjob fun _ => hstatus)
    obtain rfl := Option.some_inj.mp (hjob.symm.trans hjob')
    exact hstatus
  | claimed _ hidle hjob hsame hsaved hqueued hstatus hthread hshutdown =>
    refine ⟨h.settled.of_saved hsaved (hsaved.job?_eq hjob) fun job' hjob' hterminal => ?_,
      fun key hholds => ?_, hshutdown.closing h.shutdown⟩
    · obtain rfl := Option.some_inj.mp (hjob.symm.trans hjob')
      rw [hqueued] at hterminal
      exact absurd hterminal (by decide)
    · rw [hthread] at hholds
      obtain rfl := Option.some_inj.mp hholds
      exact ⟨_, (hsaved.job?_eq hjob _).trans (if_pos rfl), Or.inl hstatus⟩
  | finished he hthread hjob hsame hsaved hstatus hkeeps hthread' hshutdown =>
    refine h.of_ended hjob hsaved (fun hterminal => ?_) hthread' hshutdown
    obtain ⟨job', hjob', hrunning | ⟨hinterrupted, -⟩⟩ := h.held _ (by rw [hthread]; rfl)
    · obtain rfl := Option.some_inj.mp (hjob.symm.trans hjob')
      rw [hrunning] at hterminal
      exact absurd hterminal (by decide)
    · obtain rfl := Option.some_inj.mp (hjob.symm.trans hjob')
      rw [hinterrupted]
      exact hkeeps (hstep.2 _ _ _ _ _ he hthread hjob hinterrupted)
  | failed _ hholds hjob hsame hsaved hstatus hthread hshutdown =>
    refine h.of_ended hjob hsaved (fun hterminal => ?_) hthread hshutdown
    obtain ⟨job', hjob', hrunning | ⟨hinterrupted, hclosing⟩⟩ := h.held _ hholds
    · obtain rfl := Option.some_inj.mp (hjob.symm.trans hjob')
      rw [hrunning] at hterminal
      exact absurd hterminal (by decide)
    · obtain rfl := Option.some_inj.mp (hjob.symm.trans hjob')
      rw [hinterrupted, hstatus, if_pos hclosing]
  | interrupted _ hinterrupted hphase hshutdown =>
    refine ⟨h.settled.of_interrupted hinterrupted, fun key hholds => ?_,
      hshutdown.closing h.shutdown⟩
    rcases hphase with ⟨-, hthread | ⟨hthread, -⟩⟩ | ⟨-, hcloser, hthread, hclosing⟩
    · rw [hthread] at hholds
      exact absurd hholds (by simp [Scheduler.holds])
    · rw [hthread] at hholds
      exact absurd hholds (by simp [Scheduler.holds])
    · -- The shutdown gave up waiting for the thread, and has set the closing flag before.
      have hclosed := h.shutdown (by rw [hcloser]; decide)
      obtain ⟨job, hjob, hstatus⟩ := h.held key (hthread ▸ hholds)
      rcases hinterrupted.job key with hsame | ⟨_, snapshot, _, _, hsnapshot, _, hafter⟩
      · refine ⟨job, hsame.trans hjob, hstatus.imp_right fun hboth => ⟨hboth.1, hclosing hclosed⟩⟩
      · exact ⟨snapshot, hsnapshot, Or.inr ⟨hafter, hclosing hclosed⟩⟩

lemma supervised_initial : Supervised {} where
  settled := settled_created
  held _ h := absurd h (by simp [Scheduler.holds])
  shutdown h := absurd rfl h

/-- Final statuses stay along every run whose steps respect interruptions. -/
theorem terminal_states_final (h : Run (RespectfulStep fingerprint) {} events s) :
    Settled s.store :=
  (h.invariant Supervised (fun h hstep => h.step hstep) supervised_initial).settled

/-! ### A shutdown that gives up waiting -/

def train_request : WorkflowRequest where
  client_request_identifier := "a"
  operation := .train
  allowed := by decide
  steps := by decide

/-- Training is possible and its inputs resolve. -/
def allowing : Workspace where
  training_preflight := .ok { allowed := true, resolved_settings := .null }
  resolve_request := .ok ()

def submitted : WorkspaceJobService :=
  (submit working (fun _ => "f") allowing "1" train_request started).2

def polling : WorkspaceJobService :=
  { submitted with thread := .polling }

def claimed : WorkspaceJobService :=
  let polled := next_job working (.ok false) polling
  { polled.2 with thread := after_poll polled.1 }

/-- A training worker runs. -/
def training : WorkspaceJobService :=
  let begun := begin_run working allowing "job_1" claimed
  { begun.2 with thread := after_begin "job_1" begun.1 }

def closing : WorkspaceJobService :=
  { training with closing := true, closer := .begun }

def stopping : WorkspaceJobService :=
  let asked := request_stop working closing
  { settle asked.1 asked.2 with closer := .stopped }

/-- The joins have timed out. -/
def abandoned : WorkspaceJobService :=
  { stopping with closer := .joined }

/-- The shutdown has interrupted the job of the live thread. -/
def reconciled : WorkspaceJobService :=
  let swept := reconcile working abandoned
  { settle swept.1 swept.2 with closer := .reconciled }

def end_of_training (exit : Outcome) : WorkspaceJobService :=
  let ended := finish_run working "job_1" (.workflow train_request) exit reconciled
  { ended.2 with thread := after_finish "job_1" ended.1 }

/-- The worker ended on the signal and saved a checkpoint. -/
def stopped_exit : Outcome where
  worker := .ok { code := 143, result := [("status", .str "stopped"), ("checkpoint", .str "c")] }
  inference := .ok []
  register _ := .ok "1"

/-- The worker was killed before it wrote its summary. -/
def killed_exit : Outcome where
  worker := .error (.application (fetch_failure "workflow_failed"))
  inference := .ok []
  register _ := .ok "1"

/-- The events up to the interruption. -/
def until_reconciled : List Event :=
  [.start working false, .submit working allowing "1" train_request, .check,
    .poll working (.ok false), .begin_run working allowing, .begin_close, .request_stop working,
    .join, .reconcile working]

/-- A step of another kind than the end of a run respects interruptions. -/
lemma respectful (h : Step fingerprint s e t)
    (he : ∀ surroundings exit, e ≠ .finish surroundings exit) : RespectfulStep fingerprint s e t :=
  ⟨h, fun surroundings exit _ _ _ hfinish => absurd hfinish (he surroundings exit)⟩

set_option maxRecDepth 2000 in
lemma run_until_reconciled :
    Run (RespectfulStep fun _ => "f") {} until_reconciled reconciled := by
  have hstart : Step (fun _ => "f") {} (.start working false) started :=
    .start rfl rfl rfl Prod.mk.eta.symm
  have hsubmit : Step (fun _ => "f") started (.submit working allowing "1" train_request)
      submitted := .submit Prod.mk.eta.symm
  have hcheck : Step (fun _ => "f") submitted .check polling := .check rfl
  have hpoll : Step (fun _ => "f") polling (.poll working (.ok false)) claimed :=
    .poll rfl Prod.mk.eta.symm
  have hbegin : Step (fun _ => "f") claimed (.begin_run working allowing) training :=
    .begin_run rfl Prod.mk.eta.symm
  have hclose : Step (fun _ => "f") training .begin_close closing := .begin_close rfl
  have hstop : Step (fun _ => "f") closing (.request_stop working) stopping :=
    .request_stop rfl Prod.mk.eta.symm
  have hjoin : Step (fun _ => "f") stopping .join abandoned := .join rfl
  have hreconcile : Step (fun _ => "f") abandoned (.reconcile working) reconciled :=
    .reconcile rfl Prod.mk.eta.symm
  refine .cons (respectful hstart ?_) <| .cons (respectful hsubmit ?_) <|
    .cons (respectful hcheck ?_) <| .cons (respectful hpoll ?_) <|
    .cons (respectful hbegin ?_) <| .cons (respectful hclose ?_) <|
    .cons (respectful hstop ?_) <| .cons (respectful hjoin ?_) <|
    .cons (respectful hreconcile ?_) .nil
  all_goals
    rintro _ _ ⟨⟩

/-- The interruption leaves the thread at its job. -/
lemma executing_reconciled :
    reconciled.thread = .executing "job_1" (.workflow train_request) := by
  have habandoned : abandoned.thread = .executing "job_1" (.workflow train_request) := rfl
  obtain ⟨outcome, t, hswept⟩ : ∃ outcome t, reconcile working abandoned = (outcome, t) :=
    ⟨_, _, Prod.mk.eta.symm⟩
  obtain ⟨store, rfl, -⟩ := reconcile_frame hswept
  rw [reconciled, hswept, ← habandoned]
  exact (settle_frame outcome _).2.1

lemma finish_training (exit : Outcome) :
    Step (fun _ => "f") reconciled (.finish working exit) (end_of_training exit) :=
  .finish executing_reconciled rfl

/-- The runner publishes its own outcome over the interruption. -/
theorem terminal_state_overwritten : ∃ events s,
    Run (Step fun _ => "f") {} events s ∧ ¬ Settled s.store := by
  refine ⟨until_reconciled ++ [.finish working stopped_exit], end_of_training stopped_exit,
    Run.append (run_until_reconciled.mono fun h => h.1) (.cons (finish_training _) .nil), ?_⟩
  intro hsettled
  have hevents : (end_of_training stopped_exit).store.events.map
      (fun event => (event.job_identifier, event.status)) =
      [("job_1", .queued), ("job_1", .running), ("job_1", .running), ("job_1", .interrupted),
        ("job_1", .stopped)] := by decide +kernel
  have hpairs := (List.pairwise_map.mpr hsettled.events :
    ((end_of_training stopped_exit).store.events.map
      fun event => (event.job_identifier, event.status)).Pairwise
      fun earlier later => earlier.1 = later.1 → earlier.2.Terminal → later.2 = earlier.2)
  rw [hevents] at hpairs
  exact absurd hpairs (by decide)

/-- The worker was killed, and the interruption stays. -/
theorem terminal_states_final_killed : Settled (end_of_training killed_exit).store := by
  have hfinish : RespectfulStep (fun _ => "f") reconciled (.finish working killed_exit)
      (end_of_training killed_exit) := by
    refine ⟨finish_training _, fun surroundings exit _ request job he hthread _ _ => ?_⟩
    obtain ⟨-, rfl⟩ := Scheduler.executing.inj (executing_reconciled.symm.trans hthread)
    obtain ⟨-, rfl⟩ := Event.finish.inj he
    intro worker hworker
    exact absurd hworker (by simp [killed_exit])
  exact terminal_states_final (run_until_reconciled.append (.cons hfinish .nil))

end StegoLab

import StegoLab.Workflow.Admission
import StegoLab.Workflow.Frames

/-!
# The sections that touch secrets

An accepted encode or decode job puts its secrets in, a cancelled one forgets them, and the start
of a run takes them out.
-/

namespace StegoLab

open CanonicalJson Transaction

variable {fingerprint : Json → String} {surroundings : Surroundings} {s t u : WorkspaceJobService}
  {e : Event} {identifier : String} {secrets : Dict String} {inference : InferenceSecretStore}

/-- The stored secrets of a job. -/
def WorkspaceJobService.secrets? (service : WorkspaceJobService) (identifier : String) :
    Option (Dict String) :=
  service.inference.bind fun inference => inference.entries.get? identifier

/-- A queued or running encode or decode job. -/
def is_waiting (job : JobSnapshot) : Bool :=
  is_inference job && (job.status = .queued || job.status = .running)

/-! ### Storing -/

/-- The bytes of a secret set. -/
def secret_size (secrets : Dict String) : ℕ :=
  (secrets.entries.map fun entry => entry.1.utf8ByteSize + entry.2.utf8ByteSize).sum

/-- The secrets of an admitted request are small. -/
lemma secret_size_of_admitted {reading : InferenceReading} {request : InferenceJobRequest}
    {record : InferenceJobRecord} (h : AdmittedInference reading request record) :
    secret_size request.secrets ≤ MAXIMUM_SECRET_BYTES := by
  have hpassword := h.password
  unfold secret_size InferenceJobRequest.secrets
  cases hmessage : request.message with
  | none =>
    have hentries : (Dict.of_items [("password", request.password)]).entries
        = [("password", request.password)] := rfl
    rw [hentries]
    change 8 + request.password.utf8ByteSize + 0 ≤ 4096
    omega
  | some message =>
    have hlong := h.message message hmessage
    have hentries : (Dict.of_items [("password", request.password), ("message", message)]).entries
        = [("message", message), ("password", request.password)] := by
      change Dict.insert_entry "message" message [("password", request.password)] = _
      rw [Dict.insert_entry, if_pos (show "message" < "password" by decide)]
    rw [hentries]
    change 7 + message.utf8ByteSize + (8 + request.password.utf8ByteSize + 0) ≤ 4096
    omega

/-- A store with room takes the secrets of a new job. -/
lemma put_eq_ok (hsize : secret_size secrets ≤ MAXIMUM_SECRET_BYTES)
    (hroom : inference.entries.entries.length < inference.capacity) :
    inference.put identifier secrets
      = .ok { inference with entries := inference.entries.insert identifier secrets } := by
  refine bind_eq_ok.mpr ⟨(), raise_if_eq_ok.mpr (not_lt.mpr hsize), bind_eq_ok.mpr ⟨(), ?_, rfl⟩⟩
  exact raise_if_eq_ok.mpr fun h => absurd h.2 (not_le.mpr hroom)

lemma put_secrets_eq (hinference : s.inference = some inference)
    (hsize : secret_size secrets ≤ MAXIMUM_SECRET_BYTES)
    (hroom : inference.entries.entries.length < inference.capacity) :
    put_secrets identifier secrets s = (.ok (),
      { s with
        inference := some { inference with
          entries := inference.entries.insert identifier secrets } }) := by
  have hrequire : require_inference s = (.ok inference, s) := by
    rw [require_inference, read_bind, hinference]
    rfl
  refine (bind_of_ok hrequire).trans ?_
  rw [put_eq_ok hsize hroom]
  rfl

/-! ### Sections -/

/-- The service after an encode or decode job was saved. -/
structure SavedInference (s : WorkspaceJobService) (saved : JobSnapshot)
    (record : InferenceJobRecord) (t : WorkspaceJobService) : Prop where
  closing : s.closing = false
  room : (s.store.sorted_jobs.filter is_waiting).length < MAXIMUM_INFERENCE_JOBS
  status : saved.status = .queued
  «matches» : ({ snapshot := saved, request := .inference record } : JobRow).Matches
  frame : ∃ store, t = { s with store }
  fresh : s.store.jobs.get? saved.job_identifier = none
  rows : ∀ key, t.store.jobs.get? key = if key = saved.job_identifier
    then some { snapshot := saved, request := .inference record } else s.store.jobs.get? key

/-- A submission changes nothing, or saves its job and then puts its secrets in. -/
lemma submit_inference_cases {digest : Dict String → String}
    {admission : Except Raised InferenceJobRecord} {uuid4 : String} {request : InferenceJobRequest}
    {outcome : Except Raised JobSnapshot}
    (h : submit_inference surroundings fingerprint digest admission uuid4 request s
      = (outcome, t)) :
    t = s ∨ ∃ record saved u, admission = .ok record ∧ SavedInference s saved record u ∧
      (put_secrets saved.job_identifier request.secrets >>= fun _ => pure saved) u
        = (outcome, t) := by
  rcases unless_replayed_cases h with rfl | ⟨-, haccept⟩
  · exact Or.inl rfl
  rcases (readOnly_lift _).bind_cases haccept with ⟨rfl, -⟩ | ⟨record, hrecord, hrest⟩
  · exact Or.inl rfl
  rcases readOnly_refuse_closing.bind_cases hrest with ⟨rfl, -⟩ | ⟨_, hclosing, hrest⟩
  · exact Or.inl rfl
  rcases readOnly_list_jobs.bind_cases hrest with ⟨rfl, -⟩ | ⟨jobs, hjobs, hrest⟩
  · exact Or.inl rfl
  rcases (readOnly_lift _).bind_cases hrest with ⟨rfl, -⟩ | ⟨_, hroom, hrest⟩
  · exact Or.inl rfl
  rcases bind_cases hrest with ⟨_, hsave, -⟩ | ⟨saved, u, hsave, hput⟩
  · exact Or.inl (eq_of_error hsave (atomic_save _ _ _))
  obtain rfl := list_jobs_ok hjobs
  obtain ⟨rfl, hstore, store', hwrite, hrows⟩ := save_rows hsave
  obtain ⟨hfresh, hlookup⟩ := insert_job_rows hwrite
  refine Or.inr ⟨record, _, u, (lift_ok.mp hrecord).1, ⟨?_, ?_, rfl, ⟨rfl, ?_⟩, hstore, hfresh, ?_⟩,
    hput⟩
  · rw [refuse_closing, read_bind] at hclosing
    exact Bool.eq_false_iff.mpr (raise_if_eq_ok.mp (lift_ok.mp hclosing).1)
  · exact not_le.mp (raise_if_eq_ok.mp (lift_ok.mp hroom).1)
  · intro record' hrecord'
    obtain rfl := StoredRequest.inference.inj hrecord'
    rfl
  · intro key
    rw [hrows, hlookup]

/-- The service after a job was moved by a user action. -/
structure Moved (s : WorkspaceJobService) (job saved : JobSnapshot) (t : WorkspaceJobService) :
    Prop where
  stored : s.store.job? saved.job_identifier = some job
  same : SameJob job saved
  moves : ActionMoves job saved
  jobs : ∀ key, t.store.job? key =
    if key = saved.job_identifier then some saved else s.store.job? key
  frame : Framed s { t with inference := s.inference }
  closer : t.closer = s.closer
  inference : t.inference = if saved.status = .cancelled
    then s.inference.map fun inference => inference.discard saved.job_identifier else s.inference

lemma keepsJob_requested_changes {job : JobSnapshot} {action : JobAction}
    {changes : JobSnapshot → JobSnapshot} (h : requested_changes job action = .ok changes) :
    KeepsJob changes job := by
  unfold requested_changes at h
  split_ifs at h
  · unfold fetch_action_changes at h
    split_ifs at h
    · obtain rfl := Except.ok.inj h
      exact ⟨rfl, rfl, rfl⟩
    · obtain rfl := Except.ok.inj h
      exact ⟨rfl, rfl, rfl⟩
    · obtain rfl := Except.ok.inj h
      exact ⟨rfl, rfl, rfl⟩
    · obtain rfl := Except.ok.inj h
      exact ⟨rfl, rfl, rfl⟩
    · simp [fail] at h
  · unfold action_changes at h
    split_ifs at h
    · obtain rfl := Except.ok.inj h
      exact ⟨rfl, rfl, rfl⟩
    · obtain rfl := Except.ok.inj h
      exact ⟨rfl, rfl, rfl⟩
    · simp [fail] at h

lemma discard_secrets_eq {job : JobSnapshot} : discard_secrets job s = (.ok (),
    { s with
      inference := if job.status = .cancelled
        then s.inference.map fun inference => inference.discard job.job_identifier
        else s.inference }) := by
  rw [discard_secrets, read_bind]
  split_ifs <;> rfl

/-- An action changes nothing, or moves its job. -/
lemma action_cases {request : WorkflowActionRequest} {outcome : Except Raised JobSnapshot}
    (h : action surroundings fingerprint identifier request s = (outcome, t)) :
    t = s ∨ ∃ job saved, Moved s job saved t := by
  rcases unless_replayed_cases h with rfl | ⟨-, haccept⟩
  · exact Or.inl rfl
  rcases (readOnly_get_job _).bind_cases haccept with ⟨rfl, -⟩ | ⟨job, hget, hrest⟩
  · exact Or.inl rfl
  rcases (readOnly_lift _).bind_cases hrest with ⟨rfl, -⟩ | ⟨_, -, hrest⟩
  · exact Or.inl rfl
  rcases (readOnly_lift _).bind_cases hrest with ⟨rfl, -⟩ | ⟨changes, hchanges, hrest⟩
  · exact Or.inl rfl
  rcases bind_cases hrest with ⟨_, hchange, -⟩ | ⟨saved, u, hchange, hdiscard⟩
  · exact Or.inl (eq_of_error hchange (atomic_change _ _ _))
  have hjob := get_job_ok hget
  have hkeeps := keepsJob_requested_changes (lift_ok.mp hchanges).1
  obtain ⟨hsame, hmoves⟩ := requested_changes_moves (lift_ok.mp hchanges).1 (change_ok hchange).1
  obtain ⟨_, store, rfl, hsaved⟩ := change_ok hchange
  have hstored : s.store.job? saved.job_identifier = some job := by
    rw [hsame.job_identifier, WorkflowStore.identifier_of_job? hjob, hjob]
  obtain ⟨row, hrow, hrow_job⟩ := WorkflowStore.job?_eq_some.mp hstored
  have hframed : Framed s { s with store } := by
    refine framed_change hkeeps ⟨row, ?_, by rw [hrow_job], by rw [hrow_job]⟩ hchange
    rw [← hsame.job_identifier, hrow]
  rw [bind_of_ok discard_secrets_eq] at hdiscard
  obtain rfl := congrArg Prod.snd hdiscard
  exact Or.inr ⟨job, saved, hstored, hsame, hmoves, hsaved.job?_eq hstored,
    ⟨hframed.rows, rfl, rfl, rfl⟩, rfl, rfl⟩

/-! ### Taking -/

lemma request_eq_ok {store : WorkflowStore} {database : Access → Bool} {request : StoredRequest}
    (h : store.request database identifier = .ok request) :
    ∃ row, store.jobs.get? identifier = some row ∧ row.request = request := by
  obtain ⟨-, -, h⟩ := bind_eq_ok.mp h
  cases hrow : store.jobs.get? identifier with
  | none =>
    rw [hrow] at h
    exact absurd h (by simp [fail])
  | some row =>
    rw [hrow] at h
    exact ⟨row, rfl, pure_eq_ok.mp h⟩

lemma request_eq_error {store : WorkflowStore} {database : Access → Bool} {raised : Raised}
    (h : store.request database identifier = .error raised) :
    raised = .application StorageFailure ∨ store.jobs.get? identifier = none := by
  unfold WorkflowStore.request connection raise_if at h
  split_ifs at h
  · exact Or.inl (Except.error.inj h).symm
  · cases hrow : store.jobs.get? identifier with
    | none => exact Or.inr rfl
    | some row =>
      rw [hrow] at h
      exact absurd h (by simp [bind, Except.bind, pure, Except.pure])

/-- The stored secrets are taken, or there are none. -/
lemma take_secrets_cases {outcome : Except Raised Unit}
    (h : take_secrets identifier s = (outcome, t)) :
    (∃ inference, s.inference = some inference ∧ s.secrets? identifier ≠ none ∧ outcome = .ok () ∧
      t = { s with inference := some (inference.discard identifier) }) ∨
    s.secrets? identifier = none ∧ t = s ∧ ∃ raised, outcome = .error raised := by
  unfold WorkspaceJobService.secrets?
  rw [take_secrets] at h
  cases hinference : s.inference with
  | none =>
    have hrequire : require_inference s = (.error (.application inference_unavailable), s) := by
      rw [require_inference, read_bind, hinference]
      rfl
    rw [bind_of_error hrequire] at h
    obtain ⟨rfl, rfl⟩ := Prod.mk.inj h
    exact Or.inr ⟨rfl, rfl, _, rfl⟩
  | some inference =>
    have hrequire : require_inference s = (.ok inference, s) := by
      rw [require_inference, read_bind, hinference]
      rfl
    rw [bind_of_ok hrequire] at h
    by_cases hnone : (inference.entries.get? identifier).isNone = true
    · rw [lift_bind, raise_if, if_pos hnone] at h
      obtain ⟨rfl, rfl⟩ := Prod.mk.inj h
      exact Or.inr ⟨Option.isNone_iff_eq_none.mp hnone, rfl, _, rfl⟩
    · rw [lift_bind, raise_if, if_neg hnone] at h
      obtain ⟨rfl, rfl⟩ := Prod.mk.inj h
      exact Or.inl ⟨inference, rfl, fun heq => hnone (Option.isNone_iff_eq_none.mpr heq), rfl, rfl⟩

lemma readOnly_check_training (workspace : Workspace) (request : WorkflowRequest) :
    ReadOnly (check_training workspace request) := by
  unfold check_training
  split
  · exact readOnly_require_storage.bind fun _ => (readOnly_lift _).bind fun _ => readOnly_lift _
  · exact readOnly_pure _

/-- The start of a run takes the secrets of an encode or decode job, and nothing else. -/
lemma begin_run_ok {workspace : Workspace} {request : StoredRequest}
    (h : begin_run surroundings workspace identifier s = (.ok request, t)) :
    (∃ row, s.store.jobs.get? identifier = some row ∧ row.request = request) ∧
      ((∃ record, request = .inference record) ∧ s.secrets? identifier ≠ none ∧
          (∃ inference, s.inference = some inference ∧
            t = { s with inference := some (inference.discard identifier) }) ∨
        (∀ record, request ≠ .inference record) ∧ t = s) := by
  rw [begin_run, read_bind] at h
  obtain ⟨request', hrequest, h⟩ := lift_bind_ok.mp h
  obtain ⟨_, u, hprepare, hpure⟩ := bind_ok.mp h
  obtain ⟨rfl, rfl⟩ := pure_ok.mp hpure
  refine ⟨request_eq_ok hrequest, ?_⟩
  cases request' with
  | inference record =>
    rcases take_secrets_cases hprepare with ⟨inference, hinference, hsome, -, rfl⟩ | ⟨-, -, raised, h⟩
    · exact Or.inl ⟨⟨record, rfl⟩, hsome, inference, hinference, rfl⟩
    · exact absurd h (by simp)
  | fetch request => exact Or.inr ⟨by simp, (pure_cases hprepare).2⟩
  | workflow request =>
    exact Or.inr ⟨by simp,
      ((readOnly_check_training workspace request).bind fun _ => readOnly_lift _) _ _ _ hprepare⟩

/-- A run that does not start leaves everything, and no secrets unless the database failed. -/
lemma begin_run_error {workspace : Workspace} {raised : Raised}
    (h : begin_run surroundings workspace identifier s = (.error raised, t)) :
    t = s ∧ (raised = .application StorageFailure ∨ s.store.jobs.get? identifier = none ∨
      ∃ row, s.store.jobs.get? identifier = some row ∧
        ∀ record, row.request = .inference record → s.secrets? identifier = none) := by
  rw [begin_run, read_bind, lift_bind] at h
  cases hrequest : s.store.request surroundings.database identifier with
  | error raised' =>
    rw [hrequest] at h
    obtain ⟨herror, rfl⟩ := Prod.mk.inj h
    obtain rfl := Except.error.inj herror
    exact ⟨rfl, (request_eq_error hrequest).imp_right Or.inl⟩
  | ok request =>
    rw [hrequest] at h
    obtain ⟨row, hrow, rfl⟩ := request_eq_ok hrequest
    have hprepare : prepare_run workspace identifier row.request s = (.error raised, t) := by
      rcases bind_error.mp h with hprepare | ⟨_, u, -, hpure⟩
      · exact hprepare
      · exact absurd (pure_cases hpure).1 (by simp)
    cases hkind : row.request with
    | inference record =>
      rw [hkind] at hprepare
      rcases take_secrets_cases hprepare with ⟨_, -, -, h, -⟩ | ⟨hnone, rfl, -⟩
      · exact absurd h (by simp)
      · exact ⟨rfl, Or.inr (Or.inr ⟨row, hrow, fun _ _ => hnone⟩)⟩
    | fetch request =>
      rw [hkind] at hprepare
      exact absurd (pure_cases hprepare).1 (by simp)
    | workflow request =>
      rw [hkind] at hprepare
      refine ⟨((readOnly_check_training workspace request).bind fun _ => readOnly_lift _) _ _ _
        hprepare, Or.inr (Or.inr ⟨row, hrow, fun record hrecord => ?_⟩)⟩
      exact absurd (hkind.symm.trans hrecord) (by simp)

/-! ### Waiting jobs -/

lemma is_waiting_eq {job : JobSnapshot} : is_waiting job = true ↔
    is_inference job = true ∧ (job.status = .queued ∨ job.status = .running) := by
  simp [is_waiting]

lemma is_inference_of_same {job saved : JobSnapshot} (h : SameJob job saved) :
    is_inference saved = is_inference job := by
  rw [is_inference, is_inference, h.operation]

lemma not_fetch_of_inference {job : JobSnapshot} (h : is_inference job = true) :
    is_fetch job = false := by
  unfold is_inference at h
  unfold is_fetch
  rcases Bool.or_eq_true_iff.mp h with h | h
  · rw [of_decide_eq_true h]
    decide
  · rw [of_decide_eq_true h]
    decide

/-- A matching row of another request holds no encode or decode job. -/
lemma JobRow.Matches.of_inference {row : JobRow} (h : row.Matches)
    (his : is_inference row.snapshot = true) : ∃ record, row.request = .inference record := by
  rw [is_inference, h.operation] at his
  cases hrequest : row.request with
  | inference record => exact ⟨record, rfl⟩
  | fetch request =>
    rw [hrequest] at his
    exact absurd his (by simp [StoredRequest.operation])
  | workflow request =>
    rw [hrequest] at his
    have hallowed := request.allowed
    change (decide (request.operation = .encode) || decide (request.operation = .decode)) = true
      at his
    rcases Bool.or_eq_true_iff.mp his with his | his
    · rw [of_decide_eq_true his] at hallowed
      exact absurd hallowed (by decide)
    · rw [of_decide_eq_true his] at hallowed
      exact absurd hallowed (by decide)

/-- How an encode or decode job came to its state in one action. -/
lemma Moved.came_from {job saved : JobSnapshot} (h : Moved s job saved t)
    (his : is_inference saved = true) (hstatus : saved.status = .queued ∨ saved.status = .running) :
    saved.status = .running ∧ job.status = .running := by
  rcases h.moves with ⟨hjob, hsaved⟩ | ⟨-, hsaved⟩ | ⟨hfetch, -, -⟩
  · exact ⟨hsaved, hjob⟩
  · rw [hsaved] at hstatus
    exact absurd hstatus (by decide)
  · rw [not_fetch_of_inference (is_inference_of_same h.same ▸ his)] at hfetch
    exact absurd hfetch (by simp)

/-- How a waiting job came to its state in one step without secrets. -/
lemma Effect.came_from (h : Effect fingerprint s e t) (hrows : KeepsRows s t) {key : String}
    {job' : JobSnapshot} (hjob' : t.store.job? key = some job') (hwaiting : is_waiting job' = true) :
    ∃ job, s.store.job? key = some job ∧ is_waiting job = true ∧
      (job'.status = job.status ∨ job.status = .queued ∧ job'.status = .running) := by
  obtain ⟨his, hstatus⟩ := is_waiting_eq.mp hwaiting
  -- A saved change of the job at this key, or of another one.
  have hsaved : ∀ {job snapshot : JobSnapshot} {mutation : Option (String × String)},
      s.store.job? snapshot.job_identifier = some job → SameJob job snapshot →
      s.store.Saved snapshot none mutation t.store →
      (is_inference job = true → snapshot.status = .queued ∨ snapshot.status = .running →
        snapshot.status = job.status ∨ job.status = .queued ∧ snapshot.status = .running) →
      ∃ job, s.store.job? key = some job ∧ is_waiting job = true ∧
        (job'.status = job.status ∨ job.status = .queued ∧ job'.status = .running) := by
    intro job snapshot mutation hjob hsame hsaved hmoved
    rw [hsaved.job?_eq hjob] at hjob'
    split_ifs at hjob' with hkey
    · obtain rfl := Option.some_inj.mp hjob'
      have his' := is_inference_of_same hsame ▸ his
      have hmove := hmoved his' hstatus
      refine ⟨job, hkey ▸ hjob, is_waiting_eq.mpr ⟨his', ?_⟩, hmove⟩
      rcases hmove with hmove | ⟨hqueued, -⟩
      · exact hmove ▸ hstatus
      · exact Or.inl hqueued
    · exact ⟨job', hjob', hwaiting, Or.inl rfl⟩
  cases h with
  | unchanged hstore => exact ⟨job', hstore ▸ hjob', hwaiting, Or.inl rfl⟩
  | @created snapshot request m _ hsaved' =>
    rw [hsaved'.job?_new] at hjob'
    split_ifs at hjob' with hkey
    · obtain rfl := Option.some_inj.mp hjob'
      have hnone : s.store.jobs.get? snapshot.job_identifier = none :=
        Option.map_eq_none_iff.mp (hsaved'.fresh (by simp))
      have hnew : t.store.job? snapshot.job_identifier = some snapshot := by
        rw [hsaved'.job?_new, if_pos rfl]
      obtain ⟨row, hrow, hrow_job⟩ := WorkflowStore.job?_eq_some.mp hnew
      obtain ⟨hmatches, hother⟩ := hrows.added _ row hnone hrow
      obtain ⟨record, hrecord⟩ := hmatches.of_inference (hrow_job.symm ▸ his)
      exact absurd hrecord (hother record)
    · exact ⟨job', hjob', hwaiting, Or.inl rfl⟩
  | acted _ hjob hsame hsaved' hmoves =>
    refine hsaved hjob hsame hsaved' fun his hstatus => ?_
    rcases hmoves with ⟨hjob, hsnapshot⟩ | ⟨-, hsnapshot⟩ | ⟨hfetch, -, -⟩
    · exact Or.inl (hsnapshot.trans hjob.symm)
    · rw [hsnapshot] at hstatus
      exact absurd hstatus (by decide)
    · rw [not_fetch_of_inference his] at hfetch
      exact absurd hfetch (by simp)
  | marked _ hjob hsame hsaved' hsnapshot => exact hsaved hjob hsame hsaved' fun _ _ => Or.inl hsnapshot
  | claimed _ _ hjob hsame hsaved' hqueued hsnapshot =>
    exact hsaved hjob hsame hsaved' fun _ _ => Or.inr ⟨hqueued, hsnapshot⟩
  | finished _ _ hjob hsame hsaved' hended =>
    exact hsaved hjob hsame hsaved' fun _ hstatus =>
      absurd hstatus (not_or.mpr ⟨hended.2, hended.1⟩)
  | failed _ _ hjob hsame hsaved' hsnapshot =>
    refine hsaved hjob hsame hsaved' fun _ hstatus => ?_
    rw [hsnapshot] at hstatus
    split_ifs at hstatus <;> exact absurd hstatus (by decide)
  | interrupted _ hinterrupted =>
    rcases hinterrupted.job key with hkept | ⟨_, snapshot, -, -, hsnapshot, -, hinterrupted⟩
    · exact ⟨job', hkept ▸ hjob', hwaiting, Or.inl rfl⟩
    · obtain rfl := Option.some_inj.mp (hsnapshot.symm.trans hjob')
      rw [hinterrupted] at hstatus
      exact absurd hstatus (by decide)

/-- A waiting job goes on waiting while the service is open, unless the thread has held it and goes
on elsewhere. -/
lemma Effect.goes_on (h : Effect fingerprint s e t) (hrequest : e.request = none) {key : String}
    {job : JobSnapshot} (hjob : s.store.job? key = some job) (hwaiting : is_waiting job = true)
    (hfree : s.thread.holds = some key → t.thread = s.thread) (hpresent : s.thread ≠ .absent)
    (hserving : s.closer = .serving) :
    ∃ job', t.store.job? key = some job' ∧ is_waiting job' = true := by
  obtain ⟨his, hstatus⟩ := is_waiting_eq.mp hwaiting
  have hmutation : e.mutation fingerprint = none := by rw [Event.mutation, hrequest]; rfl
  -- A saved change of the job at this key, or of another one.
  have hsaved : ∀ {job' snapshot : JobSnapshot} {mutation : Option (String × String)},
      s.store.job? snapshot.job_identifier = some job' → SameJob job' snapshot →
      s.store.Saved snapshot none mutation t.store →
      (key = snapshot.job_identifier → job' = job →
        snapshot.status = .queued ∨ snapshot.status = .running) →
      ∃ job', t.store.job? key = some job' ∧ is_waiting job' = true := by
    intro job' snapshot mutation hjob' hsame hsaved hmoved
    rw [hsaved.job?_eq hjob']
    split_ifs with hkey
    · have hsame_job : job' = job := by
        rw [← hkey, hjob, Option.some_inj] at hjob'
        exact hjob'.symm
      exact ⟨snapshot, rfl, is_waiting_eq.mpr
        ⟨(is_inference_of_same hsame).trans (hsame_job ▸ his), hmoved hkey hsame_job⟩⟩
    · exact ⟨job, hjob, hwaiting⟩
  cases h with
  | unchanged hstore => exact ⟨job, hstore ▸ hjob, hwaiting⟩
  | created hmutation' => exact absurd (hmutation.symm.trans hmutation') (by simp)
  | acted hmutation' => exact absurd (hmutation.symm.trans hmutation') (by simp)
  | marked _ hjob' hsame hsaved' hsnapshot =>
    exact hsaved hjob' hsame hsaved' fun _ heq => hsnapshot ▸ heq ▸ hstatus
  | claimed _ _ hjob' hsame hsaved' _ hsnapshot =>
    exact hsaved hjob' hsame hsaved' fun _ _ => Or.inr hsnapshot
  | finished _ hthread hjob' hsame hsaved' _ _ hthread' =>
    refine hsaved hjob' hsame hsaved' fun hkey _ => ?_
    have hsame_thread := hfree (by rw [hthread, hkey]; rfl)
    rw [hthread, hthread'] at hsame_thread
    exact absurd hsame_thread (by simp)
  | failed _ hholds hjob' hsame hsaved' _ hthread' =>
    refine hsaved hjob' hsame hsaved' fun hkey _ => ?_
    have hsame_thread := hfree (by rw [hholds, hkey])
    rw [← hsame_thread, hthread'] at hholds
    exact absurd hholds (by simp [Scheduler.holds])
  | interrupted _ _ hphase =>
    rcases hphase with ⟨habsent, -⟩ | ⟨-, hjoined, -⟩
    · exact absurd habsent hpresent
    · rw [hserving] at hjoined
      exact absurd hjoined (by decide)

end StegoLab

import StegoLab.Workflow.StepEffects

/-!
# Retries

Along every run a request identifier takes effect at most once. A repeat with the same payload
answers with the current snapshot of the job of the first request, and a repeat with another
payload is refused.
-/

namespace StegoLab

open CanonicalJson Transaction

variable {fingerprint : Json → String} {s t u : WorkspaceJobService} {e e' : Event}
  {events : List Event} {identifier : String} {payload payload' : Json}

/-! ### Answers -/

/-- The accesses that a request can make. -/
def Event.database : Event → Access → Bool
  | .submit surroundings _ _ _ => surroundings.database
  | .submit_fetch surroundings _ _ _ => surroundings.database
  | .submit_inference surroundings _ _ _ _ => surroundings.database
  | .action surroundings _ _ => surroundings.database
  | _ => fun _ => true

/-- A request is answered by its section. -/
inductive Answers (fingerprint : Json → String) :
    Event → WorkspaceJobService → Except Raised JobSnapshot → WorkspaceJobService → Prop where
  | submit {surroundings : Surroundings} {workspace : Workspace} {uuid4 : String}
      {request : WorkflowRequest} {s t : WorkspaceJobService} {outcome : Except Raised JobSnapshot}
      (h : submit surroundings fingerprint workspace uuid4 request s = (outcome, t)) :
      Answers fingerprint (.submit surroundings workspace uuid4 request) s outcome t
  | submit_fetch {surroundings : Surroundings} {dataset_uploads : UploadReading} {uuid4 : String}
      {request : DatasetFetchRequest} {s t : WorkspaceJobService}
      {outcome : Except Raised JobSnapshot}
      (h : submit_fetch surroundings fingerprint dataset_uploads uuid4 request s = (outcome, t)) :
      Answers fingerprint (.submit_fetch surroundings dataset_uploads uuid4 request) s outcome t
  | submit_inference {surroundings : Surroundings} {digest : Dict String → String}
      {admit_inference : Except Raised InferenceJobRecord} {uuid4 : String}
      {request : InferenceJobRequest} {s t : WorkspaceJobService}
      {outcome : Except Raised JobSnapshot}
      (h : submit_inference surroundings fingerprint digest admit_inference uuid4 request s
        = (outcome, t)) :
      Answers fingerprint (.submit_inference surroundings digest admit_inference uuid4 request) s
        outcome t
  | action {surroundings : Surroundings} {identifier : String} {request : WorkflowActionRequest}
      {s t : WorkspaceJobService} {outcome : Except Raised JobSnapshot}
      (h : action surroundings fingerprint identifier request s = (outcome, t)) :
      Answers fingerprint (.action surroundings identifier request) s outcome t

/-- The step of a request is its answer. -/
lemma Step.answers {request : String × Json} (h : Step fingerprint s e t)
    (hrequest : e.request = some request) : ∃ outcome, Answers fingerprint e s outcome t := by
  cases h with
  | submit h => exact ⟨_, .submit h⟩
  | submit_fetch h => exact ⟨_, .submit_fetch h⟩
  | submit_inference _ h => exact ⟨_, .submit_inference h⟩
  | action h => exact ⟨_, .action h⟩
  | _ => exact absurd hrequest (by simp [Event.request])

/-- Every request first asks for a replay of its identifier. -/
lemma Answers.replayed {outcome : Except Raised JobSnapshot}
    (h : Answers fingerprint e s outcome t) (hrequest : e.request = some (identifier, payload)) :
    ∃ surroundings accept, surroundings.database = e.database ∧
      unless_replayed surroundings identifier (fingerprint payload) accept s = (outcome, t) := by
  cases h with
  | submit h =>
    obtain ⟨rfl, rfl⟩ := Prod.ext_iff.mp (Option.some_inj.mp hrequest)
    exact ⟨_, _, rfl, h⟩
  | submit_fetch h =>
    obtain ⟨rfl, rfl⟩ := Prod.ext_iff.mp (Option.some_inj.mp hrequest)
    exact ⟨_, _, rfl, h⟩
  | submit_inference h =>
    obtain ⟨rfl, rfl⟩ := Prod.ext_iff.mp (Option.some_inj.mp hrequest)
    exact ⟨_, _, rfl, h⟩
  | action h =>
    obtain ⟨rfl, rfl⟩ := Prod.ext_iff.mp (Option.some_inj.mp hrequest)
    exact ⟨_, _, rfl, h⟩

/-- A recorded identifier is answered from the store alone. -/
lemma replay_of_recorded {store : WorkflowStore} {database : Access → Bool} {print : String}
    {row : Mutation} {job : JobSnapshot} (hrow : store.mutations.get? identifier = some row)
    (hjob : store.job? row.job = some job) :
    store.replay database identifier print =
      if database .mutation = false then .error (.application StorageFailure)
      else if row.fingerprint ≠ print then
        .error (.application WorkflowStore.request_identifier_conflict)
      else if database .job = false then .error (.application StorageFailure)
      else .ok (some job) := by
  obtain ⟨stored, hstored, rfl⟩ := WorkflowStore.job?_eq_some.mp hjob
  by_cases hmutation : database .mutation = false
  · rw [if_pos hmutation]
    simp [WorkflowStore.replay, connection, raise_if, hmutation, bind, Except.bind]
  · by_cases hprint : row.fingerprint = print
    · by_cases hread : database .job = false
      · simp [WorkflowStore.replay, WorkflowStore.get, connection, raise_if, hmutation, hrow, hprint,
          hread, bind, Except.bind]
      · simp [WorkflowStore.replay, WorkflowStore.get, connection, raise_if, hmutation, hrow, hprint,
          hread, hstored, bind, Except.bind, pure, Except.pure]
    · simp [WorkflowStore.replay, connection, raise_if, hmutation, hrow, hprint, bind, Except.bind]

/-! ### What is recorded -/

/-- No mutation and no job is ever lost, and no mutation is replaced by another. -/
structure Retains (s t : WorkspaceJobService) : Prop where
  mutations : ∀ identifier row, s.store.mutations.get? identifier = some row →
    t.store.mutations.get? identifier = some row
  jobs : ∀ key, (s.store.job? key).isSome = true → (t.store.job? key).isSome = true

lemma Retains.refl (s : WorkspaceJobService) : Retains s s :=
  ⟨fun _ _ => id, fun _ => id⟩

lemma Retains.trans (h : Retains s t) (h' : Retains t u) : Retains s u :=
  ⟨fun identifier row hrow => h'.mutations _ _ (h.mutations identifier row hrow),
    fun key hkey => h'.jobs key (h.jobs key hkey)⟩

/-- Saving a snapshot keeps every recorded mutation. -/
lemma mutations_of_saved {store store' : WorkflowStore} {snapshot : JobSnapshot}
    {request : Option StoredRequest} {mutation : Option (String × String)}
    (hsaved : store.Saved snapshot request mutation store') {row : Mutation}
    (hrow : store.mutations.get? identifier = some row) :
    store'.mutations.get? identifier = some row := by
  rw [hsaved.mutations]
  cases mutation with
  | none => exact hrow
  | some m =>
    have hunused := hsaved.unused m rfl
    rw [WorkflowStore.insert_mutation, Dict.get?_insert, if_neg, hrow]
    rintro rfl
    exact absurd (hunused.symm.trans hrow) (by simp)

/-- A saved snapshot is in the store, unless it updates a job that does not exist. -/
lemma jobs_of_saved {store store' : WorkflowStore} {snapshot : JobSnapshot}
    {request : Option StoredRequest} {mutation : Option (String × String)}
    (hsaved : store.Saved snapshot request mutation store') {key : String}
    (hkey : (store.job? key).isSome = true) : (store'.job? key).isSome = true := by
  rw [hsaved.job]
  split_ifs
  · rfl
  · exact hkey

lemma retains_of_saved {snapshot : JobSnapshot} {request : Option StoredRequest}
    {mutation : Option (String × String)} (hsaved : s.store.Saved snapshot request mutation t.store) :
    Retains s t :=
  ⟨fun _ _ => mutations_of_saved hsaved, fun _ => jobs_of_saved hsaved⟩

/-- Every step retains what is recorded. -/
lemma Step.retains (h : Step fingerprint s e t) : Retains s t := by
  cases h.effect with
  | unchanged hstore _ => exact ⟨fun _ _ => hstore ▸ id, fun _ => hstore ▸ id⟩
  | created _ hsaved => exact retains_of_saved hsaved
  | acted _ _ _ hsaved => exact retains_of_saved hsaved
  | marked _ _ _ hsaved => exact retains_of_saved hsaved
  | claimed _ _ _ _ hsaved => exact retains_of_saved hsaved
  | finished _ _ _ _ hsaved => exact retains_of_saved hsaved
  | failed _ _ _ _ hsaved => exact retains_of_saved hsaved
  | interrupted _ hinterrupted =>
    refine ⟨fun _ _ hrow => hinterrupted.mutations ▸ hrow, fun key hkey => ?_⟩
    rcases hinterrupted.job key with hsame | ⟨_, snapshot, _, _, hsnapshot, _⟩
    · rwa [hsame]
    · rw [hsnapshot]
      rfl

/-- A run retains what is recorded. -/
lemma retains_of_run (h : Run (Step fingerprint) s events t) : Retains s t := by
  refine h.relates (fun _ => True) Retains.refl (fun h h' => h.trans h') ?_ trivial
  exact fun _ hstep => ⟨trivial, hstep.retains⟩

/-- The one effect of a request: an event, and its mutation bound to the job of the event. -/
structure TookEffect (fingerprint : Json → String) (identifier : String) (payload : Json)
    (s t : WorkspaceJobService) (event : JobEvent) : Prop where
  events : t.store.events = s.store.events ++ [event]
  unused : s.store.mutations.get? identifier = none
  mutation : t.store.mutations.get? identifier =
    some { fingerprint := fingerprint payload, job := event.job_identifier }
  job : t.store.job? event.job_identifier = some event.snapshot

/-- A request that changes the store takes effect as a whole. -/
lemma Step.took_effect (h : Step fingerprint s e t) (hrequest : e.request = some (identifier, payload))
    (heffect : t.store ≠ s.store) :
    ∃ event, TookEffect fingerprint identifier payload s t event := by
  have hpair : e.mutation fingerprint = some (identifier, fingerprint payload) := by
    rw [Event.mutation, hrequest]
    rfl
  cases h.effect with
  | unchanged hstore _ => exact absurd hstore heffect
  | created hmutation hsaved =>
    obtain rfl := Option.some_inj.mp (hmutation.symm.trans hpair)
    refine ⟨_, hsaved.events, hsaved.unused _ rfl, ?_, ?_⟩
    · rw [hsaved.mutations, WorkflowStore.insert_mutation, Dict.get?_insert, if_pos rfl]
      rfl
    · exact (hsaved.job?_new _).trans (if_pos rfl)
  | acted hmutation hjob _ hsaved =>
    obtain rfl := Option.some_inj.mp (hmutation.symm.trans hpair)
    refine ⟨_, hsaved.events, hsaved.unused _ rfl, ?_, ?_⟩
    · rw [hsaved.mutations, WorkflowStore.insert_mutation, Dict.get?_insert, if_pos rfl]
      rfl
    · exact (hsaved.job?_eq hjob _).trans (if_pos rfl)
  | marked hnone => exact absurd (hnone.symm.trans hrequest) (by simp)
  | claimed hnone => exact absurd (hnone.symm.trans hrequest) (by simp)
  | finished he =>
    subst he
    exact absurd hrequest (by simp [Event.request])
  | failed hnone => exact absurd (hnone.symm.trans hrequest) (by simp)
  | interrupted hnone => exact absurd (hnone.symm.trans hrequest) (by simp)

/-! ### Idempotence -/

/-- A request takes effect as a whole and once. Every later request with its identifier leaves the
service as it is: with the same payload it is answered with the current snapshot of the job of the
effect, with another payload it is refused, and otherwise the database failed. -/
theorem retries_idempotent (hfirst : Step fingerprint s e t)
    (hrequest : e.request = some (identifier, payload)) (heffect : t.store ≠ s.store) :
    ∃ event, TookEffect fingerprint identifier payload s t event ∧
      ∀ events u e' payload' outcome v, Run (Step fingerprint) t events u →
        e'.request = some (identifier, payload') → Answers fingerprint e' u outcome v →
        v = u ∧
          (payload' = payload →
            (∃ job, u.store.job? event.job_identifier = some job ∧ outcome = .ok job) ∨
              (∃ access, e'.database access = false) ∧
                outcome = .error (.application StorageFailure)) ∧
          (payload' ≠ payload → fingerprint payload' ≠ fingerprint payload →
            outcome = .error (.application WorkflowStore.request_identifier_conflict) ∨
              (∃ access, e'.database access = false) ∧
                outcome = .error (.application StorageFailure)) := by
  obtain ⟨event, htook⟩ := hfirst.took_effect hrequest heffect
  refine ⟨event, htook, fun events u e' payload' outcome v hrun hrequest' hanswers => ?_⟩
  have hretains := retains_of_run hrun
  have hrow := hretains.mutations _ _ htook.mutation
  obtain ⟨job, hjob⟩ := Option.isSome_iff_exists.mp
    (hretains.jobs event.job_identifier (by rw [htook.job]; rfl))
  obtain ⟨surroundings, accept, hdatabase, hreplayed⟩ := hanswers.replayed hrequest'
  rw [unless_replayed_eq, replay_of_recorded hrow hjob, hdatabase] at hreplayed
  by_cases hmutation : e'.database .mutation = false
  · rw [if_pos hmutation] at hreplayed
    obtain ⟨rfl, rfl⟩ := Prod.ext_iff.mp hreplayed
    exact ⟨rfl, fun _ => Or.inr ⟨⟨_, hmutation⟩, rfl⟩, fun _ _ => Or.inr ⟨⟨_, hmutation⟩, rfl⟩⟩
  · rw [if_neg hmutation] at hreplayed
    by_cases hprint : fingerprint payload = fingerprint payload'
    · rw [if_neg fun h => h hprint] at hreplayed
      by_cases hread : e'.database .job = false
      · rw [if_pos hread] at hreplayed
        obtain ⟨rfl, rfl⟩ := Prod.ext_iff.mp hreplayed
        exact ⟨rfl, fun _ => Or.inr ⟨⟨_, hread⟩, rfl⟩, fun _ hne => absurd hprint.symm hne⟩
      · rw [if_neg hread] at hreplayed
        obtain ⟨rfl, rfl⟩ := Prod.ext_iff.mp hreplayed
        exact ⟨rfl, fun _ => Or.inl ⟨job, hjob, rfl⟩, fun _ hne => absurd hprint.symm hne⟩
    · rw [if_pos hprint] at hreplayed
      obtain ⟨rfl, rfl⟩ := Prod.ext_iff.mp hreplayed
      exact ⟨rfl, fun hsame => absurd (congrArg fingerprint hsame.symm) hprint, fun _ _ => Or.inl rfl⟩

/-- The second submission of a fetch is answered with the job of the first. -/
theorem retries_idempotent_fetch : ∃ job, with_fetch.store.job? "job_1" = some job ∧
    submit_fetch working (fun _ => "f") none "2" archive_request with_fetch
      = (.ok job, with_fetch) := by
  have hfirst : Step (fun _ => "f") started (.submit_fetch working none "1" archive_request)
      with_fetch := .submit_fetch rfl
  have heffect : with_fetch.store ≠ started.store := by
    intro h
    have hlength : with_fetch.store.events.length = started.store.events.length := by rw [h]
    exact absurd hlength (by decide)
  obtain ⟨event, htook, hlater⟩ := retries_idempotent hfirst rfl heffect
  have hevent : event.job_identifier = "job_1" := by
    have hmutation := htook.mutation
    have hrecorded : with_fetch.store.mutations.get? "a" =
        some { fingerprint := "f", job := "job_1" } := by decide
    exact (congrArg Mutation.job (Option.some_inj.mp (hrecorded.symm.trans hmutation))).symm
  obtain ⟨hsame, hreplayed, -⟩ := hlater [] with_fetch
    (.submit_fetch working none "2" archive_request) _ _ _ .nil rfl (.submit_fetch rfl)
  rcases hreplayed rfl with ⟨job, hjob, houtcome⟩ | ⟨⟨access, haccess⟩, -⟩
  · exact ⟨job, hevent ▸ hjob, Prod.ext houtcome hsame⟩
  · exact absurd haccess (by simp [Event.database, working])

end StegoLab

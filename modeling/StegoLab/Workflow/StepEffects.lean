import StegoLab.Workflow.Effects

/-!
# The effect of every step

Each section is inverted once; the theorem at the end covers all steps.
-/

namespace StegoLab

open CanonicalJson Transaction

variable {fingerprint : Json → String} {surroundings : Surroundings} {s t : WorkspaceJobService}
  {e : Event}

/-! ### Control -/

lemma Shutdown.of_closing (hcloser : t.closer ≠ .serving → s.closer ≠ .serving)
    (hclosing : s.closing = true → t.closing = true) : Shutdown s t :=
  fun h => Or.inl ⟨hcloser h, hclosing⟩

lemma Control.of_eq (hthread : t.thread = s.thread) (hclosing : t.closing = s.closing)
    (hcleanup : t.cache_cleanup_in_progress = s.cache_cleanup_in_progress)
    (hcloser : t.closer ≠ .serving → s.closer ≠ .serving) : Control s t where
  holds := Or.inr (congrArg Scheduler.holds hthread)
  idle h := hthread ▸ h
  closing _ h := hclosing ▸ h
  cleanup h := Or.inl (hcleanup ▸ h)
  shutdown := .of_closing hcloser fun h => hclosing ▸ h

lemma Control.refl (s : WorkspaceJobService) : Control s s :=
  .of_eq rfl rfl rfl id

lemma Effect.refl : Effect fingerprint s e s :=
  .unchanged rfl (Control.refl s)

/-! ### Submissions -/

lemma readOnly_request_settings (workspace : Workspace) (request : WorkflowRequest) :
    ReadOnly (request_settings surroundings workspace request) := by
  unfold request_settings training_settings
  split
  · refine readOnly_require_storage.bind fun _ => (readOnly_lift _).bind fun _ =>
      (readOnly_lift _).bind fun _ => readOnly_list_jobs.bind fun _ => (readOnly_lift _).bind fun _ =>
      readOnly_pure _
  · exact readOnly_pure _

lemma submit_effect {workspace : Workspace} {uuid4 : String} {request : WorkflowRequest}
    {outcome : Except Raised JobSnapshot}
    (h : submit surroundings fingerprint workspace uuid4 request s = (outcome, t)) :
    Effect fingerprint s (.submit surroundings workspace uuid4 request) t := by
  rcases unless_replayed_cases h with rfl | ⟨-, haccept⟩
  · exact .refl
  · cases outcome with
    | error raised =>
      obtain rfl := eq_of_error haccept <| readOnly_refuse_closing.atomic_bind fun _ =>
        (readOnly_request_settings _ _).atomic_bind fun _ => (readOnly_lift _).atomic_bind fun _ =>
          atomic_save _ _ _
      exact .refl
    | ok saved =>
      obtain ⟨_, -, haccept⟩ := readOnly_bind_ok readOnly_refuse_closing haccept
      obtain ⟨settings, -, haccept⟩ := readOnly_bind_ok (readOnly_request_settings _ _) haccept
      obtain ⟨_, -, haccept⟩ := lift_bind_ok.mp haccept
      obtain ⟨rfl, store, rfl, hsaved⟩ := save_ok haccept
      refine .created rfl hsaved rfl (fun hfetch => ?_) (.of_eq rfl rfl rfl id) rfl
      have hallowed := request.allowed
      have hoperation : request.operation = .fetch_dataset := of_decide_eq_true hfetch
      rw [hoperation] at hallowed
      exact absurd hallowed (by decide)

lemma submit_fetch_effect {dataset_uploads : UploadReading} {uuid4 : String}
    {request : DatasetFetchRequest} {outcome : Except Raised JobSnapshot}
    (h : submit_fetch surroundings fingerprint dataset_uploads uuid4 request s = (outcome, t)) :
    Effect fingerprint s (.submit_fetch surroundings dataset_uploads uuid4 request) t := by
  rcases unless_replayed_cases h with rfl | ⟨-, haccept⟩
  · exact .refl
  · cases outcome with
    | error raised =>
      obtain rfl := eq_of_error haccept <| readOnly_read.atomic_bind fun _ =>
        (readOnly_lift _).atomic_bind fun _ => (readOnly_lift _).atomic_bind fun _ =>
        (readOnly_lift _).atomic_bind fun _ => readOnly_list_jobs.atomic_bind fun _ =>
        (readOnly_lift _).atomic_bind fun _ => atomic_save _ _ _
      exact .refl
    | ok saved =>
      rw [read_bind] at haccept
      obtain ⟨_, -, haccept⟩ := lift_bind_ok.mp haccept
      obtain ⟨_, -, haccept⟩ := lift_bind_ok.mp haccept
      obtain ⟨_, hcleanup, haccept⟩ := lift_bind_ok.mp haccept
      replace haccept := list_jobs_bind_ok haccept
      obtain ⟨_, hactive, haccept⟩ := lift_bind_ok.mp haccept
      obtain ⟨rfl, store, rfl, hsaved⟩ := save_ok haccept
      refine .created rfl hsaved rfl (fun _ => ⟨?_, fun job hjob => ?_⟩) (.of_eq rfl rfl rfl id) rfl
      · exact Bool.eq_false_iff.mpr (raise_if_eq_ok.mp hcleanup)
      · have hnone := raise_if_eq_ok.mp hactive
        rw [List.any_eq_true] at hnone
        exact Bool.eq_false_iff.mpr fun hjob' => hnone ⟨job, hjob, hjob'⟩

/-- Storing secrets changes nothing else. -/
lemma put_secrets_frame {identifier : String} {secrets : Dict String}
    {outcome : Except Raised Unit} (h : put_secrets identifier secrets s = (outcome, t)) :
    ∃ inference, t = { s with inference := inference } := by
  have hrequire : ReadOnly require_inference := by
    refine readOnly_read.bind fun service => ?_
    cases service.inference with
    | none => exact readOnly_lift _
    | some inference => exact readOnly_pure _
  cases outcome with
  | error raised =>
    obtain rfl := eq_of_error h <| hrequire.atomic_bind fun _ => (readOnly_lift _).atomic_bind
      fun _ => readOnly_read.atomic_bind fun _ => atomic_write _
    exact ⟨t.inference, rfl⟩
  | ok _ =>
    obtain ⟨_, -, h⟩ := readOnly_bind_ok hrequire h
    obtain ⟨stored, -, h⟩ := lift_bind_ok.mp h
    exact ⟨some stored, (write_ok.mp h).symm⟩

lemma submit_inference_effect {digest : Dict String → String}
    {admit_inference : Except Raised InferenceJobRecord} {uuid4 : String}
    {request : InferenceJobRequest} {outcome : Except Raised JobSnapshot}
    (h : submit_inference surroundings fingerprint digest admit_inference uuid4 request s
      = (outcome, t)) :
    Effect fingerprint s (.submit_inference surroundings digest admit_inference uuid4 request)
      t := by
  rcases unless_replayed_cases h with rfl | ⟨-, haccept⟩
  · exact .refl
  rcases (readOnly_lift _).bind_cases haccept with ⟨rfl, -⟩ | ⟨record, -, haccept⟩
  · exact .refl
  rcases readOnly_refuse_closing.bind_cases haccept with ⟨rfl, -⟩ | ⟨_, -, haccept⟩
  · exact .refl
  rcases readOnly_list_jobs.bind_cases haccept with ⟨rfl, -⟩ | ⟨_, -, haccept⟩
  · exact .refl
  rcases (readOnly_lift _).bind_cases haccept with ⟨rfl, -⟩ | ⟨_, -, haccept⟩
  · exact .refl
  rcases bind_cases haccept with ⟨_, hsave, -⟩ | ⟨accepted, u, hsave, hput⟩
  · obtain rfl := eq_of_error hsave (atomic_save _ _ _)
    exact .refl
  -- From here on the job is saved, even when its secrets are refused.
  obtain ⟨rfl, store, rfl, hsaved⟩ := save_ok hsave
  obtain ⟨inference, rfl⟩ : ∃ inference, t = { s with store := store, inference := inference } := by
    rcases bind_cases hput with ⟨_, hput, -⟩ | ⟨_, v, hput, hpure⟩
    · exact put_secrets_frame hput
    · obtain ⟨inference, rfl⟩ := put_secrets_frame hput
      exact ⟨inference, (congrArg Prod.snd hpure).symm⟩
  refine .created rfl hsaved rfl (fun hfetch => ?_) (.of_eq rfl rfl rfl id) rfl
  have hallowed := record.allowed
  have hoperation : record.operation = .fetch_dataset := of_decide_eq_true hfetch
  rw [hoperation] at hallowed
  exact absurd hallowed (by decide)

/-! ### Actions -/

lemma action_changes_moves {job saved : JobSnapshot} {action : JobAction}
    {changes : JobSnapshot → JobSnapshot} (hchanges : action_changes job action = .ok changes)
    (hrevised : Revised job changes saved) : SameJob job saved ∧ ActionMoves job saved := by
  obtain ⟨hidentifier, hstatus, hoperation⟩ := hrevised
  unfold action_changes at hchanges
  split_ifs at hchanges with hcancel hstop
  · obtain rfl := Except.ok.inj hchanges
    exact ⟨⟨hidentifier, hoperation⟩, Or.inr (Or.inl ⟨Or.inl hcancel.2, hstatus⟩)⟩
  · obtain rfl := Except.ok.inj hchanges
    exact ⟨⟨hidentifier, hoperation⟩, Or.inl ⟨hstop.2.1, hstatus.trans hstop.2.1⟩⟩
  · exact absurd hchanges (by simp [fail])

lemma fetch_action_changes_moves {job saved : JobSnapshot} {action : JobAction}
    {changes : JobSnapshot → JobSnapshot} (hfetch : is_fetch job = true)
    (hchanges : fetch_action_changes job action = .ok changes)
    (hrevised : Revised job changes saved) : SameJob job saved ∧ ActionMoves job saved := by
  obtain ⟨hidentifier, hstatus, hoperation⟩ := hrevised
  unfold fetch_action_changes at hchanges
  split_ifs at hchanges with hwaiting hcancel hpause hresume
  · obtain rfl := Except.ok.inj hchanges
    exact ⟨⟨hidentifier, hoperation⟩, Or.inr (Or.inl ⟨hwaiting.2, hstatus⟩)⟩
  · obtain rfl := Except.ok.inj hchanges
    exact ⟨⟨hidentifier, hoperation⟩, Or.inl ⟨hcancel.2, hstatus.trans hcancel.2⟩⟩
  · obtain rfl := Except.ok.inj hchanges
    exact ⟨⟨hidentifier, hoperation⟩, Or.inl ⟨hpause.2.1, hstatus.trans hpause.2.1⟩⟩
  · obtain rfl := Except.ok.inj hchanges
    exact ⟨⟨hidentifier, hoperation⟩, Or.inr (Or.inr ⟨hfetch, hresume.2, hstatus⟩)⟩
  · exact absurd hchanges (by simp [fail])

/-- Discarding secrets changes nothing else, and does not fail. -/
lemma discard_secrets_frame {job : JobSnapshot} {outcome : Except Raised Unit}
    (h : discard_secrets job s = (outcome, t)) : ∃ inference, t = { s with inference := inference } := by
  rw [discard_secrets, read_bind] at h
  obtain rfl := congrArg Prod.snd h
  by_cases hcancelled : job.status = .cancelled
  · exact ⟨_, if_pos hcancelled⟩
  · exact ⟨s.inference, if_neg hcancelled⟩

lemma requested_changes_moves {job saved : JobSnapshot} {action : JobAction}
    {changes : JobSnapshot → JobSnapshot} (hchanges : requested_changes job action = .ok changes)
    (hrevised : Revised job changes saved) : SameJob job saved ∧ ActionMoves job saved := by
  unfold requested_changes at hchanges
  split_ifs at hchanges with hfetch
  · exact fetch_action_changes_moves hfetch hchanges hrevised
  · exact action_changes_moves hchanges hrevised

lemma action_effect {identifier : String} {request : WorkflowActionRequest}
    {outcome : Except Raised JobSnapshot}
    (h : action surroundings fingerprint identifier request s = (outcome, t)) :
    Effect fingerprint s (.action surroundings identifier request) t := by
  rcases unless_replayed_cases h with rfl | ⟨-, haccept⟩
  · exact .refl
  rcases (readOnly_get_job _).bind_cases haccept with ⟨rfl, -⟩ | ⟨job, hget, haccept⟩
  · exact .refl
  rcases (readOnly_lift _).bind_cases haccept with ⟨rfl, -⟩ | ⟨_, -, haccept⟩
  · exact .refl
  rcases (readOnly_lift _).bind_cases haccept with ⟨rfl, -⟩ | ⟨changes, hchanges, haccept⟩
  · exact .refl
  rcases bind_cases haccept with ⟨_, hchange, -⟩ | ⟨changed, u, hchange, hdiscard⟩
  · obtain rfl := eq_of_error hchange (atomic_change _ _ _)
    exact .refl
  obtain ⟨hrevised, store, rfl, hsaved⟩ := change_ok hchange
  obtain ⟨inference, rfl⟩ : ∃ inference, t = { s with store := store, inference := inference } := by
    rcases bind_cases hdiscard with ⟨_, hdiscard, -⟩ | ⟨_, v, hdiscard, hpure⟩
    · exact discard_secrets_frame hdiscard
    · obtain ⟨inference, rfl⟩ := discard_secrets_frame hdiscard
      exact ⟨inference, (congrArg Prod.snd hpure).symm⟩
  obtain ⟨hsame, hmoves⟩ := requested_changes_moves (lift_ok.mp hchanges).1 hrevised
  refine .acted rfl ?_ hsame hsaved hmoves (.of_eq rfl rfl rfl id)
  rw [hsame.job_identifier, WorkflowStore.identifier_of_job? (get_job_ok hget)]
  exact get_job_ok hget

/-! ### Interruption -/

lemma Interrupted.refl (store : WorkflowStore) : Interrupted store store where
  job _ := Or.inl rfl
  events := ⟨[], (List.append_nil _).symm, fun _ h => absurd h List.not_mem_nil⟩
  mutations := rfl

/-- An interrupted job is not unfinished, so a second pass leaves it alone. -/
lemma Interrupted.trans {store store' store'' : WorkflowStore} (h : Interrupted store store')
    (h' : Interrupted store' store'') : Interrupted store store'' := by
  have hbefore : ∀ {key job}, store'.job? key = some job → unfinished job = true →
      store.job? key = some job := by
    intro key job hjob hunfinished
    rcases h.job key with hsame | ⟨_, snapshot, _, _, hsnapshot, _, hstatus⟩
    · rwa [← hsame]
    · obtain rfl := Option.some_inj.mp (hjob.symm.trans hsnapshot)
      rw [unfinished, hstatus] at hunfinished
      exact absurd hunfinished (by decide)
  obtain ⟨events, hevents, hall⟩ := h.events
  obtain ⟨events', hevents', hall'⟩ := h'.events
  refine ⟨fun key => ?_, ⟨events ++ events', ?_, fun event hevent => ?_⟩,
    h'.mutations.trans h.mutations⟩
  · rcases h'.job key with hsame | ⟨job, snapshot, hjob, hunfinished, hrest⟩
    · rw [hsame]
      exact h.job key
    · exact Or.inr ⟨job, snapshot, hbefore hjob hunfinished, hunfinished, hrest⟩
  · rw [hevents', hevents, List.append_assoc]
  · rcases List.mem_append.mp hevent with hevent | hevent
    · obtain ⟨hstatus, hjob, snapshot, hsnapshot, hinterrupted⟩ := hall event hevent
      refine ⟨hstatus, hjob, ?_⟩
      rcases h'.job event.job_identifier with hsame | ⟨_, after, _, _, hafter, _, hstatus'⟩
      · exact ⟨snapshot, hsame.trans hsnapshot, hinterrupted⟩
      · exact ⟨after, hafter, hstatus'⟩
    · obtain ⟨hstatus, ⟨job, hjob, hunfinished⟩, hafter⟩ := hall' event hevent
      exact ⟨hstatus, ⟨job, hbefore hjob hunfinished, hunfinished⟩, hafter⟩

/-- Interrupting one unfinished job. -/
lemma interrupt_ok {job saved : JobSnapshot} (hjob : s.store.job? job.job_identifier = some job)
    (hunfinished : unfinished job = true) (h : interrupt surroundings job s = (.ok saved, t)) :
    ∃ store, t = { s with store := store } ∧ Interrupted s.store store ∧
      (∀ key, store.job? key =
        if key = job.job_identifier then some saved else s.store.job? key) ∧
      saved.status = .interrupted := by
  obtain ⟨⟨hidentifier, hstatus, hoperation⟩, store, rfl, hsaved⟩ := change_ok h
  change saved.job_identifier = job.job_identifier at hidentifier
  change saved.status = .interrupted at hstatus
  have hlookup := hsaved.job?_eq (hidentifier ▸ hjob)
  rw [hidentifier] at hlookup
  refine ⟨store, rfl, ⟨fun key => ?_, ⟨_, hsaved.events, fun event hevent => ?_⟩,
    hsaved.mutations⟩, hlookup, hstatus⟩
  · by_cases hkey : key = job.job_identifier
    · rw [hlookup, if_pos hkey, hkey]
      exact Or.inr ⟨job, saved, hjob, hunfinished, rfl, ⟨hidentifier, hoperation⟩, hstatus⟩
    · rw [hlookup, if_neg hkey]
      exact Or.inl rfl
  · obtain rfl := List.mem_singleton.mp hevent
    refine ⟨hstatus, ⟨job, ?_, hunfinished⟩, saved, ?_, hstatus⟩
    · change s.store.job? saved.job_identifier = some job
      rw [hidentifier, hjob]
    · change store.job? saved.job_identifier = some saved
      rw [hlookup, if_pos hidentifier]

/-- The loop over the saved jobs; it may stop at a storage failure. -/
lemma interrupt_unfinished_effect {jobs : List JobSnapshot} {outcome : Except Raised Unit}
    (hnodup : (jobs.map JobSnapshot.job_identifier).Nodup)
    (hjobs : ∀ job ∈ jobs, s.store.job? job.job_identifier = some job)
    (h : interrupt_unfinished surroundings jobs s = (outcome, t)) :
    ∃ store, t = { s with store := store } ∧ Interrupted s.store store ∧
      (∀ key, key ∉ jobs.map JobSnapshot.job_identifier → store.job? key = s.store.job? key) ∧
      (outcome = .ok () → ∀ key ∈ jobs.map JobSnapshot.job_identifier, ∀ job,
        store.job? key = some job → unfinished job = false) := by
  induction jobs generalizing s with
  | nil =>
    obtain rfl := congrArg Prod.snd h
    exact ⟨s.store, rfl, .refl _, fun _ _ => rfl, fun _ _ h => absurd h List.not_mem_nil⟩
  | cons job jobs ih =>
    rw [List.map_cons, List.nodup_cons] at hnodup
    have hfirst := hjobs job List.mem_cons_self
    have hrest : ∀ job ∈ jobs, s.store.job? job.job_identifier = some job :=
      fun job hjob => hjobs job (List.mem_cons_of_mem _ hjob)
    rw [interrupt_unfinished] at h
    by_cases hunfinished : unfinished job = true
    · rw [if_pos hunfinished] at h
      rcases bind_cases h with ⟨_, hinterrupt, rfl⟩ | ⟨saved, u, hinterrupt, hloop⟩
      · obtain rfl := eq_of_error hinterrupt (atomic_change _ _ _)
        exact ⟨t.store, rfl, .refl _, fun _ _ => rfl, fun hok => absurd hok (by simp)⟩
      · obtain ⟨store, rfl, hone, hlookup, hstatus⟩ := interrupt_ok hfirst hunfinished hinterrupt
        have hkept : ∀ job' ∈ jobs, store.job? job'.job_identifier = some job' := by
          intro job' hjob'
          have hne : job'.job_identifier ≠ job.job_identifier := by
            intro heq
            rw [← heq] at hnodup
            exact hnodup.1 (List.mem_map_of_mem hjob')
          rw [hlookup, if_neg hne]
          exact hrest job' hjob'
        obtain ⟨store', rfl, hloop, hframe, hdone⟩ := ih hnodup.2 hkept hloop
        refine ⟨store', rfl, hone.trans hloop, fun key hkey => ?_, fun hok key hkey job' hjob' => ?_⟩
        · rw [List.map_cons, List.mem_cons, not_or] at hkey
          rw [hframe key hkey.2]
          exact (hlookup key).trans (if_neg hkey.1)
        · rw [List.map_cons, List.mem_cons] at hkey
          rcases hkey with rfl | hkey
          · rw [hframe _ hnodup.1, hlookup, if_pos rfl, Option.some_inj] at hjob'
            rw [← hjob', unfinished, hstatus]
            rfl
          · exact hdone hok key hkey job' hjob'
    · rw [if_neg hunfinished] at h
      obtain ⟨store, rfl, hinterrupted, hframe, hdone⟩ := ih hnodup.2 hrest h
      refine ⟨store, rfl, hinterrupted, fun key hkey => ?_, fun hok key hkey job' hjob' => ?_⟩
      · rw [List.map_cons, List.mem_cons, not_or] at hkey
        exact hframe key hkey.2
      · rw [List.map_cons, List.mem_cons] at hkey
        rcases hkey with rfl | hkey
        · rw [hframe _ hnodup.1, hfirst, Option.some_inj] at hjob'
          rw [← hjob']
          exact Bool.eq_false_iff.mpr hunfinished
        · exact hdone hok key hkey job' hjob'

/-- The loop over all saved jobs. -/
lemma interrupt_all_effect {outcome : Except Raised Unit}
    (h : interrupt_unfinished surroundings s.store.sorted_jobs s = (outcome, t)) :
    ∃ store, t = { s with store := store } ∧ Interrupted s.store store ∧
      (outcome = .ok () → ∀ job ∈ store.sorted_jobs, unfinished job = false) := by
  obtain ⟨store, rfl, hinterrupted, hframe, hdone⟩ := interrupt_unfinished_effect
    WorkflowStore.nodup_sorted_jobs (fun job hjob => WorkflowStore.mem_sorted_jobs.mp hjob) h
  refine ⟨store, rfl, hinterrupted, fun hok job hjob => ?_⟩
  have hlookup := WorkflowStore.mem_sorted_jobs.mp hjob
  refine hdone hok job.job_identifier ?_ job hlookup
  by_contra hkey
  rw [hframe _ hkey] at hlookup
  exact hkey (List.mem_map_of_mem (WorkflowStore.mem_sorted_jobs.mpr hlookup))

/-! ### Startup and shutdown -/

lemma start_effect {owned : Bool} {outcome : Except Raised Unit} (hthread : s.thread = .absent)
    (h : start surroundings owned s = (outcome, t)) :
    Effect fingerprint s (.start surroundings owned) t := by
  rcases (readOnly_lift _).bind_cases h with ⟨rfl, -⟩ | ⟨_, -, h⟩
  · exact .refl
  rw [read_bind] at h
  rcases bind_cases h with ⟨_, hwrite, -⟩ | ⟨_, u, hwrite, h⟩
  · exact absurd (congrArg Prod.fst hwrite) (by simp [Transaction.write])
  obtain rfl := write_ok.mp hwrite
  rcases readOnly_list_jobs.bind_cases h with ⟨rfl, -⟩ | ⟨jobs, hlist, h⟩
  · exact .unchanged rfl (.of_eq rfl rfl rfl id)
  obtain rfl := list_jobs_ok hlist
  rcases bind_cases h with ⟨_, hloop, -⟩ | ⟨_, u, hloop, h⟩
  · obtain ⟨store, rfl, hinterrupted, -⟩ := interrupt_all_effect hloop
    exact .interrupted rfl hinterrupted (Or.inl ⟨hthread, Or.inl hthread⟩)
      (.of_closing id id) rfl
  · obtain ⟨store, rfl, hinterrupted, hdone⟩ := interrupt_all_effect hloop
    rw [read_bind] at h
    obtain rfl := congrArg Prod.snd h
    exact .interrupted rfl hinterrupted (Or.inl ⟨hthread, Or.inr ⟨rfl, hdone rfl⟩⟩)
      (.of_closing id id) rfl

lemma settle_frame (outcome : Except Raised Unit) (u : WorkspaceJobService) :
    (settle outcome u).store = u.store ∧ (settle outcome u).thread = u.thread ∧
      (u.closing = true → (settle outcome u).closing = true) ∧
      (settle outcome u).cache_cleanup_in_progress = u.cache_cleanup_in_progress := by
  cases outcome with
  | ok _ => exact ⟨rfl, rfl, id, rfl⟩
  | error _ => exact ⟨rfl, rfl, fun _ => rfl, rfl⟩

/-- The shutdown changes nothing but the store. -/
lemma reconcile_frame {outcome : Except Raised Unit} (h : reconcile surroundings s = (outcome, t)) :
    ∃ store, t = { s with store := store } ∧ Interrupted s.store store := by
  rw [reconcile, read_bind] at h
  split_ifs at h
  · rcases readOnly_list_jobs.bind_cases h with ⟨rfl, -⟩ | ⟨jobs, hlist, h⟩
    · exact ⟨t.store, rfl, .refl _⟩
    · obtain rfl := list_jobs_ok hlist
      obtain ⟨store, rfl, hinterrupted, -⟩ := interrupt_all_effect h
      exact ⟨store, rfl, hinterrupted⟩
  · obtain rfl := congrArg Prod.snd h
    exact ⟨s.store, rfl, .refl _⟩

lemma reconcile_effect {outcome : Except Raised Unit} (hcloser : s.closer = .joined)
    (h : reconcile surroundings s = (outcome, t)) :
    Effect fingerprint s (.reconcile surroundings)
      { settle outcome t with closer := .reconciled } := by
  obtain ⟨hstore, hthread, hclosing, hcleanup⟩ := settle_frame outcome t
  obtain ⟨store, rfl, hinterrupted⟩ := reconcile_frame h
  exact .interrupted rfl (hstore ▸ hinterrupted)
    (Or.inr ⟨⟨surroundings, rfl⟩, hcloser, hthread, hclosing⟩)
    (.of_closing (fun _ => by rw [hcloser]; decide) hclosing) hcleanup

lemma request_stop_effect {outcome : Except Raised Unit} (hcloser : s.closer = .begun)
    (h : request_stop surroundings s = (outcome, t)) :
    Effect fingerprint s (.request_stop surroundings)
      { settle outcome t with closer := .stopped } := by
  obtain ⟨hstore, hthread, hclosing, hcleanup⟩ := settle_frame outcome t
  have hcontrol : t = s ∨ (∃ store, t = { s with store := store }) →
      Control s { settle outcome t with closer := .stopped } := by
    rintro (rfl | ⟨store, rfl⟩)
    · exact ⟨Or.inr (congrArg Scheduler.holds hthread), fun hidle => hthread ▸ hidle,
        fun _ => hclosing, fun hflag => Or.inl (hcleanup ▸ hflag),
        .of_closing (fun _ => by rw [hcloser]; decide) hclosing⟩
    · exact ⟨Or.inr (congrArg Scheduler.holds hthread), fun hidle => hthread ▸ hidle,
        fun _ => hclosing, fun hflag => Or.inl (hcleanup ▸ hflag),
        .of_closing (fun _ => by rw [hcloser]; decide) hclosing⟩
  suffices hcases : t = s ∨ ∃ job saved store, t = { s with store := store } ∧
      s.store.job? saved.job_identifier = some job ∧ SameJob job saved ∧
      s.store.Saved saved none none store ∧ saved.status = job.status by
    rcases hcases with rfl | ⟨job, saved, store, rfl, hjob, hsame, hsaved, hstatus⟩
    · exact .unchanged hstore (hcontrol (Or.inl rfl))
    · exact .marked rfl hjob hsame (hstore ▸ hsaved) hstatus (hcontrol (Or.inr ⟨store, rfl⟩))
  rw [request_stop, read_bind] at h
  cases hactive : s.active_identifier with
  | none =>
    rw [hactive] at h
    exact Or.inl (congrArg Prod.snd h).symm
  | some identifier =>
    rw [hactive] at h
    rcases (readOnly_get_job _).bind_cases h with ⟨rfl, -⟩ | ⟨job, hget, hrest⟩
    · exact Or.inl rfl
    have hjob := get_job_ok hget
    split_ifs at hrest
    · rcases bind_cases hrest with ⟨_, hchange, -⟩ | ⟨saved, u, hchange, hpure⟩
      · exact Or.inl (eq_of_error hchange (atomic_change _ _ _))
      · obtain ⟨⟨hidentifier, hstatus, hoperation⟩, store, rfl, hsaved⟩ := change_ok hchange
        change saved.job_identifier = job.job_identifier at hidentifier
        obtain ⟨-, rfl⟩ := pure_cases hpure
        refine Or.inr ⟨job, saved, store, by rw [hactive], ?_, ⟨hidentifier, hoperation⟩, hsaved, hstatus⟩
        rw [hidentifier, WorkflowStore.identifier_of_job? hjob, hjob]
    · exact Or.inl (congrArg Prod.snd hrest).symm

/-! ### The scheduler -/

lemma poll_effect {proof_busy : Except Raised Bool} {outcome : Except Raised (Option JobSnapshot)}
    (hthread : s.thread = .polling) (h : next_job surroundings proof_busy s = (outcome, t)) :
    Effect fingerprint s (.poll surroundings proof_busy) { t with thread := after_poll outcome } := by
  have hidle : s.thread.idle = true := by rw [hthread]; rfl
  have hnothing : t = s → (∀ queued, outcome ≠ .ok (some queued)) →
      Effect fingerprint s (.poll surroundings proof_busy)
        { t with thread := after_poll outcome } := by
    rintro rfl hnone
    refine .unchanged rfl ⟨Or.inl ?_, fun _ => hidle, fun _ hclosing => hclosing, Or.inl,
      .of_closing id id⟩
    rcases outcome with raised | _ | queued
    · rfl
    · rfl
    · exact absurd rfl (hnone queued)
  rcases bind_cases h with ⟨raised, hbusy, rfl⟩ | ⟨proof_locked, u, hbusy, hlocked⟩
  · exact hnothing (readOnly_lift _ _ _ _ hbusy) fun _ hok => absurd hok (by simp)
  obtain rfl := readOnly_lift _ _ _ _ hbusy
  rcases bind_cases hlocked with ⟨raised, hlist, rfl⟩ | ⟨jobs, v, hlist, hlisted⟩
  · exact hnothing (readOnly_list_jobs _ _ _ hlist) fun _ hok => absurd hok (by simp)
  obtain rfl := readOnly_list_jobs _ _ _ hlist
  obtain rfl := list_jobs_ok hlist
  cases hfind : v.store.sorted_jobs.find? (schedulable proof_locked) with
  | none =>
    rw [hfind] at hlisted
    obtain ⟨rfl, hsame⟩ := pure_cases hlisted
    exact hnothing hsame fun _ hok => absurd hok (by simp)
  | some queued =>
    rw [hfind] at hlisted
    have hjob := WorkflowStore.mem_sorted_jobs.mp (List.mem_of_find?_eq_some hfind)
    have hqueued : queued.status = .queued := by
      have hschedulable := List.find?_some hfind
      rw [schedulable, Bool.and_eq_true] at hschedulable
      exact of_decide_eq_true hschedulable.1
    rcases bind_cases hlisted with ⟨raised, hclaim, rfl⟩ | ⟨_, w, hclaim, hpure⟩
    · rcases bind_cases hclaim with ⟨_, hchange, -⟩ | ⟨saved, x, -, hwrite⟩
      · exact hnothing (eq_of_error hchange (atomic_change _ _ _)) fun _ hok => absurd hok (by simp)
      · rw [read_bind] at hwrite
        exact absurd (congrArg Prod.fst hwrite) (by simp [Transaction.write])
    · obtain ⟨saved, x, hchange, hwrite⟩ := bind_ok.mp hclaim
      obtain ⟨⟨hidentifier, hstatus, hoperation⟩, store, rfl, hsaved⟩ := change_ok hchange
      change saved.job_identifier = queued.job_identifier at hidentifier
      rw [read_bind] at hwrite
      obtain rfl := write_ok.mp hwrite
      obtain ⟨rfl, rfl⟩ := pure_cases hpure
      have hsaved_job : v.store.job? saved.job_identifier = some queued := by rw [hidentifier, hjob]
      exact .claimed rfl hidle hsaved_job ⟨hidentifier, hoperation⟩ hsaved hqueued hstatus
        (congrArg Scheduler.starting hidentifier.symm) (.of_closing id id) rfl

/-- A raise leaves the job with the thread or ends the thread, and never idles it. -/
lemma after_raise_holds (identifier : String) (raised : Raised) :
    ((after_raise identifier raised).holds = none ∨
      (after_raise identifier raised).holds = some identifier) ∧
      (after_raise identifier raised).idle = false := by
  cases raised with
  | application failure =>
    rw [after_raise]
    split_ifs
    · exact ⟨Or.inl rfl, rfl⟩
    · exact ⟨Or.inr rfl, rfl⟩
  | value_error => exact ⟨Or.inr rfl, rfl⟩
  | os_error => exact ⟨Or.inr rfl, rfl⟩

lemma readOnly_require_inference : ReadOnly require_inference := by
  refine readOnly_read.bind fun service => ?_
  cases service.inference with
  | none => exact readOnly_lift _
  | some inference => exact readOnly_pure _

lemma prepare_run_frame {workspace : Workspace} {identifier : String} {request : StoredRequest}
    {outcome : Except Raised Unit} (h : prepare_run workspace identifier request s = (outcome, t)) :
    ∃ inference, t = { s with inference := inference } := by
  cases request with
  | fetch request => exact ⟨s.inference, (pure_cases h).2⟩
  | inference record =>
    rcases readOnly_require_inference.bind_cases h with ⟨rfl, -⟩ | ⟨inference, -, htaken⟩
    · exact ⟨t.inference, rfl⟩
    rcases (readOnly_lift _).bind_cases htaken with ⟨rfl, -⟩ | ⟨_, -, hwrite⟩
    · exact ⟨t.inference, rfl⟩
    rw [read_bind] at hwrite
    exact ⟨_, (congrArg Prod.snd hwrite).symm⟩
  | workflow request =>
    have htraining : ReadOnly (check_training workspace request) := by
      unfold check_training
      split
      · exact readOnly_require_storage.bind fun _ => (readOnly_lift _).bind fun _ => readOnly_lift _
      · exact readOnly_pure _
    exact ⟨s.inference, (htraining.bind fun _ => readOnly_lift _) _ _ _ h⟩

lemma begin_run_effect {workspace : Workspace} {identifier : String}
    {outcome : Except Raised StoredRequest} (hthread : s.thread = .starting identifier)
    (h : begin_run surroundings workspace identifier s = (outcome, t)) :
    Effect fingerprint s (.begin_run surroundings workspace)
      { t with thread := after_begin identifier outcome } := by
  have hframe : ∃ inference, t = { s with inference := inference } := by
    rw [begin_run, read_bind] at h
    rcases (readOnly_lift _).bind_cases h with ⟨rfl, -⟩ | ⟨request, -, hprepare⟩
    · exact ⟨t.inference, rfl⟩
    rcases bind_cases hprepare with ⟨_, hprepare, -⟩ | ⟨_, u, hprepare, hpure⟩
    · exact prepare_run_frame hprepare
    · obtain ⟨inference, rfl⟩ := prepare_run_frame hprepare
      exact ⟨inference, (pure_cases hpure).2⟩
  obtain ⟨inference, rfl⟩ := hframe
  have hholds : ((after_begin identifier outcome).holds = none ∨
      (after_begin identifier outcome).holds = some identifier) ∧
      (after_begin identifier outcome).idle = false := by
    cases outcome with
    | ok request => exact ⟨Or.inr rfl, rfl⟩
    | error raised => exact after_raise_holds identifier raised
  refine .unchanged rfl ⟨?_, fun hidle => ?_, fun _ hclosing => hclosing, Or.inl,
      .of_closing id id⟩
  · rw [hthread]
    exact hholds.1
  · exact absurd hidle (by simp [hholds.2])

lemma readOnly_refuse_report (report : Report) : ReadOnly (refuse_report report) := by
  cases report with
  | training step => exact readOnly_pure _
  | fetch record => exact readOnly_pure _
  | inference phase => exact readOnly_refuse_closing

lemma report_changes_same (steps : ℕ) (report : Report) (job : JobSnapshot) :
    (report_changes steps report job).job_identifier = job.job_identifier ∧
      (report_changes steps report job).operation = job.operation ∧
      (report_changes steps report job).status = job.status := by
  cases report with
  | training step => exact ⟨rfl, rfl, rfl⟩
  | fetch record => exact ⟨rfl, rfl, rfl⟩
  | inference phase => exact ⟨rfl, rfl, rfl⟩

lemma report_effect {report : Report} {identifier : String} {request : StoredRequest}
    {outcome : Except Raised Unit} (hthread : s.thread = .executing identifier request)
    (h : report_progress surroundings identifier (stop_after_step request) report s = (outcome, t)) :
    Effect fingerprint s (.report surroundings report)
      { t with thread := after_report identifier request outcome } := by
  have hholds : ((after_report identifier request outcome).holds = none ∨
      (after_report identifier request outcome).holds = some identifier) ∧
      (after_report identifier request outcome).idle = false := by
    rcases outcome with (failure | _ | _) | _
    · exact after_raise_holds identifier (.application failure)
    · exact ⟨Or.inr rfl, rfl⟩
    · exact ⟨Or.inr rfl, rfl⟩
    · exact ⟨Or.inr rfl, rfl⟩
  have hcontrol : ∀ store, Control s
      { s with store := store, thread := after_report identifier request outcome } := by
    refine fun store => ⟨?_, fun hidle => ?_, fun _ hclosing => hclosing, Or.inl,
      .of_closing id id⟩
    · rw [hthread]
      exact hholds.1
    · exact absurd hidle (by simp [hholds.2])
  rcases (readOnly_refuse_report report).bind_cases h with ⟨rfl, -⟩ | ⟨_, -, hreport⟩
  · exact .unchanged rfl (hcontrol _)
  rcases (readOnly_get_job _).bind_cases hreport with ⟨rfl, -⟩ | ⟨job, hget, hmark⟩
  · exact .unchanged rfl (hcontrol _)
  have hjob := get_job_ok hget
  rcases bind_cases hmark with ⟨_, hchange, -⟩ | ⟨saved, u, hchange, hpure⟩
  · obtain rfl := eq_of_error hchange (atomic_change _ _ _)
    exact .unchanged rfl (hcontrol _)
  · obtain ⟨⟨hidentifier, hstatus, hoperation⟩, store, rfl, hsaved⟩ := change_ok hchange
    obtain ⟨-, rfl⟩ := pure_cases hpure
    obtain ⟨hidentifier', hoperation', hstatus'⟩ :=
      report_changes_same (stop_after_step request) report job
    have hsaved_job : s.store.job? saved.job_identifier = some job := by
      rw [hidentifier, hidentifier', WorkflowStore.identifier_of_job? hjob, hjob]
    exact .marked rfl hsaved_job ⟨hidentifier.trans hidentifier', hoperation.trans hoperation'⟩
      hsaved (hstatus.trans hstatus') (hcontrol _)

/-! ### The end of a run -/

/-- A thread that goes on after a failed section, without a save. -/
lemma unchanged_of_raise {identifier : String} {thread : Scheduler}
    (hholds : s.thread.holds = some identifier)
    (h : (thread.holds = none ∨ thread.holds = some identifier) ∧ thread.idle = false) :
    Effect fingerprint s e { s with thread := thread } := by
  refine .unchanged rfl ⟨?_, fun hidle => ?_, fun _ hclosing => hclosing, Or.inl,
      .of_closing id id⟩
  · rw [hholds]
    exact h.1
  · exact absurd hidle (by simp [h.2])

/-- How the changes of a finished run move the status. -/
structure FinishMoves (job : JobSnapshot) (exit : Outcome) (request : StoredRequest)
    (changes : JobSnapshot → JobSnapshot) : Prop where
  same : SameJob job (changes job)
  ended : (changes job).status ≠ .running ∧ (changes job).status ≠ .queued
  keeps : keeps_interrupted job exit request → (changes job).status = .interrupted

lemma run_status_ended (request : WorkflowRequest) (exit : WorkerExit) :
    run_status request exit ≠ .running ∧ run_status request exit ≠ .queued := by
  unfold run_status
  split_ifs
  · exact ⟨by decide, by decide⟩
  · exact ⟨by decide, by decide⟩
  · exact ⟨by decide, by decide⟩

/-- A finished section of a run is one change of the job. -/
def FinishOk (surroundings : Surroundings) (s t : WorkspaceJobService) (identifier : String)
    (request : StoredRequest) (exit : Outcome) : Prop :=
  ∃ job saved changes, s.store.job? identifier = some job ∧ FinishMoves job exit request changes ∧
    change surroundings job changes none s = (.ok saved, t)

lemma finish_workflow_cases {identifier : String}
    {request : WorkflowRequest} {exit : Outcome} {outcome : Except Raised Unit}
    (h : finish_run surroundings identifier (.workflow request) exit s = (outcome, t)) :
    t = s ∧ (∃ raised, outcome = .error raised) ∨
      outcome = .ok () ∧ FinishOk surroundings s t identifier (.workflow request) exit := by
  change finish_workflow _ _ _ _ _ s = _ at h
  rcases (readOnly_lift _).bind_cases h with hraised | ⟨worker, hworker, hrest⟩
  · exact Or.inl hraised
  rcases (readOnly_lift _).bind_cases hrest with hraised | ⟨published, hregister, hrest'⟩
  · exact Or.inl hraised
  rcases (readOnly_get_job _).bind_cases hrest' with hraised | ⟨job, hget, hrest''⟩
  · exact Or.inl hraised
  rcases bind_cases hrest'' with ⟨raised, hchange, houtcome⟩ | ⟨saved, u, hchange, hpure⟩
  · exact Or.inl ⟨eq_of_error hchange (atomic_change _ _ _), raised, houtcome⟩
  · obtain ⟨rfl, rfl⟩ := pure_cases hpure
    refine Or.inr ⟨rfl, job, saved, _, get_job_ok hget, ⟨⟨rfl, rfl⟩, ?_, fun hkeeps => ?_⟩, hchange⟩
    · exact run_status_ended request worker
    · -- A run whose checkpoint is registered has an outcome to publish.
      obtain ⟨raised, hfails⟩ := hkeeps worker (lift_ok.mp hworker).1
      have hregistered := (lift_ok.mp hregister).1
      rw [hfails] at hregistered
      exact absurd hregistered (by simp)

lemma stopped_changes_moves {closing : Bool} {job : JobSnapshot} {changes : JobSnapshot → JobSnapshot}
    (h : stopped_changes closing job = some changes) :
    SameJob job (changes job) ∧
      ((changes job).status ≠ .running ∧ (changes job).status ≠ .queued) ∧
      (job.requested_action ≠ some .cancel → job.requested_action ≠ some .pause →
        (changes job).status = .interrupted) := by
  unfold stopped_changes at h
  split_ifs at h with hcancel hpause
  · obtain rfl := Option.some_inj.mp h
    exact ⟨⟨rfl, rfl⟩, ⟨by simp, by simp⟩, fun hno _ => absurd hcancel hno⟩
  · obtain rfl := Option.some_inj.mp h
    exact ⟨⟨rfl, rfl⟩, ⟨by simp, by simp⟩, fun _ hno => absurd hpause hno⟩
  · obtain rfl := Option.some_inj.mp h
    exact ⟨⟨rfl, rfl⟩, ⟨by simp, by simp⟩, fun _ _ => rfl⟩

lemma fetch_changes_moves {closing : Bool} {job : JobSnapshot} {exit : Outcome}
    {request : DatasetFetchRequest} {ended : WorkerExit ⊕ ApplicationFailure}
    {changes : JobSnapshot → JobSnapshot} (hended : expected_exit exit.worker = .ok ended)
    (h : fetch_changes closing job ended = .ok changes) :
    FinishMoves job exit (.fetch request) changes := by
  have hstopped : stopped_changes closing job = some changes →
      FinishMoves job exit (.fetch request) changes := by
    intro hchanges
    obtain ⟨hsame, hstatus, hkeeps⟩ := stopped_changes_moves hchanges
    exact ⟨hsame, hstatus, fun hkeep => hkeeps hkeep.1 hkeep.2.1⟩
  cases ended with
  | inl worker =>
    have hworker : exit.worker = .ok worker := by
      unfold expected_exit at hended
      split at hended
      · rename_i hworker
        rw [hworker, Sum.inl.inj (Except.ok.inj hended)]
      · split_ifs at hended
        exact absurd hended (by simp)
      · exact absurd hended (by simp)
    change exit_changes closing job worker = .ok changes at h
    unfold exit_changes at h
    split_ifs at h with hfinished hsummary
    · obtain rfl := Except.ok.inj h
      exact ⟨⟨rfl, rfl⟩, ⟨by simp, by simp⟩, fun hkeep =>
        absurd hfinished (hkeep.2.2 worker hworker)⟩
    · cases hchanges : stopped_changes closing job with
      | none =>
        rw [hchanges] at h
        exact absurd h (by simp [fail])
      | some changes' =>
        rw [hchanges] at h
        obtain rfl := Except.ok.inj h
        exact hstopped hchanges
    · exact absurd h (by simp [fail])
  | inr failure =>
    simp only [fetch_changes] at h
    cases hchanges : stopped_changes closing job with
    | none =>
      rw [hchanges] at h
      exact absurd h (by simp)
    | some changes' =>
      rw [hchanges] at h
      obtain rfl := Except.ok.inj h
      exact hstopped hchanges

lemma finish_fetch_cases {identifier : String} {request : DatasetFetchRequest} {exit : Outcome}
    {outcome : Except Raised Unit}
    (h : finish_run surroundings identifier (.fetch request) exit s = (outcome, t)) :
    t = s ∧ (∃ raised, outcome = .error raised) ∨
      outcome = .ok () ∧ FinishOk surroundings s t identifier (.fetch request) exit := by
  change finish_fetch _ _ _ s = _ at h
  rcases (readOnly_lift _).bind_cases h with hraised | ⟨ended, hended, hrest⟩
  · exact Or.inl hraised
  rw [read_bind] at hrest
  rcases (readOnly_get_job _).bind_cases hrest with hraised | ⟨job, hget, hrest'⟩
  · exact Or.inl hraised
  rcases (readOnly_lift _).bind_cases hrest' with hraised | ⟨changes, hchanges, hrest''⟩
  · exact Or.inl hraised
  rcases bind_cases hrest'' with ⟨raised, hchange, houtcome⟩ | ⟨saved, u, hchange, hpure⟩
  · exact Or.inl ⟨eq_of_error hchange (atomic_change _ _ _), raised, houtcome⟩
  · obtain ⟨rfl, rfl⟩ := pure_cases hpure
    exact Or.inr ⟨rfl, job, saved, changes, get_job_ok hget,
      fetch_changes_moves (lift_ok.mp hended).1 (lift_ok.mp hchanges).1, hchange⟩

lemma finish_inference_cases {identifier : String} {record : InferenceJobRecord} {exit : Outcome}
    {outcome : Except Raised Unit}
    (h : finish_run surroundings identifier (.inference record) exit s = (outcome, t)) :
    t = s ∧ (∃ raised, outcome = .error raised) ∨
      outcome = .ok () ∧ FinishOk surroundings s t identifier (.inference record) exit := by
  change finish_inference _ _ _ s = _ at h
  rcases (readOnly_lift _).bind_cases h with hraised | ⟨result, hresult, hrest⟩
  · exact Or.inl hraised
  rcases (readOnly_get_job _).bind_cases hrest with hraised | ⟨job, hget, hrest'⟩
  · exact Or.inl hraised
  rcases bind_cases hrest' with ⟨raised, hchange, houtcome⟩ | ⟨saved, u, hchange, hpure⟩
  · exact Or.inl ⟨eq_of_error hchange (atomic_change _ _ _), raised, houtcome⟩
  · obtain ⟨rfl, rfl⟩ := pure_cases hpure
    refine Or.inr ⟨rfl, job, saved, _, get_job_ok hget,
      ⟨⟨rfl, rfl⟩, ⟨by simp, by simp⟩, fun hkeeps => ?_⟩, hchange⟩
    obtain ⟨raised, hfails⟩ := hkeeps
    have hpublished := (lift_ok.mp hresult).1
    rw [hfails] at hpublished
    exact absurd hpublished (by simp)

lemma finish_effect {identifier : String} {request : StoredRequest} {exit : Outcome}
    {outcome : Except Raised Unit} (hthread : s.thread = .executing identifier request)
    (h : finish_run surroundings identifier request exit s = (outcome, t)) :
    Effect fingerprint s (.finish surroundings exit)
      { t with thread := after_finish identifier outcome } := by
  have hcases : t = s ∧ (∃ raised, outcome = .error raised) ∨
      outcome = .ok () ∧ FinishOk surroundings s t identifier request exit := by
    cases request with
    | workflow request => exact finish_workflow_cases h
    | fetch request => exact finish_fetch_cases h
    | inference record => exact finish_inference_cases h
  rcases hcases with ⟨rfl, raised, rfl⟩ | ⟨rfl, job, saved, changes, hjob, hmoves, hchange⟩
  · have hholds : t.thread.holds = some identifier := by
      rw [hthread]
      rfl
    exact unchanged_of_raise hholds (after_raise_holds identifier raised)
  · obtain ⟨⟨hidentifier, hstatus, hoperation⟩, store, rfl, hsaved⟩ := change_ok hchange
    have hsaved_identifier : saved.job_identifier = identifier := by
      rw [hidentifier, hmoves.same.job_identifier, WorkflowStore.identifier_of_job? hjob]
    have hsaved_job : s.store.job? saved.job_identifier = some job := by
      rw [hsaved_identifier, hjob]
    refine .finished rfl (hsaved_identifier ▸ hthread) hsaved_job
      ⟨hidentifier.trans hmoves.same.job_identifier, hoperation.trans hmoves.same.operation⟩ hsaved
      (hstatus ▸ hmoves.ended) (fun hkeeps => hstatus.trans (hmoves.keeps hkeeps)) ?_
      (.of_closing id id) rfl
    rw [hsaved_identifier]
    rfl

lemma report_failure_effect {identifier reference : String} {failure : Raised}
    {outcome : Except Raised Unit} (hthread : s.thread = .failing identifier failure)
    (h : report_failure surroundings identifier reference failure s = (outcome, t)) :
    Effect fingerprint s (.report_failure surroundings reference)
      { t with thread := after_report_failure identifier outcome } := by
  have hholds : s.thread.holds = some identifier := by rw [hthread]; rfl
  have hunchanged : t = s ∧ (∃ raised, outcome = .error raised) →
      Effect fingerprint s (.report_failure surroundings reference)
        { t with thread := after_report_failure identifier outcome } := by
    rintro ⟨rfl, raised, rfl⟩
    exact unchanged_of_raise hholds ⟨Or.inl rfl, rfl⟩
  have hreported : ∀ {job : JobSnapshot} {changes : JobSnapshot → JobSnapshot},
      s.store.job? identifier = some job → SameJob job (changes job) →
      (changes job).status = (if s.closing then .interrupted else .failed) →
      (change surroundings job changes none >>= fun _ => (pure () : Section Unit)) s = (outcome, t) →
      Effect fingerprint s (.report_failure surroundings reference)
        { t with thread := after_report_failure identifier outcome } := by
    intro job changes hjob hsame hends hrest
    rcases bind_cases hrest with ⟨raised, hchange, houtcome⟩ | ⟨saved, u, hchange, hpure⟩
    · exact hunchanged ⟨eq_of_error hchange (atomic_change _ _ _), raised, houtcome⟩
    · obtain ⟨rfl, rfl⟩ := pure_cases hpure
      obtain ⟨⟨hidentifier, hstatus, hoperation⟩, store, rfl, hsaved⟩ := change_ok hchange
      have hsaved_identifier : saved.job_identifier = identifier := by
        rw [hidentifier, hsame.job_identifier, WorkflowStore.identifier_of_job? hjob]
      have hsaved_job : s.store.job? saved.job_identifier = some job := by
        rw [hsaved_identifier, hjob]
      refine .failed rfl (hsaved_identifier ▸ hholds) hsaved_job
        ⟨hidentifier.trans hsame.job_identifier, hoperation.trans hsame.operation⟩ hsaved
        (hstatus.trans hends) ?_ (.of_closing id id) rfl
      rw [hsaved_identifier]
      rfl
  rcases (readOnly_get_job _).bind_cases h with hraised | ⟨job, hget, hrest⟩
  · exact hunchanged hraised
  rw [read_bind] at hrest
  by_cases hinference : s.closing = true ∧ is_inference job = true
  · rw [if_pos hinference] at hrest
    exact hreported (get_job_ok hget) ⟨rfl, rfl⟩ (by rw [if_pos hinference.1]) hrest
  · rw [if_neg hinference] at hrest
    exact hreported (get_job_ok hget) ⟨rfl, rfl⟩ rfl hrest

/-! ### Cache cleanup -/

lemma begin_cleanup_ok {u : Unit} (h : begin_cleanup surroundings s = (.ok u, t)) :
    (∀ job ∈ s.store.sorted_jobs, active_fetch job = false) ∧
      t = { s with cache_cleanup_in_progress := true } := by
  obtain ⟨_, -, hlist⟩ := readOnly_bind_ok readOnly_require_storage h
  obtain ⟨_, hactive, hflag⟩ := lift_bind_ok.mp (list_jobs_bind_ok hlist)
  rw [read_bind] at hflag
  obtain ⟨_, -, hwrite⟩ := lift_bind_ok.mp hflag
  refine ⟨fun job hjob => ?_, (write_ok.mp hwrite).symm⟩
  have hnone := raise_if_eq_ok.mp hactive
  rw [List.any_eq_true] at hnone
  exact Bool.eq_false_iff.mpr fun hjob' => hnone ⟨job, hjob, hjob'⟩

lemma begin_cleanup_effect {outcome : Except Raised Unit}
    (h : begin_cleanup surroundings s = (outcome, t)) :
    Effect fingerprint s (.begin_cleanup surroundings) t := by
  cases outcome with
  | error raised =>
    obtain rfl := eq_of_error h <| readOnly_require_storage.atomic_bind fun _ =>
      readOnly_list_jobs.atomic_bind fun _ => (readOnly_lift _).atomic_bind fun _ =>
      readOnly_read.atomic_bind fun _ => (readOnly_lift _).atomic_bind fun _ => atomic_write _
    exact .refl
  | ok u =>
    obtain ⟨hactive, rfl⟩ := begin_cleanup_ok h
    exact .unchanged rfl ⟨Or.inr rfl, id, fun _ => id, fun _ => Or.inr hactive,
      .of_closing id id⟩

/-! ### All steps -/

theorem Step.effect (h : Step fingerprint s e t) : Effect fingerprint s e t := by
  cases h with
  | submit h => exact submit_effect h
  | submit_fetch h => exact submit_fetch_effect h
  | submit_inference hinference h => exact submit_inference_effect h
  | action h => exact action_effect h
  | begin_cleanup h => exact begin_cleanup_effect h
  | end_cleanup h =>
    exact .unchanged rfl
      ⟨Or.inr rfl, id, fun _ => id, fun hflag => absurd hflag (by simp [StegoLab.end_cleanup]),
        .of_closing id id⟩
  | start hthread hownership hcloser h => exact start_effect hthread h
  | check hthread =>
    refine .unchanged rfl ⟨Or.inl ?_, fun _ => ?_, fun _ => id, Or.inl,
      .of_closing id id⟩
    · cases s.closing <;> rfl
    · rw [hthread]
      rfl
  | poll hthread h => exact poll_effect hthread h
  | @maintain raised hthread =>
    refine .unchanged rfl ⟨Or.inl ?_, fun _ => ?_, fun _ => id, Or.inl,
      .of_closing id id⟩
    · cases raised <;> rfl
    · rw [hthread]
      rfl
  | begin_run hthread h => exact begin_run_effect hthread h
  | report hthread hreport h => exact report_effect hthread h
  | finish hthread h => exact finish_effect hthread h
  | report_failure hthread h => exact report_failure_effect hthread h
  | @release identifier halt hthread =>
    refine .unchanged rfl ⟨Or.inl ?_, fun hidle => ?_, fun _ => id, Or.inl,
      .of_closing id id⟩
    · cases halt <;> rfl
    · rw [hthread]
      cases halt with
      | false => rfl
      | true => exact absurd hidle (by simp [Scheduler.idle])
  | halt hthread =>
    exact .unchanged rfl ⟨Or.inl rfl, fun hidle => absurd hidle (by simp [Scheduler.idle]),
      fun _ _ => rfl, Or.inl, fun _ => Or.inr rfl⟩
  | begin_close hcloser => exact .unchanged rfl ⟨Or.inr rfl, id, fun _ _ => rfl, Or.inl, fun _ => Or.inr rfl⟩
  | request_stop hcloser h => exact request_stop_effect hcloser h
  | join hcloser => exact .unchanged rfl (.of_eq rfl rfl rfl fun _ => by rw [hcloser]; decide)
  | reconcile hcloser h => exact reconcile_effect hcloser h
  | release_ownership hcloser =>
    unfold StegoLab.release_ownership
    split
    · exact .unchanged rfl (.of_eq rfl rfl rfl fun _ => by rw [hcloser]; decide)
    · exact .unchanged rfl (.of_eq rfl rfl rfl fun _ => by rw [hcloser]; decide)
  | crash =>
    exact .unchanged rfl ⟨Or.inl rfl, fun hidle => absurd hidle (by simp [Scheduler.idle]),
      fun hholds => absurd rfl hholds, fun hflag => absurd hflag (by simp),
      fun hcloser => absurd rfl hcloser⟩

end StegoLab

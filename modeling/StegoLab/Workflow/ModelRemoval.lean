import StegoLab.Workflow.Models
import StegoLab.Workflow.Replay
import StegoLab.Workflow.SecretHistory

/-!
# Models in use

Where no removal slips between the two halves of a submission, nor a submission between those of a
removal, every queued or running encode or decode job names an installed model.
-/

namespace StegoLab

open CanonicalJson Transaction

variable {fingerprint : Json → String} {surroundings : Surroundings} {s t : WorkspaceJobService}
  {e : Event} {key : String} {row' : JobRow}

/-! ### Where a row comes from -/

/-- How a row came into the jobs table in one step. -/
inductive RowSource (s : WorkspaceJobService) (e : Event) (key : String) (row' : JobRow) : Prop
  | kept {row : JobRow} (hrow : s.store.jobs.get? key = some row) (hsame : SameRow row row')
      (hwaiting : is_waiting row'.snapshot = true → is_waiting row.snapshot = true)
  | added (hfresh : s.store.jobs.get? key = none) (hmatches : row'.Matches)
      (hother : ∀ record, row'.request ≠ .inference record)
  | accepted {surroundings : Surroundings} {digest : Dict String → String} {uuid4 : String}
      {request : InferenceJobRequest} {record : InferenceJobRecord}
      (hevent : e = .submit_inference surroundings digest (.ok record) uuid4 request)
      (hfresh : s.store.jobs.get? key = none) (hmatches : row'.Matches)
      (hrequest : row'.request = .inference record)

lemma RowSource.of_store (hstore : t.store = s.store) (hrow' : t.store.jobs.get? key = some row') :
    RowSource s e key row' :=
  .kept (hstore ▸ hrow') (.refl row') id

lemma RowSource.of_rows (hrows : KeepsRows s t) (hrow' : t.store.jobs.get? key = some row')
    (hwaiting : ∀ job', t.store.job? key = some job' → is_waiting job' = true →
      ∃ job, s.store.job? key = some job ∧ is_waiting job = true) : RowSource s e key row' := by
  cases hrow : s.store.jobs.get? key with
  | none =>
    obtain ⟨hmatches, hother⟩ := hrows.added key row' hrow hrow'
    exact .added hrow hmatches hother
  | some row =>
    obtain ⟨_, hafter, hsame⟩ := hrows.kept key row hrow
    obtain rfl := Option.some_inj.mp (hafter.symm.trans hrow')
    refine .kept hrow hsame fun hwaits => ?_
    obtain ⟨job, hjob, hbefore⟩ :=
      hwaiting _ (WorkflowStore.job?_eq_some.mpr ⟨_, hrow', rfl⟩) hwaits
    obtain ⟨row₀, hrow₀, rfl⟩ := WorkflowStore.job?_eq_some.mp hjob
    obtain rfl := Option.some_inj.mp (hrow₀.symm.trans hrow)
    exact hbefore

/-- An action moves no job to a waiting state. -/
lemma Moved.waiting {job saved job' : JobSnapshot} (h : Moved s job saved t)
    (hjob' : t.store.job? key = some job') (hwaiting : is_waiting job' = true) :
    ∃ job, s.store.job? key = some job ∧ is_waiting job = true := by
  rw [h.jobs] at hjob'
  split_ifs at hjob' with hkey
  · obtain rfl := Option.some_inj.mp hjob'
    obtain ⟨his, hstatus⟩ := is_waiting_eq.mp hwaiting
    have hrunning := (h.came_from his hstatus).2
    exact ⟨job, hkey ▸ h.stored,
      is_waiting_eq.mpr ⟨is_inference_of_same h.same ▸ his, Or.inr hrunning⟩⟩
  · exact ⟨job', hjob', hwaiting⟩

/-- The store after secrets were put in is the one with the saved job. -/
lemma store_of_put {u : WorkspaceJobService} {saved : JobSnapshot} {secrets : Dict String}
    {identifier : String} {outcome : Except Raised JobSnapshot}
    (h : (put_secrets identifier secrets >>= fun _ => pure saved) u = (outcome, t)) :
    t.store = u.store := by
  rcases bind_cases h with ⟨_, hput, -⟩ | ⟨_, v, hput, hpure⟩
  · obtain ⟨_, rfl⟩ := put_secrets_frame hput
    rfl
  · obtain ⟨_, rfl⟩ := put_secrets_frame hput
    obtain rfl := (pure_cases hpure).2
    rfl

theorem Step.row_source (h : Step fingerprint s e t) (hrow' : t.store.jobs.get? key = some row') :
    RowSource s e key row' := by
  by_cases hsecretive : e.secretive = false
  · have hrows := (h.frame hsecretive).rows
    refine .of_rows hrows hrow' fun job' hjob' hwaiting => ?_
    obtain ⟨job, hjob, hbefore, -⟩ := h.effect.came_from hrows hjob' hwaiting
    exact ⟨job, hjob, hbefore⟩
  cases h with
  | submit_inference _ hsubmit =>
    rcases submit_inference_cases hsubmit with rfl | ⟨record, saved, u, rfl, hsaved, hput⟩
    · exact .of_store rfl hrow'
    · rw [store_of_put hput, hsaved.rows] at hrow'
      split_ifs at hrow' with hkey
      · obtain rfl := Option.some_inj.mp hrow'
        exact .accepted rfl (hkey ▸ hsaved.fresh) hsaved.matches rfl
      · exact .kept hrow' (.refl row') id
  | action haction =>
    rcases action_cases haction with rfl | ⟨job, saved, hmoved⟩
    · exact .of_store rfl hrow'
    · exact .of_rows (hmoved.frame.rows.trans (.of_eq rfl)) hrow' fun _ => hmoved.waiting
  | @begin_run _ _ _ _ outcome _ hbegin =>
    refine .of_store ?_ hrow'
    cases outcome with
    | error raised =>
      obtain ⟨rfl, -⟩ := begin_run_error hbegin
      rfl
    | ok request =>
      rcases (begin_run_ok hbegin).2 with ⟨-, -, _, -, rfl⟩ | ⟨-, rfl⟩
      · rfl
      · rfl
  | crash => exact .of_store rfl hrow'
  | _ => exact absurd rfl hsecretive

/-! ### The model of a job -/

/-- An encode or decode job names the model of its record. -/
lemma named_model_of_matches {row : JobRow} (h : row.Matches) {record : InferenceJobRecord}
    (hrecord : row.request = .inference record) :
    named_model row.snapshot = some record.model_identifier := by
  have hsorted := List.perm_insertionSort (fun a b : String × Json => a.1 ≤ b.1) record.fields
  have hnodup : ((record.fields.insertionSort fun a b => a.1 ≤ b.1).map Prod.fst).Nodup := by
    refine (hsorted.map Prod.fst).nodup_iff.mpr ?_
    change ["operation", "image_reference", "model_identifier", "message_byte_count", "width",
      "height"].Nodup
    decide
  have hlookup : (record.fields.insertionSort fun a b => a.1 ≤ b.1).lookup "model_identifier"
      = some (.str record.model_identifier) := by
    refine (Dict.lookup_eq_some_iff hnodup).mpr (hsorted.mem_iff.mpr ?_)
    simp [InferenceJobRecord.fields]
  unfold named_model
  rw [h.settings record hrecord, dict]
  simp only [hlookup]

lemma named_model_of_same {row : JobRow} (h : SameRow row row') :
    named_model row'.snapshot = named_model row.snapshot := by
  unfold named_model
  rw [h.frozen_settings]

lemma waiting_of_in_use {jobs : List JobSnapshot} {model_identifier : String}
    (h : model_in_use jobs model_identifier = false) {job : JobSnapshot} (hjob : job ∈ jobs)
    (hnamed : named_model job = some model_identifier) : is_waiting job = false := by
  have hjob := List.any_eq_false.mp h job hjob
  simpa [hnamed] using hjob

/-! ### The invariant -/

/-- Every queued or running encode or decode job names a model that is recorded as installed. -/
def ModelsKept (s : ModelService) : Prop :=
  ∀ key job, s.service.store.job? key = some job → is_waiting job = true →
    ∃ model_identifier, named_model job = some model_identifier ∧
      s.installed.models.get? model_identifier ≠ none

/-- The submission is about to save its job. -/
structure Admission.Saves (call : Admission) (service : WorkspaceJobService) : Prop where
  closing : service.closing = false
  room : (service.store.sorted_jobs.filter is_waiting).length < MAXIMUM_INFERENCE_JOBS
  listed : call.surroundings.database .jobs = true
  saved : call.surroundings.database (.save ("job_" ++ call.uuid4)) = true

/-- No job was saved that names the model between the reading of a removal and its deletion, and
no model was deleted between the admission of a job and its save. -/
def Undisturbed (s : ModelService) : ModelEvent → Prop
  | .remove disk removal => disk.database = true → ∀ key job, s.service.store.job? key = some job →
      is_waiting job = true → named_model job = some removal.model_identifier →
        ∃ read ∈ removal.jobs, read.job_identifier = key
  | .accept => ∀ call record, s.admission = some call → call.admitted = .ok record →
      call.Saves s.service → s.installed.models.get? record.model_identifier ≠ none
  | _ => True

/-- The rows match their requests, the waiting jobs name installed models, and no job that a
removal has read waits for its model. -/
structure Provided (s : ModelService) : Prop where
  rows : ∀ key row, s.service.store.jobs.get? key = some row → row.Matches
  installed : ∀ key row, s.service.store.jobs.get? key = some row →
    is_waiting row.snapshot = true → ∃ model_identifier,
      named_model row.snapshot = some model_identifier ∧
        s.installed.models.get? model_identifier ≠ none
  present : ∀ removal ∈ s.removals, ∀ read ∈ removal.jobs,
    (s.service.store.job? read.job_identifier).isSome = true
  unused : ∀ removal ∈ s.removals, ∀ read ∈ removal.jobs, ∀ row,
    s.service.store.jobs.get? read.job_identifier = some row →
      named_model row.snapshot = some removal.model_identifier → is_waiting row.snapshot = false

lemma provided_initial : Provided {} where
  rows key row h := absurd h (by simp [WorkflowStore.created])
  installed key row h := absurd h (by simp [WorkflowStore.created])
  present removal h := absurd h List.not_mem_nil
  unused removal h := absurd h List.not_mem_nil

/-- What a submission has found when it saves. -/
lemma saves_of_submit {digest : Dict String → String} {admitted : Except Raised InferenceJobRecord}
    {uuid4 : String} {request : InferenceJobRequest} {outcome : Except Raised JobSnapshot}
    (h : submit_inference surroundings fingerprint digest admitted uuid4 request s = (outcome, t))
    (hsaved : t.store ≠ s.store) :
    Admission.Saves { surroundings, digest, uuid4, request, admitted } s := by
  have hnew := submit_inference_cases h
  rcases unless_replayed_cases h with rfl | ⟨-, haccept⟩
  · exact absurd rfl hsaved
  rcases (readOnly_lift _).bind_cases haccept with ⟨rfl, -⟩ | ⟨record, -, hrest⟩
  · exact absurd rfl hsaved
  rcases readOnly_refuse_closing.bind_cases hrest with ⟨rfl, -⟩ | ⟨_, -, hrest⟩
  · exact absurd rfl hsaved
  rcases readOnly_list_jobs.bind_cases hrest with ⟨rfl, -⟩ | ⟨jobs, hjobs, hrest⟩
  · exact absurd rfl hsaved
  rcases (readOnly_lift _).bind_cases hrest with ⟨rfl, -⟩ | ⟨_, -, hrest⟩
  · exact absurd rfl hsaved
  rcases bind_cases hrest with ⟨_, hsave, -⟩ | ⟨saved, u, hsave, -⟩
  · exact absurd (congrArg _ (eq_of_error hsave (atomic_save _ _ _))) hsaved
  rcases hnew with rfl | ⟨_, _, _, -, hrecord, -⟩
  · exact absurd rfl hsaved
  refine ⟨hrecord.closing, hrecord.room, ?_, ?_⟩
  · rw [list_jobs, read_bind] at hjobs
    obtain ⟨_, hconnected, -⟩ := bind_eq_ok.mp (lift_ok.mp hjobs).1
    exact Bool.not_eq_false _ ▸ raise_if_eq_ok.mp hconnected
  · rw [save, read_bind] at hsave
    obtain ⟨_, hsave, -⟩ := lift_bind_ok.mp hsave
    obtain ⟨_, hconnected, -⟩ := bind_eq_ok.mp hsave
    exact Bool.not_eq_false _ ▸ raise_if_eq_ok.mp hconnected

section Steps

variable {s t : ModelService}

/-- A step of the job service alone, or one that saves a job whose model is installed. -/
lemma Provided.of_service (h : Provided s) {service : WorkspaceJobService}
    (hstep : Step fingerprint s.service e service) {admission : Option Admission}
    (haccepted : ∀ {surroundings digest uuid4 request record},
      e = .submit_inference surroundings digest (.ok record) uuid4 request →
        service.store ≠ s.service.store →
          s.installed.models.get? record.model_identifier ≠ none) :
    Provided { s with service, admission } where
  rows key row' hrow' := by
    cases hstep.row_source hrow' with
    | kept hrow hsame _ => exact (h.rows key _ hrow).of_same hsame
    | added _ hmatches _ => exact hmatches
    | accepted _ _ hmatches _ => exact hmatches
  installed key row' hrow' hwaiting := by
    cases hstep.row_source hrow' with
    | kept hrow hsame hbefore =>
      rw [named_model_of_same hsame]
      exact h.installed key _ hrow (hbefore hwaiting)
    | added _ hmatches hother =>
      obtain ⟨record, hrecord⟩ := hmatches.of_inference (is_waiting_eq.mp hwaiting).1
      exact absurd hrecord (hother record)
    | accepted hevent hfresh hmatches hrequest =>
      refine ⟨_, named_model_of_matches hmatches hrequest, haccepted hevent fun hstore => ?_⟩
      rw [← hstore] at hfresh
      exact absurd (hfresh.symm.trans hrow') (by simp)
  present removal hremoval read hread :=
    hstep.retains.jobs _ (h.present removal hremoval read hread)
  unused removal hremoval read hread row' hrow' hnamed := by
    have hpresent : s.service.store.jobs.get? read.job_identifier ≠ none := by
      have hsome := h.present removal hremoval read hread
      rw [WorkflowStore.job?, Option.isSome_map] at hsome
      exact Option.isSome_iff_ne_none.mp hsome
    cases hstep.row_source hrow' with
    | @kept row hrow hsame hbefore =>
      rw [named_model_of_same hsame] at hnamed
      have hidle := h.unused removal hremoval read hread row hrow hnamed
      exact Bool.eq_false_iff.mpr fun hwaiting => Bool.eq_false_iff.mp hidle (hbefore hwaiting)
    | added hfresh _ _ => exact absurd hfresh hpresent
    | accepted _ hfresh _ _ => exact absurd hfresh hpresent

/-- A removal has read a list without a job that waits for its model. -/
lemma Provided.of_check (h : Provided s) {surroundings : Surroundings} {model_identifier : String}
    {outcome : Except Raised (List JobSnapshot)} {service : WorkspaceJobService}
    (hcheck : check_unused surroundings model_identifier s.service = (outcome, service)) :
    Provided { s with removals := s.removals ++ begun_removal model_identifier outcome } := by
  cases outcome with
  | error raised =>
    rw [begun_removal, List.append_nil]
    exact h
  | ok jobs =>
    obtain ⟨_, -, hcheck⟩ := readOnly_bind_ok readOnly_require_storage hcheck
    obtain ⟨jobs', hjobs, hcheck⟩ := readOnly_bind_ok readOnly_list_jobs hcheck
    obtain ⟨_, hunused, hcheck⟩ := lift_bind_ok.mp hcheck
    obtain ⟨rfl, -⟩ := pure_ok.mp hcheck
    obtain rfl := list_jobs_ok hjobs
    have hunused := Bool.eq_false_iff.mpr (raise_if_eq_ok.mp hunused)
    refine ⟨h.rows, h.installed, ?_, ?_⟩
    · intro removal hremoval read hread
      rcases List.mem_append.mp hremoval with hremoval | hremoval
      · exact h.present removal hremoval read hread
      · obtain rfl := List.mem_singleton.mp hremoval
        rw [WorkflowStore.mem_sorted_jobs.mp hread]
        rfl
    · intro removal hremoval read hread row hrow hnamed
      rcases List.mem_append.mp hremoval with hremoval | hremoval
      · exact h.unused removal hremoval read hread row hrow hnamed
      · obtain rfl := List.mem_singleton.mp hremoval
        obtain ⟨row', hrow', rfl⟩ :=
          WorkflowStore.job?_eq_some.mp (WorkflowStore.mem_sorted_jobs.mp hread)
        obtain rfl := Option.some_inj.mp (hrow'.symm.trans hrow)
        exact waiting_of_in_use hunused hread hnamed

/-- A deletion, where no waiting job names the model. -/
lemma Provided.of_remove (h : Provided s) {disk : InstalledModelStore.Disk} {removal : Removal}
    {before after : List Removal} (hremoval : s.removals = before ++ removal :: after)
    (hundisturbed : Undisturbed s (.remove disk removal)) :
    Provided { s with
      installed := stored_or s.installed (s.installed.remove disk removal.model_identifier)
      removals := before ++ after } := by
  have hpending : ∀ other ∈ before ++ after, other ∈ s.removals := by
    intro other hother
    rw [hremoval]
    rcases List.mem_append.mp hother with hother | hother
    · exact List.mem_append_left _ hother
    · exact List.mem_append_right _ (List.mem_cons_of_mem _ hother)
  have hmember : removal ∈ s.removals := by
    rw [hremoval]
    exact List.mem_append_right _ List.mem_cons_self
  refine ⟨h.rows, fun key row hrow hwaiting => ?_, fun other hother =>
    h.present other (hpending other hother), fun other hother =>
    h.unused other (hpending other hother)⟩
  obtain ⟨model_identifier, hnamed, hinstalled⟩ := h.installed key row hrow hwaiting
  refine ⟨model_identifier, hnamed, ?_⟩
  change (stored_or s.installed _).models.get? model_identifier ≠ none
  cases hremove : s.installed.remove disk removal.model_identifier with
  | error raised => exact hinstalled
  | ok store =>
    refine InstalledModelStore.get?_of_remove hremove hinstalled fun hsame => ?_
    -- The job was in the list that the removal has read, and did not wait then.
    obtain ⟨_, hconnected, -⟩ := bind_eq_ok.mp hremove
    have hdatabase : disk.database = true := Bool.not_eq_false _ ▸ raise_if_eq_ok.mp hconnected
    obtain ⟨read, hread, rfl⟩ := hundisturbed hdatabase key row.snapshot
      (WorkflowStore.job?_eq_some.mpr ⟨row, hrow, rfl⟩) hwaiting (hsame ▸ hnamed)
    have hidle := h.unused removal hmember read hread row hrow (hsame ▸ hnamed)
    exact Bool.eq_false_iff.mp hidle hwaiting

theorem Provided.step (h : Provided s) {e : ModelEvent} (hstep : ModelStep fingerprint s e t)
    (hundisturbed : Undisturbed s e) : Provided t := by
  cases hstep with
  | service hevent _ hstep =>
    refine h.of_service hstep fun heq => ?_
    rw [heq] at hevent
    exact absurd hevent (by simp [Event.composite])
  | admit_inference => exact ⟨h.rows, h.installed, h.present, h.unused⟩
  | @accept call service hcall hstep =>
    refine h.of_service hstep fun heq hsaved => ?_
    injection heq with _ _ hadmitted _ _
    cases hstep with
    | submit_inference _ hsubmit =>
      exact hundisturbed call _ hcall hadmitted (saves_of_submit hsubmit hsaved)
  | check_unused hcheck => exact h.of_check hcheck
  | remove hremoval => exact h.of_remove hremoval hundisturbed
  | @install model =>
    refine ⟨h.rows, fun key row hrow hwaiting => ?_, h.present, h.unused⟩
    obtain ⟨model_identifier, hnamed, hinstalled⟩ := h.installed key row hrow hwaiting
    refine ⟨model_identifier, hnamed, ?_⟩
    change (stored_or s.installed (s.installed.record model)).models.get? model_identifier ≠ none
    cases hrecord : s.installed.record model with
    | error raised => exact hinstalled
    | ok store => exact InstalledModelStore.get?_of_record hrecord hinstalled
  | crash hstep =>
    have hservice : Provided { s with service := _, admission := none } :=
      h.of_service hstep fun heq => absurd heq (by simp)
    exact ⟨hservice.rows, hservice.installed, fun _ hremoval => absurd hremoval List.not_mem_nil,
      fun _ hremoval => absurd hremoval List.not_mem_nil⟩

end Steps

/-! ### No model in use is removed -/

/-- In an undisturbed run, every waiting job names an installed model. -/
theorem models_kept {events : List ModelEvent} {s : ModelService}
    (h : Run (fun s e t => ModelStep fingerprint s e t ∧ Undisturbed s e) {} events s) :
    ModelsKept s := by
  have hprovided : Provided s :=
    h.invariant Provided (fun hs hstep => hs.step hstep.1 hstep.2) provided_initial
  intro key job hjob hwaiting
  obtain ⟨row, hrow, rfl⟩ := WorkflowStore.job?_eq_some.mp hjob
  exact hprovided.installed key row hrow hwaiting

/-! A model is installed, and a decode job is submitted for it. -/

def decode_model : InstalledModel where
  model_identifier := "model"
  compatibility_identifier := "dense"

def one_model : InstalledModelStore :=
  stored_or {} (InstalledModelStore.record {} decode_model)

def present_disk : InstalledModelStore.Disk where
  database := true
  available := true

/-- The submission between its admission and its save. -/
def decode_call : Admission where
  surroundings := working
  digest _ := "d"
  uuid4 := "1"
  request := decode_request
  admitted := admit_inference decode_reading decode_request

/-- The removal between its check and its deletion. -/
def unused_model : Removal where
  model_identifier := "model"
  jobs := []

/-- The steps up to the installation. -/
def until_installed : List ModelEvent :=
  [.crash true, .service (.start working false), .install decode_model]

/-- The submission is admitted. -/
def admit_decode : ModelEvent :=
  .admit_inference working (fun _ => "d") "1" decode_reading.image present_disk decode_request

lemma run_until_installed :
    Run (fun s e t => ModelStep (fun _ => "f") s e t ∧ Undisturbed s e) {} until_installed
      { service := attached_started, installed := one_model } := by
  have hstart : Step (fun _ => "f") attached (.start working false) attached_started :=
    .start rfl rfl rfl Prod.mk.eta.symm
  exact .cons (t := { service := attached }) ⟨.crash .crash, trivial⟩ <|
    .cons (t := { service := attached_started }) ⟨.service rfl (fun _ => rfl) hstart, trivial⟩ <|
    .cons ⟨.install, trivial⟩ .nil

lemma admitted_decode (removals : List Removal) : ModelStep (fun _ => "f")
    { service := attached_started, installed := one_model, removals } admit_decode
    { service := attached_started, installed := one_model, admission := some decode_call,
      removals } :=
  .admit_inference rfl rfl rfl

lemma accepted_decode (removals : List Removal) : ModelStep (fun _ => "f")
    { service := attached_started, installed := one_model, admission := some decode_call,
      removals } .accept
    { service := with_decode, installed := one_model, removals } := by
  have hsubmit : Step (fun _ => "f") attached_started (.submit_inference working (fun _ => "d")
      decode_call.admitted "1" decode_request) with_decode :=
    .submit_inference rfl Prod.mk.eta.symm
  exact .accept rfl hsubmit

lemma decode_waits : ∃ job, with_decode.store.job? "job_1" = some job ∧ is_waiting job = true ∧
    named_model job = some "model" := by
  refine ⟨_, rfl, ?_, ?_⟩
  · decide +kernel
  · decide +kernel

/-- The removal has read an empty list, and deletes the model of the job that was submitted since. -/
theorem model_in_use_removed : ∃ events s,
    Run (ModelStep fun _ => "f") {} events s ∧ ¬ ModelsKept s := by
  have hread : check_unused working "model" attached_started = (.ok [], attached_started) := rfl
  have hcheck : ModelStep (fun _ => "f") { service := attached_started, installed := one_model }
      (.check_unused working "model")
      { service := attached_started, installed := one_model, removals := [unused_model] } :=
    .check_unused (s := { service := attached_started, installed := one_model }) hread
  refine ⟨until_installed ++ [.check_unused working "model", admit_decode, .accept,
      .remove present_disk unused_model], _, (run_until_installed.mono fun h => h.1).append <|
    .cons hcheck <| .cons (admitted_decode _) <| .cons (accepted_decode _) <|
    .cons (@ModelStep.remove _ _ present_disk unused_model [] [] rfl) .nil, fun hkept => ?_⟩
  obtain ⟨job, hjob, hwaiting, hnamed⟩ := decode_waits
  obtain ⟨model_identifier, hnamed', hinstalled⟩ := hkept "job_1" job hjob hwaiting
  obtain rfl : "model" = model_identifier := Option.some_inj.mp (hnamed.symm.trans hnamed')
  exact hinstalled rfl

/-- The model of the submitted job is still installed. -/
theorem models_kept_decode :
    ModelsKept { service := with_decode, installed := one_model } := by
  refine models_kept (run_until_installed.append <| .cons ⟨admitted_decode [], trivial⟩ <|
    .cons ⟨accepted_decode [], fun call record hcall hrecord _ => ?_⟩ .nil)
  obtain rfl := Option.some_inj.mp hcall
  rw [(admit_inference_ok hrecord).model_identifier]
  exact Option.isSome_iff_ne_none.mp rfl

end StegoLab

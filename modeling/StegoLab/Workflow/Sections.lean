import StegoLab.Workflow.System

/-!
# What the sections do

Every section either leaves the service as it was or saves snapshots, as described here once.
-/

namespace StegoLab

open CanonicalJson Transaction

variable {surroundings : Surroundings} {s t : WorkspaceJobService} {job saved snapshot : JobSnapshot}
  {request : Option StoredRequest} {mutation : Option (String × String)} {α β : Type}

/-! ### Reads -/

lemma read_bind {f : WorkspaceJobService → Section α} : (read >>= f) s = f s s := rfl

lemma readOnly_get_job (identifier : String) : ReadOnly (get_job surroundings identifier) :=
  readOnly_read.bind fun _ => readOnly_lift _

lemma readOnly_list_jobs : ReadOnly (list_jobs surroundings) :=
  readOnly_read.bind fun _ => readOnly_lift _

lemma readOnly_require_storage : ReadOnly require_storage :=
  readOnly_read.bind fun _ => readOnly_lift _

lemma readOnly_refuse_closing : ReadOnly refuse_closing :=
  readOnly_read.bind fun _ => readOnly_lift _

lemma get_job_ok {identifier : String} (h : get_job surroundings identifier s = (.ok job, t)) :
    s.store.job? identifier = some job := by
  rw [get_job, read_bind] at h
  obtain ⟨hjob, rfl⟩ := lift_ok.mp h
  exact WorkflowStore.get_eq_ok hjob

lemma list_jobs_ok {jobs : List JobSnapshot} (h : list_jobs surroundings s = (.ok jobs, t)) :
    jobs = s.store.sorted_jobs := by
  rw [list_jobs, read_bind] at h
  obtain ⟨hjobs, rfl⟩ := lift_ok.mp h
  exact WorkflowStore.list_jobs_eq_ok hjobs

lemma list_jobs_bind_ok {f : List JobSnapshot → Section β} {b : β}
    (h : (list_jobs surroundings >>= f) s = (.ok b, t)) : f s.store.sorted_jobs s = (.ok b, t) := by
  obtain ⟨jobs, u, hlist, hf⟩ := bind_ok.mp h
  obtain rfl := readOnly_list_jobs _ _ _ hlist
  rwa [list_jobs_ok hlist] at hf

/-- A check that only reads, before the rest. -/
lemma readOnly_bind_ok {x : Section α} (hx : ReadOnly x) {f : α → Section β} {b : β}
    (h : (x >>= f) s = (.ok b, t)) : ∃ a, x s = (.ok a, s) ∧ f a s = (.ok b, t) := by
  obtain ⟨a, u, hfirst, hf⟩ := bind_ok.mp h
  obtain rfl := hx _ _ _ hfirst
  exact ⟨a, hfirst, hf⟩

/-! ### Saves -/

lemma atomic_save (snapshot : JobSnapshot) (request : Option StoredRequest)
    (mutation : Option (String × String)) :
    Atomic (save surroundings snapshot request mutation) := by
  refine readOnly_read.atomic_bind fun service => (readOnly_lift _).atomic_bind fun result => ?_
  exact (atomic_write _).bind_pure _

lemma atomic_change (job : JobSnapshot) (changes : JobSnapshot → JobSnapshot)
    (mutation : Option (String × String)) : Atomic (change surroundings job changes mutation) :=
  (readOnly_lift _).atomic_bind fun _ => atomic_save _ _ _

lemma save_ok (h : save surroundings snapshot request mutation s = (.ok saved, t)) :
    saved = { snapshot with latest_event_identifier := some (s.store.events.length + 1) } ∧
      ∃ store, t = { s with store := store } ∧ s.store.Saved saved request mutation store := by
  rw [save, read_bind] at h
  obtain ⟨⟨saved', store⟩, hsave, h⟩ := lift_bind_ok.mp h
  obtain ⟨_, u, hwrite, h⟩ := bind_ok.mp h
  obtain rfl := write_ok.mp hwrite
  obtain ⟨rfl, rfl⟩ := pure_ok.mp h
  obtain ⟨hsaved, hstore⟩ := WorkflowStore.save_eq_ok hsave
  exact ⟨hsaved, store, rfl, hstore⟩

/-- A snapshot with the changes of a transition. -/
structure Revised (job : JobSnapshot) (changes : JobSnapshot → JobSnapshot) (saved : JobSnapshot) :
    Prop where
  job_identifier : saved.job_identifier = (changes job).job_identifier
  status : saved.status = (changes job).status
  operation : saved.operation = (changes job).operation

lemma change_ok {changes : JobSnapshot → JobSnapshot}
    (h : change surroundings job changes mutation s = (.ok saved, t)) :
    Revised job changes saved ∧
      ∃ store, t = { s with store := store } ∧ s.store.Saved saved none mutation store := by
  obtain ⟨updated, hvalid, h⟩ := lift_bind_ok.mp h
  obtain ⟨-, -, hvalid⟩ := bind_eq_ok.mp hvalid
  obtain rfl := pure_eq_ok.mp hvalid
  obtain ⟨rfl, hstore⟩ := save_ok h
  exact ⟨⟨rfl, rfl, rfl⟩, hstore⟩

/-! ### Requests -/

section Requests

variable {identifier fingerprint : String} {accept : Section JobSnapshot}
  {outcome : Except Raised JobSnapshot}

lemma unless_replayed_eq :
    unless_replayed surroundings identifier fingerprint accept s =
      match s.store.replay surroundings.database identifier fingerprint with
      | .error raised => (.error raised, s)
      | .ok (some job) => (.ok job, s)
      | .ok none => accept s := by
  rw [unless_replayed, read_bind, lift_bind]
  rcases s.store.replay surroundings.database identifier fingerprint with raised | previous
  · rfl
  · cases previous with
    | none => rfl
    | some job => rfl

lemma replay_eq_none
    (h : s.store.replay surroundings.database identifier fingerprint = .ok none) :
    s.store.mutations.get? identifier = none := by
  obtain ⟨-, -, h⟩ := bind_eq_ok.mp h
  cases hrow : s.store.mutations.get? identifier with
  | none => rfl
  | some row =>
    rw [hrow] at h
    obtain ⟨-, -, h⟩ := bind_eq_ok.mp h
    obtain ⟨job, -, h⟩ := bind_eq_ok.mp h
    exact absurd (pure_eq_ok.mp h) (by simp)

/-- A request leaves the service as it was, or its identifier is new and it is accepted. -/
lemma unless_replayed_cases
    (h : unless_replayed surroundings identifier fingerprint accept s = (outcome, t)) :
    t = s ∨ s.store.mutations.get? identifier = none ∧ accept s = (outcome, t) := by
  rw [unless_replayed_eq] at h
  rcases hreplay : s.store.replay surroundings.database identifier fingerprint with raised | previous
  · rw [hreplay] at h
    exact Or.inl (congrArg Prod.snd h).symm
  · rw [hreplay] at h
    cases previous with
    | some job => exact Or.inl (congrArg Prod.snd h).symm
    | none => exact Or.inr ⟨replay_eq_none hreplay, h⟩

end Requests

end StegoLab

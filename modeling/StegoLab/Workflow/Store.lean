import StegoLab.Workflow.Jobs

/-!
# The workflow store

Durable job snapshots, ordered events, and the mutations that make retries safe. Every access to
the database can fail; a save is one database transaction.
-/

namespace StegoLab

/-- The accesses to the database that a section makes. -/
inductive Access where
  | mutation
  | jobs
  | job
  | request
  | save (job_identifier : String)
  deriving DecidableEq

/-- `connection`: the access works, or the database raises. -/
def connection (database : Access → Bool) (access : Access) : Except Raised Unit :=
  raise_if (database access = false) (.application StorageFailure)

/-- A row of the jobs table. -/
structure JobRow where
  snapshot : JobSnapshot
  request : StoredRequest

/-- A row of the mutations table. -/
structure Mutation where
  fingerprint : String
  job : String
  deriving DecidableEq

/-- The three tables. A row of the jobs table is stored under its own identifier. -/
structure WorkflowStore where
  jobs : Dict JobRow := .empty
  events : List JobEvent := []
  mutations : Dict Mutation := .empty
  keyed : ∀ key row, jobs.get? key = some row → row.snapshot.job_identifier = key

namespace WorkflowStore

lemma keyed_insert {jobs : Dict JobRow} {key : String} {row : JobRow}
    (h : ∀ key row, jobs.get? key = some row → row.snapshot.job_identifier = key)
    (hrow : row.snapshot.job_identifier = key) (k : String) (row' : JobRow)
    (hget : (jobs.insert key row).get? k = some row') : row'.snapshot.job_identifier = k := by
  rw [Dict.get?_insert] at hget
  by_cases hk : k = key
  · rw [if_pos hk, Option.some_inj] at hget
    rw [← hget, hk, hrow]
  · rw [if_neg hk] at hget
    exact h k row' hget

/-- The tables of a new database. -/
def created : WorkflowStore where
  keyed key row h := by simp at h

def job_not_found : ApplicationFailure where
  code := "job_not_found"
  message := "No saved job was found."
  status_code := 404

def request_identifier_conflict : ApplicationFailure where
  code := "request_identifier_conflict"
  message := "This request identifier was used for another change. Refresh and retry."
  status_code := 409

/-- The saved snapshot of a job. -/
def job? (store : WorkflowStore) (identifier : String) : Option JobSnapshot :=
  (store.jobs.get? identifier).map JobRow.snapshot

variable (database : Access → Bool)

/-! ### Reads -/

def get (store : WorkflowStore) (identifier : String) : Except Raised JobSnapshot := do
  connection database .job
  match store.jobs.get? identifier with
  | none => fail job_not_found
  | some row => return row.snapshot

def request (store : WorkflowStore) (identifier : String) : Except Raised StoredRequest := do
  connection database .request
  match store.jobs.get? identifier with
  | none => fail job_not_found
  | some row => return row.request

/-- The current job of an accepted mutation; a conflicting retry is refused. -/
def replay (store : WorkflowStore) (identifier fingerprint : String) :
    Except Raised (Option JobSnapshot) := do
  connection database .mutation
  match store.mutations.get? identifier with
  | none => return none
  | some row =>
    raise_if (row.fingerprint ≠ fingerprint) (.application request_identifier_conflict)
    let job ← store.get database row.job
    return some job

/-- All saved jobs in creation order. -/
def sorted_jobs (store : WorkflowStore) : List JobSnapshot :=
  (store.jobs.entries.map fun entry => entry.2.snapshot).insertionSort fun a b =>
    a.created_at < b.created_at
      ∨ a.created_at = b.created_at ∧ a.job_identifier ≤ b.job_identifier

def list_jobs (store : WorkflowStore) : Except Raised (List JobSnapshot) := do
  connection database .jobs
  return store.sorted_jobs

/-! ### Saving -/

/-- `UPDATE workflow_jobs SET payload=? WHERE identifier=?`. -/
def update_job (store : WorkflowStore) (snapshot : JobSnapshot) : WorkflowStore :=
  match store.jobs.get? snapshot.job_identifier with
  | none => store
  | some row =>
    { store with
      jobs := store.jobs.insert snapshot.job_identifier { row with snapshot := snapshot }
      keyed := keyed_insert store.keyed rfl }

/-- `INSERT INTO workflow_jobs VALUES (?,?,?)`. -/
def insert_job (store : WorkflowStore) (snapshot : JobSnapshot) (request : StoredRequest) :
    Except Raised WorkflowStore := do
  raise_if ((store.jobs.get? snapshot.job_identifier).isSome = true) (.application StorageFailure)
  return { store with
    jobs := store.jobs.insert snapshot.job_identifier { snapshot := snapshot, request := request }
    keyed := keyed_insert store.keyed rfl }

/-- A new job comes with its request, a change of a job does not. -/
def write_job (store : WorkflowStore) (snapshot : JobSnapshot) :
    Option StoredRequest → Except Raised WorkflowStore
  | none => return store.update_job snapshot
  | some request => store.insert_job snapshot request

/-- The event that a save publishes. -/
def next_event (store : WorkflowStore) (snapshot : JobSnapshot) : JobEvent where
  event_identifier := store.events.length + 1
  job_identifier := snapshot.job_identifier
  status := snapshot.status
  phase := snapshot.phase
  created_at := snapshot.updated_at
  snapshot := snapshot

/-- `INSERT INTO workflow_mutations VALUES (?,?,?)`. -/
def insert_mutation (mutations : Dict Mutation) (job : String) :
    Option (String × String) → Dict Mutation
  | none => mutations
  | some (identifier, fingerprint) =>
    mutations.insert identifier { fingerprint := fingerprint, job := job }

/-- The primary key refuses a second mutation with an identifier. -/
def write_mutation (store : WorkflowStore) (job : String) (mutation : Option (String × String)) :
    Except Raised WorkflowStore := do
  raise_if (mutation.any (fun m => (store.mutations.get? m.1).isSome) = true)
    (.application StorageFailure)
  return { store with mutations := insert_mutation store.mutations job mutation }

/-- Publish a snapshot, its event, and the accepted mutation, or nothing. -/
def save (store : WorkflowStore) (snapshot : JobSnapshot) (request : Option StoredRequest)
    (mutation : Option (String × String)) : Except Raised (JobSnapshot × WorkflowStore) := do
  connection database (.save snapshot.job_identifier)
  let event := store.next_event
    { snapshot with latest_event_identifier := some (store.events.length + 1) }
  let store ← store.write_job event.snapshot request
  let store ← { store with events := store.events ++ [event] }.write_mutation
    snapshot.job_identifier mutation
  return (event.snapshot, store)

/-! ### What the operations do -/

variable {database : Access → Bool} {store store' : WorkflowStore} {snapshot saved : JobSnapshot}
  {request : Option StoredRequest} {mutation : Option (String × String)}
  {identifier fingerprint : String}

lemma job?_eq_some {job : JobSnapshot} :
    store.job? identifier = some job ↔
      ∃ row, store.jobs.get? identifier = some row ∧ row.snapshot = job := by
  simp [job?]

lemma identifier_of_job? {job : JobSnapshot} (h : store.job? identifier = some job) :
    job.job_identifier = identifier := by
  obtain ⟨row, hrow, rfl⟩ := job?_eq_some.mp h
  exact store.keyed identifier row hrow

lemma get_eq_ok {job : JobSnapshot} (h : store.get database identifier = .ok job) :
    store.job? identifier = some job := by
  rw [get] at h
  obtain ⟨-, -, h⟩ := bind_eq_ok.mp h
  cases hrow : store.jobs.get? identifier with
  | none =>
    rw [hrow] at h
    exact absurd h (by simp [fail])
  | some row =>
    rw [hrow] at h
    exact job?_eq_some.mpr ⟨row, hrow, pure_eq_ok.mp h⟩

lemma mem_sorted_jobs {job : JobSnapshot} :
    job ∈ store.sorted_jobs ↔ store.job? job.job_identifier = some job := by
  rw [sorted_jobs, List.mem_insertionSort, List.mem_map]
  constructor
  · rintro ⟨⟨key, row⟩, hentry, rfl⟩
    have hrow : store.jobs.get? key = some row :=
      (Dict.lookup_eq_some_iff store.jobs.nodup_keys).mpr hentry
    rw [store.keyed key row hrow]
    exact job?_eq_some.mpr ⟨row, hrow, rfl⟩
  · intro h
    obtain ⟨row, hrow, hjob⟩ := job?_eq_some.mp h
    exact ⟨_, (Dict.lookup_eq_some_iff store.jobs.nodup_keys).mp hrow, hjob⟩

/-- No identifier is listed twice. -/
lemma nodup_sorted_jobs : (store.sorted_jobs.map JobSnapshot.job_identifier).Nodup := by
  have hperm := (List.perm_insertionSort (fun a b : JobSnapshot =>
    a.created_at < b.created_at ∨ a.created_at = b.created_at ∧ a.job_identifier ≤ b.job_identifier)
    (store.jobs.entries.map fun entry => entry.2.snapshot)).map JobSnapshot.job_identifier
  refine hperm.nodup_iff.mpr ?_
  have hkeys : (store.jobs.entries.map fun entry => entry.2.snapshot).map
      JobSnapshot.job_identifier = store.jobs.entries.map Prod.fst := by
    rw [List.map_map]
    refine List.map_congr_left fun entry hentry => ?_
    exact store.keyed entry.1 entry.2
      ((Dict.lookup_eq_some_iff store.jobs.nodup_keys).mpr hentry)
  rw [hkeys]
  exact store.jobs.nodup_keys

lemma list_jobs_eq_ok {jobs : List JobSnapshot} (h : store.list_jobs database = .ok jobs) :
    jobs = store.sorted_jobs := by
  rw [list_jobs] at h
  obtain ⟨-, -, h⟩ := bind_eq_ok.mp h
  exact (pure_eq_ok.mp h).symm

/-- What a successful save leaves in the three tables. -/
structure Saved (store : WorkflowStore) (snapshot : JobSnapshot) (request : Option StoredRequest)
    (mutation : Option (String × String)) (store' : WorkflowStore) : Prop where
  events : store'.events = store.events ++ [store.next_event snapshot]
  job : ∀ key, store'.job? key =
    if key = snapshot.job_identifier ∧ (request = none → (store.job? key).isSome)
      then some snapshot else store.job? key
  fresh : request ≠ none → store.job? snapshot.job_identifier = none
  mutations : store'.mutations = insert_mutation store.mutations snapshot.job_identifier mutation
  unused : ∀ m ∈ mutation, store.mutations.get? m.1 = none

/-- A saved change of an existing job replaces its snapshot and no other. -/
lemma Saved.job?_eq {job : JobSnapshot} (h : store.Saved snapshot none mutation store')
    (hjob : store.job? snapshot.job_identifier = some job) (key : String) :
    store'.job? key = if key = snapshot.job_identifier then some snapshot else store.job? key := by
  rw [h.job key]
  by_cases hkey : key = snapshot.job_identifier
  · rw [if_pos ⟨hkey, fun _ => by rw [hkey, hjob]; rfl⟩, if_pos hkey]
  · rw [if_neg fun hboth => hkey hboth.1, if_neg hkey]

/-- A saved new job is added under an unused identifier. -/
lemma Saved.job?_new {request : StoredRequest}
    (h : store.Saved snapshot (some request) mutation store') (key : String) :
    store'.job? key = if key = snapshot.job_identifier then some snapshot else store.job? key := by
  rw [h.job key]
  by_cases hkey : key = snapshot.job_identifier
  · rw [if_pos ⟨hkey, fun hrequest => absurd hrequest (by simp)⟩, if_pos hkey]
  · rw [if_neg fun hboth => hkey hboth.1, if_neg hkey]

lemma job?_update_job (store : WorkflowStore) (snapshot : JobSnapshot) (key : String) :
    (store.update_job snapshot).job? key =
      if key = snapshot.job_identifier ∧ (store.job? key).isSome
        then some snapshot else store.job? key := by
  unfold update_job
  split
  · rename_i hnone
    by_cases hkey : key = snapshot.job_identifier
    · subst hkey
      simp [job?, hnone]
    · rw [if_neg fun h => hkey h.1]
  · rename_i row hrow
    by_cases hkey : key = snapshot.job_identifier
    · subst hkey
      simp [job?, hrow]
    · simp [job?, hkey]

/-- Writing a job changes nothing but its row. -/
lemma write_job_eq_ok (h : store.write_job snapshot request = .ok store') :
    store'.events = store.events ∧ store'.mutations = store.mutations ∧
      (∀ key, store'.job? key =
        if key = snapshot.job_identifier ∧ (request = none → (store.job? key).isSome)
          then some snapshot else store.job? key) ∧
      (request ≠ none → store.job? snapshot.job_identifier = none) := by
  cases request with
  | none =>
    obtain rfl := pure_eq_ok.mp h
    refine ⟨?_, ?_, fun key => ?_, fun hrequest => absurd rfl hrequest⟩
    · unfold update_job
      split <;> rfl
    · unfold update_job
      split <;> rfl
    · rw [job?_update_job]
      simp
  | some request =>
    obtain ⟨_, hfresh, h⟩ := bind_eq_ok.mp h
    obtain rfl := pure_eq_ok.mp h
    refine ⟨rfl, rfl, fun key => ?_, fun _ => ?_⟩
    · by_cases hkey : key = snapshot.job_identifier
      · simp [job?, hkey]
      · simp [job?, hkey]
    · rw [job?, Option.map_eq_none_iff]
      simpa using raise_if_eq_ok.mp hfresh

/-- Recording a mutation changes nothing but its row. -/
lemma write_mutation_eq_ok {job : String} (h : store.write_mutation job mutation = .ok store') :
    store'.events = store.events ∧ store'.jobs = store.jobs ∧
      store'.mutations = insert_mutation store.mutations job mutation ∧
      (∀ m ∈ mutation, store.mutations.get? m.1 = none) := by
  obtain ⟨_, hunused, h⟩ := bind_eq_ok.mp h
  obtain rfl := pure_eq_ok.mp h
  refine ⟨rfl, rfl, rfl, fun m hm => ?_⟩
  have hnone := raise_if_eq_ok.mp hunused
  rw [Option.mem_def] at hm
  subst hm
  simpa using hnone

theorem save_eq_ok (h : store.save database snapshot request mutation = .ok (saved, store')) :
    saved = { snapshot with latest_event_identifier := some (store.events.length + 1) } ∧
      store.Saved saved request mutation store' := by
  rw [save] at h
  obtain ⟨-, -, h⟩ := bind_eq_ok.mp h
  obtain ⟨middle, hjob, h⟩ := bind_eq_ok.mp h
  obtain ⟨final, hmutation, h⟩ := bind_eq_ok.mp h
  obtain ⟨rfl, rfl⟩ := Prod.ext_iff.mp (pure_eq_ok.mp h)
  obtain ⟨hevents, hmutations, hjobs, hfresh⟩ := write_job_eq_ok hjob
  obtain ⟨hevents', hjobs', hmutations', hunused⟩ := write_mutation_eq_ok hmutation
  refine ⟨rfl, ?_, fun key => ?_, hfresh, ?_, fun m hm => ?_⟩
  · rw [hevents', hevents]
    rfl
  · rw [job?, hjobs']
    exact hjobs key
  · rw [hmutations', ← hmutations]
    rfl
  · rw [← hmutations]
    exact hunused m hm

end WorkflowStore

end StegoLab

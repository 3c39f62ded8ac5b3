import StegoLab.Uploads.Directories

/-!
# Contracts of the calls

The calls that open, read and remove sessions keep every property of session directories that new
sessions have and that partial removals keep.
-/

namespace StegoLab

open Transaction Program UploadSessionFiles DatasetUploadStore UploadDisk

variable {D : String → SessionDirectory → Prop} {F : SessionDirectory → Prop} {identifier : String}
  {surroundings : UploadSurroundings} {sha256 : List UInt8 → String}

/-- The partial removals of a session keep `D`. -/
def KeepsRemovals (D : String → SessionDirectory → Prop) (faults : UploadFaults)
    (identifier : String) : Prop :=
  ∀ removed, (faults.remove_session identifier).Stops removed → ∀ directory,
    D identifier directory → D identifier (removed.remove directory)

/-- Looking at the tree, wherever the session directories are. -/
lemma keeps_inspect {fault : Fault Unit} {exception : Raised} :
    Keeps (UploadDisk.Every D) (inspect fault exception) :=
  contract_inspect fun _ _ _ => id

lemma keeps_read_request {client_request_identifier : String} {faults : UploadFaults} :
    Keeps (UploadDisk.Every D) (read_request faults client_request_identifier) :=
  keeps_inspect.bind fun _ => Contract.bind (Q := fun _ => UploadDisk.Every D) (.read fun _ => id)
    fun _ => .pure fun _ => id

lemma keeps_attempt {α : Type} {x : Except Raised α} {P : UploadDisk → Prop} :
    Keeps P (attempt x : UploadProgram α) :=
  contract_attempt (fun _ _ _ => id) fun _ _ _ => id

/-- A refusal leaves the sessions as they are. -/
lemma contract_refuse {α : Type} {code : String} {P : UploadDisk → Prop} {Q : α → UploadDisk → Prop} :
    Contract P (refuse code : UploadProgram α) Q fun _ => P :=
  contract_raise fun _ => id

/-- The lock and the plain failure do not touch the sessions. -/
lemma contract_locked {α : Type} {program : UploadProgram α} {P R : UploadDisk → Prop}
    {Q : α → UploadDisk → Prop}
    (hprogram : surroundings.faults.lock = .none → Contract P program Q fun _ => R)
    (hP : ∀ disk, P disk → R disk)
    (hQ : surroundings.faults.unlock ≠ .none → ∀ a disk, Q a disk → R disk) :
    Contract P (serialised surroundings program) Q fun _ => R := by
  refine contract_catching (S := fun _ => R) ?_ (fun _ => contract_raise fun _ => id) fun _ => id
  refine ((contract_inspect fun _ _ disk => hP disk).know fun _ _ _ => none_of_returned).bind
    fun _ => .assume fun hlock => ?_
  exact contract_finally (hprogram hlock)
    (fun a => contract_inspect fun hfault _ disk => hQ hfault a disk)
    fun _ => contract_inspect fun _ _ _ => id

lemma contract_serialised {α : Type} {program : UploadProgram α} {P R : UploadDisk → Prop}
    {Q : α → UploadDisk → Prop} (hprogram : Contract P program Q fun _ => R)
    (hP : ∀ disk, P disk → R disk) (hQ : ∀ a disk, Q a disk → R disk) :
    Contract P (serialised surroundings program) Q fun _ => R :=
  contract_locked (fun _ => hprogram) hP fun _ => hQ

/-- Reading a record finds the record of the directory. -/
lemma contract_read_record {faults : UploadFaults} :
    Contract (UploadDisk.Every D) (read_record faults identifier)
      (fun stored disk => disk.Every D ∧ disk.record? identifier = stored)
      fun _ => UploadDisk.Every D :=
  keeps_inspect.bind fun _ => Contract.bind (Q := fun disk disk' => disk = disk' ∧ disk.Every D)
    (.read fun _ h => ⟨rfl, h⟩) fun _ => .pure fun _ h => ⟨h.1 ▸ h.2, h.1 ▸ rfl⟩

/-- A session that was loaded. -/
structure Loaded (surroundings : UploadSurroundings) (D : String → SessionDirectory → Prop)
    (identifier : String) (stored : ValidUpload) (directory : SessionDirectory) : Prop where
  named : is_upload_identifier identifier = true
  unexpired : surroundings.clock identifier < stored.1.session.expires_at
  record : directory.record = some stored
  keeps : D identifier directory

lemma contract_load (hremoved : KeepsRemovals D surroundings.faults identifier) :
    Contract (UploadDisk.Every D) (load surroundings identifier)
      (fun stored => UploadDisk.At D identifier (Loaded surroundings D identifier stored))
      fun _ => UploadDisk.Every D := by
  refine .ite (fun hnamed => ?_) fun _ => contract_refuse
  refine contract_read_record.bind fun stored => ?_
  cases stored with
  | none => exact contract_refuse.strengthen fun _ h => h.1
  | some stored =>
    refine .ite (fun _ => ?_) fun hclock => .pure fun disk h => ?_
    · refine Contract.bind (Q := fun _ => UploadDisk.Every D)
        ((contract_remove_session hremoved).strengthen fun _ h => h.1.near) fun _ => ?_
      exact contract_refuse
    · obtain ⟨directory, hget, hrecord⟩ := Option.bind_eq_some_iff.mp h.2
      exact h.1.focus hget ⟨hnamed, not_le.mp hclock, hrecord, h.1 _ _ hget⟩

/-- Loading a session that is live only reads. -/
lemma load_reads {disk after : UploadDisk} {stored : ValidUpload}
    (h : load surroundings identifier disk = (.ok stored, after)) :
    after = disk ∧ surroundings.faults.read_record identifier = .none := by
  rw [load] at h
  split_ifs at h with hnamed
  · obtain ⟨found, first, hread, hrest⟩ := bind_ok.mp h
    have hfirst : first = disk ∧ surroundings.faults.read_record identifier = .none := by
      obtain ⟨_, middle, hinspect, hrecord⟩ := bind_ok.mp hread
      obtain ⟨hnone, rfl⟩ := inspect_returned hinspect
      exact ⟨(congrArg Prod.snd hrecord).symm, hnone⟩
    obtain ⟨rfl, hnone⟩ := hfirst
    cases found with
    | none => exact absurd (congrArg Prod.fst hrest) (by simp [refuse, raise])
    | some stored' =>
      change live surroundings identifier stored' first = _ at hrest
      rw [live] at hrest
      split_ifs at hrest
      · obtain ⟨_, _, _, hrefused⟩ := bind_ok.mp hrest
        exact absurd (congrArg Prod.fst hrefused) (by simp [refuse, raise])
      · exact ⟨(congrArg Prod.snd hrest).symm, hnone⟩
  · exact absurd (congrArg Prod.fst h) (by simp [refuse, raise])

/-- Loading a session of a given tree. -/
lemma contract_load_same {initial : UploadDisk}
    (hremoved : KeepsRemovals D surroundings.faults identifier) :
    Contract (fun disk => disk = initial ∧ disk.Every D) (load surroundings identifier)
      (fun stored disk => surroundings.faults.read_record identifier = .none ∧ disk = initial ∧
        disk.At D identifier (Loaded surroundings D identifier stored))
      fun _ => UploadDisk.Every D where
  returns h hx := by
    obtain ⟨rfl, hnone⟩ := load_reads hx
    exact ⟨hnone, h.1, (contract_load hremoved).returns h.2 hx⟩
  fails h hx := (contract_load hremoved).fails h.2 hx

lemma chunk_size_returned {faults : UploadFaults} {index : ℕ} {size : Option ℕ}
    {disk after : UploadDisk} (h : chunk_size faults identifier index disk = (.ok size, after)) :
    after = disk ∧ faults.chunk_size index = .none ∧
      size = (disk.chunk? identifier index).map List.length := by
  obtain ⟨_, middle, hinspect, hread⟩ := bind_ok.mp h
  obtain ⟨hnone, rfl⟩ := inspect_returned hinspect
  exact ⟨(congrArg Prod.snd hread).symm, hnone, (Except.ok.inj (congrArg Prod.fst hread)).symm⟩

lemma check_capacity_returned {next : ℕ} {u : Unit} {disk after : UploadDisk}
    (h : check_capacity surroundings next disk = (.ok u, after)) :
    after = disk ∧ surroundings.faults.used_bytes = .none ∧
      (disk.sessions.entries.map fun entry => entry.2.used_bytes).sum + next ≤
        MAXIMUM_UPLOAD_STORAGE_BYTES := by
  obtain ⟨used, middle, hused, hcheck⟩ := bind_ok.mp h
  obtain ⟨_, looked, hinspect, hread⟩ := bind_ok.mp hused
  obtain ⟨hnone, rfl⟩ := inspect_returned hinspect
  obtain rfl : used = _ := (Except.ok.inj (congrArg Prod.fst hread)).symm
  obtain rfl : middle = looked := (congrArg Prod.snd hread).symm
  obtain ⟨hraise, rfl⟩ := attempt_returned hcheck
  exact ⟨rfl, hnone, not_lt.mp (raise_if_eq_ok.mp hraise)⟩

lemma Loaded.every {disk : UploadDisk} {stored : ValidUpload}
    (h : disk.At D identifier (Loaded surroundings D identifier stored)) : disk.Every D :=
  UploadDisk.At.every h fun _ hloaded => hloaded.keeps

/-! ### Reading and removing -/

theorem keeps_read_session (hremoved : KeepsRemovals D surroundings.faults identifier) :
    Keeps (UploadDisk.Every D) (read_session surroundings identifier) := by
  refine contract_serialised ((contract_load hremoved).bind fun stored => ?_) (fun _ => id)
    fun _ _ => id
  exact .pure fun _ => Loaded.every

theorem keeps_archive_path (hremoved : KeepsRemovals D surroundings.faults identifier) :
    Keeps (UploadDisk.Every D) (archive_path surroundings identifier) := by
  refine contract_serialised ((contract_load hremoved).bind fun stored => ?_) (fun _ => id)
    fun _ _ => id
  exact keeps_attempt.strengthen fun _ => Loaded.every

theorem keeps_discard (hremoved : KeepsRemovals D surroundings.faults identifier) :
    Keeps (UploadDisk.Every D) (discard surroundings identifier) := by
  refine contract_serialised (.ite (fun _ => ?_) fun _ => .pure fun _ => id) (fun _ => id)
    fun _ _ => id
  refine contract_read_record.bind fun stored => ?_
  refine Contract.bind (Q := fun _ => UploadDisk.Every D)
    ((contract_remove_session hremoved).strengthen fun _ h => h.1.near) fun _ => ?_
  exact .pure fun _ => id

lemma keeps_sweep_sessions (hremoved : ∀ identifier, KeepsRemovals D surroundings.faults identifier)
    (identifiers : List String) :
    Keeps (UploadDisk.Every D) (sweep_sessions surroundings identifiers) := by
  induction identifiers with
  | nil => exact .pure fun _ => id
  | cons identifier rest ih =>
    refine contract_read_record.bind fun stored => .ite (fun _ => ?_) fun _ => ?_
    · refine Contract.bind (Q := fun _ => UploadDisk.Every D)
        ((contract_remove_session (hremoved identifier)).strengthen fun _ h => h.1.near) fun _ => ?_
      exact ih.bind fun _ => .pure fun _ => id
    · exact ih.strengthen fun _ h => h.1

lemma keeps_remove_request {client_request_identifier : String} {faults : UploadFaults} :
    Keeps (UploadDisk.Every D) (remove_request faults client_request_identifier) :=
  Contract.bind (Q := fun _ => UploadDisk.Every D)
    (contract_atomically (fun _ h => h) fun _ _ _ => id) fun _ => keeps_inspect

lemma keeps_remove_stale {faults : UploadFaults} (names : List String) :
    Keeps (UploadDisk.Every D) (remove_stale faults names) := by
  induction names with
  | nil => exact .pure fun _ => id
  | cons name rest ih =>
    refine keeps_read_request.bind fun target => ?_
    refine Contract.bind (Q := fun _ => UploadDisk.Every D) (.read fun _ => id) fun disk => ?_
    exact .ite (fun _ => ih) fun _ => keeps_remove_request.bind fun _ => ih

theorem keeps_sweep (hremoved : ∀ identifier, KeepsRemovals D surroundings.faults identifier) :
    Keeps (UploadDisk.Every D) (sweep surroundings) := by
  refine contract_serialised ?_ (fun _ => id) fun _ _ => id
  refine Contract.bind (Q := fun _ => UploadDisk.Every D) ?_ fun identifiers => ?_
  · exact keeps_inspect.bind fun _ => Contract.bind (Q := fun _ => UploadDisk.Every D)
      (.read fun _ => id) fun _ => .pure fun _ => id
  refine (keeps_sweep_sessions hremoved identifiers).bind fun _ => ?_
  refine Contract.bind (Q := fun _ => UploadDisk.Every D) ?_ fun _ => .pure fun _ => id
  exact keeps_inspect.bind fun _ => Contract.bind (Q := fun _ => UploadDisk.Every D)
    (.read fun _ => id) fun _ => keeps_remove_stale _

lemma keeps_check_capacity {P : UploadDisk → Prop} {next_bytes : ℕ} :
    Keeps P (check_capacity surroundings next_bytes) := by
  refine Contract.bind (Q := fun _ => P) ?_ fun _ => keeps_attempt
  exact (contract_inspect fun _ _ _ => id).bind fun _ => Contract.bind (Q := fun _ => P)
    (.read fun _ => id) fun _ => .pure fun _ => id

theorem keeps_used_bytes : Keeps (UploadDisk.Every D) (DatasetUploadStore.used_bytes surroundings) := by
  refine contract_serialised ?_ (fun _ => id) fun _ _ => id
  exact keeps_inspect.bind fun _ => Contract.bind (Q := fun _ => UploadDisk.Every D)
    (.read fun _ => id) fun _ => .pure fun _ => id

/-! ### Creating -/

lemma keeps_replayed {client_request_identifier : String}
    (hremoved : ∀ identifier, KeepsRemovals D surroundings.faults identifier) :
    Keeps (UploadDisk.Every D) (replayed surroundings client_request_identifier) := by
  refine keeps_read_request.bind fun target => ?_
  cases target with
  | none => exact .pure fun _ => id
  | some identifier =>
    refine contract_catching (S := fun _ => UploadDisk.Every D) ?_ (fun exception => ?_) fun _ => id
    · exact ((contract_load (hremoved identifier)).weaken fun _ _ => Loaded.every).bind
        fun _ => .pure fun _ => id
    · cases exception with
      | application failure =>
        exact .ite (fun _ => .pure fun _ => id) fun _ => contract_raise fun _ => id
      | value_error => exact contract_raise fun _ => id
      | os_error => exact contract_raise fun _ => id

/-- The sessions satisfy `D`, and none has the name. -/
def Fresh (D : String → SessionDirectory → Prop) (identifier key : String)
    (directory : SessionDirectory) : Prop :=
  key ≠ identifier ∧ D key directory

lemma KeepsRemovals.fresh {faults : UploadFaults} {key : String} (h : KeepsRemovals D faults key) :
    KeepsRemovals (Fresh D identifier) faults key :=
  fun removed hstops directory hdirectory => ⟨hdirectory.1, h removed hstops directory hdirectory.2⟩

lemma UploadDisk.Every.of_fresh {disk : UploadDisk} (h : disk.Every (Fresh D identifier)) :
    disk.Every D :=
  fun key directory hget => (h key directory hget).2

/-- Saving the record of a session that has no directory yet. -/
lemma contract_save_new_record {stored : ValidUpload} {faults : UploadFaults}
    (hidentifier : stored.1.session.upload_identifier = identifier) (hempty : D identifier {})
    (hrecord : D identifier { record := some stored }) :
    Contract (UploadDisk.Every (Fresh D identifier)) (save_record faults stored)
      (fun _ => UploadDisk.Every D) fun _ => UploadDisk.Every D := by
  subst hidentifier
  refine Contract.bind
    (Q := fun _ => UploadDisk.At D stored.1.session.upload_identifier (· = {})) ?_ fun _ => ?_
  · refine contract_atomically (fun disk h => ?_) fun _ _ _ h => h.of_fresh
    have hnone : disk.sessions.get? stored.1.session.upload_identifier = none := by
      cases hget : disk.sessions.get? stored.1.session.upload_identifier with
      | none => rfl
      | some directory => exact absurd rfl (h _ _ hget).1
    constructor
    · intro key directory hkey hget
      rw [get?_create_directory, if_neg hkey] at hget
      exact (h key directory hget).2
    · exact ⟨{}, by rw [get?_create_directory, if_pos rfl, hnone]; rfl, rfl⟩
  refine (contract_look fun _ _ h => h ▸ hempty).bind fun _ => ?_
  refine (contract_edit_whole (G := (· = { record := some stored })) (fun _ h => by rw [h])
    fun _ _ h => h ▸ hempty).bind fun _ => ?_
  exact (contract_look fun _ _ h => h ▸ hrecord).weaken fun _ _ h => h.every fun _ h => h ▸ hrecord

theorem contract_create {request : DatasetUploadCreateRequest} {uuid4 : String}
    (hremoved : ∀ identifier, KeepsRemovals D surroundings.faults identifier)
    (hempty : D ("upload_" ++ uuid4) {})
    (hrecord : ∀ stored, stored_request sha256 request (opened surroundings request uuid4) = .ok stored →
      D ("upload_" ++ uuid4) { record := some stored }) :
    Contract (UploadDisk.Every (Fresh D ("upload_" ++ uuid4)))
      (create surroundings sha256 request uuid4)
      (fun _ => UploadDisk.Every D) fun _ => UploadDisk.Every D := by
  refine contract_serialised ?_ (fun _ => UploadDisk.Every.of_fresh) fun _ _ => id
  refine ((keeps_replayed fun key => (hremoved key).fresh).mono (fun _ => id) (fun _ _ => id)
    fun _ _ => UploadDisk.Every.of_fresh).bind fun existing => ?_
  cases existing with
  | some existing =>
    exact (keeps_attempt.strengthen fun _ => UploadDisk.Every.of_fresh).bind
      fun _ => .pure fun _ => id
  | none =>
    refine (keeps_check_capacity.mono (fun _ => id) (fun _ _ => id)
      fun _ _ => UploadDisk.Every.of_fresh).bind fun _ => ?_
    refine Contract.bind
      (Q := fun stored disk =>
        stored_request sha256 request (opened surroundings request uuid4) = .ok stored ∧
          disk.Every (Fresh D ("upload_" ++ uuid4)))
      (contract_attempt (fun _ hok _ h => ⟨hok, h⟩) fun _ _ _ => UploadDisk.Every.of_fresh)
      fun stored => .assume fun hok => ?_
    have hidentifier : stored.1.session.upload_identifier = "upload_" ++ uuid4 := by
      rw [stored_request] at hok
      split_ifs at hok
      obtain rfl := Except.ok.inj hok
      rfl
    refine (contract_save_new_record hidentifier hempty (hrecord stored hok)).bind fun _ => ?_
    refine Contract.bind (Q := fun _ => UploadDisk.Every D) ?_ fun _ => .pure fun _ => id
    refine keeps_inspect.bind fun _ => ?_
    exact Contract.bind (Q := fun _ => UploadDisk.Every D)
      (contract_atomically (fun _ h => h) fun _ _ _ => id) fun _ => keeps_inspect

end StegoLab

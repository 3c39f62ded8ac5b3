import StegoLab.Uploads.Sessions

/-!
# One session directory

A call works on one session directory and leaves the others alone. The contracts below look at that
directory only: they say what its files are when an operation returns, and which property of the
directory every stop keeps.
-/

namespace StegoLab

open Transaction Program UploadSessionFiles

variable {identifier key : String} {disk : UploadDisk} {directory : SessionDirectory}

/-! ### Lookups -/

namespace UploadDisk

lemma get?_modify (f : SessionDirectory → SessionDirectory) :
    (disk.modify identifier f).sessions.get? key =
      if key = identifier then (disk.sessions.get? key).map f else disk.sessions.get? key := by
  by_cases hkey : key = identifier
  · subst hkey
    rw [if_pos rfl, modify]
    cases h : disk.sessions.get? key with
    | none => simp [h]
    | some directory => simp
  · rw [if_neg hkey, modify]
    cases disk.sessions.get? identifier with
    | none => rfl
    | some directory => simp [hkey]

lemma get?_create_directory :
    (disk.create_directory identifier).sessions.get? key =
      if key = identifier then some ((disk.sessions.get? key).getD {})
      else disk.sessions.get? key := by
  by_cases hkey : key = identifier
  · subst hkey
    rw [if_pos rfl, create_directory]
    cases h : disk.sessions.get? key with
    | none => simp
    | some directory => simp [h]
  · rw [if_neg hkey, create_directory]
    cases disk.sessions.get? identifier with
    | none => simp [hkey]
    | some directory => rfl

/-- Every session directory satisfies `D`. -/
def Every (D : String → SessionDirectory → Prop) (disk : UploadDisk) : Prop :=
  ∀ identifier directory, disk.sessions.get? identifier = some directory → D identifier directory

/-- The directory of one session satisfies `F`, and the others satisfy `D`. -/
structure At (D : String → SessionDirectory → Prop) (identifier : String)
    (F : SessionDirectory → Prop) (disk : UploadDisk) : Prop where
  others : ∀ key directory, key ≠ identifier → disk.sessions.get? key = some directory →
    D key directory
  here : ∃ directory, disk.sessions.get? identifier = some directory ∧ F directory

variable {D : String → SessionDirectory → Prop} {F G : SessionDirectory → Prop}

lemma At.every (h : disk.At D identifier F) (hF : ∀ directory, F directory → D identifier directory) :
    disk.Every D := by
  intro key directory hget
  by_cases hkey : key = identifier
  · subst hkey
    obtain ⟨directory', hget', hdirectory⟩ := h.here
    obtain rfl := Option.some_inj.mp (hget.symm.trans hget')
    exact hF _ hdirectory
  · exact h.others key directory hkey hget

lemma Every.focus (h : disk.Every D) (hget : disk.sessions.get? identifier = some directory)
    (hF : F directory) : disk.At D identifier F where
  others key directory _ := h key directory
  here := ⟨directory, hget, hF⟩

lemma At.mono (h : disk.At D identifier F) (hF : ∀ directory, F directory → G directory) :
    disk.At D identifier G where
  others := h.others
  here := let ⟨directory, hget, hdirectory⟩ := h.here; ⟨directory, hget, hF _ hdirectory⟩

lemma At.modify (h : disk.At D identifier F) {f : SessionDirectory → SessionDirectory}
    (hf : ∀ directory, F directory → G (f directory)) :
    (disk.modify identifier f).At D identifier G where
  others key directory hkey hget := by
    rw [get?_modify, if_neg hkey] at hget
    exact h.others key directory hkey hget
  here := by
    obtain ⟨directory, hget, hdirectory⟩ := h.here
    exact ⟨f directory, by rw [get?_modify, if_pos rfl, hget]; rfl, hf _ hdirectory⟩

/-- The directory of one session, if it is there, satisfies `F`, and the others satisfy `D`. -/
structure Near (D : String → SessionDirectory → Prop) (identifier : String)
    (F : SessionDirectory → Prop) (disk : UploadDisk) : Prop where
  others : ∀ key directory, key ≠ identifier → disk.sessions.get? key = some directory →
    D key directory
  here : ∀ directory, disk.sessions.get? identifier = some directory → F directory

lemma At.near (h : disk.At D identifier F) : disk.Near D identifier F where
  others := h.others
  here directory hget := by
    obtain ⟨directory', hget', hdirectory⟩ := h.here
    exact Option.some_inj.mp (hget.symm.trans hget') ▸ hdirectory

lemma Every.near (h : disk.Every D) : disk.Near D identifier (D identifier) where
  others key directory _ := h key directory
  here directory := h identifier directory

lemma Near.every (h : disk.Near D identifier F)
    (hF : ∀ directory, disk.sessions.get? identifier = some directory → D identifier directory) :
    disk.Every D := by
  intro key directory hget
  by_cases hkey : key = identifier
  · subst hkey
    exact hF directory hget
  · exact h.others key directory hkey hget

lemma Near.modify (h : disk.Near D identifier F) {f : SessionDirectory → SessionDirectory}
    (hf : ∀ directory, F directory → D identifier (f directory)) :
    (disk.modify identifier f).Every D := by
  intro key directory hget
  rw [get?_modify] at hget
  by_cases hkey : key = identifier
  · rw [if_pos hkey, Option.map_eq_some_iff] at hget
    obtain ⟨directory', hget', rfl⟩ := hget
    exact hkey ▸ hf directory' (h.here directory' (hkey ▸ hget'))
  · rw [if_neg hkey] at hget
    exact h.others key directory hkey hget

lemma Every.erase (h : ∀ key directory, key ≠ identifier → disk.sessions.get? key = some directory →
    D key directory) : Every D { disk with sessions := disk.sessions.erase identifier } := by
  intro key directory hget
  rw [Dict.get?_erase] at hget
  by_cases hkey : key = identifier
  · rw [if_pos hkey] at hget
    exact absurd hget (by simp)
  · rw [if_neg hkey] at hget
    exact h key directory hkey hget

end UploadDisk

open UploadDisk

/-! ### Contracts of operations -/

variable {D : String → SessionDirectory → Prop} {F G : SessionDirectory → Prop}
  {faults : UploadFaults}

/-- Looking at the tree. -/
lemma contract_look {fault : Fault Unit} {exception : Raised}
    (hstop : fault ≠ .none → ∀ directory, F directory → D identifier directory) :
    Contract (UploadDisk.At D identifier F) (inspect fault exception)
      (fun _ => UploadDisk.At D identifier F) fun _ => UploadDisk.Every D :=
  contract_inspect fun hfault _ _ h => h.every (hstop hfault)

/-- An operation on the files of the session. -/
lemma contract_edit {κ : Type} {fault : Fault κ} {exception : Raised}
    {partway : κ → SessionDirectory → SessionDirectory}
    {effect : SessionDirectory → SessionDirectory}
    (heffect : ∀ directory, F directory → G (effect directory))
    (hstop : ∀ reached, fault.Stops reached → ∀ directory, F directory →
      D identifier (partway reached directory)) :
    Contract (UploadDisk.At D identifier F)
      (operation fault exception (fun reached disk => disk.modify identifier (partway reached))
        fun disk => disk.modify identifier effect)
      (fun _ => UploadDisk.At D identifier G) fun _ => UploadDisk.Every D :=
  contract_operation (fun _ h => h.modify heffect) fun reached hreached _ _ h =>
    (h.modify (G := D identifier) (hstop reached hreached)).every fun _ => id

/-- An operation on the files of the session that happens whole or not at all. -/
lemma contract_edit_whole {fault : Fault Unit} {exception : Raised}
    {effect : SessionDirectory → SessionDirectory}
    (heffect : ∀ directory, F directory → G (effect directory))
    (hstop : fault ≠ .none → ∀ directory, F directory → D identifier directory) :
    Contract (UploadDisk.At D identifier F)
      (atomically fault exception fun disk => disk.modify identifier effect)
      (fun _ => UploadDisk.At D identifier G) fun _ => UploadDisk.Every D :=
  contract_atomically (fun _ h => h.modify heffect) fun hfault _ _ h => h.every (hstop hfault)

/-- Reading a part. -/
lemma contract_read_part {fault : Fault Unit} {index : ℕ}
    (hstop : fault ≠ .none → ∀ directory, F directory → D identifier directory)
    (hpresent : ∀ directory, F directory → directory.chunks.lookup index = none →
      D identifier directory) :
    Contract (UploadDisk.At D identifier F) (read_part fault identifier index)
      (fun data => UploadDisk.At D identifier fun directory =>
        F directory ∧ directory.chunks.lookup index = some data) fun _ => UploadDisk.Every D := by
  refine (contract_look hstop).bind fun _ => ?_
  refine (Contract.read (Q := fun disk disk' => disk = disk' ∧ UploadDisk.At D identifier F disk)
    fun _ h => ⟨rfl, h⟩).bind fun disk => ?_
  cases hchunk : disk.chunk? identifier index with
  | none =>
    refine contract_raise fun disk' h => ?_
    obtain ⟨rfl, h⟩ := h
    obtain ⟨directory, hget, hdirectory⟩ := h.here
    rw [UploadDisk.chunk?, hget] at hchunk
    refine (UploadDisk.At.mk (F := D identifier) h.others
      ⟨directory, hget, hpresent _ hdirectory hchunk⟩).every fun _ => id
  | some data =>
    refine .pure fun disk' h => ?_
    obtain ⟨rfl, h⟩ := h
    obtain ⟨directory, hget, hdirectory⟩ := h.here
    rw [UploadDisk.chunk?, hget] at hchunk
    exact ⟨h.others, directory, hget, hdirectory, hchunk⟩

/-- Measuring a part. -/
lemma contract_chunk_size {index : ℕ}
    (hstop : ∀ directory, F directory → D identifier directory) :
    Contract (UploadDisk.At D identifier F) (chunk_size faults identifier index)
      (fun size => UploadDisk.At D identifier fun directory =>
        F directory ∧ size = (directory.chunks.lookup index).map List.length)
      fun _ => UploadDisk.Every D := by
  refine (contract_look fun _ => hstop).bind fun _ => ?_
  refine (Contract.read (Q := fun disk disk' => disk = disk' ∧ UploadDisk.At D identifier F disk)
    fun _ h => ⟨rfl, h⟩).bind fun disk => .pure fun disk' h => ?_
  obtain ⟨rfl, h⟩ := h
  obtain ⟨directory, hget, hdirectory⟩ := h.here
  exact ⟨h.others, directory, hget, hdirectory, by rw [UploadDisk.chunk?, hget]; rfl⟩

/-- Saving a record. -/
lemma contract_save_record {stored : ValidUpload}
    (hidentifier : stored.1.session.upload_identifier = identifier)
    (hrecord : ∀ directory, F directory → G { directory with record := some stored })
    (hbefore : faults.create_directory ≠ .none ∨ faults.write_record ≠ .none ∨
        faults.replace_record ≠ .none →
      ∀ directory, F directory → D identifier directory)
    (hafter : ∀ directory, G directory → D identifier directory) :
    Contract (UploadDisk.At D identifier F) (save_record faults stored)
      (fun _ => UploadDisk.At D identifier G) fun _ => UploadDisk.Every D := by
  subst hidentifier
  refine Contract.bind (Q := fun _ => UploadDisk.At D stored.1.session.upload_identifier F)
    (contract_atomically (fun disk h => ?_)
      fun hfault _ _ h => h.every (hbefore (Or.inl hfault))) fun _ => ?_
  · obtain ⟨directory, hget, hdirectory⟩ := h.here
    rw [UploadDisk.create_directory, hget]
    exact h
  refine (contract_look fun hfault => hbefore (Or.inr (Or.inl hfault))).bind fun _ => ?_
  refine (contract_edit_whole hrecord fun hfault => hbefore (Or.inr (Or.inr hfault))).bind
    fun _ => ?_
  exact contract_look fun _ => hafter

/-- Saving a record between two states of the directory that both satisfy `D`. -/
lemma contract_replace_record {stored : ValidUpload} (hbefore : D identifier directory)
    (hidentifier : stored.1.session.upload_identifier = identifier)
    (hafter : D identifier { directory with record := some stored }) :
    Contract (UploadDisk.At D identifier (· = directory)) (save_record faults stored)
      (fun _ => UploadDisk.Every D) fun _ => UploadDisk.Every D := by
  refine (contract_save_record (F := (· = directory)) (G := D identifier) hidentifier
    (fun _ h => ?_) (fun _ _ h => h ▸ hbefore) fun _ => id).weaken fun _ _ h => h.every fun _ => id
  rw [h]
  exact hafter

/-! ### Removing sessions -/

/-- Operations on the request files keep the session directories. -/
lemma keeps_remove_request_of {client_request_identifier : String} :
    Keeps (UploadDisk.Every D)
      (remove_request_of faults identifier client_request_identifier) := by
  refine Contract.bind (Q := fun _ => UploadDisk.Every D) ?_ fun target => ?_
  · refine (contract_inspect fun _ _ _ => id).bind fun _ => ?_
    exact (Contract.read (Q := fun _ => UploadDisk.Every D) fun _ => id).bind
      fun _ => .pure fun _ => id
  · refine .ite (fun _ => ?_) fun _ => .pure fun _ => id
    refine Contract.bind (Q := fun _ => UploadDisk.Every D)
      (contract_atomically (fun disk h => h) fun _ _ _ => id) fun _ => ?_
    exact contract_inspect fun _ _ _ => id

/-- Removing a session whose partial removals keep `D`; its directory may be gone already. -/
lemma contract_remove_session {request_identifier : Option String}
    (hstop : ∀ removed, (faults.remove_session identifier).Stops removed → ∀ directory,
      F directory → D identifier (removed.remove directory)) :
    Contract (UploadDisk.Near D identifier F)
      (remove_session faults identifier request_identifier)
      (fun _ => UploadDisk.Every D) fun _ => UploadDisk.Every D := by
  have hdirectory : Contract (UploadDisk.Near D identifier F) (remove_directory faults identifier)
      (fun _ => UploadDisk.Every D) fun _ => UploadDisk.Every D := by
    refine Contract.bind (Q := fun disk disk' => disk = disk' ∧ UploadDisk.Near D identifier F disk)
      (.read fun _ h => ⟨rfl, h⟩) fun disk => .ite (fun _ => ?_) fun hnone => .pure fun disk' h => ?_
    · refine Contract.bind (Q := fun _ => UploadDisk.Every D)
        (contract_operation (fun disk' h => ?_) fun removed hremoved _ disk' h => ?_) fun _ => ?_
      · obtain ⟨rfl, h⟩ := h
        exact UploadDisk.Every.erase h.others
      · obtain ⟨rfl, h⟩ := h
        exact h.modify (hstop removed hremoved)
      · exact (contract_inspect fun _ _ _ => id).bind fun _ => .pure fun _ => id
    · obtain ⟨rfl, h⟩ := h
      exact h.every fun directory hget => absurd (by rw [hget]; rfl) hnone
  refine hdirectory.bind fun removed => ?_
  cases request_identifier with
  | none => exact .pure fun _ => id
  | some client_request_identifier =>
    exact keeps_remove_request_of.bind fun _ => .pure fun _ => id

end StegoLab

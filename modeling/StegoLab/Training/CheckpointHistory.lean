import StegoLab.Library.Runs
import StegoLab.Training.CheckpointRetention

/-!
# Checkpoints over time

Saves that succeed, fail or crash, one after another. After each of them the index is what retention
keeps of all published checkpoints, and names complete directories only.
-/

namespace StegoLab

open Transaction Program

variable {library : CheckpointLibrary} {faults : SaveFaults} {request : SaveRequest}
  {disk after : CheckpointDisk} {previous next : CheckpointIndex}

/-! ### Directories -/

lemma read_checkpoint_ok {name : String} {summary : CheckpointSummary}
    (h : read_checkpoint library disk name = .ok summary) :
    ∃ files, disk.completed.get? name = some files ∧ files.metadata = some summary := by
  unfold read_checkpoint at h
  cases hfiles : disk.completed.get? name with
  | none =>
    rw [hfiles] at h
    exact absurd h (by simp)
  | some files =>
    rw [hfiles] at h
    dsimp only at h
    split at h
    · rename_i found state hmetadata hstate
      split at h
      · exact absurd h (by simp)
      · obtain ⟨_, -, h⟩ := bind_eq_ok.mp h
        obtain rfl := pure_eq_ok.mp h
        exact ⟨files, rfl, hmetadata⟩
    · exact absurd h (by simp)

/-- A checkpoint depends on its own directory only. -/
lemma read_checkpoint_congr {name : String}
    (h : after.completed.get? name = disk.completed.get? name) :
    read_checkpoint library after name = read_checkpoint library disk name := by
  rw [read_checkpoint, read_checkpoint, h]

/-! ### One save -/

/-- The index is as before, and so are the checkpoints of all other names. -/
def Unpublished (request : SaveRequest) (disk after : CheckpointDisk) : Prop :=
  after.index = disk.index ∧
    ∀ name, name ≠ request.identifier → after.completed.get? name = disk.completed.get? name

/-- The checkpoint is complete, and so is every other one that the new index names. -/
def PublishedIndex (library : CheckpointLibrary) (request : SaveRequest) (disk : CheckpointDisk)
    (next : CheckpointIndex) (after : CheckpointDisk) : Prop :=
  after.index = some next ∧
    read_checkpoint library after request.identifier = .ok (request.summary library) ∧
    ∀ name ∈ next.identifiers, name ≠ request.identifier →
      after.completed.get? name = disk.completed.get? name

/-- The stage has its metadata. -/
def StagedCheckpoint (library : CheckpointLibrary) (request : SaveRequest)
    (disk after : CheckpointDisk) : Prop :=
  Unpublished request disk after ∧ ∃ files, after.pending.get? request.identifier = some files ∧
    files.metadata = some (request.summary library)

lemma Unpublished.change_stage {files : CheckpointFiles → CheckpointFiles}
    (h : Unpublished request disk after) :
    Unpublished request disk (change_stage request files after) :=
  h

lemma contract_stage_checkpoint :
    Contract (Unpublished request disk) (stage_checkpoint library faults request)
      (fun summary after => summary = request.summary library ∧
        StagedCheckpoint library request disk after)
      fun _ => Unpublished request disk := by
  refine Contract.bind (.read (Q := fun _ => Unpublished request disk) fun _ => id) fun _ => ?_
  refine Contract.bind (Q := fun _ => Unpublished request disk)
    (contract_attempt (fun _ _ _ => id) fun _ _ _ => id) fun _ => ?_
  refine Contract.bind (Q := fun _ => Unpublished request disk)
    (contract_atomically (fun _ h => h.change_stage) fun _ _ _ => id) fun _ => ?_
  refine (contract_inspect fun _ _ _ => id).bind fun _ => ?_
  refine Contract.bind (Q := fun _ => Unpublished request disk)
    (contract_operation (fun _ h => h.change_stage) fun _ _ _ _ h => h.change_stage) fun _ => ?_
  refine Contract.bind (Q := fun _ => Unpublished request disk)
    (contract_attempt (fun _ _ _ => id) fun _ _ _ => id) fun _ => ?_
  refine (contract_inspect fun _ _ _ => id).bind fun _ => ?_
  refine Contract.bind (Q := fun _ => Unpublished request disk)
    (contract_attempt (fun _ _ _ => id) fun _ _ _ => id) fun _ => ?_
  refine Contract.bind (Q := fun _ => StagedCheckpoint library request disk)
    (contract_replacement (fun after h => ⟨h.change_stage, _,
        (Dict.get?_insert _ _ _ _).trans (if_pos rfl), rfl⟩) (fun _ _ => id)
      fun _ _ h => h.change_stage) fun _ => ?_
  refine Contract.bind (contract_inspect fun _ _ _ h => h.1) fun _ => .pure fun _ h => ⟨rfl, h⟩

/-- The completed directory has its metadata. -/
def Completed (library : CheckpointLibrary) (request : SaveRequest) (disk after : CheckpointDisk) :
    Prop :=
  Unpublished request disk after ∧ ∃ files, after.completed.get? request.identifier = some files ∧
    files.metadata = some (request.summary library)

lemma contract_publish_checkpoint :
    Contract (StagedCheckpoint library request disk) (publish_checkpoint faults request)
      (fun _ => Completed library request disk) fun _ => Unpublished request disk := by
  refine Contract.bind
    (.read (Q := fun _ => StagedCheckpoint library request disk) fun _ => id) fun _ => ?_
  refine Contract.bind (Q := fun _ => StagedCheckpoint library request disk)
    (contract_attempt (fun _ _ _ => id) fun _ _ _ h => h.1) fun _ => ?_
  refine contract_atomically (fun after h => ?_) fun _ _ _ h => h.1
  obtain ⟨⟨hindex, hothers⟩, files, hfiles, hmetadata⟩ := h
  refine ⟨⟨hindex, fun name hname => ?_⟩, files, ?_, hmetadata⟩
  · rw [Dict.get?_insert, if_neg hname]
    exact hothers name hname
  · rw [Dict.get?_insert, if_pos rfl, hfiles]
    rfl

/-- Removing what the index does not name keeps what was published. -/
lemma contract_prune (hlatest : request.identifier ∈ next.identifiers)
    {items : List CheckpointSummary} :
    Transaction.Keeps (PublishedIndex library request disk next)
      (prune faults next.identifiers items) := by
  induction items with
  | nil => exact .pure fun _ => id
  | cons item rest ih =>
    refine .ite (fun _ => ih) fun hgone => ?_
    have hname : item.checkpoint_identifier ∉ next.identifiers := by
      simpa using hgone
    have hkept : ∀ {after : CheckpointDisk} {completed : Dict CheckpointFiles},
        (∀ name, name ≠ item.checkpoint_identifier →
          completed.get? name = after.completed.get? name) →
        PublishedIndex library request disk next after →
        PublishedIndex library request disk next { after with completed := completed } := by
      rintro after completed hsame ⟨hindex, hread, hothers⟩
      refine ⟨hindex, ?_, fun name hmem hne => ?_⟩
      · rw [read_checkpoint_congr (hsame _ fun heq => hname (heq ▸ hlatest)), hread]
      · rw [hsame name fun heq => hname (heq ▸ hmem)]
        exact hothers name hmem hne
    refine Contract.bind (Q := fun _ => PublishedIndex library request disk next)
      (contract_attempt (fun _ _ _ => id) fun _ _ _ => id) fun _ => ?_
    refine Contract.bind (contract_operation (fun after h => hkept (fun name hne => ?_) h)
      fun reached _ _ after h => hkept (fun name hne => ?_) h) fun _ => ih
    · rw [Dict.get?_erase, if_neg hne]
    · cases reached with
      | none => rw [with_files, Dict.get?_erase, if_neg hne]
      | some files => rw [with_files, Dict.get?_insert, if_neg hne]

/-- Where a save stops, and where it returns. -/
def Ended (library : CheckpointLibrary) (request : SaveRequest) (disk after : CheckpointDisk) :
    Prop :=
  Unpublished request disk after ∨ ∃ previous next, disk.read_index = .ok previous ∧
    retained previous (request.summary library) = .ok next ∧
      PublishedIndex library request disk next after

/-- Removing the stage leaves the index and the completed checkpoints alone. -/
lemma contract_remove_stage {P : CheckpointDisk → Prop} {R : Stop Raised → CheckpointDisk → Prop}
    (hpending : ∀ {after : CheckpointDisk} {pending : Dict CheckpointFiles},
      P after → P { after with pending := pending })
    (hstop : ∀ {e : Stop Raised} {after : CheckpointDisk}, P after → R e after) :
    Contract P (remove_stage faults request) (fun _ => P) R := by
  refine Contract.bind (.read (Q := fun _ => P) fun _ => id) fun _ => ?_
  refine .ite (fun _ => .pure fun _ => id) fun _ => ?_
  exact contract_catching (S := fun _ => P)
    (contract_operation (fun _ => hpending) fun _ _ _ _ => hpending)
    (fun _ => .pure fun _ => id) fun _ => hstop

lemma contract_save_stage (hprevious : disk.read_index = .ok previous) :
    Contract (Unpublished request disk) (save_stage library faults request previous)
      (fun summary after => summary = request.summary library ∧ ∃ next,
        retained previous (request.summary library) = .ok next ∧
          PublishedIndex library request disk next after)
      fun _ => Ended library request disk := by
  refine Contract.bind (contract_stage_checkpoint.mono (fun _ => id) (fun _ _ => id)
    fun _ _ => Or.inl) fun summary => .assume fun hsummary => ?_
  rw [hsummary]
  refine Contract.bind (contract_publish_checkpoint.mono (fun _ => id) (fun _ _ => id)
    fun _ _ => Or.inl) fun _ => ?_
  refine (contract_inspect fun _ _ _ h => Or.inl h.1).bind fun _ => ?_
  refine (contract_inspect fun _ _ _ h => Or.inl h.1).bind fun _ => ?_
  refine Contract.bind (Q := fun found after => after = found ∧
    Completed library request disk found) (.read fun _ h => ⟨rfl, h⟩) fun found => ?_
  refine Contract.bind (Q := fun _ after => Unpublished request disk after ∧
      read_checkpoint library after request.identifier = .ok (request.summary library))
    (contract_attempt (fun summary hread after h => ?_) fun _ _ _ h => Or.inl (h.1 ▸ h.2.1))
    fun _ => ?_
  · obtain ⟨rfl, hunpublished, files, hfiles, hmetadata⟩ := h
    obtain ⟨other, hother, hfound⟩ := read_checkpoint_ok hread
    obtain rfl := Option.some.inj (hother.symm.trans hfiles)
    obtain rfl := Option.some.inj (hfound.symm.trans hmetadata)
    exact ⟨hunpublished, hread⟩
  refine Contract.bind (Q := fun next after =>
      retained previous (request.summary library) = .ok next ∧ Unpublished request disk after ∧
        read_checkpoint library after request.identifier = .ok (request.summary library))
    (contract_attempt (fun _ hretained _ h => ⟨hretained, h⟩) fun _ _ _ h => Or.inl h.1)
    fun next => .assume fun hretained => ?_
  have hpublished : ∀ {after : CheckpointDisk}, Unpublished request disk after ∧
      read_checkpoint library after request.identifier = .ok (request.summary library) →
        PublishedIndex library request disk next { after with index := some next } :=
    fun h => ⟨rfl, h.2, fun name _ hne => h.1.2 name hne⟩
  have hended : ∀ {after : CheckpointDisk}, PublishedIndex library request disk next after →
      Ended library request disk after := fun h => Or.inr ⟨previous, next, hprevious, hretained, h⟩
  refine Contract.bind (Q := fun _ => PublishedIndex library request disk next)
    (contract_replacement (fun _ h => hpublished h) (fun _ _ h => Or.inl h.1)
      fun _ _ h => hended (hpublished h)) fun _ => ?_
  obtain ⟨hvalid, hlast⟩ := retained_ok hretained
  have hlatest : request.identifier ∈ next.identifiers := hvalid.2.2.1 _ hlast
  exact Contract.bind ((contract_prune hlatest).mono (fun _ => id) (fun _ _ => id)
    fun _ _ => hended) fun _ => .pure fun _ h => ⟨rfl, next, hretained, h⟩

/-- A save that returns has published its checkpoint; one that stops has done so, or has changed
nothing that the index names. -/
theorem contract_save_checkpoint :
    Contract (· = disk) (save_checkpoint library faults request)
      (fun summary after => summary = request.summary library ∧ ∃ previous next,
        disk.read_index = .ok previous ∧ retained previous (request.summary library) = .ok next ∧
          PublishedIndex library request disk next after)
      fun _ => Ended library request disk := by
  have hunchanged : Unpublished request disk disk := ⟨rfl, fun _ _ => rfl⟩
  have hpending : ∀ {after : CheckpointDisk} {pending : Dict CheckpointFiles},
      Ended library request disk after →
        Ended library request disk { after with pending := pending } := fun h => h
  refine contract_catching (S := fun _ => Ended library request disk) ?_
    (fun _ => contract_raise fun _ => id) fun _ => id
  refine (contract_inspect fun _ _ _ h => Or.inl (h ▸ hunchanged)).bind fun _ => ?_
  refine (contract_inspect fun _ _ _ h => Or.inl (h ▸ hunchanged)).bind fun _ => ?_
  refine Contract.bind (Q := fun found after => found = disk ∧ after = disk)
    (.read fun _ h => ⟨h, h⟩) fun found => .assume fun hfound => ?_
  rw [hfound]
  refine Contract.bind (Q := fun previous after => disk.read_index = .ok previous ∧ after = disk)
    (contract_attempt (fun _ hprevious _ h => ⟨hprevious, h⟩)
      fun _ _ _ h => Or.inl (h ▸ hunchanged)) fun previous => .assume fun hprevious => ?_
  have hstage : Contract (· = disk) (save_stage library faults request previous) _ _ :=
    (contract_save_stage hprevious).strengthen fun _ h => h ▸ hunchanged
  refine (contract_finally hstage (fun summary => ?_)
    fun _ => contract_remove_stage hpending id).weaken fun summary after h => ?_
  · refine contract_remove_stage (fun h => h) fun h => ?_
    obtain ⟨-, next, hretained, hpublished⟩ := h
    exact Or.inr ⟨previous, next, hprevious, hretained, hpublished⟩
  · obtain ⟨hsummary, next, hretained, hpublished⟩ := h
    exact ⟨hsummary, previous, next, hprevious, hretained, hpublished⟩

/-! ### Histories -/

/-- The disk, the published checkpoints in their order, and the identifiers used so far. -/
structure CheckpointHistory where
  disk : CheckpointDisk := {}
  saved : List CheckpointSummary := []
  used : List String := []

inductive CheckpointEvent where
  | save (faults : SaveFaults) (request : SaveRequest)

/-- One save, under an identifier of its own. A save that stops has published its checkpoint when
the index has changed. -/
inductive CheckpointStep (library : CheckpointLibrary) :
    CheckpointHistory → CheckpointEvent → CheckpointHistory → Prop where
  | returned {h : CheckpointHistory} {faults : SaveFaults} {request : SaveRequest}
      {summary : CheckpointSummary} {disk : CheckpointDisk} (hfresh : request.identifier ∉ h.used)
      (hsave : save_checkpoint library faults request h.disk = (.ok summary, disk)) :
    CheckpointStep library h (.save faults request)
      { disk := disk, saved := h.saved ++ [summary], used := h.used ++ [request.identifier] }
  | stopped {h : CheckpointHistory} {faults : SaveFaults} {request : SaveRequest}
      {stop : Stop Raised} {disk : CheckpointDisk} (hfresh : request.identifier ∉ h.used)
      (hsave : save_checkpoint library faults request h.disk = (.error stop, disk)) :
    CheckpointStep library h (.save faults request)
      { disk := disk
        saved := if disk.index = h.disk.index then h.saved
          else h.saved ++ [request.summary library]
        used := h.used ++ [request.identifier] }

/-- The index is what retention keeps of the published checkpoints, and all of it is complete. -/
structure RetainedIndex (library : CheckpointLibrary) (h : CheckpointHistory)
    (index : CheckpointIndex) : Prop where
  stored : h.disk.read_index = .ok index
  latest : index.latest_identifier = h.saved.getLast?.map CheckpointSummary.checkpoint_identifier
  kept : index.checkpoints = retention h.saved
  complete : ∀ item ∈ index.checkpoints,
    read_checkpoint library h.disk item.checkpoint_identifier = .ok item
  distinct : Distinct h.saved
  used : ∀ item ∈ h.saved, item.checkpoint_identifier ∈ h.used

variable {h t : CheckpointHistory} {index : CheckpointIndex}

lemma RetainedIndex.mem_saved (hindex : RetainedIndex library h index) {item : CheckpointSummary}
    (hitem : item ∈ index.checkpoints) : item ∈ h.saved := by
  rw [hindex.kept] at hitem
  exact List.mem_of_mem_filter hitem

/-- A save that has published nothing keeps the index. -/
lemma RetainedIndex.unpublished (hindex : RetainedIndex library h index)
    (hfresh : request.identifier ∉ h.used) (hsave : Unpublished request h.disk disk) :
    RetainedIndex library
      { h with disk := disk, used := h.used ++ [request.identifier] } index where
  stored := by
    have hstored := hindex.stored
    rw [CheckpointDisk.read_index] at hstored ⊢
    rw [hsave.1]
    exact hstored
  latest := hindex.latest
  kept := hindex.kept
  complete item hitem := by
    have hname : item.checkpoint_identifier ≠ request.identifier := fun heq =>
      hfresh (heq ▸ hindex.used item (hindex.mem_saved hitem))
    rw [read_checkpoint_congr (hsave.2 _ hname)]
    exact hindex.complete item hitem
  distinct := hindex.distinct
  used item hitem := List.mem_append_left _ (hindex.used item hitem)

/-- A save that has published its checkpoint goes on from the index. -/
lemma RetainedIndex.published (hindex : RetainedIndex library h index)
    (hfresh : request.identifier ∉ h.used)
    (hretained : retained index (request.summary library) = .ok next)
    (hsave : PublishedIndex library request h.disk next disk) :
    RetainedIndex library { disk := disk, saved := h.saved ++ [request.summary library],
                            used := h.used ++ [request.identifier] } next := by
  have hdistinct : Distinct (h.saved ++ [request.summary library]) := by
    rw [Distinct, List.map_append, List.nodup_append]
    refine ⟨hindex.distinct, by simp, fun name hname other hother heq => ?_⟩
    obtain ⟨item, hitem, rfl⟩ := List.mem_map.mp hname
    obtain rfl : other = request.identifier := List.mem_singleton.mp hother
    exact hfresh (heq ▸ hindex.used item hitem)
  have hkept := retained_eq_retention hdistinct hindex.kept hretained
  obtain ⟨hvalid, hlatest⟩ := retained_ok hretained
  refine ⟨?_, ?_, hkept, fun item hitem => ?_, hdistinct, fun item hitem => ?_⟩
  · rw [CheckpointDisk.read_index, hsave.1]
    exact if_pos hvalid
  · rw [hlatest, List.getLast?_append_of_ne_nil _ (by simp)]
    rfl
  · have hnamed : item.checkpoint_identifier ∈ next.identifiers := List.mem_map_of_mem hitem
    rw [hkept] at hitem
    obtain ⟨hsaved, hitem⟩ := List.mem_filter.mp hitem
    rcases List.mem_append.mp hsaved with hsaved | hlast
    · have hname : item.checkpoint_identifier ≠ request.identifier := fun heq =>
        hfresh (heq ▸ hindex.used item hsaved)
      rw [read_checkpoint_congr (hsave.2.2 _ hnamed hname)]
      refine hindex.complete item (hindex.kept ▸ List.mem_filter.mpr ⟨hsaved, decide_eq_true
        (kept_of_append hdistinct hsaved (of_decide_eq_true hitem))⟩)
    · obtain rfl := List.mem_singleton.mp hlast
      exact hsave.2.1
  · rcases List.mem_append.mp hitem with hitem | hitem
    · exact List.mem_append_left _ (hindex.used item hitem)
    · obtain rfl := List.mem_singleton.mp hitem
      exact List.mem_append_right _ (List.mem_singleton_self _)

/-- An index with the checkpoint of this save is not the one before. -/
lemma RetainedIndex.changed (hindex : RetainedIndex library h index)
    (hfresh : request.identifier ∉ h.used)
    (hretained : retained index (request.summary library) = .ok next)
    (hsave : PublishedIndex library request h.disk next disk) : disk.index ≠ h.disk.index := by
  intro hsame
  have hstored := hindex.stored
  rw [CheckpointDisk.read_index, ← hsame, hsave.1] at hstored
  obtain ⟨hvalid, hlatest⟩ := retained_ok hretained
  dsimp only at hstored
  rw [if_pos hvalid] at hstored
  obtain rfl := Except.ok.inj hstored
  rw [hindex.latest] at hlatest
  obtain ⟨item, hitem, heq⟩ := Option.map_eq_some_iff.mp hlatest
  have hname : item.checkpoint_identifier = request.identifier := heq
  exact hfresh (hname ▸ hindex.used item (List.mem_of_getLast? hitem))

/-- Every save keeps to retention. -/
theorem retainedIndex_of_step {event : CheckpointEvent}
    (hindex : ∃ index, RetainedIndex library h index) (hstep : CheckpointStep library h event t) :
    ∃ index, RetainedIndex library t index := by
  obtain ⟨index, hindex⟩ := hindex
  cases hstep with
  | returned hfresh hsave =>
    obtain ⟨rfl, previous, next, hprevious, hretained, hpublished⟩ :=
      contract_save_checkpoint.returns rfl hsave
    obtain rfl := Except.ok.inj (hprevious.symm.trans hindex.stored)
    exact ⟨next, hindex.published hfresh hretained hpublished⟩
  | stopped hfresh hsave =>
    rcases contract_save_checkpoint.fails rfl hsave with hunpublished |
      ⟨previous, next, hprevious, hretained, hpublished⟩
    · rw [if_pos hunpublished.1]
      exact ⟨index, hindex.unpublished hfresh hunpublished⟩
    · obtain rfl := Except.ok.inj (hprevious.symm.trans hindex.stored)
      rw [if_neg (hindex.changed hfresh hretained hpublished)]
      exact ⟨next, hindex.published hfresh hretained hpublished⟩

/-- What an index keeps of all checkpoints ever saved: the latest, the pinned ones and the three
best measured ones, each of them once and complete. -/
structure RightCheckpoints (library : CheckpointLibrary) (h : CheckpointHistory)
    (index : CheckpointIndex) : Prop where
  stored : h.disk.read_index = .ok index
  unique : index.identifiers.Nodup
  latest : index.latest_identifier = h.saved.getLast?.map CheckpointSummary.checkpoint_identifier
  order : index.checkpoints.Sublist h.saved
  kept : ∀ item, item ∈ index.checkpoints ↔ item ∈ h.saved ∧
    (item.pinned = true ∨ h.saved.getLast? = some item ∨ item.metrics.isSome = true ∧
      Ranking.outranking CheckpointSummary.rank (measured h.saved) item < 3)
  complete : ∀ item ∈ index.checkpoints,
    read_checkpoint library h.disk item.checkpoint_identifier = .ok item

/-- Digests of one letter, and states that all are of one step and configuration. -/
def small_library : CheckpointLibrary where
  checksum _ := String.ofList (List.replicate 64 'a')
  frozen_checksum _ := String.ofList (List.replicate 64 'b')
  load_state _ := some ⟨7, Dict.empty.insert "dataset" "small", "\x7b\x7d"⟩

def small_save (letter : Char) : SaveRequest where
  uuid := String.ofList (List.replicate 32 letter)
  global_step := 7
  created_at := "2026-01-01T00:00:00+00:00"
  configuration := "\x7b\x7d"
  identities := Dict.empty.insert "dataset" "small"
  state := [1]

/-- A crash between publishing the checkpoint and writing the index. -/
def interrupted_save : SaveFaults where
  read_checkpoint := .crash ()

end StegoLab

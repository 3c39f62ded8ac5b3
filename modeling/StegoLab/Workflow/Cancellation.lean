import StegoLab.Sources.DownloadBudget
import StegoLab.Workflow.FetchHistory

/-!
# Cancelled fetch jobs

A cancelled job leaves the partial downloads of all other jobs, and it leaves none of its own when
each of them was found, which the bounded listing need not do.
-/

namespace StegoLab

open Transaction Program

variable {s t : FetchJob} {event : FetchEvent} {job : JobSnapshot} {action : JobAction}
  {changes : JobSnapshot → JobSnapshot} {closing saved : Bool} {faults : DiscardFaults}
  {reported : List String} {ended : WorkerExit ⊕ ApplicationFailure}

/-! ### Changes of the job -/

/-- The change keeps the identifier, and cancels the job exactly when partial downloads have been
removed before it. -/
structure CancelsWhen (discards : Bool) (job : JobSnapshot) (changed : JobSnapshot) : Prop where
  identifier : changed.job_identifier = job.job_identifier
  cancelled : job.status ≠ .cancelled → (changed.status = .cancelled ↔ discards = true)

lemma fetch_action_changes_cancel (h : fetch_action_changes job action = .ok changes) :
    CancelsWhen (action_discards job action) job (changes job) := by
  unfold fetch_action_changes at h
  split_ifs at h with hcancel hrunning hpause hresume
  · obtain rfl := Except.ok.inj h
    exact ⟨rfl, fun _ => by simpa [action_discards] using hcancel⟩
  · obtain rfl := Except.ok.inj h
    obtain ⟨rfl, hstatus⟩ := hrunning
    exact ⟨rfl, fun _ => by simp [action_discards, hstatus]⟩
  · obtain rfl := Except.ok.inj h
    obtain ⟨rfl, hstatus, -⟩ := hpause
    exact ⟨rfl, fun _ => by simp [action_discards, hstatus]⟩
  · obtain rfl := Except.ok.inj h
    obtain ⟨rfl, -⟩ := hresume
    exact ⟨rfl, fun _ => by simp [action_discards]⟩
  · exact absurd h (by simp [fail])

lemma stopped_changes_cancel (h : stopped_changes closing job = some changes) :
    CancelsWhen (job.requested_action = some .cancel) job (changes job) := by
  unfold stopped_changes at h
  split_ifs at h with hcancel hpause hclosing
  · obtain rfl := Option.some_inj.mp h
    exact ⟨rfl, fun _ => by simp [hcancel]⟩
  · obtain rfl := Option.some_inj.mp h
    exact ⟨rfl, fun _ => by simp [hcancel]⟩
  · obtain rfl := Option.some_inj.mp h
    exact ⟨rfl, fun _ => by simp [hcancel]⟩

lemma fetch_changes_cancel (h : fetch_changes closing job ended = .ok changes) :
    CancelsWhen (exit_discards job ended) job (changes job) := by
  have hstops : ∀ {possible : Bool}, (if possible = true then stopped_changes closing job else none)
      = some changes → CancelsWhen (possible && job.requested_action = some .cancel) job
        (changes job) := by
    intro possible hchanges
    cases possible with
    | false => exact absurd hchanges (by simp)
    | true => simpa using stopped_changes_cancel hchanges
  cases ended with
  | inl exit =>
    rw [fetch_changes, exit_changes] at h
    by_cases hfinished : exit.code = 0 ∧ has_text exit.result "status" ["completed", "reused"] = true
    · rw [if_pos hfinished] at h
      obtain rfl := Except.ok.inj h
      exact ⟨rfl, fun _ => by simp [exit_discards, hfinished]⟩
    · rw [if_neg hfinished] at h
      split at h
      · exact absurd h (by simp [fail])
      · next found hfound =>
        obtain rfl := Except.ok.inj h
        have hcancels := hstops hfound
        have hunfinished : (exit.code = 0 && has_text exit.result "status" ["completed", "reused"])
            = false := by simpa using hfinished
        rw [exit_discards, hunfinished]
        simpa using hcancels
  | inr failure =>
    rw [fetch_changes] at h
    split at h
    · exact absurd h (by simp)
    · next found hfound =>
      obtain rfl := Except.ok.inj h
      simpa [exit_discards] using stopped_changes_cancel hfound

/-! ### Steps -/

/-- The removal of partial downloads that an event comes to. -/
def FetchEvent.removal : FetchEvent → FetchJob → Option (DiscardFaults × List String)
  | .act action faults _, s =>
    if action_discards s.job action = true then some (faults, []) else none
  | .leave _ ended faults _, s =>
    if exit_discards s.job ended = true then some (faults, s.reported) else none
  | _, _ => none

lemma saved_identifier (h : (changes s.job).job_identifier = s.job.job_identifier) :
    (s.saved saved changes).job.job_identifier = s.job.job_identifier := by
  rw [FetchJob.saved]
  split_ifs
  · exact h
  · rfl

lemma discarded_identifier (h : (changes s.job).job_identifier = s.job.job_identifier) :
    (s.discarded faults reported saved changes).job.job_identifier = s.job.job_identifier := by
  rw [FetchJob.discarded]
  split
  · rfl
  · exact saved_identifier h

lemma saved_disk : (s.saved saved changes).disk = s.disk := by
  rw [FetchJob.saved]
  split_ifs
  · rfl
  · rfl

lemma discarded_disk : (s.discarded faults reported saved changes).disk
    = (discard_partials faults s.label reported s.disk).2 := by
  rw [FetchJob.discarded]
  split
  · next hdiscard => rw [hdiscard]
  · next hdiscard => rw [saved_disk, hdiscard]

/-- A job that is saved after a removal has seen the end of the removal. -/
lemma discarded_status (hnot : s.job.status ≠ .cancelled)
    (h : (s.discarded faults reported saved changes).job.status = .cancelled) :
    ∃ after, discard_partials faults s.label reported s.disk = (.ok (), after) ∧
      (s.discarded faults reported saved changes).disk = after := by
  cases hdiscard : discard_partials faults s.label reported s.disk with
  | mk outcome disk =>
    cases outcome with
    | error e =>
      rw [FetchJob.discarded, hdiscard] at h
      exact absurd h hnot
    | ok _ => exact ⟨disk, rfl, by rw [discarded_disk, hdiscard]⟩

lemma saved_not_cancelled (hnot : s.job.status ≠ .cancelled)
    (hchanges : (changes s.job).status ≠ .cancelled) :
    (s.saved saved changes).job.status ≠ .cancelled := by
  rw [FetchJob.saved]
  split_ifs
  · exact hchanges
  · exact hnot

lemma DownloadCall.unowned {call : DownloadCall} {label : String} (howner : call.run.owner ≠ label)
    (h : Unowned label s.disk) : Unowned label (call.apply s.disk) := by
  have hkeeps := @spares_download_assets label call.sha256 call.run call.surroundings call.checksum
    call.space call.progress howner
  have hstart : Unowned label ({ disk := s.disk } : DownloadState).disk := h
  exact hkeeps.ends hstart Prod.mk.eta.symm

/-- A step that is not a removal: it neither cancels the job, nor gives a cancelled one partial
downloads. -/
structure FetchContinues (s t : FetchJob) : Prop where
  identifier : t.job.job_identifier = s.job.job_identifier
  cancelled : t.job.status = .cancelled → s.job.status = .cancelled
  unowned : s.job.status = .cancelled → Unowned s.label s.disk → Unowned s.label t.disk

lemma FetchContinues.refl : FetchContinues s s :=
  ⟨rfl, id, fun _ => id⟩

lemma continues_saved {discards : Bool} (h : CancelsWhen discards s.job (changes s.job))
    (hno : discards ≠ true) : FetchContinues s (s.saved saved changes) where
  identifier := saved_identifier h.identifier
  cancelled hcancelled := by
    by_contra hnot
    exact saved_not_cancelled hnot (fun hchanged => hno ((h.cancelled hnot).mp hchanged)) hcancelled
  unowned _ hunowned := saved_disk (s := s) ▸ hunowned

lemma worked_on_not_cancelled (h : worked_on job = true) : job.status ≠ .cancelled := by
  intro hcancelled
  simp [worked_on, hcancelled] at h

lemma action_discards_not_cancelled (h : action_discards job action = true) :
    job.status ≠ .cancelled := by
  intro hcancelled
  simp [action_discards, hcancelled] at h

lemma ended_as_not_cancelled {status : JobStatus} (h : status ≠ .cancelled) :
    (ended_as status job).status ≠ .cancelled := h

/-- A job whose worker may be alive continues when it is not cancelled. -/
lemma continues_of_status (hidentifier : t.job.job_identifier = s.job.job_identifier)
    (hs : s.job.status ≠ .cancelled) (ht : t.job.status ≠ .cancelled) : FetchContinues s t :=
  ⟨hidentifier, fun h => absurd h ht, fun h => absurd h hs⟩

/-- The removal of a step, with the changes that it saves. -/
structure Removes (event : FetchEvent) (s t : FetchJob) (faults : DiscardFaults)
    (reported : List String) (changes : JobSnapshot → JobSnapshot) : Prop where
  removal : event.removal s = some (faults, reported)
  unfinished : s.job.status ≠ .cancelled
  identifier : (changes s.job).job_identifier = s.job.job_identifier
  discarded : ∃ saved, t = s.discarded faults reported saved changes

lemma act_cases {saved : Bool} (h : FetchStep s (.act action faults saved) t) :
    FetchContinues s t ∧ (FetchEvent.removal (.act action faults saved) s = none ∨ t = s) ∨
      ∃ changes, Removes (.act action faults saved) s t faults [] changes := by
  unfold FetchStep FetchEvent.step at h
  dsimp only at h
  split at h
  · cases hchanges : fetch_action_changes s.job action with
    | error e =>
      rw [hchanges] at h
      obtain rfl := Option.some_inj.mp h
      exact .inl ⟨.refl, .inr rfl⟩
    | ok changes =>
      rw [hchanges] at h
      have hcancels := fetch_action_changes_cancel hchanges
      by_cases hdiscards : action_discards s.job action = true
      · have ht : some (s.discarded faults [] saved changes) = some t := (if_pos hdiscards).symm.trans h
        exact .inr ⟨changes, if_pos hdiscards, action_discards_not_cancelled hdiscards,
          hcancels.identifier, saved, (Option.some_inj.mp ht).symm⟩
      · have ht : some (s.saved saved changes) = some t := (if_neg hdiscards).symm.trans h
        rw [← Option.some_inj.mp ht]
        exact .inl ⟨continues_saved hcancels hdiscards, .inl (if_neg hdiscards)⟩
  · exact absurd h (by simp)

lemma leave_cases (h : FetchStep s (.leave closing ended faults saved) t) :
    FetchContinues s t ∧ (FetchEvent.removal (.leave closing ended faults saved) s = none ∨ t = s) ∨
      ∃ changes, Removes (.leave closing ended faults saved) s t faults s.reported changes := by
  unfold FetchStep FetchEvent.step at h
  dsimp only at h
  split at h
  · next hworked =>
    cases hchanges : fetch_changes closing s.job ended with
    | error e =>
      rw [hchanges] at h
      obtain rfl := Option.some_inj.mp h
      exact .inl ⟨.refl, .inr rfl⟩
    | ok changes =>
      rw [hchanges] at h
      have hcancels := fetch_changes_cancel hchanges
      by_cases hdiscards : exit_discards s.job ended = true
      · have ht : some (s.discarded faults s.reported saved changes) = some t :=
          (if_pos hdiscards).symm.trans h
        exact .inr ⟨changes, if_pos hdiscards, worked_on_not_cancelled hworked,
          hcancels.identifier, saved, (Option.some_inj.mp ht).symm⟩
      · have ht : some (s.saved saved changes) = some t := (if_neg hdiscards).symm.trans h
        rw [← Option.some_inj.mp ht]
        exact .inl ⟨continues_saved hcancels hdiscards, .inl (if_neg hdiscards)⟩
  · exact absurd h (by simp)

/-- What a step can do: continue without a removal, or remove and save. -/
theorem step_cases (h : FetchStep s event t) :
    FetchContinues s t ∧ (event.removal s = none ∨ t = s) ∨
      ∃ faults reported changes, Removes event s t faults reported changes := by
  cases event with
  | act action faults saved =>
    exact (act_cases h).imp id fun hremoves => ⟨faults, [], hremoves⟩
  | leave closing ended faults saved =>
    exact (leave_cases h).imp id fun hremoves => ⟨faults, s.reported, hremoves⟩
  | claim =>
    obtain ⟨hqueued, ht⟩ := Option.ite_none_right_eq_some.mp h
    obtain rfl := Option.some_inj.mp ht
    exact .inl ⟨continues_of_status rfl (by simp [hqueued]) (by simp), .inl rfl⟩
  | download call =>
    obtain ⟨⟨hworked, -⟩, ht⟩ := Option.ite_none_right_eq_some.mp h
    obtain rfl := Option.some_inj.mp ht
    have hnot := worked_on_not_cancelled hworked
    exact .inl ⟨continues_of_status rfl hnot hnot, .inl rfl⟩
  | report record partial_directories saved =>
    obtain ⟨hworked, ht⟩ := Option.ite_none_right_eq_some.mp h
    obtain rfl := Option.some_inj.mp ht
    have hnot := worked_on_not_cancelled hworked
    exact .inl ⟨continues_of_status (saved_identifier rfl) hnot (saved_not_cancelled hnot hnot),
      .inl rfl⟩
  | fail closing =>
    obtain ⟨hworked, ht⟩ := Option.ite_none_right_eq_some.mp h
    obtain rfl := Option.some_inj.mp ht
    refine .inl ⟨continues_of_status rfl (worked_on_not_cancelled hworked) ?_, .inl rfl⟩
    cases closing
    · exact ended_as_not_cancelled (by decide)
    · exact ended_as_not_cancelled (by decide)
  | interrupt =>
    obtain ⟨hunfinished, ht⟩ := Option.ite_none_right_eq_some.mp h
    obtain rfl := Option.some_inj.mp ht
    refine .inl ⟨continues_of_status rfl (fun hcancelled => ?_) (ended_as_not_cancelled (by decide)),
      .inl rfl⟩
    simp [unfinished, hcancelled] at hunfinished
  | download_other call =>
    obtain ⟨howner, ht⟩ := Option.ite_none_right_eq_some.mp h
    obtain rfl := Option.some_inj.mp ht
    exact .inl ⟨⟨rfl, id, fun _ => DownloadCall.unowned howner⟩, .inl rfl⟩
  | sweep faults checksum service lock =>
    obtain rfl := Option.some_inj.mp h
    exact .inl ⟨⟨rfl, id, fun _ hunowned => spares_remove_unused.ends hunowned Prod.mk.eta.symm⟩,
      .inl rfl⟩

/-! ### Runs -/

/-- No file operation of the removal fails. -/
def FetchEvent.Undisturbed (event : FetchEvent) (s : FetchJob) : Prop :=
  ∀ faults reported, event.removal s = some (faults, reported) → faults = {}

/-- Each partial download of the job is reported or among the first that are listed. -/
def FetchEvent.FindsOwned (event : FetchEvent) (s : FetchJob) : Prop :=
  ∀ faults reported, event.removal s = some (faults, reported) →
    ∀ key, s.disk.owner? key = some s.label → FoundPartial s.label reported s.disk key

/-- A step leaves the identifier of the job. -/
theorem step_identifier (h : FetchStep s event t) :
    t.job.job_identifier = s.job.job_identifier := by
  rcases step_cases h with ⟨hcontinues, -⟩ | ⟨faults, reported, changes, hremoves⟩
  · exact hcontinues.identifier
  · obtain ⟨saved, rfl⟩ := hremoves.discarded
    exact discarded_identifier hremoves.identifier

lemma label_eq (h : t.job.job_identifier = s.job.job_identifier) : t.label = s.label :=
  congrArg run_label_for h

/-- A removal leaves the partial downloads of all other owners. -/
theorem step_keeps_others {directory : String} {content : CacheDirectory}
    (hstep : FetchStep s event t) (hremoval : event.removal s ≠ none)
    (hother : content.owner? ≠ some s.label)
    (hcontent : s.disk.partials.get? directory = some content) :
    t.disk.partials.get? directory = some content := by
  rcases step_cases hstep with ⟨-, hnone | rfl⟩ | ⟨faults, reported, changes, hremoves⟩
  · exact absurd hnone hremoval
  · exact hcontent
  · obtain ⟨saved, rfl⟩ := hremoves.discarded
    rw [discarded_disk]
    exact (keeps_discard_partials hother).ends hcontent Prod.mk.eta.symm

/-- A step that cancels the job has removed all its partial downloads exactly when it has found
them. -/
theorem step_cancels (hstep : FetchStep s event t) (hnot : s.job.status ≠ .cancelled)
    (hcancelled : t.job.status = .cancelled) (hundisturbed : event.Undisturbed s) :
    Unowned t.label t.disk ↔ event.FindsOwned s := by
  rcases step_cases hstep with ⟨hcontinues, -⟩ | ⟨faults, reported, changes, hremoves⟩
  · exact absurd (hcontinues.cancelled hcancelled) hnot
  · have hlabel : t.label = s.label := label_eq (step_identifier hstep)
    obtain ⟨saved, rfl⟩ := hremoves.discarded
    obtain ⟨after, hdiscard, hafter⟩ := discarded_status hnot hcancelled
    obtain rfl := hundisturbed faults reported hremoves.removal
    obtain ⟨removed, hremoved, hgone⟩ := @discard_partials_undisturbed s.label s.disk reported
    obtain rfl : after = removed := congrArg Prod.snd (hdiscard.symm.trans hremoved)
    rw [hlabel, hafter, hgone]
    constructor
    · intro hfound faults' reported' hremoval'
      obtain ⟨-, rfl⟩ := Prod.mk.inj (Option.some_inj.mp (hremoves.removal.symm.trans hremoval'))
      exact hfound
    · exact fun hfinds => hfinds _ _ hremoves.removal

/-- A cancelled job stays without partial downloads. -/
theorem step_unowned (hstep : FetchStep s event t) (hcancelled : s.job.status = .cancelled)
    (hunowned : Unowned s.label s.disk) : Unowned t.label t.disk := by
  rcases step_cases hstep with ⟨hcontinues, -⟩ | ⟨faults, reported, changes, hremoves⟩
  · rw [label_eq hcontinues.identifier]
    exact hcontinues.unowned hcancelled hunowned
  · exact absurd hcancelled hremoves.unfinished

/-- A step of a run in which every removal is undisturbed and finds all. -/
def CompleteStep (s : FetchJob) (event : FetchEvent) (t : FetchJob) : Prop :=
  FetchStep s event t ∧ event.Undisturbed s ∧ event.FindsOwned s

/-- While every removal finds all partial downloads of the job, it has none left once it is
cancelled; a removal that does not find all leaves some. Those of other owners always stay. -/
theorem cancelled_removes_own {start : FetchJob} (hstart : start.job.status = .queued) :
    (∀ events s, Run CompleteStep start events s → s.job.status = .cancelled →
      Unowned s.label s.disk) ∧
    ∀ s event t, FetchStep s event t →
      (event.removal s ≠ none → ∀ directory content, content.owner? ≠ some s.label →
        s.disk.partials.get? directory = some content →
          t.disk.partials.get? directory = some content) ∧
      (s.job.status ≠ .cancelled → t.job.status = .cancelled → event.Undisturbed s →
        (Unowned t.label t.disk ↔ event.FindsOwned s)) := by
  constructor
  · intro events s hrun
    refine hrun.invariant (fun s => s.job.status = .cancelled → Unowned s.label s.disk) ?_ ?_
    · rintro s event t hunowned ⟨hstep, hundisturbed, hfinds⟩ hcancelled
      by_cases hbefore : s.job.status = .cancelled
      · exact step_unowned hstep hbefore (hunowned hbefore)
      · exact (step_cancels hstep hbefore hcancelled hundisturbed).mpr hfinds
    · intro hcancelled
      rw [hstart] at hcancelled
      exact absurd hcancelled (by decide)
  · intro s event t hstep
    exact ⟨fun hremoval directory content => step_keeps_others hstep hremoval, step_cancels hstep⟩

/-! ### A partial download that is there -/

section Placed

variable {disk : CacheDisk} {key : String} {content : CacheDirectory}

/-- The tree with one more partial directory. -/
def CacheDisk.placed (disk : CacheDisk) (key : String) (content : CacheDirectory) : CacheDisk :=
  { disk with partials := disk.partials.insert key content }

@[simp] lemma get?_placed : (disk.placed key content).partials.get? key = some content := by
  simp [CacheDisk.placed]

lemma get?_placed_other {other : String} (h : other ≠ key) :
    (disk.placed key content).partials.get? other = disk.partials.get? other := by
  simp [CacheDisk.placed, h]

@[simp] lemma part?_placed {name : String} :
    (disk.placed key content).part? key name = content.files.get? name := by
  simp [CacheDisk.part?]

lemma placed_placed {content' : CacheDirectory} :
    (disk.placed key content).placed key content' = disk.placed key content' := by
  have hpartials : (disk.placed key content).partials.insert key content'
      = disk.partials.insert key content' := by
    apply Dict.ext_get?
    intro k
    by_cases hk : k = key
    · simp [hk]
    · simp [hk, CacheDisk.placed]
  exact congrArg (CacheDisk.mk disk.entries) hpartials

lemma modify_placed {f : CacheDirectory → CacheDirectory} :
    (disk.placed key content).modify key f = disk.placed key (f content) := by
  rw [CacheDisk.modify, get?_placed]
  exact placed_placed

lemma put_placed {name : String} {data : List UInt8} :
    PartialFile.put { directory := key, name } data (disk.placed key content)
      = disk.placed key { content with files := content.files.insert name data } :=
  modify_placed

lemma size_placed {name : String} :
    PartialFile.size {} { directory := key, name } (disk.placed key content)
      = (.ok ((content.files.get? name).getD []).length, disk.placed key content) := by
  simp [PartialFile.size, bind_apply, read_apply, pure_apply, inspect_none]

lemma write_placed {record : ValidPartialRecord} :
    write_partial_record {} key record (disk.placed key content)
      = (.ok (), disk.placed key { content with record := some record }) := by
  simp [write_partial_record, bind_apply, read_apply, inspect_none, atomically_none, modify_placed]

lemma in_cache_of_eq {α : Type} {program : CacheProgram α} {state : DownloadState}
    {outcome : Except (Stop FetchException) α} {after : CacheDisk}
    (h : program state.disk = (outcome, after)) :
    in_cache program state = (outcome, { state with disk := after }) := by
  rw [in_cache, within, h]

lemma in_transfer_of_eq {α : Type} {program : TransferProgram α} {state : DownloadState}
    {outcome : Except (Stop FetchException) α} {after : TransferState}
    (h : program state.toTransferState = (outcome, after)) :
    in_transfer program state = (outcome, { state with toTransferState := after }) := by
  rw [in_transfer, within, h]

end Placed

/-! ### Nine partial downloads -/

section NinePartials

open DatasetCache

variable {disk : CacheDisk} {identity revision : String} {data : List UInt8}

/-- A digest that tells the lengths of texts apart, up to sixteen. -/
def length_digest (data : ByteArray) : String :=
  String.ofList (List.replicate 64 ("0123456789abcdef".toList.getD (data.size % 16) '0'))

lemma is_sha256_length_digest {data : ByteArray} : is_sha256 (length_digest data) = true := by
  have hdigit : ∀ n < 16, is_sha256 (String.ofList (List.replicate 64
      ("0123456789abcdef".toList.getD n '0'))) = true := by
    decide +kernel
  exact hdigit _ (Nat.mod_lt _ (by decide))

/-- A download of a revision that is stopped after its first piece. -/
def stopped_call (revision : String) : DownloadCall where
  sha256 _ := images_identity
  run := {
    plan := { images_plan with
      resolved := { images_plan.resolved with resolved_revision := revision } }
    owner := "a"
    maximum_bytes := 100
    resume := true
    created_at := "now" }
  surroundings _ := restarting_server
  checksum := length_digest
  space := ample_space

def revision_identity (revision : String) : String :=
  asset_identity length_digest .hugging_face "owner/images" revision "images.tar" none

/-- The directory of the partial download of an identity. -/
def images_directory (identity : String) : String :=
  "hugging_face/" ++ identity

def part_of (identity : String) : PartialFile where
  directory := images_directory identity
  name := "images.tar.part"

def stopped_record (n : ℕ) (h : n ≤ MAXIMUM_DOWNLOAD_BYTES) : ValidPartialRecord :=
  ⟨{ owner := "a", bytes_received := n, updated_at := "now" }, by
    simpa [CachePartialRecord.Valid, h] using ⟨by decide, by decide⟩⟩

/-- The record of a download that begins. -/
def begun_content : CacheDirectory where
  record := some (stopped_record 0 (by decide))

def stopped_content (n : ℕ) (h : n ≤ MAXIMUM_DOWNLOAD_BYTES) : CacheDirectory where
  record := some (stopped_record n h)
  files := Dict.empty.insert "images.tar.part" [4, 5]

def begun_download (identity : String) : CachePartial where
  kind := .hugging_face
  identity := identity
  directory := images_directory identity
  file := part_of identity
  record := stopped_record 0 (by decide)
  path := "images.tar"

def need_of (identity : String) : AssetNeed where
  asset := images_asset
  identity := identity
  entry := none

lemma cache_directory_of (hidentity : is_sha256 identity = true) :
    cache_directory .hugging_face identity = .ok (images_directory identity) :=
  if_pos ⟨hidentity, by decide⟩

lemma part_file_of (hidentity : is_sha256 identity = true) :
    part_file .hugging_face identity images_asset = .ok (part_of identity) := by
  have hname : cache_basename images_asset.path ++ PART_SUFFIX = "images.tar.part" := by
    decide +kernel
  rw [part_file, cache_directory_of hidentity, hname]
  rfl

lemma new_record_of : new_record images_asset "a" 0 "now" = .ok (stopped_record 0 (by decide)) := by
  decide +kernel

lemma open_partial_of (hidentity : is_sha256 identity = true)
    (hfree : disk.partials.get? (images_directory identity) = none) :
    open_partial {} restarting_server.disk_usage "now" .hugging_face identity images_asset "a" disk
      = (.ok (begun_download identity),
        disk.placed (images_directory identity) begun_content) := by
  have hspace : (ensure_disk_reserve restarting_server.disk_usage
      (images_asset.expected_size.getD 0)).mapError FetchException.raised = .ok () := by
    decide
  have hpath : images_asset.path = "images.tar" := rfl
  simp [ open_partial, part_file_of hidentity, bind_apply, pure_apply, read_apply, attempt,
    cache_locked, finally_do, resume, inspect, atomically, operation, adoptable,
    read_partial_record, tolerate, catching, drop_unadoptable, hfree, part_of, CacheDisk.part?,
    hspace, create_directory, new_record_of, write_partial_record, hpath]
  exact ⟨rfl, modify_placed⟩

lemma download_asset_of {state : TransferState}
    (hstate : state.disk = disk.placed (images_directory identity) begun_content) :
    download_asset {} (fun _ => images_identity) (restarting_server.transport none)
        (remote_asset images_asset images_url) (part_of identity) 100 (fun _ => true) state
      = (.error (.raised .download_stopped),
        { network := state.network + 2
          disk := disk.placed (images_directory identity) (stopped_content 0 (by decide)) }) := by
  have hresponse : open_response (restarting_server.transport none)
      (download_request (remote_asset images_asset images_url) 0)
        = .ok { status := 200, headers := .empty, chunks := [[4, 5], [6]] } := rfl
  have hannounced : announced_total
      { status := 200, headers := .empty, chunks := [[4, 5], [6]] } 0 = .ok none := by
    decide
  have hsize : (remote_asset images_asset images_url).expected_size = none := rfl
  have hinserted : (Dict.empty.insert "images.tar.part" ([] : List UInt8)).insert "images.tar.part"
      [4, 5] = Dict.empty.insert "images.tar.part" [4, 5] := by
    decide
  simp [download_asset, on_disk, within, PartialFile.open_for_append, bind_apply, pure_apply,
    read_apply, attempt, finally_do, resume, inspect, atomically, operation, part_of, hstate,
    PartialFile.size, put_placed, stream, hresponse, accept_response, PartialFile.iter_existing,
    hannounced, receive_chunks, raise_if, arrive, PartialFile.append, PartialFile.close, raise,
    hsize, hinserted, begun_content, stopped_content]

lemma update_partial_of :
    update_partial {} "now" (begun_download identity) 2
        (disk.placed (images_directory identity) (stopped_content 0 (by decide)))
      = (.ok { begun_download identity with record := stopped_record 2 (by decide) },
        disk.placed (images_directory identity) (stopped_content 2 (by decide))) := by
  have hrecord : validated CachePartialRecord.Valid
      { (begun_download identity).record.1 with bytes_received := 2, updated_at := "now" }
        = .ok (stopped_record 2 (by decide)) :=
    dif_pos (stopped_record 2 (by decide)).2
  rw [ update_partial, hrecord]
  exact (bind_of_ok rfl).trans (bind_of_ok (cache_locked_undisturbed write_placed))

lemma ensure_asset_of (hidentity : is_sha256 identity = true)
    (hfree : disk.partials.get? (images_directory identity) = none) {report : DownloadReport} :
    ∃ after : DownloadState,
      ensure_asset (fun _ => images_identity) (stopped_call revision).run restarting_server
          (need_of identity) { disk, report } = (.error (.raised .download_stopped), after) ∧
        after.disk = disk.placed (images_directory identity) (stopped_content 2 (by decide)) := by
  have hopen : open_download (stopped_call revision).run restarting_server (need_of identity) disk
      = (.ok (begun_download identity),
        disk.placed (images_directory identity) begun_content) :=
    (bind_of_ok (open_partial_of hidentity hfree)).trans rfl
  have hinterrupted : ∃ after : DownloadState,
      download_interrupted (stopped_call revision).run restarting_server (need_of identity)
          (begun_download identity) 0 .download_stopped
          { disk := disk.placed (images_directory identity) (stopped_content 0 (by decide))
            network := 2, report } = (.error (.raised .download_stopped), after) ∧
        after.disk = disk.placed (images_directory identity) (stopped_content 2 (by decide)) := by
    rw [download_interrupted]
    exact ⟨_, (bind_of_ok (in_cache_of_eq size_placed)).trans
      ((bind_of_ok (in_cache_of_eq update_partial_of)).trans rfl), rfl⟩
  obtain ⟨after, hafter, hdisk⟩ := hinterrupted
  refine ⟨after, (bind_of_ok (in_cache_of_eq hopen)).trans ?_, hdisk⟩
  refine (bind_of_ok (in_cache_of_eq size_placed)).trans (bind_of_error ?_)
  exact (catching_of_raised (in_transfer_of_eq (download_asset_of rfl))).trans hafter

lemma asset_needs_of (hidentity : revision_identity revision = identity)
    (hentries : disk.entries.get? (images_directory identity) = none) :
    asset_needs (fun _ => images_identity) (stopped_call revision).run (fun _ => restarting_server)
        length_digest 0 (stopped_call revision).run.plan.resolved.assets disk
      = (.ok [need_of identity], disk) := by
  have hsha256 : is_sha256 identity = true := hidentity ▸ is_sha256_length_digest
  have hfind : find_complete {} (fun _ => images_identity) .hugging_face identity true disk
      = (.ok none, disk) := by
    simp [find_complete, bind_apply, cache_directory_of hsha256, attempt, load_entry, tolerate,
      read_apply, catching, resume, inspect, atomically, operation, pure_apply, hentries]
  have hassets : (stopped_call revision).run.plan.resolved.assets = [images_asset] := rfl
  have hasset : asset_identity length_digest (stopped_call revision).run.plan.resolved.source_kind
      (stopped_call revision).run.plan.resolved.reference
      (stopped_call revision).run.plan.resolved.resolved_revision images_asset.path
      images_asset.expected_sha256 = identity := hidentity
  rw [hassets, asset_needs]
  simp only [hasset]
  exact bind_of_ok hfind

/-- The stopped download leaves a partial download of its run. -/
lemma stopped_call_apply (hidentity : revision_identity revision = identity)
    (hentries : disk.entries.get? (images_directory identity) = none)
    (hfree : disk.partials.get? (images_directory identity) = none) :
    (stopped_call revision).apply disk
      = disk.placed (images_directory identity) (stopped_content 2 (by decide)) := by
  have hsha256 : is_sha256 identity = true := hidentity ▸ is_sha256_length_digest
  obtain ⟨after, hafter, hdisk⟩ := @ensure_asset_of disk identity revision hsha256 hfree
    { bytes_total := none }
  have hspace : check_space (stopped_call revision).run ample_space [need_of identity]
      = .ok () := by
    simp [check_space, remaining_bytes, need_of, images_asset, stopped_call, images_plan]
    rfl
  have hall : download_assets (fun _ => images_identity) (stopped_call revision).run
      (fun _ => restarting_server) length_digest ample_space .none { disk }
        = (.error (.raised .download_stopped), after) := by
    rw [download_assets]
    refine (bind_of_ok (in_cache_of_eq (asset_needs_of hidentity hentries))).trans ?_
    rw [hspace]
    refine (bind_of_ok rfl).trans ((bind_of_ok rfl).trans ((bind_of_ok rfl).trans ?_))
    exact bind_of_error hafter
  have hsurroundings : (stopped_call revision).surroundings = fun _ => restarting_server := rfl
  have hchecksum : (stopped_call revision).checksum = length_digest := rfl
  have hspaces : (stopped_call revision).space = ample_space := rfl
  have hprogress : (stopped_call revision).progress = .none := rfl
  have hbytes : (stopped_call revision).sha256 = fun _ => images_identity := rfl
  rw [DownloadCall.apply, hbytes, hsurroundings, hchecksum, hspaces, hprogress, hall]
  exact hdisk

def pausable_report : DatasetFetchProgress where
  sequence := 1
  phase := .downloading
  bytes_received := 0
  bytes_total := none
  files_completed := 0
  files_total := none
  assets_completed := 0
  assets_total := 1
  supports_pause := true

/-- The job runs, is paused while it downloads a revision, and is resumed. -/
def paused_cycle (revision : String) : List FetchEvent :=
  [.claim, .download (stopped_call revision), .report pausable_report [] true,
    .act .pause {} true,
    .leave false (.inl { code := 0, result := [("status", .str "stopped")] }) {} true,
    .act .resume {} true]

def FetchJob.after (s : FetchJob) (events : List FetchEvent) : Option FetchJob :=
  events.foldlM (fun s event => event.step s) s

/-- The job waits for its turn, and may be cancelled. -/
structure WaitsCancellable (job : JobSnapshot) : Prop where
  identifier : job.job_identifier = "job_a"
  queued : job.status = .queued
  requested : job.requested_action = none
  cancellable : .cancel ∈ job.available_actions

lemma paused_cycle_after {after : CacheDisk} (hjob : WaitsCancellable s.job)
    (happly : (stopped_call revision).apply s.disk = after) :
    ∃ t, s.after (paused_cycle revision) = some t ∧ WaitsCancellable t.job ∧ t.disk = after := by
  obtain ⟨hidentifier, hqueued, hrequested, -⟩ := hjob
  have hlabel : run_label_for "job_a" = "a" := by decide
  have howner : (stopped_call revision).run.owner = "a" := rfl
  simp [FetchJob.after, paused_cycle, FetchEvent.step, hqueued, worked_on, FetchJob.label,
    hidentifier, hlabel, howner, progress_changes, FetchJob.saved, hrequested, pausable_report,
    fetch_action_changes, fetch_changes, exit_changes, stopped_changes, happly, action_discards,
    exit_discards, has_text]
  exact ⟨rfl, rfl, rfl, List.mem_singleton_self _⟩

lemma after_append {events events' : List FetchEvent} (h : s.after events = some t) :
    s.after (events ++ events') = t.after events' := by
  rw [FetchJob.after, List.foldlM_append]
  exact congrArg (· >>= fun t => t.after events') h

lemma images_directory_inj {other : String} (h : images_directory identity = images_directory other) :
    identity = other := by
  simpa [images_directory] using h

lemma owner?_stopped : (stopped_content 2 (by decide)).owner? = some "a" := rfl

/-- Every cycle with a new identity leaves one more partial download. -/
lemma paused_cycles_after {revisions : List String} (hjob : WaitsCancellable s.job)
    (hnodup : (revisions.map revision_identity).Nodup) (hentries : s.disk.entries = .empty)
    (hfree : ∀ revision ∈ revisions,
      s.disk.partials.get? (images_directory (revision_identity revision)) = none) :
    ∃ t, s.after (revisions.flatMap paused_cycle) = some t ∧ WaitsCancellable t.job ∧
      (∀ key, s.disk.owner? key = some "a" → t.disk.owner? key = some "a") ∧
      ∀ revision ∈ revisions,
        t.disk.owner? (images_directory (revision_identity revision)) = some "a" := by
  induction revisions generalizing s with
  | nil => exact ⟨s, rfl, hjob, fun _ => id, by simp⟩
  | cons revision rest ih =>
    rw [List.map_cons, List.nodup_cons] at hnodup
    have hempty : s.disk.entries.get? (images_directory (revision_identity revision)) = none := by
      rw [hentries]
      rfl
    obtain ⟨u, hcycle, hwaits, hdisk⟩ := paused_cycle_after hjob
      (stopped_call_apply rfl hempty (hfree revision List.mem_cons_self))
    have hrest : ∀ other ∈ rest,
        u.disk.partials.get? (images_directory (revision_identity other)) = none := by
      intro other hother
      rw [hdisk, get?_placed_other]
      · exact hfree other (List.mem_cons_of_mem _ hother)
      · intro hsame
        exact hnodup.1 (images_directory_inj hsame ▸ List.mem_map_of_mem hother)
    obtain ⟨t, hcycles, hwaits', hkept, howned⟩ := ih hwaits hnodup.2 (hdisk ▸ hentries) hrest
    have hown : u.disk.owner? (images_directory (revision_identity revision)) = some "a" := by
      rw [hdisk, CacheDisk.owner?, get?_placed]
      exact owner?_stopped
    have hkeep : ∀ key, s.disk.owner? key = some "a" → u.disk.owner? key = some "a" := by
      intro key hkey
      by_cases hsame : key = images_directory (revision_identity revision)
      · rw [hsame]
        exact hown
      · rw [hdisk, CacheDisk.owner?, get?_placed_other hsame]
        exact hkey
    refine ⟨t, ?_, hwaits', fun key hkey => hkept key (hkeep key hkey), ?_⟩
    · rw [List.flatMap_cons, after_append hcycle]
      exact hcycles
    · exact List.forall_mem_cons.mpr ⟨hkept _ hown, howned⟩

/-! ### A cancellation after nine cycles -/

/-- The step is possible, and its removal is undisturbed. -/
def UndisturbedStep (s : FetchJob) (event : FetchEvent) (t : FetchJob) : Prop :=
  FetchStep s event t ∧ event.Undisturbed s

/-- No removal of the event is disturbed, whatever the state. -/
def FetchEvent.Quiet (event : FetchEvent) : Prop :=
  ∀ s, event.Undisturbed s

lemma quiet_paused_cycle : ∀ event ∈ paused_cycle revision, event.Quiet := by
  intro event hevent s faults reported hremoval
  simp only [paused_cycle, List.mem_cons, List.not_mem_nil, or_false] at hevent
  rcases hevent with rfl | rfl | rfl | rfl | rfl | rfl <;>
    simp_all [FetchEvent.removal]

lemma quiet_cancel : (FetchEvent.act .cancel {} true).Quiet := by
  intro s faults reported hremoval
  obtain ⟨-, h⟩ := Option.ite_none_right_eq_some.mp hremoval
  exact (Prod.mk.inj (Option.some_inj.mp h)).1.symm

lemma run_of_after {events : List FetchEvent} (hquiet : ∀ event ∈ events, event.Quiet)
    (h : s.after events = some t) : Run UndisturbedStep s events t := by
  induction events generalizing s with
  | nil =>
    obtain rfl := Option.some_inj.mp h
    exact .nil
  | cons event rest ih =>
    obtain ⟨u, hstep, hrest⟩ := Option.bind_eq_some_iff.mp h
    obtain ⟨hevent, hothers⟩ := List.forall_mem_cons.mp hquiet
    exact .cons ⟨hstep, hevent s⟩ (ih hothers hrest)

def nine_revisions : List String :=
  (List.range 9).map fun n => String.ofList (List.replicate (n + 1) 'r')

lemma nodup_nine_revisions : (nine_revisions.map revision_identity).Nodup := by
  apply List.Nodup.of_map (fun identity => identity.toList.head?)
  decide +kernel

/-- Nine cycles, and a cancellation. -/
def nine_cycles : List FetchEvent :=
  nine_revisions.flatMap paused_cycle ++ [.act .cancel {} true]

def fresh_fetch : FetchJob where
  job := {
    job_identifier := "job_a"
    status := .queued
    phase := "queued"
    available_actions := [.cancel]
    created_at := 0
    updated_at := 0
    operation := .fetch_dataset
    frozen_settings := .null }

lemma waits_fresh_fetch : WaitsCancellable fresh_fetch.job :=
  ⟨rfl, rfl, rfl, List.mem_singleton_self _⟩

/-- Cancelling a waiting job saves it as cancelled. -/
lemma cancel_step (hjob : WaitsCancellable s.job) :
    ∃ t, FetchStep s (.act .cancel {} true) t ∧ t.job.status = .cancelled := by
  obtain ⟨after, hdiscard, -⟩ := @discard_partials_undisturbed s.label s.disk []
  have hdiscards : action_discards s.job .cancel = true := by
    simp [action_discards, hjob.queued]
  refine ⟨s.discarded {} [] true fun job =>
    { job with
      requested_action := some .cancel, available_actions := [],
      status := .cancelled, phase := "cancelled" }, ?_, ?_⟩
  · rw [FetchStep, FetchEvent.step, if_pos hjob.cancellable, fetch_action_changes,
      if_pos ⟨rfl, Or.inl hjob.queued⟩]
    exact if_pos hdiscards
  · rw [FetchJob.discarded, hdiscard]
    rfl

/-- A job that is paused and resumed with nine revisions has nine partial downloads, and one is left
when it is cancelled. -/
theorem nine_cycles_keep_one :
    ¬ ∀ (start s : FetchJob) (events : List FetchEvent), start.job.status = .queued →
      Unowned start.label start.disk → Run UndisturbedStep start events s →
        s.job.status = .cancelled → Unowned s.label s.disk := by
  intro hremoves
  have hfresh : Unowned fresh_fetch.label fresh_fetch.disk := by
    intro key howned
    exact absurd howned (by simp [fresh_fetch, CacheDisk.owner?])
  obtain ⟨s, hcycles, hwaits, -, howned⟩ := paused_cycles_after waits_fresh_fetch
    nodup_nine_revisions rfl fun _ _ => rfl
  obtain ⟨t, hcancel, hcancelled⟩ := cancel_step hwaits
  have hrun : Run UndisturbedStep fresh_fetch nine_cycles t := by
    refine (run_of_after (fun event hevent => ?_) hcycles).snoc ⟨hcancel, quiet_cancel s⟩
    obtain ⟨revision, -, hmem⟩ := List.mem_flatMap.mp hevent
    exact quiet_paused_cycle event hmem
  have hunowned := hremoves fresh_fetch t nine_cycles rfl hfresh hrun hcancelled
  have hnot : s.job.status ≠ .cancelled := by
    rw [hwaits.queued]
    decide
  have hfinds := (step_cancels hcancel hnot hcancelled (quiet_cancel s)).mp hunowned
  have hlabel : s.label = "a" := by
    rw [FetchJob.label, hwaits.identifier]
    decide
  have hdiscards : action_discards s.job .cancel = true := by
    simp [action_discards, hwaits.queued]
  have hremoval : FetchEvent.removal (.act .cancel {} true) s = some ({}, []) := if_pos hdiscards
  have hkeys : ((nine_revisions.map revision_identity).map images_directory).Nodup :=
    nodup_nine_revisions.map fun _ _ => images_directory_inj
  obtain ⟨key, hkey, hmissed⟩ := @exists_not_foundPartial s.label s.disk _ hkeys (by
    simp [nine_revisions, MAXIMUM_PARTIAL_DIRECTORIES])
  obtain ⟨identity, hidentity, rfl⟩ := List.mem_map.mp hkey
  obtain ⟨revision, hrevision, rfl⟩ := List.mem_map.mp hidentity
  exact hmissed (hfinds {} [] hremoval _ (hlabel ▸ howned revision hrevision))

theorem fresh_fetch_removes_own :
    (∀ events s, Run CompleteStep fresh_fetch events s → s.job.status = .cancelled →
      Unowned s.label s.disk) ∧
    ∀ s event t, FetchStep s event t →
      (event.removal s ≠ none → ∀ directory content, content.owner? ≠ some s.label →
        s.disk.partials.get? directory = some content →
          t.disk.partials.get? directory = some content) ∧
      (s.job.status ≠ .cancelled → t.job.status = .cancelled → event.Undisturbed s →
        (Unowned t.label t.disk ↔ event.FindsOwned s)) :=
  cancelled_removes_own rfl

end NinePartials

end StegoLab

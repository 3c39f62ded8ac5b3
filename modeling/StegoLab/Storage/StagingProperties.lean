import StegoLab.Storage.DatasetWriter

/-!
# Abandoned stages

Whatever a writer leaves in the staging directory is one step of the life of its stage. Recovery
takes every such step back to nothing, and touches nothing else.
-/

namespace StegoLab
namespace DatasetWriter

open Transaction Program

/-! ### Names -/

section Names

variable {suffix name text : String} {run run' : RunName}

lemma split_suffix_eq_some : split_suffix suffix name = some text ↔ name = text ++ suffix := by
  rw [split_suffix]
  constructor
  · intro h
    split_ifs at h with hsuffix
    rw [List.suffix_iff_eq_append, String.length_toList, String.length_toList] at hsuffix
    rw [← Option.some_inj.mp h, ← String.toList_inj, String.toList_append, String.toList_ofList]
    exact hsuffix.symm
  · rintro rfl
    rw [String.toList_append, if_pos (List.suffix_append _ _), Option.some_inj,
      ← String.toList_inj, String.toList_ofList, ← String.length_toList, String.toList_append,
      List.length_append, String.length_toList, String.length_toList, Nat.add_sub_cancel,
      ← String.length_toList, List.take_left]

lemma RunName.length (run : RunName) : run.text.length = 36 := by
  have h := run.matches_pattern
  rw [run_name, Bool.and_eq_true, Bool.and_eq_true] at h
  exact of_decide_eq_true h.2.1

lemma RunName.length_marker (run : RunName) : run.marker.length = 47 := by
  rw [marker, String.length_append, run.length]
  rfl

lemma RunName.length_pending (run : RunName) : run.pending.length = 55 := by
  rw [pending, String.length_append, run.length]
  rfl

@[simp] lemma RunName.text_ne_marker : run.text ≠ run'.marker := by
  intro h
  have hlength := congrArg String.length h
  rw [run.length, run'.length_marker] at hlength
  exact absurd hlength (by simp)

@[simp] lemma RunName.text_ne_pending : run.text ≠ run'.pending := by
  intro h
  have hlength := congrArg String.length h
  rw [run.length, run'.length_pending] at hlength
  exact absurd hlength (by simp)

@[simp] lemma RunName.marker_ne_pending : run.marker ≠ run'.pending := by
  intro h
  have hlength := congrArg String.length h
  rw [run.length_marker, run'.length_pending] at hlength
  exact absurd hlength (by simp)

@[simp] lemma RunName.marker_ne_text : run.marker ≠ run'.text := text_ne_marker.symm

@[simp] lemma RunName.pending_ne_text : run.pending ≠ run'.text := text_ne_pending.symm

@[simp] lemma RunName.pending_ne_marker : run.pending ≠ run'.marker := marker_ne_pending.symm

lemma append_right_inj {s t : String} (h : s ++ suffix = t ++ suffix) : s = t := by
  rw [← String.toList_inj, String.toList_append, String.toList_append] at h
  exact String.toList_inj.mp (List.append_cancel_right h)

lemma RunName.eq_of_text (h : run.text = run'.text) : run = run' := by
  cases run with
  | mk text _ =>
    cases run' with
    | mk text' _ =>
      obtain rfl : text = text' := h
      rfl

lemma RunName.eq_of_marker (h : run.marker = run'.marker) : run = run' :=
  eq_of_text (append_right_inj h)

lemma RunName.split_pending (run : RunName) :
    split_suffix PENDING_SUFFIX run.pending = some run.text :=
  split_suffix_eq_some.mpr rfl

lemma RunName.split_marker (run : RunName) :
    split_suffix OWNER_SUFFIX run.marker = some run.text :=
  split_suffix_eq_some.mpr rfl

/-- A marker does not end like a pending marker. -/
lemma RunName.split_pending_marker (run : RunName) :
    split_suffix PENDING_SUFFIX run.marker = none := by
  rw [Option.eq_none_iff_forall_ne_some]
  intro text h
  rw [split_suffix_eq_some] at h
  have hlast := congrArg (fun name => name.toList.getLast?) h
  rw [marker] at hlast
  simp only [String.toList_append] at hlast
  rw [List.getLast?_append, List.getLast?_append] at hlast
  exact absurd hlast (by simp [OWNER_SUFFIX, PENDING_SUFFIX])

end Names

/-! ### The life of a stage -/

/-- What one run has in the staging directory. -/
inductive StageLife where
  | nothing
  /-- A marker that is being written. -/
  | pending (content : List UInt8) (short : content.length ≤ 1024)
  /-- The marker under both of its names. -/
  | linked
  | marked
  | staged (tree : FileTree)

variable {records : OwnerRecords}

section Layout

variable (records) (run : RunName)

def owner_marker : StagedEntry :=
  .file (records.dumps run.text) true

def StageLife.pending_entry : StageLife → Option StagedEntry
  | .pending content _ => some (.file content true)
  | .linked => some (owner_marker records run)
  | _ => none

def StageLife.marker_entry : StageLife → Option StagedEntry
  | .linked => some (owner_marker records run)
  | .marked => some (owner_marker records run)
  | .staged _ => some (owner_marker records run)
  | _ => none

def StageLife.stage_entry : StageLife → Option StagedEntry
  | .staged tree => some (.directory tree true)
  | _ => none

/-- The staging directory has the entries of strangers, and those of one run. -/
def Layout (foreign : Dict StagedEntry) (life : StageLife) (staging : Dict StagedEntry) : Prop :=
  ∀ name, staging.get? name =
    if name = run.pending then life.pending_entry records run
    else if name = run.marker then life.marker_entry records run
    else if name = run.text then life.stage_entry
    else foreign.get? name

end Layout

/-- No entry has the name of an owner marker. -/
def Unmarked (foreign : Dict StagedEntry) : Prop :=
  ∀ run : RunName, foreign.get? run.marker = none ∧ foreign.get? run.pending = none

section Lives

variable {run : RunName} {foreign staging : Dict StagedEntry} {life : StageLife} {name : String}
  {content : List UInt8} {tree : FileTree}

lemma Layout.pending (h : Layout records run foreign life staging) :
    staging.get? run.pending = life.pending_entry records run := by
  rw [h, if_pos rfl]

lemma Layout.marker (h : Layout records run foreign life staging) :
    staging.get? run.marker = life.marker_entry records run := by
  rw [h, if_neg RunName.marker_ne_pending, if_pos rfl]

lemma Layout.stage (h : Layout records run foreign life staging) :
    staging.get? run.text = life.stage_entry := by
  rw [h, if_neg RunName.text_ne_pending, if_neg RunName.text_ne_marker, if_pos rfl]

lemma Layout.stranger (h : Layout records run foreign life staging) (hpending : name ≠ run.pending)
    (hmarker : name ≠ run.marker) (hstage : name ≠ run.text) :
    staging.get? name = foreign.get? name := by
  rw [h, if_neg hpending, if_neg hmarker, if_neg hstage]

/-- A run that left nothing, or has not begun. -/
lemma layout_nothing (hforeign : Unmarked foreign) (hfresh : foreign.get? run.text = none) :
    Layout records run foreign .nothing foreign := by
  intro name
  split_ifs with hpending hmarker hstage
  · rw [hpending, (hforeign run).2]
    rfl
  · rw [hmarker, (hforeign run).1]
    rfl
  · rw [hstage, hfresh]
    rfl
  · rfl

lemma Layout.eq_foreign (h : Layout records run foreign .nothing staging)
    (hforeign : Unmarked foreign) (hfresh : foreign.get? run.text = none) : staging = foreign := by
  apply Dict.ext_get?
  intro name
  rw [h, ← layout_nothing hforeign hfresh name]

/-! #### Steps -/

/-- A life whose entries are those of another one with one name changed. -/
lemma Layout.change {life' : StageLife} {staging' : Dict StagedEntry} {value : Option StagedEntry}
    (h : Layout records run foreign life staging)
    (hchange : ∀ k, staging'.get? k = if k = name then value else staging.get? k)
    (hpending : life'.pending_entry records run
      = if run.pending = name then value else life.pending_entry records run)
    (hmarker : life'.marker_entry records run
      = if run.marker = name then value else life.marker_entry records run)
    (hstage : life'.stage_entry = if run.text = name then value else life.stage_entry)
    (hname : name = run.pending ∨ name = run.marker ∨ name = run.text) :
    Layout records run foreign life' staging' := by
  intro k
  rw [hchange, h k]
  by_cases hk : k = run.pending
  · rw [if_pos hk, if_pos hk, hpending, hk]
  · rw [if_neg hk, if_neg hk]
    by_cases hk' : k = run.marker
    · rw [if_pos hk', if_pos hk', hmarker, hk']
    · rw [if_neg hk', if_neg hk']
      by_cases hk'' : k = run.text
      · rw [if_pos hk'', if_pos hk'', hstage, hk'']
      · rw [if_neg hk'', if_neg hk'', if_neg]
        rintro rfl
        rcases hname with hname | hname | hname
        · exact hk hname
        · exact hk' hname
        · exact hk'' hname

/-- Before the marker is linked, its pending name can be written again and again. -/
def StageLife.Unlinked : StageLife → Prop
  | .nothing => True
  | .pending _ _ => True
  | _ => False

lemma Layout.put_pending (h : Layout records run foreign life staging) (hlife : life.Unlinked)
    (hshort : content.length ≤ 1024) :
    Layout records run foreign (.pending content hshort)
      (staging.insert run.pending (.file content true)) := by
  apply h.change (fun k => Dict.get?_insert staging run.pending k _)
  · rw [if_pos rfl]
    rfl
  · rw [if_neg RunName.marker_ne_pending]
    cases life <;> first | rfl | exact hlife.elim
  · rw [if_neg RunName.text_ne_pending]
    cases life <;> first | rfl | exact hlife.elim
  · exact Or.inl rfl

lemma Layout.link {hshort : (records.dumps run.text).length ≤ 1024}
    (h : Layout records run foreign (.pending (records.dumps run.text) hshort) staging) :
    Layout records run foreign .linked
      (staging.insert run.marker (.file (records.dumps run.text) true)) := by
  apply h.change (fun k => Dict.get?_insert staging run.marker k _)
  · rw [if_neg RunName.pending_ne_marker]
    rfl
  · rw [if_pos rfl]
    rfl
  · rw [if_neg RunName.text_ne_marker]
    rfl
  · exact Or.inr (Or.inl rfl)

/-- What is left without the pending name. -/
def StageLife.unlink_pending : StageLife → StageLife
  | .pending _ _ => .nothing
  | .linked => .marked
  | life => life

lemma Layout.erase_pending (h : Layout records run foreign life staging) :
    Layout records run foreign life.unlink_pending (staging.erase run.pending) := by
  apply h.change (fun k => Dict.get?_erase staging run.pending k)
  · rw [if_pos rfl]
    cases life <;> rfl
  · rw [if_neg RunName.marker_ne_pending]
    cases life <;> rfl
  · rw [if_neg RunName.text_ne_pending]
    cases life <;> rfl
  · exact Or.inl rfl

lemma Layout.make_stage (h : Layout records run foreign .marked staging) :
    Layout records run foreign (.staged tree)
      (staging.insert run.text (.directory tree true)) := by
  apply h.change (fun k => Dict.get?_insert staging run.text k _)
  · rw [if_neg RunName.pending_ne_text]
    rfl
  · rw [if_neg RunName.marker_ne_text]
    rfl
  · rw [if_pos rfl]
    rfl
  · exact Or.inr (Or.inr rfl)

lemma Layout.edit_stage {tree' : FileTree} (h : Layout records run foreign (.staged tree) staging) :
    Layout records run foreign (.staged tree')
      (staging.insert run.text (.directory tree' true)) := by
  apply h.change (fun k => Dict.get?_insert staging run.text k _)
  · rw [if_neg RunName.pending_ne_text]
    rfl
  · rw [if_neg RunName.marker_ne_text]
    rfl
  · rw [if_pos rfl]
    rfl
  · exact Or.inr (Or.inr rfl)

lemma Layout.erase_stage (h : Layout records run foreign (.staged tree) staging) :
    Layout records run foreign .marked (staging.erase run.text) := by
  apply h.change (fun k => Dict.get?_erase staging run.text k)
  · rw [if_neg RunName.pending_ne_text]
    rfl
  · rw [if_neg RunName.marker_ne_text]
    rfl
  · rw [if_pos rfl]
    rfl
  · exact Or.inr (Or.inr rfl)

/-- What is left without a marker, where no stage needs one. -/
def StageLife.unlink_marker (records : OwnerRecords) (run : RunName) : StageLife → StageLife
  | .linked => .pending (records.dumps run.text) (records.short run.text run.matches_pattern)
  | .marked => .nothing
  | life => life

lemma Layout.erase_marker (h : Layout records run foreign life staging)
    (hlife : life.stage_entry = none) :
    Layout records run foreign (life.unlink_marker records run)
      (staging.erase run.marker) := by
  apply h.change (fun k => Dict.get?_erase staging run.marker k)
  · rw [if_neg RunName.pending_ne_marker]
    cases life <;> rfl
  · rw [if_pos rfl]
    cases life with
    | staged tree => exact absurd hlife (by simp [StageLife.stage_entry])
    | _ => rfl
  · rw [if_neg RunName.text_ne_marker]
    cases life <;> rfl
  · exact Or.inr (Or.inl rfl)

end Lives

/-! ### Removal -/

section Contracts

variable (records) (run : RunName) (foreign : Dict StagedEntry) (before : WriterState)

/-- A life in the staging directory, and nothing else changed. -/
def Holding (life : StageLife) (s : WriterState) : Prop :=
  Layout records run foreign life s.staging ∧ s.edit_staging (fun _ => before.staging) = before

/-- Any life in the staging directory. -/
def Surviving (s : WriterState) : Prop :=
  ∃ life, Holding records run foreign before life s

variable {records run foreign before} {life : StageLife} {s : WriterState} {tree : FileTree}

lemma Holding.edit {life' : StageLife} {f : Dict StagedEntry → Dict StagedEntry}
    (h : Holding records run foreign before life s)
    (hlayout : Layout records run foreign life' (f s.staging)) :
    Holding records run foreign before life' (s.edit_staging f) :=
  ⟨hlayout, h.2⟩

lemma Holding.survives (h : Holding records run foreign before life s) :
    Surviving records run foreign before s := ⟨life, h⟩

lemma contract_removal_errors {α : Type} {program : WriterProgram α} {P R : WriterState → Prop}
    {Q : α → WriterState → Prop} (h : Contract P program Q fun _ => R) :
    Contract P (removal_errors program) Q fun _ => R := by
  apply contract_translate h
  intro e
  cases e with
  | raised exception => cases exception <;> exact ⟨_, rfl⟩
  | download_stopped => exact ⟨_, rfl⟩
  | archive_error => exact ⟨_, rfl⟩

/-- What is left without the stage directory. -/
def StageLife.without_stage : StageLife → StageLife
  | .staged _ => .marked
  | life => life

lemma StageLife.stage_entry_without_stage : life.without_stage.stage_entry = none := by
  cases life <;> rfl

lemma contract_remove_stage_directory {faults : RemovalFaults} :
    Contract (Holding records run foreign before life) (remove_stage_directory faults run.text)
      (fun _ => Holding records run foreign before life.without_stage)
      fun _ s => faults ≠ {} ∧ Surviving records run foreign before s := by
  apply contract_read_bind
  intro s hs
  rw [hs.1.stage]
  cases life with
  | staged tree =>
    apply Contract.bind (Q := fun _ => (· = s))
    · apply contract_inspect
      rintro hfault e _ rfl
      refine ⟨?_, hs.survives⟩
      rintro rfl
      exact hfault rfl
    · intro _
      apply contract_operation
      · rintro _ rfl
        exact hs.edit hs.1.erase_stage
      · rintro reached hreached e _ rfl
        refine ⟨?_, .staged (tree.restrict reached), ?_⟩
        · rintro rfl
          exact Fault.not_stops_none hreached
        · rw [restrict_stage, hs.1.stage]
          exact hs.edit hs.1.edit_stage
  | nothing => exact .pure fun t ht => ht ▸ hs
  | pending content short => exact .pure fun t ht => ht ▸ hs
  | linked => exact .pure fun t ht => ht ▸ hs
  | marked => exact .pure fun t ht => ht ▸ hs

/-- A marked stage is removed with its marker, or stays marked. -/
lemma contract_remove_owned_stage {faults : RemovalFaults}
    (hmarked : life.marker_entry records run = some (owner_marker records run)) :
    Contract (Holding records run foreign before life)
      (remove_owned_stage records faults run.text run.marker)
      (fun _ => Holding records run foreign before (life.without_stage.unlink_marker records run))
      fun _ s => faults ≠ {} ∧ Surviving records run foreign before s := by
  apply contract_removal_errors
  apply Contract.bind (Q := fun _ => Holding records run foreign before life)
  · apply contract_inspect
    intro hfault e s hs
    refine ⟨?_, hs.survives⟩
    rintro rfl
    exact hfault rfl
  intro _
  apply contract_read_bind
  intro s hs
  have hshort := records.short run.text run.matches_pattern
  have hcontent : owner_content (s.staging.get? run.marker) = .ok (records.dumps run.text) := by
    rw [hs.1.marker, hmarked, owner_marker, owner_content, if_pos hshort]
  apply contract_attempt_bind hcontent
  apply Contract.bind (Q := fun _ => Holding records run foreign before life)
  · apply (contract_inspect ?_).strengthen fun t ht => ht ▸ hs
    intro hfault e t ht
    refine ⟨?_, ht.survives⟩
    rintro rfl
    exact hfault rfl
  intro _
  have hcheck : check_owner records (records.dumps run.text) run.text = .ok () := by
    rw [check_owner, records.round_trip]
  apply contract_attempt_bind hcheck
  apply contract_remove_stage_directory.bind
  intro _
  apply contract_atomically
  · intro t ht
    exact ht.edit (ht.1.erase_marker StageLife.stage_entry_without_stage)
  · intro hfault e t ht
    refine ⟨?_, ht.survives⟩
    rintro rfl
    exact hfault rfl

/-! ### Recovery -/

variable {call : RecoveryCall} {name : String} {names : List String} {number : ℕ}

/-- Nothing goes wrong in a recovery. -/
structure RecoveryCall.Quiet (call : RecoveryCall) : Prop where
  listing : call.listing = .none
  examining : ∀ name, call.examining name = .none
  unlinking : ∀ name, call.unlinking name = .none
  removal : ∀ name, call.removal name = {}

/-- A name that recovery passes over. -/
def Stranger (name : String) : Prop :=
  ∀ run : RunName, name ≠ run.marker ∧ name ≠ run.pending

lemma recover_entry_stranger (h : Stranger name) :
    recover_entry records call name = pure () := by
  unfold recover_entry
  cases hpending : split_suffix PENDING_SUFFIX name with
  | some text =>
    by_cases hrun : run_name text = true
    · exact absurd (split_suffix_eq_some.mp hpending) (h ⟨text, hrun⟩).2
    · exact if_neg hrun
  | none =>
    dsimp only
    cases hmarker : split_suffix OWNER_SUFFIX name with
    | some text =>
      by_cases hrun : run_name text = true
      · exact absurd (split_suffix_eq_some.mp hmarker) (h ⟨text, hrun⟩).1
      · exact if_neg hrun
    | none => rfl

lemma recover_entry_pending :
    recover_entry records call run.pending = recover_pending call run.text run.pending := by
  unfold recover_entry
  rw [run.split_pending]
  exact if_pos run.matches_pattern

lemma recover_entry_marker :
    recover_entry records call run.marker
      = remove_owned_stage records (call.removal run.marker) run.text run.marker := by
  unfold recover_entry
  rw [run.split_pending_marker, run.split_marker]
  exact if_pos run.matches_pattern

/-- A pending marker has no stage and is small. -/
lemma Layout.check_pending {staging : Dict StagedEntry}
    (h : Layout records run foreign life staging)
    (hpending : (life.pending_entry records run).isSome) :
    check_pending staging run.text run.pending = .ok () := by
  have hcheck : ∀ content : List UInt8, content.length ≤ 1024 →
      staging.get? run.pending = some (.file content true) → staging.get? run.text = none →
      DatasetWriter.check_pending staging run.text run.pending = .ok () := by
    intro content hshort hentry hstage
    rw [DatasetWriter.check_pending, hentry]
    dsimp only
    rw [hstage, raise_if_eq_ok, not_or]
    exact ⟨not_lt.mpr hshort, by simp⟩
  cases life with
  | nothing => exact absurd hpending (by simp [StageLife.pending_entry])
  | pending content short => exact hcheck content short h.pending h.stage
  | linked =>
    exact hcheck (records.dumps run.text) (records.short run.text run.matches_pattern) h.pending
      h.stage
  | marked => exact absurd hpending (by simp [StageLife.pending_entry])
  | staged tree => exact absurd hpending (by simp [StageLife.pending_entry])

lemma contract_recover_pending (hpending : (life.pending_entry records run).isSome) :
    Contract (Holding records run foreign before life)
      (recover_pending call run.text run.pending)
      (fun _ => Holding records run foreign before life.unlink_pending)
      fun _ s => ¬ call.Quiet ∧ Surviving records run foreign before s := by
  apply Contract.bind (Q := fun _ => Holding records run foreign before life)
  · apply contract_inspect
    intro hfault e s hs
    exact ⟨fun hquiet => hfault (hquiet.examining _), hs.survives⟩
  intro _
  apply contract_read_bind
  intro s hs
  apply contract_attempt_bind (hs.1.check_pending hpending)
  apply contract_atomically
  · rintro t rfl
    exact hs.edit hs.1.erase_pending
  · rintro hfault e t rfl
    exact ⟨fun hquiet => hfault (hquiet.unlinking _), hs.survives⟩

/-- The entries that are still to come are strangers and what the run has left. -/
structure Listed (records : OwnerRecords) (run : RunName) (life : StageLife)
    (names : List String) : Prop where
  nodup : names.Nodup
  pending : run.pending ∈ names ↔ (life.pending_entry records run).isSome
  marker : run.marker ∈ names ↔ (life.marker_entry records run).isSome
  stranger : ∀ name ∈ names, name = run.pending ∨ name = run.marker ∨ Stranger name

lemma marker_of_isSome (h : (life.marker_entry records run).isSome) :
    life.marker_entry records run = some (owner_marker records run) := by
  cases life with
  | nothing => exact absurd h (by simp [StageLife.marker_entry])
  | pending content short => exact absurd h (by simp [StageLife.marker_entry])
  | linked => rfl
  | marked => rfl
  | staged tree => rfl

/-- A life without a name is over. -/
lemma eq_nothing (hpending : ¬ (life.pending_entry records run).isSome)
    (hmarker : ¬ (life.marker_entry records run).isSome) : life = .nothing := by
  cases life with
  | nothing => rfl
  | pending content short => exact absurd rfl hpending
  | linked => exact absurd rfl hpending
  | marked => exact absurd rfl hmarker
  | staged tree => exact absurd rfl hmarker

lemma Listed.unlink_pending (h : Listed records run life (run.pending :: names)) :
    Listed records run life.unlink_pending names where
  nodup := (List.nodup_cons.mp h.nodup).2
  pending := by
    constructor
    · exact fun hmem => absurd hmem (List.nodup_cons.mp h.nodup).1
    · intro hsome
      cases life <;> exact absurd hsome (by simp [StageLife.unlink_pending, StageLife.pending_entry])
  marker := by
    have hentry : life.unlink_pending.marker_entry records run = life.marker_entry records run := by
      cases life <;> rfl
    rw [hentry, ← h.marker, List.mem_cons, or_iff_right RunName.marker_ne_pending]
  stranger name hname := h.stranger name (List.mem_cons_of_mem _ hname)

lemma Listed.unlink_marker (h : Listed records run life (run.marker :: names)) :
    Listed records run (life.without_stage.unlink_marker records run) names where
  nodup := (List.nodup_cons.mp h.nodup).2
  pending := by
    have hsome : ((life.without_stage.unlink_marker records run).pending_entry records run).isSome
        = (life.pending_entry records run).isSome := by
      cases life <;> rfl
    rw [hsome, ← h.pending, List.mem_cons, or_iff_right RunName.pending_ne_marker]
  marker := by
    constructor
    · exact fun hmem => absurd hmem (List.nodup_cons.mp h.nodup).1
    · intro hsome
      cases life <;> exact absurd hsome
        (by simp [StageLife.without_stage, StageLife.unlink_marker, StageLife.marker_entry])
  stranger name hname := h.stranger name (List.mem_cons_of_mem _ hname)

lemma Listed.pass (h : Listed records run life (name :: names)) (hname : Stranger name) :
    Listed records run life names where
  nodup := (List.nodup_cons.mp h.nodup).2
  pending := by
    rw [← h.pending, List.mem_cons, or_iff_right (hname run).2.symm]
  marker := by
    rw [← h.marker, List.mem_cons, or_iff_right (hname run).1.symm]
  stranger name hname := h.stranger name (List.mem_cons_of_mem _ hname)

/-- One entry after another, until nothing is left of the run. -/
lemma contract_recover_entries (hlisted : Listed records run life names) :
    Contract (Holding records run foreign before life) (recover_entries records call number names)
      (fun _ => Holding records run foreign before .nothing)
      fun _ s => ¬ (call.Quiet ∧ number + names.length ≤ MAXIMUM_STAGED_ENTRIES + 1)
        ∧ Surviving records run foreign before s := by
  induction names generalizing number life with
  | nil =>
    have hnothing : life = .nothing := by
      apply @eq_nothing records run life
      · exact fun hsome => absurd (hlisted.pending.mpr hsome) List.not_mem_nil
      · exact fun hsome => absurd (hlisted.marker.mpr hsome) List.not_mem_nil
    exact .pure fun s hs => hnothing ▸ hs
  | cons name names ih =>
    have hrest : number + (name :: names).length = number + 1 + names.length := by
      rw [List.length_cons]
      omega
    apply Contract.bind (Q := fun _ => Holding records run foreign before life)
    · apply contract_attempt
      · exact fun _ _ s hs => hs
      · intro e he s hs
        refine ⟨?_, hs.survives⟩
        rintro ⟨-, hle⟩
        rw [raise_if, if_neg (by omega)] at he
        exact absurd he (by simp)
    intro _
    have hloop : ∀ life', Listed records run life' names →
        Contract (Holding records run foreign before life')
          (recover_entries records call (number + 1) names)
          (fun _ => Holding records run foreign before .nothing)
          fun _ s => ¬ (call.Quiet ∧ number + (name :: names).length ≤ MAXIMUM_STAGED_ENTRIES + 1)
            ∧ Surviving records run foreign before s := by
      intro life' hlife'
      rw [hrest]
      exact ih hlife'
    rcases hlisted.stranger name List.mem_cons_self with rfl | rfl | hstranger
    · have hsome := hlisted.pending.mp List.mem_cons_self
      rw [recover_entry_pending]
      apply Contract.bind (Q := fun _ => Holding records run foreign before life.unlink_pending)
      · apply (contract_recover_pending hsome).mono (fun _ => id) fun _ _ => id
        exact fun e s hs => ⟨fun hquiet => hs.1 hquiet.1, hs.2⟩
      · exact fun _ => hloop _ hlisted.unlink_pending
    · have hsome := marker_of_isSome (hlisted.marker.mp List.mem_cons_self)
      rw [recover_entry_marker]
      apply Contract.bind (Q := fun _ => Holding records run foreign before
        (life.without_stage.unlink_marker records run))
      · apply (contract_remove_owned_stage hsome).mono (fun _ => id) fun _ _ => id
        exact fun e s hs => ⟨fun hquiet => hs.1 (hquiet.1.removal _), hs.2⟩
      · exact fun _ => hloop _ hlisted.unlink_marker
    · rw [recover_entry_stranger hstranger]
      exact hloop _ (hlisted.pass hstranger)

/-- The names in a staging directory with one life in it. -/
lemma Layout.listed {staging : Dict StagedEntry} {order : Listing}
    (h : Layout records run foreign life staging) (hforeign : Unmarked foreign) :
    Listed records run life (order.order (staging.entries.map Prod.fst)) where
  nodup := (order.order_perm _).nodup_iff.mpr staging.nodup_keys
  pending := by
    rw [(order.order_perm _).mem_iff, Dict.mem_keys, h.pending]
  marker := by
    rw [(order.order_perm _).mem_iff, Dict.mem_keys, h.marker]
  stranger name hname := by
    rw [(order.order_perm _).mem_iff, Dict.mem_keys] at hname
    by_cases hpending : name = run.pending
    · exact Or.inl hpending
    by_cases hmarker : name = run.marker
    · exact Or.inr (Or.inl hmarker)
    apply Or.inr
    apply Or.inr
    intro run'
    by_cases hstage : name = run.text
    · rw [hstage]
      exact ⟨RunName.text_ne_marker, RunName.text_ne_pending⟩
    · rw [h.stranger hpending hmarker hstage] at hname
      constructor
      · rintro rfl
        rw [(hforeign run').1] at hname
        exact absurd hname (by simp)
      · rintro rfl
        rw [(hforeign run').2] at hname
        exact absurd hname (by simp)

/-- Recovery leaves nothing of an abandoned run. -/
lemma contract_recover_staging (hforeign : Unmarked foreign) :
    Contract (Holding records run foreign before life) (recover_staging records call)
      (fun _ => Holding records run foreign before .nothing)
      fun _ s => ¬ (call.Quiet ∧ ∀ s, Holding records run foreign before life s →
          s.staging.entries.length ≤ MAXIMUM_STAGED_ENTRIES)
        ∧ Surviving records run foreign before s := by
  apply Contract.bind (Q := fun _ => Holding records run foreign before life)
  · apply contract_inspect
    intro hfault e s hs
    exact ⟨fun hquiet => hfault hquiet.1.listing, hs.survives⟩
  intro _
  apply contract_read_bind
  intro s hs
  apply (contract_recover_entries (hs.1.listed hforeign)).mono
  · rintro t rfl
    exact hs
  · exact fun _ _ => id
  · rintro e t ⟨hnoise, hleft⟩
    refine ⟨?_, hleft⟩
    rintro ⟨hquiet, hfew⟩
    apply hnoise
    refine ⟨hquiet, ?_⟩
    rw [(call.listed.order_perm _).length_eq, List.length_map, Nat.add_comm]
    exact Nat.succ_le_succ (hfew s hs)

/-! ### Owner markers -/

variable {faults : MarkerFaults} {content : List UInt8}

lemma Holding.put_pending (h : Holding records run foreign before life s) (hlife : life.Unlinked)
    (hshort : content.length ≤ 1024) :
    Holding records run foreign before (.pending content hshort) (put_pending run content s) :=
  h.edit (h.1.put_pending hlife hshort)

/-- The marker is written under its pending name. -/
lemma contract_write_pending :
    Contract (Holding records run foreign before .nothing) (write_pending records faults run)
      (fun _ => Holding records run foreign before
        (.pending (records.dumps run.text) (records.short run.text run.matches_pattern)))
      fun _ s => faults ≠ {} ∧ Surviving records run foreign before s := by
  have hshort := records.short run.text run.matches_pattern
  apply contract_read_bind
  intro s hs
  have hnew : raise_if ((s.staging.get? run.pending).isSome = true) WriterException.os_error = .ok () := by
    rw [raise_if_eq_ok, hs.1.pending]
    simp [StageLife.pending_entry]
  apply contract_attempt_bind hnew
  apply Contract.bind (Q := fun _ => Holding records run foreign before (.pending [] (by simp)))
  · apply contract_atomically
    · rintro t rfl
      exact hs.put_pending trivial _
    · rintro hfault e t rfl
      refine ⟨?_, hs.survives⟩
      rintro rfl
      exact hfault rfl
  intro _
  apply Contract.bind (Q := fun _ => Holding records run foreign before
    (.pending (records.dumps run.text) hshort))
  · apply contract_operation
    · exact fun t ht => ht.put_pending trivial hshort
    · intro reached hreached e t ht
      have htake : ((records.dumps run.text).take reached).length ≤ 1024 :=
        (List.length_take_le' reached _).trans hshort
      refine ⟨?_, (ht.put_pending trivial htake).survives⟩
      rintro rfl
      exact Fault.not_stops_none hreached
  intro _
  apply contract_inspect
  intro hfault e t ht
  refine ⟨?_, ht.survives⟩
  rintro rfl
  exact hfault rfl

lemma contract_link_marker :
    Contract
      (Holding records run foreign before
        (.pending (records.dumps run.text) (records.short run.text run.matches_pattern)))
      (link_marker faults run)
      (fun _ => Holding records run foreign before .linked)
      fun _ s => faults ≠ {} ∧ Surviving records run foreign before s := by
  apply contract_read_bind
  intro s hs
  have hnew : raise_if ((s.staging.get? run.marker).isSome = true) WriterException.os_error = .ok () := by
    rw [raise_if_eq_ok, hs.1.marker]
    simp [StageLife.marker_entry]
  apply contract_attempt_bind hnew
  apply contract_atomically
  · rintro t rfl
    rw [hs.1.pending]
    exact hs.edit hs.1.link
  · rintro hfault e t rfl
    refine ⟨?_, hs.survives⟩
    rintro rfl
    exact hfault rfl

/-- The marker is there as a whole before the stage is. -/
lemma contract_create_owner_marker :
    Contract (Holding records run foreign before .nothing)
      (create_owner_marker records faults run)
      (fun _ => Holding records run foreign before .marked)
      fun _ s => faults ≠ {} ∧ Surviving records run foreign before s := by
  apply Contract.bind (Q := fun _ => Holding records run foreign before .marked)
  · apply contract_finally_do (contract_write_pending.bind fun _ => contract_link_marker)
    · intro _
      apply contract_atomically
      · exact fun t ht => ht.edit ht.1.erase_pending
      · intro hfault e t ht
        refine ⟨?_, ht.survives⟩
        rintro rfl
        exact hfault rfl
    · intro e
      apply contract_atomically
      · rintro t ⟨hfaults, life, ht⟩
        exact ⟨hfaults, (ht.edit ht.1.erase_pending).survives⟩
      · exact fun _ _ t ht => ht
    · exact fun t ht => ht
  · intro _
    apply contract_inspect
    intro hfault e t ht
    refine ⟨?_, ht.survives⟩
    rintro rfl
    exact hfault rfl

end Contracts

end DatasetWriter
end StegoLab

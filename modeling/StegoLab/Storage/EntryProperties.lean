import StegoLab.Storage.StagingProperties

/-!
# Entries and exits of a dataset writer

An entry of a writer ends with a new stage next to the strangers of the staging directory, whatever
an earlier writer has left there. An exit, and an entry that fails, leave one life at most.
-/

namespace StegoLab
namespace DatasetWriter

open Transaction Program

variable {records : OwnerRecords} {writer : DatasetWriter} {run : RunName}
  {foreign staging : Dict StagedEntry} {life : StageLife} {s before : WriterState}
  {root tree : FileTree} {call : EnterCall} {name : String}

/-! ### Entries of the staging directory -/

/-- The names of one life. -/
def StageLife.names (run : RunName) : StageLife → List String
  | .nothing => []
  | .pending _ _ => [run.pending]
  | .linked => [run.pending, run.marker]
  | .marked => [run.marker]
  | .staged _ => [run.marker, run.text]

lemma StageLife.length_names : (life.names run).length ≤ 2 := by
  cases life <;> simp [names]

lemma Layout.mem_names (h : Layout records run foreign life staging)
    (hname : name ∈ staging.entries.map Prod.fst) :
    name ∈ life.names run ++ foreign.entries.map Prod.fst := by
  rw [Dict.mem_keys] at hname
  rw [List.mem_append]
  by_cases hpending : name = run.pending
  · apply Or.inl
    rw [hpending, h.pending] at hname
    cases life with
    | pending content short => simp [StageLife.names, hpending]
    | linked => simp [StageLife.names, hpending]
    | _ => exact absurd hname (by simp [StageLife.pending_entry])
  by_cases hmarker : name = run.marker
  · apply Or.inl
    rw [hmarker, h.marker] at hname
    cases life with
    | nothing => exact absurd hname (by simp [StageLife.marker_entry])
    | pending content short => exact absurd hname (by simp [StageLife.marker_entry])
    | _ => simp [StageLife.names, hmarker]
  by_cases hstage : name = run.text
  · apply Or.inl
    rw [hstage, h.stage] at hname
    cases life with
    | staged tree => simp [StageLife.names, hstage]
    | _ => exact absurd hname (by simp [StageLife.stage_entry])
  · apply Or.inr
    rw [Dict.mem_keys, ← h.stranger hpending hmarker hstage]
    exact hname

/-- At most two entries are not those of strangers. -/
lemma Layout.length_entries (h : Layout records run foreign life staging) :
    staging.entries.length ≤ foreign.entries.length + 2 := by
  have hsubset : (staging.entries.map Prod.fst) ⊆ life.names run ++ foreign.entries.map Prod.fst :=
    fun _ => h.mem_names
  have hlength := (staging.nodup_keys.subperm hsubset).length_le
  rw [List.length_append, List.length_map, List.length_map] at hlength
  have hnames := @StageLife.length_names run life
  omega

/-! ### What sessions leave -/

/-- At most one life among the strangers, and an output root as given. -/
def Left (records : OwnerRecords) (foreign : Dict StagedEntry) (root : FileTree)
    (s : WriterState) : Prop :=
  s.root = root ∧ ∃ run life, foreign.get? run.text = none ∧ Layout records run foreign life s.staging

/-- A stage that its writer can write to. -/
structure Working (records : OwnerRecords) (writer : DatasetWriter) (foreign : Dict StagedEntry)
    (root : FileTree) (charged : Prop) (tree : FileTree) (s : WriterState) : Prop where
  layout : Layout records writer.run foreign (.staged tree) s.staging
  root : s.root = root
  locked : s.locked = true
  unpublished : s.published = false
  affordable : s.authorized_bytes ≤ writer.maximum_prepared_bytes
  budget : charged → tree.HoldsAtMost s.authorized_bytes

lemma Holding.root_eq (h : Holding records run foreign before life s) : s.root = before.root :=
  congrArg (fun s => s.root) h.2

lemma Surviving.left (h : Surviving records run foreign before s)
    (hfresh : foreign.get? run.text = none) : Left records foreign before.root s := by
  obtain ⟨life, hlife⟩ := h
  exact ⟨hlife.root_eq, run, life, hfresh, hlife.1⟩

lemma Holding.left (h : Holding records run foreign before life s)
    (hfresh : foreign.get? run.text = none) : Left records foreign before.root s :=
  h.survives.left hfresh

/-- A run that left nothing is not told from another one. -/
lemma Holding.renew {run' : RunName} (h : Holding records run foreign before .nothing s)
    (hforeign : Unmarked foreign) (hfresh : foreign.get? run.text = none)
    (hfresh' : foreign.get? run'.text = none) :
    Holding records run' foreign before .nothing s := by
  refine ⟨?_, h.2⟩
  rw [h.1.eq_foreign hforeign hfresh]
  exact layout_nothing hforeign hfresh'

/-! ### Cleaning up -/

lemma marker_entry_of_layout {run' : RunName} (h : Layout records run foreign life staging)
    (hforeign : Unmarked foreign) (hmarker : (staging.get? run'.marker).isSome) :
    run' = run ∧ life.marker_entry records run = some (owner_marker records run) := by
  by_cases hrun : run' = run
  · subst hrun
    rw [h.marker] at hmarker
    exact ⟨rfl, marker_of_isSome hmarker⟩
  · rw [h.stranger RunName.marker_ne_pending (fun heq => hrun (RunName.eq_of_marker heq))
      RunName.marker_ne_text, (hforeign run').1] at hmarker
    exact absurd hmarker (by simp)

/-- A removal after a failure leaves one life again. -/
lemma contract_remove_left {faults : RemovalFaults} (hforeign : Unmarked foreign) :
    Contract
      (fun s => Left records foreign root s ∧ (s.staging.get? writer.run.marker).isSome)
      (remove_owned_stage records faults writer.run.text writer.run.marker)
      (fun _ => Left records foreign root) fun _ => Left records foreign root := by
  apply Contract.from_each
  rintro s ⟨⟨rfl, run, life, hfresh, hlayout⟩, hmarker⟩
  obtain ⟨hrun, hmarked⟩ := marker_entry_of_layout hlayout hforeign hmarker
  subst hrun
  apply (@contract_remove_owned_stage records writer.run foreign s life faults hmarked).mono
  · rintro t rfl
    exact ⟨hlayout, rfl⟩
  · exact fun _ t ht => ht.left hfresh
  · exact fun _ t ht => ht.2.left hfresh

lemma contract_release_lock {P : WriterState → Prop} {R : Stop WriterException → WriterState → Prop}
    (h : ∀ s, P s → P { s with locked := false }) :
    Contract P release_lock (fun _ => P) R :=
  contract_atomically h fun hfault => absurd rfl hfault

lemma left_release : Left records foreign root s →
    Left records foreign root { s with locked := false } :=
  id

/-- Without a marker, the new writer has no stage either. -/
lemma contract_clean_entry (hforeign : Unmarked foreign)
    (hfresh : foreign.get? writer.run.text = none) :
    Contract (Left records foreign root) (clean_entry records writer call)
      (fun _ => Left records foreign root) fun _ => Left records foreign root := by
  apply contract_read_bind
  intro s hs
  apply Contract.ite
  · intro hmarker
    apply (contract_remove_left hforeign).strengthen
    rintro t rfl
    exact ⟨hs, hmarker⟩
  · intro hmarker
    have hstage : s.staging.get? writer.run.text = none := by
      obtain ⟨-, run, life, -, hlayout⟩ := hs
      by_cases hrun : writer.run = run
      · subst hrun
        rw [hlayout.stage]
        rw [hlayout.marker] at hmarker
        cases life with
        | staged tree => exact absurd rfl hmarker
        | _ => rfl
      · rw [hlayout.stranger RunName.text_ne_pending RunName.text_ne_marker
          fun heq => hrun (RunName.eq_of_text heq)]
        exact hfresh
    rw [if_neg (by simp [hstage])]
    apply Contract.pure
    rintro t rfl
    exact hs

lemma contract_entry_failed {e : WriterException} (hforeign : Unmarked foreign)
    (hfresh : foreign.get? writer.run.text = none) {Q : Unit → WriterState → Prop} :
    Contract (Left records foreign root)
      (do
        finally_do (clean_entry records writer call) release_lock
        raise (if e = .os_error then storage_failure else e))
      Q fun _ => Left records foreign root := by
  apply Contract.bind
  · apply contract_finally (contract_clean_entry hforeign hfresh)
    · exact fun _ => contract_release_lock fun _ => left_release
    · exact fun _ => contract_release_lock fun _ => left_release
  · exact fun _ => contract_raise fun _ => id

/-! ### Entering -/

/-- Nothing goes wrong in an entry. -/
structure EnterCall.Quiet (call : EnterCall) : Prop where
  validating : call.validating = .none
  opening : call.opening = .none
  lock_regular : call.lock_regular = true
  idle : call.busy = false
  preparing : call.preparing = .none
  recovery : call.recovery.Quiet
  reserve : ensure_disk_reserve call.usage 1024 = .ok ()
  marker : call.marker = {}
  making : call.making = .none
  flushing : call.flushing = .none

/-- An entry that has to succeed. -/
structure Enterable (writer : DatasetWriter) (call : EnterCall) (foreign : Dict StagedEntry) :
    Prop where
  quiet : call.Quiet
  apart : validate_source_output writer = .ok ()
  few : foreign.entries.length + 2 ≤ MAXIMUM_STAGED_ENTRIES

lemma contract_acquire_lock :
    Contract (Holding records run foreign before life) (acquire_lock call)
      (fun _ => Holding records run foreign { before with locked := true } life)
      fun _ s => ¬ call.Quiet ∧ ∃ locked,
        Surviving records run foreign { before with locked := locked } s := by
  have hlocked : ∀ s, Holding records run foreign before life s →
      Holding records run foreign { before with locked := true } life
        { s with locked := true } := by
    intro s hs
    exact ⟨hs.1, congrArg (fun s : WriterState => { s with locked := true }) hs.2⟩
  apply Contract.bind (Q := fun _ => Holding records run foreign before life)
  · apply contract_inspect
    intro hfault e s hs
    exact ⟨fun hquiet => hfault hquiet.opening, before.locked, hs.survives⟩
  intro _
  apply Contract.bind (Q := fun _ => Holding records run foreign { before with locked := true } life)
  · exact contract_atomically hlocked fun hfault => absurd rfl hfault
  intro _
  apply Contract.bind (Q := fun _ => Holding records run foreign { before with locked := true } life)
  · apply contract_attempt
    · exact fun _ _ s hs => hs
    · intro e he s hs
      refine ⟨?_, true, hs.survives⟩
      intro hquiet
      rw [hquiet.lock_regular] at he
      exact absurd he (by simp [raise_if])
  intro _
  apply contract_attempt
  · exact fun _ _ s hs => hs
  · intro e he s hs
    refine ⟨?_, true, hs.survives⟩
    intro hquiet
    rw [hquiet.idle] at he
    exact absurd he (by simp [raise_if])

lemma contract_make_stage {fault : Fault Unit} :
    Contract (Holding records writer.run foreign before .marked) (make_stage writer fault)
      (fun _ => Holding records writer.run foreign before (.staged .empty))
      fun _ s => fault ≠ .none ∧ Surviving records writer.run foreign before s := by
  apply contract_read_bind
  intro s hs
  have hnew : raise_if ((s.staging.get? writer.run.text).isSome = true) WriterException.os_error
      = .ok () := by
    rw [raise_if_eq_ok, hs.1.stage]
    simp [StageLife.stage_entry]
  apply contract_attempt_bind hnew
  apply contract_atomically
  · rintro t rfl
    exact hs.edit hs.1.make_stage
  · rintro hfault e t rfl
    exact ⟨hfault, hs.survives⟩

/-- The new stage, as its writer finds it. -/
lemma Holding.working {charged : Prop}
    (h : Holding records writer.run foreign { before with locked := true } (.staged .empty) s)
    (hbytes : before.authorized_bytes = 0) (hpublished : before.published = false) :
    Working records writer foreign before.root charged .empty s where
  layout := h.1
  root := h.root_eq
  locked := congrArg (fun s => s.locked) h.2
  unpublished := (congrArg (fun s => s.published) h.2).trans hpublished
  affordable := by
    have hcharged : s.authorized_bytes = before.authorized_bytes :=
      congrArg (fun s => s.authorized_bytes) h.2
    rw [hcharged, hbytes]
    exact Nat.zero_le _
  budget _ := FileTree.holdsAtMost_empty.mono (Nat.zero_le _)

/-- Behind the lock, whatever an earlier run has left gives way to a new stage. -/
lemma contract_enter_locked (hforeign : Unmarked foreign)
    (hfresh : foreign.get? writer.run.text = none) (hfresh' : foreign.get? run.text = none) :
    Contract (Holding records run foreign before life)
      (do
        inspect call.preparing access_failure
        recover_staging records call.recovery
        attempt ((ensure_disk_reserve call.usage 1024).mapError .raised)
        create_owner_marker records call.marker writer.run
        make_stage writer call.making
        inspect call.flushing access_failure)
      (fun _ => Holding records writer.run foreign before (.staged .empty))
      fun _ s => ¬ Enterable writer call foreign ∧ Left records foreign before.root s := by
  apply Contract.bind (Q := fun _ => Holding records run foreign before life)
  · apply contract_inspect
    intro hfault e s hs
    exact ⟨fun henter => hfault henter.quiet.preparing, hs.left hfresh'⟩
  intro _
  apply Contract.bind (Q := fun _ => Holding records writer.run foreign before .nothing)
  · apply (contract_recover_staging hforeign).mono (fun _ => id)
    · exact fun _ s hs => hs.renew hforeign hfresh' hfresh
    · rintro e s ⟨hnoise, hs⟩
      refine ⟨?_, hs.left hfresh'⟩
      intro henter
      apply hnoise
      refine ⟨henter.quiet.recovery, ?_⟩
      intro t ht
      exact ht.1.length_entries.trans henter.few
  intro _
  apply Contract.bind (Q := fun _ => Holding records writer.run foreign before .nothing)
  · apply contract_attempt
    · exact fun _ _ s hs => hs
    · intro e he s hs
      refine ⟨?_, hs.left hfresh⟩
      intro henter
      rw [henter.quiet.reserve] at he
      exact absurd he (by simp [Except.mapError])
  intro _
  apply Contract.bind (Q := fun _ => Holding records writer.run foreign before .marked)
  · apply contract_create_owner_marker.mono (fun _ => id) fun _ _ => id
    rintro e s ⟨hfaults, hs⟩
    exact ⟨fun henter => hfaults henter.quiet.marker, hs.left hfresh⟩
  intro _
  apply Contract.bind (Q := fun _ => Holding records writer.run foreign before (.staged .empty))
  · apply contract_make_stage.mono (fun _ => id) fun _ _ => id
    rintro e s ⟨hfault, hs⟩
    exact ⟨fun henter => hfault henter.quiet.making, hs.left hfresh⟩
  intro _
  apply contract_inspect
  intro hfault e s hs
  exact ⟨fun henter => hfault henter.quiet.flushing, hs.left hfresh⟩

/-- An entry ends with a new stage, or leaves one life at most and was not quiet. -/
theorem contract_enter {charged : Prop} (hforeign : Unmarked foreign)
    (hfresh : foreign.get? writer.run.text = none) :
    Contract
      (fun s => Left records foreign root s ∧ s.authorized_bytes = 0 ∧ s.published = false)
      (enter records writer call)
      (fun _ => Working records writer foreign root charged .empty)
      fun _ s => ¬ Enterable writer call foreign ∧ Left records foreign root s := by
  apply Contract.from_each
  rintro before ⟨⟨rfl, run, life, hfresh', hlayout⟩, hbytes, hpublished⟩
  have hbefore : Holding records run foreign before life before := ⟨hlayout, rfl⟩
  apply Contract.bind (Q := fun _ => Holding records run foreign before life)
  · apply contract_attempt
    · rintro _ _ s rfl
      exact hbefore
    · rintro e he s rfl
      refine ⟨?_, hbefore.left hfresh'⟩
      intro henter
      rw [henter.apart] at he
      exact absurd he (by simp)
  intro _
  apply Contract.bind (Q := fun _ => Holding records run foreign before life)
  · apply contract_inspect
    intro hfault e s hs
    exact ⟨fun henter => hfault henter.quiet.validating, hs.left hfresh'⟩
  intro _
  apply contract_catching (S := fun _ s => ¬ Enterable writer call foreign
    ∧ Left records foreign before.root s)
  · apply Contract.bind (Q := fun _ =>
      Holding records run foreign { before with locked := true } life)
    · apply contract_acquire_lock.mono (fun _ => id) fun _ _ => id
      rintro e s ⟨hnoise, locked, hs⟩
      exact ⟨fun henter => hnoise henter.quiet, hs.left hfresh'⟩
    intro _
    apply (contract_enter_locked hforeign hfresh hfresh').weaken
    exact fun _ s hs => hs.working hbytes hpublished
  · intro e
    apply Contract.assume
    intro hnoise
    apply (contract_entry_failed hforeign hfresh).mono (fun _ => id) fun _ _ => id
    exact fun _ s hs => ⟨hnoise, hs⟩
  · exact fun s hs => hs

/-! ### Leaving -/

/-- An exit leaves one life at most. -/
lemma contract_exit {faults : RemovalFaults} (hforeign : Unmarked foreign) :
    Contract (Left records foreign root) (exit records writer faults)
      (fun _ => Left records foreign root) fun _ => Left records foreign root := by
  apply contract_finally
  · apply contract_read_bind
    intro s hs
    apply Contract.ite
    · intro hmarker
      apply (contract_remove_left hforeign).strengthen
      rintro t rfl
      exact ⟨hs, hmarker⟩
    · intro _
      apply Contract.pure
      rintro t rfl
      exact hs
  · exact fun _ => contract_release_lock fun _ => left_release
  · exact fun _ => contract_release_lock fun _ => left_release

/-- A life that a normal exit ends. -/
def StageLife.Leavable : StageLife → Prop
  | .nothing => True
  | .marked => True
  | .staged _ => True
  | _ => False

/-- An exit that is not disturbed leaves the strangers alone. -/
lemma contract_quiet_exit (hforeign : Unmarked foreign)
    (hfresh : foreign.get? writer.run.text = none) :
    Contract
      (fun s => s.root = root ∧ ∃ life, life.Leavable
        ∧ Layout records writer.run foreign life s.staging)
      (exit records writer {})
      (fun _ s => s.root = root ∧ s.staging = foreign) fun _ _ => False := by
  have hrelease : ∀ {Q : Unit → WriterState → Prop} {P : WriterState → Prop},
      (∀ s, P s → Q () { s with locked := false }) →
      Contract P release_lock Q fun _ _ => False :=
    fun h => contract_atomically h fun hfault => absurd rfl hfault
  apply contract_finally_do (S := fun _ s => s.root = root ∧ s.staging = foreign)
    (T := fun _ _ => False)
  · apply contract_read_bind
    rintro before ⟨rfl, life, hleave, hlayout⟩
    apply Contract.ite
    · intro hmarker
      rw [hlayout.marker] at hmarker
      have hmarked := marker_of_isSome hmarker
      apply (@contract_remove_owned_stage records writer.run foreign before life {} hmarked).mono
      · rintro t rfl
        exact ⟨hlayout, rfl⟩
      · intro _ t ht
        have hnothing : life.without_stage.unlink_marker records writer.run = .nothing := by
          cases life with
          | linked => exact hleave.elim
          | pending content short => exact hleave.elim
          | _ => rfl
        rw [hnothing] at ht
        exact ⟨ht.root_eq, ht.1.eq_foreign hforeign hfresh⟩
      · exact fun _ t ht => ht.1 rfl
    · intro hmarker
      apply Contract.pure
      rintro t rfl
      have hnothing : life = .nothing := by
        rw [hlayout.marker] at hmarker
        cases life with
        | nothing => rfl
        | pending content short => exact hleave.elim
        | linked => exact hleave.elim
        | marked => exact absurd rfl hmarker
        | staged tree => exact absurd rfl hmarker
      rw [hnothing] at hlayout
      exact ⟨rfl, hlayout.eq_foreign hforeign hfresh⟩
  · exact fun _ => hrelease fun s hs => hs
  · exact fun _ => hrelease fun s hs => hs.elim
  · exact fun s hs => hs

end DatasetWriter
end StegoLab

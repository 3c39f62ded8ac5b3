import StegoLab.Training.Preflight
import StegoLab.Training.ProofBudgetProperties

/-!
# The preflight and the entry

A request that the preflight allows is admitted to the budget with the allowance that it reports,
but for a directory under the name of the checkpoint lock: the preflight looks at names alone, the
entry also at kinds.
-/

namespace StegoLab

open Transaction Program ProofBudget

variable {catalog : WorkspaceCatalog} {workspace : ProofWorkspace} {request : WorkflowRequest}
  {ledger : BudgetLedger} {now : ℚ}

/-! ### The steps of the checks -/

section Steps

variable {s t : PreflightState} {u : Unit} {condition : Prop} [Decidable condition]
  {message : String}

lemma block_if_returned (h : block_if condition message s = (.ok u, t)) :
    t.remaining = s.remaining ∧ (t.blockers = [] → s.blockers = [] ∧ ¬ condition) := by
  have hstate : { s with blockers := s.blockers ++ if condition then [message] else [] } = t :=
    congrArg Prod.snd h
  subst hstate
  refine ⟨rfl, fun hblockers => ?_⟩
  rw [List.append_eq_nil_iff] at hblockers
  refine ⟨hblockers.1, fun hcondition => ?_⟩
  rw [if_pos hcondition] at hblockers
  exact absurd hblockers.2 (by simp)

lemma check_saved_state_returned {fresh : Bool}
    (h : check_saved_state workspace fresh s = (.ok u, t)) :
    t.remaining = s.remaining ∧ (t.blockers = [] → s.blockers = [] ∧
      (fresh = true → saved_state workspace.checkpoints = .ok false)) := by
  unfold check_saved_state at h
  split_ifs at h with hfresh
  · obtain ⟨saved, hsaved, hblock⟩ := lift_bind_ok.mp h
    obtain ⟨hremaining, hblockers⟩ := block_if_returned hblock
    refine ⟨hremaining, fun hempty => ⟨(hblockers hempty).1, fun _ => ?_⟩⟩
    rw [hsaved, Bool.eq_false_of_not_eq_true (hblockers hempty).2]
  · obtain ⟨-, rfl⟩ := pure_ok.mp h
    exact ⟨rfl, fun hempty => ⟨hempty, fun hfresh' => absurd hfresh' hfresh⟩⟩

lemma warn_active_returned (h : warn_active ledger s = (.ok u, t)) :
    t.remaining = s.remaining ∧ t.blockers = s.blockers := by
  unfold warn_active at h
  split_ifs at h with hactive
  · obtain ⟨-, rfl⟩ := Prod.ext_iff.mp h
    exact ⟨rfl, rfl⟩
  · obtain ⟨-, rfl⟩ := Prod.ext_iff.mp h
    exact ⟨rfl, rfl⟩

lemma extend_returned {messages : List String} (h : extend messages s = (.ok u, t))
    (hempty : t.blockers = []) : s.blockers = [] := by
  have hstate : { s with blockers := s.blockers ++ messages } = t := congrArg Prod.snd h
  subst hstate
  exact (List.append_eq_nil_iff.mp hempty).1

lemma check_dataset_returned (h : check_dataset catalog request s = (.ok u, t))
    (hempty : t.blockers = []) : s.blockers = [] := by
  unfold check_dataset at h
  cases hdataset : request.dataset_identifier with
  | none =>
    rw [hdataset] at h
    exact extend_returned h hempty
  | some dataset =>
    rw [hdataset] at h
    obtain ⟨blockers, -, hextend⟩ := lift_bind_ok.mp h
    exact extend_returned hextend hempty

lemma check_revision_returned {summary : CheckpointSummary}
    (h : check_revision catalog request summary s = (.ok u, t)) (hempty : t.blockers = []) :
    s.blockers = [] := by
  unfold check_revision at h
  cases hdataset : request.dataset_identifier with
  | none =>
    rw [hdataset] at h
    obtain ⟨-, rfl⟩ := pure_ok.mp h
    exact hempty
  | some dataset =>
    rw [hdataset] at h
    obtain ⟨revision, -, hblock⟩ := lift_bind_ok.mp h
    exact ((block_if_returned hblock).2 hempty).1

/-- A summary is read exactly for a named checkpoint. -/
lemma check_checkpoint_returned {summary : Option CheckpointSummary}
    (h : check_checkpoint catalog request s = (.ok summary, t)) :
    summary.isSome = request.checkpoint_identifier.isSome ∧
      (t.blockers = [] → s.blockers = []) := by
  unfold check_checkpoint at h
  cases hnamed : request.checkpoint_identifier with
  | none =>
    rw [hnamed] at h
    obtain ⟨rfl, rfl⟩ := pure_ok.mp h
    exact ⟨rfl, id⟩
  | some checkpoint =>
    rw [hnamed] at h
    obtain ⟨blockers, -, hname⟩ := lift_bind_ok.mp h
    obtain ⟨_, _, hextended, hsummary⟩ := bind_ok.mp hname
    obtain ⟨found, -, hexperiment⟩ := lift_bind_ok.mp hsummary
    obtain ⟨_, _, hnamed', hsettings⟩ := bind_ok.mp hexperiment
    obtain ⟨_, _, hkept, hstep⟩ := bind_ok.mp hsettings
    obtain ⟨_, _, hlater, hrevision⟩ := bind_ok.mp hstep
    obtain ⟨_, _, hrevised, hreturn⟩ := bind_ok.mp hrevision
    obtain ⟨rfl, rfl⟩ := pure_ok.mp hreturn
    refine ⟨rfl, fun hempty => ?_⟩
    have hbefore := check_revision_returned hrevised hempty
    have hlater := ((block_if_returned hlater).2 hbefore).1
    have hkept := ((block_if_returned hkept).2 hlater).1
    exact extend_returned hextended ((block_if_returned hnamed').2 hkept).1

/-- Nothing failed when no blocker is left. -/
lemma of_unblocked {checks : Preflight Unit} (h : (rescue checks failed_check s).2.blockers = []) :
    checks s = (.ok (), (rescue checks failed_check s).2) := by
  rcases hchecks : checks s with ⟨e | _, after⟩
  · have hrescue : rescue checks failed_check s = failed_check e after := by
      rw [rescue, hchecks]
    rw [hrescue] at h
    cases e with
    | application failure => exact absurd h (by simp [failed_check, extend])
    | value_error => exact absurd h (by simp [failed_check, extend])
    | os_error => exact absurd h (by simp [failed_check, extend])
  · have hrescue : rescue checks failed_check s = (.ok (), after) := by
      rw [rescue, hchecks]
    rw [hrescue]

end Steps

/-! ### What an allowed request meets -/

/-- The rules that the preflight has checked on the stored ledger. -/
structure Unblocked (workspace : ProofWorkspace) (request : WorkflowRequest) (ledger : BudgetLedger) :
    Prop where
  stored : workspace.budget.stored = .ok ledger
  slot : request.experiment_identifier ∉ ledger.names →
    request.checkpoint_identifier = none ∧
      ledger.experiments.length < BudgetLedger.maximum_experiments
  fresh : request.experiment_identifier ∈ ledger.names → request.checkpoint_identifier = none →
    saved_state workspace.checkpoints = .ok false
  allowance : BudgetLedger.save_reserve_seconds < ledger.allowance request.experiment_identifier

lemma check_allowance_returned {summary : Option CheckpointSummary} {s t : PreflightState}
    {u : Unit} (hsummary : summary.isSome = request.checkpoint_identifier.isSome)
    (h : check_allowance workspace request summary s = (.ok u, t)) (hblockers : t.blockers = []) :
    ∃ ledger, Unblocked workspace request ledger ∧ s.blockers = [] ∧
      t.remaining = ledger.allowance request.experiment_identifier := by
  obtain ⟨ledger, hread, hnote⟩ := lift_bind_ok.mp h
  obtain ⟨_, noted, hnoted, hslot⟩ := bind_ok.mp hnote
  obtain ⟨-, rfl⟩ := Prod.ext_iff.mp hnoted
  obtain ⟨_, slotted, hslotted, hsaved⟩ := bind_ok.mp hslot
  obtain ⟨_, looked, hlooked, hreserve⟩ := bind_ok.mp hsaved
  obtain ⟨_, reserved, hreserved, hwarn⟩ := bind_ok.mp hreserve
  obtain ⟨hremaining, hwarned⟩ := warn_active_returned hwarn
  obtain ⟨hreserve_remaining, hreserved⟩ := block_if_returned hreserved
  obtain ⟨hsaved_remaining, hlooked⟩ := check_saved_state_returned hlooked
  obtain ⟨hslot_remaining, hslotted⟩ := block_if_returned hslotted
  obtain ⟨hlooked_empty, hallowance⟩ := hreserved (hwarned.symm.trans hblockers)
  obtain ⟨hslotted_empty, hfresh⟩ := hlooked hlooked_empty
  obtain ⟨hempty, hfree⟩ := hslotted hslotted_empty
  rw [not_le] at hallowance
  have hpositive : BudgetLedger.save_reserve_seconds
      < ledger.allowance request.experiment_identifier := by
    rcases lt_max_iff.mp hallowance with h | h
    · exact absurd h (by decide)
    · exact h
  have hstored : workspace.budget.stored = .ok ledger := by
    unfold read_budget at hread
    split_ifs at hread
    exact hread
  refine ⟨ledger, ⟨hstored, fun hnew => ?_, fun hexisting hnone => ?_, hpositive⟩, hempty, ?_⟩
  · have hcontains : ledger.names.contains request.experiment_identifier = false := by simpa
    rw [hcontains, not_and, not_or] at hfree
    obtain ⟨hslots, hnone⟩ := hfree rfl
    rw [hsummary] at hnone
    refine ⟨by simpa using hnone, ?_⟩
    exact Nat.lt_of_sub_ne_zero hslots
  · apply hfresh
    rw [hnone] at hsummary
    rw [List.contains_iff_mem.mpr hexisting, Bool.true_and, Option.isNone_iff_eq_none]
    exact Option.isSome_eq_false_iff.mp hsummary |> Option.isNone_iff_eq_none.mp
  · rw [hremaining, hreserve_remaining, hsaved_remaining, hslot_remaining]
    apply max_eq_right
    exact (show (0 : ℚ) ≤ BudgetLedger.save_reserve_seconds by decide).trans hpositive.le

/-! ### The folders of the checkpoints -/

/-- The folders and what is in them are regular files and directories, in one tree. -/
structure CheckpointDirectory.Plain (checkpoints : CheckpointDirectory) : Prop where
  parent : checkpoints.parent ∈ [.absent, .file, .directory]
  directory : checkpoints.directory ∈ [.absent, .file, .directory]
  under : checkpoints.directory ≠ .absent → checkpoints.parent = .directory
  entries : ∀ entries ∈ checkpoints.entries, ∀ entry ∈ entries, entry.2 ∈ [.file, .directory]

lemma eraseDups_eq_nil {α : Type} [BEq α] {l : List α} (h : l.eraseDups = []) : l = [] := by
  cases l with
  | nil => rfl
  | cons a l => exact absurd h (by simp [List.eraseDups_cons])

lemma exists_of_mapM {ε α β : Type} {f : α → Except ε β} {l : List α} {values : List β} {a : α}
    (h : l.mapM f = .ok values) (ha : a ∈ l) : ∃ value ∈ values, f a = .ok value := by
  induction l generalizing values with
  | nil => exact absurd ha List.not_mem_nil
  | cons b l ih =>
    rw [List.mapM_cons] at h
    obtain ⟨value, hvalue, hrest⟩ := bind_eq_ok.mp h
    obtain ⟨rest, hmap, hreturn⟩ := bind_eq_ok.mp hrest
    obtain rfl := pure_eq_ok.mp hreturn
    rcases List.mem_cons.mp ha with rfl | ha
    · exact ⟨value, List.mem_cons_self, hvalue⟩
    · obtain ⟨found, hfound, hf⟩ := ih hmap ha
      exact ⟨found, List.mem_cons_of_mem _ hfound, hf⟩

lemma output_blockers_eq_nil {operation : Operation}
    (h : output_blockers workspace operation = .ok []) :
    ∀ label ∈ output_folders operation,
      output_blocker label (workspace.output_folder label) = .ok [] := by
  intro label hlabel
  obtain ⟨blockers, hmap, hreturn⟩ := bind_eq_ok.mp h
  have hnone := eraseDups_eq_nil (pure_eq_ok.mp hreturn)
  obtain ⟨messages, hmessages, hfolder⟩ := exists_of_mapM hmap hlabel
  rw [hfolder, List.flatten_eq_nil_iff.mp hnone messages hmessages]

lemma is_directory_of_unblocked {label : String} {folder : OutputFolder}
    (h : output_blocker label folder = .ok []) : folder.is_directory = true := by
  by_cases hfolder : folder.is_directory = true ∧ folder.writable = true
  · exact hfolder.1
  · rw [output_blocker, if_pos hfolder] at h
    exact absurd (Except.ok.inj h) (by simp)

/-- A training whose output folders are not blocked finds no file in the way. -/
lemma safe_of_unblocked (h : output_blockers workspace .train = .ok [])
    (hplain : workspace.checkpoints.Plain) :
    workspace.checkpoints.parent.unsafe_directory = false ∧
      workspace.checkpoints.directory.unsafe_directory = false := by
  have hfolder := is_directory_of_unblocked (output_blockers_eq_nil h "checkpoint" (by decide))
  unfold ProofWorkspace.output_folder at hfolder
  rw [if_neg (not_not.mpr rfl)] at hfolder
  by_cases hexists : workspace.checkpoints.directory = .absent
  · rw [if_neg (by simp [PathKind.exists, hexists])] at hfolder
    refine ⟨?_, by simp [PathKind.unsafe_directory, hexists]⟩
    by_cases hparent : workspace.checkpoints.parent = .absent
    · simp [PathKind.unsafe_directory, hparent]
    · rw [if_pos (by simp [PathKind.exists, hparent])] at hfolder
      simp [PathKind.unsafe_directory, of_decide_eq_true hfolder]
  · rw [if_pos (by simp [PathKind.exists, hexists])] at hfolder
    simp [PathKind.unsafe_directory, of_decide_eq_true hfolder, hplain.under hexists]

/-! ### The admission of an allowed request -/

/-- A fresh start of a recorded experiment, whose folder holds a directory in place of the lock. -/
def LockDirectory (workspace : ProofWorkspace) (request : WorkflowRequest) : Prop :=
  request.checkpoint_identifier = none ∧
    (∃ ledger, workspace.budget.stored = .ok ledger ∧
      request.experiment_identifier ∈ ledger.names) ∧
    ∃ entries, workspace.checkpoints.directory ≠ .absent ∧
      workspace.checkpoints.entries = some entries ∧ (".checkpoint.lock", .directory) ∈ entries

/-- What the entry answers for a spent slot when the preflight has passed the folder. -/
lemma startup_retry_eq (hsaved : saved_state workspace.checkpoints = .ok false)
    (hplain : workspace.checkpoints.Plain)
    (hsafe : workspace.checkpoints.parent.unsafe_directory = false ∧
      workspace.checkpoints.directory.unsafe_directory = false) :
    ∃ retry, startup_retry (some { workspace.checkpoints with original := true }) = .ok retry ∧
      (retry = false ↔ ∃ entries, workspace.checkpoints.directory ≠ .absent ∧
        workspace.checkpoints.entries = some entries ∧
          (".checkpoint.lock", .directory) ∈ entries) := by
  simp only [startup_retry, raise_if, hsafe.1, hsafe.2, Bool.true_eq_false, Bool.false_eq_true,
    or_self, if_false]
  by_cases hexists : workspace.checkpoints.directory = .absent
  · refine ⟨true, ?_, ?_⟩
    · rw [hexists]
      rfl
    · simp [hexists]
  · unfold saved_state at hsaved
    rw [if_neg (by simp [PathKind.exists, hexists])] at hsaved
    cases hentries : workspace.checkpoints.entries with
    | none =>
      rw [hentries] at hsaved
      exact absurd hsaved (by simp)
    | some entries =>
      rw [hentries] at hsaved
      have hlocks : ∀ entry ∈ entries, entry.1 = ".checkpoint.lock" := by
        simpa using Except.ok.inj hsaved
      refine ⟨entries.all fun entry => entry.1 = ".checkpoint.lock" ∧ entry.2 = .file, ?_, ?_⟩
      · rw [if_neg hexists]
        rfl
      · constructor
        · intro hfalse
          rw [List.all_eq_false] at hfalse
          obtain ⟨entry, hentry, hother⟩ := hfalse
          have hkind := hplain.entries entries hentries entry hentry
          refine ⟨entries, hexists, rfl, ?_⟩
          have hname := hlocks entry hentry
          have hdirectory : entry.2 = .directory := by
            rw [List.mem_pair] at hkind
            exact hkind.resolve_left fun hfile => hother (by simp [hname, hfile])
          rw [← hname, ← hdirectory]
          exact hentry
        · rintro ⟨found, -, hfound, hlock⟩
          obtain rfl := Option.some.inj hfound
          rw [List.all_eq_false]
          exact ⟨_, hlock, by simp⟩

lemma experiment_consumed_nonneg (h : ledger.Valid) (identifier : String) :
    0 ≤ ledger.experiment_consumed identifier := by
  unfold BudgetLedger.experiment_consumed
  cases hfind : ledger.experiments.find? fun experiment =>
      experiment.experiment_identifier = identifier with
  | none => exact le_rfl
  | some experiment => exact (h.2.2.1 experiment (List.mem_of_find?_eq_some hfind)).2

/-- The reservation of an allowance that is left is valid. -/
lemma valid_reservation {identifier : String} (h : ledger.Valid) (hnow : 0 ≤ now)
    (hallowance : 0 < ledger.allowance identifier) :
    ActiveBudget.Valid ⟨identifier, now, ledger.allowance identifier⟩ := by
  refine ⟨hnow, hallowance, (min_le_right _ _).trans ?_⟩
  exact sub_le_self _ (experiment_consumed_nonneg h identifier)

/-- When `__enter__` admits an invocation, in terms of what the ledger and the folder show. -/
lemma admission_returns {invocation : ProofRequest} {existing retry : Bool}
    (hexisting : ledger.names.contains invocation.experiment_identifier = existing)
    (hretry : (if existing && !invocation.resume then
      startup_retry invocation.checkpoint_directory else .ok false) = .ok retry)
    (hmatch : existing = invocation.resume ∨ retry = true)
    (hslots : existing = true ∨ ledger.experiments.length < BudgetLedger.maximum_experiments)
    (hvalid : ActiveBudget.Valid ⟨invocation.experiment_identifier, now,
      ledger.allowance invocation.experiment_identifier⟩) :
    ∃ reserved, admission invocation now ledger = .ok reserved := by
  set granted : BudgetLedger := if existing = true then ledger else { ledger with
    experiments := ledger.experiments
      ++ [{ experiment_identifier := invocation.experiment_identifier }] } with hgranted
  have hallowance : granted.allowance invocation.experiment_identifier
      = ledger.allowance invocation.experiment_identifier := by
    rw [hgranted]
    split_ifs
    · rfl
    · rw [BudgetLedger.allowance, BudgetLedger.allowance, BudgetLedger.experiment_consumed_append]
  rw [← hallowance] at hvalid
  subst hexisting
  refine ⟨{ granted with active := some ⟨invocation.experiment_identifier, now,
    granted.allowance invocation.experiment_identifier⟩ }, bind_eq_ok.mpr ⟨retry, hretry,
      bind_eq_ok.mpr ⟨(), raise_if_eq_ok.mpr ?_, bind_eq_ok.mpr ⟨(), raise_if_eq_ok.mpr ?_, ?_⟩⟩⟩⟩
  · rintro ⟨hother, hnot⟩
    rcases hmatch with hsame | htrue
    · exact hother hsame
    · exact absurd (hnot.symm.trans htrue) (by simp)
  · rintro ⟨hnew, hfull⟩
    rcases hslots with htrue | hfree
    · exact absurd (hnew.symm.trans htrue) (by simp)
    · exact absurd hfree (not_lt.mpr hfull)
  · exact bind_eq_ok.mpr ⟨(), raise_if_eq_ok.mpr (not_le.mpr hvalid.2.1),
      bind_eq_ok.mpr ⟨(), raise_if_eq_ok.mpr (not_not.mpr hvalid), rfl⟩⟩

/-- The admission of a request that the preflight has passed. -/
lemma admission_iff (h : Unblocked workspace request ledger) (hvalid : ledger.Valid)
    (hplain : workspace.checkpoints.Plain) (hnow : 0 ≤ now)
    (hsafe : workspace.checkpoints.parent.unsafe_directory = false ∧
      workspace.checkpoints.directory.unsafe_directory = false) :
    (∃ reserved, admission (worker_invocation workspace request) now ledger = .ok reserved) ↔
      ¬ LockDirectory workspace request := by
  have hpositive : 0 < ledger.allowance request.experiment_identifier :=
    (show (0 : ℚ) < BudgetLedger.save_reserve_seconds by decide).trans h.allowance
  have hreservation := valid_reservation hvalid hnow hpositive
  by_cases hexisting : request.experiment_identifier ∈ ledger.names
  · have hcontains : ledger.names.contains request.experiment_identifier = true :=
      List.contains_iff_mem.mpr hexisting
    cases hnamed : request.checkpoint_identifier with
    | some checkpoint =>
      have hresume : (worker_invocation workspace request).resume = true := by
        rw [worker_invocation, hnamed]
        rfl
      refine iff_of_true ?_ fun hlock => absurd (hnamed.symm.trans hlock.1) (by simp)
      exact admission_returns hcontains (by rw [hresume]; rfl) (Or.inl hresume.symm) (Or.inl rfl)
        hreservation
    | none =>
      have hresume : (worker_invocation workspace request).resume = false := by
        rw [worker_invocation, hnamed]
        rfl
      obtain ⟨retry, hretry, hlocked⟩ := startup_retry_eq (h.fresh hexisting hnamed) hplain hsafe
      have hlock : LockDirectory workspace request ↔ retry = false := by
        rw [hlocked]
        exact ⟨fun hlock => hlock.2.2, fun hlock => ⟨hnamed, ⟨ledger, h.stored, hexisting⟩, hlock⟩⟩
      rw [hlock, Bool.not_eq_false]
      constructor
      · rintro ⟨reserved, hadmission⟩
        unfold admission at hadmission
        obtain ⟨answer, hanswer, hrest⟩ := bind_eq_ok.mp hadmission
        obtain ⟨_, hmatch, -⟩ := bind_eq_ok.mp hrest
        have hcontains' : ledger.names.contains
            (worker_invocation workspace request).experiment_identifier = true := hcontains
        rw [hcontains', hresume] at hanswer
        obtain rfl := Except.ok.inj (hretry.symm.trans hanswer)
        rw [raise_if_eq_ok, hcontains', hresume, not_and, Bool.not_eq_false] at hmatch
        exact hmatch (by simp)
      · intro htrue
        exact admission_returns hcontains (by rw [hresume]; exact hretry) (Or.inr htrue) (Or.inl rfl)
          hreservation
  · have hcontains : ledger.names.contains request.experiment_identifier = false := by simpa
    obtain ⟨hnone, hfree⟩ := h.slot hexisting
    have hresume : (worker_invocation workspace request).resume = false := by
      rw [worker_invocation, hnone]
      rfl
    apply iff_of_true
    · exact admission_returns hcontains rfl (Or.inl hresume.symm) (Or.inr hfree) hreservation
    · rintro ⟨-, ⟨stored, hstored, hmem⟩, -⟩
      obtain rfl := Except.ok.inj (hstored.symm.trans h.stored)
      exact hexisting hmem

/-! ### Entering -/

section Entering

variable {disk : BudgetDisk} {invocation : ProofRequest} {reserved : BudgetLedger}

lemma attempt_of_ok {σ ε α : Type} {x : Except ε α} {a : α} {state : σ} (h : x = .ok a) :
    attempt x state = (.ok a, state) := by
  subst h
  rfl

lemma persist_returns (hvalid : ledger.Valid) :
    persist {} ledger disk = (.ok (), ⟨.holds ledger, true⟩) := by
  have hsucceeds : ({} : PersistFaults).Succeeds disk.initialized :=
    ⟨⟨⟨rfl, rfl, rfl⟩, rfl, rfl⟩, rfl, fun _ => ⟨⟨rfl, rfl, rfl⟩, rfl, rfl⟩⟩
  rcases hpersist : persist {} ledger disk with ⟨e | _, after⟩
  · exact absurd hsucceeds ((contract_persist hvalid).fails rfl hpersist).1
  · rw [((contract_persist hvalid).returns rfl hpersist).2]

/-- An entry without faults, on an idle ledger, returns exactly when it is admitted. -/
lemma enter_of_admission (hpattern : experiment_pattern invocation.experiment_identifier = true)
    (hstored : disk.stored = .ok ledger) (hidle : ledger.active = none)
    (hadmission : admission invocation now ledger = .ok reserved) :
    enter {} invocation now disk
      = (.ok ⟨invocation.experiment_identifier, reserved⟩, ⟨.holds reserved, true⟩) := by
  have hvalid : reserved.Valid := (admitted_of_admission hadmission).valid_reserved
    (BudgetDisk.valid_stored hstored) hpattern
  have hload : ProofBudget.load_ledger {} disk = (.ok ledger, disk) := by
    rw [ProofBudget.load_ledger, bind_of_ok inspect_none, bind_of_ok inspect_none, read_bind]
    exact attempt_of_ok hstored
  have hreconcile : ProofBudget.reconcile {} ledger disk = (.ok ledger, disk) := by
    rw [ProofBudget.reconcile, if_pos hidle]
    rfl
  have hname : attempt (raise_if (experiment_pattern invocation.experiment_identifier = false)
      Raised.value_error) disk = (.ok (), disk) :=
    attempt_of_ok (raise_if_eq_ok.mpr (by simp [hpattern]))
  have hfree : attempt (raise_if (({} : ProofFaults).busy = true) (Raised.application
      (proof_failure "Another CPU proof operation is already running."))) disk = (.ok (), disk) :=
    attempt_of_ok (raise_if_eq_ok.mpr (by simp))
  apply catching_of_ok
  rw [reserve_time, bind_of_ok hname, bind_of_ok inspect_none, bind_of_ok hfree, bind_of_ok hload,
    bind_of_ok hreconcile, bind_of_ok (attempt_of_ok hadmission), bind_of_ok (persist_returns hvalid)]
  rfl

end Entering

lemma isAlphanum_of_lower {c : Char} (h : 'a' ≤ c) (h' : c ≤ 'z') : c.isAlphanum = true := by
  have hlower : c.isLower = true := by
    apply Bool.and_eq_true_iff.mpr
    exact ⟨decide_eq_true h, decide_eq_true h'⟩
  show ((c.isUpper || c.isLower) || c.isDigit) = true
  simp [hlower]

lemma isAlphanum_of_digit {c : Char} (h : '0' ≤ c) (h' : c ≤ '9') : c.isAlphanum = true := by
  have hdigit : c.isDigit = true := by
    apply Bool.and_eq_true_iff.mpr
    exact ⟨decide_eq_true h, decide_eq_true h'⟩
  show (c.isAlpha || c.isDigit) = true
  simp [hdigit]

/-- `^[a-z][a-z0-9_]{0,63}$` is a narrower pattern than that of the ledger. -/
lemma experiment_pattern_of_session {text : String} (h : session_identifier_pattern text = true) :
    experiment_pattern text = true := by
  unfold session_identifier_pattern at h
  unfold experiment_pattern
  cases htext : text.toList with
  | nil =>
    rw [htext] at h
    exact absurd h (by simp)
  | cons first rest =>
    rw [htext] at h
    simp only [Bool.and_eq_true, decide_eq_true_eq, List.all_eq_true] at h ⊢
    obtain ⟨⟨hfirst, hlength⟩, hrest⟩ := h
    refine ⟨⟨isAlphanum_of_lower hfirst.1 hfirst.2, by omega⟩, fun c hc => ?_⟩
    rcases hrest c hc with hlower | hdigit | rfl
    · simp [isAlphanum_of_lower hlower.1 hlower.2]
    · simp [isAlphanum_of_digit hdigit.1 hdigit.2]
    · rfl

/-- A request that the preflight allows is admitted with the allowance that it reports, exactly when
the lock of its checkpoints is not a directory. -/
theorem preflight_matches_entry {report : PreflightReport}
    (hname : session_identifier_pattern request.experiment_identifier = true)
    (hidle : ∀ ledger, workspace.budget.stored = .ok ledger → ledger.active = none)
    (hplain : workspace.checkpoints.Plain) (hnow : 0 ≤ now)
    (hreport : training_preflight catalog workspace request = .ok report)
    (hallowed : report.allowed = true) :
    (∃ session after, enter {} (worker_invocation workspace request) now workspace.budget
        = (.ok session, after) ∧
      session.ledger.active.map ActiveBudget.reserved_seconds
        = some report.remaining_budget_seconds) ↔ ¬ LockDirectory workspace request := by
  obtain ⟨blockers, houtput, hreturn⟩ := bind_eq_ok.mp hreport
  obtain rfl := pure_eq_ok.mp hreturn
  have hempty := List.isEmpty_iff.mp hallowed
  have hchecks := of_unblocked hempty
  obtain ⟨_, trained, htrain, hdataset⟩ := bind_ok.mp hchecks
  obtain ⟨_, dataset, hselected, hcheckpoint⟩ := bind_ok.mp hdataset
  obtain ⟨summary, checked, hsummary, hallowance⟩ := bind_ok.mp hcheckpoint
  obtain ⟨hnamed, hchecked⟩ := check_checkpoint_returned hsummary
  obtain ⟨ledger, hunblocked, hempty', hremaining⟩ :=
    check_allowance_returned hnamed hallowance hempty
  obtain ⟨hblockers, htraining⟩ := (block_if_returned htrain).2
    (check_dataset_returned hselected (hchecked hempty'))
  rw [not_not.mp htraining, show blockers = [] from hblockers] at houtput
  have hvalid := BudgetDisk.valid_stored hunblocked.stored
  rw [← admission_iff hunblocked hvalid hplain hnow (safe_of_unblocked houtput hplain)]
  constructor
  · rintro ⟨session, after, henter, -⟩
    obtain ⟨-, -, ⟨stored, hstored, hadmission⟩, -⟩ := contract_enter.returns rfl henter
    obtain rfl := Except.ok.inj (hstored.symm.trans hunblocked.stored)
    rw [BudgetLedger.reconciled_of_idle (hidle _ hstored)] at hadmission
    exact ⟨_, hadmission⟩
  · rintro ⟨reserved, hadmission⟩
    refine ⟨_, _, enter_of_admission (experiment_pattern_of_session hname) hunblocked.stored
      (hidle _ hunblocked.stored) hadmission, ?_⟩
    rw [(admitted_of_admission hadmission).active, Option.map_some, hremaining]
    rfl

/-! ### An experiment that is tried again -/

/-- Every dataset and checkpoint is in order. -/
def READY_CATALOG : WorkspaceCatalog where
  dataset_blockers _ := .ok []
  checkpoint_blockers _ := .ok []
  checkpoint_summary _ := .error .os_error
  dataset_revision _ := .error .os_error
  resolved_settings _ := .null
  training_configuration _ := ""

/-- A workspace with one spent experiment, whose checkpoint folder holds a lock of this kind. -/
def retried_workspace (kind : PathKind) : ProofWorkspace where
  folder _ := ⟨true, true, some ⟨10 ^ 12, 10 ^ 12⟩⟩
  budget :=
    { ledger := .holds { consumed_seconds := 100, experiments := [⟨"cpu_experiment", 100⟩] }
      initialized := true }
  published := false
  checkpoints := ⟨true, .directory, .directory, some [(".checkpoint.lock", kind)]⟩

lemma train_allowed : Operation.train ∈ [.train, .evaluate, .«export», .prepare_dataset] := by
  simp

lemma default_steps : 1 ≤ 1000 ∧ 1000 ≤ 1000 := by
  simp

def RETRY_REQUEST : WorkflowRequest where
  client_request_identifier := "request_again"
  operation := .train
  dataset_identifier := some "local_images"
  allowed := train_allowed
  steps := default_steps

lemma retried_allowed {kind : PathKind} (h : kind ∈ [.file, .directory]) :
    ∃ report, training_preflight READY_CATALOG (retried_workspace kind) RETRY_REQUEST = .ok report ∧
      report.allowed = true := by
  have hchecks : (training_preflight READY_CATALOG (retried_workspace kind) RETRY_REQUEST).map
      (fun report => report.allowed) = .ok true := by
    revert h kind
    decide +kernel
  cases hreport : training_preflight READY_CATALOG (retried_workspace kind) RETRY_REQUEST with
  | error e =>
    rw [hreport] at hchecks
    exact absurd hchecks (by simp [Except.map])
  | ok report =>
    rw [hreport] at hchecks
    exact ⟨report, rfl, Except.ok.inj hchecks⟩

lemma retried_plain {kind : PathKind} (h : kind ∈ [.file, .directory]) :
    (retried_workspace kind).checkpoints.Plain where
  parent := by simp [retried_workspace]
  directory := by simp [retried_workspace]
  under _ := rfl
  entries := by
    intro entries hentries entry hentry
    obtain rfl := Option.some.inj hentries
    rw [List.mem_singleton.mp hentry]
    exact h

lemma retried_idle {kind : PathKind} (hstored : (retried_workspace kind).budget.stored = .ok ledger) :
    ledger.active = none := by
  unfold retried_workspace BudgetDisk.stored at hstored
  dsimp only at hstored
  split_ifs at hstored
  rw [← Except.ok.inj hstored]

theorem retried_training_admitted : ∃ report,
    training_preflight READY_CATALOG (retried_workspace .file) RETRY_REQUEST = .ok report ∧
    ∃ session after, enter {} (worker_invocation (retried_workspace .file) RETRY_REQUEST) 0
        (retried_workspace .file).budget = (.ok session, after) ∧
      session.ledger.active.map ActiveBudget.reserved_seconds
        = some report.remaining_budget_seconds := by
  obtain ⟨report, hreport, hallowed⟩ := retried_allowed (show PathKind.file ∈ _ by decide)
  refine ⟨report, hreport, (preflight_matches_entry (by decide) (fun _ => retried_idle)
    (retried_plain (by decide)) le_rfl hreport hallowed).mpr ?_⟩
  rintro ⟨-, -, entries, -, hentries, hlock⟩
  obtain rfl := Option.some.inj hentries
  exact absurd hlock (by decide)

/-- The preflight allows a request that the entry refuses. -/
theorem locked_directory_refused : (retried_workspace .directory).checkpoints.Plain ∧
    (∃ report, training_preflight READY_CATALOG (retried_workspace .directory) RETRY_REQUEST
        = .ok report ∧ report.allowed = true) ∧
      ¬ ∃ session after, enter {} (worker_invocation (retried_workspace .directory) RETRY_REQUEST) 0
        (retried_workspace .directory).budget = (.ok session, after) := by
  refine ⟨retried_plain (by decide), retried_allowed (by decide), ?_⟩
  rintro ⟨session, after, henter⟩
  obtain ⟨-, -, ⟨ledger, hstored, hadmission⟩, -⟩ := contract_enter.returns rfl henter
  have hledger : ledger = { consumed_seconds := 100, experiments := [⟨"cpu_experiment", 100⟩] } := by
    unfold retried_workspace BudgetDisk.stored at hstored
    dsimp only at hstored
    split_ifs at hstored
    exact (Except.ok.inj hstored).symm
  subst hledger
  obtain ⟨retry, hretry, hrest⟩ := bind_eq_ok.mp hadmission
  obtain ⟨_, hmatch, -⟩ := bind_eq_ok.mp hrest
  rw [raise_if_eq_ok] at hmatch
  exact hmatch ⟨by decide, (Except.ok.inj hretry).symm⟩

end StegoLab

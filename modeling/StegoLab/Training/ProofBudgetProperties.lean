import StegoLab.Training.ProofBudget
import StegoLab.Training.ProofLedgerProperties

/-!
# What an invocation leaves behind

Entering the budget leaves the ledger as it was, or reconciled, or with the reservation of the
invocation; the last as soon as the file with the reservation has replaced the old one.
-/

namespace StegoLab

open Transaction Program ProofBudget

variable {disk : BudgetDisk} {request : ProofRequest} {now : ℚ} {faults : ProofFaults}
  {ledger : BudgetLedger}

/-! ### Writes -/

/-- Nothing fails in a `_persist`, which writes the marker when it is not there. -/
def PersistFaults.Succeeds (faults : PersistFaults) (initialized : Bool) : Prop :=
  faults.ledger.Succeeds ∧ faults.look = .none ∧
    (initialized = false → faults.initialized.Succeeds)

/-- One `_persist`. -/
lemma contract_persist {faults : PersistFaults} (hvalid : ledger.Valid) :
    Contract (· = disk) (persist faults ledger)
      (fun _ after => faults.Succeeds disk.initialized ∧ after = ⟨.holds ledger, true⟩)
      fun _ after => ¬ faults.Succeeds disk.initialized ∧
        (faults.ledger.Replaces ∧ after.ledger = .holds ledger ∨
          ¬ faults.ledger.Replaces ∧ after = disk) := by
  refine Contract.bind (Q := fun _ after => after = disk)
    (contract_attempt (fun _ _ _ => id) fun e hrefused => ?_) fun _ => ?_
  · rw [raise_if, if_neg (not_not.mpr hvalid)] at hrefused
    exact absurd hrefused (by simp)
  refine Contract.bind (contract_atomic_json.mono (fun _ => id) (fun _ _ => id) fun e s hs => ?_)
    fun _ => .assume fun hledger => ?_
  · refine ⟨fun h => hs.1 h.1, hs.2.imp (fun h => ⟨h.1, ?_⟩) id⟩
    rw [h.2]
  refine ((contract_inspect fun hfault _ s hs => ?_).know fun _ _ _ => none_of_returned).bind
    fun _ => .assume fun hlook => ?_
  · refine ⟨fun h => hfault h.2.1, Or.inl ⟨hledger.1, ?_⟩⟩
    rw [hs]
  refine Contract.bind (Q := fun found s => found = { disk with ledger := .holds ledger } ∧
      s = { disk with ledger := .holds ledger })
    (.read fun s hs => ⟨hs, hs⟩) fun found => .assume fun hfound => ?_
  rw [hfound]
  refine .ite (fun hinitialized => .pure fun s hs => ?_) fun hinitialized => ?_
  · refine ⟨⟨hledger, hlook, fun h => absurd (hinitialized.symm.trans h) (by simp)⟩, ?_⟩
    rw [hs, hinitialized]
  · have hfresh : disk.initialized = false := by simpa using hinitialized
    refine contract_atomic_json.mono (fun _ => id) (fun _ s hs => ?_) fun e s hs => ?_
    · exact ⟨⟨hledger, hlook, fun _ => hs.1⟩, hs.2⟩
    · refine ⟨fun h => hs.1 (h.2.2 hfresh), Or.inl ⟨hledger.1, ?_⟩⟩
      rcases hs.2 with h | h
      · rw [h.2]
      · rw [h.2]

/-! ### Entering -/

/-- The invocation reaches its reservation, and the file with it replaces the old one. -/
structure ProofFaults.Reserves (faults : ProofFaults) (request : ProofRequest) (now : ℚ)
    (disk : BudgetDisk) : Prop where
  identifier : experiment_pattern request.experiment_identifier = true
  open_lock : faults.open_lock = .none
  busy : faults.busy = false
  look : faults.look = .none
  read_ledger : faults.read_ledger = .none
  admitted : ∃ ledger reserved, disk.stored = .ok ledger ∧
    (ledger.active ≠ none → faults.reconcile.Succeeds disk.initialized) ∧
    admission request now ledger.reconciled = .ok reserved
  replaces : faults.reserve.ledger.Replaces

/-- What an invocation that stopped has left. -/
def StoppedEntry (faults : ProofFaults) (request : ProofRequest) (now : ℚ)
    (disk after : BudgetDisk) : Prop :=
  ¬ faults.Reserves request now disk ∧
      (after = disk ∨ faults.busy = false ∧ ∃ ledger, disk.stored = .ok ledger ∧
        ledger.active ≠ none ∧ after.ledger = .holds ledger.reconciled) ∨
    faults.Reserves request now disk ∧ ∃ ledger reserved, disk.stored = .ok ledger ∧
      admission request now ledger.reconciled = .ok reserved ∧ after.ledger = .holds reserved

/-- What an invocation that runs has left. -/
def RunningEntry (faults : ProofFaults) (request : ProofRequest) (now : ℚ)
    (disk : BudgetDisk) (session : ProofSession) (after : BudgetDisk) : Prop :=
  faults.Reserves request now disk ∧
    session.experiment_identifier = request.experiment_identifier ∧
    (∃ ledger, disk.stored = .ok ledger ∧
      admission request now ledger.reconciled = .ok session.ledger) ∧
    after = ⟨.holds session.ledger, true⟩

/-- A valid ledger that is on disk is the stored one. -/
lemma BudgetDisk.stored_of_holds (h : disk.ledger = .holds ledger) (hvalid : ledger.Valid) :
    disk.stored = .ok ledger := by
  simp only [stored, h, if_pos hvalid]

lemma BudgetDisk.valid_stored (h : disk.stored = .ok ledger) : ledger.Valid := by
  unfold stored at h
  split at h
  · split_ifs at h with hvalid
    exact Except.ok.inj h ▸ hvalid
  · exact absurd h (by simp)
  · split_ifs at h
    rw [← Except.ok.inj h]
    decide +kernel

lemma contract_load_ledger {R : Stop Raised → BudgetDisk → Prop}
    (hstop : ∀ e, ¬ (faults.look = .none ∧ faults.read_ledger = .none ∧
      ∃ ledger, disk.stored = .ok ledger) → R e disk) :
    Contract (· = disk) (ProofBudget.load_ledger faults)
      (fun ledger after => (faults.look = .none ∧ faults.read_ledger = .none ∧
        disk.stored = .ok ledger) ∧ after = disk) R := by
  refine ((contract_inspect fun hfault e s hs => ?_).know fun _ _ _ => none_of_returned).bind
    fun _ => .assume fun hlook => ?_
  · exact hs ▸ hstop e fun h => hfault h.1
  refine ((contract_inspect fun hfault e s hs => ?_).know fun _ _ _ => none_of_returned).bind
    fun _ => .assume fun hread => ?_
  · exact hs ▸ hstop e fun h => hfault h.2.1
  refine Contract.bind (Q := fun found s => found = disk ∧ s = disk)
    (.read fun s hs => ⟨hs, hs⟩) fun found => .assume fun hfound => ?_
  rw [hfound]
  refine contract_attempt (fun ledger hledger s hs => ⟨⟨hlook, hread, hledger⟩, hs⟩)
    fun e hrefused s hs => ?_
  refine hs ▸ hstop _ ?_
  rintro ⟨-, -, ledger, hledger⟩
  exact absurd (hledger.symm.trans hrefused) (by simp)

lemma contract_reserve_time :
    Contract (· = disk) (reserve_time faults request now)
      (fun session after => RunningEntry faults request now disk session after)
      fun _ after => StoppedEntry faults request now disk after := by
  have hsame : ∀ {after : BudgetDisk}, ¬ faults.Reserves request now disk → after = disk →
      StoppedEntry faults request now disk after := fun hrefused hafter =>
    Or.inl ⟨hrefused, Or.inl hafter⟩
  refine Contract.bind (Q := fun _ after => experiment_pattern request.experiment_identifier = true
    ∧ after = disk) (contract_attempt (fun _ hpattern s hs => ⟨?_, hs⟩) fun e hpattern s hs => ?_)
    fun _ => .assume fun hidentifier => ?_
  · simpa using raise_if_eq_ok.mp hpattern
  · refine hsame (fun h => ?_) hs
    rw [raise_if, if_neg (by simp [h.identifier])] at hpattern
    exact absurd hpattern (by simp)
  refine ((contract_inspect fun hfault e s hs => ?_).know fun _ _ _ => none_of_returned).bind
    fun _ => .assume fun hlock => ?_
  · exact hsame (fun h => hfault h.open_lock) hs
  refine Contract.bind (Q := fun _ after => faults.busy = false ∧ after = disk)
    (contract_attempt (fun _ hbusy s hs => ⟨?_, hs⟩) fun e hbusy s hs => ?_)
    fun _ => .assume fun hfree => ?_
  · simpa using raise_if_eq_ok.mp hbusy
  · refine hsame (fun h => ?_) hs
    rw [raise_if, if_neg (by simp [h.busy])] at hbusy
    exact absurd hbusy (by simp)
  refine (contract_load_ledger fun e hrefused => hsame (fun h => hrefused ?_) rfl).bind
    fun ledger => .assume fun hledger => ?_
  · obtain ⟨ledger, _, hstored, -, -⟩ := h.admitted
    exact ⟨h.look, h.read_ledger, ledger, hstored⟩
  obtain ⟨hlook, hread, hstored⟩ := hledger
  have hvalid := BudgetDisk.valid_stored hstored
  -- the ledger that the invocation goes on with, and the tree that it finds it in
  have hreserves : ∀ {reserved}, (ledger.active ≠ none → faults.reconcile.Succeeds disk.initialized) →
      admission request now ledger.reconciled = .ok reserved → faults.reserve.ledger.Replaces →
      faults.Reserves request now disk := fun hreconciled hadmitted hreplaces =>
    ⟨hidentifier, hlock, hfree, hlook, hread, ⟨_, _, hstored, hreconciled, hadmitted⟩, hreplaces⟩
  refine Contract.bind (Q := fun loaded after => (loaded = ledger.reconciled ∧
      (ledger.active ≠ none → faults.reconcile.Succeeds disk.initialized)) ∧
      ∃ middle, (middle = disk ∨ ledger.active ≠ none ∧
        middle.ledger = .holds ledger.reconciled) ∧ after = middle) ?_
    fun loaded => .assume fun hloaded => .exists_pre fun middle => .assume fun hmiddle => ?_
  · refine .ite (fun hidle => .pure fun s hs => ?_) fun hactive => ?_
    · exact ⟨⟨(BudgetLedger.reconciled_of_idle hidle).symm, fun h => absurd hidle h⟩, disk,
        Or.inl rfl, hs⟩
    refine ((contract_persist (BudgetLedger.valid_reconciled hvalid)).mono (fun _ => id)
      (fun _ s hs => hs) fun e s hs => ?_).bind fun _ => .assume fun hsucceeds =>
        .pure fun s hs => ?_
    · have hrefused : ¬ faults.Reserves request now disk := by
        intro h
        obtain ⟨other, _, hother, hreconciled, -⟩ := h.admitted
        obtain rfl := Except.ok.inj (hother.symm.trans hstored)
        exact hs.1 (hreconciled hactive)
      rcases hs.2 with h | h
      · exact Or.inl ⟨hrefused, Or.inr ⟨hfree, ledger, hstored, hactive, h.2⟩⟩
      · exact hsame hrefused h.2
    · exact ⟨⟨rfl, fun _ => hsucceeds⟩, s, Or.inr ⟨hactive, by rw [hs]⟩, rfl⟩
  obtain ⟨hloaded, hreconciled⟩ := hloaded
  have hstop : ¬ faults.Reserves request now disk →
      StoppedEntry faults request now disk middle := fun hrefused =>
    Or.inl ⟨hrefused, hmiddle.imp id fun h => ⟨hfree, ledger, hstored, h.1, h.2⟩⟩
  rw [hloaded]
  refine Contract.bind (Q := fun reserved after =>
      admission request now ledger.reconciled = .ok reserved ∧ after = middle)
    (contract_attempt (fun reserved hadmitted s hs => ⟨hadmitted, hs⟩) fun e hrefused s hs => ?_)
    fun reserved => .assume fun hadmitted => ?_
  · refine hs ▸ hstop fun h => ?_
    obtain ⟨other, reserved, hother, -, hadmitted⟩ := h.admitted
    obtain rfl := Except.ok.inj (hother.symm.trans hstored)
    exact absurd (hadmitted.symm.trans hrefused) (by simp)
  have hreserved : reserved.Valid := (admitted_of_admission hadmitted).valid_reserved
    (BudgetLedger.valid_reconciled hvalid) hidentifier
  refine ((contract_persist hreserved).mono (fun _ => id) (fun _ s hs => hs) fun e s hs => ?_).bind
    fun _ => .assume fun hsucceeds => .pure fun s hs => ?_
  · rcases hs.2 with ⟨hreplaces, hafter⟩ | ⟨hkept, hafter⟩
    · exact Or.inr ⟨hreserves hreconciled hadmitted hreplaces, ledger, reserved, hstored, hadmitted,
        hafter⟩
    · exact hafter ▸ hstop fun h => hkept h.replaces
  · exact ⟨hreserves hreconciled hadmitted hsucceeds.1.1, rfl, ⟨ledger, hstored, hadmitted⟩, hs⟩

/-- Entering either runs with its reservation on disk, or has stopped. -/
theorem contract_enter :
    Contract (· = disk) (enter faults request now)
      (fun session after => RunningEntry faults request now disk session after)
      fun _ after => StoppedEntry faults request now disk after := by
  refine contract_catching contract_reserve_time (fun e => ?_) fun _ => id
  cases e with
  | application failure => exact contract_raise fun _ => id
  | value_error => exact contract_raise fun _ => id
  | os_error => exact contract_raise fun _ => id

/-- A reservation is neither in the ledger before nor in the reconciled one. -/
lemma Admitted.ne {reserved : BudgetLedger} (h : Admitted request now ledger.reconciled reserved)
    (hvalid : ledger.Valid) : reserved ≠ ledger ∧ reserved ≠ ledger.reconciled := by
  have hreserved : reserved.active ≠ none := by
    rw [h.active]
    simp
  constructor
  · intro heq
    obtain ⟨active, hactive⟩ := Option.ne_none_iff_exists'.mp (heq ▸ hreserved)
    obtain ⟨-, hpositive, -⟩ := hvalid.2.2.2.1 active hactive
    have hconsumed := h.consumed_seconds
    rw [heq, BudgetLedger.reconciled, hactive] at hconsumed
    have hcharged : ledger.consumed_seconds = ledger.consumed_seconds + active.reserved_seconds :=
      hconsumed
    linarith
  · intro heq
    rw [heq] at hreserved
    exact hreserved BudgetLedger.active_reconciled

/-! ### A refused or failed entry -/

/-- The ledger that the next invocation reads is the one before, with at most an earlier abandoned
reservation charged. -/
def Uncharged (disk after : BudgetDisk) : Prop :=
  after.stored = disk.stored ∨
    ∃ ledger, disk.stored = .ok ledger ∧ after.stored = .ok ledger.reconciled

/-- An entry that raises charges nothing new exactly when the file with its reservation has not
replaced the old one. -/
theorem failed_entry_uncharged_iff {e : Raised} {after : BudgetDisk}
    (h : enter faults request now disk = (.error (.raised e), after)) :
    Uncharged disk after ↔ ¬ faults.Reserves request now disk := by
  rcases contract_enter.fails rfl h with ⟨hkept, hafter⟩ | ⟨hreserves, ledger, reserved, hstored,
    hadmitted, hafter⟩
  · refine ⟨fun _ => hkept, fun _ => ?_⟩
    rcases hafter with rfl | ⟨-, ledger, hstored, -, hafter⟩
    · exact Or.inl rfl
    · have hvalid := BudgetLedger.valid_reconciled (BudgetDisk.valid_stored hstored)
      exact Or.inr ⟨ledger, hstored, BudgetDisk.stored_of_holds hafter hvalid⟩
  · refine ⟨fun huncharged => ?_, fun hkept => absurd hreserves hkept⟩
    have hvalid := BudgetDisk.valid_stored hstored
    have hadmitted := admitted_of_admission hadmitted
    have hreserved : after.stored = .ok reserved := BudgetDisk.stored_of_holds hafter
      (hadmitted.valid_reserved (BudgetLedger.valid_reconciled hvalid) hreserves.identifier)
    obtain ⟨hbefore, hreconciled⟩ := hadmitted.ne hvalid
    rcases huncharged with hsame | ⟨other, hother, hcharged⟩
    · exact absurd (Except.ok.inj ((hreserved.symm.trans hsame).trans hstored)) hbefore
    · obtain rfl := Except.ok.inj (hother.symm.trans hstored)
      exact absurd (Except.ok.inj (hreserved.symm.trans hcharged)) hreconciled

/-- The first invocation of a project. -/
def first_request : ProofRequest where
  experiment_identifier := "first"

/-- The ledger cannot be written. -/
def unwritable_ledger : ProofFaults where
  reserve := { ledger := { write := .error () } }

/-- The ledger is written, and the marker beside it is not. -/
def unwritable_marker : ProofFaults where
  reserve := { initialized := { write := .error () } }

theorem failed_entry_uncharged_unwritable :
    Uncharged {} {} ↔ ¬ unwritable_ledger.Reserves first_request 0 {} :=
  failed_entry_uncharged_iff (show enter unwritable_ledger first_request 0 {}
    = (.error (.raised (.application verify_failure)), {}) by decide +kernel)

/-- An entry that raised has used up a slot and two hours of the project. -/
theorem failed_entry_charges_reservation :
    ¬ ∀ (faults : ProofFaults) (request : ProofRequest) (now : ℚ) (disk after : BudgetDisk)
      (e : Raised), enter faults request now disk = (.error (.raised e), after) →
        Uncharged disk after := by
  intro h
  have hraised : enter unwritable_marker first_request 0 {}
      = (.error (.raised (.application verify_failure)),
          (enter unwritable_marker first_request 0 {}).2) := by
    decide +kernel
  have hempty : ({} : BudgetDisk).stored = .ok {} := by decide +kernel
  have hcharged : (enter unwritable_marker first_request 0 {}).2.stored
      = .ok { experiments := [{ experiment_identifier := "first" }]
              active := some { experiment_identifier := "first", started_at := 0,
                               reserved_seconds := 7200 } } := by
    decide +kernel
  rcases h _ _ _ _ _ _ hraised with hsame | ⟨ledger, hstored, hreconciled⟩
  · rw [hcharged, hempty] at hsame
    exact absurd hsame (by decide +kernel)
  · obtain rfl := Except.ok.inj (hstored.symm.trans hempty)
    rw [hcharged] at hreconciled
    exact absurd hreconciled (by decide +kernel)

end StegoLab

import StegoLab.Library.Runs
import StegoLab.Training.ProofBudgetProperties

/-!
# The CPU proof budget over time

Invocations enter the budget, leave it with any elapsed time, or crash. A history keeps what each of
them has to be charged; the ledger accounts for exactly that.
-/

namespace StegoLab

open Transaction Program ProofBudget

/-! ### Histories -/

/-- The ledger directory, the invocation that runs, what ended invocations are charged, and the
experiments of crashed ones. -/
structure ProofHistory where
  disk : BudgetDisk := {}
  session : Option ProofSession := none
  charges : List (String × ℚ) := []
  crashed : List String := []

namespace ProofHistory

variable (s : ProofHistory)

/-- What all ended invocations are charged. -/
def total : ℚ :=
  (s.charges.map Prod.snd).sum

/-- What the ended invocations of one experiment are charged. -/
def charged (identifier : String) : ℚ :=
  ((s.charges.filter fun charge => charge.1 = identifier).map Prod.snd).sum

/-- An invocation ends with a charge. -/
def charge (identifier : String) (seconds : ℚ) : ProofHistory :=
  { s with charges := s.charges ++ [(identifier, seconds)] }

/-- An invocation ends without taking its reservation back: it is charged in full. -/
def abandon (active : Option ActiveBudget) : ProofHistory :=
  match active with
  | none => s
  | some active =>
    { s.charge active.experiment_identifier active.reserved_seconds with
      crashed := s.crashed ++ [active.experiment_identifier] }

end ProofHistory

/-- The reservation that an entry has written to the ledger. -/
def left_reservation (before after : LedgerFile) : Option ActiveBudget :=
  if after = before then none
  else
    match after with
    | .holds ledger => ledger.active
    | _ => none

/-- What an invocation does, with everything that it meets. -/
inductive ProofEvent where
  | enter (faults : ProofFaults) (request : ProofRequest) (now : ℚ)
  | leave (faults : PersistFaults) (elapsed : ℚ)
  | crash

/-- The history after an invocation has left: charged its time, or its reservation when the ledger
could not be replaced. -/
def ProofHistory.after_leave (s : ProofHistory) (session : ProofSession) (elapsed : ℚ)
    (disk : BudgetDisk) : ProofHistory :=
  let ended := { s with disk := disk, session := none }
  if disk.ledger = s.disk.ledger then ended.abandon session.ledger.active
  else ended.charge session.experiment_identifier (max 0 elapsed)

/-- One step. The lock is held by the invocation that runs, as long as it runs. -/
inductive ProofStep : ProofHistory → ProofEvent → ProofHistory → Prop where
  | entered {s : ProofHistory} {faults : ProofFaults} {request : ProofRequest} {now : ℚ}
      {session : ProofSession} {disk : BudgetDisk} (hbusy : faults.busy = s.session.isSome)
      (h : enter faults request now s.disk = (.ok session, disk)) :
    ProofStep s (.enter faults request now) { s with disk := disk, session := some session }
  | stopped {s : ProofHistory} {faults : ProofFaults} {request : ProofRequest} {now : ℚ}
      {stop : Stop Raised} {disk : BudgetDisk} (hbusy : faults.busy = s.session.isSome)
      (h : enter faults request now s.disk = (.error stop, disk)) :
    ProofStep s (.enter faults request now)
      ({ s with disk := disk }.abandon (left_reservation s.disk.ledger disk.ledger))
  | left {s : ProofHistory} {faults : PersistFaults} {session : ProofSession} {elapsed : ℚ}
      {outcome : Except (Stop Raised) Unit} {disk : BudgetDisk}
      (hsession : s.session = some session)
      (h : leave faults session elapsed s.disk = (outcome, disk)) :
    ProofStep s (.leave faults elapsed) (s.after_leave session elapsed disk)
  | crashed {s : ProofHistory} {session : ProofSession} (hsession : s.session = some session) :
    ProofStep s .crash ({ s with session := none }.abandon session.ledger.active)

/-! ### Charges -/

variable {s t : ProofHistory} {identifier other : String} {seconds now elapsed : ℚ}
  {ledger reserved : BudgetLedger} {request : ProofRequest} {active : ActiveBudget}

lemma ProofHistory.total_charge : (s.charge identifier seconds).total = s.total + seconds := by
  simp [total, charge]

lemma ProofHistory.charged_charge : (s.charge identifier seconds).charged other
    = s.charged other + if other = identifier then seconds else 0 := by
  by_cases h : identifier = other
  · simp [charged, charge, h]
  · simp [charged, charge, h, Ne.symm h]

/-- The experiment, or the project, has no time left. -/
def ProofHistory.Exhausted (s : ProofHistory) (identifier : String) : Prop :=
  BudgetLedger.maximum_experiment_seconds ≤ s.charged identifier ∨
    BudgetLedger.maximum_total_seconds ≤ s.total

lemma ProofHistory.Exhausted.charge (h : s.Exhausted other) (hseconds : 0 ≤ seconds) :
    (s.charge identifier seconds).Exhausted other := by
  unfold ProofHistory.Exhausted
  rw [ProofHistory.charged_charge, ProofHistory.total_charge]
  rcases h with h | h
  · left
    by_cases heq : other = identifier
    · rw [if_pos heq]
      linarith
    · rw [if_neg heq]
      linarith
  · right
    linarith

/-! ### The accounts -/

/-- The ledger charges what the history does. -/
structure Charges (s : ProofHistory) (ledger : BudgetLedger) : Prop where
  total : ledger.consumed_seconds = s.total
  charged : ∀ identifier, ledger.experiment_consumed identifier = s.charged identifier

/-- The stored ledger is valid, its totals are exact, and it accounts for the history: as it is
while its reservation runs, and reconciled when nothing runs. -/
structure Accounted (s : ProofHistory) (ledger : BudgetLedger) : Prop where
  stored : s.disk.stored = .ok ledger
  exact : ledger.consumed_seconds = ledger.experiment_seconds
  reserved : ∀ active ∈ ledger.active,
    active.reserved_seconds = ledger.allowance active.experiment_identifier
  running : ∀ session ∈ s.session, session.ledger = ledger ∧
    ∃ active, ledger.active = some active ∧
      active.experiment_identifier = session.experiment_identifier
  charges : Charges s (if s.session.isSome then ledger else ledger.reconciled)
  exhausted : ∀ identifier ∈ s.crashed, s.Exhausted identifier

lemma Accounted.valid (h : Accounted s ledger) : ledger.Valid :=
  BudgetDisk.valid_stored h.stored

lemma Charges.charge (seconds : ℚ) (h : Charges s ledger) (hmem : identifier ∈ ledger.names) :
    Charges (s.charge identifier seconds) (ledger.charge identifier seconds) where
  total := by
    rw [ProofHistory.total_charge, ← h.total]
    rfl
  charged other := by
    rw [ProofHistory.charged_charge, BudgetLedger.experiment_consumed_charge, h.charged]
    simp [hmem]

lemma Charges.congr (h : Charges s ledger) (hcharges : t.charges = s.charges) :
    Charges t ledger where
  total := by
    rw [h.total, ProofHistory.total, ProofHistory.total, hcharges]
  charged identifier := by
    rw [h.charged, ProofHistory.charged, ProofHistory.charged, hcharges]

/-- A reservation does not change what has been charged. -/
lemma Admitted.experiment_consumed (h : Admitted request now ledger reserved) :
    reserved.experiment_consumed identifier = ledger.experiment_consumed identifier := by
  rcases h.experiments with ⟨hsame, -⟩ | ⟨hnew, -, -⟩
  · simp only [BudgetLedger.experiment_consumed, hsame]
  · have hfresh : reserved.experiment_consumed identifier = BudgetLedger.experiment_consumed
        { ledger with experiments := ledger.experiments
          ++ [{ experiment_identifier := request.experiment_identifier }] } identifier := by
      simp only [BudgetLedger.experiment_consumed, hnew]
    exact hfresh.trans (BudgetLedger.experiment_consumed_append identifier)

lemma Charges.reserve (h : Charges s ledger) (hadmitted : Admitted request now ledger reserved) :
    Charges s reserved where
  total := hadmitted.consumed_seconds.trans h.total
  charged identifier := hadmitted.experiment_consumed.trans (h.charged identifier)

/-! ### Reservations that are left behind -/

lemma left_reservation_self {file : LedgerFile} : left_reservation file file = none := by
  unfold left_reservation
  exact if_pos rfl

lemma left_reservation_of_idle {file : LedgerFile} (h : ledger.active = none) :
    left_reservation file (.holds ledger) = none := by
  unfold left_reservation
  split_ifs
  · rfl
  · exact h

lemma left_reservation_of_ne {file : LedgerFile} (h : .holds ledger ≠ file) :
    left_reservation file (.holds ledger) = ledger.active := by
  unfold left_reservation
  exact if_neg h

/-! ### Steps -/

lemma Admitted.allowance (h : Admitted request now ledger reserved) :
    reserved.allowance identifier = ledger.allowance identifier := by
  rw [BudgetLedger.allowance, BudgetLedger.allowance, h.consumed_seconds, h.experiment_consumed]

lemma Admitted.exact (h : Admitted request now ledger reserved)
    (hexact : ledger.consumed_seconds = ledger.experiment_seconds) :
    reserved.consumed_seconds = reserved.experiment_seconds := by
  rw [h.consumed_seconds, hexact, BudgetLedger.experiment_seconds, BudgetLedger.experiment_seconds]
  rcases h.experiments with ⟨hsame, -⟩ | ⟨hnew, -, -⟩
  · rw [hsame]
  · rw [hnew, List.map_append, List.sum_append]
    simp

lemma BudgetLedger.exact_reconciled (hvalid : ledger.Valid)
    (hexact : ledger.consumed_seconds = ledger.experiment_seconds) :
    ledger.reconciled.consumed_seconds = ledger.reconciled.experiment_seconds := by
  unfold reconciled
  cases hactive : ledger.active with
  | none => exact hexact
  | some active =>
    have hsum := experiment_seconds_charge active.reserved_seconds hvalid.2.2.2.2.1
      (hvalid.2.2.2.2.2.2 active hactive)
    change ledger.consumed_seconds + active.reserved_seconds
      = (ledger.charge active.experiment_identifier active.reserved_seconds).experiment_seconds
    rw [hsum, hexact]

/-- A reservation that is left behind is charged in full, which exhausts its experiment or the
project. -/
lemma accounted_abandon (hsession : s.session = none) (hstored : s.disk.stored = .ok ledger)
    (hexact : ledger.consumed_seconds = ledger.experiment_seconds)
    (hactive : ledger.active = some active)
    (hreserved : active.reserved_seconds = ledger.allowance active.experiment_identifier)
    (hcharges : Charges s ledger) (hexhausted : ∀ identifier ∈ s.crashed, s.Exhausted identifier) :
    Accounted (s.abandon (some active)) ledger := by
  have hvalid := BudgetDisk.valid_stored hstored
  have hmem := hvalid.2.2.2.2.2.2 active hactive
  have hpositive : 0 < active.reserved_seconds := (hvalid.2.2.2.1 active hactive).2.1
  have hreconciled : Charges (s.charge active.experiment_identifier active.reserved_seconds)
      ledger.reconciled := by
    have hcharged := hcharges.charge active.reserved_seconds hmem
    rw [BudgetLedger.reconciled, hactive]
    exact ⟨hcharged.total, hcharged.charged⟩
  refine ⟨hstored, hexact, fun other hother => ?_, fun session h => ?_, ?_,
    fun identifier hidentifier => ?_⟩
  · obtain rfl := Option.some.inj (hactive.symm.trans hother)
    exact hreserved
  · exact absurd (hsession.symm.trans h) (by simp)
  · change Charges _ (if s.session.isSome then ledger else ledger.reconciled)
    rw [hsession]
    exact hreconciled.congr rfl
  · change (s.charge active.experiment_identifier active.reserved_seconds).Exhausted identifier
    rcases List.mem_append.mp hidentifier with hidentifier | hidentifier
    · exact (hexhausted identifier hidentifier).charge hpositive.le
    · obtain rfl := List.mem_singleton.mp hidentifier
      rw [ProofHistory.Exhausted, ProofHistory.charged_charge, ProofHistory.total_charge, if_pos rfl,
        hreserved, ← hcharges.total, ← hcharges.charged, BudgetLedger.allowance]
      rcases min_choice (BudgetLedger.maximum_total_seconds - ledger.consumed_seconds)
        (BudgetLedger.maximum_experiment_seconds
          - ledger.experiment_consumed active.experiment_identifier) with hmin | hmin
      · right
        rw [hmin]
        linarith
      · left
        rw [hmin]
        linarith

/-- What an admitted entry finds: nothing runs, and its ledger is the reconciled one. -/
lemma Accounted.idle (h : Accounted s ledger) {faults : ProofFaults}
    (hbusy : faults.busy = s.session.isSome) (hreserves : faults.busy = false) :
    s.session = none ∧ Charges s ledger.reconciled := by
  have hnone : s.session = none := by
    rw [hreserves] at hbusy
    exact Option.isNone_iff_eq_none.mp (by simpa using hbusy.symm)
  have hcharges := h.charges
  rw [hnone] at hcharges
  exact ⟨hnone, hcharges⟩

/-- Reconciling keeps the accounts. -/
lemma Accounted.reconcile (h : Accounted s ledger) (hsession : s.session = none)
    (hcharges : Charges s ledger.reconciled) {disk : BudgetDisk}
    (hdisk : disk.ledger = .holds ledger.reconciled) :
    Accounted { s with disk := disk } ledger.reconciled := by
  refine ⟨BudgetDisk.stored_of_holds hdisk (BudgetLedger.valid_reconciled h.valid),
    BudgetLedger.exact_reconciled h.valid h.exact, fun active hactive => ?_, fun session hs => ?_,
    ?_, h.exhausted⟩
  · rw [BudgetLedger.active_reconciled] at hactive
    exact absurd hactive (by simp)
  · exact absurd (hsession.symm.trans hs) (by simp)
  · change Charges _ (if s.session.isSome then ledger.reconciled else ledger.reconciled.reconciled)
    have hidle : ledger.reconciled.reconciled = ledger.reconciled :=
      BudgetLedger.reconciled_of_idle BudgetLedger.active_reconciled
    rw [hsession, hidle]
    exact hcharges.congr rfl

/-- Every step keeps the accounts. -/
theorem accounted_of_step {event : ProofEvent} (haccounted : ∃ ledger, Accounted s ledger)
    (hstep : ProofStep s event t) : ∃ ledger, Accounted t ledger := by
  obtain ⟨ledger, h⟩ := haccounted
  cases hstep with
  | @entered faults request now session disk hbusy henter =>
    obtain ⟨hreserves, hidentifier, ⟨other, hother, hadmission⟩, rfl⟩ :=
      contract_enter.returns rfl henter
    obtain rfl := Except.ok.inj (hother.symm.trans h.stored)
    have hadmitted := admitted_of_admission hadmission
    have hvalid := hadmitted.valid_reserved (BudgetLedger.valid_reconciled h.valid)
      hreserves.identifier
    obtain ⟨-, hcharges⟩ := h.idle hbusy hreserves.busy
    refine ⟨session.ledger, BudgetDisk.stored_of_holds rfl hvalid,
      hadmitted.exact (BudgetLedger.exact_reconciled h.valid h.exact), fun active hactive => ?_,
      fun running hrunning => ?_, ?_, h.exhausted⟩
    · obtain rfl := Option.some.inj (hadmitted.active.symm.trans hactive)
      exact hadmitted.allowance.symm
    · obtain rfl := Option.some.inj hrunning
      exact ⟨rfl, _, hadmitted.active, hidentifier.symm⟩
    · exact (hcharges.reserve hadmitted).congr rfl
  | @stopped faults request now stop disk hbusy henter =>
    rcases contract_enter.fails rfl henter with ⟨-, hkept | ⟨hfree, other, hother, hactive, hdisk⟩⟩ |
      ⟨hreserves, other, reserved, hother, hadmission, hdisk⟩
    · rw [hkept, left_reservation_self]
      exact ⟨ledger, h⟩
    · obtain rfl := Except.ok.inj (hother.symm.trans h.stored)
      obtain ⟨hsession, hcharges⟩ := h.idle hbusy hfree
      rw [show left_reservation s.disk.ledger disk.ledger = none by
        rw [hdisk]
        exact left_reservation_of_idle BudgetLedger.active_reconciled]
      exact ⟨_, h.reconcile hsession hcharges hdisk⟩
    · obtain rfl := Except.ok.inj (hother.symm.trans h.stored)
      have hadmitted := admitted_of_admission hadmission
      have hvalid := hadmitted.valid_reserved (BudgetLedger.valid_reconciled h.valid)
        hreserves.identifier
      obtain ⟨hsession, hcharges⟩ := h.idle hbusy hreserves.busy
      have hstored : disk.stored = .ok reserved := BudgetDisk.stored_of_holds hdisk hvalid
      have hchanged : LedgerFile.holds reserved ≠ s.disk.ledger := by
        intro hsame
        have hbefore : s.disk.stored = .ok reserved := BudgetDisk.stored_of_holds hsame.symm hvalid
        exact (hadmitted.ne h.valid).1 (Except.ok.inj (hbefore.symm.trans h.stored))
      rw [show left_reservation s.disk.ledger disk.ledger = reserved.active by
        rw [hdisk]
        exact left_reservation_of_ne hchanged, hadmitted.active]
      exact ⟨reserved, accounted_abandon hsession hstored
        (hadmitted.exact (BudgetLedger.exact_reconciled h.valid h.exact)) hadmitted.active
        hadmitted.allowance.symm ((hcharges.reserve hadmitted).congr rfl) h.exhausted⟩
  | @left faults session elapsed outcome disk hsession hleave =>
    obtain ⟨rfl, active, hactive, hidentifier⟩ := h.running session hsession
    have hrunning := h.charges
    rw [hsession] at hrunning
    have hmem := h.valid.2.2.2.2.2.2 active hactive
    rw [hidentifier] at hmem
    have helapsed : 0 ≤ max 0 elapsed := le_max_left _ _
    have hvalid := BudgetLedger.valid_charge h.valid helapsed hmem
    -- the ledger is either as it was, with the reservation, or holds the charge
    have hdisk : disk = s.disk ∨ disk.ledger = .holds
        { session.ledger.charge session.experiment_identifier (max 0 elapsed) with
          active := none } := by
      have hcontract : Contract (· = s.disk) (leave faults session elapsed)
          (fun _ after => after = s.disk ∨ after.ledger = _)
          fun _ after => after = s.disk ∨ after.ledger = _ :=
        contract_catching ((contract_persist hvalid).mono (fun _ => id)
          (fun _ _ hs => Or.inr (congrArg BudgetDisk.ledger hs.2))
          fun _ _ hs => hs.2.elim (fun h => Or.inr h.2) fun h => Or.inl h.2)
          (fun _ => contract_raise fun _ => id) fun _ => id
      cases outcome with
      | ok u => exact hcontract.returns rfl hleave
      | error stop => exact hcontract.fails rfl hleave
    unfold ProofHistory.after_leave
    by_cases hsame : disk.ledger = s.disk.ledger
    · have hstored : disk.stored = .ok session.ledger := by
        rcases hdisk with rfl | hdisk
        · exact h.stored
        · have hother : s.disk.stored = .ok _ := BudgetDisk.stored_of_holds (hsame ▸ hdisk) hvalid
          have hledger := Except.ok.inj (hother.symm.trans h.stored)
          rw [← hledger] at hactive
          exact absurd hactive (by simp)
      dsimp only
      rw [if_pos hsame, hactive]
      exact ⟨session.ledger, accounted_abandon rfl hstored h.exact hactive
        (h.reserved active hactive) (hrunning.congr rfl) h.exhausted⟩
    · have hdisk := hdisk.resolve_left fun heq => hsame (congrArg BudgetDisk.ledger heq)
      dsimp only
      rw [if_neg hsame]
      refine ⟨_, BudgetDisk.stored_of_holds hdisk hvalid, ?_, by simp,
        fun running hrunning => absurd hrunning (by simp [ProofHistory.charge]), ?_,
        fun other hother => (h.exhausted other hother).charge helapsed⟩
      · have hsum := BudgetLedger.experiment_seconds_charge (max 0 elapsed)
          h.valid.2.2.2.2.1 hmem
        change session.ledger.consumed_seconds + max 0 elapsed
          = (session.ledger.charge session.experiment_identifier (max 0 elapsed)).experiment_seconds
        rw [hsum, h.exact]
      · have hcharged := hrunning.charge (max 0 elapsed) hmem
        exact ⟨hcharged.total, hcharged.charged⟩
  | @crashed session hsession =>
    obtain ⟨rfl, active, hactive, -⟩ := h.running session hsession
    have hrunning := h.charges
    rw [hsession] at hrunning
    rw [hactive]
    exact ⟨session.ledger, accounted_abandon rfl h.stored h.exact hactive
      (h.reserved active hactive) (hrunning.congr rfl) h.exhausted⟩

/-! ### Whole histories -/

/-- The empty ledger accounts for the history without invocations. -/
lemma accounted_start : Accounted {} {} where
  stored := by decide +kernel
  exact := rfl
  reserved _ hactive := absurd hactive (by simp)
  running _ hrunning := absurd hrunning (by simp)
  charges := ⟨rfl, fun _ => rfl⟩
  exhausted _ hcrashed := absurd hcrashed (by simp)

/-- An entry is admitted only while the project and its experiment have time left, and after no
crash of the experiment. -/
lemma Accounted.admits (h : Accounted s ledger) {faults : ProofFaults} {session : ProofSession}
    {disk : BudgetDisk} (hbusy : faults.busy = s.session.isSome)
    (henter : enter faults request now s.disk = (.ok session, disk)) :
    s.total < BudgetLedger.maximum_total_seconds ∧
      s.charged request.experiment_identifier < BudgetLedger.maximum_experiment_seconds ∧
      request.experiment_identifier ∉ s.crashed := by
  obtain ⟨hreserves, -, ⟨other, hother, hadmission⟩, -⟩ := contract_enter.returns rfl henter
  obtain rfl := Except.ok.inj (hother.symm.trans h.stored)
  have hadmitted := admitted_of_admission hadmission
  have hreserved := hadmitted.valid_reserved (BudgetLedger.valid_reconciled h.valid)
    hreserves.identifier
  obtain ⟨-, hcharges⟩ := h.idle hbusy hreserves.busy
  have hpositive : 0 < other.reconciled.allowance request.experiment_identifier :=
    (hreserved.2.2.2.1 _ hadmitted.active).2.1
  rw [BudgetLedger.allowance, hcharges.total, hcharges.charged, lt_min_iff] at hpositive
  obtain ⟨htotal, hcharged⟩ := hpositive
  refine ⟨by linarith, by linarith, fun hcrashed => ?_⟩
  rcases h.exhausted _ hcrashed with hexhausted | hexhausted
  · linarith
  · linarith

/-- Over all histories of entries, exits and crashes, the stored ledger validates, is exact, has at
most two experiments and reservations of at most two hours, accounts for every charge, and bounds
what is admitted. -/
theorem budget_over_histories {events : List ProofEvent} (hrun : Run ProofStep {} events s) :
    ∃ ledger, s.disk.stored = .ok ledger ∧ ledger.Valid ∧
      ledger.consumed_seconds = ledger.experiment_seconds ∧
      ledger.experiments.length ≤ 2 ∧
      (∀ active ∈ ledger.active, 0 < active.reserved_seconds ∧ active.reserved_seconds ≤ 7200) ∧
      Charges s (if s.session.isSome then ledger else ledger.reconciled) ∧
      ∀ (faults : ProofFaults) (request : ProofRequest) (now : ℚ) (session : ProofSession)
        (disk : BudgetDisk), faults.busy = s.session.isSome →
          enter faults request now s.disk = (.ok session, disk) →
            s.total < 14400 ∧ s.charged request.experiment_identifier < 7200 ∧
              request.experiment_identifier ∉ s.crashed := by
  obtain ⟨ledger, h⟩ := hrun.invariant (P := fun s => ∃ ledger, Accounted s ledger)
    (fun h hstep => accounted_of_step h hstep) ⟨_, accounted_start⟩
  have hvalid := h.valid
  refine ⟨ledger, h.stored, hvalid, h.exact, hvalid.2.1, fun active hactive => ?_, h.charges,
    fun faults request now session disk hbusy henter => h.admits hbusy henter⟩
  exact (hvalid.2.2.2.1 active hactive).2

/-- One invocation that crashes while it runs. -/
theorem budget_over_histories_crash :
    ∃ s : ProofHistory, s.charges = [("first", 7200)] ∧ s.crashed = ["first"] ∧
      ∃ ledger, s.disk.stored = .ok ledger ∧ ledger.Valid ∧
        ledger.consumed_seconds = ledger.experiment_seconds ∧
        ledger.experiments.length ≤ 2 ∧
        (∀ active ∈ ledger.active, 0 < active.reserved_seconds ∧ active.reserved_seconds ≤ 7200) ∧
        Charges s (if s.session.isSome then ledger else ledger.reconciled) ∧
        ∀ (faults : ProofFaults) (request : ProofRequest) (now : ℚ) (session : ProofSession)
          (disk : BudgetDisk), faults.busy = s.session.isSome →
            enter faults request now s.disk = (.ok session, disk) →
              s.total < 14400 ∧ s.charged request.experiment_identifier < 7200 ∧
                request.experiment_identifier ∉ s.crashed := by
  let reserved : BudgetLedger :=
    { experiments := [{ experiment_identifier := "first" }]
      active := some { experiment_identifier := "first", started_at := 0,
                       reserved_seconds := 7200 } }
  have hentered : enter {} first_request 0 {}
      = (.ok { experiment_identifier := "first", ledger := reserved }, ⟨.holds reserved, true⟩) := by
    decide +kernel
  exact ⟨_, rfl, rfl, budget_over_histories (.cons (.entered rfl hentered)
    (.cons (.crashed rfl) .nil))⟩

end StegoLab

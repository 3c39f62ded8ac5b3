import StegoLab.Library.Contracts

/-!
# Programs that crash

A program over a disk performs one operation after another. Each operation succeeds, fails with an
exception, or is cut short by a crash of the process, which no handler sees. What a run leaves on
the disk is what its operations have done up to there, so an invariant of the program at its stops
is an invariant at every crash point.
-/

/-- What happens to one operation, and how far it got when it did not succeed. -/
inductive Fault (κ : Type) where
  | none
  | error (reached : κ)
  | crash (reached : κ)
  deriving DecidableEq

/-- The operation stops there. -/
def Fault.Stops {κ : Type} (fault : Fault κ) (reached : κ) : Prop :=
  fault = .error reached ∨ fault = .crash reached

lemma Fault.not_stops_none {κ : Type} {reached : κ} : ¬ (Fault.none : Fault κ).Stops reached := by
  rintro (h | h) <;> exact absurd h (by simp)

/-- The ways a program stops before its end. -/
inductive Stop (ε : Type) where
  | raised (exception : ε)
  | crashed
  deriving DecidableEq

/-- A program that reads and changes a disk. -/
abbrev Program (σ ε α : Type) : Type :=
  Transaction σ (Stop ε) α

namespace Program

open Transaction

variable {σ ε α β κ : Type}

/-- One operation: its whole effect, or the part that it reached. -/
def operation (fault : Fault κ) (exception : ε) (partway : κ → σ → σ) (effect : σ → σ) :
    Program σ ε Unit := fun s =>
  match fault with
  | .none => (.ok (), effect s)
  | .error reached => (.error (.raised exception), partway reached s)
  | .crash reached => (.error .crashed, partway reached s)

/-- An operation that happens whole or not at all. -/
def atomically (fault : Fault Unit) (exception : ε) (effect : σ → σ) : Program σ ε Unit :=
  operation fault exception (fun _ => id) effect

/-- An operation that only reads. -/
def inspect (fault : Fault Unit) (exception : ε) : Program σ ε Unit :=
  atomically fault exception id

/-- `raise exception`. -/
def raise (exception : ε) : Program σ ε α :=
  fun s => (.error (.raised exception), s)

/-- A computation without a disk. -/
def attempt (x : Except ε α) : Program σ ε α := fun s =>
  match x with
  | .ok a => (.ok a, s)
  | .error e => (.error (.raised e), s)

/-- The rest of a program that looks at how its first part ended. -/
def resume (program : Program σ ε α) (rest : Except (Stop ε) α → Program σ ε β) : Program σ ε β :=
  fun s => rest (program s).1 (program s).2

/-- `try: program except: handler`; a crash is not caught. -/
def catching (program : Program σ ε α) (handler : ε → Program σ ε α) : Program σ ε α :=
  resume program fun
    | .ok a => pure a
    | .error (.raised e) => handler e
    | .error .crashed => liftM (Except.error Stop.crashed : Except (Stop ε) α)

/-- `try: program finally: cleanup`. -/
def finally_do (program : Program σ ε α) (cleanup : Program σ ε Unit) : Program σ ε α :=
  resume program fun
    | .ok a => cleanup >>= fun _ => pure a
    | .error (.raised e) => cleanup >>= fun _ => raise e
    | .error .crashed => liftM (Except.error Stop.crashed : Except (Stop ε) α)

/-! ### Evaluation -/

section Evaluation

variable {exception : ε} {effect : σ → σ} {s t : σ} {a : α}

lemma operation_none {partway : κ → σ → σ} :
    operation .none exception partway effect s = (.ok (), effect s) := rfl

lemma atomically_none : atomically .none exception effect s = (.ok (), effect s) := rfl

lemma inspect_none : inspect .none exception s = (.ok (), s) := rfl

/-- A program that only looks at the disk before it continues. -/
lemma read_bind {f : σ → Program σ ε β} : (read >>= f) s = f s s := rfl

/-- An operation that returned did not stop. -/
lemma none_of_returned {fault : Fault κ} {partway : κ → σ → σ} {u : Unit}
    (h : operation fault exception partway effect s = (.ok u, t)) : fault = .none := by
  cases fault with
  | none => rfl
  | error reached => exact absurd (congrArg Prod.fst h) (by simp [operation])
  | crash reached => exact absurd (congrArg Prod.fst h) (by simp [operation])

lemma inspect_returned {fault : Fault Unit} {u : Unit}
    (h : inspect fault exception s = (.ok u, t)) : fault = .none ∧ t = s := by
  have hnone : fault = .none := none_of_returned h
  subst hnone
  exact ⟨rfl, (congrArg Prod.snd h).symm⟩

lemma attempt_returned {x : Except ε α} (h : attempt x s = (.ok a, t)) : x = .ok a ∧ t = s := by
  cases x with
  | ok b => exact ⟨congrArg Except.ok (Except.ok.inj (congrArg Prod.fst h)),
      (congrArg Prod.snd h).symm⟩
  | error e => exact absurd (congrArg Prod.fst h) (by simp [attempt])

lemma attempt_failed {x : Except ε α} {e : Stop ε} (h : attempt x s = (.error e, t)) :
    (∃ exception, x = .error exception ∧ e = .raised exception) ∧ t = s := by
  cases x with
  | ok b => exact absurd (congrArg Prod.fst h) (by simp [attempt])
  | error exception =>
    exact ⟨⟨exception, rfl, (Except.error.inj (congrArg Prod.fst h)).symm⟩,
      (congrArg Prod.snd h).symm⟩

lemma catching_of_ok {program : Program σ ε α} {handler : ε → Program σ ε α}
    (h : program s = (.ok a, t)) : catching program handler s = (.ok a, t) := by
  rw [catching, resume, h]
  rfl

lemma catching_of_raised {program : Program σ ε α} {handler : ε → Program σ ε α} {e : ε}
    (h : program s = (.error (.raised e), t)) : catching program handler s = handler e t := by
  rw [catching, resume, h]

lemma raise_not_returned {exception : ε} (h : (raise exception : Program σ ε α) s = (.ok a, t)) :
    False := by
  exact absurd (congrArg Prod.fst h) (by simp [raise])

/-- What a program with a handler returns was returned by one of them. -/
lemma catching_returned {program : Program σ ε α} {handler : ε → Program σ ε α}
    (h : catching program handler s = (.ok a, t)) :
    program s = (.ok a, t) ∨ ∃ e u, program s = (.error (.raised e), u) ∧
      handler e u = (.ok a, t) := by
  rcases hprogram : program s with ⟨(e | _) | b, u⟩
  · exact Or.inr ⟨e, u, rfl, by rwa [catching_of_raised hprogram] at h⟩
  · rw [catching, resume, hprogram] at h
    exact absurd (congrArg Prod.fst h) (by simp [liftM, monadLift, MonadLift.monadLift])
  · rw [catching_of_ok hprogram] at h
    exact Or.inl h

lemma finally_do_returned {program : Program σ ε α} {cleanup : Program σ ε Unit}
    (h : finally_do program cleanup s = (.ok a, t)) :
    ∃ u, program s = (.ok a, u) ∧ cleanup u = (.ok (), t) := by
  rcases hprogram : program s with ⟨(e | _) | b, u⟩
  · rw [finally_do, resume, hprogram] at h
    obtain ⟨_, v, -, hraise⟩ := bind_ok.mp h
    exact (raise_not_returned hraise).elim
  · rw [finally_do, resume, hprogram] at h
    exact absurd (congrArg Prod.fst h) (by simp [liftM, monadLift, MonadLift.monadLift])
  · rw [finally_do, resume, hprogram] at h
    obtain ⟨_, v, hcleanup, hpure⟩ := bind_ok.mp h
    obtain ⟨rfl, rfl⟩ := pure_ok.mp hpure
    exact ⟨u, rfl, hcleanup⟩

lemma finally_do_of_ok {program : Program σ ε α} {cleanup : Program σ ε Unit} {u : σ}
    (hprogram : program s = (.ok a, t)) (hcleanup : cleanup t = (.ok (), u)) :
    finally_do program cleanup s = (.ok a, u) := by
  rw [finally_do, resume, hprogram]
  exact bind_of_ok hcleanup

end Evaluation

/-! ### Contracts -/

variable {P : σ → Prop} {Q : α → σ → Prop} {R : Stop ε → σ → Prop} {exception : ε}

/-- An operation stops with its exception or by a crash. -/
lemma contract_operation_stops {fault : Fault κ} {partway : κ → σ → σ} {effect : σ → σ}
    {Q : Unit → σ → Prop} (heffect : ∀ s, P s → Q () (effect s))
    (hstop : ∀ reached, fault.Stops reached → ∀ e, e = .raised exception ∨ e = .crashed →
      ∀ s, P s → R e (partway reached s)) :
    Contract P (operation fault exception partway effect) Q R := by
  constructor
  · intro s a t hs hx
    cases fault with
    | none =>
      obtain rfl := congrArg Prod.snd hx
      exact heffect s hs
    | error reached => exact absurd (congrArg Prod.fst hx) (by simp [operation])
    | crash reached => exact absurd (congrArg Prod.fst hx) (by simp [operation])
  · intro s e t hs hx
    cases fault with
    | none => exact absurd (congrArg Prod.fst hx) (by simp [operation])
    | error reached =>
      obtain ⟨houtcome, rfl⟩ := Prod.ext_iff.mp hx
      exact hstop reached (Or.inl rfl) e (Or.inl (Except.error.inj houtcome).symm) s hs
    | crash reached =>
      obtain ⟨houtcome, rfl⟩ := Prod.ext_iff.mp hx
      exact hstop reached (Or.inr rfl) e (Or.inr (Except.error.inj houtcome).symm) s hs

lemma contract_operation {fault : Fault κ} {partway : κ → σ → σ} {effect : σ → σ}
    {Q : Unit → σ → Prop} (heffect : ∀ s, P s → Q () (effect s))
    (hstop : ∀ reached, fault.Stops reached → ∀ e s, P s → R e (partway reached s)) :
    Contract P (operation fault exception partway effect) Q R :=
  contract_operation_stops heffect fun reached hreached e _ => hstop reached hreached e

/-- An operation whose stops are all allowed where it starts. -/
lemma contract_atomically {fault : Fault Unit} {effect : σ → σ} {Q : Unit → σ → Prop}
    (heffect : ∀ s, P s → Q () (effect s)) (hstop : fault ≠ .none → ∀ e s, P s → R e s) :
    Contract P (atomically fault exception effect) Q R :=
  contract_operation heffect fun _ hreached =>
    hstop fun hnone => Fault.not_stops_none (hnone ▸ hreached)

/-- An operation that happens whole or not at all, by how it stops. -/
lemma contract_atomically_stops {fault : Fault Unit} {effect : σ → σ} {Q : Unit → σ → Prop}
    (heffect : ∀ s, P s → Q () (effect s))
    (hstop : ∀ e, e = .raised exception ∨ e = .crashed → ∀ s, P s → R e s) :
    Contract P (atomically fault exception effect) Q R :=
  contract_operation_stops heffect fun _ _ => hstop

lemma contract_inspect {fault : Fault Unit} (hstop : fault ≠ .none → ∀ e s, P s → R e s) :
    Contract P (inspect fault exception) (fun _ => P) R :=
  contract_atomically (fun _ => id) hstop

lemma contract_raise (h : ∀ s, P s → R (.raised exception) s) :
    Contract P (raise exception : Program σ ε α) Q R := by
  constructor
  · intro s a t _ hx
    exact absurd (congrArg Prod.fst hx) (by simp [raise])
  · intro s e t hs hx
    obtain ⟨houtcome, rfl⟩ := Prod.ext_iff.mp hx
    obtain rfl := Except.error.inj houtcome
    exact h _ hs

lemma contract_attempt {x : Except ε α} (hok : ∀ a, x = .ok a → ∀ s, P s → Q a s)
    (herror : ∀ e, x = .error e → ∀ s, P s → R (.raised e) s) :
    Contract P (attempt x) Q R := by
  constructor
  · intro s a t hs hx
    cases x with
    | ok b =>
      obtain ⟨houtcome, rfl⟩ := Prod.ext_iff.mp hx
      obtain rfl := Except.ok.inj houtcome
      exact hok _ rfl _ hs
    | error e => exact absurd (congrArg Prod.fst hx) (by simp [attempt])
  · intro s e t hs hx
    cases x with
    | ok b => exact absurd (congrArg Prod.fst hx) (by simp [attempt])
    | error e' =>
      obtain ⟨houtcome, rfl⟩ := Prod.ext_iff.mp hx
      obtain rfl := Except.error.inj houtcome
      exact herror _ rfl _ hs

lemma contract_resume {program : Program σ ε α} {rest : Except (Stop ε) α → Program σ ε β}
    {Q' : β → σ → Prop} {R' : Stop ε → σ → Prop} (hprogram : Contract P program Q R)
    (hok : ∀ a, Contract (Q a) (rest (.ok a)) Q' R')
    (herror : ∀ e, Contract (R e) (rest (.error e)) Q' R') :
    Contract P (resume program rest) Q' R' := by
  constructor
  · intro s b t hs hx
    rcases h : program s with ⟨e | a, u⟩
    · rw [resume, h] at hx
      exact (herror e).returns (hprogram.fails hs h) hx
    · rw [resume, h] at hx
      exact (hok a).returns (hprogram.returns hs h) hx
  · intro s e t hs hx
    rcases h : program s with ⟨e' | a, u⟩
    · rw [resume, h] at hx
      exact (herror e').fails (hprogram.fails hs h) hx
    · rw [resume, h] at hx
      exact (hok a).fails (hprogram.returns hs h) hx

/-- A crash leaves things as the crashed operation left them. -/
lemma contract_crashed (h : ∀ s, P s → R .crashed s) :
    Contract P (liftM (Except.error Stop.crashed : Except (Stop ε) α) : Program σ ε α) Q R :=
  .lift (fun _ h => absurd h (by simp)) fun _ he s hs => Except.error.inj he ▸ h s hs

lemma contract_catching {program : Program σ ε α} {handler : ε → Program σ ε α}
    {S : Stop ε → σ → Prop} (hprogram : Contract P program Q S)
    (hhandler : ∀ e, Contract (S (.raised e)) (handler e) Q R)
    (hcrash : ∀ s, S .crashed s → R .crashed s) : Contract P (catching program handler) Q R := by
  refine contract_resume hprogram (fun a => .pure fun _ => id) fun e => ?_
  cases e with
  | raised e => exact hhandler e
  | crashed => exact contract_crashed hcrash

/-- A cleanup from every end that is not a crash. -/
lemma contract_finally_do {program : Program σ ε α} {cleanup : Program σ ε Unit}
    {S : α → σ → Prop} {T : Stop ε → σ → Prop} (hprogram : Contract P program S T)
    (hreturned : ∀ a, Contract (S a) cleanup (fun _ => Q a) R)
    (hraised : ∀ e, Contract (T (.raised e)) cleanup (fun _ => R (.raised e)) R)
    (hcrash : ∀ s, T .crashed s → R .crashed s) : Contract P (finally_do program cleanup) Q R := by
  refine contract_resume hprogram (fun a => (hreturned a).bind fun _ => .pure fun _ => id)
    fun e => ?_
  cases e with
  | raised e => exact (hraised e).bind fun _ => contract_raise fun _ => id
  | crashed => exact contract_crashed hcrash

/-- A cleanup that keeps what holds at the end of the program. -/
lemma contract_finally {program : Program σ ε α} {cleanup : Program σ ε Unit}
    (hprogram : Contract P program Q R)
    (hreturned : ∀ a, Contract (Q a) cleanup (fun _ => Q a) R)
    (hraised : ∀ e, Contract (R (.raised e)) cleanup (fun _ => R (.raised e)) R) :
    Contract P (finally_do program cleanup) Q R :=
  contract_finally_do hprogram hreturned hraised fun _ => id

/-- What follows a look at the disk, from each disk that it can see. -/
lemma contract_read_bind {f : σ → Program σ ε β} {Q : β → σ → Prop}
    (h : ∀ s, P s → Contract (· = s) (f s) Q R) : Contract P (Transaction.read >>= f) Q R where
  returns hs hx := (h _ hs).returns rfl hx
  fails hs hx := (h _ hs).fails rfl hx

/-- A check that passes. -/
lemma contract_attempt_bind {x : Except ε α} {f : α → Program σ ε β} {a : α} {Q : β → σ → Prop}
    (hx : x = .ok a) (h : Contract P (f a) Q R) : Contract P (attempt x >>= f) Q R := by
  rw [hx]
  exact h

/-- A handler that raises another exception. -/
lemma contract_translate {program : Program σ ε α} {handler : ε → Program σ ε α} {S : σ → Prop}
    (hprogram : Contract P program Q fun _ => S) (hhandler : ∀ e, ∃ e', handler e = raise e') :
    Contract P (catching program handler) Q fun _ => S := by
  apply contract_catching hprogram
  · intro e
    obtain ⟨e', he'⟩ := hhandler e
    rw [he']
    exact contract_raise fun _ => id
  · exact fun _ => id

end Program

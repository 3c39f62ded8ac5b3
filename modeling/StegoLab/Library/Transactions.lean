import StegoLab.Failures

/-!
# Transactions over a store

A transaction returns or fails, and leaves a store behind in either case. It is atomic when a
failure leaves the store as it was.
-/

/-- A computation that reads and replaces a store, and may fail. -/
def Transaction (σ ε α : Type) : Type :=
  σ → Except ε α × σ

namespace Transaction

variable {σ ε α β : Type}

instance : Monad (Transaction σ ε) where
  pure a := fun s => (.ok a, s)
  bind x f := fun s =>
    match x s with
    | (.ok a, t) => f a t
    | (.error e, t) => (.error e, t)

instance : MonadLift (Except ε) (Transaction σ ε) where
  monadLift x := fun s => (x, s)

def read : Transaction σ ε σ :=
  fun s => (.ok s, s)

def write (s : σ) : Transaction σ ε Unit :=
  fun _ => (.ok (), s)

/-- Run a handler when a computation fails, from the store that it leaves. -/
def rescue (x : Transaction σ ε α) (handler : ε → Transaction σ ε α) : Transaction σ ε α :=
  fun s =>
    match x s with
    | (.ok a, t) => (.ok a, t)
    | (.error e, t) => handler e t

/-- Run a transaction on one part of a larger store. -/
def within {τ : Type} (part : τ → σ) (replace : σ → τ → τ) (x : Transaction σ ε α) :
    Transaction τ ε α :=
  fun t => ((x (part t)).1, replace (x (part t)).2 t)

/-! ### Results -/

lemma bind_apply {x : Transaction σ ε α} {f : α → Transaction σ ε β} {s : σ} :
    (x >>= f) s = match x s with
      | (.ok a, t) => f a t
      | (.error e, t) => (.error e, t) := rfl

lemma pure_apply {s : σ} {a : α} : (pure a : Transaction σ ε α) s = (.ok a, s) := rfl

lemma read_apply {s : σ} : (read : Transaction σ ε σ) s = (.ok s, s) := rfl

/-- A first step that returns. -/
lemma bind_of_ok {x : Transaction σ ε α} {f : α → Transaction σ ε β} {s t : σ} {a : α}
    (h : x s = (.ok a, t)) : (x >>= f) s = f a t := by
  simp only [bind, h]

/-- A first step that fails. -/
lemma bind_of_error {x : Transaction σ ε α} {f : α → Transaction σ ε β} {s t : σ} {e : ε}
    (h : x s = (.error e, t)) : (x >>= f) s = (.error e, t) := by
  simp only [bind, h]

/-- A sequence returns when its first step does and its rest does from the store that leaves. -/
lemma bind_ok {x : Transaction σ ε α} {f : α → Transaction σ ε β} {s t : σ} {b : β} :
    (x >>= f) s = (.ok b, t) ↔ ∃ a u, x s = (.ok a, u) ∧ f a u = (.ok b, t) := by
  change (match x s with
    | (.ok a, u) => f a u
    | (.error e, u) => (.error e, u)) = (.ok b, t) ↔ _
  rcases x s with ⟨outcome, u⟩
  cases outcome with
  | error e => simp
  | ok a => simp

/-- A sequence fails when its first step does, or its rest does from the store that leaves. -/
lemma bind_error {x : Transaction σ ε α} {f : α → Transaction σ ε β} {s t : σ} {e : ε} :
    (x >>= f) s = (.error e, t) ↔
      x s = (.error e, t) ∨ ∃ a u, x s = (.ok a, u) ∧ f a u = (.error e, t) := by
  change (match x s with
    | (.ok a, u) => f a u
    | (.error e, u) => (.error e, u)) = (.error e, t) ↔ _
  rcases x s with ⟨outcome, u⟩
  cases outcome with
  | error e => simp
  | ok a => simp

/-- Either way of ending. -/
lemma bind_cases {x : Transaction σ ε α} {f : α → Transaction σ ε β} {s t : σ}
    {outcome : Except ε β} (h : (x >>= f) s = (outcome, t)) :
    (∃ e, x s = (.error e, t) ∧ outcome = .error e) ∨
      ∃ a u, x s = (.ok a, u) ∧ f a u = (outcome, t) := by
  cases outcome with
  | error e =>
    rcases bind_error.mp h with h | h
    · exact Or.inl ⟨e, h, rfl⟩
    · exact Or.inr h
  | ok b => exact Or.inr (bind_ok.mp h)

lemma pure_ok {s t : σ} {a b : α} :
    (pure a : Transaction σ ε α) s = (.ok b, t) ↔ a = b ∧ s = t := by
  change ((Except.ok a : Except ε α), s) = (.ok b, t) ↔ _
  simp

lemma pure_cases {s t : σ} {a : α} {outcome : Except ε α}
    (h : (pure a : Transaction σ ε α) s = (outcome, t)) : outcome = .ok a ∧ t = s :=
  ⟨(congrArg Prod.fst h).symm, (congrArg Prod.snd h).symm⟩

lemma lift_ok {x : Except ε α} {s t : σ} {a : α} :
    (liftM x : Transaction σ ε α) s = (.ok a, t) ↔ x = .ok a ∧ s = t := by
  change (x, s) = (.ok a, t) ↔ _
  simp

lemma lift_bind {x : Except ε α} {f : α → Transaction σ ε β} {s : σ} :
    (liftM x >>= f) s =
      match x with
      | .ok a => f a s
      | .error e => (.error e, s) := by
  cases x <;> rfl

/-- A guard or a computation that does not touch the store, before the rest. -/
lemma lift_bind_ok {x : Except ε α} {f : α → Transaction σ ε β} {s t : σ} {b : β} :
    (liftM x >>= f) s = (.ok b, t) ↔ ∃ a, x = .ok a ∧ f a s = (.ok b, t) := by
  rw [bind_ok]
  constructor
  · rintro ⟨a, u, hlift, hf⟩
    obtain ⟨hx, rfl⟩ := lift_ok.mp hlift
    exact ⟨a, hx, hf⟩
  · rintro ⟨a, hx, hf⟩
    exact ⟨a, s, lift_ok.mpr ⟨hx, rfl⟩, hf⟩

lemma read_ok {s t u : σ} : (read : Transaction σ ε σ) s = (.ok u, t) ↔ s = u ∧ s = t := by
  simp [read]

lemma write_ok {s t u : σ} {a : Unit} :
    (write u : Transaction σ ε Unit) s = (.ok a, t) ↔ u = t := by
  simp [write]

lemma rescue_ok {x : Transaction σ ε α} {handler : ε → Transaction σ ε α} {s t : σ} {a : α} :
    rescue x handler s = (.ok a, t) ↔
      x s = (.ok a, t) ∨ ∃ e u, x s = (.error e, u) ∧ handler e u = (.ok a, t) := by
  unfold rescue
  rcases x s with ⟨outcome, u⟩
  cases outcome with
  | error e => simp
  | ok a => simp

lemma rescue_error {x : Transaction σ ε α} {handler : ε → Transaction σ ε α} {s t : σ} {e : ε} :
    rescue x handler s = (.error e, t) ↔
      ∃ e' u, x s = (.error e', u) ∧ handler e' u = (.error e, t) := by
  unfold rescue
  rcases x s with ⟨outcome, u⟩
  cases outcome with
  | error e => simp
  | ok a => simp

/-! ### Atomicity -/

/-- The store stays as it is. -/
def ReadOnly (x : Transaction σ ε α) : Prop :=
  ∀ s outcome t, x s = (outcome, t) → t = s

/-- A failure leaves the store as it was. -/
def Atomic (x : Transaction σ ε α) : Prop :=
  ∀ s e t, x s = (.error e, t) → t = s

lemma readOnly_lift (x : Except ε α) : ReadOnly (liftM x : Transaction σ ε α) :=
  fun _ _ _ h => (congrArg Prod.snd h).symm

lemma readOnly_pure (a : α) : ReadOnly (pure a : Transaction σ ε α) :=
  fun _ _ _ h => (congrArg Prod.snd h).symm

lemma readOnly_read : ReadOnly (read : Transaction σ ε σ) :=
  fun _ _ _ h => (congrArg Prod.snd h).symm

lemma ReadOnly.bind {x : Transaction σ ε α} {f : α → Transaction σ ε β} (hx : ReadOnly x)
    (hf : ∀ a, ReadOnly (f a)) : ReadOnly (x >>= f) := by
  intro s outcome t h
  cases outcome with
  | error e =>
    rcases bind_error.mp h with h | ⟨a, u, hfirst, h⟩
    · exact hx _ _ _ h
    · exact (hf a _ _ _ h).trans (hx _ _ _ hfirst)
  | ok b =>
    obtain ⟨a, u, hfirst, h⟩ := bind_ok.mp h
    exact (hf a _ _ _ h).trans (hx _ _ _ hfirst)

lemma ReadOnly.atomic {x : Transaction σ ε α} (hx : ReadOnly x) : Atomic x :=
  fun _ _ _ h => hx _ _ _ h

lemma atomic_write (s : σ) : Atomic (write s : Transaction σ ε Unit) :=
  fun _ _ _ h => absurd h (by simp [write])

lemma eq_of_error {x : Transaction σ ε α} {s t : σ} {e : ε} (h : x s = (.error e, t))
    (hx : Atomic x) : t = s :=
  hx s e t h

/-- Reading before the rest: either it fails there, or the rest starts from the same store. -/
lemma ReadOnly.bind_cases {x : Transaction σ ε α} (hx : ReadOnly x) {f : α → Transaction σ ε β}
    {s t : σ} {outcome : Except ε β} (h : (x >>= f) s = (outcome, t)) :
    (t = s ∧ ∃ e, outcome = .error e) ∨ ∃ a, x s = (.ok a, s) ∧ f a s = (outcome, t) := by
  rcases Transaction.bind_cases h with ⟨e, hfails, hraised⟩ | ⟨a, u, hfirst, hrest⟩
  · exact Or.inl ⟨hx _ _ _ hfails, e, hraised⟩
  · obtain rfl := hx _ _ _ hfirst
    exact Or.inr ⟨a, hfirst, hrest⟩

/-- Reading before an atomic step. -/
lemma ReadOnly.atomic_bind {x : Transaction σ ε α} {f : α → Transaction σ ε β} (hx : ReadOnly x)
    (hf : ∀ a, Atomic (f a)) : Atomic (x >>= f) := by
  intro s e t h
  rcases bind_error.mp h with h | ⟨a, u, hfirst, h⟩
  · exact hx _ _ _ h
  · exact (hf a _ _ _ h).trans (hx _ _ _ hfirst)

/-- Returning after an atomic step. -/
lemma Atomic.bind_pure {x : Transaction σ ε α} (hx : Atomic x) (g : α → β) :
    Atomic (x >>= fun a => pure (g a)) := by
  intro s e t h
  rcases bind_error.mp h with h | ⟨a, u, -, h⟩
  · exact hx _ _ _ h
  · have houtcome : (Except.ok (g a) : Except ε β) = .error e := congrArg Prod.fst h
    exact absurd houtcome (by simp)

end Transaction

import StegoLab.Library.Transactions

/-!
# Contracts of transactions

A contract names what holds of the store when a transaction returns and when it fails, from every
store with its precondition. Contracts compose along sequences and loops.
-/

namespace Transaction

variable {σ ε α β : Type}

/-- From a store with `P`, the transaction returns with `Q` or fails with `R`. -/
structure Contract (P : σ → Prop) (x : Transaction σ ε α) (Q : α → σ → Prop)
    (R : ε → σ → Prop) : Prop where
  returns : ∀ {s a t}, P s → x s = (.ok a, t) → Q a t
  fails : ∀ {s e t}, P s → x s = (.error e, t) → R e t

/-- A transaction that always leaves a store with `P` behind. -/
abbrev Keeps (P : σ → Prop) (x : Transaction σ ε α) : Prop :=
  Contract P x (fun _ => P) fun _ => P

namespace Contract

variable {P P' : σ → Prop} {x : Transaction σ ε α} {Q Q' : α → σ → Prop} {R R' : ε → σ → Prop}

/-! ### Consequence -/

lemma mono (h : Contract P x Q R) (hP : ∀ s, P' s → P s) (hQ : ∀ a s, Q a s → Q' a s)
    (hR : ∀ e s, R e s → R' e s) : Contract P' x Q' R' where
  returns hs hx := hQ _ _ (h.returns (hP _ hs) hx)
  fails hs hx := hR _ _ (h.fails (hP _ hs) hx)

lemma strengthen (h : Contract P x Q R) (hP : ∀ s, P' s → P s) : Contract P' x Q R :=
  h.mono hP (fun _ _ => id) fun _ _ => id

lemma weaken (h : Contract P x Q R) (hQ : ∀ a s, Q a s → Q' a s) : Contract P x Q' R :=
  h.mono (fun _ => id) hQ fun _ _ => id

/-- What either way of ending leaves behind. -/
lemma ends {S : σ → Prop} {s t : σ} {outcome : Except ε α}
    (h : Contract P x (fun _ => S) fun _ => S) (hs : P s) (hx : x s = (outcome, t)) : S t := by
  cases outcome with
  | ok a => exact h.returns hs hx
  | error e => exact h.fails hs hx

/-- A precondition that does not depend on the store. -/
lemma assume {p : Prop} (h : p → Contract P x Q R) : Contract (fun s => p ∧ P s) x Q R where
  returns hs hx := (h hs.1).returns hs.2 hx
  fails hs hx := (h hs.1).fails hs.2 hx

/-- A fact that follows from the return alone. -/
lemma know {p : Prop} (h : Contract P x Q R) (hp : ∀ s a t, x s = (.ok a, t) → p) :
    Contract P x (fun a s => p ∧ Q a s) R where
  returns hs hx := ⟨hp _ _ _ hx, h.returns hs hx⟩
  fails hs hx := h.fails hs hx

/-- Two contracts of one transaction. -/
lemma both (h : Contract P x Q R) (h' : Contract P' x Q' R') :
    Contract (fun s => P s ∧ P' s) x (fun a s => Q a s ∧ Q' a s) fun e s => R e s ∧ R' e s where
  returns hs hx := ⟨h.returns hs.1 hx, h'.returns hs.2 hx⟩
  fails hs hx := ⟨h.fails hs.1 hx, h'.fails hs.2 hx⟩

lemma exists_pre {ι : Type} {P : ι → σ → Prop} (h : ∀ i, Contract (P i) x Q R) :
    Contract (fun s => ∃ i, P i s) x Q R where
  returns hs hx := let ⟨i, hi⟩ := hs; (h i).returns hi hx
  fails hs hx := let ⟨i, hi⟩ := hs; (h i).fails hi hx

/-- A contract from each store of the precondition. -/
lemma from_each (h : ∀ s, P s → Contract (· = s) x Q R) : Contract P x Q R where
  returns hs hx := (h _ hs).returns rfl hx
  fails hs hx := (h _ hs).fails rfl hx

/-! ### Single steps -/

lemma pure {a : α} (h : ∀ s, P s → Q a s) : Contract P (pure a) Q R where
  returns hs hx := by
    obtain ⟨rfl, rfl⟩ := pure_ok.mp hx
    exact h _ hs
  fails _ hx := by
    obtain ⟨houtcome, -⟩ := pure_cases hx
    exact absurd houtcome (by simp)

lemma read {Q : σ → σ → Prop} (h : ∀ s, P s → Q s s) : Contract P (read : Transaction σ ε σ) Q R where
  returns hs hx := by
    obtain ⟨rfl, rfl⟩ := read_ok.mp hx
    exact h _ hs
  fails _ hx := absurd (congrArg Prod.fst hx) (by simp [Transaction.read])

lemma write {s : σ} {Q : Unit → σ → Prop} (h : ∀ t, P t → Q () s) :
    Contract P (write s : Transaction σ ε Unit) Q R where
  returns hs hx := by
    obtain rfl := write_ok.mp hx
    exact h _ hs
  fails _ hx := absurd (congrArg Prod.fst hx) (by simp [Transaction.write])

/-- A computation that does not touch the store. -/
lemma lift {y : Except ε α} (hok : ∀ a, y = .ok a → ∀ s, P s → Q a s)
    (herror : ∀ e, y = .error e → ∀ s, P s → R e s) :
    Contract P (liftM y : Transaction σ ε α) Q R where
  returns hs hx := by
    obtain ⟨hy, rfl⟩ := lift_ok.mp hx
    exact hok _ hy _ hs
  fails hs hx := by
    obtain ⟨hy, rfl⟩ := Prod.ext_iff.mp hx
    exact herror _ hy _ hs

/-- What holds of a part, beside the rest of the store as it was. -/
lemma within {τ : Type} {part : τ → σ} {replace : σ → τ → τ} {P : τ → Prop} {Q : α → τ → Prop}
    {R : ε → τ → Prop} (h : ∀ t, P t → Contract (· = part t) x (fun a s => Q a (replace s t))
      fun e s => R e (replace s t)) :
    Contract P (within part replace x) Q R where
  returns ht hx := by
    obtain ⟨houtcome, rfl⟩ := Prod.ext_iff.mp hx
    exact (h _ ht).returns rfl (Prod.ext houtcome rfl)
  fails ht hx := by
    obtain ⟨houtcome, rfl⟩ := Prod.ext_iff.mp hx
    exact (h _ ht).fails rfl (Prod.ext houtcome rfl)

/-- A transaction that only reads. -/
lemma of_readOnly (hx : ReadOnly x) (hR : ∀ e s, P s → R e s) : Contract P x (fun _ => P) R where
  returns hs h := hx _ _ _ h ▸ hs
  fails hs h := hR _ _ (hx _ _ _ h ▸ hs)

/-! ### Sequences and branches -/

lemma bind {f : α → Transaction σ ε β} {S : β → σ → Prop} (hx : Contract P x Q R)
    (hf : ∀ a, Contract (Q a) (f a) S R) : Contract P (x >>= f) S R where
  returns hs h := by
    obtain ⟨a, u, hfirst, hrest⟩ := bind_ok.mp h
    exact (hf a).returns (hx.returns hs hfirst) hrest
  fails hs h := by
    rcases bind_error.mp h with hfirst | ⟨a, u, hfirst, hrest⟩
    · exact hx.fails hs hfirst
    · exact (hf a).fails (hx.returns hs hfirst) hrest

lemma ite {c : Prop} [Decidable c] {y : Transaction σ ε α} (ht : c → Contract P x Q R)
    (he : ¬ c → Contract P y Q R) : Contract P (if c then x else y) Q R := by
  by_cases h : c
  · rw [if_pos h]
    exact ht h
  · rw [if_neg h]
    exact he h

end Contract

end Transaction

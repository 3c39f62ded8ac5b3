import Mathlib.Tactic.Common

/-!
# Failures

`ApplicationFailure` carries the public code, message and response status of a refused operation.
A modelled function that can raise returns `Except Raised`.
-/

namespace StegoLab

/-- An application failure with a message safe for clients and logs. -/
structure ApplicationFailure where
  code : String
  message : String
  status_code : Nat := 503
  deriving DecidableEq, Repr

/-- Saved state that is unavailable or invalid. -/
def StorageFailure : ApplicationFailure where
  code := "storage_unavailable"
  message := "Saved data could not be read or written. Check storage access and "
    ++ "free space, then retry. Existing saved data has been kept."

/-- The exceptions that can leave a modelled function. -/
inductive Raised where
  | application (failure : ApplicationFailure)
  | value_error
  | os_error
  deriving DecidableEq, Repr

/-- Raise an application failure. -/
def fail {α : Type} (failure : ApplicationFailure) : Except Raised α :=
  .error (.application failure)

/-! ### Guards and sequences -/

/-- `if condition: raise exception`. -/
def raise_if {ε : Type} (condition : Prop) [Decidable condition] (exception : ε) : Except ε Unit :=
  if condition then .error exception else .ok ()

@[simp] theorem raise_if_eq_ok {ε : Type} {condition : Prop} [Decidable condition] {exception : ε}
    {u : Unit} : raise_if condition exception = .ok u ↔ ¬ condition := by
  unfold raise_if
  by_cases h : condition
  · simp [h]
  · simp [h]

/-- A sequence returns when its first step does and its rest does on that value. -/
theorem bind_eq_ok {ε α β : Type} {x : Except ε α} {f : α → Except ε β} {b : β} :
    (x >>= f) = .ok b ↔ ∃ a, x = .ok a ∧ f a = .ok b := by
  cases x with
  | error e => simp [bind, Except.bind]
  | ok a => simp [bind, Except.bind]

theorem pure_eq_ok {ε α : Type} {a b : α} : (pure a : Except ε α) = .ok b ↔ a = b :=
  ⟨Except.ok.inj, congrArg Except.ok⟩

/-- A translation of the failures keeps what is returned. -/
lemma mapError_eq_ok {ε ε' α : Type} {x : Except ε α} {f : ε → ε'} {a : α} :
    x.mapError f = .ok a ↔ x = .ok a := by
  cases x with
  | error e => simp [Except.mapError]
  | ok b => simp [Except.mapError]

lemma exists_of_isOk {ε α : Type} {x : Except ε α} (h : x.isOk = true) : ∃ a, x = .ok a := by
  cases x with
  | error e => exact absurd h (by simp [Except.isOk, Except.toBool])
  | ok a => exact ⟨a, rfl⟩

/-! ### Loops -/

section Loops

variable {ε α β : Type}

/-- A check of every item passes when it passes for each. -/
lemma forM_eq_ok {f : α → Except ε PUnit} {items : List α} {u : PUnit} :
    items.forM f = .ok u ↔ ∀ item ∈ items, f item = .ok () := by
  induction items with
  | nil => exact ⟨fun _ _ hitem => absurd hitem List.not_mem_nil, fun _ => rfl⟩
  | cons item items ih =>
    change (f item >>= fun _ => items.forM f) = .ok u ↔ _
    rw [bind_eq_ok, List.forall_mem_cons]
    constructor
    · rintro ⟨_, hitem, hitems⟩
      exact ⟨hitem, ih.mp hitems⟩
    · rintro ⟨hitem, hitems⟩
      exact ⟨(), hitem, ih.mpr hitems⟩

/-- A loop depends on its step only at the items that it runs over. -/
lemma foldlM_congr {f g : β → α → Except ε β} {items : List α}
    (h : ∀ item ∈ items, ∀ b, f b item = g b item) (b : β) : items.foldlM f b = items.foldlM g b := by
  induction items generalizing b with
  | nil => rfl
  | cons item items ih =>
    rw [List.foldlM_cons, List.foldlM_cons, h item List.mem_cons_self]
    congr 1
    funext b'
    exact ih (fun item hitem => h item (List.mem_cons_of_mem _ hitem)) b'

lemma filterMapM_congr {f g : α → Except ε (Option β)} {items : List α}
    (h : ∀ item ∈ items, f item = g item) : items.filterMapM f = items.filterMapM g := by
  induction items with
  | nil => rfl
  | cons item items ih =>
    rw [List.filterMapM_cons, List.filterMapM_cons, h item List.mem_cons_self,
      ih fun item hitem => h item (List.mem_cons_of_mem _ hitem)]

/-- A loop that returns has a value for every item, and collects those that are there. -/
lemma filterMapM_eq_ok {f : α → Except ε (Option β)} {g : α → Option β} {items : List α}
    {values : List β} (h : items.filterMapM f = .ok values)
    (hg : ∀ item ∈ items, ∀ value, f item = .ok value → g item = value) :
    (∀ item ∈ items, f item = .ok (g item)) ∧ values = items.filterMap g := by
  induction items generalizing values with
  | nil => exact ⟨fun _ hitem => absurd hitem List.not_mem_nil, (pure_eq_ok.mp h).symm⟩
  | cons item items ih =>
    rw [List.filterMapM_cons] at h
    obtain ⟨outcome, hitem, h⟩ := bind_eq_ok.mp h
    obtain rfl := hg item List.mem_cons_self outcome hitem
    have hothers := fun other hother => hg other (List.mem_cons_of_mem _ hother)
    rw [List.forall_mem_cons]
    cases hvalue : g item with
    | none =>
      rw [hvalue] at h hitem
      rw [List.filterMap_cons_none hvalue]
      exact ⟨⟨hitem, (ih h hothers).1⟩, (ih h hothers).2⟩
    | some value =>
      rw [hvalue] at h hitem
      obtain ⟨rest, hrest, h⟩ := bind_eq_ok.mp h
      rw [List.filterMap_cons_some hvalue, ← (ih hrest hothers).2]
      exact ⟨⟨hitem, (ih hrest hothers).1⟩, (pure_eq_ok.mp h).symm⟩

/-- Every collected value comes from an item. -/
lemma exists_of_mem_filterMapM {f : α → Except ε (Option β)} {items : List α}
    {values : List β} (h : items.filterMapM f = .ok values) {value : β} (hvalue : value ∈ values) :
    ∃ item ∈ items, f item = .ok (some value) := by
  induction items generalizing values with
  | nil =>
    obtain rfl := pure_eq_ok.mp h
    exact absurd hvalue List.not_mem_nil
  | cons item items ih =>
    rw [List.filterMapM_cons] at h
    obtain ⟨outcome, hitem, h⟩ := bind_eq_ok.mp h
    cases outcome with
    | none =>
      obtain ⟨item', hitem', hf⟩ := ih h hvalue
      exact ⟨item', List.mem_cons_of_mem _ hitem', hf⟩
    | some first =>
      obtain ⟨rest, hrest, h⟩ := bind_eq_ok.mp h
      obtain rfl := pure_eq_ok.mp h
      rcases List.mem_cons.mp hvalue with rfl | hvalue
      · exact ⟨item, List.mem_cons_self, hitem⟩
      · obtain ⟨item', hitem', hf⟩ := ih hrest hvalue
        exact ⟨item', List.mem_cons_of_mem _ hitem', hf⟩

end Loops

end StegoLab

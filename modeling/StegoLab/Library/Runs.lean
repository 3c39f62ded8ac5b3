import Mathlib.Data.List.Basic
import Mathlib.Order.Defs.PartialOrder

/-!
# Runs of transition relations

A run is a finite sequence of labelled steps. What every step keeps, every run keeps.
-/

variable {σ ε : Type*}

/-- The runs of a labelled step relation. -/
inductive Run (step : σ → ε → σ → Prop) : σ → List ε → σ → Prop where
  | nil {s : σ} : Run step s [] s
  | cons {s t u : σ} {event : ε} {events : List ε} :
    step s event t → Run step t events u → Run step s (event :: events) u

namespace Run

variable {step : σ → ε → σ → Prop} {s t u : σ} {events events' : List ε}

/-- An invariant of the steps is an invariant of the runs. -/
theorem invariant (P : σ → Prop) (hstep : ∀ {s event t}, P s → step s event t → P t)
    (h : Run step s events t) (hs : P s) : P t := by
  induction h with
  | nil => exact hs
  | cons hfirst _ ih => exact ih (hstep hs hfirst)

/-- A preorder that the steps respect, as long as an invariant holds, relates the ends of a run. -/
theorem relates (P : σ → Prop) {R : σ → σ → Prop} (hrefl : ∀ s, R s s)
    (htrans : ∀ {s t u}, R s t → R t u → R s u)
    (hstep : ∀ {s event t}, P s → step s event t → P t ∧ R s t)
    (h : Run step s events t) (hs : P s) : R s t := by
  induction h with
  | nil => exact hrefl _
  | cons hfirst _ ih =>
    obtain ⟨ht, hrelated⟩ := hstep hs hfirst
    exact htrans hrelated (ih ht)

/-- A run of a relation is a run of a weaker one. -/
theorem mono {step' : σ → ε → σ → Prop} (h : Run step s events t)
    (hstep : ∀ {s event t}, step s event t → step' s event t) : Run step' s events t := by
  induction h with
  | nil => exact .nil
  | cons hfirst _ ih => exact .cons (hstep hfirst) ih

/-- What holds of every event of a run can be asked of its steps. -/
theorem restrict {P : ε → Prop} (h : Run step s events t) (hevents : ∀ event ∈ events, P event) :
    Run (fun s event t => P event ∧ step s event t) s events t := by
  induction h with
  | nil => exact .nil
  | cons hfirst _ ih =>
    apply Run.cons ⟨hevents _ List.mem_cons_self, hfirst⟩
    exact ih fun event hevent => hevents event (List.mem_cons_of_mem _ hevent)

theorem snoc {event : ε} (h : Run step s events t) (hlast : step t event u) :
    Run step s (events ++ [event]) u := by
  induction h with
  | nil => exact .cons hlast .nil
  | cons hfirst _ ih => exact .cons hfirst (ih hlast)

theorem append (h : Run step s events t) (h' : Run step t events' u) :
    Run step s (events ++ events') u := by
  induction h with
  | nil => exact h'
  | cons hfirst _ ih => exact .cons hfirst (ih h')

/-! ### Recorded events -/

/-- What holds of a state and the events so far, and is kept by one more event. -/
theorem recorded (P : List ε → σ → Prop)
    (hstep : ∀ {past s event t}, P past s → step s event t → P (past ++ [event]) t) {past : List ε}
    (h : Run step s events t) (hs : P past s) : P (past ++ events) t := by
  induction h generalizing past with
  | nil =>
    rw [List.append_nil]
    exact hs
  | cons hfirst _ ih =>
    have hrest := ih (hstep hs hfirst)
    rw [List.append_assoc] at hrest
    exact hrest

/-- The events of a deterministic relation are the beginning of one sequence. -/
theorem isPrefix_of_deterministic {u : σ}
    (hstep : ∀ {s e t e' t'}, step s e t → step s e' t' → e = e' ∧ t = t')
    (h : Run step s events t) (h' : Run step s events' u) (hlength : events.length ≤ events'.length) :
    events <+: events' := by
  induction h generalizing events' with
  | nil => exact List.nil_prefix
  | cons hfirst _ ih =>
    cases h' with
    | nil => exact absurd hlength (by simp)
    | cons hfirst' hrest' =>
      obtain ⟨rfl, rfl⟩ := hstep hfirst hfirst'
      exact (List.prefix_cons_inj _).mpr (ih hrest' (Nat.le_of_succ_le_succ hlength))

end Run

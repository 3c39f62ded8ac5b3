import Mathlib.Data.List.Count
import Mathlib.Data.List.Induction

/-!
# Traces

A trace lists events in their order. It is lawful when every event is allowed behind the events
before it; a trace stays lawful when an allowed event is added at its end.
-/

variable {ε α : Type*}

/-- Every event is allowed by the events before it. -/
def LawfulTrace (Allowed : List ε → ε → Prop) (trace : List ε) : Prop :=
  ∀ past event future, trace = past ++ event :: future → Allowed past event

/-- The value that was noted last. -/
def latest (note : ε → Option α) (trace : List ε) : Option α :=
  (trace.filterMap note).getLast?

section Latest

variable {note : ε → Option α} {trace : List ε} {event : ε} {value : α}

lemma latest_nil : latest note [] = none := rfl

lemma latest_snoc_of_some (h : note event = some value) :
    latest note (trace ++ [event]) = some value := by
  simp [latest, h]

lemma latest_snoc_of_none (h : note event = none) :
    latest note (trace ++ [event]) = latest note trace := by
  simp [latest, h]

lemma latest_eq_none : latest note trace = none ↔ ∀ event ∈ trace, note event = none := by
  simp [latest]

/-- Nothing is noted behind the event that was noted last. -/
lemma latest_eq_some (h : latest note trace = some value) :
    ∃ past event future, trace = past ++ event :: future ∧ note event = some value ∧
      ∀ later ∈ future, note later = none := by
  induction trace using List.reverseRecOn with
  | nil => exact absurd h (by simp [latest])
  | append_singleton trace last ih =>
    cases hlast : note last with
    | some noted =>
      rw [latest_snoc_of_some hlast] at h
      exact ⟨trace, last, [], rfl, hlast.trans h, by simp⟩
    | none =>
      rw [latest_snoc_of_none hlast] at h
      obtain ⟨past, event, future, rfl, hevent, hfuture⟩ := ih h
      refine ⟨past, event, future ++ [last], by simp, hevent, fun later hlater => ?_⟩
      rcases List.mem_append.mp hlater with hbefore | hend
      · exact hfuture later hbefore
      · rw [List.mem_singleton.mp hend]
        exact hlast

end Latest

namespace LawfulTrace

variable {Allowed : List ε → ε → Prop} {trace : List ε} {event : ε}

lemma nil : LawfulTrace Allowed [] := by
  intro past event future h
  exact absurd h (by simp)

lemma snoc (h : LawfulTrace Allowed trace) (hevent : Allowed trace event) :
    LawfulTrace Allowed (trace ++ [event]) := by
  intro past other future hsplit
  rcases List.eq_nil_or_concat future with rfl | ⟨future, last, rfl⟩
  · obtain ⟨rfl, hlast⟩ := List.append_inj' hsplit rfl
    obtain rfl := (List.cons.inj hlast).1
    exact hevent
  · rw [List.concat_eq_append, ← List.cons_append, ← List.append_assoc] at hsplit
    obtain ⟨hbefore, -⟩ := List.append_inj' hsplit rfl
    exact h past other future hbefore

lemma of_snoc (h : LawfulTrace Allowed (trace ++ [event])) : LawfulTrace Allowed trace := by
  intro past other future hsplit
  apply h past other (future ++ [event])
  rw [hsplit, List.append_assoc, List.cons_append]

lemma allowed_last (h : LawfulTrace Allowed (trace ++ [event])) : Allowed trace event :=
  h trace event [] rfl

/-- An event that is not allowed behind itself happens once at most. -/
lemma count_le_one [DecidableEq ε] (h : LawfulTrace Allowed trace)
    (honce : ∀ past, Allowed past event → event ∉ past) : trace.count event ≤ 1 := by
  induction trace using List.reverseRecOn with
  | nil => simp
  | append_singleton trace last ih =>
    rw [List.count_append, List.count_singleton]
    split_ifs with hlast
    · rw [beq_iff_eq] at hlast
      subst hlast
      have hnew : trace.count last = 0 := List.count_eq_zero_of_not_mem (honce trace h.allowed_last)
      exact Nat.succ_le_succ (Nat.le_of_eq hnew)
    · exact ih h.of_snoc

/-- Each value is related to the one before it, hence to all of them. -/
lemma pairwise {note : ε → Option α} {R : α → α → Prop} (h : LawfulTrace Allowed trace)
    (htrans : ∀ {a b c}, R a b → R b c → R a c)
    (hnext : ∀ past event value, Allowed past event → note event = some value →
      ∀ earlier, latest note past = some earlier → R earlier value) :
    (trace.filterMap note).Pairwise R := by
  induction trace using List.reverseRecOn with
  | nil => exact List.Pairwise.nil
  | append_singleton trace last ih =>
    have hbefore := ih h.of_snoc
    cases hnote : note last with
    | none => simpa [hnote] using hbefore
    | some value =>
      have hvalue : ∀ earlier ∈ trace.filterMap note, R earlier value := by
        intro earlier hearlier
        obtain ⟨noted, hnoted⟩ := Option.isSome_iff_exists.mp
          (List.getLast?_isSome.mpr (List.ne_nil_of_mem hearlier))
        have hlast := hnext trace last value h.allowed_last hnote noted hnoted
        obtain ⟨values, hvalues⟩ := List.getLast?_eq_some_iff.mp hnoted
        rw [hvalues, List.pairwise_append] at hbefore
        rw [hvalues, List.mem_append, List.mem_singleton] at hearlier
        rcases hearlier with hearlier | rfl
        · exact htrans (hbefore.2.2 earlier hearlier noted (List.mem_singleton_self _)) hlast
        · exact hlast
      rw [List.filterMap_append, List.pairwise_append]
      refine ⟨hbefore, by simp [hnote], ?_⟩
      intro earlier hearlier later hlater
      simp only [List.filterMap_cons, hnote, List.filterMap_nil, List.mem_singleton] at hlater
      rw [hlater]
      exact hvalue earlier hearlier

end LawfulTrace

import StegoLab.Library.Crashes

/-!
# Atomic files

A file is replaced after its successor has been flushed. The write can fail, or be cut short by a
crash, before or after the replacement.
-/

namespace StegoLab

open Transaction Program

/-- What happens in one `atomic_json`: the answer of `require_space`, and the file operations. -/
structure WriteFaults where
  require_space : Except Raised Unit := .ok ()
  write : Fault Unit := .none
  replace : Fault Unit := .none
  sync_directory : Fault Unit := .none
  unlink : Fault Unit := .none

/-- `atomic_json`: publish a file after its temporary file has been flushed. -/
def atomic_json {σ : Type} (faults : WriteFaults) (effect : σ → σ) :
    Program σ Raised Unit := do
  attempt faults.require_space
  finally_do
    (do
      inspect faults.write .os_error
      atomically faults.replace .os_error effect
      inspect faults.sync_directory .os_error)
    (inspect faults.unlink .os_error)

/-- The new file has replaced the old one. -/
def WriteFaults.Replaces (faults : WriteFaults) : Prop :=
  faults.require_space = .ok () ∧ faults.write = .none ∧ faults.replace = .none

/-- Nothing fails. -/
def WriteFaults.Succeeds (faults : WriteFaults) : Prop :=
  faults.Replaces ∧ faults.sync_directory = .none ∧ faults.unlink = .none

/-- One write of a file. -/
lemma contract_atomic_json {σ : Type} {disk : σ} {faults : WriteFaults} {effect : σ → σ} :
    Contract (· = disk) (atomic_json faults effect)
      (fun _ after => faults.Succeeds ∧ after = effect disk)
      fun _ after => ¬ faults.Succeeds ∧
        (faults.Replaces ∧ after = effect disk ∨ ¬ faults.Replaces ∧ after = disk) := by
  refine Contract.bind (Q := fun _ after => faults.require_space = .ok () ∧ after = disk)
    (contract_attempt (fun _ hspace _ hdisk => ⟨hspace, hdisk⟩) fun e hspace s hs => ?_)
    fun _ => .assume fun hspace => ?_
  · have hrefused : ¬ faults.Replaces := fun h => by
      rw [h.1] at hspace
      exact absurd hspace (by simp)
    exact ⟨fun h => hrefused h.1, Or.inr ⟨hrefused, hs⟩⟩
  refine (contract_resume (Q := fun _ after => (faults.Replaces ∧ faults.sync_directory = .none) ∧
      after = effect disk)
    (R := fun _ after => ¬ faults.Succeeds ∧
        (faults.Replaces ∧ after = effect disk ∨ ¬ faults.Replaces ∧ after = disk))
    ?_ (fun u => ?_) fun stop => ?_)
  · refine ((contract_inspect fun hfault _ s hs => ?_).know fun _ _ _ => none_of_returned).bind
      fun _ => .assume fun hwrite => ?_
    · have hrefused : ¬ faults.Replaces := fun h => hfault h.2.1
      exact ⟨fun h => hrefused h.1, Or.inr ⟨hrefused, hs⟩⟩
    refine ((contract_atomically (Q := fun _ after => after = effect disk)
      (fun s hs => by rw [hs]) fun hfault _ s hs => ?_).know fun _ _ _ => none_of_returned).bind
      fun _ => .assume fun hreplace => ?_
    · have hrefused : ¬ faults.Replaces := fun h => hfault h.2.2
      exact ⟨fun h => hrefused h.1, Or.inr ⟨hrefused, hs⟩⟩
    have hreplaces : faults.Replaces := ⟨hspace, hwrite, hreplace⟩
    refine ((contract_inspect fun hfault _ s hs => ?_).know fun _ _ _ => none_of_returned).weaken
      fun _ s hs => ⟨⟨hreplaces, hs.1⟩, hs.2⟩
    exact ⟨fun h => hfault h.2.1, Or.inl ⟨hreplaces, hs⟩⟩
  · refine Contract.assume fun hdone => ?_
    refine ((contract_inspect fun hfault _ s hs => ?_).know fun _ _ _ => none_of_returned).bind
      fun _ => .pure fun s hs => ?_
    · exact ⟨fun h => hfault h.2.2, Or.inl ⟨hdone.1, hs⟩⟩
    · exact ⟨⟨hdone.1, hdone.2, hs.1⟩, hs.2⟩
  · cases stop with
    | raised e =>
      exact (contract_inspect fun _ _ _ => id).bind fun _ => contract_raise fun _ => id
    | crashed => exact contract_crashed fun _ => id

/-- A write that may stop before or after the replacement. -/
lemma contract_replacement {σ : Type} {faults : WriteFaults} {effect : σ → σ} {P : σ → Prop}
    {Q : Unit → σ → Prop} {R : Stop Raised → σ → Prop} (heffect : ∀ s, P s → Q () (effect s))
    (hbefore : ∀ e s, P s → R e s) (hafter : ∀ e s, P s → R e (effect s)) :
    Contract P (atomic_json faults effect) Q R := by
  refine .from_each fun s hs => contract_atomic_json.mono (fun _ => id) (fun _ after h => ?_)
    fun e after h => ?_
  · exact h.2.symm ▸ heffect s hs
  · rcases h.2 with ⟨-, hreplaced⟩ | ⟨-, hkept⟩
    · exact hreplaced.symm ▸ hafter e s hs
    · exact hkept.symm ▸ hbefore e s hs

end StegoLab

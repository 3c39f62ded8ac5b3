import Mathlib.Algebra.BigOperators.Group.Finset.Piecewise
import Mathlib.Algebra.Order.BigOperators.Group.Finset
import StegoLab.Library.Dictionary

/-!
# Weighed dictionaries

The values of a dictionary have weights. A dictionary in which only the weight at one key has grown
weighs no more than it did with that growth.
-/

namespace Dict

variable {α : Type*}

/-- The weight of the value at a key; nothing for a key that is not there. -/
def weight_at (weight : α → ℕ) (d : Dict α) (key : String) : ℕ :=
  (d.get? key).elim 0 weight

/-- The weights of the values, summed over any keys that include those of the dictionary. -/
lemma sum_weights (weight : α → ℕ) (d : Dict α) {keys : Finset String}
    (h : ∀ entry ∈ d.entries, entry.1 ∈ keys) :
    (d.entries.map fun entry => weight entry.2).sum = ∑ key ∈ keys, d.weight_at weight key := by
  have hentries : (d.entries.map fun entry => weight entry.2)
      = (d.entries.map Prod.fst).map (d.weight_at weight) := by
    rw [List.map_map]
    refine List.map_congr_left fun entry hentry => ?_
    have hget : d.get? entry.1 = some entry.2 := (lookup_eq_some_iff d.nodup_keys).mpr hentry
    rw [Function.comp_apply, weight_at, hget, Option.elim_some]
  rw [hentries, ← List.sum_toFinset _ d.nodup_keys]
  refine Finset.sum_subset (fun key hkey => ?_) fun key _ hkey => ?_
  · obtain ⟨entry, hentry, rfl⟩ := List.mem_map.mp (List.mem_toFinset.mp hkey)
    exact h entry hentry
  · have hnone : d.get? key = none := by
      cases hget : d.get? key with
      | none => rfl
      | some value =>
        have hentry := (lookup_eq_some_iff d.nodup_keys).mp hget
        exact absurd (List.mem_toFinset.mpr (List.mem_map_of_mem (f := Prod.fst) hentry)) hkey
    rw [weight_at, hnone, Option.elim_none]

/-- The weights of two dictionaries that agree at all keys but one. -/
lemma sum_weights_change (weight : α → ℕ) {d e : Dict α} {key : String}
    (h : ∀ k, k ≠ key → e.weight_at weight k = d.weight_at weight k) :
    (e.entries.map fun entry => weight entry.2).sum + d.weight_at weight key
      = (d.entries.map fun entry => weight entry.2).sum + e.weight_at weight key := by
  set keys := {key} ∪ ((d.entries.map Prod.fst).toFinset ∪ (e.entries.map Prod.fst).toFinset)
  have hd : ∀ entry ∈ d.entries, entry.1 ∈ keys := fun entry hentry =>
    Finset.mem_union_right _ (Finset.mem_union_left _
      (List.mem_toFinset.mpr (List.mem_map_of_mem hentry)))
  have he : ∀ entry ∈ e.entries, entry.1 ∈ keys := fun entry hentry =>
    Finset.mem_union_right _ (Finset.mem_union_right _
      (List.mem_toFinset.mpr (List.mem_map_of_mem hentry)))
  have hkey : key ∈ keys := Finset.mem_union_left _ (Finset.mem_singleton_self key)
  rw [sum_weights weight d hd, sum_weights weight e he, ← Finset.add_sum_erase keys _ hkey,
    ← Finset.add_sum_erase keys (d.weight_at weight) hkey]
  have hrest : ∑ k ∈ keys.erase key, e.weight_at weight k
      = ∑ k ∈ keys.erase key, d.weight_at weight k :=
    Finset.sum_congr rfl fun k hk => h k (Finset.ne_of_mem_erase hk)
  rw [hrest]
  omega

lemma sum_weights_insert (weight : α → ℕ) (d : Dict α) (key : String) (value : α) :
    ((d.insert key value).entries.map fun entry => weight entry.2).sum + d.weight_at weight key
      = (d.entries.map fun entry => weight entry.2).sum + weight value := by
  have hvalue : (d.insert key value).weight_at weight key = weight value := by
    simp [weight_at]
  rw [← hvalue]
  apply sum_weights_change
  intro k hk
  simp [weight_at, hk]

lemma sum_weights_erase (weight : α → ℕ) (d : Dict α) (key : String) :
    ((d.erase key).entries.map fun entry => weight entry.2).sum + d.weight_at weight key
      = (d.entries.map fun entry => weight entry.2).sum := by
  have hnone : (d.erase key).weight_at weight key = 0 := by
    simp [weight_at]
  rw [← Nat.add_zero (d.entries.map fun entry => weight entry.2).sum, ← hnone]
  apply sum_weights_change
  intro k hk
  simp [weight_at, hk]

/-- When only one weight has grown, the sum has grown no more than it. -/
lemma sum_weights_le (weight : α → ℕ) {d e : Dict α} (key : String) {growth : ℕ}
    (h : ∀ k, e.weight_at weight k ≤ d.weight_at weight k + if k = key then growth else 0) :
    (e.entries.map fun entry => weight entry.2).sum
      ≤ (d.entries.map fun entry => weight entry.2).sum + growth := by
  set keys := {key} ∪ ((d.entries.map Prod.fst).toFinset ∪ (e.entries.map Prod.fst).toFinset)
  have hd : ∀ entry ∈ d.entries, entry.1 ∈ keys := fun entry hentry =>
    Finset.mem_union_right _ (Finset.mem_union_left _
      (List.mem_toFinset.mpr (List.mem_map_of_mem hentry)))
  have he : ∀ entry ∈ e.entries, entry.1 ∈ keys := fun entry hentry =>
    Finset.mem_union_right _ (Finset.mem_union_right _
      (List.mem_toFinset.mpr (List.mem_map_of_mem hentry)))
  rw [sum_weights weight d hd, sum_weights weight e he]
  calc ∑ k ∈ keys, e.weight_at weight k
      ≤ ∑ k ∈ keys, (d.weight_at weight k + if k = key then growth else 0) :=
        Finset.sum_le_sum fun k _ => h k
    _ = ∑ k ∈ keys, d.weight_at weight k + growth := by
        rw [Finset.sum_add_distrib, Finset.sum_ite_eq' keys key fun _ => growth,
          if_pos (Finset.mem_union_left _ (Finset.mem_singleton_self key))]

end Dict

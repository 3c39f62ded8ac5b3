import Mathlib.Algebra.BigOperators.Group.List.Lemmas
import Mathlib.Algebra.GroupWithZero.Nat
import Mathlib.Data.List.Nodup
import Mathlib.Data.String.Basic
import Mathlib.Order.Basic

/-!
# Dictionaries

A dictionary keeps its entries in strictly increasing key order, so that two dictionaries with
the same entries are equal.
-/

/-- The items of a mapping from strings, in key order. -/
structure Dict (α : Type*) where
  entries : List (String × α)
  sorted : (entries.map Prod.fst).Pairwise (· < ·)
  deriving DecidableEq

namespace Dict

variable {α : Type*}

/-- Insert a key into ordered entries, replacing the value of a key that is there. -/
def insert_entry (key : String) (value : α) : List (String × α) → List (String × α)
  | [] => [(key, value)]
  | entry :: rest =>
    if key < entry.1 then (key, value) :: entry :: rest
    else if key = entry.1 then (key, value) :: rest
    else entry :: insert_entry key value rest

lemma mem_keys_insert_entry {key k : String} {value : α} {entries : List (String × α)}
    (h : k ∈ (insert_entry key value entries).map Prod.fst) :
    k = key ∨ k ∈ entries.map Prod.fst := by
  induction entries with
  | nil => simpa [insert_entry] using h
  | cons entry rest ih =>
    rw [insert_entry] at h
    split_ifs at h with hlt heq
    · simpa using h
    · rw [List.map_cons, List.mem_cons] at h
      rcases h with h | h
      · exact Or.inl h
      · exact Or.inr (List.mem_cons_of_mem _ h)
    · rw [List.map_cons, List.mem_cons] at h
      rcases h with h | h
      · exact Or.inr (h ▸ List.mem_cons_self)
      · exact (ih h).imp id (List.mem_cons_of_mem _)

lemma sorted_insert_entry (key : String) (value : α) {entries : List (String × α)}
    (h : (entries.map Prod.fst).Pairwise (· < ·)) :
    ((insert_entry key value entries).map Prod.fst).Pairwise (· < ·) := by
  induction entries with
  | nil => simp [insert_entry]
  | cons entry rest ih =>
    rw [List.map_cons, List.pairwise_cons] at h
    rw [insert_entry]
    split_ifs with hlt heq
    · rw [List.map_cons, List.map_cons, List.pairwise_cons, List.pairwise_cons]
      refine ⟨fun k hk => ?_, h⟩
      rcases List.mem_cons.mp hk with rfl | hk
      · exact hlt
      · exact hlt.trans (h.1 k hk)
    · rw [List.map_cons, List.pairwise_cons]
      exact ⟨fun k hk => heq ▸ h.1 k hk, h.2⟩
    · rw [List.map_cons, List.pairwise_cons]
      refine ⟨fun k hk => ?_, ih h.2⟩
      rcases mem_keys_insert_entry hk with rfl | hk
      · exact lt_of_le_of_ne (not_lt.mp hlt) (Ne.symm heq)
      · exact h.1 k hk

def empty : Dict α where
  entries := []
  sorted := List.Pairwise.nil

/-- `d[key] = value`. -/
def insert (d : Dict α) (key : String) (value : α) : Dict α where
  entries := insert_entry key value d.entries
  sorted := sorted_insert_entry key value d.sorted

/-- `d.pop(key, None)`. -/
def erase (d : Dict α) (key : String) : Dict α where
  entries := d.entries.filter fun entry => entry.1 ≠ key
  sorted := d.sorted.sublist (List.filter_sublist.map Prod.fst)

/-- `d.get(key)`. -/
def get? (d : Dict α) (key : String) : Option α :=
  d.entries.lookup key

/-- `{**d, **e}`. -/
def update (d e : Dict α) : Dict α :=
  e.entries.foldl (fun d entry => d.insert entry.1 entry.2) d

/-- `dict(items)`: a later item replaces an earlier one with its key. -/
def of_items (items : List (String × α)) : Dict α :=
  items.foldl (fun d item => d.insert item.1 item.2) empty

/-- `d.setdefault(key, value)`. -/
def setdefault (d : Dict α) (key : String) (value : α) : Dict α :=
  if (d.get? key).isSome then d else d.insert key value

/-- `dict(Counter(keys))`. -/
def counter (keys : List String) : Dict ℕ :=
  keys.foldl (fun d key => d.insert key ((d.get? key).getD 0 + 1)) empty

/-- `sum(d.values())`. -/
def total (d : Dict ℕ) : ℕ :=
  (d.entries.map Prod.snd).sum

/-! ### Lookups -/

lemma lookup_cons_eq (k : String) (entry : String × α) (rest : List (String × α)) :
    (entry :: rest).lookup k = if k = entry.1 then some entry.2 else rest.lookup k := by
  by_cases hk : k = entry.1
  · subst hk
    rw [List.lookup_cons_self, if_pos rfl]
  · rw [if_neg hk, List.lookup_cons, beq_eq_false_iff_ne.mpr hk]

lemma lookup_insert_entry (key k : String) (value : α) (entries : List (String × α)) :
    (insert_entry key value entries).lookup k
      = if k = key then some value else entries.lookup k := by
  induction entries with
  | nil => exact lookup_cons_eq ..
  | cons entry rest ih =>
    rw [insert_entry, lookup_cons_eq k entry rest]
    by_cases hlt : key < entry.1
    · rw [if_pos hlt, lookup_cons_eq, lookup_cons_eq]
    · rw [if_neg hlt]
      by_cases heq : key = entry.1
      · rw [if_pos heq, lookup_cons_eq, ← heq]
        by_cases hk : k = key
        · rw [if_pos hk, if_pos hk]
        · rw [if_neg hk, if_neg hk, if_neg hk]
      · rw [if_neg heq, lookup_cons_eq, ih]
        by_cases hk : k = entry.1
        · rw [if_pos hk, if_pos hk, if_neg (hk.trans_ne (Ne.symm heq))]
        · rw [if_neg hk, if_neg hk]

lemma lookup_eq_some_iff {entries : List (String × α)} (h : (entries.map Prod.fst).Nodup)
    {k : String} {v : α} : entries.lookup k = some v ↔ (k, v) ∈ entries := by
  induction entries with
  | nil => simp
  | cons entry rest ih =>
    rw [List.map_cons, List.nodup_cons] at h
    rw [lookup_cons_eq, List.mem_cons]
    by_cases hk : k = entry.1
    · rw [if_pos hk, Option.some_inj]
      constructor
      · rintro rfl
        exact Or.inl (Prod.ext hk rfl)
      · rintro (hv | hmem)
        · rw [← hv]
        · exact absurd (List.mem_map.mpr ⟨_, hmem, hk⟩) h.1
    · rw [if_neg hk, ih h.2]
      constructor
      · exact Or.inr
      · rintro (hv | hmem)
        · exact absurd (congrArg Prod.fst hv) hk
        · exact hmem

lemma nodup_keys (d : Dict α) : (d.entries.map Prod.fst).Nodup :=
  d.sorted.imp ne_of_lt

lemma length_insert_entry_le (key : String) (value : α) (entries : List (String × α)) :
    (insert_entry key value entries).length ≤ entries.length + 1 := by
  induction entries with
  | nil => simp [insert_entry]
  | cons entry rest ih =>
    rw [insert_entry]
    split_ifs
    · simp
    · simp
    · simpa using ih

/-- Dictionaries with the same items are equal. -/
theorem ext_get? {d e : Dict α} (h : ∀ k, d.get? k = e.get? k) : d = e := by
  have hmem : ∀ entry, entry ∈ d.entries ↔ entry ∈ e.entries := by
    rintro ⟨k, v⟩
    rw [← lookup_eq_some_iff d.nodup_keys, ← lookup_eq_some_iff e.nodup_keys]
    exact Eq.congr_left (h k)
  have hsorted (d : Dict α) : d.entries.Pairwise fun a b => a.1 < b.1 :=
    List.pairwise_map.mp d.sorted
  have hperm : d.entries.Perm e.entries :=
    (List.perm_ext_iff_of_nodup (List.Nodup.of_map _ d.nodup_keys)
      (List.Nodup.of_map _ e.nodup_keys)).mpr hmem
  have hentries : d.entries = e.entries :=
    hperm.eq_of_pairwise (fun a b _ _ hab hba => absurd (hab.trans hba) (lt_irrefl _)) (hsorted d)
      (hsorted e)
  cases d
  cases e
  cases hentries
  rfl

lemma mem_keys {d : Dict α} {k : String} : k ∈ d.entries.map Prod.fst ↔ (d.get? k).isSome := by
  rw [List.mem_map, Option.isSome_iff_exists]
  constructor
  · rintro ⟨⟨_, v⟩, hentry, rfl⟩
    exact ⟨v, (lookup_eq_some_iff d.nodup_keys).mpr hentry⟩
  · rintro ⟨v, hv⟩
    exact ⟨(k, v), (lookup_eq_some_iff d.nodup_keys).mp hv, rfl⟩

@[simp] lemma get?_empty (k : String) : (empty : Dict α).get? k = none := rfl

@[simp] lemma get?_insert (d : Dict α) (key k : String) (value : α) :
    (d.insert key value).get? k = if k = key then some value else d.get? k :=
  lookup_insert_entry ..

@[simp] lemma get?_erase (d : Dict α) (key k : String) :
    (d.erase key).get? k = if k = key then none else d.get? k := by
  refine Option.ext fun v => ?_
  rw [get?, lookup_eq_some_iff (d.erase key).nodup_keys, erase, List.mem_filter]
  by_cases hk : k = key
  · simp [hk]
  · rw [if_neg hk, get?, lookup_eq_some_iff d.nodup_keys]
    simp [hk]

lemma get?_foldl_insert (d : Dict α) (items : List (String × α)) (k : String) :
    (items.foldl (fun d item => d.insert item.1 item.2) d).get? k
      = (items.reverse.lookup k).or (d.get? k) := by
  induction items generalizing d with
  | nil => simp
  | cons item items ih =>
    rw [List.foldl_cons, ih, get?_insert, List.reverse_cons, List.lookup_append, lookup_cons_eq,
      Option.or_assoc]
    by_cases hk : k = item.1 <;> simp [hk]

/-- Items with distinct keys are the items of their dictionary. -/
lemma get?_of_items {items : List (String × α)} (h : (items.map Prod.fst).Nodup) {k : String}
    {v : α} : (of_items items).get? k = some v ↔ (k, v) ∈ items := by
  rw [of_items, get?_foldl_insert, get?_empty, Option.or_none, lookup_eq_some_iff, List.mem_reverse]
  rwa [List.map_reverse, List.nodup_reverse]

lemma get?_update (d e : Dict α) (k : String) : (d.update e).get? k = (e.get? k).or (d.get? k) := by
  have hreverse : e.entries.reverse.lookup k = e.entries.lookup k := by
    refine Option.ext fun v => ?_
    rw [lookup_eq_some_iff e.nodup_keys, lookup_eq_some_iff, List.mem_reverse]
    rw [List.map_reverse, List.nodup_reverse]
    exact e.nodup_keys
  rw [update, get?_foldl_insert, hreverse]
  rfl

/-- A counter holds the number of occurrences of every key. -/
lemma get?_counter (keys : List String) (k : String) :
    (counter keys).get? k = if k ∈ keys then some (keys.count k) else none := by
  have hloop : ∀ (keys : List String) (d : Dict ℕ),
      (keys.foldl (fun d key => d.insert key ((d.get? key).getD 0 + 1)) d).get? k
        = if k ∈ keys then some ((d.get? k).getD 0 + keys.count k) else d.get? k := by
    intro keys
    induction keys with
    | nil => exact fun _ => rfl
    | cons key keys ih =>
      intro d
      rw [List.foldl_cons, ih, get?_insert]
      by_cases hk : k = key
      · subst hk
        by_cases hmem : k ∈ keys
        · simp [hmem]
          omega
        · simp [hmem, List.count_eq_zero_of_not_mem hmem]
      · by_cases hmem : k ∈ keys
        · simp [hk, hmem, List.count_cons_of_ne (Ne.symm hk)]
        · simp [hk, hmem]
  rw [counter, hloop, get?_empty]
  simp

lemma mem_entries_counter {keys : List String} {entry : String × ℕ} :
    entry ∈ (counter keys).entries ↔ entry.1 ∈ keys ∧ entry.2 = keys.count entry.1 := by
  rw [← lookup_eq_some_iff (counter keys).nodup_keys, ← get?, get?_counter]
  by_cases h : entry.1 ∈ keys
  · simp [h, eq_comm]
  · simp [h]

/-- The counts of a counter sum up to the number of keys. -/
lemma total_counter (keys : List String) : (counter keys).total = keys.length := by
  have hcounts : (counter keys).entries.map Prod.snd =
      ((counter keys).entries.map Prod.fst).map fun key => keys.count key := by
    rw [List.map_map]
    exact List.map_congr_left fun entry hentry => (mem_entries_counter.mp hentry).2
  have hkeys : ((counter keys).entries.map Prod.fst).Perm keys.dedup := by
    refine (List.perm_ext_iff_of_nodup (counter keys).nodup_keys keys.nodup_dedup).mpr fun key => ?_
    rw [List.mem_dedup, List.mem_map]
    constructor
    · rintro ⟨entry, hentry, rfl⟩
      exact (mem_entries_counter.mp hentry).1
    · exact fun hkey => ⟨(key, keys.count key), mem_entries_counter.mpr ⟨hkey, rfl⟩, rfl⟩
  rw [total, hcounts, (hkeys.map _).sum_eq, List.sum_map_count_dedup_eq_length]

/-- Counting does not depend on the order of the keys. -/
lemma counter_eq_of_perm {keys keys' : List String} (h : keys.Perm keys') :
    counter keys = counter keys' := by
  refine ext_get? fun k => ?_
  simp only [get?_counter, h.count_eq, h.mem_iff]

end Dict

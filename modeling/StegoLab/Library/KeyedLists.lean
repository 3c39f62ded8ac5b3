import Mathlib.Data.List.Nodup
import Mathlib.Data.List.Sort

/-!
# Lists of records with keys

A list holds one record for each key. A record that arrives is kept when it is newer than the record
that is there, so neither the order of the arrivals nor their repetition can take a record back.
-/

namespace KeyedList

variable {α κ : Type*} [DecidableEq κ] (key : α → κ) (newer : α → α → Bool)

/-- The record of a key. -/
def find (items : List α) (k : κ) : Option α :=
  items.find? fun item => key item = k

/-- Put a record in the place of its key, or behind the others. -/
def set (items : List α) (item : α) : List α :=
  if (find key items (key item)).isSome then
    items.map fun other => if key other = key item then item else other
  else items ++ [item]

/-- The records by their keys; a later record takes the place of an earlier one. -/
def of_list (items : List α) : List α :=
  items.foldl (set key) []

/-- Put a record in its place unless the record there is as new. -/
def absorb (items : List α) (item : α) : List α :=
  match find key items (key item) with
  | none => set key items item
  | some current => if newer item current then set key items item else items

/-- One record for each key. -/
def Distinct (items : List α) : Prop :=
  (items.map key).Nodup

variable {key newer} {items incoming : List α} {item other : α} {k : κ}

/-! ### Looking up -/

@[simp] lemma find_nil : find key [] k = none := rfl

lemma find_cons : find key (item :: items) k
    = if key item = k then some item else find key items k := by
  unfold find
  rw [List.find?_cons]
  split_ifs with h <;> simp [h]

lemma mem_of_find (h : find key items k = some item) : item ∈ items :=
  List.mem_of_find?_eq_some h

lemma key_of_find (h : find key items k = some item) : key item = k := by
  have hkey := List.find?_some h
  simpa using hkey

lemma find_eq_none : find key items k = none ↔ ∀ item ∈ items, key item ≠ k := by
  simp [find]

lemma find_append_singleton :
    find key (items ++ [item]) k
      = (find key items k).or (if key item = k then some item else none) := by
  simp [find, List.find?_append]

/-- The record that is found is the only one with its key. -/
lemma find_eq_some_iff (hdistinct : Distinct key items) :
    find key items k = some item ↔ item ∈ items ∧ key item = k := by
  constructor
  · intro h
    exact ⟨mem_of_find h, key_of_find h⟩
  · rintro ⟨hmem, rfl⟩
    cases hfind : find key items (key item) with
    | none => exact absurd rfl (find_eq_none.mp hfind item hmem)
    | some found =>
      rw [List.inj_on_of_nodup_map hdistinct (mem_of_find hfind) hmem (key_of_find hfind)]

lemma find_perm {items' : List α} (hdistinct : Distinct key items) (h : items'.Perm items) :
    find key items' k = find key items k := by
  have hdistinct' : Distinct key items' := (h.map key).nodup_iff.mpr hdistinct
  apply Option.ext
  intro item
  rw [find_eq_some_iff hdistinct', find_eq_some_iff hdistinct, h.mem_iff]

/-! ### Putting -/

/-- Putting a record in all places of its key changes no other key. -/
lemma find_replace_of_ne (hkey : key item ≠ k) :
    find key (items.map fun other => if key other = key item then item else other) k
      = find key items k := by
  induction items with
  | nil => rfl
  | cons first rest ih =>
    rw [List.map_cons, find_cons, find_cons, ih]
    by_cases hfirst : key first = key item
    · rw [if_pos hfirst, if_neg hkey, if_neg (hfirst ▸ hkey)]
    · rw [if_neg hfirst]

lemma find_replace_self (hthere : (find key items (key item)).isSome) :
    find key (items.map fun other => if key other = key item then item else other) (key item)
      = some item := by
  induction items with
  | nil => exact absurd hthere (by simp)
  | cons first rest ih =>
    rw [List.map_cons, find_cons]
    by_cases hfirst : key first = key item
    · rw [if_pos hfirst, if_pos rfl]
    · rw [find_cons, if_neg hfirst] at hthere
      rw [if_neg hfirst, if_neg hfirst]
      exact ih hthere

lemma find_set : find key (set key items item) k
    = if key item = k then some item else find key items k := by
  unfold set
  split_ifs with hthere hkey hkey
  · rw [← hkey, find_replace_self hthere]
  · exact find_replace_of_ne hkey
  · rw [find_append_singleton, if_pos hkey, ← hkey, Option.not_isSome_iff_eq_none.mp hthere]
    rfl
  · rw [find_append_singleton, if_neg hkey, Option.or_none]

lemma map_key_set_of_isSome (h : (find key items (key item)).isSome) :
    (set key items item).map key = items.map key := by
  unfold set
  rw [if_pos h, List.map_map]
  apply List.map_congr_left
  intro other _
  show key (if key other = key item then item else other) = key other
  split_ifs with hkey
  · exact hkey.symm
  · rfl

lemma Distinct.set (h : Distinct key items) : Distinct key (set key items item) := by
  by_cases hthere : (find key items (key item)).isSome
  · unfold Distinct
    rw [map_key_set_of_isSome hthere]
    exact h
  · unfold KeyedList.set
    rw [if_neg hthere]
    unfold Distinct
    rw [List.map_append, List.map_singleton, List.nodup_append]
    refine ⟨h, List.nodup_singleton _, ?_⟩
    intro k hk k' hk' heq
    rw [List.mem_singleton.mp hk'] at heq
    obtain ⟨other, hother, hkey⟩ := List.mem_map.mp hk
    have hnone := Option.not_isSome_iff_eq_none.mp hthere
    exact find_eq_none.mp hnone other hother (hkey.trans heq)

lemma mem_set (h : other ∈ set key items item) : other = item ∨ other ∈ items := by
  unfold set at h
  split_ifs at h
  · obtain ⟨before, hbefore, rfl⟩ := List.mem_map.mp h
    split_ifs
    · exact Or.inl rfl
    · exact Or.inr hbefore
  · rcases List.mem_append.mp h with hmem | hmem
    · exact Or.inr hmem
    · exact Or.inl (List.mem_singleton.mp hmem)

omit [DecidableEq κ] in
lemma distinct_nil : Distinct key ([] : List α) :=
  List.nodup_nil

/-- A loop that puts records one after another makes no other records. -/
lemma mem_foldl {put : List α → α → List α}
    (hput : ∀ {items item other}, other ∈ put items item → other = item ∨ other ∈ items)
    (h : other ∈ incoming.foldl put items) : other ∈ incoming ∨ other ∈ items := by
  induction incoming generalizing items with
  | nil => exact Or.inr h
  | cons first rest ih =>
    rcases ih h with hrest | hfirst
    · exact Or.inl (List.mem_cons_of_mem _ hrest)
    · rcases hput hfirst with rfl | hitems
      · exact Or.inl List.mem_cons_self
      · exact Or.inr hitems

omit [DecidableEq κ] in
/-- A loop keeps the records distinct when each of its rounds does. -/
lemma distinct_foldl {put : List α → α → List α}
    (hput : ∀ {items item}, Distinct key items → Distinct key (put items item))
    (hdistinct : Distinct key items) : Distinct key (incoming.foldl put items) := by
  induction incoming generalizing items with
  | nil => exact hdistinct
  | cons first rest ih => exact ih (hput hdistinct)

lemma distinct_of_list : Distinct key (of_list key items) :=
  distinct_foldl Distinct.set distinct_nil

lemma mem_of_list (h : other ∈ of_list key items) : other ∈ items :=
  (mem_foldl mem_set h).resolve_right List.not_mem_nil

/-- Of distinct records that are put one after another, each is found by its key. -/
lemma find_foldl_set (hdistinct : Distinct key incoming) :
    find key (incoming.foldl (set key) items) k = (find key incoming k).or (find key items k) := by
  induction incoming generalizing items with
  | nil => rfl
  | cons first rest ih =>
    obtain ⟨hfirst, hrest⟩ := List.nodup_cons.mp hdistinct
    rw [List.foldl_cons, ih hrest, find_set, find_cons]
    by_cases hkey : key first = k
    · have hnone : find key rest k = none := by
        rw [find_eq_none]
        intro other hother heq
        exact hfirst (List.mem_map.mpr ⟨other, hother, heq.trans hkey.symm⟩)
      rw [hnone, if_pos hkey, if_pos hkey]
      rfl
    · rw [if_neg hkey, if_neg hkey]

lemma find_of_list (hdistinct : Distinct key items) :
    find key (of_list key items) k = find key items k := by
  unfold of_list
  rw [find_foldl_set hdistinct, find_nil, Option.or_none]

/-! ### Putting what is missing -/

/-- Put a record behind the others unless its key is there. -/
def set_default (key : α → κ) (items : List α) (item : α) : List α :=
  if (find key items (key item)).isSome then items else items ++ [item]

lemma distinct_set_default (hdistinct : Distinct key items) :
    Distinct key (set_default key items item) := by
  unfold set_default
  split_ifs with hthere
  · exact hdistinct
  · have hset : Distinct key (KeyedList.set key items item) := hdistinct.set
    unfold KeyedList.set at hset
    rwa [if_neg hthere] at hset

lemma find_set_default (h : find key items k = some other) :
    find key (set_default key items item) k = some other := by
  unfold set_default
  split_ifs
  · exact h
  · rw [find_append_singleton, h]
    rfl

lemma find_foldl_set_default (h : find key items k = some other) :
    find key (incoming.foldl (set_default key) items) k = some other := by
  induction incoming generalizing items with
  | nil => exact h
  | cons first rest ih => exact ih (find_set_default h)

lemma mem_set_default (h : other ∈ set_default key items item) : other = item ∨ other ∈ items := by
  unfold set_default at h
  split_ifs at h
  · exact Or.inr h
  · rcases List.mem_append.mp h with hmem | hmem
    · exact Or.inr hmem
    · exact Or.inl (List.mem_singleton.mp hmem)

/-! ### Absorbing -/

lemma distinct_absorb (hdistinct : Distinct key items) :
    Distinct key (absorb key newer items item) := by
  unfold absorb
  split
  · exact hdistinct.set
  · split_ifs
    · exact hdistinct.set
    · exact hdistinct

lemma mem_absorb (h : other ∈ absorb key newer items item) : other = item ∨ other ∈ items := by
  unfold absorb at h
  split at h
  · exact mem_set h
  · split_ifs at h
    · exact mem_set h
    · exact Or.inr h

/-- A ranking that the comparison goes by; records of one rank are compared in some other way. -/
structure Ranks (newer : α → α → Bool) (rank : α → ℕ) : Prop where
  of_newer : ∀ {item current}, newer item current = true → rank current ≤ rank item
  newer_of_lt : ∀ {item current}, rank current < rank item → newer item current = true

/-- The list knows of a record that is as new. -/
def Covers (key : α → κ) (rank : α → ℕ) (items : List α) (item : α) : Prop :=
  ∃ found, find key items (key item) = some found ∧ rank item ≤ rank found

variable {rank : α → ℕ}

lemma Covers.of_mem (hdistinct : Distinct key items) (h : item ∈ items) :
    Covers key rank items item :=
  ⟨item, (find_eq_some_iff hdistinct).mpr ⟨h, rfl⟩, le_rfl⟩

lemma covers_set_self : Covers key rank (set key items item) item :=
  ⟨item, by rw [find_set, if_pos rfl], le_rfl⟩

lemma covers_absorb_self (hranks : Ranks newer rank) :
    Covers key rank (absorb key newer items item) item := by
  unfold absorb
  split
  · exact covers_set_self
  · next current hcurrent =>
    split_ifs with hnewer
    · exact covers_set_self
    · refine ⟨current, hcurrent, ?_⟩
      by_contra hlt
      exact hnewer (hranks.newer_of_lt (Nat.lt_of_not_le hlt))

/-- What a list knows of, it knows of for ever. -/
lemma Covers.absorb (h : Covers key rank items other) (hranks : Ranks newer rank) (item : α) :
    Covers key rank (absorb key newer items item) other := by
  obtain ⟨found, hfound, hrank⟩ := h
  unfold KeyedList.absorb
  split
  · next hnone =>
    refine ⟨found, ?_, hrank⟩
    rw [find_set, if_neg, hfound]
    intro hkey
    rw [hkey, hfound] at hnone
    exact absurd hnone (by simp)
  · next current hcurrent =>
    split_ifs with hnewer
    · by_cases hkey : key item = key other
      · rw [hkey, hfound] at hcurrent
        obtain rfl := Option.some_inj.mp hcurrent
        refine ⟨item, ?_, hrank.trans (hranks.of_newer hnewer)⟩
        rw [find_set, if_pos hkey]
      · refine ⟨found, ?_, hrank⟩
        rw [find_set, if_neg hkey, hfound]
    · exact ⟨found, hfound, hrank⟩

/-- Absorb one record after another. -/
def absorb_all (key : α → κ) (newer : α → α → Bool) (items incoming : List α) : List α :=
  incoming.foldl (absorb key newer) items

lemma distinct_absorb_all (hdistinct : Distinct key items) :
    Distinct key (absorb_all key newer items incoming) :=
  distinct_foldl distinct_absorb hdistinct

lemma mem_absorb_all (h : other ∈ absorb_all key newer items incoming) :
    other ∈ incoming ∨ other ∈ items :=
  mem_foldl mem_absorb h

lemma Covers.absorb_all (h : Covers key rank items other) (hranks : Ranks newer rank) :
    Covers key rank (absorb_all key newer items incoming) other := by
  unfold KeyedList.absorb_all
  induction incoming generalizing items with
  | nil => exact h
  | cons first rest ih => exact ih (h.absorb hranks first)

lemma covers_absorb_all (hranks : Ranks newer rank) (h : item ∈ incoming) :
    Covers key rank (absorb_all key newer items incoming) item := by
  induction incoming generalizing items with
  | nil => exact absurd h List.not_mem_nil
  | cons first rest ih =>
    rcases List.mem_cons.mp h with rfl | hrest
    · exact (covers_absorb_self hranks).absorb_all hranks
    · exact ih hrest

/-- A covering does not depend on the order of the list. -/
lemma Covers.perm {items' : List α} (h : Covers key rank items item)
    (hdistinct : Distinct key items) (hperm : items'.Perm items) :
    Covers key rank items' item := by
  obtain ⟨found, hfound, hrank⟩ := h
  exact ⟨found, (find_perm hdistinct hperm).trans hfound, hrank⟩

end KeyedList

import StegoLab.Library.UnionFind
import StegoLab.Datasets.Records

/-!
# Duplicate and leakage groups

Images with the same pixels or the same upstream identity belong to one group, and a group goes
to one split as a whole. Union-find over the shared keys collects the groups.
-/

namespace StegoLab

open CanonicalJson UnionFind Relation

/-! ### Failures -/

def dataset_empty : ApplicationFailure :=
  { code := "dataset_empty"
    message := "No valid images remain. Add supported JPEG or PNG images."
    status_code := 422 }

def dataset_groups : ApplicationFailure :=
  { code := "dataset_groups"
    message := "Dataset split or duplicate declarations conflict."
    status_code := 422 }

def dataset_training_empty : ApplicationFailure :=
  { code := "dataset_training_empty"
    message :=
      "No eligible unique training images remain. Add training images with both sides at least 256 pixels."
    status_code := 422 }

/-! ### Declarations -/

/-- Apply each source kind's rule for declared splits and identities. -/
def check_declarations (records : List DatasetImageRecord) (source_kind : SourceKind) :
    Except Raised Unit :=
  let declared := records.filter fun record => record.upstream_split.isSome
  if source_kind = .local_files ∧ declared ≠ [] then .error .value_error
  else if source_kind = .uhd_iqa ∧ (declared.length ≠ records.length ∨
      records.any fun record => record.source_identity.isNone) then .error .value_error
  else if source_kind ∈ REMOTE_SOURCE_KINDS ∧
      (declared ≠ [] ∧ declared.length ≠ records.length) then .error .value_error
  else if declared.any fun record => record.source_identity.isNone then .error .value_error
  else .ok ()

/-! ### Linking records -/

/-- The keys that link a record to others. -/
def link_keys (record : DatasetImageRecord) : List String :=
  ("rgb:" ++ record.rgb_checksum) ::
    match record.source_identity with
    | none => []
    | some identity => ["identity:" ++ identity]

/-- What the linking loop carries. -/
structure Links where
  parents : List ℕ
  tokens : String → Option ℕ
  representatives : String → Option String

/-- The first record with a key keeps it; later ones are united with the first. -/
def link_key (index : ℕ) (links : Links) (key : String) : Links :=
  match links.tokens key with
  | some first => { links with parents := unite links.parents index first }
  | none => { links with tokens := Function.update links.tokens key (some index) }

/-- `dictionary.setdefault(key, value)`. -/
def set_default (dictionary : String → Option String) (key value : String) :
    String → Option String :=
  match dictionary key with
  | some _ => dictionary
  | none => Function.update dictionary key (some value)

def link_record (links : Links) (entry : DatasetImageRecord × ℕ) : Links :=
  let links := { links with
    representatives := set_default links.representatives entry.1.rgb_checksum entry.1.source_path }
  (link_keys entry.1).foldl (link_key entry.2) links

/-- Link every record to the records that share a key with it. -/
def link_records (ordered : List DatasetImageRecord) : Links :=
  ordered.zipIdx.foldl link_record
    { parents := List.range ordered.length
      tokens := fun _ => none
      representatives := fun _ => none }

/-! ### Groups -/

/-- `members[root].append(record)`. -/
def append_member {Record : Type} (root : ℕ) (record : Record) :
    List (ℕ × List Record) → List (ℕ × List Record)
  | [] => [(root, [record])]
  | entry :: members =>
    if entry.1 = root then (root, entry.2 ++ [record]) :: members
    else entry :: append_member root record members

/-- The parent pointers and the members of the roots found so far. -/
abbrev Members := List ℕ × List (ℕ × List DatasetImageRecord)

def collect_member (state : Members) (entry : DatasetImageRecord × ℕ) : Members :=
  let (parents, root) := find state.1.length state.1 entry.2
  (parents, append_member root entry.1 state.2)

/-- Collect the members of every root, in the order in which the roots appear. -/
def collect_members (parents : List ℕ) (ordered : List DatasetImageRecord) : Members :=
  ordered.zipIdx.foldl collect_member (parents, [])

/-! ### Decisions -/

/-- `int(digits, 16)`. -/
def from_hexadecimal (digits : List Char) : Option ℕ :=
  if digits ≠ [] ∧ digits.all (fun c => ('0' ≤ c ∧ c ≤ '9') ∨ ('a' ≤ c ∧ c ≤ 'f')) then
    some (digits.foldl (fun n c => n * 16 + hex_value c) 0)
  else none

/-- The digest of the sorted identifiers of a group. -/
def group_digest (checksum : ByteArray → String) (identifiers : List String) : String :=
  checksum (canonical_json (.arr (identifiers.map .str)))

/-- `sorted(set(identifiers))`. -/
def sorted_set (identifiers : List String) : List String :=
  identifiers.dedup.insertionSort (· ≤ ·)

/-- The split drawn for a group that declares none. -/
def generated_split (checksum : ByteArray → String) (seed : ℕ) (group_id : String) :
    Except Raised DatasetSplit :=
  let digest := checksum (canonical_json (.arr [.str "dataset_v1", .num seed, .str group_id]))
  match from_hexadecimal (digest.toList.take 16) with
  | none => .error .value_error
  | some value =>
    let bucket := value % 100
    .ok (if bucket < 80 then .train else if bucket < 90 then .tuning else .held_out)

/-- The group identifier and the split of a group. -/
def decide_group (checksum : ByteArray → String) (seed : ℕ) (split_mapping : Dict DatasetSplit)
    (group : List DatasetImageRecord) : Except Raised (String × DatasetSplit) := do
  let group_id := group_digest checksum (sorted_set (group.flatMap link_keys))
  let labels := group.filterMap (·.upstream_split)
  raise_if (labels.any fun label => (split_mapping.get? label).isNone) .value_error
  let declared := (labels.filterMap split_mapping.get?).dedup
  match declared with
  | [] =>
    let split ← generated_split checksum seed group_id
    return (group_id, split)
  | [split] => return (group_id, split)
  | _ :: _ :: _ => .error .value_error

/-- The decision of every source path. -/
abbrev Decisions := String → Option (String × DatasetSplit)

/-- Record the decision of a group for each of its members. -/
def record_decision (decision : String × DatasetSplit) (group : List DatasetImageRecord)
    (decisions : Decisions) : Decisions :=
  group.foldl
    (fun (decisions : Decisions) record =>
      Function.update decisions record.source_path (some decision))
    decisions

/-- Decide every group. -/
def decide_groups (checksum : ByteArray → String) (seed : ℕ) (split_mapping : Dict DatasetSplit)
    (groups : List (List DatasetImageRecord)) : Except Raised Decisions :=
  groups.foldlM
    (fun decisions group => do
      let decision ← decide_group checksum seed split_mapping group
      return record_decision decision group decisions)
    (fun _ => none)

/-! ### Assignment -/

/-- The record with its group, split and representative. -/
def with_assignment (decisions : Decisions) (representatives : String → Option String)
    (record : DatasetImageRecord) : DatasetImageRecord :=
  { record with
    duplicate_group := record.rgb_checksum
    split_group := ((decisions record.source_path).map Prod.fst).getD ""
    assigned_split := (decisions record.source_path).map Prod.snd
    representative_source_path := representatives record.rgb_checksum }

/-- An eligible training record that represents its pixels. -/
def training_example (record : DatasetImageRecord) : Bool :=
  record.eligible && decide (record.assigned_split = some .train) &&
    decide (record.representative_source_path = some record.source_path)

/-- Use union-find so linked identities and RGB duplicates cannot leak. -/
def assign (checksum : ByteArray → String) (records : List DatasetImageRecord)
    (source_kind : SourceKind) (seed : ℕ) (training_intended : Bool)
    (split_mapping : Dict DatasetSplit) : Except Raised (List DatasetImageRecord) := do
  let ordered := sorted_by DatasetImageRecord.source_path records
  raise_if (ordered = [] ∨ ¬ (ordered.map DatasetImageRecord.source_path).Nodup) .value_error
  check_declarations ordered source_kind
  let links := link_records ordered
  let members := (collect_members links.parents ordered).2
  let decisions ← decide_groups checksum seed split_mapping (members.map Prod.snd)
  let result := ordered.map (with_assignment decisions links.representatives)
  raise_if (training_intended ∧ ¬ result.any training_example) (.application dataset_training_empty)
  return result

/-- Group related sources before assigning splits and duplicate representatives. -/
def assign_groups (checksum : ByteArray → String) (records : List DatasetImageRecord)
    (source_kind : SourceKind) (seed : ℕ) (training_intended : Bool)
    (split_mapping : Dict DatasetSplit) : Except Raised (List DatasetImageRecord) :=
  if records = [] then fail dataset_empty
  else
    match assign checksum records source_kind seed training_intended split_mapping with
    | .error .value_error => fail dataset_groups
    | outcome => outcome

/-! ### The linking loop -/

/-- Two indexes that carry a common key. -/
def shares (pairs : List (ℕ × String)) (i j : ℕ) : Prop :=
  ∃ key, (i, key) ∈ pairs ∧ (j, key) ∈ pairs

/-- After the pairs seen so far: `tokens` holds a first index for every key seen, and the classes
of the forest are the classes of indexes connected by common keys. -/
structure Links.Linked (n : ℕ) (pairs : List (ℕ × String)) (links : Links) : Prop where
  forest : Forest links.parents
  length_parents : links.parents.length = n
  lt_length : ∀ pair ∈ pairs, pair.1 < n
  first_mem : ∀ key first, links.tokens key = some first → (first, key) ∈ pairs
  unseen : ∀ key, links.tokens key = none → ∀ i, (i, key) ∉ pairs
  classes : ∀ i j, root links.parents i = root links.parents j ↔ EqvGen (shares pairs) i j

lemma shares_mono {pairs pairs' : List (ℕ × String)} (h : pairs ⊆ pairs') {i j : ℕ}
    (hij : shares pairs i j) : shares pairs' i j := by
  obtain ⟨key, hi, hj⟩ := hij
  exact ⟨key, h hi, h hj⟩

/-- A key that was seen before connects the new index with the first one. -/
lemma eqvGen_shares_seen {pairs : List (ℕ × String)} {index first : ℕ} {key : String}
    (hfirst : (first, key) ∈ pairs) (i j : ℕ) :
    EqvGen (fun i j => shares pairs i j ∨ i = index ∧ j = first) i j ↔
      EqvGen (shares (pairs ++ [(index, key)])) i j := by
  have hnew : EqvGen (fun i j => shares pairs i j ∨ i = index ∧ j = first) index first :=
    .rel _ _ (Or.inr ⟨rfl, rfl⟩)
  have hold : ∀ {j}, (j, key) ∈ pairs →
      EqvGen (fun i j => shares pairs i j ∨ i = index ∧ j = first) index j := fun hj =>
    hnew.trans _ _ _ (.rel _ _ (Or.inl ⟨key, hfirst, hj⟩))
  constructor
  · apply eqvGen_of_imp
    rintro i j (hij | ⟨rfl, rfl⟩)
    · exact .rel _ _ (shares_mono (List.subset_append_left _ _) hij)
    · exact .rel _ _ ⟨key, by simp, by simp [hfirst]⟩
  · apply eqvGen_of_imp
    rintro i j ⟨key', hi, hj⟩
    rw [List.mem_append, List.mem_singleton, Prod.mk.injEq] at hi hj
    rcases hi with hi | ⟨rfl, rfl⟩
    · rcases hj with hj | ⟨rfl, rfl⟩
      · exact .rel _ _ (Or.inl ⟨key', hi, hj⟩)
      · exact (hold hi).symm _ _
    · rcases hj with hj | ⟨rfl, -⟩
      · exact hold hj
      · exact .refl _

/-- A key that is new connects nothing. -/
lemma eqvGen_shares_unseen {pairs : List (ℕ × String)} {index : ℕ} {key : String}
    (hunseen : ∀ i, (i, key) ∉ pairs) (i j : ℕ) :
    EqvGen (shares pairs) i j ↔ EqvGen (shares (pairs ++ [(index, key)])) i j := by
  constructor
  · exact fun h => h.mono fun _ _ => shares_mono (List.subset_append_left _ _)
  · apply eqvGen_of_imp
    rintro i j ⟨key', hi, hj⟩
    rw [List.mem_append, List.mem_singleton, Prod.mk.injEq] at hi hj
    rcases hi with hi | ⟨rfl, rfl⟩
    · rcases hj with hj | ⟨rfl, rfl⟩
      · exact .rel _ _ ⟨key', hi, hj⟩
      · exact absurd hi (hunseen i)
    · rcases hj with hj | ⟨rfl, -⟩
      · exact absurd hj (hunseen j)
      · exact .refl _

lemma link_key_seen {links : Links} {key : String} {first : ℕ} (h : links.tokens key = some first)
    (index : ℕ) :
    link_key index links key = { links with parents := unite links.parents index first } := by
  rw [link_key, h]

lemma link_key_unseen {links : Links} {key : String} (h : links.tokens key = none) (index : ℕ) :
    link_key index links key
      = { links with tokens := Function.update links.tokens key (some index) } := by
  rw [link_key, h]

/-- One key of one record. -/
lemma Links.Linked.link_key {n : ℕ} {pairs : List (ℕ × String)} {links : Links}
    (h : links.Linked n pairs) {index : ℕ} (hindex : index < n) (key : String) :
    (link_key index links key).Linked n (pairs ++ [(index, key)]) := by
  have hlt : ∀ pair ∈ pairs ++ [(index, key)], pair.1 < n := by
    intro pair hpair
    rcases List.mem_append.mp hpair with hpair | hpair
    · exact h.lt_length pair hpair
    · rw [List.mem_singleton.mp hpair]
      exact hindex
  cases htoken : links.tokens key with
  | some first =>
    rw [link_key_seen htoken]
    have hfirst := h.first_mem key first htoken
    obtain ⟨hforest, hlen, hroot⟩ := h.forest.unite_spec (h.length_parents ▸ hindex)
      (h.length_parents ▸ h.lt_length _ hfirst)
    refine ⟨hforest, hlen.trans h.length_parents, hlt, fun k f hk => ?_, fun k hk i hi => ?_,
      fun i j => ?_⟩
    · exact List.mem_append_left _ (h.first_mem k f hk)
    · rcases List.mem_append.mp hi with hi | hi
      · exact h.unseen k hk i hi
      · rw [List.mem_singleton, Prod.mk.injEq] at hi
        rw [hi.2] at hk
        exact Option.some_ne_none _ (htoken.symm.trans hk)
    · rw [← eqvGen_shares_seen hfirst]
      exact merge_iff h.classes hroot i j
  | none =>
    rw [link_key_unseen htoken]
    have hunseen := h.unseen key htoken
    refine ⟨h.forest, h.length_parents, hlt, fun k f hk => ?_, fun k hk i hi => ?_, fun i j => ?_⟩
    · dsimp only at hk
      by_cases hkey : k = key
      · subst hkey
        rw [Function.update_self, Option.some_inj] at hk
        simp [hk]
      · rw [Function.update_of_ne hkey] at hk
        exact List.mem_append_left _ (h.first_mem k f hk)
    · dsimp only at hk
      by_cases hkey : k = key
      · subst hkey
        rw [Function.update_self] at hk
        exact Option.some_ne_none _ hk
      · rw [Function.update_of_ne hkey] at hk
        rcases List.mem_append.mp hi with hi | hi
        · exact h.unseen k hk i hi
        · rw [List.mem_singleton, Prod.mk.injEq] at hi
          exact hkey hi.2
    · rw [h.classes, eqvGen_shares_unseen hunseen]

/-- The pairs of one record. -/
def record_pairs (entry : DatasetImageRecord × ℕ) : List (ℕ × String) :=
  (link_keys entry.1).map fun key => (entry.2, key)

lemma Links.Linked.link_record {n : ℕ} {pairs : List (ℕ × String)} {links : Links}
    (h : links.Linked n pairs) {entry : DatasetImageRecord × ℕ} (hindex : entry.2 < n) :
    (link_record links entry).Linked n (pairs ++ record_pairs entry) := by
  have hkeys : ∀ (keys : List String) (pairs : List (ℕ × String)) (links : Links),
      links.Linked n pairs → (keys.foldl (StegoLab.link_key entry.2) links).Linked n
        (pairs ++ keys.map fun key => (entry.2, key)) := by
    intro keys
    induction keys with
    | nil =>
      intro pairs links h
      simpa using h
    | cons key keys ih =>
      intro pairs links h
      rw [List.foldl_cons, List.map_cons, ← List.singleton_append, ← List.append_assoc]
      exact ih _ _ (h.link_key hindex key)
  exact hkeys _ _ _ ⟨h.forest, h.length_parents, h.lt_length, h.first_mem, h.unseen, h.classes⟩

/-- All the records. -/
theorem linked_link_records (ordered : List DatasetImageRecord) :
    (link_records ordered).Linked ordered.length (ordered.zipIdx.flatMap record_pairs) := by
  have hentries : ∀ (entries : List (DatasetImageRecord × ℕ)) (pairs : List (ℕ × String))
      (links : Links), (∀ entry ∈ entries, entry.2 < ordered.length) →
      links.Linked ordered.length pairs → (entries.foldl link_record links).Linked ordered.length
        (pairs ++ entries.flatMap record_pairs) := by
    intro entries
    induction entries with
    | nil =>
      intro pairs links _ h
      simpa using h
    | cons entry entries ih =>
      intro pairs links hlt h
      rw [List.foldl_cons, List.flatMap_cons, ← List.append_assoc]
      exact ih _ _ (fun e he => hlt e (List.mem_cons_of_mem _ he))
        (h.link_record (hlt entry List.mem_cons_self))
  refine hentries _ [] _ (fun entry hentry => ?_) ⟨Forest.range _, List.length_range, by simp,
    by simp, by simp, fun i j => ?_⟩
  · exact (List.mem_zipIdx' hentry).1
  · rw [root_range, root_range]
    constructor
    · rintro rfl
      exact .refl _
    · intro h
      induction h with
      | rel i j h => exact absurd h (by simp [shares])
      | refl i => rfl
      | symm i j _ ih => exact ih.symm
      | trans i j k _ _ ih₁ ih₂ => exact ih₁.trans ih₂

end StegoLab

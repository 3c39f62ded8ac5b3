import StegoLab.Datasets.Groups

/-!
# Properties of group assignment

The groups are the connected components of the records, every component is decided as a whole,
and the outcome depends on the records only through their unassigned fields.
-/

namespace StegoLab

open UnionFind Relation

/-! ### Connected records -/

/-- Two records with the same pixels or the same upstream identity. -/
def linked (r s : DatasetImageRecord) : Prop :=
  r.rgb_checksum = s.rgb_checksum ∨
    ∃ identity, r.source_identity = some identity ∧ s.source_identity = some identity

/-- Records connected by a chain of linked records of the list. -/
def Connected (records : List DatasetImageRecord) :
    DatasetImageRecord → DatasetImageRecord → Prop :=
  EqvGen fun r s => r ∈ records ∧ s ∈ records ∧ linked r s

lemma string_append_right_inj {p a b : String} (h : p ++ a = p ++ b) : a = b := by
  have htext := congrArg String.toList h
  rw [String.toList_append, String.toList_append] at htext
  exact String.ext (List.append_cancel_left htext)

lemma rgb_key_ne_identity_key (a b : String) : "rgb:" ++ a ≠ "identity:" ++ b := by
  intro h
  have htext := congrArg String.toList h
  rw [String.toList_append, String.toList_append] at htext
  have hhead := congrArg List.head? htext
  simp at hhead

/-- Records share a key exactly when they are linked. -/
lemma exists_common_key_iff (r s : DatasetImageRecord) :
    (∃ key, key ∈ link_keys r ∧ key ∈ link_keys s) ↔ linked r s := by
  unfold link_keys linked
  constructor
  · rintro ⟨key, hr, hs⟩
    rcases List.mem_cons.mp hr with rfl | hr
    · rcases List.mem_cons.mp hs with hs | hs
      · exact Or.inl (string_append_right_inj hs)
      · cases hidentity : s.source_identity with
        | none => simp [hidentity] at hs
        | some identity =>
          rw [hidentity, List.mem_singleton] at hs
          exact absurd hs (rgb_key_ne_identity_key _ _)
    · cases hr_identity : r.source_identity with
      | none => simp [hr_identity] at hr
      | some identity =>
        rw [hr_identity, List.mem_singleton] at hr
        subst hr
        rcases List.mem_cons.mp hs with hs | hs
        · exact absurd hs.symm (rgb_key_ne_identity_key _ _)
        · cases hs_identity : s.source_identity with
          | none => simp [hs_identity] at hs
          | some identity' =>
            rw [hs_identity, List.mem_singleton] at hs
            exact Or.inr ⟨identity, rfl, congrArg some (string_append_right_inj hs).symm⟩
  · rintro (hrgb | ⟨identity, hr, hs⟩)
    · exact ⟨"rgb:" ++ r.rgb_checksum, List.mem_cons_self, hrgb ▸ List.mem_cons_self⟩
    · exact ⟨"identity:" ++ identity, by simp [hr], by simp [hs]⟩

lemma mem_pairs_iff {ordered : List DatasetImageRecord} {i : ℕ} {key : String} :
    (i, key) ∈ ordered.zipIdx.flatMap record_pairs ↔
      ∃ r, ordered[i]? = some r ∧ key ∈ link_keys r := by
  rw [List.mem_flatMap]
  constructor
  · rintro ⟨⟨r, j⟩, hmem, hpair⟩
    obtain ⟨k, hk, heq⟩ := List.mem_map.mp hpair
    obtain ⟨rfl, rfl⟩ := Prod.mk.inj heq
    exact ⟨r, List.mem_zipIdx_iff_getElem?.mp hmem, hk⟩
  · rintro ⟨r, hget, hkey⟩
    exact ⟨(r, i), List.mem_zipIdx_iff_getElem?.mpr hget, List.mem_map.mpr ⟨key, hkey, rfl⟩⟩

/-- The classes of the linking loop are the connected components. -/
theorem root_eq_iff_connected {ordered : List DatasetImageRecord} (hnodup : ordered.Nodup)
    {i j : ℕ} {r s : DatasetImageRecord} (hi : ordered[i]? = some r) (hj : ordered[j]? = some s) :
    root (link_records ordered).parents i = root (link_records ordered).parents j ↔
      Connected ordered r s := by
  have hlinked := linked_link_records ordered
  rw [hlinked.classes]
  constructor
  · intro h
    have hchain : ∀ i j, EqvGen (shares (ordered.zipIdx.flatMap record_pairs)) i j →
        i = j ∨ ∃ r s, ordered[i]? = some r ∧ ordered[j]? = some s ∧ Connected ordered r s := by
      intro i j h
      induction h with
      | rel i j hij =>
        obtain ⟨key, hi, hj⟩ := hij
        obtain ⟨r, hr, hkr⟩ := mem_pairs_iff.mp hi
        obtain ⟨s, hs, hks⟩ := mem_pairs_iff.mp hj
        exact Or.inr ⟨r, s, hr, hs, .rel _ _ ⟨List.mem_of_getElem? hr, List.mem_of_getElem? hs,
          (exists_common_key_iff r s).mp ⟨key, hkr, hks⟩⟩⟩
      | refl i => exact Or.inl rfl
      | symm i j _ ih =>
        rcases ih with rfl | ⟨r, s, hr, hs, hrs⟩
        · exact Or.inl rfl
        · exact Or.inr ⟨s, r, hs, hr, hrs.symm _ _⟩
      | trans i j k _ _ ih₁ ih₂ =>
        rcases ih₁ with rfl | ⟨r, s, hr, hs, hrs⟩
        · exact ih₂
        · rcases ih₂ with rfl | ⟨s', t, hs', ht, hst⟩
          · exact Or.inr ⟨r, s, hr, hs, hrs⟩
          · obtain rfl : s = s' := Option.some_inj.mp (hs.symm.trans hs')
            exact Or.inr ⟨r, t, hr, ht, hrs.trans _ _ _ hst⟩
    rcases hchain i j h with rfl | ⟨r', s', hr, hs, hrs⟩
    · obtain rfl : r = s := Option.some_inj.mp (hi.symm.trans hj)
      exact .refl _
    · obtain rfl : r = r' := Option.some_inj.mp (hi.symm.trans hr)
      obtain rfl : s = s' := Option.some_inj.mp (hj.symm.trans hs)
      exact hrs
  · intro h
    have hindex : ∀ {k : ℕ} {t : DatasetImageRecord}, ordered[k]? = some t → ordered.idxOf t = k := by
      intro k t hk
      obtain ⟨hlt, rfl⟩ := List.getElem?_eq_some_iff.mp hk
      exact hnodup.idxOf_getElem k hlt
    have hchain : ∀ r s, Connected ordered r s → EqvGen
        (shares (ordered.zipIdx.flatMap record_pairs)) (ordered.idxOf r) (ordered.idxOf s) := by
      intro r s h
      induction h with
      | rel r s hrs =>
        obtain ⟨hr, hs, hlink⟩ := hrs
        obtain ⟨key, hkr, hks⟩ := (exists_common_key_iff r s).mpr hlink
        refine .rel _ _ ⟨key, mem_pairs_iff.mpr ⟨r, ?_, hkr⟩, mem_pairs_iff.mpr ⟨s, ?_, hks⟩⟩
        · exact List.getElem?_idxOf hr
        · exact List.getElem?_idxOf hs
      | refl r => exact .refl _
      | symm r s _ ih => exact ih.symm _ _
      | trans r s t _ _ ih₁ ih₂ => exact ih₁.trans _ _ _ ih₂
    rw [← hindex hi, ← hindex hj]
    exact hchain r s h

/-! ### Members -/

/-- The members collected under a root. -/
def members_of {Record : Type} (root : ℕ) : List (ℕ × List Record) → List Record
  | [] => []
  | entry :: members => if entry.1 = root then entry.2 else members_of root members

section Members

variable {Record : Type} (root : ℕ) (record : Record) (members : List (ℕ × List Record))

lemma members_of_append_member (k : ℕ) :
    members_of k (append_member root record members)
      = if k = root then members_of root members ++ [record] else members_of k members := by
  induction members with
  | nil =>
    by_cases hk : k = root
    · simp [append_member, members_of, hk]
    · simp [append_member, members_of, hk, Ne.symm hk]
  | cons entry members ih =>
    rw [append_member]
    by_cases hroot : entry.1 = root
    · by_cases hk : k = root
      · simp [members_of, hroot, hk]
      · simp [members_of, hroot, hk, Ne.symm hk]
    · rw [if_neg hroot, members_of, ih, members_of, if_neg hroot, members_of]
      by_cases hk : k = root
      · rw [if_pos hk, if_pos hk, if_neg (hk ▸ hroot)]
      · rw [if_neg hk, if_neg hk]

lemma keys_append_member (k : ℕ) :
    k ∈ (append_member root record members).map Prod.fst ↔ k = root ∨ k ∈ members.map Prod.fst := by
  induction members with
  | nil => simp [append_member]
  | cons entry members ih =>
    rw [append_member]
    by_cases hroot : entry.1 = root
    · rw [if_pos hroot]
      simp [hroot]
    · rw [if_neg hroot, List.map_cons, List.mem_cons, ih, List.map_cons, List.mem_cons]
      exact or_left_comm

lemma nodup_keys_append_member (h : (members.map Prod.fst).Nodup) :
    ((append_member root record members).map Prod.fst).Nodup := by
  induction members with
  | nil => simp [append_member]
  | cons entry members ih =>
    rw [List.map_cons, List.nodup_cons] at h
    rw [append_member]
    by_cases hroot : entry.1 = root
    · rw [if_pos hroot, List.map_cons, List.nodup_cons]
      exact hroot ▸ h
    · rw [if_neg hroot, List.map_cons, List.nodup_cons, keys_append_member]
      exact ⟨fun hmem => hmem.elim hroot h.1, ih h.2⟩

lemma members_of_eq {k : ℕ} {group : List Record} (h : (members.map Prod.fst).Nodup)
    (hmem : (k, group) ∈ members) : members_of k members = group := by
  induction members with
  | nil => simp at hmem
  | cons entry members ih =>
    rw [List.map_cons, List.nodup_cons] at h
    rw [members_of]
    rcases List.mem_cons.mp hmem with rfl | hmem
    · exact if_pos rfl
    · rw [if_neg, ih h.2 hmem]
      intro heq
      exact h.1 (heq ▸ List.mem_map.mpr ⟨_, hmem, rfl⟩)

end Members

/-! ### Collected members -/

section Collected

variable {parents : List ℕ}

/-- After the entries seen so far, every root of one of them holds exactly its entries. -/
structure Collected (parents : List ℕ) (seen : List (DatasetImageRecord × ℕ))
    (state : Members) : Prop where
  forest : Forest state.1
  length_parents : state.1.length = parents.length
  roots : ∀ i, root state.1 i = root parents i
  nodup_keys : (state.2.map Prod.fst).Nodup
  members : ∀ k, members_of k state.2
    = (seen.filter fun entry => root parents entry.2 = k).map Prod.fst
  keys : ∀ k, k ∈ state.2.map Prod.fst ↔ ∃ entry ∈ seen, root parents entry.2 = k

/-- The step of the collecting loop. -/
lemma Collected.step {seen : List (DatasetImageRecord × ℕ)} {state : Members}
    (h : Collected parents seen state) {entry : DatasetImageRecord × ℕ}
    (hentry : entry.2 < parents.length) :
    Collected parents (seen ++ [entry]) (collect_member state entry) := by
  obtain ⟨hforest, hlen, hroots, hroot⟩ := h.forest.find_spec (h.length_parents ▸ hentry)
  rw [h.roots] at hroot
  rw [collect_member]
  refine ⟨hforest, hlen.trans h.length_parents, fun i => (hroots i).trans (h.roots i),
    nodup_keys_append_member _ _ _ h.nodup_keys, fun k => ?_, fun k => ?_⟩
  · rw [members_of_append_member, hroot, List.filter_append, List.map_append, ← h.members]
    by_cases hk : k = root parents entry.2
    · subst hk
      simp
    · simp [hk, Ne.symm hk]
  · rw [keys_append_member, hroot, h.keys]
    constructor
    · rintro (rfl | ⟨e, he, hk⟩)
      · exact ⟨entry, by simp, rfl⟩
      · exact ⟨e, List.mem_append_left _ he, hk⟩
    · rintro ⟨e, he, hk⟩
      rcases List.mem_append.mp he with he | he
      · exact Or.inr ⟨e, he, hk⟩
      · rw [List.mem_singleton.mp he] at hk
        exact Or.inl hk.symm

/-- The collecting loop. -/
theorem collected_collect_members (hforest : Forest parents) {ordered : List DatasetImageRecord}
    (hlen : parents.length = ordered.length) :
    Collected parents ordered.zipIdx (collect_members parents ordered) := by
  have hentries : ∀ (entries seen : List (DatasetImageRecord × ℕ)) (state : Members),
      (∀ entry ∈ entries, entry.2 < parents.length) → Collected parents seen state →
      Collected parents (seen ++ entries) (entries.foldl collect_member state) := by
    intro entries
    induction entries with
    | nil =>
      intro seen state _ h
      simpa using h
    | cons entry entries ih =>
      intro seen state hlt h
      rw [List.foldl_cons, ← List.singleton_append, ← List.append_assoc]
      exact ih _ _ (fun e he => hlt e (List.mem_cons_of_mem _ he))
        (h.step (hlt entry List.mem_cons_self))
  refine hentries ordered.zipIdx [] (parents, []) (fun entry hentry => ?_)
    ⟨hforest, rfl, fun _ => rfl, by simp, fun _ => rfl, by simp⟩
  rw [hlen]
  exact (List.mem_zipIdx' hentry).1

end Collected

/-! ### Components -/

open Classical in
/-- The records of the list that are connected to a record. -/
noncomputable def component (ordered : List DatasetImageRecord) (record : DatasetImageRecord) :
    List DatasetImageRecord :=
  ordered.filter fun other => Connected ordered record other

lemma mem_component {ordered : List DatasetImageRecord} {r s : DatasetImageRecord} :
    s ∈ component ordered r ↔ s ∈ ordered ∧ Connected ordered r s := by
  simp [component]

lemma component_eq_of_connected {ordered : List DatasetImageRecord} {r s : DatasetImageRecord}
    (h : Connected ordered r s) : component ordered r = component ordered s := by
  refine List.filter_congr fun t _ => ?_
  rw [decide_eq_decide]
  exact ⟨fun hr => (h.symm _ _).trans _ _ _ hr, fun hs => h.trans _ _ _ hs⟩

/-- The groups of the records, as the loops collect them. -/
def groups_of (ordered : List DatasetImageRecord) : List (List DatasetImageRecord) :=
  (collect_members (link_records ordered).parents ordered).2.map Prod.snd

/-- Every group is the component of each of its members. -/
theorem group_eq_component {ordered : List DatasetImageRecord} (hnodup : ordered.Nodup)
    {group : List DatasetImageRecord} (hgroup : group ∈ groups_of ordered)
    {record : DatasetImageRecord} (hrecord : record ∈ group) :
    group = component ordered record := by
  classical
  have hlinked := linked_link_records ordered
  have hcollected := collected_collect_members hlinked.forest hlinked.length_parents
  obtain ⟨⟨k, group'⟩, hmem, rfl⟩ := List.mem_map.mp hgroup
  have hmembers := hcollected.members k
  rw [members_of_eq _ hcollected.nodup_keys hmem] at hmembers
  dsimp only at hrecord hmembers ⊢
  rw [hmembers] at hrecord
  obtain ⟨⟨r, i⟩, hr, rfl⟩ := List.mem_map.mp hrecord
  obtain ⟨hri, hroot⟩ := List.mem_filter.mp hr
  have hi : ordered[i]? = some r := List.mem_zipIdx_iff_getElem?.mp hri
  rw [decide_eq_true_eq] at hroot
  calc group'
      = (ordered.zipIdx.filter fun entry => Connected ordered r entry.1).map Prod.fst := by
        rw [hmembers]
        congr 1
        refine List.filter_congr fun entry hentry => ?_
        have hj : ordered[entry.2]? = some entry.1 := List.mem_zipIdx_iff_getElem?.mp hentry
        rw [decide_eq_decide, ← root_eq_iff_connected hnodup hi hj, ← hroot, eq_comm]
    _ = (ordered.zipIdx.map Prod.fst).filter fun other => Connected ordered r other := by
        rw [List.filter_map]
        rfl
    _ = component ordered r := by
        rw [List.zipIdx_map_fst, component]

/-- Every record is in a group. -/
theorem exists_group {ordered : List DatasetImageRecord} {record : DatasetImageRecord}
    (hrecord : record ∈ ordered) : ∃ group ∈ groups_of ordered, record ∈ group := by
  have hlinked := linked_link_records ordered
  have hcollected := collected_collect_members hlinked.forest hlinked.length_parents
  obtain ⟨i, hi⟩ := List.mem_iff_getElem?.mp hrecord
  have hentry : (record, i) ∈ ordered.zipIdx := List.mem_zipIdx_iff_getElem?.mpr hi
  obtain ⟨⟨k, group⟩, hmem, hk⟩ := List.mem_map.mp
    ((hcollected.keys (root (link_records ordered).parents i)).mpr ⟨_, hentry, rfl⟩)
  refine ⟨group, List.mem_map.mpr ⟨_, hmem, rfl⟩, ?_⟩
  rw [← members_of_eq _ hcollected.nodup_keys hmem, hcollected.members]
  refine List.mem_map.mpr ⟨(record, i), List.mem_filter.mpr ⟨hentry, ?_⟩, rfl⟩
  exact decide_eq_true hk.symm

/-! ### Representatives -/

@[simp] lemma link_key_representatives (index : ℕ) (links : Links) (key : String) :
    (link_key index links key).representatives = links.representatives := by
  rw [link_key]
  cases links.tokens key <;> rfl

lemma link_record_representatives (links : Links) (entry : DatasetImageRecord × ℕ) :
    (link_record links entry).representatives
      = set_default links.representatives entry.1.rgb_checksum entry.1.source_path := by
  have hkeys : ∀ (keys : List String) (links : Links),
      (keys.foldl (link_key entry.2) links).representatives = links.representatives := by
    intro keys
    induction keys with
    | nil => exact fun _ => rfl
    | cons key keys ih => exact fun links => (ih _).trans (link_key_representatives _ _ _)
  exact hkeys _ _

lemma set_default_apply (dictionary : String → Option String) (key value k : String) :
    set_default dictionary key value k
      = (dictionary k).or (if k = key then some value else none) := by
  rw [set_default]
  cases hkey : dictionary key with
  | some v =>
    by_cases hk : k = key
    · simp [hk, hkey]
    · simp [hk]
  | none =>
    by_cases hk : k = key
    · simp [hk, hkey]
    · simp [hk]

/-- Pixels are represented by the first record that has them. -/
theorem representatives_eq_find? (ordered : List DatasetImageRecord) (rgb : String) :
    (link_records ordered).representatives rgb
      = (ordered.find? fun record => record.rgb_checksum = rgb).map (·.source_path) := by
  have hentries : ∀ (entries : List (DatasetImageRecord × ℕ)) (links : Links),
      (entries.foldl link_record links).representatives rgb
        = (links.representatives rgb).or
            (((entries.map Prod.fst).find? fun record => record.rgb_checksum = rgb).map
              (·.source_path)) := by
    intro entries
    induction entries with
    | nil => simp
    | cons entry entries ih =>
      intro links
      rw [List.foldl_cons, ih, link_record_representatives, set_default_apply, Option.or_assoc]
      congr 1
      rw [List.map_cons, List.find?_cons]
      by_cases hrgb : entry.1.rgb_checksum = rgb
      · simp [hrgb]
      · simp [hrgb, Ne.symm hrgb]
  rw [link_records, hentries, List.zipIdx_map_fst]
  rfl

/-! ### Decisions -/

section Decisions

variable {checksum : ByteArray → String} {seed : ℕ} {split_mapping : Dict DatasetSplit}

lemma record_decision_apply (decision : String × DatasetSplit) (group : List DatasetImageRecord)
    (decisions : Decisions) (path : String) :
    record_decision decision group decisions path
      = if path ∈ group.map (·.source_path) then some decision else decisions path := by
  induction group generalizing decisions with
  | nil => simp [record_decision]
  | cons record group ih =>
    rw [record_decision, List.foldl_cons, ← record_decision, ih, List.map_cons]
    by_cases hgroup : path ∈ group.map (·.source_path)
    · rw [if_pos hgroup, if_pos (List.mem_cons_of_mem _ hgroup)]
    · rw [if_neg hgroup]
      by_cases hpath : path = record.source_path
      · rw [hpath, Function.update_self, if_pos List.mem_cons_self]
      · rw [Function.update_of_ne hpath, if_neg]
        exact fun hmem => (List.mem_cons.mp hmem).elim hpath hgroup

/-- Every path of a group gets the decision of a group that has it. -/
theorem decide_groups_apply {groups : List (List DatasetImageRecord)} {decisions : Decisions}
    (h : decide_groups checksum seed split_mapping groups = .ok decisions) {path : String}
    (hpath : ∃ group ∈ groups, path ∈ group.map (·.source_path)) :
    ∃ group ∈ groups, path ∈ group.map (·.source_path) ∧
      ∃ decision, decide_group checksum seed split_mapping group = .ok decision ∧
        decisions path = some decision := by
  have hloop : ∀ (groups : List (List DatasetImageRecord)) (start : Decisions),
      groups.foldlM (fun decisions group => do
        let decision ← decide_group checksum seed split_mapping group
        return record_decision decision group decisions) start
        = Except.ok decisions →
      (∃ group ∈ groups, path ∈ group.map (·.source_path) ∧
        ∃ decision, decide_group checksum seed split_mapping group = .ok decision ∧
          decisions path = some decision) ∨
      (∀ group ∈ groups, path ∉ group.map (·.source_path)) ∧ decisions path = start path := by
    intro groups
    induction groups with
    | nil =>
      intro start h
      rw [List.foldlM_nil] at h
      exact Or.inr ⟨by simp, by rw [← Except.ok.inj h]⟩
    | cons group groups ih =>
      intro start h
      rw [List.foldlM_cons] at h
      cases hdecision : decide_group checksum seed split_mapping group with
      | error e =>
        rw [hdecision] at h
        exact absurd h (by simp [bind, Except.bind])
      | ok decision =>
        rw [hdecision] at h
        rcases ih _ h with ⟨g, hg, hmem, hrest⟩ | ⟨hnone, heq⟩
        · exact Or.inl ⟨g, List.mem_cons_of_mem _ hg, hmem, hrest⟩
        · rw [record_decision_apply] at heq
          by_cases hmem : path ∈ group.map (·.source_path)
          · rw [if_pos hmem] at heq
            exact Or.inl ⟨group, List.mem_cons_self, hmem, decision, hdecision, heq⟩
          · rw [if_neg hmem] at heq
            refine Or.inr ⟨fun g hg => ?_, heq⟩
            rcases List.mem_cons.mp hg with rfl | hg
            · exact hmem
            · exact hnone g hg
  rcases hloop groups _ h with hfound | ⟨hnone, -⟩
  · exact hfound
  · obtain ⟨group, hgroup, hmem⟩ := hpath
    exact absurd hmem (hnone group hgroup)

end Decisions

/-! ### Accepted records -/

section Assign

variable {checksum : ByteArray → String} {records result : List DatasetImageRecord}
  {source_kind : SourceKind} {seed : ℕ} {training_intended : Bool}
  {split_mapping : Dict DatasetSplit}

/-- What the assignment checks of the ordered records, and what it returns. -/
structure Assigned (checksum : ByteArray → String) (source_kind : SourceKind) (seed : ℕ)
    (training_intended : Bool) (split_mapping : Dict DatasetSplit)
    (ordered : List DatasetImageRecord) (decisions : Decisions)
    (result : List DatasetImageRecord) : Prop where
  ne_nil : ordered ≠ []
  nodup_paths : (ordered.map DatasetImageRecord.source_path).Nodup
  declarations : check_declarations ordered source_kind = .ok ()
  decided : decide_groups checksum seed split_mapping (groups_of ordered) = .ok decisions
  result_eq : result = ordered.map (with_assignment decisions (link_records ordered).representatives)
  training : training_intended = true → result.any training_example = true

lemma assign_eq_ok_iff : assign checksum records source_kind seed training_intended split_mapping
      = .ok result ↔
    ∃ decisions, Assigned checksum source_kind seed training_intended split_mapping
      (sorted_by DatasetImageRecord.source_path records) decisions result := by
  set ordered := sorted_by DatasetImageRecord.source_path records with hordered
  have hgroups : (collect_members (link_records ordered).parents ordered).2.map Prod.snd
      = groups_of ordered := rfl
  simp only [assign, ← hordered, hgroups, bind_eq_ok, raise_if_eq_ok, pure_eq_ok, not_or, not_not,
    not_and]
  constructor
  · rintro ⟨_, ⟨hne, hnodup⟩, _, hdeclared, decisions, hdecided, _, htraining, rfl⟩
    exact ⟨decisions, hne, hnodup, hdeclared, hdecided, rfl, htraining⟩
  · rintro ⟨decisions, hassigned⟩
    obtain rfl := hassigned.result_eq
    exact ⟨(), ⟨hassigned.ne_nil, hassigned.nodup_paths⟩, (), hassigned.declarations, decisions,
      hassigned.decided, (), hassigned.training, rfl⟩

/-- Accepted by the whole function means accepted by its inner part. -/
lemma assign_groups_eq_ok_iff : assign_groups checksum records source_kind seed training_intended
      split_mapping = .ok result ↔
    assign checksum records source_kind seed training_intended split_mapping = .ok result := by
  rw [assign_groups]
  by_cases hempty : records = []
  · rw [if_pos hempty]
    constructor
    · exact fun h => absurd h (by simp [fail])
    · intro h
      obtain ⟨decisions, hassigned⟩ := assign_eq_ok_iff.mp h
      subst hempty
      exact absurd rfl hassigned.ne_nil
  · rw [if_neg hempty]
    cases assign checksum records source_kind seed training_intended split_mapping with
    | ok outcome => rfl
    | error e => cases e <;> simp [fail]

end Assign

/-! ### Decisions of components -/

section Accepted

variable {checksum : ByteArray → String} {ordered result : List DatasetImageRecord}
  {source_kind : SourceKind} {seed : ℕ} {training_intended : Bool}
  {split_mapping : Dict DatasetSplit} {decisions : Decisions}

/-- Every record gets the decision of its component. -/
theorem Assigned.decision (h : Assigned checksum source_kind seed training_intended split_mapping
      ordered decisions result) {record : DatasetImageRecord} (hrecord : record ∈ ordered) :
    ∃ decision, decide_group checksum seed split_mapping (component ordered record) = .ok decision ∧
      decisions record.source_path = some decision := by
  have hnodup : ordered.Nodup := h.nodup_paths.of_map
  obtain ⟨group, hgroup, hmem⟩ := exists_group hrecord
  obtain ⟨group', hgroup', hpath, decision, hdecision, happly⟩ := decide_groups_apply h.decided
    ⟨group, hgroup, List.mem_map.mpr ⟨record, hmem, rfl⟩⟩
  obtain ⟨other, hother, hsame⟩ := List.mem_map.mp hpath
  have heq := group_eq_component hnodup hgroup' hother
  have hother_mem : other ∈ ordered := by
    rw [heq] at hother
    exact (mem_component.mp hother).1
  obtain rfl : other = record := List.inj_on_of_nodup_map h.nodup_paths hother_mem hrecord hsame
  exact ⟨decision, heq ▸ hdecision, happly⟩

/-- What a decision is: the digest of the keys, and the declared split if there is one. -/
lemma decide_group_eq_ok {group : List DatasetImageRecord} {decision : String × DatasetSplit}
    (h : decide_group checksum seed split_mapping group = .ok decision) :
    decision.1 = group_digest checksum (sorted_set (group.flatMap link_keys)) ∧
      (∀ label ∈ group.filterMap (·.upstream_split), (split_mapping.get? label).isSome) ∧
      ∀ split ∈ ((group.filterMap (·.upstream_split)).filterMap split_mapping.get?).dedup,
        split = decision.2 := by
  obtain ⟨_, hknown, h⟩ := bind_eq_ok.mp h
  have hsome : ∀ label ∈ group.filterMap (·.upstream_split),
      (split_mapping.get? label).isSome := by
    intro label hlabel
    by_contra hnone
    apply raise_if_eq_ok.mp hknown
    exact List.any_eq_true.mpr ⟨label, hlabel, by simpa using hnone⟩
  dsimp only at h
  split at h
  · rename_i hnil
    obtain ⟨split, _, h⟩ := bind_eq_ok.mp h
    obtain rfl := pure_eq_ok.mp h
    refine ⟨rfl, hsome, ?_⟩
    rw [hnil]
    exact fun _ hmem => absurd hmem List.not_mem_nil
  · rename_i hsingle
    obtain rfl := pure_eq_ok.mp h
    refine ⟨rfl, hsome, ?_⟩
    rw [hsingle]
    exact fun _ hmem => List.mem_singleton.mp hmem
  · exact absurd h (by simp)

/-- The identifier of a decided group is the digest of its keys. -/
lemma decide_group_fst {group : List DatasetImageRecord} {decision : String × DatasetSplit}
    (h : decide_group checksum seed split_mapping group = .ok decision) :
    decision.1 = group_digest checksum (sorted_set (group.flatMap link_keys)) :=
  (decide_group_eq_ok h).1

/-- Every label of a decided group stands for the split of the group. -/
lemma decide_group_declared {group : List DatasetImageRecord} {decision : String × DatasetSplit}
    (h : decide_group checksum seed split_mapping group = .ok decision)
    {record : DatasetImageRecord} (hrecord : record ∈ group) {label : String}
    (hlabel : record.upstream_split = some label) :
    split_mapping.get? label = some decision.2 := by
  obtain ⟨_, hknown, hdeclared⟩ := decide_group_eq_ok h
  have hmem : label ∈ group.filterMap (·.upstream_split) :=
    List.mem_filterMap.mpr ⟨record, hrecord, hlabel⟩
  obtain ⟨split, hget⟩ := Option.isSome_iff_exists.mp (hknown label hmem)
  rw [hget, hdeclared split (List.mem_dedup.mpr (List.mem_filterMap.mpr ⟨label, hmem, hget⟩))]

lemma mem_sorted_set {identifiers : List String} {key : String} :
    key ∈ sorted_set identifiers ↔ key ∈ identifiers := by
  rw [sorted_set, List.mem_insertionSort, List.mem_dedup]

/-- Components with the same identifier are the same component. -/
theorem connected_of_digest (hdigest : Function.Injective (group_digest checksum))
    {r s : DatasetImageRecord} (hr : r ∈ ordered)
    (h : group_digest checksum (sorted_set ((component ordered r).flatMap link_keys))
      = group_digest checksum (sorted_set ((component ordered s).flatMap link_keys))) :
    Connected ordered r s := by
  have hkeys := hdigest h
  have hmem : "rgb:" ++ r.rgb_checksum ∈ sorted_set ((component ordered s).flatMap link_keys) := by
    rw [← hkeys, mem_sorted_set]
    exact List.mem_flatMap.mpr
      ⟨r, mem_component.mpr ⟨hr, .refl _⟩, List.mem_cons_self⟩
  obtain ⟨t, ht, hkey⟩ := List.mem_flatMap.mp (mem_sorted_set.mp hmem)
  obtain ⟨ht, hst⟩ := mem_component.mp ht
  have hlinked : linked r t := (exists_common_key_iff r t).mp ⟨_, List.mem_cons_self, hkey⟩
  exact (EqvGen.rel _ _ ⟨hr, ht, hlinked⟩).trans _ _ _ (hst.symm _ _)

end Accepted

/-! ### Reassignment -/

lemma append_member_map (u : DatasetImageRecord → DatasetImageRecord) (root : ℕ) (record : DatasetImageRecord)
    (members : List (ℕ × List DatasetImageRecord)) :
    append_member root (u record) (members.map fun entry => (entry.1, entry.2.map u))
      = (append_member root record members).map fun entry => (entry.1, entry.2.map u) := by
  induction members with
  | nil => rfl
  | cons entry members ih =>
    rw [List.map_cons, append_member, append_member]
    by_cases hroot : entry.1 = root
    · rw [if_pos hroot, if_pos hroot]
      simp
    · rw [if_neg hroot, if_neg hroot, List.map_cons, ih]

section Reassignment

/-- The fields the assignment reads are unchanged. -/
def KeepsAssignment (u : DatasetImageRecord → DatasetImageRecord) : Prop :=
  ∀ record, (u record).source_path = record.source_path ∧
    (u record).rgb_checksum = record.rgb_checksum ∧
    (u record).source_identity = record.source_identity ∧
    (u record).upstream_split = record.upstream_split

lemma keeps_with_assignment (decisions : Decisions) (representatives : String → Option String) :
    KeepsAssignment (with_assignment decisions representatives) :=
  fun _ => ⟨rfl, rfl, rfl, rfl⟩

variable {u : DatasetImageRecord → DatasetImageRecord} (hu : KeepsAssignment u)
  {ordered : List DatasetImageRecord}

include hu

lemma KeepsAssignment.link_keys (record : DatasetImageRecord) :
    link_keys (u record) = link_keys record := by
  rw [StegoLab.link_keys, StegoLab.link_keys, (hu record).2.1, (hu record).2.2.1]

lemma KeepsAssignment.linked {r s : DatasetImageRecord} : linked (u r) (u s) ↔ linked r s := by
  rw [← exists_common_key_iff, ← exists_common_key_iff, hu.link_keys, hu.link_keys]

lemma KeepsAssignment.connected {r s : DatasetImageRecord} (h : Connected ordered r s) :
    Connected (ordered.map u) (u r) (u s) := by
  induction h with
  | rel r s h =>
    exact .rel _ _ ⟨List.mem_map.mpr ⟨r, h.1, rfl⟩, List.mem_map.mpr ⟨s, h.2.1, rfl⟩,
      hu.linked.mpr h.2.2⟩
  | refl r => exact .refl _
  | symm r s _ ih => exact ih.symm _ _
  | trans r s t _ _ ih₁ ih₂ => exact ih₁.trans _ _ _ ih₂

lemma KeepsAssignment.map_paths : (ordered.map u).map DatasetImageRecord.source_path
    = ordered.map DatasetImageRecord.source_path := by
  rw [List.map_map]
  exact List.map_congr_left fun record _ => (hu record).1

lemma KeepsAssignment.check_declarations (source_kind : SourceKind) :
    check_declarations (ordered.map u) source_kind = check_declarations ordered source_kind := by
  have hsplit : (fun record => (u record).upstream_split.isSome)
      = fun record : DatasetImageRecord => record.upstream_split.isSome :=
    funext fun record => by rw [(hu record).2.2.2]
  have hidentity : (fun record => (u record).source_identity.isNone)
      = fun record : DatasetImageRecord => record.source_identity.isNone :=
    funext fun record => by rw [(hu record).2.2.1]
  unfold StegoLab.check_declarations
  simp only [List.filter_map, Function.comp_def, List.length_map, List.any_map, ne_eq,
    List.map_eq_nil_iff, hsplit, hidentity]

lemma KeepsAssignment.link_records : link_records (ordered.map u) = link_records ordered := by
  have hstep : ∀ (links : Links) (entry : DatasetImageRecord × ℕ),
      link_record links (u entry.1, entry.2) = link_record links entry := by
    intro links entry
    rw [link_record, link_record, hu.link_keys, (hu entry.1).1, (hu entry.1).2.1]
  rw [StegoLab.link_records, StegoLab.link_records, List.zipIdx_map, List.foldl_map,
    List.length_map]
  congr
  funext links entry
  exact hstep links entry

omit hu in
lemma collect_members_map (parents : List ℕ) :
    collect_members parents (ordered.map u)
      = ((collect_members parents ordered).1,
        (collect_members parents ordered).2.map fun entry => (entry.1, entry.2.map u)) := by
  set update : Members → Members :=
    fun state => (state.1, state.2.map fun entry => (entry.1, entry.2.map u)) with hupdate
  have hstep : ∀ (state : Members) (entry : DatasetImageRecord × ℕ),
      collect_member (update state) (u entry.1, entry.2) = update (collect_member state entry) := by
    intro state entry
    rw [hupdate, collect_member]
    exact congrArg (Prod.mk _) (append_member_map u _ _ _)
  have hentries : ∀ (entries : List (DatasetImageRecord × ℕ)) (state : Members),
      entries.foldl (fun state entry => collect_member state (u entry.1, entry.2)) (update state)
        = update (entries.foldl collect_member state) := by
    intro entries
    induction entries with
    | nil => exact fun _ => rfl
    | cons entry entries ih =>
      intro state
      rw [List.foldl_cons, List.foldl_cons, hstep]
      exact ih _
  rw [collect_members, List.zipIdx_map, List.foldl_map]
  exact hentries ordered.zipIdx (parents, [])

lemma KeepsAssignment.groups_of :
    groups_of (ordered.map u) = (groups_of ordered).map (List.map u) := by
  rw [StegoLab.groups_of, StegoLab.groups_of, hu.link_records, collect_members_map, List.map_map,
    List.map_map]
  rfl

lemma KeepsAssignment.decide_group {checksum : ByteArray → String} {seed : ℕ}
    {split_mapping : Dict DatasetSplit} (group : List DatasetImageRecord) :
    decide_group checksum seed split_mapping (group.map u)
      = decide_group checksum seed split_mapping group := by
  have hkeys : (group.map u).flatMap StegoLab.link_keys = group.flatMap StegoLab.link_keys := by
    rw [List.flatMap_map]
    exact congrArg (group.flatMap ·) (funext hu.link_keys)
  have hlabels : (group.map u).filterMap (·.upstream_split) = group.filterMap (·.upstream_split) := by
    rw [List.filterMap_map]
    exact congrArg (group.filterMap ·) (funext fun record => (hu record).2.2.2)
  rw [StegoLab.decide_group, StegoLab.decide_group, hkeys, hlabels]

lemma KeepsAssignment.record_decision (decision : String × DatasetSplit)
    (group : List DatasetImageRecord) (decisions : Decisions) :
    record_decision decision (group.map u) decisions = record_decision decision group decisions := by
  rw [StegoLab.record_decision, StegoLab.record_decision, List.foldl_map]
  congr
  funext decisions record
  rw [(hu record).1]

lemma KeepsAssignment.decide_groups {checksum : ByteArray → String} {seed : ℕ}
    {split_mapping : Dict DatasetSplit} (groups : List (List DatasetImageRecord)) :
    decide_groups checksum seed split_mapping (groups.map (List.map u))
      = decide_groups checksum seed split_mapping groups := by
  rw [StegoLab.decide_groups, StegoLab.decide_groups, List.foldlM_map]
  congr
  funext decisions group
  rw [hu.decide_group]
  congr
  funext decision
  rw [hu.record_decision]

end Reassignment

end StegoLab

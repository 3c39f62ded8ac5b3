import StegoLab.Datasets.GroupProperties

/-!
# No leakage between splits

What the assignment guarantees of every list of records that it accepts.
-/

namespace StegoLab

open Relation

/-- The record without its assignment. -/
def unassigned (record : DatasetImageRecord) : DatasetImageRecord :=
  { record with
    assigned_split := none
    duplicate_group := ""
    split_group := ""
    representative_source_path := none }

/-- The record whose path stands for the pixels of the list. -/
def Represents (result : List DatasetImageRecord) (rgb : String)
    (record : DatasetImageRecord) : Prop :=
  record ∈ result ∧ record.rgb_checksum = rgb ∧
    record.representative_source_path = some record.source_path

section Accepted

variable {checksum : ByteArray → String} {ordered result : List DatasetImageRecord}
  {source_kind : SourceKind} {seed : ℕ} {training_intended : Bool}
  {split_mapping : Dict DatasetSplit} {decisions : Decisions}

lemma Assigned.mem_result (h : Assigned checksum source_kind seed training_intended split_mapping
      ordered decisions result) {r : DatasetImageRecord} (hr : r ∈ result) :
    ∃ record ∈ ordered,
      r = with_assignment decisions (link_records ordered).representatives record := by
  rw [h.result_eq] at hr
  obtain ⟨record, hmem, heq⟩ := List.mem_map.mp hr
  exact ⟨record, hmem, heq.symm⟩

/-- An assigned record carries the decision of its component. -/
lemma Assigned.fields (h : Assigned checksum source_kind seed training_intended split_mapping
      ordered decisions result) {record : DatasetImageRecord} (hrecord : record ∈ ordered) :
    ∃ decision, decide_group checksum seed split_mapping (component ordered record) = .ok decision ∧
      (with_assignment decisions (link_records ordered).representatives record).split_group
        = decision.1 ∧
      (with_assignment decisions (link_records ordered).representatives record).assigned_split
        = some decision.2 := by
  obtain ⟨decision, hdecision, happly⟩ := h.decision hrecord
  refine ⟨decision, hdecision, ?_, ?_⟩
  · rw [with_assignment, happly]
    rfl
  · rw [with_assignment, happly]
    rfl

lemma Assigned.same_of_linked (h : Assigned checksum source_kind seed training_intended
      split_mapping ordered decisions result) {r s : DatasetImageRecord} (hr : r ∈ result)
    (hs : s ∈ result) (hlinked : linked r s) :
    r.split_group = s.split_group ∧ r.assigned_split = s.assigned_split := by
  obtain ⟨a, ha, rfl⟩ := h.mem_result hr
  obtain ⟨b, hb, rfl⟩ := h.mem_result hs
  have hconnected : Connected ordered a b :=
    .rel _ _ ⟨ha, hb, (keeps_with_assignment _ _).linked.mp hlinked⟩
  obtain ⟨decision, hdecision, hgroup, hsplit⟩ := h.fields ha
  obtain ⟨decision', hdecision', hgroup', hsplit'⟩ := h.fields hb
  rw [← component_eq_of_connected hconnected, hdecision] at hdecision'
  obtain rfl := Except.ok.inj hdecision'
  exact ⟨hgroup.trans hgroup'.symm, hsplit.trans hsplit'.symm⟩

/-- Connected records get the same group and split. -/
lemma Assigned.same_of_connected (h : Assigned checksum source_kind seed training_intended
      split_mapping ordered decisions result) {r s : DatasetImageRecord}
    (hconnected : Connected result r s) :
    r.split_group = s.split_group ∧ r.assigned_split = s.assigned_split := by
  induction hconnected with
  | rel r s hrs => exact h.same_of_linked hrs.1 hrs.2.1 hrs.2.2
  | refl r => exact ⟨rfl, rfl⟩
  | symm r s _ ih => exact ⟨ih.1.symm, ih.2.symm⟩
  | trans r s t _ _ ih₁ ih₂ => exact ⟨ih₁.1.trans ih₂.1, ih₁.2.trans ih₂.2⟩

/-- Records of different components get different groups. -/
lemma Assigned.connected_of_split_group (h : Assigned checksum source_kind seed training_intended
      split_mapping ordered decisions result)
    (hdigest : Function.Injective (group_digest checksum)) {r s : DatasetImageRecord}
    (hr : r ∈ result) (hs : s ∈ result) (hgroup : r.split_group = s.split_group) :
    Connected result r s := by
  obtain ⟨a, ha, rfl⟩ := h.mem_result hr
  obtain ⟨b, hb, rfl⟩ := h.mem_result hs
  obtain ⟨decision, hdecision, hgroup₁, -⟩ := h.fields ha
  obtain ⟨decision', hdecision', hgroup₂, -⟩ := h.fields hb
  rw [hgroup₁, hgroup₂, decide_group_fst hdecision, decide_group_fst hdecision'] at hgroup
  have hconnected := connected_of_digest hdigest ha hgroup
  rw [h.result_eq]
  exact (keeps_with_assignment _ _).connected hconnected

/-- A declared label decides the split of its record. -/
lemma Assigned.declared (h : Assigned checksum source_kind seed training_intended split_mapping
      ordered decisions result) {r : DatasetImageRecord} (hr : r ∈ result) {label : String}
    (hlabel : r.upstream_split = some label) :
    ∃ split, split_mapping.get? label = some split ∧ r.assigned_split = some split := by
  obtain ⟨a, ha, rfl⟩ := h.mem_result hr
  obtain ⟨decision, hdecision, -, hsplit⟩ := h.fields ha
  refine ⟨decision.2, ?_, hsplit⟩
  exact decide_group_declared hdecision (mem_component.mpr ⟨ha, .refl _⟩) hlabel

/-- The representative of the pixels of a record is the record with the least path. -/
lemma Assigned.representative (h : Assigned checksum source_kind seed training_intended
      split_mapping ordered decisions result)
    (hsorted : ordered.Pairwise fun a b => a.source_path ≤ b.source_path)
    {r : DatasetImageRecord} (hr : r ∈ result) :
    ∃ least ∈ result, least.rgb_checksum = r.rgb_checksum ∧
      (∀ s ∈ result, s.rgb_checksum = r.rgb_checksum →
        s.representative_source_path = some least.source_path ∧
          least.source_path ≤ s.source_path) := by
  obtain ⟨a, ha, rfl⟩ := h.mem_result hr
  have hfind := representatives_eq_find? ordered a.rgb_checksum
  cases hfirst : ordered.find? fun record => record.rgb_checksum = a.rgb_checksum with
  | none =>
    have hnone := List.find?_eq_none.mp hfirst a ha
    exact absurd rfl (of_decide_eq_false (Bool.eq_false_iff.mpr hnone))
  | some first =>
    rw [hfirst] at hfind
    obtain ⟨hrgb, before, after, hsplit, hbefore⟩ := List.find?_eq_some_iff_append.mp hfirst
    have hrgb : first.rgb_checksum = a.rgb_checksum := of_decide_eq_true hrgb
    refine ⟨with_assignment decisions (link_records ordered).representatives first, ?_, hrgb,
      fun s hs hsame => ?_⟩
    · rw [h.result_eq]
      exact List.mem_map.mpr ⟨first, List.mem_of_find?_eq_some hfirst, rfl⟩
    · obtain ⟨b, hb, rfl⟩ := h.mem_result hs
      have hsame : b.rgb_checksum = a.rgb_checksum := hsame
      refine ⟨?_, ?_⟩
      · rw [with_assignment]
        exact (congrArg _ hsame).trans hfind
      · change first.source_path ≤ b.source_path
        rw [hsplit] at hb hsorted
        rcases List.mem_append.mp hb with hb | hb
        · have := hbefore b hb
          simp [hsame] at this
        · rcases List.mem_cons.mp hb with rfl | hb
          · exact le_refl _
          · exact (List.pairwise_cons.mp (List.pairwise_append.mp hsorted).2.1).1 b hb

lemma Assigned.nodup_paths_result (h : Assigned checksum source_kind seed training_intended
      split_mapping ordered decisions result) :
    (result.map DatasetImageRecord.source_path).Nodup := by
  rw [h.result_eq, (keeps_with_assignment _ _).map_paths]
  exact h.nodup_paths

/-- Assigning assigned records again gives the same records. -/
lemma Assigned.again (h : Assigned checksum source_kind seed training_intended split_mapping
      ordered decisions result) :
    Assigned checksum source_kind seed training_intended split_mapping result decisions result := by
  have hkeeps := keeps_with_assignment decisions (link_records ordered).representatives
  have hlinks : link_records result = link_records ordered := by
    rw [h.result_eq, hkeeps.link_records]
  refine ⟨?_, h.nodup_paths_result, ?_, ?_, ?_, h.training⟩
  · rw [h.result_eq]
    exact fun hnil => h.ne_nil (List.map_eq_nil_iff.mp hnil)
  · rw [h.result_eq, hkeeps.check_declarations]
    exact h.declarations
  · rw [h.result_eq, hkeeps.groups_of, hkeeps.decide_groups]
    exact h.decided
  · rw [hlinks, h.result_eq, List.map_map]
    exact List.map_congr_left fun record _ => rfl

end Accepted

/-! ### Digests without collisions -/

lemma group_digest_injective {checksum : ByteArray → String} (h : Function.Injective checksum) :
    Function.Injective (group_digest checksum) := by
  intro identifiers identifiers' heq
  have hjson := CanonicalJson.canonical_json_injective (h heq)
  rw [CanonicalJson.Json.arr.injEq] at hjson
  exact List.map_injective_iff.mpr (fun a b hab => CanonicalJson.Json.str.inj hab) hjson

/-- The bytes in hexadecimal. -/
def hex_dump (data : ByteArray) : String :=
  String.ofList (data.data.toList.flatMap fun byte =>
    [CanonicalJson.hex_digit (byte.toNat / 16), CanonicalJson.hex_digit (byte.toNat % 16)])

lemma hex_value_hex_digit : ∀ n < 16, CanonicalJson.hex_value (CanonicalJson.hex_digit n) = n := by
  decide

lemma hex_dump_injective : Function.Injective hex_dump := by
  have hbytes : ∀ (xs ys : List UInt8),
      xs.flatMap (fun byte => [CanonicalJson.hex_digit (byte.toNat / 16),
          CanonicalJson.hex_digit (byte.toNat % 16)])
        = ys.flatMap (fun byte => [CanonicalJson.hex_digit (byte.toNat / 16),
          CanonicalJson.hex_digit (byte.toNat % 16)]) → xs = ys := by
    intro xs
    induction xs with
    | nil =>
      intro ys h
      cases ys with
      | nil => rfl
      | cons y ys => simp at h
    | cons x xs ih =>
      intro ys h
      cases ys with
      | nil => simp at h
      | cons y ys =>
        simp only [List.flatMap_cons, List.cons_append, List.nil_append, List.cons.injEq] at h
        have hx := UInt8.toNat_lt x
        have hy := UInt8.toNat_lt y
        have hhigh := congrArg CanonicalJson.hex_value h.1
        have hlow := congrArg CanonicalJson.hex_value h.2.1
        rw [hex_value_hex_digit _ (by omega), hex_value_hex_digit _ (by omega)] at hhigh hlow
        rw [ih ys h.2.2, UInt8.toNat_inj.mp (by omega : x.toNat = y.toNat)]
  intro data data' h
  exact ByteArray.ext (Array.toList_inj.mp (hbytes _ _ (String.ofList_injective h)))

/-! ### The assignment of accepted records -/

section Accepts

variable {checksum : ByteArray → String} {records result : List DatasetImageRecord}
  {source_kind : SourceKind} {seed : ℕ} {training_intended : Bool}
  {split_mapping : Dict DatasetSplit}

/-- The order of the records does not matter. -/
lemma assign_groups_perm (h : assign_groups checksum records source_kind seed training_intended
      split_mapping = .ok result) {records' : List DatasetImageRecord}
    (hperm : records.Perm records') :
    assign_groups checksum records' source_kind seed training_intended split_mapping
      = .ok result := by
  obtain ⟨decisions, hassigned⟩ := assign_eq_ok_iff.mp (assign_groups_eq_ok_iff.mp h)
  have hnodup : (records.map DatasetImageRecord.source_path).Nodup :=
    ((sorted_by_perm records).map _).nodup_iff.mp hassigned.nodup_paths
  refine assign_groups_eq_ok_iff.mpr (assign_eq_ok_iff.mpr ⟨decisions, ?_⟩)
  rwa [← sorted_by_eq_of_perm hperm hnodup]

/-- Assigning again changes nothing. -/
lemma assign_groups_again (h : assign_groups checksum records source_kind seed training_intended
      split_mapping = .ok result) :
    assign_groups checksum result source_kind seed training_intended split_mapping
      = .ok result := by
  obtain ⟨decisions, hassigned⟩ := assign_eq_ok_iff.mp (assign_groups_eq_ok_iff.mp h)
  refine assign_groups_eq_ok_iff.mpr (assign_eq_ok_iff.mpr ⟨decisions, ?_⟩)
  have hsorted : sorted_by DatasetImageRecord.source_path result = result := by
    rw [hassigned.result_eq]
    exact sorted_by_map_sorted (fun record => (keeps_with_assignment _ _ record).1) records
  rw [hsorted]
  exact hassigned.again

/-- A record of 300 by 300 pixels. -/
def square_record (path rgb : String) (identity : Option String) : DatasetImageRecord :=
  { source_path := path
    prepared_path := "images/" ++ path
    source_identity := identity
    source_checksum := rgb
    prepared_checksum := rgb
    rgb_checksum := rgb
    source_bytes := 1
    prepared_bytes := 1
    source_width := 300
    source_height := 300
    width := 300
    height := 300
    source_format := "PNG"
    source_mode := "RGB"
    mode := "RGB"
    orientation := 1
    color_policy := "assumed_srgb"
    grayscale_converted := false
    eligible := true }

/-- A chain of two pixels and two identities, and a record of its own. -/
def chained_records : List DatasetImageRecord :=
  [square_record "c" "2" (some "y"), square_record "a" "1" (some "x"),
    square_record "d" "3" none, square_record "b" "1" (some "y")]

end Accepts

end StegoLab

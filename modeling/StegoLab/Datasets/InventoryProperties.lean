import StegoLab.Datasets.Inventory

/-!
# What an inventory holds

A successful inventory is determined by the selected entries, their digests and the metadata.
-/

namespace StegoLab

variable {library : SourceLibrary} {tree : SourceTree} {request : DatasetPreparationRequest}
  {inventory : DatasetInventory}

/-! ### Selected entries -/

lemma nodup_scan_source (tree : SourceTree) :
    ((scan_source tree).map SourceFile.relative_path).Nodup := by
  have hpaths : (tree.files.map fun file => scan_file file.1 file.2.1).map SourceFile.relative_path
      = tree.files.map Prod.fst := by
    rw [List.map_map]
    rfl
  have hperm : ((scan_source tree).map SourceFile.relative_path).Perm (tree.files.map Prod.fst) :=
    hpaths ▸ (sorted_by_perm _).map SourceFile.relative_path
  exact hperm.nodup_iff.mpr tree.nodup_paths

/-- A scanned entry is determined by its path and its size. -/
lemma eq_scan_file {item : SourceFile} (h : item ∈ scan_source tree) :
    item = scan_file item.relative_path item.size_bytes := by
  have hmem := (sorted_by_perm _).mem_iff.mp h
  obtain ⟨file, _, rfl⟩ := List.mem_map.mp hmem
  rfl

/-- What a successful inventory holds. -/
structure Inventoried (library : SourceLibrary) (tree : SourceTree)
    (request : DatasetPreparationRequest) (inventory : DatasetInventory) : Prop where
  metadata_read : ∀ metadata, inventory.metadata = some metadata → ∃ metadata_file,
    read_uhd_metadata library tree metadata_file (scan_source tree)
      (or_default request.split_mapping SPLIT_MAPPING) request.source_kind.label = .ok metadata
  selected : inventory.selected.Sublist (scan_source tree)
  rejections : inventory.selected.filterMapM (check_item library tree inventory.metadata)
    = .ok inventory.rejections
  expected : inventory.expected_by_split = expected_counts inventory.metadata
  discovered : inventory.metadata = none → inventory.discovered_by_split = Dict.empty
  checksums : inventory.source_checksums = Dict.of_items (inventory.selected.map fun item =>
    (item.relative_path, tree.digest item.relative_path))

lemma declared_metadata_eq_some {files : List SourceFile} {names : List String}
    {metadata : UhdMetadata}
    (h : declared_metadata library tree request files names = .ok (some metadata)) :
    ∃ metadata_file, read_uhd_metadata library tree metadata_file files
      (or_default request.split_mapping SPLIT_MAPPING) request.source_kind.label = .ok metadata := by
  unfold declared_metadata at h
  split at h
  · exact absurd h (by simp)
  · rename_i metadata_file _
    obtain ⟨read, hread, h⟩ := bind_eq_ok.mp h
    obtain ⟨_, _, h⟩ := bind_eq_ok.mp h
    obtain ⟨_, _, h⟩ := bind_eq_ok.mp h
    obtain rfl := Option.some.inj (pure_eq_ok.mp h)
    exact ⟨metadata_file, hread⟩

lemma select_candidates_sublist {candidates selected : List SourceFile}
    (h : select_candidates request candidates = .ok selected) : selected.Sublist candidates := by
  unfold select_candidates at h
  split at h
  · obtain rfl := Except.ok.inj h
    exact List.Sublist.refl _
  · obtain ⟨_, _, h⟩ := bind_eq_ok.mp h
    obtain rfl := pure_eq_ok.mp h
    exact List.filter_sublist

theorem inventoried (h : inventory_dataset library tree request = .ok inventory) :
    Inventoried library tree request inventory := by
  unfold inventory_dataset at h
  obtain ⟨metadata, hmetadata, h⟩ := bind_eq_ok.mp h
  obtain ⟨candidates, hcandidates, h⟩ := bind_eq_ok.mp h
  obtain ⟨_, _, h⟩ := bind_eq_ok.mp h
  obtain ⟨rejections, hrejections, h⟩ := bind_eq_ok.mp h
  obtain rfl := pure_eq_ok.mp h
  refine ⟨fun m hm => ?_, ?_, hrejections, rfl, fun hnone => ?_, rfl⟩
  · obtain rfl : metadata = some m := hm
    exact declared_metadata_eq_some hmetadata
  · exact (select_candidates_sublist hcandidates).trans List.filter_sublist
  · obtain rfl : metadata = none := hnone
    rfl

/-! ### Imported entries -/

/-- Path, size and digest of a file. -/
abbrev Content := String × ℕ × Option String

def item_content (tree : SourceTree) (item : SourceFile) : Content :=
  (item.relative_path, item.size_bytes, some (tree.digest item.relative_path))

def record_content (record : DatasetImageRecord) : Content :=
  (record.source_path, record.source_bytes, some record.source_checksum)

def rejection_content (rejection : DatasetRejection) : Content :=
  (rejection.source_path, rejection.source_bytes, rejection.source_checksum)

/-- The contents that records and rejections account for. -/
def contents (outcome : List DatasetImageRecord × List DatasetRejection) : List Content :=
  outcome.1.map record_content ++ outcome.2.map rejection_content

/-- Importing one more entry accounts for its content. -/
lemma import_step {item : SourceFile}
    {outcome outcome' : List DatasetImageRecord × List DatasetRejection}
    (h : import_item library tree inventory outcome item = .ok outcome')
    (hskip : item.relative_path ∈ inventory.rejections.map (·.source_path) →
      item_content tree item ∈ contents outcome) (content : Content) :
    content ∈ contents outcome' ↔ content ∈ contents outcome ∨ content = item_content tree item := by
  unfold import_item at h
  split_ifs at h with hrejected
  · obtain rfl := Except.ok.inj h
    constructor
    · exact Or.inl
    · rintro (hmem | rfl)
      · exact hmem
      · exact hskip hrejected
  · split at h
    · obtain rfl := Except.ok.inj h
      simp only [contents, List.map_append, List.map_cons, List.map_nil, List.mem_append,
        List.mem_singleton]
      exact or_right_comm
    · split_ifs at h
      · obtain rfl := Except.ok.inj h
        simp only [contents, List.map_append, List.map_cons, List.map_nil, List.mem_append,
          List.mem_singleton, or_assoc]
        exact Iff.rfl
      · exact absurd h (by simp [fail])

/-- A file rejected by the inventory is a selected one. -/
lemma Inventoried.rejected (h : Inventoried library tree request inventory)
    {rejection : DatasetRejection} (hrejection : rejection ∈ inventory.rejections) :
    ∃ item ∈ inventory.selected, rejection_content rejection = item_content tree item := by
  obtain ⟨item, hitem, hchecked⟩ := exists_of_mem_filterMapM h.rejections hrejection
  obtain ⟨_, _, hchecked⟩ := bind_eq_ok.mp hchecked
  obtain ⟨reason, _, hchecked⟩ := bind_eq_ok.mp hchecked
  obtain ⟨_, _, rfl⟩ := Option.map_eq_some_iff.mp (pure_eq_ok.mp hchecked)
  exact ⟨item, hitem, rfl⟩

lemma Inventoried.nodup_paths (h : Inventoried library tree request inventory) :
    (inventory.selected.map SourceFile.relative_path).Nodup :=
  (h.selected.map SourceFile.relative_path).nodup (nodup_scan_source tree)

/-- The imported records and rejections account for exactly the selected files. -/
theorem Inventoried.mem_contents (h : Inventoried library tree request inventory)
    {outcome : List DatasetImageRecord × List DatasetRejection}
    (himport : import_images library tree inventory = .ok outcome) (content : Content) :
    content ∈ contents outcome ↔ content ∈ inventory.selected.map (item_content tree) := by
  have hloop : ∀ (items : List SourceFile)
      (start : List DatasetImageRecord × List DatasetRejection), items ⊆ inventory.selected →
      contents ([], inventory.rejections) ⊆ contents start →
      items.foldlM (import_item library tree inventory) start = .ok outcome →
      (content ∈ contents outcome ↔
        content ∈ contents start ∨ content ∈ items.map (item_content tree)) := by
    intro items
    induction items with
    | nil =>
      intro start _ _ hfold
      obtain rfl := pure_eq_ok.mp hfold
      simp
    | cons item items ih =>
      intro start hitems hstart hfold
      rw [List.foldlM_cons] at hfold
      obtain ⟨next, hnext, hfold⟩ := bind_eq_ok.mp hfold
      have hstep := import_step hnext fun hrejected => by
        obtain ⟨rejection, hrejection, hpath⟩ := List.mem_map.mp hrejected
        obtain ⟨item', hitem', hcontent⟩ := h.rejected hrejection
        have hsame : item' = item := by
          refine List.inj_on_of_nodup_map h.nodup_paths hitem' (hitems List.mem_cons_self) ?_
          exact (congrArg Prod.fst hcontent).symm.trans hpath
        rw [← hsame, ← hcontent]
        exact hstart (List.mem_append_right _ (List.mem_map_of_mem hrejection))
      rw [ih next (fun _ hmem => hitems (List.mem_cons_of_mem _ hmem))
        (fun c hc => (hstep c).mpr (Or.inl (hstart hc))) hfold, hstep, List.map_cons, List.mem_cons,
        or_assoc]
  rw [hloop inventory.selected _ (fun _ hmem => hmem) (fun _ hmem => hmem) himport]
  constructor
  · rintro (hmem | hmem)
    · obtain ⟨rejection, hrejection, rfl⟩ := List.mem_map.mp hmem
      obtain ⟨item, hitem, hcontent⟩ := h.rejected hrejection
      exact hcontent ▸ List.mem_map_of_mem hitem
    · exact hmem
  · exact Or.inr

/-! ### Equal inputs -/

section Equal

variable {tree' : SourceTree} {request' : DatasetPreparationRequest} {inventory' : DatasetInventory}

lemma Inventoried.sorted (h : Inventoried library tree request inventory) :
    inventory.selected.Pairwise fun a b => a.relative_path ≤ b.relative_path :=
  (pairwise_sorted_by _).sublist h.selected

/-- Equal contents come from equal selections with equal digests. -/
theorem Inventoried.selected_eq (h : Inventoried library tree request inventory)
    (h' : Inventoried library tree' request' inventory')
    (hcontents : ∀ content, content ∈ inventory.selected.map (item_content tree) ↔
      content ∈ inventory'.selected.map (item_content tree')) :
    inventory.selected = inventory'.selected ∧
      ∀ item ∈ inventory.selected, tree.digest item.relative_path = tree'.digest item.relative_path := by
  -- an entry is determined by its path and size, both of which its content shows
  have hsame : ∀ {item item' : SourceFile}, item ∈ inventory.selected →
      item' ∈ inventory'.selected → item_content tree' item' = item_content tree item →
      item' = item := by
    intro item item' hitem hitem' hcontent
    rw [eq_scan_file (h.selected.subset hitem), eq_scan_file (h'.selected.subset hitem')]
    rw [item_content, item_content, Prod.mk.injEq, Prod.mk.injEq] at hcontent
    rw [hcontent.1, hcontent.2.1]
  have hmem : ∀ item, item ∈ inventory.selected ↔ item ∈ inventory'.selected := by
    intro item
    constructor
    · intro hitem
      obtain ⟨item', hitem', hcontent⟩ :=
        List.mem_map.mp ((hcontents _).mp (List.mem_map_of_mem hitem))
      exact hsame hitem hitem' hcontent ▸ hitem'
    · intro hitem'
      obtain ⟨item, hitem, hcontent⟩ :=
        List.mem_map.mp ((hcontents _).mpr (List.mem_map_of_mem hitem'))
      exact hsame hitem hitem' hcontent.symm ▸ hitem
  have hperm : inventory.selected.Perm inventory'.selected :=
    (List.perm_ext_iff_of_nodup h.nodup_paths.of_map h'.nodup_paths.of_map).mpr hmem
  refine ⟨hperm.eq_of_pairwise (fun a b ha hb hab hba => ?_) h.sorted h'.sorted,
    fun item hitem => ?_⟩
  · exact List.inj_on_of_nodup_map h.nodup_paths ha ((hmem b).mpr hb) (le_antisymm hab hba)
  · obtain ⟨item', hitem', hcontent⟩ :=
      List.mem_map.mp ((hcontents _).mp (List.mem_map_of_mem hitem))
    obtain rfl := hsame hitem hitem' hcontent
    rw [item_content, item_content, Prod.mk.injEq, Prod.mk.injEq, Option.some_inj] at hcontent
    exact hcontent.2.2.symm

/-- The rows are a function of the digest of the table, the mapping and the prefix. -/
lemma read_uhd_metadata_eq_ok {metadata_file : String} {files : List SourceFile}
    {split_mapping : Dict DatasetSplit} { identity_prefix : String} {metadata : UhdMetadata}
    (h : read_uhd_metadata library tree metadata_file files split_mapping identity_prefix
      = .ok metadata) :
    ∃ raw, library.read_csv metadata.sha256 = some raw ∧
      raw.foldlM (read_row split_mapping identity_prefix) Dict.empty = .ok metadata.rows := by
  obtain ⟨_, _, h⟩ := bind_eq_ok.mp h
  obtain ⟨_, _, h⟩ := bind_eq_ok.mp h
  dsimp only at h
  split at h
  · exact absurd h (by simp [fail])
  · rename_i raw hraw
    obtain ⟨rows, hrows, h⟩ := bind_eq_ok.mp h
    obtain ⟨_, _, h⟩ := bind_eq_ok.mp h
    obtain rfl := pure_eq_ok.mp h
    exact ⟨raw, hraw, hrows⟩

/-- Tables with equal digests, read with equal mappings, hold the same rows. -/
theorem Inventoried.metadata_eq (h : Inventoried library tree request inventory)
    (h' : Inventoried library tree' request' inventory')
    (hdigest : inventory.metadata.map (·.sha256) = inventory'.metadata.map (·.sha256))
    (hmapping : inventory.metadata.isSome → or_default request.split_mapping SPLIT_MAPPING
      = or_default request'.split_mapping SPLIT_MAPPING)
    (hkind : request.source_kind = request'.source_kind) :
    inventory.metadata = inventory'.metadata := by
  cases hmetadata : inventory.metadata with
  | none =>
    rw [hmetadata, Option.map_none] at hdigest
    exact (Option.map_eq_none_iff.mp hdigest.symm).symm
  | some metadata =>
    cases hmetadata' : inventory'.metadata with
    | none =>
      rw [hmetadata, hmetadata'] at hdigest
      exact absurd hdigest (by simp)
    | some metadata' =>
      rw [hmetadata, hmetadata', Option.map_some, Option.map_some, Option.some_inj] at hdigest
      obtain ⟨_, hread⟩ := h.metadata_read metadata hmetadata
      obtain ⟨_, hread'⟩ := h'.metadata_read metadata' hmetadata'
      obtain ⟨raw, hraw, hrows⟩ := read_uhd_metadata_eq_ok hread
      obtain ⟨raw', hraw', hrows'⟩ := read_uhd_metadata_eq_ok hread'
      rw [hdigest, hraw'] at hraw
      obtain rfl := Option.some.inj hraw
      rw [hmapping (by simp [hmetadata]), hkind, hrows'] at hrows
      cases metadata
      cases metadata'
      congr
      exact (Except.ok.inj hrows).symm

lemma check_item_congr {item : SourceFile} (metadata : Option UhdMetadata)
    (hdigest : tree.digest item.relative_path = tree'.digest item.relative_path) :
    check_item library tree metadata item = check_item library tree' metadata item := by
  have hreason : rejection_of tree metadata item = rejection_of tree' metadata item := by
    funext reason
    rw [rejection_of, rejection_of, hdigest]
  rw [check_item, check_item, inspect_item, inspect_item, hdigest, hreason]

/-- Equal metadata, selections and digests import equally. -/
theorem Inventoried.import_images_eq (h : Inventoried library tree request inventory)
    (h' : Inventoried library tree' request' inventory')
    (hmetadata : inventory.metadata = inventory'.metadata)
    (hselected : inventory.selected = inventory'.selected)
    (hdigest : ∀ item ∈ inventory.selected,
      tree.digest item.relative_path = tree'.digest item.relative_path) :
    import_images library tree inventory = import_images library tree' inventory' := by
  have hrejections : inventory.rejections = inventory'.rejections := by
    refine Except.ok.inj (h.rejections.symm.trans (Eq.trans ?_ h'.rejections))
    rw [← hmetadata, ← hselected]
    exact filterMapM_congr fun item hitem => check_item_congr _ (hdigest item hitem)
  rw [import_images, import_images, ← hrejections, ← hselected]
  refine foldlM_congr (fun item hitem outcome => ?_) _
  have hrecord : record_of tree inventory.metadata item = record_of tree' inventory'.metadata item := by
    funext image
    rw [record_of, record_of, hdigest item hitem, hmetadata]
  have hrejection : rejection_of tree inventory.metadata item
      = rejection_of tree' inventory'.metadata item := by
    funext reason
    rw [rejection_of, rejection_of, hdigest item hitem, hmetadata]
  rw [import_item, import_item, hrejections, hdigest item hitem, hrecord, hrejection]

end Equal

end StegoLab

import StegoLab.Datasets.PreparationProperties
import StegoLab.Datasets.ReuseAgreement

/-!
# Preparation against validation

A written stage passes the validation of its records exactly when the import left no file behind
that the records do not name.
-/

namespace StegoLab

variable {checksum : ByteArray → String} {library : SourceLibrary} {tree : SourceTree}
  {request : DatasetPreparationRequest} {inventory : DatasetInventory}
  {faults : String → ImageFaults} {staged : StagedImport} {item : SourceFile}

/-! ### Selections -/

/-- What an accepted inventory selects and counts. -/
structure Selects (tree : SourceTree) (request : DatasetPreparationRequest)
    (inventory : DatasetInventory) : Prop where
  metadata : inventory.metadata.isSome = request.metadata_file.isSome
  all : request.selection = none →
    inventory.selected = inventory.files.filter fun item => item.kind ≠ .sidecar
  named : ∀ selection, request.selection = some selection →
    ∀ path, path ∈ inventory.selected.map (·.relative_path) ↔ path ∈ selection
  candidates : inventory.selected.Sublist (inventory.files.filter fun item => item.kind ≠ .sidecar)
  discovered : inventory.discovered_by_split.total ≤ discovered_images inventory

lemma selects (h : inventory_dataset library tree request = .ok inventory) :
    Selects tree request inventory := by
  unfold inventory_dataset at h
  obtain ⟨metadata, hmetadata, h⟩ := bind_eq_ok.mp h
  obtain ⟨candidates, hcandidates, h⟩ := bind_eq_ok.mp h
  obtain ⟨_, _, h⟩ := bind_eq_ok.mp h
  obtain ⟨rejections, _, h⟩ := bind_eq_ok.mp h
  obtain rfl := pure_eq_ok.mp h
  refine ⟨?_, fun hnone => ?_, fun selection hsome path => ?_, select_candidates_sublist hcandidates,
    ?_⟩
  · unfold declared_metadata at hmetadata
    split at hmetadata
    · rename_i hnone
      obtain rfl := Except.ok.inj hmetadata
      rw [hnone]
      rfl
    · rename_i hsome
      obtain ⟨_, _, hmetadata⟩ := bind_eq_ok.mp hmetadata
      obtain ⟨_, _, hmetadata⟩ := bind_eq_ok.mp hmetadata
      obtain ⟨_, _, hmetadata⟩ := bind_eq_ok.mp hmetadata
      obtain rfl := pure_eq_ok.mp hmetadata
      rw [hsome]
      rfl
  · rw [select_candidates, hnone] at hcandidates
    exact (Except.ok.inj hcandidates).symm
  · rw [select_candidates, hsome] at hcandidates
    obtain ⟨_, hchosen, hcandidates⟩ := bind_eq_ok.mp hcandidates
    obtain rfl := pure_eq_ok.mp hcandidates
    have hchosen := not_not.mp (raise_if_eq_ok.mp hchosen)
    constructor
    · intro hmem
      obtain ⟨item, hitem, rfl⟩ := List.mem_map.mp hmem
      exact of_decide_eq_true (List.mem_filter.mp hitem).2
    · intro hpath
      obtain ⟨item, hitem, rfl⟩ := List.mem_map.mp (hchosen path hpath)
      exact List.mem_map_of_mem (List.mem_filter.mpr ⟨hitem, decide_eq_true hpath⟩)
  · dsimp only
    unfold discovered_counts
    split
    · exact Nat.zero_le _
    · rw [Dict.total_counter, discovered_images]
      refine (List.length_filterMap_le _ _).trans ?_
      rw [List.length_map]
      exact List.length_filter_le _ _

/-- An entry that the import keeps is an image, and has its row when there is metadata. -/
lemma Inventoried.row_of_kept (h : Inventoried library tree request inventory)
    (hselects : Selects tree request inventory) (hitem : item ∈ inventory.selected)
    (hkept : Kept inventory item) (hmetadata : inventory.metadata.isSome) :
    (metadata_row inventory.metadata item.relative_path).isSome := by
  have hchecked := h.checked.1 item hitem
  rw [(h.kept_iff hitem).mp hkept, check_item] at hchecked
  obtain ⟨_, hdeclared, hchecked⟩ := bind_eq_ok.mp hchecked
  obtain ⟨reason, hreason, hchecked⟩ := bind_eq_ok.mp hchecked
  obtain rfl := Option.map_eq_none_iff.mp (pure_eq_ok.mp hchecked)
  have hsupported : item.rejection_reason = none := by
    unfold inspect_item at hreason
    split at hreason
    · exact absurd hreason (by simp)
    · assumption
  have himage : item.kind = .image := by
    have hcandidate := of_decide_eq_true (List.mem_filter.mp (hselects.candidates.subset hitem)).2
    rw [eq_scan_file (h.selected.subset hitem)] at hcandidate hsupported ⊢
    simp only [scan_file] at hcandidate hsupported ⊢
    split_ifs at hcandidate hsupported ⊢ <;> simp_all
  rw [check_declared, if_pos ⟨hmetadata, himage⟩] at hdeclared
  split at hdeclared
  · exact absurd hdeclared (by simp [fail])
  · rename_i row hrow
    rw [hrow]
    rfl

/-! ### Labels -/

/-- Records that all declare a split count towards it. -/
lemma coverage_labels_of_declared {records : List DatasetImageRecord}
    {rejections : List DatasetRejection}
    (h : ∀ record ∈ records, record.upstream_split.isSome) :
    coverage_labels records rejections =
      (account_keys records rejections).filterMap Prod.snd := by
  have hrecords : records.map (fun record =>
      (record.upstream_split.or (record.assigned_split.map DatasetSplit.label)).getD "") =
      (records.map record_key).filterMap Prod.snd := by
    induction records with
    | nil => rfl
    | cons record records ih =>
      obtain ⟨hrecord, hrecords⟩ := List.forall_mem_cons.mp h
      obtain ⟨label, hlabel⟩ := Option.isSome_iff_exists.mp hrecord
      rw [List.map_cons, List.map_cons, ih hrecords,
        List.filterMap_cons_some (show (record_key record).2 = some label from hlabel), hlabel]
      rfl
  rw [coverage_labels, account_keys, List.filterMap_append, hrecords, List.filterMap_map,
    List.filterMap_map]
  rfl

section Written

variable {runtime : Dict String} {coverage : Coverage} {records : List DatasetImageRecord}
  {rejections : List DatasetRejection} {records_checksum rejections_checksum : String}
  {written : Written}

/-- Grouping and ordering keep the accounts. -/
lemma Writes.account_keys (h : Writes checksum runtime request coverage records rejections
      records_checksum rejections_checksum written) :
    (account_keys written.records written.rejections).Perm (account_keys records rejections) := by
  obtain ⟨decisions, hassigned⟩ := assign_eq_ok_iff.mp (assign_groups_eq_ok_iff.mp h.grouped)
  have hrecords : (written.records.map record_key).Perm (records.map record_key) := by
    rw [hassigned.result_eq, List.map_map]
    exact (sorted_by_perm records).map record_key
  have hrejections : (written.rejections.map rejection_key).Perm (rejections.map rejection_key) := by
    rw [h.rejected]
    exact (sorted_by_perm rejections).map rejection_key
  exact hrecords.append hrejections

/-- A written record is a record of the import with its assignment. -/
lemma Writes.exists_record (h : Writes checksum runtime request coverage records rejections
      records_checksum rejections_checksum written) {record : DatasetImageRecord}
    (hrecord : record ∈ written.records) :
    ∃ original ∈ records, ∃ decisions representatives,
      record = with_assignment decisions representatives original := by
  obtain ⟨decisions, hassigned⟩ := assign_eq_ok_iff.mp (assign_groups_eq_ok_iff.mp h.grouped)
  rw [hassigned.result_eq] at hrecord
  obtain ⟨original, horiginal, rfl⟩ := List.mem_map.mp hrecord
  exact ⟨original, (sorted_by_perm records).mem_iff.mp horiginal, _, _, rfl⟩

end Written

/-! ### Written records -/

/-- The assignment keeps a record valid. -/
lemma valid_with_assignment {record : DatasetImageRecord} {decisions : Decisions}
    {representatives : String → Option String} (h : record.valid = true)
    (hgroup : ∀ decision, decisions record.source_path = some decision →
      is_sha256 decision.1 = true)
    (hrepresentative : ∀ path, representatives record.rgb_checksum = some path →
      relative_path path = true) :
    (with_assignment decisions representatives record).valid = true := by
  have hpolicy : (with_assignment decisions representatives record).follows_policy =
      record.follows_policy := rfl
  have hsplit : ((decisions record.source_path).map Prod.fst).getD "" = "" ∨
      is_sha256 (((decisions record.source_path).map Prod.fst).getD "") = true := by
    cases hdecision : decisions record.source_path with
    | none => exact Or.inl rfl
    | some decision => exact Or.inr (hgroup decision hdecision)
  have hrepresented : (representatives record.rgb_checksum).all relative_path = true := by
    cases hpath : representatives record.rgb_checksum with
    | none => rfl
    | some path => exact hrepresentative path hpath
  rw [DatasetImageRecord.valid, hpolicy]
  simp only [DatasetImageRecord.valid, Bool.and_eq_true, List.all_cons, List.all_nil,
    Option.all_some, Bool.or_eq_true, decide_eq_true_eq, and_true] at h ⊢
  obtain ⟨⟨⟨⟨⟨⟨⟨⟨⟨⟨⟨⟨⟨⟨⟨hsource, hprepared, -⟩, hidentity⟩, hlabel⟩, hsubset⟩, -⟩, hchecksums⟩, hsource_bytes⟩,
    hprepared_bytes⟩, hsides⟩, hformat⟩, hsource_mode⟩, hmode⟩, horientation⟩, hcolor⟩, hfollows⟩ := h
  exact ⟨⟨⟨⟨⟨⟨⟨⟨⟨⟨⟨⟨⟨⟨⟨hsource, hprepared, hrepresented⟩, hidentity⟩, hlabel⟩, hsubset⟩,
    Or.inr hchecksums.2.2, hsplit⟩, hchecksums⟩, hsource_bytes⟩, hprepared_bytes⟩, hsides⟩, hformat⟩,
    hsource_mode⟩, hmode⟩, horientation⟩, hcolor⟩, hfollows⟩

section Written

variable {runtime : Dict String} {coverage : Coverage} {records : List DatasetImageRecord}
  {rejections : List DatasetRejection} {records_checksum rejections_checksum : String}
  {written : Written}

lemma source_path_valid {record : DatasetImageRecord} (h : record.valid = true) :
    relative_path record.source_path = true := by
  simp only [DatasetImageRecord.valid, Bool.and_eq_true, List.all_cons, Option.all_some] at h
  exact h.1.1.1.1.1.1.1.1.1.1.1.1.1.1.1

/-- Written records are valid when the imported ones are. -/
lemma Writes.records_valid (h : Writes checksum runtime request coverage records rejections
      records_checksum rejections_checksum written)
    (hchecksum : ∀ data, is_sha256 (checksum data) = true)
    (hvalid : ∀ record ∈ records, record.valid = true) :
    written.records.all DatasetImageRecord.valid = true := by
  obtain ⟨decisions, hassigned⟩ := assign_eq_ok_iff.mp (assign_groups_eq_ok_iff.mp h.grouped)
  have hordered : ∀ record ∈ sorted_by DatasetImageRecord.source_path records,
      record.valid = true :=
    fun record hrecord => hvalid record ((sorted_by_perm records).mem_iff.mp hrecord)
  rw [List.all_eq_true, hassigned.result_eq]
  intro record hrecord
  obtain ⟨original, horiginal, rfl⟩ := List.mem_map.mp hrecord
  refine valid_with_assignment (hordered original horiginal) (fun decision hdecision => ?_)
    fun path hpath => ?_
  · obtain ⟨decided, hdecided, hsame⟩ := hassigned.decision horiginal
    obtain rfl := Option.some_inj.mp (hsame.symm.trans hdecision)
    rw [decide_group_fst hdecided]
    exact hchecksum _
  · rw [representatives_eq_find?] at hpath
    obtain ⟨represented, hfound, rfl⟩ := Option.map_eq_some_iff.mp hpath
    exact source_path_valid (hordered represented (List.mem_of_find?_eq_some hfound))

/-- Written rejections are the imported ones. -/
lemma Writes.rejections_valid (h : Writes checksum runtime request coverage records rejections
      records_checksum rejections_checksum written)
    (hvalid : ∀ rejection ∈ rejections, rejection.valid = true) :
    written.rejections.all DatasetRejection.valid = true := by
  rw [List.all_eq_true, h.rejected]
  exact fun rejection hmem => hvalid rejection ((sorted_by_perm rejections).mem_iff.mp hmem)

lemma Writes.manifest_loads (h : Writes checksum runtime request coverage records rejections
      records_checksum rejections_checksum written) {revision : Revision}
    (hrevision : revision.manifest = written.manifest) :
    load_manifest checksum revision = .ok written.manifest := by
  have hdigest : manifest_revision checksum written.manifest = written.manifest.revision := by
    rw [h.manifest]
    rfl
  rw [load_manifest, hrevision, if_neg]
  exact fun hrefused => hrefused.elim (fun hinvalid => hinvalid h.valid) fun hne => hne hdigest

lemma Writes.digests (h : Writes checksum runtime request coverage records rejections
      records_checksum rejections_checksum written) :
    records_checksum = written.manifest.records_checksum ∧
      rejections_checksum = written.manifest.rejections_checksum := by
  rw [h.manifest]
  exact ⟨rfl, rfl⟩

/-- A manifest is only written within the limit of entries. -/
lemma Writes.length_le (h : Writes checksum runtime request coverage records rejections
      records_checksum rejections_checksum written) :
    written.records.length + written.rejections.length ≤ MAXIMUM_DATASET_ENTRIES := by
  have hmanifest := h.valid
  rw [h.manifest] at hmanifest
  simp only [DatasetManifest.valid, Bool.and_eq_true, List.all_cons, decide_eq_true_eq] at hmanifest
  exact hmanifest.1.1.1.2.2.1

lemma Writes.counts (h : Writes checksum runtime request coverage records rejections
      records_checksum rejections_checksum written) :
    written.manifest.counts = record_counts written.records written.rejections := by
  rw [h.manifest]
  rfl

/-- Grouping the written records again changes nothing. -/
lemma Writes.regrouped {provenance : Dict String}
    (h : Writes checksum runtime request (coverage_of inventory provenance) records rejections
      records_checksum rejections_checksum written)
    (htraining : provenance.get? "training_intended" = some (lower_bool request.training_intended)) :
    assign_groups checksum written.records written.manifest.source_kind written.manifest.seed
      (decide ((written.manifest.source_provenance.get? "training_intended").getD "true" = "true"))
      written.manifest.split_mapping = .ok written.records := by
  have hprovenance := h.source_provenance (by rw [htraining]; rfl)
  have hintended : decide ((written.manifest.source_provenance.get? "training_intended").getD "true"
      = "true") = request.training_intended := by
    rw [hprovenance, htraining]
    cases request.training_intended <;> decide
  rw [hintended, h.manifest]
  exact assign_groups_again h.grouped

end Written

/-! ### Coverage -/

/-- What the validation of a request ensures of its selection and its label mapping. -/
structure RequestValid (request : DatasetPreparationRequest) : Prop where
  uhd_metadata : request.source_kind = .uhd_iqa → request.metadata_file.isSome
  selection_name : request.selection.isNone = request.selection_name.isNone
  selection_nodup : ∀ selection, request.selection = some selection → selection.Nodup
  uhd_mapping : request.source_kind = .uhd_iqa →
    or_default request.split_mapping SPLIT_MAPPING = SPLIT_MAPPING
  local_metadata : request.source_kind = .local_files → request.metadata_file = none

lemma request_valid (h : validate_request request = .ok ()) : RequestValid request := by
  obtain ⟨_, huhd, h⟩ := bind_eq_ok.mp h
  obtain ⟨_, hname, h⟩ := bind_eq_ok.mp h
  obtain ⟨_, hselection, h⟩ := bind_eq_ok.mp h
  obtain ⟨_, _, h⟩ := bind_eq_ok.mp h
  obtain ⟨_, hmapping, hlocal⟩ := bind_eq_ok.mp h
  rw [raise_if_eq_ok] at huhd hname hselection hmapping hlocal
  refine ⟨fun hkind => ?_, not_not.mp hname, fun selection hsome => ?_, fun hkind => ?_,
    fun hkind => ?_⟩
  · exact Option.isSome_iff_ne_none.mpr fun hnone => huhd ⟨hkind, hnone⟩
  · rw [hsome] at hselection
    simp only [Option.any_some, Bool.or_eq_true, decide_eq_true_eq, not_or, not_not] at hselection
    exact hselection.2
  · by_cases hnone : request.split_mapping = none
    · rw [hnone, or_default]
    · have hsame : request.split_mapping = some SPLIT_MAPPING := by
        by_contra hne
        exact hmapping ⟨hkind, hnone, hne⟩
      simp [hsame, or_default]
  · by_contra hne
    exact hlocal ⟨hkind, Or.inr hne⟩

lemma or_default_ne_nil {α : Type} (mapping : Option (Dict α)) {default : Dict α}
    (h : default.entries ≠ []) : (or_default mapping default).entries ≠ [] := by
  unfold or_default
  split
  · exact h
  · split_ifs with hnil
    · exact h
    · exact hnil

section Coverage

variable {runtime provenance : Dict String} {records : List DatasetImageRecord}
  {rejections : List DatasetRejection} {records_checksum rejections_checksum : String}
  {written : Written}

/-- The frozen provenance suits the source kind. -/
lemma Writes.source_declared (h : Writes checksum runtime request
      (coverage_of inventory provenance) records rejections records_checksum rejections_checksum
      written)
    (hrequest : RequestValid request) (hselects : Selects tree request inventory) :
    source_declared written.manifest = true := by
  have hmapping : written.manifest.split_mapping =
      effective_split_mapping request inventory.metadata.isSome := by
    rw [h.manifest]
    simp [build_manifest, coverage_of]
  have hchecksum : written.manifest.metadata_checksum.isSome = inventory.metadata.isSome := by
    rw [h.manifest]
    simp [build_manifest, coverage_of]
  have hexpected : written.manifest.expected_images.isSome = inventory.metadata.isSome := by
    rw [h.manifest]
    simp [build_manifest, coverage_of]
  have hkind : written.manifest.source_kind = request.source_kind := by
    rw [h.manifest]
    rfl
  have hdeclared : (!((effective_split_mapping request inventory.metadata.isSome).entries.isEmpty ==
      inventory.metadata.isSome)) = true := by
    cases inventory.metadata.isSome with
    | false => rfl
    | true =>
      have hne := or_default_ne_nil request.split_mapping
        (show SPLIT_MAPPING.entries ≠ [] by decide)
      simpa [effective_split_mapping] using hne
  rw [StegoLab.source_declared, hmapping, hchecksum, hexpected, hkind]
  cases hsource : request.source_kind with
  | uhd_iqa =>
    have hmetadata : inventory.metadata.isSome = true :=
      hselects.metadata.trans (hrequest.uhd_metadata hsource)
    simp [hmetadata, effective_split_mapping, hrequest.uhd_mapping hsource]
  | local_files =>
    have hmetadata : inventory.metadata.isSome = false := by
      rw [hselects.metadata, hrequest.local_metadata hsource]
      rfl
    simp [hmetadata, effective_split_mapping, Dict.empty]
  | hugging_face => exact hdeclared
  | https_archive => exact hdeclared
  | upload => exact hdeclared

lemma insertionSort_eq_of_perm {paths paths' : List String} (h : paths.Perm paths') :
    paths.insertionSort (· ≤ ·) = paths'.insertionSort (· ≤ ·) := by
  have hperm := (List.perm_insertionSort (· ≤ ·) paths).trans
    (h.trans (List.perm_insertionSort (· ≤ ·) paths').symm)
  exact hperm.eq_of_pairwise (fun _ _ _ _ hab hba => le_antisymm hab hba)
    (List.pairwise_insertionSort _ _) (List.pairwise_insertionSort _ _)

/-- The stage accounts for the selected entries, and declares every label when there is metadata. -/
structure Accounts (inventory : DatasetInventory) (records : List DatasetImageRecord)
    (rejections : List DatasetRejection) : Prop where
  keys : (account_keys records rejections).Perm
    (inventory.selected.map (item_key inventory.metadata))
  declared : inventory.metadata.isSome → ∀ record ∈ records, record.upstream_split.isSome

lemma Accounts.perm_paths (h : Accounts inventory records rejections) :
    (records.map (·.source_path) ++ rejections.map (·.source_path)).Perm
      (inventory.selected.map (·.relative_path)) := by
  have hpaths := h.keys.map Prod.fst
  rw [account_keys, List.map_append, List.map_map, List.map_map, List.map_map] at hpaths
  exact hpaths

lemma Accounts.length (h : Accounts inventory records rejections) :
    records.length + rejections.length = inventory.selected.length := by
  have hlength := h.perm_paths.length_eq
  simpa using hlength

/-- With metadata the labels are those of the selected rows. -/
lemma Accounts.perm_labels (h : Accounts inventory records rejections)
    (hmetadata : inventory.metadata.isSome) :
    (coverage_labels records rejections).Perm (inventory.selected.filterMap fun item =>
      (metadata_row inventory.metadata item.relative_path).map (·.upstream_split)) := by
  rw [coverage_labels_of_declared (h.declared hmetadata)]
  have hlabels := h.keys.filterMap Prod.snd
  rw [List.filterMap_map] at hlabels
  exact hlabels

lemma length_coverage_labels (records : List DatasetImageRecord)
    (rejections : List DatasetRejection) :
    (coverage_labels records rejections).length ≤ records.length + rejections.length := by
  rw [coverage_labels, List.length_append, List.length_map]
  exact Nat.add_le_add_left (List.length_filterMap_le _ _) _

/-- Written records and rejections account for what the imported ones do. -/
lemma Writes.accounts {coverage : Coverage} (h : Writes checksum runtime request coverage records
      rejections records_checksum rejections_checksum written)
    (haccounts : Accounts inventory records rejections) :
    Accounts inventory written.records written.rejections where
  keys := h.account_keys.trans haccounts.keys
  declared hmetadata record hrecord := by
    obtain ⟨original, horiginal, _, _, rfl⟩ := h.exists_record hrecord
    exact haccounts.declared hmetadata original horiginal

/-- The frozen labels of the selected entries are the recorded ones. -/
lemma Writes.selected_by_split (h : Writes checksum runtime request
      (coverage_of inventory provenance) records rejections records_checksum rejections_checksum
      written)
    (haccounts : Accounts inventory written.records written.rejections) :
    written.manifest.selected_by_split =
      Dict.counter (coverage_labels written.records written.rejections) := by
  have hfrozen : written.manifest.selected_by_split =
      or_default (coverage_of inventory provenance).selected_by_split
        (Dict.counter (coverage_labels written.records written.rejections)) := by
    rw [h.manifest]
    rfl
  rw [hfrozen, coverage_of]
  cases hmetadata : inventory.metadata with
  | none => rfl
  | some metadata =>
    have hlabels := haccounts.perm_labels (by rw [hmetadata]; rfl)
    rw [hmetadata] at hlabels
    rw [Option.map_some, ← Dict.counter_eq_of_perm hlabels]
    simp [or_default]

/-- The written coverage passes its validation. -/
theorem Writes.coverage_accepted (h : Writes checksum runtime request
      (coverage_of inventory provenance) records rejections records_checksum rejections_checksum
      written)
    (hrequest : RequestValid request) (hselects : Selects tree request inventory)
    (hinventoried : Inventoried library tree request inventory)
    (haccounts : Accounts inventory written.records written.rejections) :
    validate_coverage written.manifest written.records
      (written.records.map (·.source_path) ++ written.rejections.map (·.source_path))
      written.rejections = .ok () := by
  have hselected : written.manifest.selected_images =
      written.records.length + written.rejections.length := by
    rw [h.manifest]
    rfl
  have hdiscovered : written.manifest.discovered_images = discovered_images inventory := by
    rw [h.manifest]
    rfl
  have hlabels := h.selected_by_split haccounts
  have hfew : inventory.selected.length ≤ discovered_images inventory :=
    hselects.candidates.length_le
  have hlength := haccounts.length
  have hlabel_count := length_coverage_labels written.records written.rejections
  have hselection : selection_declared written.manifest
      (written.records.map (·.source_path) ++ written.rejections.map (·.source_path)) = true := by
    have hfrozen : written.manifest.selection =
        request.selection.map fun paths => paths.insertionSort (· ≤ ·) := by
      rw [h.manifest]
      rfl
    have hname : written.manifest.selection_name = request.selection_name := by
      rw [h.manifest]
      rfl
    rw [selection_declared, hfrozen, hname, hdiscovered, hselected]
    cases hpaths : request.selection with
    | none =>
      have hall := congrArg List.length (hselects.all hpaths)
      have hunnamed : request.selection_name.isNone = true := by
        rw [← hrequest.selection_name, hpaths]
        rfl
      simp only [Option.map_none, hunnamed, hlength, Bool.true_and, decide_eq_true_eq]
      exact hall.symm
    | some selection =>
      have hnamed : request.selection_name.isSome = true := by
        have hsame := hrequest.selection_name
        rw [hpaths] at hsame
        simpa [Option.isNone_eq_false_iff] using hsame.symm
      have hperm : (inventory.selected.map (·.relative_path)).Perm selection :=
        (List.perm_ext_iff_of_nodup hinventoried.nodup_paths
          (hrequest.selection_nodup selection hpaths)).mpr (hselects.named selection hpaths)
      simp [hnamed, insertionSort_eq_of_perm (haccounts.perm_paths.trans hperm)]
  have htotals : ¬ ((written.manifest.expected_images.any fun total =>
        written.manifest.expected_by_split.total > total) = true ∨
      written.manifest.discovered_by_split.total > written.manifest.discovered_images ∨
      written.manifest.selected_by_split.total > written.manifest.selected_images) := by
    have hexpected : written.manifest.expected_by_split = expected_counts inventory.metadata := by
      rw [h.manifest, ← hinventoried.expected]
      exact or_default_empty _
    have himages : written.manifest.expected_images =
        inventory.metadata.map (·.rows.entries.length) := by
      rw [h.manifest]
      rfl
    have hby_split : written.manifest.discovered_by_split =
        or_default (some inventory.discovered_by_split)
          (Dict.counter (coverage_labels written.records written.rejections)) := by
      rw [h.manifest]
      rfl
    rw [hlabels, hdiscovered, hselected, Dict.total_counter, hexpected, himages, hby_split, or_default]
    refine not_or.mpr ⟨?_, not_or.mpr ⟨?_, ?_⟩⟩
    · cases inventory.metadata with
      | none => simp
      | some metadata => simp [expected_counts, Dict.total_counter]
    · split_ifs
      · rw [Dict.total_counter]
        omega
      · exact not_lt.mpr hselects.discovered
    · omega
  have hcovered : ¬ ((Dict.counter (coverage_labels written.records written.rejections)).entries.any
      (fun entry => entry.2 > (written.manifest.selected_by_split.get? entry.1).getD 0)) = true := by
    rw [hlabels, List.any_eq_true]
    rintro ⟨entry, hentry, hmore⟩
    obtain ⟨hlabel, hcount⟩ := Dict.mem_entries_counter.mp hentry
    rw [Dict.get?_counter, if_pos hlabel, ← hcount] at hmore
    simp at hmore
  have hcomplete : written.manifest.full_coverage = (written.manifest.selection.isNone &&
      written.rejections.isEmpty &&
      decide (written.manifest.discovered_images = written.records.length) &&
      (written.manifest.expected_images.all fun expected =>
        decide (expected = written.records.length))) := by
    rw [h.manifest]
    simp only [build_manifest, Option.isNone_map]
    rfl
  unfold validate_coverage
  dsimp only
  rw [if_neg (not_not.mpr (h.source_declared hrequest hselects)), if_neg, if_neg, if_neg
    (not_not.mpr hselection), if_neg htotals, if_neg fun hne => hne.2 hlabels.symm, if_neg hcovered,
    if_neg (not_not.mpr hcomplete)]
  · rw [hdiscovered, hselected]
    omega
  · simp [hselected]

end Coverage

/-! ### Prepared files -/

/-- Files with equal digests have equal sizes, as they have equal contents. -/
def SourceTree.SizesByDigest (tree : SourceTree) : Prop :=
  ∀ file ∈ tree.files, ∀ other ∈ tree.files, file.2.2 = other.2.2 → file.2.1 = other.2.1

lemma prepared_path_injective : Function.Injective prepared_path := by
  intro digest digest' h
  have htext := congrArg String.toList h
  rw [prepared_path, prepared_path, String.toList_append, String.toList_append,
    String.toList_append, String.toList_append, List.append_assoc, List.append_assoc] at htext
  exact String.ext (List.append_cancel_right (List.append_cancel_left htext))

lemma isPrefixOf_and_isSuffixOf (front middle back : List Char) :
    (front.isPrefixOf (front ++ middle ++ back) && back.isSuffixOf (front ++ middle ++ back))
      = true := by
  rw [Bool.and_eq_true, List.isPrefixOf_iff_prefix, List.isSuffixOf_iff_suffix]
  exact ⟨(List.prefix_append _ _).trans (List.prefix_append _ _), List.suffix_append _ _⟩

lemma image_path_prepared_path (digest : String) : image_path (prepared_path digest) = true := by
  rw [image_path, prepared_path, String.toList_append, String.toList_append]
  exact isPrefixOf_and_isSuffixOf _ _ _

/-- A digest does not start with a dot. -/
lemma is_sha256_append_ne {digest : String} (h : is_sha256 digest = true)
    (front rest back : List Char) : front ++ '.' :: rest ≠ front ++ digest.toList ++ back := by
  rw [is_sha256, Bool.and_eq_true, List.all_eq_true, decide_eq_true_eq, ← String.length_toList] at h
  intro heq
  rw [List.append_assoc] at heq
  have hrest := List.append_cancel_left heq
  generalize digest.toList = digits at h hrest
  cases digits with
  | nil => exact absurd h.1 (by simp)
  | cons c digits =>
    obtain ⟨rfl, -⟩ := List.cons.inj hrest
    exact absurd (h.2 '.' List.mem_cons_self) (by decide)

lemma toList_temporary_path (random : String) : (temporary_path random).toList =
    "images/".toList ++ '.' :: ("stegolab-image-".toList ++ random.toList ++ ".png".toList) := by
  have hname : "images/.stegolab-image-".toList =
      "images/".toList ++ '.' :: "stegolab-image-".toList := rfl
  unfold temporary_path
  rw [String.toList_append, String.toList_append, hname, List.append_assoc, List.append_assoc,
    List.cons_append, List.append_assoc]

lemma toList_prepared_path (digest : String) : (prepared_path digest).toList =
    "images/".toList ++ digest.toList ++ ".png".toList := by
  rw [prepared_path, String.toList_append, String.toList_append]

/-- The name of a temporary output is not the path of a digest. -/
lemma temporary_path_ne {digest : String} (h : is_sha256 digest = true) (random : String) :
    temporary_path random ≠ prepared_path digest := fun heq =>
  is_sha256_append_ne h _ _ _ ((toList_temporary_path random).symm.trans
    ((congrArg String.toList heq).trans (toList_prepared_path digest)))

lemma Inventoried.size_of_digest (h : Inventoried library tree request inventory)
    (hsizes : tree.SizesByDigest) {other : SourceFile} (hitem : item ∈ inventory.selected)
    (hother : other ∈ inventory.selected)
    (hdigest : tree.digest item.relative_path = tree.digest other.relative_path) :
    item.size_bytes = other.size_bytes := by
  have hfile : ∀ {item}, item ∈ inventory.selected → ∃ file ∈ tree.files,
      file.2.1 = item.size_bytes ∧ file.2.2 = tree.digest item.relative_path := by
    intro item hitem
    have hmem := (sorted_by_perm _).mem_iff.mp (h.selected.subset hitem)
    obtain ⟨file, hfile, rfl⟩ := List.mem_map.mp hmem
    refine ⟨file, hfile, rfl, ?_⟩
    have hlookup : tree.files.lookup file.1 = some file.2 :=
      (Dict.lookup_eq_some_iff tree.nodup_paths).mpr hfile
    rw [SourceTree.digest, show (scan_file file.1 file.2.1).relative_path = file.1 from rfl, hlookup]
    rfl
  obtain ⟨file, hmem, hsize, hsame⟩ := hfile hitem
  obtain ⟨file', hmem', hsize', hsame'⟩ := hfile hother
  rw [← hsize, ← hsize']
  exact hsizes file hmem file' hmem' (hsame.trans (hdigest.trans hsame'.symm))

section Stage

variable {runtime provenance : Dict String} {records_checksum rejections_checksum : String}
  {written : Written} {name : String}

/-- A written record is the record of a cached image with its assignment. -/
lemma Writes.record_of_staged (h : Writes checksum runtime request
      (coverage_of inventory provenance) staged.records staged.rejections records_checksum
      rejections_checksum written)
    (hconsistent : Consistent library tree inventory staged) {record : DatasetImageRecord}
    (hrecord : record ∈ written.records) :
    ∃ item ∈ inventory.selected, ∃ image, ∃ decisions representatives,
      staged.cached (tree.digest item.relative_path) = some image ∧
        is_sha256 (tree.digest item.relative_path) = true ∧
          record = with_assignment decisions representatives
            (record_of tree inventory.metadata item image) := by
  obtain ⟨original, horiginal, decisions, representatives, rfl⟩ := h.exists_record hrecord
  obtain ⟨hvalid, item, hitem, -, image, himage, rfl⟩ := hconsistent.records original horiginal
  refine ⟨item, hitem, image, decisions, representatives, himage, ?_, rfl⟩
  simp only [DatasetImageRecord.valid, Bool.and_eq_true, List.all_cons] at hvalid
  exact hvalid.1.1.1.1.1.1.1.1.1.2.1

/-- Records that share a digest share the prepared image and the source file. -/
lemma Writes.consistent_signatures (h : Writes checksum runtime request
      (coverage_of inventory provenance) staged.records staged.rejections records_checksum
      rejections_checksum written)
    (hconsistent : Consistent library tree inventory staged)
    (hinventoried : Inventoried library tree request inventory) (hsizes : tree.SizesByDigest) :
    consistent (·.prepared_path) signature written.records = true ∧
      consistent (·.source_checksum) source_signature written.records = true := by
  simp only [consistent, List.all_eq_true, decide_eq_true_eq]
  constructor
  · intro record hrecord other hother hpath
    obtain ⟨item, -, image, _, _, himage, -, rfl⟩ := h.record_of_staged hconsistent hrecord
    obtain ⟨item', -, image', _, _, himage', -, rfl⟩ := h.record_of_staged hconsistent hother
    have hdigest : tree.digest item.relative_path = tree.digest item'.relative_path :=
      prepared_path_injective hpath
    rw [← hdigest] at himage'
    obtain rfl := Option.some_inj.mp (himage.symm.trans himage')
    rfl
  · intro record hrecord other hother hdigest
    obtain ⟨item, hitem, image, _, _, himage, -, rfl⟩ := h.record_of_staged hconsistent hrecord
    obtain ⟨item', hitem', image', _, _, himage', -, rfl⟩ := h.record_of_staged hconsistent hother
    have hdigest : tree.digest item.relative_path = tree.digest item'.relative_path := hdigest
    have hsize := hinventoried.size_of_digest hsizes hitem hitem' hdigest
    rw [← hdigest] at himage'
    obtain rfl := Option.some_inj.mp (himage.symm.trans himage')
    simp only [source_signature, signature, with_assignment, record_of, hsize]

/-- The prepared files are those of the records when no other file was left. -/
lemma Writes.prepared_paths_accepted (h : Writes checksum runtime request
      (coverage_of inventory provenance) staged.records staged.rejections records_checksum
      rejections_checksum written)
    (hconsistent : Consistent library tree inventory staged)
    (hinventoried : Inventoried library tree request inventory) (hsizes : tree.SizesByDigest)
    {seen : List SourceFile} (htidy : Tidy library tree inventory seen staged)
    (hlength : written.records.length ≤ MAXIMUM_DATASET_ENTRIES) :
    validate_prepared_paths (stage_directory name staged written) written.records = .ok () := by
  obtain ⟨hprepared, hsource⟩ := h.consistent_signatures hconsistent hinventoried hsizes
  have hwritten : (written.records.map (·.prepared_path)).Perm
      (staged.records.map (·.prepared_path)) := by
    obtain ⟨decisions, hassigned⟩ := assign_eq_ok_iff.mp (assign_groups_eq_ok_iff.mp h.grouped)
    rw [hassigned.result_eq, List.map_map]
    exact (sorted_by_perm staged.records).map _
  have hnamed : ∀ path, path ∈ staged.images.map Prod.fst ↔
      path ∈ written.records.map (·.prepared_path) := by
    intro path
    rw [hwritten.mem_iff]
    constructor
    · intro hpath
      obtain ⟨record, hrecord, hnamed⟩ := htidy.named path hpath
      exact List.mem_map.mpr ⟨record, hrecord, hnamed⟩
    · intro hpath
      obtain ⟨record, hrecord, rfl⟩ := List.mem_map.mp hpath
      obtain ⟨-, item, -, -, image, himage, rfl⟩ := hconsistent.records record hrecord
      exact (hconsistent.cached _ image himage).2
  have hfew : staged.images.length ≤ written.records.length := by
    have hsub := (htidy.nodup.subperm fun path hpath => (hnamed path).mp hpath).length_le
    simpa using hsub
  rw [validate_prepared_paths, if_neg (not_not.mpr hprepared), if_neg (not_not.mpr hsource), if_neg,
    if_neg]
  · rw [not_not, stage_directory]
    ext path
    rw [List.mem_toFinset, List.mem_toFinset, hnamed]
  · exact not_lt.mpr (hfew.trans hlength)

/-- A file that no record can name is found. -/
lemma Writes.prepared_paths_refused (h : Writes checksum runtime request
      (coverage_of inventory provenance) staged.records staged.rejections records_checksum
      rejections_checksum written)
    (hconsistent : Consistent library tree inventory staged) (huntidy : Untidy staged) :
    validate_prepared_paths (stage_directory name staged written) written.records ≠ .ok () := by
  intro haccepted
  have hsame : (staged.images.map Prod.fst).toFinset =
      (written.records.map (·.prepared_path)).toFinset := by
    rw [validate_prepared_paths] at haccepted
    split_ifs at haccepted with _ _ _ hpaths
    exact not_not.mp hpaths
  obtain ⟨path, hpath, hunnamed⟩ := huntidy
  have hnamed : path ∈ written.records.map (·.prepared_path) :=
    List.mem_toFinset.mp (hsame ▸ List.mem_toFinset.mpr hpath)
  obtain ⟨record, hrecord, rfl⟩ := List.mem_map.mp hnamed
  obtain ⟨item, -, image, _, _, himage, hdigest, rfl⟩ := h.record_of_staged hconsistent hrecord
  rcases hunnamed with ⟨random, htemporary⟩ | ⟨digest, hprepared, hnone⟩
  · exact temporary_path_ne hdigest random htemporary.symm
  · obtain rfl := prepared_path_injective (show prepared_path _ = _ from hprepared)
    exact absurd (hnone.symm.trans himage) (by simp)

/-- The records of an import account for the selected entries. -/
lemma Consistent.accounts (h : Consistent library tree inventory staged)
    (hinventoried : Inventoried library tree request inventory)
    (hselects : Selects tree request inventory)
    (hstaged : stage_images library tree inventory faults = .ok staged) :
    Accounts inventory staged.records staged.rejections where
  keys := hinventoried.keys_staged hstaged
  declared hmetadata record hrecord := by
    obtain ⟨-, item, hitem, hkept, image, -, rfl⟩ := h.records record hrecord
    have hrow := hinventoried.row_of_kept hselects hitem hkept hmetadata
    rw [record_of, Option.isSome_map]
    exact hrow

/-- A written stage passes validation once its prepared files do. -/
theorem Writes.accepted (h : Writes checksum runtime request (coverage_of inventory provenance)
      staged.records staged.rejections records_checksum rejections_checksum written)
    (hchecksum : ∀ data, is_sha256 (checksum data) = true)
    (htraining : provenance.get? "training_intended" = some (lower_bool request.training_intended))
    (hrequest : RequestValid request) (hselects : Selects tree request inventory)
    (hinventoried : Inventoried library tree request inventory)
    (hconsistent : Consistent library tree inventory staged)
    (haccounts : Accounts inventory staged.records staged.rejections)
    (hpaths : validate_prepared_paths (stage_directory name staged written) written.records = .ok ())
    {require_revision_name : Bool}
    (hname : require_revision_name = true → name = written.manifest.revision) :
    read_validated_records checksum (stage_directory name staged written) require_revision_name =
      .ok (written.manifest, written.records) := by
  obtain ⟨hrecords_digest, hrejections_digest⟩ := h.digests
  have hvalid := h.records_valid hchecksum fun record hrecord =>
    (hconsistent.records record hrecord).1
  have hcoverage := h.coverage_accepted hrequest hselects hinventoried (h.accounts haccounts)
  refine bind_eq_ok.mpr ⟨(), raise_if_eq_ok.mpr h.size, bind_eq_ok.mpr ⟨(), ?_, bind_eq_ok.mpr
    ⟨(), ?_, ?_⟩⟩⟩
  · exact raise_if_eq_ok.mpr (not_not.mpr hvalid)
  · exact raise_if_eq_ok.mpr (not_not.mpr (h.rejections_valid hconsistent.rejections))
  refine bind_eq_ok.mpr ⟨_, h.manifest_loads rfl, bind_eq_ok.mpr ⟨(), ?_, ?_⟩⟩
  · exact raise_if_eq_ok.mpr fun hrefused => hrefused.2 (hname hrefused.1)
  refine bind_eq_ok.mpr ⟨_, h.records_digest, bind_eq_ok.mpr ⟨_, h.rejections_digest,
    bind_eq_ok.mpr ⟨(), ?_, bind_eq_ok.mpr ⟨(), ?_, ?_⟩⟩⟩⟩
  · exact raise_if_eq_ok.mpr fun hne =>
      hne.elim (fun hne => hne hrecords_digest) fun hne => hne hrejections_digest
  · refine raise_if_eq_ok.mpr (not_or.mpr ⟨?_, not_or.mpr ⟨not_not.mpr h.nodup_paths,
      not_or.mpr ⟨not_not.mpr ?_, not_not.mpr ?_⟩⟩⟩)
    · rw [stage_directory, List.length_append, List.length_map, List.length_map]
      exact not_lt.mpr h.length_le
    · refine List.all_eq_true.mpr fun record hrecord => ?_
      obtain ⟨item, -, image, _, _, -, -, rfl⟩ := h.record_of_staged hconsistent hrecord
      exact image_path_prepared_path _
    · change written.rejections = sorted_by DatasetRejection.source_path written.rejections
      rw [h.rejected]
      exact (List.Pairwise.insertionSort_eq (pairwise_sorted_by staged.rejections)).symm
  refine bind_eq_ok.mpr ⟨(), hpaths, bind_eq_ok.mpr ⟨_, h.regrouped htraining, bind_eq_ok.mpr
    ⟨(), ?_, bind_eq_ok.mpr ⟨(), ?_, bind_eq_ok.mpr ⟨(), hcoverage, rfl⟩⟩⟩⟩⟩
  · exact raise_if_eq_ok.mpr (not_not.mpr rfl)
  · exact raise_if_eq_ok.mpr (not_not.mpr h.counts)

/-- Accepted records have accepted prepared files. -/
lemma prepared_paths_of_read {revision : Revision} {require_revision_name : Bool}
    {outcome : DatasetManifest × List DatasetImageRecord}
    (h : read_validated_records checksum revision require_revision_name = .ok outcome) :
    validate_prepared_paths revision revision.records = .ok () := by
  obtain ⟨_, _, h⟩ := bind_eq_ok.mp h
  obtain ⟨_, _, h⟩ := bind_eq_ok.mp h
  obtain ⟨_, _, h⟩ := bind_eq_ok.mp h
  obtain ⟨_, _, h⟩ := bind_eq_ok.mp h
  obtain ⟨_, _, h⟩ := bind_eq_ok.mp h
  obtain ⟨_, _, h⟩ := bind_eq_ok.mp h
  obtain ⟨_, _, h⟩ := bind_eq_ok.mp h
  obtain ⟨_, _, h⟩ := bind_eq_ok.mp h
  obtain ⟨_, _, h⟩ := bind_eq_ok.mp h
  obtain ⟨_, hpaths, -⟩ := bind_eq_ok.mp h
  exact hpaths

end Stage

/-! ### Agreement -/

/-- Validation accepts the stage under any name, and the published revision under its own, with the
manifest and the records that were written. -/
def ValidationAgrees (checksum : ByteArray → String) (staged : StagedImport) (written : Written) :
    Prop :=
  (∀ name, read_validated_records checksum (stage_directory name staged written) false =
      .ok (written.manifest, written.records)) ∧
    read_validated_records checksum (stage_directory written.manifest.revision staged written) true =
      .ok (written.manifest, written.records)

/-- Whenever a manifest is written, validation agrees with it exactly when every call that prepared
an image removed its temporary output and read its published output back. -/
theorem preparation_validates_iff {runtime encoders marker : Dict String} {written : Written}
    (hchecksum : ∀ data, is_sha256 (checksum data) = true) (hsizes : tree.SizesByDigest)
    (h : prepare_stage checksum library faults runtime encoders marker tree request
      = .ok (staged, written)) :
    ValidationAgrees checksum staged written ↔
      ∀ inventory, inventory_dataset library tree request = .ok inventory →
        ∀ item, Attempted library tree inventory item → ¬ LeavesFile library tree faults item := by
  obtain ⟨_, hrequest, h⟩ := bind_eq_ok.mp h
  obtain ⟨inventory, hinventory, h⟩ := bind_eq_ok.mp h
  obtain ⟨_, hearly, h⟩ := bind_eq_ok.mp h
  obtain ⟨imported, hstaged, h⟩ := bind_eq_ok.mp h
  obtain ⟨frozen, hwritten, h⟩ := bind_eq_ok.mp h
  obtain ⟨rfl, rfl⟩ := Prod.mk.inj (pure_eq_ok.mp h)
  obtain ⟨_, _, hwrites⟩ := write_manifest_eq_ok.mp hwritten
  have hinventoried := inventoried hinventory
  have hselects := selects hinventory
  obtain ⟨hconsistent, hleaves⟩ := hinventoried.leaves
    (fun rejection hmem => List.all_eq_true.mp (not_not.mp (raise_if_eq_ok.mp hearly)) rejection hmem)
    hstaged
  cases hleaves with
  | tidy htidy hclean =>
    have hpaths : ∀ name, validate_prepared_paths (stage_directory name imported frozen)
        frozen.records = .ok () := fun name =>
      hwrites.prepared_paths_accepted hconsistent hinventoried hsizes htidy
        ((Nat.le_add_right _ _).trans hwrites.length_le)
    have haccepted : ∀ name require_revision_name,
        (require_revision_name = true → name = frozen.manifest.revision) →
        read_validated_records checksum (stage_directory name imported frozen)
          require_revision_name = .ok (frozen.manifest, frozen.records) :=
      fun name _ hname => hwrites.accepted hchecksum
        (get?_preparation_provenance encoders marker request) (request_valid hrequest) hselects
        hinventoried hconsistent (hconsistent.accounts hinventoried hselects hstaged) (hpaths name)
        hname
    refine iff_of_true ⟨fun name => haccepted name false (by simp), haccepted _ true fun _ => rfl⟩
      fun inventory' hinventory' item hattempted => ?_
    obtain rfl := Except.ok.inj (hinventory.symm.trans hinventory')
    exact hclean item hattempted.selected hattempted
  | untidy huntidy hattempted hleft =>
    refine iff_of_false (fun hagrees => ?_) fun hclean => hclean inventory hinventory _ hattempted hleft
    exact hwrites.prepared_paths_refused hconsistent huntidy (prepared_paths_of_read hagrees.2)

/-! ### An output that cannot be read back -/

/-- A digest of one letter. -/
def plain_digest (letter : Char) : String :=
  String.ofList (List.replicate 64 letter)

/-- Two photographs. -/
def pair_tree : SourceTree where
  files := [("a.png", 10, plain_digest 'a'), ("b.png", 10, plain_digest 'b')]
  nodup_paths := by decide

/-- Every image decodes to 300 by 300 pixels. -/
def pair_library : SourceLibrary where
  inspect_header _ := none
  prepare_image digest := .ok
    { source_format := "PNG"
      source_mode := "RGB"
      source_width := 300
      source_height := 300
      width := 300
      height := 300
      mode := "RGB"
      orientation := 1
      color_policy := "assumed_srgb"
      grayscale_converted := false
      eligible := true
      prepared_checksum := digest
      rgb_checksum := digest
      prepared_bytes := 10 }
  read_csv _ := none

def pair_request : DatasetPreparationRequest where
  dataset_name := "photos"
  source_directory := "source"
  metadata_file := none
  source_kind := .local_files
  source_url := "local"
  terms_reference := "not_reviewed"

/-- The prepared second photograph cannot be read back. -/
def unreadable_pair (path : String) : ImageFaults where
  unreadable := path = "b.png"

def pair_stage (faults : String → ImageFaults) : Except Raised (StagedImport × Written) :=
  prepare_stage (fun _ => plain_digest '0') pair_library faults Dict.empty Dict.empty Dict.empty
    pair_tree pair_request

/-- Whether a stage is filled, and its published revision validates as given. -/
def pair_published (validates : Bool) (outcome : Except Raised (StagedImport × Written)) : Bool :=
  match outcome with
  | .error _ => false
  | .ok (staged, written) =>
    (read_validated_records (fun _ => plain_digest '0')
      (stage_directory written.manifest.revision staged written) true).isOk == validates

lemma exists_of_pair_published {validates : Bool}
    {outcome : Except Raised (StagedImport × Written)} (h : pair_published validates outcome = true) :
    ∃ staged written, outcome = .ok (staged, written) ∧
      (read_validated_records (fun _ => plain_digest '0')
        (stage_directory written.manifest.revision staged written) true).isOk = validates := by
  cases outcome with
  | error e => exact absurd h (by simp [pair_published])
  | ok outcome => exact ⟨outcome.1, outcome.2, rfl, beq_iff_eq.mp h⟩

/-- The second photograph is rejected as invalid, its output stays, and the stage is refused. -/
theorem preparation_lost_to_unreadable_output : ∃ staged written,
    pair_stage unreadable_pair = .ok (staged, written) ∧
      ¬ ValidationAgrees (fun _ => plain_digest '0') staged written := by
  have hpublished : pair_published false (pair_stage unreadable_pair) = true := by decide +kernel
  obtain ⟨staged, written, hstage, hrefused⟩ := exists_of_pair_published hpublished
  refine ⟨staged, written, hstage, fun hagrees => ?_⟩
  rw [hagrees.2] at hrefused
  exact absurd hrefused (by simp [Except.isOk, Except.toBool])

/-- Without faults of the file system both photographs are prepared and validated. -/
theorem preparation_validates_pair : ∃ staged written,
    pair_stage (fun _ => {}) = .ok (staged, written) ∧
      ValidationAgrees (fun _ => plain_digest '0') staged written := by
  have hstaged : (pair_stage fun _ => {}).isOk = true := by decide +kernel
  obtain ⟨⟨staged, written⟩, hstage⟩ := exists_of_isOk hstaged
  refine ⟨staged, written, hstage, (preparation_validates_iff ?_ ?_ hstage).mpr ?_⟩
  · exact fun _ => by decide +kernel
  · intro file hfile other hother _
    simp only [pair_tree, List.mem_cons, List.not_mem_nil, or_false] at hfile hother
    rcases hfile with rfl | rfl <;> rcases hother with rfl | rfl <;> rfl
  · intro inventory _ item _ hleft
    simp [LeavesFile] at hleft

end StegoLab

import StegoLab.Datasets.InventoryProperties
import StegoLab.Datasets.ManifestProperties
import StegoLab.Datasets.Reuse

/-!
# Reuse against fresh preparation

Reuse answers a request with a published revision. It agrees with a fresh preparation exactly when
the revision that the checks accept was prepared with the label mapping of the request.
-/

namespace StegoLab

open CanonicalJson

/-! ### The accepted revision -/

section Candidates

variable {checksum : ByteArray → String} {library : SourceLibrary}
  {request : DatasetPreparationRequest} {inventory : DatasetInventory} {provenance : Dict String}
  {revision : Revision}

/-- Both checks of reuse: the frozen settings and the recorded contents. -/
def accepts (request : DatasetPreparationRequest) (inventory : DatasetInventory)
    (provenance : Dict String) (revision : Revision) : Bool :=
  same_request revision.manifest request inventory provenance &&
    decide (stored_contents revision.records revision.rejections = some (current_contents inventory))

/-- A revision whose verification succeeds under its own name. -/
structure Sound (checksum : ByteArray → String) (revision : Revision) : Prop where
  name : revision.manifest.revision = revision.name
  validated : validated_records checksum revision true = .ok (revision.manifest, revision.records)
  verified : validate_dataset checksum revision true = .ok (summarize revision.manifest .verified)

lemma load_manifest_eq_ok {manifest : DatasetManifest}
    (h : load_manifest checksum revision = .ok manifest) : manifest = revision.manifest := by
  unfold load_manifest at h
  split_ifs at h
  exact (Except.ok.inj h).symm

lemma integrity_checked_eq_ok {α : Type} {outcome : Except Raised α} {value : α} :
    integrity_checked outcome = .ok value ↔ outcome = .ok value := by
  cases outcome with
  | error e => simp [integrity_checked, fail]
  | ok value' => simp [integrity_checked]

/-- Verification also loads the manifest and recomputes the digest of the rejections. -/
lemma validated_records_loads {require_revision_name : Bool}
    {outcome : DatasetManifest × List DatasetImageRecord}
    (h : validated_records checksum revision require_revision_name = .ok outcome) :
    outcome = (revision.manifest, revision.records) ∧
      load_manifest checksum revision = .ok revision.manifest ∧
      write_records checksum DatasetRejection.model_dump revision.rejections
        = .ok revision.manifest.rejections_checksum := by
  unfold validated_records at h
  obtain ⟨manifest, hload, h⟩ := bind_eq_ok.mp h
  obtain ⟨_, _, h⟩ := bind_eq_ok.mp h
  obtain ⟨records_checksum, _, h⟩ := bind_eq_ok.mp h
  obtain ⟨rejections_checksum, hrejections, h⟩ := bind_eq_ok.mp h
  obtain ⟨_, hdigests, h⟩ := bind_eq_ok.mp h
  obtain ⟨_, _, h⟩ := bind_eq_ok.mp h
  obtain ⟨_, _, h⟩ := bind_eq_ok.mp h
  obtain ⟨_, _, h⟩ := bind_eq_ok.mp h
  obtain ⟨_, _, h⟩ := bind_eq_ok.mp h
  obtain ⟨_, _, h⟩ := bind_eq_ok.mp h
  obtain ⟨_, _, h⟩ := bind_eq_ok.mp h
  obtain rfl := load_manifest_eq_ok hload
  have hsame := not_or.mp (raise_if_eq_ok.mp hdigests)
  rw [not_not.mp hsame.2] at hrejections
  exact ⟨(pure_eq_ok.mp h).symm, hload, hrejections⟩

/-- The name is only compared with the revision that the manifest holds. -/
lemma validated_records_named {outcome : DatasetManifest × List DatasetImageRecord}
    (hname : revision.manifest.revision = revision.name)
    (h : validated_records checksum revision false = .ok outcome) :
    validated_records checksum revision true = .ok outcome := by
  obtain ⟨manifest, hload, h⟩ := bind_eq_ok.mp h
  obtain ⟨_, _, h⟩ := bind_eq_ok.mp h
  obtain rfl := load_manifest_eq_ok hload
  refine bind_eq_ok.mpr ⟨_, hload, bind_eq_ok.mpr ⟨(), raise_if_eq_ok.mpr ?_, h⟩⟩
  exact fun hrefused => hrefused.2 hname.symm

/-- A published revision verifies. -/
theorem Published.sound (h : Published checksum library revision) : Sound checksum revision := by
  obtain ⟨_, _, _, _, _, _, written, summary, -, -, hvalid, rfl⟩ := h
  obtain ⟨⟨manifest, records⟩, hloaded, hsummary⟩ := bind_eq_ok.mp hvalid
  obtain ⟨outcome, hvalidated, hfiles⟩ := bind_eq_ok.mp hloaded
  have hrecords := integrity_checked_eq_ok.mp hvalidated
  obtain ⟨rfl, -, -⟩ := validated_records_loads hrecords
  have hnamed := validated_records_named rfl hrecords
  refine ⟨rfl, hnamed, ?_⟩
  refine bind_eq_ok.mpr ⟨(written.revision.manifest, written.revision.records), ?_, rfl⟩
  refine bind_eq_ok.mpr ⟨_, integrity_checked_eq_ok.mpr hnamed, ?_⟩
  obtain ⟨_, hmatch, _⟩ := bind_eq_ok.mp hfiles
  exact bind_eq_ok.mpr ⟨(), hmatch, rfl⟩

/-- Among sound revisions, reuse takes the first one that the checks accept. -/
theorem find_candidate_of_sound {candidates : List Revision}
    (h : ∀ candidate ∈ candidates, Sound checksum candidate) :
    find_candidate checksum request inventory provenance candidates
      = .ok ((candidates.find? (accepts request inventory provenance)).map fun candidate =>
          { summarize candidate.manifest .verified with reused := true }) := by
  induction candidates with
  | nil => rfl
  | cons candidate candidates ih =>
    have hsound := h candidate List.mem_cons_self
    have hrest := ih fun candidate hmem => h candidate (List.mem_cons_of_mem _ hmem)
    obtain ⟨-, hload, hrejections⟩ := validated_records_loads hsound.validated
    rw [find_candidate, List.find?_cons]
    refine bind_eq_ok.mpr ⟨_, hload, ?_⟩
    refine bind_eq_ok.mpr ⟨(), raise_if_eq_ok.mpr (not_not.mpr hsound.name), ?_⟩
    by_cases hsame : same_request candidate.manifest request inventory provenance = true
    · rw [if_neg (not_not.mpr hsame)]
      refine bind_eq_ok.mpr ⟨_, hsound.validated, ?_⟩
      refine bind_eq_ok.mpr ⟨_, hrejections, ?_⟩
      refine bind_eq_ok.mpr ⟨(), raise_if_eq_ok.mpr (not_not.mpr rfl), ?_⟩
      by_cases hcontents : stored_contents candidate.records candidate.rejections
          = some (current_contents inventory)
      · have haccepts : accepts request inventory provenance candidate = true := by
          simp [accepts, hsame, hcontents]
        rw [if_pos hcontents, haccepts]
        exact bind_eq_ok.mpr ⟨_, hsound.verified, rfl⟩
      · have haccepts : accepts request inventory provenance candidate = false := by
          simp [accepts, hcontents]
        rw [if_neg hcontents, haccepts]
        exact hrest
    · have haccepts : accepts request inventory provenance candidate = false := by
        simp [accepts, hsame]
      rw [if_pos hsame, haccepts]
      exact hrest

end Candidates

/-! ### Recorded contents -/

section Contents

variable {checksum : ByteArray → String} {library : SourceLibrary} {tree : SourceTree}
  {request request' : DatasetPreparationRequest} {inventory : DatasetInventory}
  {runtime : Dict String} {coverage : Coverage} {records : List DatasetImageRecord} {rejections : List DatasetRejection}
  {records_checksum rejections_checksum : String} {written : Written}

/-- Grouping and ordering keep the contents. -/
lemma Writes.mem_contents (h : Writes checksum runtime request coverage records rejections
      records_checksum rejections_checksum written) (content : Content) :
    content ∈ contents (written.records, written.rejections) ↔
      content ∈ contents (records, rejections) := by
  obtain ⟨decisions, hassigned⟩ := assign_eq_ok_iff.mp (assign_groups_eq_ok_iff.mp h.grouped)
  have hrecords : (written.records.map record_content).Perm (records.map record_content) := by
    rw [hassigned.result_eq, List.map_map]
    exact (sorted_by_perm records).map record_content
  have hrejections : (written.rejections.map rejection_content).Perm
      (rejections.map rejection_content) := by
    rw [h.rejected]
    exact (sorted_by_perm rejections).map rejection_content
  exact (hrecords.append hrejections).mem_iff

lemma Writes.nodup_contents (h : Writes checksum runtime request coverage records rejections
      records_checksum rejections_checksum written) :
    ((contents (written.records, written.rejections)).map Prod.fst).Nodup := by
  have hpaths : (contents (written.records, written.rejections)).map Prod.fst
      = written.records.map (·.source_path) ++ written.rejections.map (·.source_path) := by
    rw [contents, List.map_append, List.map_map, List.map_map]
    rfl
  exact hpaths ▸ h.nodup_paths

lemma Inventoried.current_contents_eq (h : Inventoried library tree request inventory) :
    current_contents inventory = Dict.of_items (inventory.selected.map (item_content tree)) := by
  rw [current_contents]
  congr 1
  refine List.map_congr_left fun item hitem => ?_
  have hdigest : inventory.source_checksums.get? item.relative_path
      = some (tree.digest item.relative_path) := by
    rw [h.checksums, Dict.get?_of_items]
    · exact List.mem_map.mpr ⟨item, hitem, rfl⟩
    · rw [List.map_map]
      exact h.nodup_paths
  rw [hdigest, item_content]

/-- The recorded contents are the current ones exactly when both list the same files. -/
theorem mem_contents_of_stored (h : Inventoried library tree request inventory)
    (hwrites : Writes checksum runtime request' coverage records rejections records_checksum
      rejections_checksum written)
    (hstored : stored_contents written.records written.rejections
      = some (current_contents inventory)) (content : Content) :
    content ∈ contents (records, rejections) ↔
      content ∈ inventory.selected.map (item_content tree) := by
  unfold stored_contents at hstored
  split_ifs at hstored
  rw [Option.some_inj, h.current_contents_eq] at hstored
  have hselected : ((inventory.selected.map (item_content tree)).map Prod.fst).Nodup := by
    rw [List.map_map]
    exact h.nodup_paths
  obtain ⟨path, file⟩ := content
  rw [← hwrites.mem_contents, ← Dict.get?_of_items hwrites.nodup_contents,
    ← Dict.get?_of_items hselected, ← hstored]
  rfl

end Contents

/-! ### Provenance -/

lemma lower_bool_injective : Function.Injective lower_bool := by
  intro flag flag' h
  cases flag <;> cases flag' <;> first | rfl | exact absurd h (by decide)

/-- The provenance of a preparation records its intended use. -/
lemma get?_preparation_provenance (encoders marker : Dict String)
    (request : DatasetPreparationRequest) :
    (preparation_provenance encoders marker request).get? "training_intended"
      = some (lower_bool request.training_intended) := by
  rw [preparation_provenance, Dict.get?_update, marker_provenance]
  split_ifs
  · simp
  · simp

lemma isSome_preparation_provenance (encoders marker : Dict String)
    (request : DatasetPreparationRequest) :
    ((preparation_provenance encoders marker request).get? "training_intended").isSome := by
  rw [get?_preparation_provenance]
  rfl

/-- The default of old revisions does not replace a recorded use. -/
lemma update_recorded {provenance : Dict String}
    (htraining : (provenance.get? "training_intended").isSome) :
    (Dict.empty.insert "training_intended" "true").update provenance = provenance := by
  refine Dict.ext_get? fun k => ?_
  rw [Dict.get?_update, Dict.get?_insert, Dict.get?_empty]
  by_cases hk : k = "training_intended"
  · rw [hk]
    exact Option.or_of_isSome htraining
  · rw [if_neg hk, Option.or_none]

/-! ### Agreement -/

section Agreement

variable {checksum : ByteArray → String} {library : SourceLibrary}
  {runtime runtime' encoders encoders' marker marker' : Dict String}
  {request request' : DatasetPreparationRequest} {tree tree' : SourceTree}
  {inventory inventory' : DatasetInventory} {records : List DatasetImageRecord}
  {rejections : List DatasetRejection} {records_checksum rejections_checksum : String}
  {written : Written}

/-- A preparation freezes the provenance that it is given. -/
lemma Writes.source_provenance {provenance : Dict String}
    (h : Writes checksum runtime request (coverage_of inventory provenance) records rejections
      records_checksum rejections_checksum written)
    (htraining : (provenance.get? "training_intended").isSome) :
    written.manifest.source_provenance = provenance := by
  have hfrozen : written.manifest.source_provenance
      = (or_default (some provenance) runtime).setdefault "training_intended"
        (lower_bool request.training_intended) := by
    rw [h.manifest]
    rfl
  rw [hfrozen, or_default_of_get? htraining, Dict.setdefault, if_pos htraining]

/-- What a request shares with the preparation that an accepted revision comes from. -/
structure SameInputs (request request' : DatasetPreparationRequest)
    (inventory inventory' : DatasetInventory) (provenance provenance' : Dict String)
    (written : Written) : Prop where
  settings : SameSettings request request'
  provenance : provenance = provenance'
  metadata_checksum : inventory.metadata.map (·.sha256) = inventory'.metadata.map (·.sha256)
  discovered_images : discovered_images inventory = discovered_images inventory'
  discovered_by_split : inventory.metadata.isSome →
    written.manifest.discovered_by_split = inventory.discovered_by_split

lemma same_inputs (hwrites : Writes checksum runtime' request'
      (coverage_of inventory' (preparation_provenance encoders' marker' request')) records
      rejections records_checksum rejections_checksum written)
    (h : same_request written.manifest request inventory
      (preparation_provenance encoders marker request) = true) :
    SameInputs request request' inventory inventory' (preparation_provenance encoders marker request)
      (preparation_provenance encoders' marker' request') written := by
  have htraining := isSome_preparation_provenance encoders' marker' request'
  simp only [same_request, Bool.and_eq_true, Bool.or_eq_true, decide_eq_true_eq,
    hwrites.source_provenance htraining, update_recorded htraining] at h
  obtain ⟨⟨⟨⟨⟨⟨⟨⟨⟨⟨⟨⟨⟨⟨hname, hpolicy⟩, hkind⟩, hseed⟩, hselection_name⟩, hselection⟩, hurl⟩,
    hterms⟩, hprovenance⟩, hmetadata⟩, -⟩, -⟩, hdiscovered⟩, hdiscovered_by⟩, -⟩ := h
  rw [hwrites.manifest] at hname hpolicy hkind hseed hselection_name hselection
  rw [hwrites.manifest] at hurl hterms hmetadata hdiscovered
  refine ⟨⟨hname.symm, hpolicy.symm, hkind.symm, hseed.symm, hselection_name.symm,
    hselection.symm, hurl.symm, hterms.symm, ?_⟩, hprovenance.symm, hmetadata.symm,
    hdiscovered.symm, fun hsome => ?_⟩
  · have hflag := congrArg (Dict.get? · "training_intended") hprovenance
    rw [get?_preparation_provenance, get?_preparation_provenance, Option.some_inj] at hflag
    exact (lower_bool_injective hflag).symm
  · rcases hdiscovered_by with hnone | hcounts
    · exact absurd hsome (by simp [Option.isNone_iff_eq_none.mp hnone])
    · exact hcounts

/-- A fresh preparation writes the accepted revision again when the label mapping is the same. -/
theorem fresh_manifest_of_accepted (hinventory : Inventoried library tree request inventory)
    (hinventory' : Inventoried library tree' request' inventory')
    (hfresh' : fresh_manifest checksum library runtime'
      (preparation_provenance encoders' marker' request') request' tree' inventory' = .ok written)
    (haccepts : accepts request inventory (preparation_provenance encoders marker request)
      written.revision = true)
    (hmapping : written.manifest.split_mapping
      = effective_split_mapping request inventory.metadata.isSome) :
    fresh_manifest checksum library runtime (preparation_provenance encoders marker request)
      request tree inventory = .ok written := by
  obtain ⟨hsame, hstored⟩ := Bool.and_eq_true_iff.mp haccepts
  obtain ⟨⟨records, rejections⟩, himport', hwrite'⟩ := bind_eq_ok.mp hfresh'
  obtain ⟨records_checksum, rejections_checksum, hwrites'⟩ := write_manifest_eq_ok.mp hwrite'
  have hinputs := same_inputs hwrites' hsame
  have hisSome : inventory.metadata.isSome = inventory'.metadata.isSome := by
    simpa using congrArg Option.isSome hinputs.metadata_checksum
  -- equal digests of the table, read with the same mapping, give the same rows
  have heffective : effective_split_mapping request inventory.metadata.isSome
      = effective_split_mapping request' inventory.metadata.isSome := by
    rw [← hmapping, hwrites'.manifest, hisSome]
    simp [build_manifest, coverage_of]
  have hmetadata : inventory.metadata = inventory'.metadata := by
    refine hinventory.metadata_eq hinventory' hinputs.metadata_checksum (fun hsome => ?_)
      hinputs.settings.source_kind
    simpa [effective_split_mapping, hsome] using heffective
  have hcontents : ∀ content, content ∈ inventory.selected.map (item_content tree) ↔
      content ∈ inventory'.selected.map (item_content tree') := by
    intro content
    rw [← mem_contents_of_stored hinventory hwrites' (of_decide_eq_true hstored) content,
      hinventory'.mem_contents himport']
  obtain ⟨hselected, hdigest⟩ := hinventory.selected_eq hinventory' hcontents
  have hexpected : inventory.expected_by_split = inventory'.expected_by_split := by
    rw [hinventory.expected, hinventory'.expected, hmetadata]
  -- a missing count map is filled in the same way twice
  have hdiscovered : or_default (some inventory.discovered_by_split)
        (Dict.counter (coverage_labels written.records written.rejections))
      = or_default (some inventory'.discovered_by_split)
        (Dict.counter (coverage_labels written.records written.rejections)) := by
    cases hnone : inventory.metadata with
    | none =>
      rw [hinventory.discovered hnone, hinventory'.discovered (hmetadata ▸ hnone)]
    | some metadata =>
      rw [← hinputs.discovered_by_split (by simp [hnone]), hwrites'.manifest]
      exact or_default_or_default _ _
  refine bind_eq_ok.mpr ⟨(records, rejections), ?_, ?_⟩
  · rw [hinventory.import_images_eq hinventory' hmetadata hselected hdigest]
    exact himport'
  · refine write_manifest_eq_ok.mpr ⟨records_checksum, rejections_checksum, ?_⟩
    refine hwrites'.congr hinputs.settings ⟨?_, ?_, ?_, ?_, ?_, hdiscovered, ?_⟩ ?_
    · exact congrArg (Option.map _) hmetadata
    · exact congrArg (Option.map _) hmetadata
    · exact congrArg some hinputs.discovered_images
    · rw [coverage_of, coverage_of, hinputs.provenance]
      have htraining := isSome_preparation_provenance encoders' marker' request'
      rw [or_default_of_get? htraining, or_default_of_get? htraining]
    · exact congrArg some hexpected
    · rw [coverage_of, coverage_of, hmetadata, hselected]
    · simpa [coverage_of, hisSome] using heffective

/-- The directory holds the revision. -/
def holds (directory : Option (List DirectoryEntry)) (revision : Revision) : Prop :=
  ∃ entries, directory = some entries ∧ .revision revision ∈ entries

/-- Whenever reuse answers with a revision, a fresh preparation of the same request writes the same
revision with the same records. -/
def ReuseAgrees (checksum : ByteArray → String) (library : SourceLibrary)
    (runtime provenance : Dict String) (directory : Option (List DirectoryEntry))
    (request : DatasetPreparationRequest) (tree : SourceTree) (inventory : DatasetInventory) :
    Prop :=
  ∀ summary, find_reusable_dataset checksum directory request inventory provenance
      = .ok (some summary) →
    ∃ written, fresh_manifest checksum library runtime provenance request tree inventory
        = .ok written ∧
      written.manifest.revision = summary.revision ∧
      ∃ revision, holds directory revision ∧ revision.name = summary.revision ∧
        revision.records = written.records

/-- The first revision in name order that the checks accept was prepared with the label mapping of
the request. -/
def MappingKept (provenance : Dict String) (directory : Option (List DirectoryEntry))
    (request : DatasetPreparationRequest) (inventory : DatasetInventory) : Prop :=
  ∀ revisions revision, directory = some (revisions.map .revision) → revisions.length ≤ 200000 →
    (sorted_by Revision.name revisions).find? (accepts request inventory provenance)
      = some revision →
    revision.manifest.split_mapping = effective_split_mapping request inventory.metadata.isSome

/-- Two manifests with the same digest have the same fields. -/
def NoCollision (checksum : ByteArray → String) (manifest manifest' : DatasetManifest) : Prop :=
  manifest_revision checksum manifest = manifest_revision checksum manifest' →
    dict manifest.fields = dict manifest'.fields

/-- Reading every entry of a directory, where only revisions can be read. -/
lemma mapM_revision_eq_ok {read : DirectoryEntry → Except Raised Revision}
    (hrevision : ∀ revision, read (.revision revision) = .ok revision)
    (hother : ∃ raised, read .unrecognized = .error raised) (entries : List DirectoryEntry)
    (revisions : List Revision) :
    entries.mapM read = .ok revisions ↔ entries = revisions.map .revision := by
  obtain ⟨raised, hother⟩ := hother
  induction entries generalizing revisions with
  | nil =>
    rw [List.mapM_nil, pure_eq_ok, eq_comm]
    exact ⟨fun h => h ▸ rfl, fun h => List.map_eq_nil_iff.mp h.symm⟩
  | cons entry entries ih =>
    rw [List.mapM_cons, bind_eq_ok]
    cases entry with
    | unrecognized =>
      constructor
      · rintro ⟨_, h, -⟩
        exact absurd (hother.symm.trans h) (by simp)
      · intro h
        cases revisions <;> simp at h
    | revision revision =>
      constructor
      · rintro ⟨_, hread, h⟩
        obtain ⟨rest, hrest, h⟩ := bind_eq_ok.mp h
        obtain rfl := pure_eq_ok.mp h
        obtain rfl := Except.ok.inj ((hrevision revision).symm.trans hread)
        rw [(ih rest).mp hrest, List.map_cons]
      · intro h
        cases revisions with
        | nil => simp at h
        | cons first rest =>
          rw [List.map_cons, List.cons.injEq, DirectoryEntry.revision.injEq] at h
          obtain ⟨rfl, hrest⟩ := h
          exact ⟨revision, hrevision revision, bind_eq_ok.mpr ⟨rest, (ih rest).mpr hrest, rfl⟩⟩

lemma revision_directories_eq_ok {entries : List DirectoryEntry} {candidates : List Revision} :
    revision_directories entries = .ok candidates ↔
      ∃ revisions, entries = revisions.map .revision ∧ revisions.length ≤ 200000 ∧
        candidates = sorted_by Revision.name revisions := by
  rw [revision_directories]
  constructor
  · intro h
    obtain ⟨_, hlength, h⟩ := bind_eq_ok.mp h
    obtain ⟨revisions, hrevisions, h⟩ := bind_eq_ok.mp h
    obtain rfl := pure_eq_ok.mp h
    obtain rfl :=
      (mapM_revision_eq_ok (fun _ => by rfl) ⟨.value_error, by rfl⟩ _ _).mp hrevisions
    rw [raise_if_eq_ok, List.length_map, not_lt] at hlength
    exact ⟨revisions, rfl, hlength, rfl⟩
  · rintro ⟨revisions, rfl, hlength, rfl⟩
    refine bind_eq_ok.mpr ⟨(), ?_, bind_eq_ok.mpr ⟨revisions, ?_, rfl⟩⟩
    · rw [raise_if_eq_ok, List.length_map, not_lt]
      exact hlength
    · exact (mapM_revision_eq_ok (fun _ => by rfl) ⟨.value_error, by rfl⟩ _ _).mpr rfl

/-- What reuse answers over published revisions. -/
theorem find_reusable_eq_some {directory : Option (List DirectoryEntry)} {provenance : Dict String}
    (hsound : ∀ revision, holds directory revision → Sound checksum revision)
    {summary : DatasetSummary} :
    find_reusable_dataset checksum directory request inventory provenance = .ok (some summary) ↔
      ∃ revisions revision, directory = some (revisions.map .revision) ∧
        revisions.length ≤ 200000 ∧
        (sorted_by Revision.name revisions).find? (accepts request inventory provenance)
          = some revision ∧
        summary = { summarize revision.manifest .verified with reused := true } := by
  cases directory with
  | none =>
    constructor
    · exact fun h => absurd h (by simp [find_reusable_dataset])
    · rintro ⟨_, _, h, -⟩
      exact absurd h (by simp)
  | some entries =>
    have hsorted : ∀ revisions : List Revision, entries = revisions.map .revision →
        ∀ candidate ∈ sorted_by Revision.name revisions, Sound checksum candidate := by
      rintro revisions rfl candidate hcandidate
      refine hsound candidate ⟨_, rfl, List.mem_map_of_mem ?_⟩
      exact (sorted_by_perm revisions).mem_iff.mp hcandidate
    rw [find_reusable_dataset, integrity_checked_eq_ok, bind_eq_ok]
    constructor
    · rintro ⟨candidates, hdirectories, hfind⟩
      obtain ⟨revisions, hentries, hlength, rfl⟩ := revision_directories_eq_ok.mp hdirectories
      rw [find_candidate_of_sound (hsorted revisions hentries)] at hfind
      obtain ⟨revision, hrevision, hsummary⟩ := Option.map_eq_some_iff.mp (Except.ok.inj hfind)
      exact ⟨revisions, revision, by rw [hentries], hlength, hrevision, hsummary.symm⟩
    · rintro ⟨revisions, revision, hentries, hlength, hrevision, rfl⟩
      have hentries := Option.some.inj hentries
      refine ⟨_, revision_directories_eq_ok.mpr ⟨revisions, hentries, hlength, rfl⟩, ?_⟩
      rw [find_candidate_of_sound (hsorted revisions hentries), hrevision]
      rfl

/-- A written manifest carries its digest and the mapping of its request. -/
lemma revision_of_fresh {provenance : Dict String}
    (h : fresh_manifest checksum library runtime provenance request tree inventory = .ok written) :
    written.manifest.revision = manifest_revision checksum written.manifest ∧
      written.manifest.split_mapping
        = effective_split_mapping request inventory.metadata.isSome := by
  obtain ⟨_, _, hwrite⟩ := bind_eq_ok.mp h
  obtain ⟨_, _, hwrites⟩ := write_manifest_eq_ok.mp hwrite
  rw [hwrites.manifest]
  refine ⟨rfl, ?_⟩
  simp [build_manifest, coverage_of]

/-- Equal fields hold equal label mappings. -/
lemma split_mapping_of_fields {manifest manifest' : DatasetManifest}
    (h : dict manifest.fields = dict manifest'.fields) :
    manifest.split_mapping = manifest'.split_mapping := by
  have hmem : ("split_mapping", split_dict manifest.split_mapping) ∈ manifest'.fields := by
    refine (perm_of_dict_eq h).mem_iff.mp ?_
    simp [DatasetManifest.fields]
  have hsplits : split_dict manifest.split_mapping = split_dict manifest'.split_mapping := by
    simpa [DatasetManifest.fields] using hmem
  have hinjective : Function.Injective
      fun entry : String × DatasetSplit => (entry.1, Json.str entry.2.label) := by
    rintro ⟨key, split⟩ ⟨key', split'⟩ heq
    rw [Prod.mk.injEq, Json.str.injEq] at heq
    exact Prod.ext heq.1 (DatasetSplit.label_injective heq.2)
  have hentries := List.map_injective_iff.mpr hinjective (Json.obj.inj hsplits)
  generalize manifest.split_mapping = d at hentries ⊢
  generalize manifest'.split_mapping = d' at hentries ⊢
  cases d
  cases d'
  cases hentries
  rfl

end Agreement

/-! ### A changed label -/

/-- The number of bytes, as a digest that keeps the contents below apart. -/
def size_digest (data : ByteArray) : String :=
  toString data.size

/-- One photograph and its table of labels. -/
def photo_tree : SourceTree where
  files := [("labels.csv", 20, "c1"), ("photo.png", 10, "a1")]
  nodup_paths := by decide

/-- The table labels the photograph `train`, and every image decodes to 300 by 300 pixels. -/
def photo_library : SourceLibrary where
  inspect_header _ := none
  prepare_image digest := .ok
    { source_format := "PNG"
      source_mode := "RGB"
      source_width := 300
      source_height := 300
      width := 300
      height := 300
      mode := "RGB"
      orientation := 1
      color_policy := "assumed_srgb"
      grayscale_converted := false
      eligible := true
      prepared_checksum := digest
      rgb_checksum := digest
      prepared_bytes := 10 }
  read_csv _ :=
    some [{ image_name := "photo.png", set := "train", subset := "", identity := none }]

/-- A request that reads the label `train` as the given split. -/
def photo_request (split : DatasetSplit) : DatasetPreparationRequest where
  dataset_name := "photos"
  source_directory := "source"
  metadata_file := some "labels.csv"
  source_kind := .hugging_face
  source_url := "https://example.org"
  terms_reference := "terms"
  training_intended := false
  split_mapping := some (Dict.empty.insert "train" split)

def photo_provenance (split : DatasetSplit) : Dict String :=
  preparation_provenance Dict.empty Dict.empty (photo_request split)

def photo_inventory (split : DatasetSplit) : Except Raised DatasetInventory :=
  inventory_dataset photo_library photo_tree (photo_request split)

/-- A fresh preparation of the photograph. -/
def photo_manifest (split : DatasetSplit) (inventory : DatasetInventory) : Except Raised Written :=
  fresh_manifest size_digest photo_library Dict.empty (photo_provenance split) (photo_request split)
    photo_tree inventory

/-- The records that a fresh preparation groups. -/
def photo_grouped (split : DatasetSplit) (inventory : DatasetInventory) :
    Except Raised (List DatasetImageRecord) := do
  let (records, _) ← import_images photo_library photo_tree inventory
  assign_groups size_digest records .hugging_face 0 false
    (effective_split_mapping (photo_request split) inventory.metadata.isSome)

/-- The revision prepared with `train` verifies, and reuse accepts it for `tuning`, although a fresh
preparation then groups the photograph otherwise. -/
def photo_accepted : Bool :=
  match photo_inventory .train, photo_inventory .tuning with
  | .ok inventory, .ok inventory' =>
    match photo_manifest .train inventory, photo_grouped .tuning inventory' with
    | .ok stored, .ok grouped =>
      (validate_dataset size_digest stored.revision false).isOk &&
        accepts (photo_request .tuning) inventory' (photo_provenance .tuning) stored.revision &&
        decide (grouped ≠ stored.records)
    | _, _ => false
  | _, _ => false

lemma photo_accepted_eq_true : photo_accepted = true := by
  decide +kernel

lemma exists_photo_accepted : ∃ inventory inventory' stored grouped summary,
    photo_inventory .train = .ok inventory ∧ photo_inventory .tuning = .ok inventory' ∧
    photo_manifest .train inventory = .ok stored ∧
    photo_grouped .tuning inventory' = .ok grouped ∧
    validate_dataset size_digest stored.revision false = .ok summary ∧
    accepts (photo_request .tuning) inventory' (photo_provenance .tuning) stored.revision = true ∧
    grouped ≠ stored.records := by
  have haccepted := photo_accepted_eq_true
  unfold photo_accepted at haccepted
  split at haccepted
  · rename_i inventory inventory' hinventory hinventory'
    split at haccepted
    · rename_i stored grouped hstored hgrouped
      simp only [Bool.and_eq_true, decide_eq_true_eq] at haccepted
      obtain ⟨⟨hvalid, haccepts⟩, hne⟩ := haccepted
      cases hsummary : validate_dataset size_digest stored.revision false with
      | error e => simp [hsummary, Except.isOk, Except.toBool] at hvalid
      | ok summary =>
        exact ⟨inventory, inventory', stored, grouped, summary, hinventory, hinventory', hstored,
          hgrouped, hsummary, haccepts, hne⟩
    · exact absurd haccepted (by simp)
  · exact absurd haccepted (by simp)

/-- The directory with one revision. -/
def single (revision : Revision) : Option (List DirectoryEntry) :=
  some [.revision revision]

lemma holds_single {revision revision' : Revision} :
    holds (single revision) revision' ↔ revision' = revision := by
  simp [holds, single]

end StegoLab

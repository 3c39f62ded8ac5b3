import StegoLab.Datasets.Manifest

/-!
# What a written manifest freezes

Writing succeeds when its checks do, and the manifest is a function of the settings, the coverage,
the records and the rejections.
-/

namespace StegoLab

open CanonicalJson

/-! ### Defaults -/

lemma or_default_of_get? {α : Type} {mapping default : Dict α} {key : String}
    (h : (mapping.get? key).isSome) : or_default (some mapping) default = mapping := by
  rw [or_default, if_neg]
  intro hnil
  rw [Dict.get?, hnil] at h
  exact absurd h (by simp)

/-- A default that was taken is taken again. -/
lemma or_default_or_default {α : Type} (mapping default : Dict α) :
    or_default (some (or_default (some mapping) default)) default
      = or_default (some mapping) default := by
  by_cases h : mapping.entries = []
  · simp [or_default, h]
  · simp [or_default, h]

lemma or_default_empty {α : Type} (mapping : Dict α) :
    or_default (some mapping) Dict.empty = mapping := by
  by_cases h : mapping.entries = []
  · rw [or_default, if_pos h]
    exact Dict.ext_get? fun k => by rw [Dict.get?_empty, Dict.get?, h, List.lookup_nil]
  · rw [or_default, if_neg h]

/-! ### Writing -/

section Write

variable {checksum : ByteArray → String} {library : SourceLibrary} {runtime : Dict String}
  {request : DatasetPreparationRequest} {coverage : Coverage}
  {records : List DatasetImageRecord} {rejections : List DatasetRejection} {written : Written}

/-- What writing a manifest checks and freezes. -/
structure Writes (checksum : ByteArray → String) (runtime : Dict String)
    (request : DatasetPreparationRequest) (coverage : Coverage)
    (records : List DatasetImageRecord) (rejections : List DatasetRejection)
    (records_checksum rejections_checksum : String) (written : Written) : Prop where
  grouped : assign_groups checksum records request.source_kind request.seed
    request.training_intended (effective_split_mapping request coverage.metadata_checksum.isSome)
    = .ok written.records
  rejected : written.rejections = sorted_by DatasetRejection.source_path rejections
  nodup_paths : (written.records.map (·.source_path)
    ++ written.rejections.map (·.source_path)).Nodup
  records_digest : write_records checksum DatasetImageRecord.model_dump written.records
    = .ok records_checksum
  rejections_digest : write_records checksum DatasetRejection.model_dump written.rejections
    = .ok rejections_checksum
  manifest : written.manifest = build_manifest checksum runtime request coverage written.records
    written.rejections records_checksum rejections_checksum
  valid : written.manifest.valid = true
  size : ¬ written.manifest.content.size > MAXIMUM_METADATA_BYTES

theorem write_manifest_eq_ok :
    write_manifest checksum runtime request records rejections coverage = .ok written ↔
      ∃ records_checksum rejections_checksum, Writes checksum runtime request coverage records
        rejections records_checksum rejections_checksum written := by
  constructor
  · intro h
    obtain ⟨grouped, hgrouped, h⟩ := bind_eq_ok.mp h
    obtain ⟨_, hnodup, h⟩ := bind_eq_ok.mp h
    obtain ⟨records_checksum, hrecords, h⟩ := bind_eq_ok.mp h
    obtain ⟨rejections_checksum, hrejections, h⟩ := bind_eq_ok.mp h
    obtain ⟨_, hvalid, h⟩ := bind_eq_ok.mp h
    obtain ⟨_, hsize, h⟩ := bind_eq_ok.mp h
    obtain rfl := pure_eq_ok.mp h
    exact ⟨records_checksum, rejections_checksum, hgrouped, rfl,
      not_not.mp (raise_if_eq_ok.mp hnodup), hrecords, hrejections, rfl,
      not_not.mp (raise_if_eq_ok.mp hvalid), raise_if_eq_ok.mp hsize⟩
  · rintro ⟨records_checksum, rejections_checksum, h⟩
    obtain ⟨manifest, grouped, rejected⟩ := written
    obtain rfl : rejected = _ := h.rejected
    obtain rfl : manifest = build_manifest checksum runtime request coverage grouped
        (sorted_by DatasetRejection.source_path rejections) records_checksum rejections_checksum :=
      h.manifest
    refine bind_eq_ok.mpr ⟨grouped, h.grouped, ?_⟩
    refine bind_eq_ok.mpr ⟨(), raise_if_eq_ok.mpr (not_not.mpr h.nodup_paths), ?_⟩
    refine bind_eq_ok.mpr ⟨records_checksum, h.records_digest, ?_⟩
    refine bind_eq_ok.mpr ⟨rejections_checksum, h.rejections_digest, ?_⟩
    refine bind_eq_ok.mpr ⟨(), raise_if_eq_ok.mpr (not_not.mpr h.valid), ?_⟩
    exact bind_eq_ok.mpr ⟨(), raise_if_eq_ok.mpr h.size, rfl⟩

end Write

/-! ### Equal settings -/

/-- Requests that agree on every setting a manifest freezes, except the label mapping. -/
structure SameSettings (request request' : DatasetPreparationRequest) : Prop where
  dataset_name : request.dataset_name = request'.dataset_name
  policy_version : request.policy_version = request'.policy_version
  source_kind : request.source_kind = request'.source_kind
  seed : request.seed = request'.seed
  selection_name : request.selection_name = request'.selection_name
  selection : (request.selection.map fun paths => paths.insertionSort (· ≤ ·))
    = request'.selection.map fun paths => paths.insertionSort (· ≤ ·)
  source_url : request.source_url = request'.source_url
  terms_reference : request.terms_reference = request'.terms_reference
  training_intended : request.training_intended = request'.training_intended

section Congruence

variable {checksum : ByteArray → String} {runtime runtime' : Dict String}
  {request request' : DatasetPreparationRequest} {coverage coverage' : Coverage}
  {grouped : List DatasetImageRecord} {rejected : List DatasetRejection}
  {records_checksum rejections_checksum : String}

/-- Coverages with the same frozen values. -/
structure SameCoverage (runtime runtime' : Dict String) (labels : Dict ℕ)
    (coverage coverage' : Coverage) : Prop where
  metadata_checksum : coverage.metadata_checksum = coverage'.metadata_checksum
  expected_images : coverage.expected_images = coverage'.expected_images
  discovered_images : coverage.discovered_images = coverage'.discovered_images
  source_provenance : or_default coverage.source_provenance runtime
    = or_default coverage'.source_provenance runtime'
  expected_by_split : coverage.expected_by_split = coverage'.expected_by_split
  discovered_by_split : or_default coverage.discovered_by_split labels
    = or_default coverage'.discovered_by_split labels
  selected_by_split : coverage.selected_by_split = coverage'.selected_by_split

lemma build_manifest_congr (hsettings : SameSettings request request')
    (hcoverage : SameCoverage runtime runtime' (Dict.counter (coverage_labels grouped rejected))
      coverage coverage')
    (hmapping : effective_split_mapping request coverage'.metadata_checksum.isSome
      = effective_split_mapping request' coverage'.metadata_checksum.isSome) :
    build_manifest checksum runtime request coverage grouped rejected records_checksum
        rejections_checksum
      = build_manifest checksum runtime' request' coverage' grouped rejected records_checksum
        rejections_checksum := by
  obtain ⟨hmetadata, hexpected, hdiscovered, hprovenance, hexpected_by, hdiscovered_by,
    hselected_by⟩ := hcoverage
  simp only [build_manifest, hsettings.dataset_name, hsettings.policy_version,
    hsettings.source_kind, hsettings.seed, hsettings.selection_name, hsettings.selection,
    hsettings.source_url, hsettings.terms_reference, hsettings.training_intended, hmetadata,
    hexpected, hdiscovered, hprovenance, hexpected_by, hdiscovered_by, hselected_by, hmapping]
  have hcomplete : request.selection.isNone = request'.selection.isNone := by
    have hmap := congrArg Option.isNone hsettings.selection
    rwa [Option.isNone_map, Option.isNone_map] at hmap
  rw [hcomplete]

/-- Writing with the same frozen values gives the same manifest. -/
theorem Writes.congr {records : List DatasetImageRecord} {rejections : List DatasetRejection}
    {written : Written}
    (h : Writes checksum runtime' request' coverage' records rejections records_checksum
      rejections_checksum written)
    (hsettings : SameSettings request request')
    (hcoverage : SameCoverage runtime runtime'
      (Dict.counter (coverage_labels written.records written.rejections)) coverage coverage')
    (hmapping : effective_split_mapping request coverage'.metadata_checksum.isSome
      = effective_split_mapping request' coverage'.metadata_checksum.isSome) :
    Writes checksum runtime request coverage records rejections records_checksum
      rejections_checksum written := by
  refine ⟨?_, h.rejected, h.nodup_paths, h.records_digest, h.rejections_digest, ?_, h.valid, h.size⟩
  · rw [hsettings.source_kind, hsettings.seed, hsettings.training_intended,
      hcoverage.metadata_checksum, hmapping]
    exact h.grouped
  · rw [build_manifest_congr hsettings hcoverage hmapping]
    exact h.manifest

end Congruence

end StegoLab

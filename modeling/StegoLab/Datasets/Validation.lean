import StegoLab.Datasets.Manifest

/-!
# Verification of revisions

A revision directory holds a manifest, its record files and the prepared images. Verification
recomputes everything the manifest freezes from the records.
-/

namespace StegoLab

/-- A prepared image file as it decodes. -/
structure PreparedFile where
  prepared_checksum : String
  prepared_bytes : ℕ
  width : ℕ
  height : ℕ
  mode : String
  rgb_checksum : String
  deriving DecidableEq

/-- A revision directory with readable canonical records; images by their relative path. -/
structure Revision where
  name : String
  manifest : DatasetManifest
  records : List DatasetImageRecord
  rejections : List DatasetRejection
  images : List (String × PreparedFile)

def dataset_integrity : ApplicationFailure :=
  { code := "dataset_integrity"
    message :=
      "Dataset integrity validation failed. Check the revision and prepared files."
    status_code := 422 }

/-- Parse one bounded manifest while rejecting forged identity. -/
def load_manifest (checksum : ByteArray → String) (revision : Revision) :
    Except Raised DatasetManifest :=
  if ¬ revision.manifest.valid ∨
      manifest_revision checksum revision.manifest ≠ revision.manifest.revision then
    .error .value_error
  else .ok revision.manifest

/-! ### Prepared paths -/

/-- What records of one prepared path share. -/
def signature (record : DatasetImageRecord) : PreparedFile :=
  { prepared_checksum := record.prepared_checksum
    prepared_bytes := record.prepared_bytes
    width := record.width
    height := record.height
    mode := record.mode
    rgb_checksum := record.rgb_checksum }

/-- What records of one source content share. -/
structure SourceSignature where
  source_bytes : ℕ
  source_format : String
  source_mode : String
  source_width : ℕ
  source_height : ℕ
  orientation : ℕ
  color_policy : String
  grayscale_converted : Bool
  prepared : PreparedFile
  deriving DecidableEq

def source_signature (record : DatasetImageRecord) : SourceSignature :=
  { source_bytes := record.source_bytes
    source_format := record.source_format
    source_mode := record.source_mode
    source_width := record.source_width
    source_height := record.source_height
    orientation := record.orientation
    color_policy := record.color_policy
    grayscale_converted := record.grayscale_converted
    prepared := signature record }

/-- Records with equal keys have equal values. -/
def consistent {κ ν : Type} [DecidableEq κ] [DecidableEq ν] (key : DatasetImageRecord → κ)
    (value : DatasetImageRecord → ν) (records : List DatasetImageRecord) : Bool :=
  records.all fun record => records.all fun other =>
    decide (key record = key other → value record = value other)

/-- Permit shared byte-identical outputs and reject untracked image files. -/
def validate_prepared_paths (revision : Revision) (records : List DatasetImageRecord) :
    Except Raised Unit :=
  if ¬ consistent (·.prepared_path) signature records then .error .value_error
  else if ¬ consistent (·.source_checksum) source_signature records then .error .value_error
  else if revision.images.length > MAXIMUM_DATASET_ENTRIES then .error .value_error
  else if (revision.images.map Prod.fst).toFinset ≠ (records.map (·.prepared_path)).toFinset then
    .error .value_error
  else .ok ()

/-! ### Coverage -/

/-- The provenance that each source kind has to declare. -/
def source_declared (manifest : DatasetManifest) : Bool :=
  match manifest.source_kind with
  | .uhd_iqa =>
    manifest.metadata_checksum.isSome && decide (manifest.split_mapping = SPLIT_MAPPING) &&
      manifest.expected_images.isSome
  | .local_files => manifest.split_mapping.entries.isEmpty
  | _ => !manifest.split_mapping.entries.isEmpty == manifest.metadata_checksum.isSome

/-- The selection agrees with the recorded paths. -/
def selection_declared (manifest : DatasetManifest) (all_paths : List String) : Bool :=
  match manifest.selection with
  | none =>
    manifest.selection_name.isNone && decide (manifest.discovered_images = manifest.selected_images)
  | some selection =>
    manifest.selection_name.isSome && decide (selection = all_paths.insertionSort (· ≤ ·))

/-- Keep frozen selection and coverage claims consistent with actual records. -/
def validate_coverage (manifest : DatasetManifest) (records : List DatasetImageRecord)
    (all_paths : List String) (rejections : List DatasetRejection) : Except Raised Unit :=
  let actual := Dict.counter (coverage_labels records rejections)
  let complete := manifest.selection.isNone && rejections.isEmpty &&
    decide (manifest.discovered_images = records.length) &&
    (manifest.expected_images.all fun expected => decide (expected = records.length))
  if ¬ source_declared manifest then .error .value_error
  else if manifest.selected_images ≠ all_paths.length then .error .value_error
  else if manifest.discovered_images < manifest.selected_images then .error .value_error
  else if ¬ selection_declared manifest all_paths then .error .value_error
  else if (manifest.expected_images.any fun total => manifest.expected_by_split.total > total) ∨
      manifest.discovered_by_split.total > manifest.discovered_images ∨
      manifest.selected_by_split.total > manifest.selected_images then .error .value_error
  else if manifest.metadata_checksum.isSome ∧ actual ≠ manifest.selected_by_split then
    .error .value_error
  else if actual.entries.any fun entry =>
      entry.2 > (manifest.selected_by_split.get? entry.1).getD 0 then .error .value_error
  else if manifest.full_coverage ≠ complete then .error .value_error
  else .ok ()

/-! ### Records -/

/-- A path of the form `images/*.png`. -/
def image_path (path : String) : Bool :=
  "images/".toList.isPrefixOf path.toList && ".png".toList.isSuffixOf path.toList

/-- Validate canonical metadata and logical invariants before decoding pixels. -/
def validated_records (checksum : ByteArray → String) (revision : Revision)
    (require_revision_name : Bool) : Except Raised (DatasetManifest × List DatasetImageRecord) := do
  let manifest ← load_manifest checksum revision
  raise_if (require_revision_name ∧ revision.name ≠ manifest.revision) .value_error
  let records := revision.records
  let rejections := revision.rejections
  let records_checksum ← write_records checksum DatasetImageRecord.model_dump records
  let rejections_checksum ← write_records checksum DatasetRejection.model_dump rejections
  raise_if (records_checksum ≠ manifest.records_checksum ∨
    rejections_checksum ≠ manifest.rejections_checksum) .value_error
  let all_paths := records.map (·.source_path) ++ rejections.map (·.source_path)
  raise_if (all_paths.length > MAXIMUM_DATASET_ENTRIES ∨ ¬ all_paths.Nodup ∨
    ¬ records.all (fun record => image_path record.prepared_path) ∨
    rejections ≠ sorted_by DatasetRejection.source_path rejections) .value_error
  validate_prepared_paths revision records
  let regrouped ← assign_groups checksum records manifest.source_kind manifest.seed
    (decide ((manifest.source_provenance.get? "training_intended").getD "true" = "true"))
    manifest.split_mapping
  raise_if (regrouped ≠ records) .value_error
  raise_if (manifest.counts ≠ record_counts records rejections) .value_error
  validate_coverage manifest records all_paths rejections
  return (manifest, records)

/-- Failures of verification are reported as one fixed failure. -/
def integrity_checked {α : Type} (outcome : Except Raised α) : Except Raised α :=
  match outcome with
  | .error _ => fail dataset_integrity
  | .ok value => .ok value

/-- The prepared file of a record decodes to what the record declares. -/
def prepared_file_matches (revision : Revision) (record : DatasetImageRecord) : Bool :=
  decide (revision.images.lookup record.prepared_path = some (signature record))

/-- Return the frozen records whose outputs and metadata were validated. -/
def load_validated_dataset (checksum : ByteArray → String) (revision : Revision)
    (require_revision_name : Bool) :
    Except Raised (DatasetManifest × List DatasetImageRecord) := do
  let (manifest, records) ← integrity_checked
    (validated_records checksum revision require_revision_name)
  raise_if (¬ records.all (prepared_file_matches revision)) (.application dataset_integrity)
  return (manifest, records)

/-- Verify checksums, pixel data, groups, splits, paths, counts and revision. -/
def validate_dataset (checksum : ByteArray → String) (revision : Revision)
    (require_revision_name : Bool) : Except Raised DatasetSummary := do
  let (manifest, _) ← load_validated_dataset checksum revision require_revision_name
  return summarize manifest .verified

end StegoLab

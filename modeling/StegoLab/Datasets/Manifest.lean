import StegoLab.Datasets.Groups
import StegoLab.Datasets.Inventory

/-!
# Dataset manifests

A manifest freezes the decisions of one preparation, and its revision is the digest of all its
other fields. Digests of serialized data are computed by `checksum`; the patterns of digest fields
hold by construction and are not checked again.
-/

namespace StegoLab

open CanonicalJson

/-! ### Manifests -/

/-- All decisions of one prepared dataset. -/
structure DatasetManifest where
  policy_version : String
  revision : String
  dataset_name : String
  source_kind : SourceKind
  source_url : String
  terms_reference : String
  source_provenance : Dict String
  metadata_checksum : Option String
  split_mapping : Dict DatasetSplit
  seed : ℕ
  selection_name : Option String
  selection : Option (List String)
  expected_images : Option ℕ
  discovered_images : ℕ
  selected_images : ℕ
  expected_by_split : Dict ℕ
  discovered_by_split : Dict ℕ
  selected_by_split : Dict ℕ
  full_coverage : Bool
  records_checksum : String
  rejections_checksum : String
  accepted_count : ℕ
  rejection_count : ℕ
  eligible_count : ℕ
  ineligible_count : ℕ
  duplicate_count : ℕ
  unique_eligible_count : ℕ
  split_counts : Dict ℕ
  eligible_by_split : Dict ℕ
  unique_eligible_by_split : Dict ℕ
  rejection_reasons : Dict ℕ
  source_bytes : ℕ
  prepared_bytes : ℕ
  deriving DecidableEq

def str_dict (d : Dict String) : Json :=
  .obj (d.entries.map fun entry => (entry.1, .str entry.2))

def num_dict (d : Dict ℕ) : Json :=
  .obj (d.entries.map fun entry => (entry.1, .num entry.2))

def split_dict (d : Dict DatasetSplit) : Json :=
  .obj (d.entries.map fun entry => (entry.1, .str entry.2.label))

/-- The fields that the revision is the digest of. -/
def DatasetManifest.fields (manifest : DatasetManifest) : List (String × Json) :=
  [("schema_version", .num 1),
    ("policy_version", .str manifest.policy_version),
    ("dataset_name", .str manifest.dataset_name),
    ("source_kind", .str manifest.source_kind.label),
    ("source_url", .str manifest.source_url),
    ("terms_reference", .str manifest.terms_reference),
    ("source_provenance", str_dict manifest.source_provenance),
    ("metadata_checksum", optional_str manifest.metadata_checksum),
    ("split_mapping", split_dict manifest.split_mapping),
    ("seed", .num manifest.seed),
    ("selection_name", optional_str manifest.selection_name),
    ("selection", (manifest.selection.map fun paths => Json.arr (paths.map .str)).getD .null),
    ("expected_images", optional_num manifest.expected_images),
    ("discovered_images", .num manifest.discovered_images),
    ("selected_images", .num manifest.selected_images),
    ("expected_by_split", num_dict manifest.expected_by_split),
    ("discovered_by_split", num_dict manifest.discovered_by_split),
    ("selected_by_split", num_dict manifest.selected_by_split),
    ("full_coverage", .bool manifest.full_coverage),
    ("records_checksum", .str manifest.records_checksum),
    ("rejections_checksum", .str manifest.rejections_checksum),
    ("pilot_ready", .bool false),
    ("accepted_count", .num manifest.accepted_count),
    ("rejection_count", .num manifest.rejection_count),
    ("eligible_count", .num manifest.eligible_count),
    ("ineligible_count", .num manifest.ineligible_count),
    ("duplicate_count", .num manifest.duplicate_count),
    ("unique_eligible_count", .num manifest.unique_eligible_count),
    ("split_counts", num_dict manifest.split_counts),
    ("eligible_by_split", num_dict manifest.eligible_by_split),
    ("unique_eligible_by_split", num_dict manifest.unique_eligible_by_split),
    ("rejection_reasons", num_dict manifest.rejection_reasons),
    ("source_bytes", .num manifest.source_bytes),
    ("prepared_bytes", .num manifest.prepared_bytes)]

/-- Hash all frozen manifest fields except the revision itself. -/
def manifest_revision (checksum : ByteArray → String) (manifest : DatasetManifest) : String :=
  checksum (canonical_json (dict manifest.fields))

/-- The bytes of `manifest.json`. -/
def DatasetManifest.content (manifest : DatasetManifest) : ByteArray :=
  canonical_json (dict (("revision", .str manifest.revision) :: manifest.fields))

/-! ### Validation of counts -/

def MAXIMUM_DATASET_ENTRIES : ℕ := 200000
def MAXIMUM_DATASET_BYTES : ℕ := 100 * 1024 ^ 3
def MAXIMUM_RECORD_LINE : ℕ := 64 * 1024
def MAXIMUM_METADATA_BYTES : ℕ := 256 * 1024 ^ 2

/-- The pattern `[a-z][a-z0-9_]{0,63}`. -/
def counter_name (key : String) : Bool :=
  match key.toList with
  | [] => false
  | first :: rest =>
    decide ('a' ≤ first ∧ first ≤ 'z') && decide (rest.length ≤ 63) &&
      rest.all fun c => decide (('a' ≤ c ∧ c ≤ 'z') ∨ ('0' ≤ c ∧ c ≤ '9') ∨ c = '_')

/-- Keep count maps bounded and their names safe. -/
def check_counts (counts : Dict ℕ) : Bool :=
  counts.entries.all fun entry =>
    decide (entry.2 ≤ MAXIMUM_DATASET_ENTRIES) && counter_name entry.1

/-- What the manifest's own validation checks of its numbers. -/
def DatasetManifest.valid (manifest : DatasetManifest) : Bool :=
  decide (manifest.seed < 2 ^ 63) &&
    (manifest.expected_images.all fun n => decide (n ≤ MAXIMUM_DATASET_ENTRIES)) &&
    [manifest.discovered_images, manifest.selected_images, manifest.accepted_count,
      manifest.rejection_count, manifest.eligible_count, manifest.ineligible_count,
      manifest.duplicate_count, manifest.unique_eligible_count].all
        (fun n => decide (n ≤ MAXIMUM_DATASET_ENTRIES)) &&
    [manifest.expected_by_split, manifest.discovered_by_split, manifest.selected_by_split,
      manifest.split_counts, manifest.eligible_by_split, manifest.unique_eligible_by_split,
      manifest.rejection_reasons].all check_counts &&
    [manifest.accepted_count, manifest.eligible_count, manifest.unique_eligible_count,
      manifest.source_bytes, manifest.prepared_bytes].all (fun n => decide (1 ≤ n)) &&
    [manifest.source_bytes, manifest.prepared_bytes].all
      (fun n => decide (n ≤ MAXIMUM_DATASET_BYTES))

/-! ### Counts -/

/-- The counts derived from the frozen records. -/
structure RecordCounts where
  accepted_count : ℕ
  rejection_count : ℕ
  eligible_count : ℕ
  ineligible_count : ℕ
  duplicate_count : ℕ
  unique_eligible_count : ℕ
  split_counts : Dict ℕ
  eligible_by_split : Dict ℕ
  unique_eligible_by_split : Dict ℕ
  rejection_reasons : Dict ℕ
  source_bytes : ℕ
  prepared_bytes : ℕ
  deriving DecidableEq

/-- The number of records of every split. -/
def count_splits (records : List DatasetImageRecord) : Dict ℕ :=
  Dict.of_items (DATASET_SPLITS.map fun split =>
    (split.label, records.countP fun record => record.assigned_split = some split))

/-- Derive every model-input count from the image records. -/
def record_counts (records : List DatasetImageRecord) (rejections : List DatasetRejection) :
    RecordCounts :=
  let unique := records.filter fun record =>
    some record.source_path = record.representative_source_path
  let eligible := records.filter (·.eligible)
  let unique_eligible := unique.filter (·.eligible)
  { accepted_count := records.length
    rejection_count := rejections.length
    eligible_count := eligible.length
    ineligible_count := records.length - eligible.length
    duplicate_count := records.length - unique.length
    unique_eligible_count := unique_eligible.length
    split_counts := count_splits records
    eligible_by_split := count_splits eligible
    unique_eligible_by_split := count_splits unique_eligible
    rejection_reasons := Dict.counter (rejections.map (·.reason))
    source_bytes := (records.map (·.source_bytes)).sum + (rejections.map (·.source_bytes)).sum
    prepared_bytes := ((Dict.of_items (records.map fun record =>
      (record.prepared_path, record.prepared_bytes))).entries.map Prod.snd).sum }

def DatasetManifest.counts (manifest : DatasetManifest) : RecordCounts :=
  { accepted_count := manifest.accepted_count
    rejection_count := manifest.rejection_count
    eligible_count := manifest.eligible_count
    ineligible_count := manifest.ineligible_count
    duplicate_count := manifest.duplicate_count
    unique_eligible_count := manifest.unique_eligible_count
    split_counts := manifest.split_counts
    eligible_by_split := manifest.eligible_by_split
    unique_eligible_by_split := manifest.unique_eligible_by_split
    rejection_reasons := manifest.rejection_reasons
    source_bytes := manifest.source_bytes
    prepared_bytes := manifest.prepared_bytes }

/-- The labels the records and the rejections count towards. -/
def coverage_labels (records : List DatasetImageRecord) (rejections : List DatasetRejection) :
    List String :=
  records.map (fun record =>
      (record.upstream_split.or (record.assigned_split.map DatasetSplit.label)).getD "")
    ++ rejections.filterMap (·.upstream_split)

/-! ### Writing -/

/-- The label mapping used to read metadata; without metadata it is empty. -/
def effective_split_mapping (request : DatasetPreparationRequest) (has_metadata : Bool) :
    Dict DatasetSplit :=
  if has_metadata then or_default request.split_mapping SPLIT_MAPPING else Dict.empty

/-- The digest of the canonical lines of some records. -/
def lines_checksum (checksum : ByteArray → String) (lines : List ByteArray) : String :=
  checksum ⟨(lines.flatMap (·.data.toList)).toArray⟩

/-- The digest of a record file, within its limits. -/
def write_records {Record : Type} (checksum : ByteArray → String) (model_dump : Record → Json)
    (records : List Record) : Except Raised String :=
  let lines := records.map fun record => canonical_json (model_dump record)
  if records.length > MAXIMUM_DATASET_ENTRIES ∨
      lines.any (fun line => line.size > MAXIMUM_RECORD_LINE) ∨
      (lines.map ByteArray.size).sum > MAXIMUM_METADATA_BYTES then .error .value_error
  else .ok (lines_checksum checksum lines)

/-- The optional arguments of `write_manifest`. -/
structure Coverage where
  metadata_checksum : Option String
  expected_images : Option ℕ
  discovered_images : Option ℕ
  source_provenance : Option (Dict String)
  expected_by_split : Option (Dict ℕ)
  discovered_by_split : Option (Dict ℕ)
  selected_by_split : Option (Dict ℕ)

/-- A manifest with the records and rejections written next to it. -/
structure Written where
  manifest : DatasetManifest
  records : List DatasetImageRecord
  rejections : List DatasetRejection

/-- The manifest of grouped records and ordered rejections. -/
def build_manifest (checksum : ByteArray → String) (runtime_provenance : Dict String)
    (request : DatasetPreparationRequest) (coverage : Coverage)
    (grouped : List DatasetImageRecord) (rejected : List DatasetRejection)
    (records_checksum rejections_checksum : String) : DatasetManifest :=
  let provenance := (or_default coverage.source_provenance runtime_provenance).setdefault
    "training_intended" (lower_bool request.training_intended)
  let selected_count := grouped.length + rejected.length
  let discovered_count := coverage.discovered_images.getD selected_count
  let accepted_coverage := Dict.counter (coverage_labels grouped rejected)
  let counts := record_counts grouped rejected
  let data : DatasetManifest :=
    { policy_version := request.policy_version
      revision := ""
      dataset_name := request.dataset_name
      source_kind := request.source_kind
      source_url := request.source_url
      terms_reference := request.terms_reference
      source_provenance := provenance
      metadata_checksum := coverage.metadata_checksum
      split_mapping := effective_split_mapping request coverage.metadata_checksum.isSome
      seed := request.seed
      selection_name := request.selection_name
      selection := request.selection.map fun paths => paths.insertionSort (· ≤ ·)
      expected_images := coverage.expected_images
      discovered_images := discovered_count
      selected_images := selected_count
      expected_by_split := or_default coverage.expected_by_split Dict.empty
      discovered_by_split := or_default coverage.discovered_by_split accepted_coverage
      selected_by_split := or_default coverage.selected_by_split accepted_coverage
      full_coverage := request.selection.isNone && rejected.isEmpty &&
        decide (discovered_count = grouped.length) &&
        (coverage.expected_images.all fun expected => decide (expected = grouped.length))
      records_checksum := records_checksum
      rejections_checksum := rejections_checksum
      accepted_count := counts.accepted_count
      rejection_count := counts.rejection_count
      eligible_count := counts.eligible_count
      ineligible_count := counts.ineligible_count
      duplicate_count := counts.duplicate_count
      unique_eligible_count := counts.unique_eligible_count
      split_counts := counts.split_counts
      eligible_by_split := counts.eligible_by_split
      unique_eligible_by_split := counts.unique_eligible_by_split
      rejection_reasons := counts.rejection_reasons
      source_bytes := counts.source_bytes
      prepared_bytes := counts.prepared_bytes }
  { data with revision := manifest_revision checksum data }

/-- Write canonical metadata only after grouping and deriving all counts. -/
def write_manifest (checksum : ByteArray → String) (runtime_provenance : Dict String)
    (request : DatasetPreparationRequest) (records : List DatasetImageRecord)
    (rejections : List DatasetRejection) (coverage : Coverage) : Except Raised Written := do
  let split_mapping := effective_split_mapping request coverage.metadata_checksum.isSome
  let grouped ← assign_groups checksum records request.source_kind request.seed
    request.training_intended split_mapping
  let rejected := sorted_by DatasetRejection.source_path rejections
  let paths := grouped.map (·.source_path) ++ rejected.map (·.source_path)
  raise_if (¬ paths.Nodup) .value_error
  let records_checksum ← write_records checksum DatasetImageRecord.model_dump grouped
  let rejections_checksum ← write_records checksum DatasetRejection.model_dump rejected
  let manifest := build_manifest checksum runtime_provenance request coverage grouped rejected
    records_checksum rejections_checksum
  raise_if (¬ manifest.valid) .value_error
  raise_if (manifest.content.size > MAXIMUM_METADATA_BYTES) .value_error
  return { manifest := manifest, records := grouped, rejections := rejected }

/-! ### Summaries -/

inductive Integrity where
  | not_checked
  | verified
  deriving DecidableEq, Repr

/-- Safe counts of a manifest. -/
structure DatasetSummary where
  dataset_name : String
  revision : String
  integrity : Integrity
  reused : Bool := false
  full_coverage : Bool
  expected_images : Option ℕ
  discovered_images : ℕ
  selected_images : ℕ
  counts : RecordCounts
  warnings : List String
  deriving DecidableEq

/-- Expose counts with clear warnings about coverage and evaluation readiness. -/
def summarize (manifest : DatasetManifest) (integrity : Integrity) : DatasetSummary :=
  let unavailable := ["tuning", "held_out"].filter fun split =>
    (manifest.unique_eligible_by_split.get? split).getD 0 = 0
  { dataset_name := manifest.dataset_name
    revision := manifest.revision
    integrity := integrity
    full_coverage := manifest.full_coverage
    expected_images := manifest.expected_images
    discovered_images := manifest.discovered_images
    selected_images := manifest.selected_images
    counts := manifest.counts
    warnings :=
      ["Pilot readiness requires a separate near-duplicate and source audit."]
        ++ unavailable.map (fun split =>
          "No eligible unique examples in " ++ split ++ "; evaluation is unavailable.")
        ++ if manifest.full_coverage then []
          else ["This revision does not cover the complete source dataset."] }

end StegoLab

import StegoLab.Datasets.Leakage
import StegoLab.Datasets.Validation

/-!
# Reuse of revisions

A preparation first looks for a published revision of the same inputs, and imports the source
only when there is none.
-/

namespace StegoLab

open CanonicalJson

/-! ### Preparation -/

/-- The identity of a fetched source, for remote kinds. -/
def marker_provenance (request : DatasetPreparationRequest) (marker : Dict String) : Dict String :=
  if request.source_kind ∈ REMOTE_SOURCE_KINDS then
    marker.insert "training_intended" (lower_bool request.training_intended)
  else Dict.empty

/-- The provenance that a preparation records: encoder versions, the intended use and the source. -/
def preparation_provenance (encoders marker : Dict String) (request : DatasetPreparationRequest) :
    Dict String :=
  (encoders.insert "training_intended" (lower_bool request.training_intended)).update
    (marker_provenance request marker)

/-- The number of source entries that are not sidecars. -/
def discovered_images (inventory : DatasetInventory) : ℕ :=
  (inventory.files.filter fun item => item.kind ≠ .sidecar).length

/-- The arguments that a preparation passes to `write_manifest`. -/
def coverage_of (inventory : DatasetInventory) (provenance : Dict String) : Coverage :=
  { metadata_checksum := inventory.metadata.map (·.sha256)
    expected_images := inventory.metadata.map (·.rows.entries.length)
    discovered_images := some (discovered_images inventory)
    source_provenance := some provenance
    expected_by_split := some inventory.expected_by_split
    discovered_by_split := some inventory.discovered_by_split
    selected_by_split := inventory.metadata.map fun _ =>
      Dict.counter (inventory.selected.filterMap fun item =>
        (metadata_row inventory.metadata item.relative_path).map (·.upstream_split)) }

/-- Import the source and write its manifest. -/
def fresh_manifest (checksum : ByteArray → String) (library : SourceLibrary)
    (runtime provenance : Dict String) (request : DatasetPreparationRequest) (tree : SourceTree)
    (inventory : DatasetInventory) : Except Raised Written := do
  let (records, rejections) ← import_images library tree inventory
  write_manifest checksum runtime request records rejections (coverage_of inventory provenance)

/-- The directory of a written manifest and its prepared images. -/
def Written.revision (written : Written) : Revision :=
  { name := written.manifest.revision
    manifest := written.manifest
    records := written.records
    rejections := written.rejections
    images := (written.records.map fun record => (record.prepared_path, signature record)).dedup }

/-- A revision that some preparation wrote, validated and published. -/
def Published (checksum : ByteArray → String) (library : SourceLibrary) (revision : Revision) :
    Prop :=
  ∃ (runtime encoders marker : Dict String) (request : DatasetPreparationRequest)
    (tree : SourceTree) (inventory : DatasetInventory) (written : Written)
    (summary : DatasetSummary),
    inventory_dataset library tree request = .ok inventory ∧
    fresh_manifest checksum library runtime (preparation_provenance encoders marker request) request
      tree inventory = .ok written ∧
    validate_dataset checksum written.revision false = .ok summary ∧
    revision = written.revision

/-! ### Candidates -/

/-- What a directory of revisions may hold. -/
inductive DirectoryEntry where
  | revision (revision : Revision)
  | unrecognized

/-- Bound candidate discovery and refuse symlinks or unrecognized entries. -/
def revision_directories (entries : List DirectoryEntry) : Except Raised (List Revision) := do
  raise_if (entries.length > 200000) .value_error
  let candidates ← entries.mapM fun entry =>
    match entry with
    | .revision revision => Except.ok revision
    | .unrecognized => .error .value_error
  return sorted_by Revision.name candidates

/-- Match every frozen setting and current source-coverage declaration. -/
def same_request (manifest : DatasetManifest) (request : DatasetPreparationRequest)
    (inventory : DatasetInventory) (provenance : Dict String) : Bool :=
  let recorded := (Dict.empty.insert "training_intended" "true").update manifest.source_provenance
  decide (manifest.dataset_name = request.dataset_name) &&
    decide (manifest.policy_version = request.policy_version) &&
    decide (manifest.source_kind = request.source_kind) &&
    decide (manifest.seed = request.seed) &&
    decide (manifest.selection_name = request.selection_name) &&
    decide (manifest.selection = request.selection.map fun paths => paths.insertionSort (· ≤ ·)) &&
    decide (manifest.source_url = request.source_url) &&
    decide (manifest.terms_reference = request.terms_reference) &&
    decide (recorded = provenance) &&
    decide (manifest.metadata_checksum = inventory.metadata.map (·.sha256)) &&
    decide (manifest.expected_images = inventory.metadata.map (·.rows.entries.length)) &&
    decide (manifest.expected_by_split = inventory.expected_by_split) &&
    decide (manifest.discovered_images = discovered_images inventory) &&
    (inventory.metadata.isNone ||
      decide (manifest.discovered_by_split = inventory.discovered_by_split)) &&
    decide (manifest.selected_images = inventory.selected.length)

/-- Sizes and digests of the recorded files; none when a rejection has no digest. -/
def stored_contents (records : List DatasetImageRecord) (rejections : List DatasetRejection) :
    Option (Dict (ℕ × Option String)) :=
  if rejections.any fun rejection => rejection.source_checksum.isNone then none
  else some (Dict.of_items
    (records.map (fun record => (record.source_path, record.source_bytes, some record.source_checksum))
      ++ rejections.map fun rejection =>
        (rejection.source_path, rejection.source_bytes, rejection.source_checksum)))

/-- Sizes and digests of the selected files. -/
def current_contents (inventory : DatasetInventory) : Dict (ℕ × Option String) :=
  Dict.of_items (inventory.selected.map fun item =>
    (item.relative_path, item.size_bytes, inventory.source_checksums.get? item.relative_path))

/-- The first candidate of the same inputs, once it validates. -/
def find_candidate (checksum : ByteArray → String) (request : DatasetPreparationRequest)
    (inventory : DatasetInventory) (provenance : Dict String) :
    List Revision → Except Raised (Option DatasetSummary)
  | [] => .ok none
  | candidate :: candidates => do
    let manifest ← load_manifest checksum candidate
    raise_if (manifest.revision ≠ candidate.name) .value_error
    if ¬ same_request manifest request inventory provenance then
      find_candidate checksum request inventory provenance candidates
    else
      let (_, records) ← validated_records checksum candidate true
      let digest ← write_records checksum DatasetRejection.model_dump candidate.rejections
      raise_if (digest ≠ manifest.rejections_checksum) .value_error
      if stored_contents records candidate.rejections = some (current_contents inventory) then
        let summary ← validate_dataset checksum candidate true
        return some { summary with reused := true }
      else find_candidate checksum request inventory provenance candidates

/-- Verify exact inputs before reusing an existing completed dataset revision. The directory is
none when it does not exist. -/
def find_reusable_dataset (checksum : ByteArray → String) (directory : Option (List DirectoryEntry))
    (request : DatasetPreparationRequest) (inventory : DatasetInventory)
    (provenance : Dict String) : Except Raised (Option DatasetSummary) :=
  match directory with
  | none => .ok none
  | some entries =>
    integrity_checked do
      let candidates ← revision_directories entries
      find_candidate checksum request inventory provenance candidates

end StegoLab

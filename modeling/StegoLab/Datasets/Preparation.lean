import StegoLab.Datasets.Reuse

/-!
# Preparation of a stage

A preparation imports the selected images into the `images` directory of its stage, writes the
manifest and the record files next to it, and validates the stage before it is published.
-/

namespace StegoLab

/-! ### Contracts -/

/-- The pattern of a SHA-256 digest in hexadecimal. -/
def is_sha256 (digest : String) : Bool :=
  decide (digest.length = 64) &&
    digest.toList.all fun c => decide (('a' ≤ c ∧ c ≤ 'f') ∨ ('0' ≤ c ∧ c ≤ '9'))

/-- `relative_path`: reject paths whose spelling can escape or alias another dataset entry. -/
def relative_path (path : String) : Bool :=
  decide (path ≠ "" ∧ path.length ≤ 4096 ∧ path.toList.head? ≠ some '/') &&
    (path_components path).all (fun part => decide (part ≠ "" ∧ part ≠ "." ∧ part ≠ "..")) &&
    path.toList.all fun c => decide (c ≠ '\x5c' ∧ c ≠ ':' ∧ 32 ≤ c.toNat ∧ c.toNat ≠ 127)

/-- The validation of a request: a selection has a name and paths, and the label mapping suits the
source kind. -/
def validate_request (request : DatasetPreparationRequest) : Except Raised Unit := do
  raise_if (request.source_kind = .uhd_iqa ∧ request.metadata_file = none) .value_error
  raise_if (request.selection.isNone ≠ request.selection_name.isNone) .value_error
  raise_if (request.selection.any fun selection =>
    selection.isEmpty || decide (¬ selection.Nodup)) .value_error
  raise_if (request.split_mapping.any fun mapping =>
    mapping.entries.any fun entry => !counter_name entry.1) .value_error
  raise_if (request.source_kind = .uhd_iqa ∧ request.split_mapping ≠ none ∧
    request.split_mapping ≠ some SPLIT_MAPPING) .value_error
  raise_if (request.source_kind = .local_files ∧
    (request.split_mapping.any (fun mapping => !mapping.entries.isEmpty) ∨
      request.metadata_file ≠ none)) .value_error

/-- `validate_image_policy`: the provenance does not contradict the frozen image policy. -/
def DatasetImageRecord.follows_policy (record : DatasetImageRecord) : Bool :=
  let expected_size :=
    if record.orientation ∈ [5, 6, 7, 8] then (record.source_height, record.source_width)
    else (record.source_width, record.source_height)
  decide (max (record.width * record.height) (record.source_width * record.source_height)
      ≤ 32000000) &&
    decide ((record.width, record.height) = expected_size) &&
    decide (record.eligible = (256 ≤ record.width && 256 ≤ record.height)) &&
    decide (record.grayscale_converted = decide (record.source_mode = "L")) &&
    decide (record.mode = if record.source_mode = "RGBA" then "RGBA" else "RGB") &&
    decide (¬ (record.source_format = "JPEG" ∧ record.source_mode = "RGBA"))

/-- What the contract of image records accepts. -/
def DatasetImageRecord.valid (record : DatasetImageRecord) : Bool :=
  [some record.source_path, some record.prepared_path, record.representative_source_path].all
      (fun path => path.all relative_path) &&
    record.source_identity.all (fun identity => decide (1 ≤ identity.length ∧ identity.length ≤ 4096))
    && record.upstream_split.all counter_name
    && record.subset.all (fun subset => decide (subset.length ≤ 4096))
    && [record.duplicate_group, record.split_group].all
      (fun group => decide (group = "") || is_sha256 group)
    && [record.source_checksum, record.prepared_checksum, record.rgb_checksum].all is_sha256
    && decide (1 ≤ record.source_bytes ∧ record.source_bytes ≤ MAXIMUM_FILE_BYTES)
    && decide (1 ≤ record.prepared_bytes ∧ record.prepared_bytes ≤ 128 * 1024 ^ 2)
    && [record.source_width, record.source_height, record.width, record.height].all
      (fun side => decide (1 ≤ side ∧ side ≤ 8192))
    && decide (record.source_format ∈ ["JPEG", "PNG"])
    && decide (record.source_mode ∈ ["L", "RGB", "RGBA"])
    && decide (record.mode ∈ ["RGB", "RGBA"])
    && decide (1 ≤ record.orientation ∧ record.orientation ≤ 8)
    && decide (record.color_policy ∈ ["icc_to_srgb", "declared_srgb", "assumed_srgb"])
    && record.follows_policy

/-- What the contract of rejections accepts. -/
def DatasetRejection.valid (rejection : DatasetRejection) : Bool :=
  relative_path rejection.source_path
    && rejection.source_checksum.all is_sha256
    && rejection.upstream_split.all counter_name
    && counter_name rejection.reason
    && decide (rejection.source_bytes ≤ MAXIMUM_DATASET_BYTES)

/-! ### Prepared files -/

def image_write : ApplicationFailure :=
  { code := "image_write"
    message :=
      "The prepared image could not be saved. Choose a new output file and check directory access and free space, then retry."
    status_code := 422 }

def image_invalid : ApplicationFailure :=
  { code := "image_invalid"
    message :=
      "The image is invalid or unsupported. Convert it to a single-frame, eight-bit RGB JPEG or RGB/RGBA PNG, then retry."
    status_code := 422 }

/-- What the file system does to one call of `prepare_dataset_image`. -/
structure ImageFaults where
  /-- The output cannot be written. -/
  unwritable : Bool := false
  /-- The temporary output that could not be removed: the random part of its name, its content. -/
  temporary : Option (String × PreparedFile) := none
  /-- The published output cannot be read back. -/
  unreadable : Bool := false

/-- The file of prepared pixels. -/
def PreparedImage.file (image : PreparedImage) : PreparedFile where
  prepared_checksum := image.prepared_checksum
  prepared_bytes := image.prepared_bytes
  width := image.width
  height := image.height
  mode := image.mode
  rgb_checksum := image.rgb_checksum

/-- The name that `mkstemp` gives the temporary output. -/
def temporary_path (random : String) : String :=
  "images/.stegolab-image-" ++ random ++ ".png"

/-- `images/{checksum}.png`. -/
def prepared_path (digest : String) : String :=
  "images/" ++ digest ++ ".png"

/-- A directory of images: relative paths and files. -/
abbrev ImageDirectory := List (String × PreparedFile)

/-- The temporary output that a call leaves behind. -/
def leave_temporary (faults : ImageFaults) (images : ImageDirectory) : ImageDirectory :=
  match faults.temporary with
  | none => images
  | some (random, file) => (temporary_path random, file) :: images

/-- Prepare one content: decode it, save and link the output without overwriting, read it back. -/
def prepare_dataset_image (library : SourceLibrary) (faults : ImageFaults) (digest : String)
    (images : ImageDirectory) : Except ApplicationFailure PreparedImage × ImageDirectory :=
  let images := leave_temporary faults images
  match library.prepare_image digest with
  | .error failure => (.error failure, images)
  | .ok image =>
    if faults.unwritable ∨ prepared_path digest ∈ images.map Prod.fst then
      (.error image_write, images)
    else
      let images := (prepared_path digest, image.file) :: images
      if faults.unreadable then (.error image_invalid, images) else (.ok image, images)

/-! ### Import -/

/-- What an import has collected and written. -/
structure StagedImport where
  records : List DatasetImageRecord := []
  rejections : List DatasetRejection := []
  cached : String → Option PreparedImage := fun _ => none
  images : ImageDirectory := []

/-- `image = cached[checksum]`, prepared when it is not there. -/
def cached_image (library : SourceLibrary) (faults : ImageFaults) (digest : String)
    (staged : StagedImport) : Except ApplicationFailure PreparedImage × StagedImport :=
  match staged.cached digest with
  | some image => (.ok image, staged)
  | none =>
    match prepare_dataset_image library faults digest staged.images with
    | (.error failure, images) => (.error failure, { staged with images := images })
    | (.ok image, images) =>
      (.ok image,
        { staged with
          images := images
          cached := Function.update staged.cached digest (some image) })

/-- Prepare one entry into the stage, unless the inventory rejected it. -/
def stage_item (library : SourceLibrary) (tree : SourceTree) (inventory : DatasetInventory)
    (faults : String → ImageFaults) (staged : StagedImport) (item : SourceFile) :
    Except Raised StagedImport :=
  if item.relative_path ∈ inventory.rejections.map (·.source_path) then .ok staged
  else
    match cached_image library (faults item.relative_path) (tree.digest item.relative_path)
        staged with
    | (.ok image, staged) => do
      let record := record_of tree inventory.metadata item image
      raise_if (¬ record.valid) .value_error
      return { staged with records := staged.records ++ [record] }
    | (.error failure, staged) =>
      if failure.code ∈ ["image_invalid", "image_color", "image_limits"] then do
        let rejection := rejection_of tree inventory.metadata item failure.code
        raise_if (¬ rejection.valid) .value_error
        return { staged with rejections := staged.rejections ++ [rejection] }
      else fail failure

/-- `import_images` with the files that it leaves in the stage. -/
def stage_images (library : SourceLibrary) (tree : SourceTree) (inventory : DatasetInventory)
    (faults : String → ImageFaults) : Except Raised StagedImport :=
  inventory.selected.foldlM (stage_item library tree inventory faults)
    { rejections := inventory.rejections }

/-- The part of `prepare_dataset` that fills the stage. -/
def prepare_stage (checksum : ByteArray → String) (library : SourceLibrary)
    (faults : String → ImageFaults) (runtime encoders marker : Dict String) (tree : SourceTree)
    (request : DatasetPreparationRequest) : Except Raised (StagedImport × Written) := do
  validate_request request
  let inventory ← inventory_dataset library tree request
  raise_if (¬ inventory.rejections.all DatasetRejection.valid) .value_error
  let staged ← stage_images library tree inventory faults
  let written ← write_manifest checksum runtime request staged.records staged.rejections
    (coverage_of inventory (preparation_provenance encoders marker request))
  return (staged, written)

/-- The directory of a stage, or of the revision that it is published as. -/
def stage_directory (name : String) (staged : StagedImport) (written : Written) : Revision where
  name := name
  manifest := written.manifest
  records := written.records
  rejections := written.rejections
  images := staged.images

/-! ### Validation -/

/-- `validated_records` with its reads: the manifest is bounded, and every record is validated by
its contract when its line is parsed. -/
def read_validated_records (checksum : ByteArray → String) (revision : Revision)
    (require_revision_name : Bool) : Except Raised (DatasetManifest × List DatasetImageRecord) := do
  raise_if (revision.manifest.content.size > MAXIMUM_METADATA_BYTES) .value_error
  raise_if (¬ revision.records.all DatasetImageRecord.valid) .value_error
  raise_if (¬ revision.rejections.all DatasetRejection.valid) .value_error
  validated_records checksum revision require_revision_name

end StegoLab

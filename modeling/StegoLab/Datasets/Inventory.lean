import Mathlib.Data.Finset.Dedup
import StegoLab.Datasets.Records

/-!
# Source inventories and image import

An inventory lists the selected files of a source directory with their digests and declared
metadata. The file contents themselves are represented by their SHA-256 digests, and the image
and CSV libraries are functions of a content.
-/

namespace StegoLab

/-! ### Requests -/

/-- A source, a policy and an optional named subset. -/
structure DatasetPreparationRequest where
  dataset_name : String := "uhd_iqa"
  source_directory : String
  metadata_file : Option String
  output_root : String := "datasets"
  source_kind : SourceKind
  policy_version : String := "dataset_v1"
  seed : ℕ := 0
  selection_name : Option String := none
  selection : Option (List String) := none
  source_url : String
  terms_reference : String
  training_intended : Bool := true
  split_mapping : Option (Dict DatasetSplit) := none

/-- `str(flag).lower()`. -/
def lower_bool (flag : Bool) : String :=
  if flag then "true" else "false"

/-- `mapping or default`: an empty mapping counts as missing. -/
def or_default {α : Type} (mapping : Option (Dict α)) (default : Dict α) : Dict α :=
  match mapping with
  | none => default
  | some mapping => if mapping.entries = [] then default else mapping

/-! ### Failures -/

def dataset_access : ApplicationFailure :=
  { code := "dataset_access"
    message := "Dataset files could not be accessed safely. Check access and paths."
    status_code := 400 }

def dataset_metadata : ApplicationFailure :=
  { code := "dataset_metadata"
    message :=
      "The source metadata file is missing, ambiguous, or invalid. Check the image names, splits, and identities."
    status_code := 400 }

def dataset_no_candidates : ApplicationFailure :=
  { code := "dataset_empty"
    message := "The selected source has no image candidates. Add JPEG or PNG files."
    status_code := 400 }

/-! ### Paths -/

def path_components (path : String) : List String :=
  (path.toList.splitOn '/').map String.ofList

/-- `Path(path).name`. -/
def path_name (path : String) : String :=
  ((path_components path).getLast?).getD ""

/-- `PurePosixPath(path).parts`. -/
def posix_parts (path : String) : List String :=
  let components := path_components path
  let root :=
    match components with
    | "" :: "" :: "" :: _ => ["/"]
    | "" :: "" :: _ :: _ => ["//"]
    | "" :: _ :: _ => ["/"]
    | _ => []
  root ++ components.filter fun part => part ≠ "" ∧ part ≠ "."

/-- Accept only ordinary relative POSIX paths without ambiguous components. -/
def relative_parts (path : String) : Option (List String) :=
  let parts := posix_parts path
  if parts = [] ∨ path ≠ String.intercalate "/" parts ∨
      parts.any (fun part => part = "" ∨ part = "." ∨ part = "..") ∨
      path.toList.any (fun c => c = '\x5c' ∨ c = ':') ∨ path.length > 4096 ∨
      path.toList.any (fun c => c.toNat < 32 ∨ c.toNat = 127) ∨ path.toList.head? = some '/' then
    none
  else some parts

/-! ### Scanned files -/

inductive FileKind where
  | sidecar
  | image
  | unsupported
  deriving DecidableEq, Repr

/-- One discovered source entry. -/
structure SourceFile where
  relative_path : String
  size_bytes : ℕ
  kind : FileKind
  rejection_reason : Option String
  deriving DecidableEq

def MAXIMUM_FILE_BYTES : ℕ := 50 * 1024 ^ 2

/-- `Path(name).suffix.lower()`. -/
def lower_suffix (name : String) : String :=
  let reversed := name.toList.reverse
  let extension_chars := reversed.takeWhile (· ≠ '.')
  let stem := reversed.dropWhile (· ≠ '.')
  if extension_chars = [] ∨ stem.length ≤ 1 then ""
  else String.ofList ('.' :: (extension_chars.reverse.map Char.toLower))

/-- The entry of one regular file. -/
def scan_file (relative_path : String) (size : ℕ) : SourceFile :=
  let name := path_name relative_path
  let suffix := lower_suffix name
  let is_sidecar := name.toList.head? = some '.' ∨ "__MACOSX" ∈ path_components relative_path ∨
    suffix = ".csv" ∨ suffix = ".tags"
  let supported := suffix = ".png" ∨ suffix = ".jpg" ∨ suffix = ".jpeg"
  { relative_path := relative_path
    size_bytes := size
    kind := if is_sidecar then .sidecar else if supported then .image else .unsupported
    rejection_reason :=
      if size > MAXIMUM_FILE_BYTES then some "file_size_limit"
      else if is_sidecar ∨ supported then none
      else some "unsupported_file_type" }

/-- The regular files of a source directory: path, size and SHA-256 digest of the content. -/
structure SourceTree where
  files : List (String × ℕ × String)
  nodup_paths : (files.map Prod.fst).Nodup

/-- Deterministic discovery of the files, in path order. -/
def scan_source (tree : SourceTree) : List SourceFile :=
  sorted_by SourceFile.relative_path (tree.files.map fun file => scan_file file.1 file.2.1)

/-- The digest of the content at a path. -/
def SourceTree.digest (tree : SourceTree) (path : String) : String :=
  ((tree.files.lookup path).map Prod.snd).getD ""

/-! ### Library functions -/

/-- The prepared pixels of one content. -/
structure PreparedImage where
  source_format : String
  source_mode : String
  source_width : ℕ
  source_height : ℕ
  width : ℕ
  height : ℕ
  mode : String
  orientation : ℕ
  color_policy : String
  grayscale_converted : Bool
  eligible : Bool
  prepared_checksum : String
  rgb_checksum : String
  prepared_bytes : ℕ

/-- One row of a metadata table. -/
structure RawRow where
  image_name : String
  set : String
  subset : String
  identity : Option String

/-- Image decoding and CSV parsing, as functions of the digest of a content. -/
structure SourceLibrary where
  /-- The failure of `inspect_dataset_header`, if any. -/
  inspect_header : String → Option ApplicationFailure
  /-- The image of `prepare_dataset_image`, or its failure. -/
  prepare_image : String → Except ApplicationFailure PreparedImage
  /-- The rows of a well-formed metadata table. -/
  read_csv : String → Option (List RawRow)

/-! ### Metadata -/

structure UhdMetadataRow where
  image_name : String
  upstream_split : String
  subset : String
  assigned_split : DatasetSplit
  upstream_identity : String

structure UhdMetadata where
  rows : Dict UhdMetadataRow
  sha256 : String

/-- Add one checked row of the table. -/
def read_row (split_mapping : Dict DatasetSplit) ( identity_prefix : String)
    (rows : Dict UhdMetadataRow) (raw : RawRow) : Except Raised (Dict UhdMetadataRow) :=
  let identity := raw.identity.filter (· ≠ "")
  if raw.image_name.length > 255 ∨ raw.subset.length > 255 then fail dataset_metadata
  else
    match relative_parts raw.image_name with
    | none => fail dataset_access
    | some parts =>
      if parts.length ≠ 1 ∨ (rows.get? raw.image_name).isSome ∨ rows.entries.length ≥ 200000 ∨
          (identity.any fun value => value.length > 4096) then
        fail dataset_metadata
      else
        match split_mapping.get? raw.set with
        | none => fail dataset_metadata
        | some split =>
          .ok (rows.insert raw.image_name
            { image_name := raw.image_name
              upstream_split := raw.set
              subset := raw.subset
              assigned_split := split
              upstream_identity := identity.getD ( identity_prefix ++ ":" ++ raw.image_name) })

/-- Validate complete CSV metadata before joining exact image basenames. -/
def read_uhd_metadata (library : SourceLibrary) (tree : SourceTree) (metadata_file : String)
    (files : List SourceFile) (split_mapping : Dict DatasetSplit) ( identity_prefix : String) :
    Except Raised UhdMetadata := do
  raise_if ((relative_parts metadata_file).isNone) (.application dataset_access)
  raise_if ((files.filter fun file => file.relative_path = metadata_file).length ≠ 1)
    (.application dataset_metadata)
  let sha256 := tree.digest metadata_file
  match library.read_csv sha256 with
  | none => fail dataset_metadata
  | some raw =>
    let rows ← raw.foldlM (read_row split_mapping identity_prefix) Dict.empty
    raise_if (rows.entries = []) (.application dataset_metadata)
    return { rows := rows, sha256 := sha256 }

/-! ### Inventories -/

/-- The selected source entries with their digests and declared metadata. -/
structure DatasetInventory where
  files : List SourceFile
  metadata : Option UhdMetadata
  selected : List SourceFile
  rejections : List DatasetRejection
  expected_by_split : Dict ℕ
  discovered_by_split : Dict ℕ
  source_checksums : Dict String

/-- The row of the image at a path. -/
def metadata_row (metadata : Option UhdMetadata) (path : String) : Option UhdMetadataRow :=
  metadata.bind fun metadata => metadata.rows.get? (path_name path)

/-- Refuse an image without its row, or in a folder of another split. -/
def check_declared (metadata : Option UhdMetadata) (expected : Dict ℕ) (item : SourceFile) :
    Except Raised Unit :=
  if metadata.isSome ∧ item.kind = .image then
    match metadata_row metadata item.relative_path with
    | none => fail dataset_metadata
    | some row =>
      if (posix_parts item.relative_path).dropLast.any fun part =>
          (expected.get? part).isSome ∧ part ≠ row.upstream_split then
        fail dataset_metadata
      else .ok ()
  else .ok ()

/-- Why a selected entry is rejected before it is decoded. -/
def inspect_item (library : SourceLibrary) (tree : SourceTree) (item : SourceFile) :
    Except Raised (Option String) :=
  match item.rejection_reason with
  | some reason => .ok (some reason)
  | none =>
    match library.inspect_header (tree.digest item.relative_path) with
    | some failure =>
      if failure.code = "image_resources" then fail failure else .ok (some failure.code)
    | none => .ok none

/-- The rejection of an entry. -/
def rejection_of (tree : SourceTree) (metadata : Option UhdMetadata) (item : SourceFile)
    (reason : String) : DatasetRejection :=
  { source_path := item.relative_path
    source_bytes := item.size_bytes
    reason := reason
    upstream_split := (metadata_row metadata item.relative_path).map (·.upstream_split)
    source_checksum := some (tree.digest item.relative_path) }

/-- The number of declared images of every label. -/
def expected_counts : Option UhdMetadata → Dict ℕ
  | none => Dict.empty
  | some metadata => Dict.counter (metadata.rows.entries.map fun row => row.2.upstream_split)

/-- The number of discovered images of every label. -/
def discovered_counts (metadata : Option UhdMetadata) (names : List String) : Dict ℕ :=
  match metadata with
  | none => Dict.empty
  | some metadata =>
    Dict.counter (names.filterMap fun name => (metadata.rows.get? name).map (·.upstream_split))

/-- Check a selected entry, and reject it or keep it. -/
def check_item (library : SourceLibrary) (tree : SourceTree) (metadata : Option UhdMetadata)
    (item : SourceFile) : Except Raised (Option DatasetRejection) := do
  check_declared metadata (expected_counts metadata) item
  let reason ← inspect_item library tree item
  return reason.map (rejection_of tree metadata item)

/-- The metadata of the source: its names are exactly the images, unless a subset is selected. -/
def declared_metadata (library : SourceLibrary) (tree : SourceTree)
    (request : DatasetPreparationRequest) (files : List SourceFile) (names : List String) :
    Except Raised (Option UhdMetadata) :=
  match request.metadata_file with
  | none => .ok none
  | some metadata_file => do
    let metadata ← read_uhd_metadata library tree metadata_file files
      (or_default request.split_mapping SPLIT_MAPPING) request.source_kind.label
    raise_if (¬ names.Nodup) (.application dataset_metadata)
    raise_if (request.selection.isNone ∧
      names.toFinset ≠ (metadata.rows.entries.map Prod.fst).toFinset) (.application dataset_metadata)
    return some metadata

/-- The candidates of the named subset. -/
def select_candidates (request : DatasetPreparationRequest) (candidates : List SourceFile) :
    Except Raised (List SourceFile) :=
  match request.selection with
  | none => .ok candidates
  | some selection => do
    raise_if (¬ ∀ path ∈ selection, path ∈ candidates.map (·.relative_path))
      (.application dataset_metadata)
    return candidates.filter fun item => item.relative_path ∈ selection

/-- Check identities and source limits before allocating prepared pixels. -/
def inventory_dataset (library : SourceLibrary) (tree : SourceTree)
    (request : DatasetPreparationRequest) : Except Raised DatasetInventory := do
  let files := scan_source tree
  let candidates := files.filter fun item => item.kind ≠ .sidecar
  let image_files := candidates.filter fun item => item.kind = .image
  let names := image_files.map fun item => path_name item.relative_path
  let metadata ← declared_metadata library tree request files names
  let candidates ← select_candidates request candidates
  raise_if (candidates = []) (.application dataset_no_candidates)
  let rejections ← candidates.filterMapM (check_item library tree metadata)
  return {
    files := files
    metadata := metadata
    selected := candidates
    rejections := rejections
    expected_by_split := expected_counts metadata
    discovered_by_split := discovered_counts metadata names
    source_checksums := Dict.of_items (candidates.map fun item =>
      (item.relative_path, tree.digest item.relative_path)) }

/-! ### Import -/

/-- The record of one prepared image. -/
def record_of (tree : SourceTree) (metadata : Option UhdMetadata) (item : SourceFile)
    (image : PreparedImage) : DatasetImageRecord :=
  let row := metadata_row metadata item.relative_path
  { source_path := item.relative_path
    prepared_path := "images/" ++ tree.digest item.relative_path ++ ".png"
    source_identity := row.map (·.upstream_identity)
    upstream_split := row.map (·.upstream_split)
    subset := row.map (·.subset)
    source_checksum := tree.digest item.relative_path
    prepared_checksum := image.prepared_checksum
    rgb_checksum := image.rgb_checksum
    source_bytes := item.size_bytes
    prepared_bytes := image.prepared_bytes
    source_width := image.source_width
    source_height := image.source_height
    width := image.width
    height := image.height
    source_format := image.source_format
    source_mode := image.source_mode
    mode := image.mode
    orientation := image.orientation
    color_policy := image.color_policy
    grayscale_converted := image.grayscale_converted
    eligible := image.eligible }

/-- Prepare one entry, unless the inventory rejected it. -/
def import_item (library : SourceLibrary) (tree : SourceTree) (inventory : DatasetInventory)
    (outcome : List DatasetImageRecord × List DatasetRejection) (item : SourceFile) :
    Except Raised (List DatasetImageRecord × List DatasetRejection) :=
  if item.relative_path ∈ inventory.rejections.map (·.source_path) then .ok outcome
  else
    match library.prepare_image (tree.digest item.relative_path) with
    | .ok image => .ok (outcome.1 ++ [record_of tree inventory.metadata item image], outcome.2)
    | .error failure =>
      if failure.code ∈ ["image_invalid", "image_color", "image_limits"] then
        .ok (outcome.1, outcome.2 ++ [rejection_of tree inventory.metadata item failure.code])
      else fail failure

/-- Prepare one image at a time and preserve its upstream provenance. -/
def import_images (library : SourceLibrary) (tree : SourceTree) (inventory : DatasetInventory) :
    Except Raised (List DatasetImageRecord × List DatasetRejection) :=
  inventory.selected.foldlM (import_item library tree inventory) ([], inventory.rejections)

end StegoLab

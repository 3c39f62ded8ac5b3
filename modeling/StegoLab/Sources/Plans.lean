import StegoLab.Library.Text
import StegoLab.Sources.Specifications

/-!
# Plans

Planned assets, resolved sources, and the identities that make fetches reusable.
-/

namespace StegoLab

open CanonicalJson

def MEMBER_POLICY_VERSION : ℕ := 1
def MAXIMUM_LABEL_LENGTH : ℕ := 64

inductive SourceAccess where
  | available
  | access_required
  | not_found
  | unsupported
  deriving DecidableEq, Repr

/-- One file that a fetch downloads, imports from an upload, or reuses from the cache. -/
structure PlannedAsset where
  url : Option String
  path : String
  expected_size : Option ℕ
  expected_sha256 : Option String
  etag : Option String
  resumable : Bool
  authorization_host : Option String
  local_file : Option String := none
  deriving DecidableEq

/-- The last segment of the asset path. -/
def PlannedAsset.basename (asset : PlannedAsset) : String :=
  Text.last '/' asset.path

/-- What an adapter learned about a source before any bytes are fetched. -/
structure ResolvedSource where
  source_kind : SourceKind
  reference : String
  requested_revision : Option String
  resolved_revision : String
  access : SourceAccess
  access_guidance : Option String
  content : SourceContent
  assets : List PlannedAsset
  supports_pause : Bool
  declared_splits : Bool
  split_mapping : Dict DatasetSplit
  member_split_labels : Dict String
  warnings : List String
  terms_reference : String
  text_column : Option String := none
  image_column : Option String := none
  deriving DecidableEq

/-- A resolved source bound to a raw folder name and its limits. -/
structure MaterializationPlan where
  resolved : ResolvedSource
  source_name : String
  identity : String
  maximum_images : ℕ
  training_intended : Bool
  deriving DecidableEq

/-! ### Identities -/

/-- The fields that the identity of an asset is the digest of. -/
def asset_fields (kind : SourceKind) (reference revision path : String)
    (expected_sha256 : Option String) : Json :=
  dict
    [("source_kind", .str kind.label),
      ("reference", .str reference),
      ("revision", .str revision),
      ("path", .str path),
      ("expected_sha256", optional_str expected_sha256)]

/-- `asset_identity`: name one cached file by everything that pins its content. -/
def asset_identity (checksum : ByteArray → String) (kind : SourceKind)
    (reference revision path : String) (expected_sha256 : Option String) : String :=
  checksum (canonical_json (asset_fields kind reference revision path expected_sha256))

def DatasetSourceSpec.base : DatasetSourceSpec → SourceSpecificationBase
  | .hugging_face source => source.toSourceSpecificationBase
  | .https_archive source => source.toSourceSpecificationBase
  | .upload source => source.toSourceSpecificationBase

def DatasetSourceSpec.source_kind : DatasetSourceSpec → SourceKind
  | .hugging_face _ => .hugging_face
  | .https_archive _ => .https_archive
  | .upload _ => .upload

def archive_splits_json (archive_splits : Option (Dict DatasetSplit)) : Json :=
  match archive_splits with
  | none => .null
  | some splits => split_dict splits

/-- `selection_fields`: the fields that choose which files and labels are kept. -/
def selection_fields : DatasetSourceSpec → Json
  | .hugging_face source =>
    dict
      [("content", .str source.content.label),
        ("path_prefix", optional_str source.path_prefix),
        ("file_names", match source.file_names with
          | none => .null
          | some names => .arr (names.map .str)),
        ("split", optional_str (source.split.map UpstreamSplit.label)),
        ("image_column", optional_str source.image_column),
        ("text_column", optional_str source.text_column),
        ("maximum_files", .num source.maximum_files),
        ("archive_splits", archive_splits_json source.archive_splits)]
  | .https_archive source =>
    dict
      [("archive_splits", archive_splits_json source.archive_splits),
        ("expected_sha256", optional_str source.expected_sha256)]
  | .upload source =>
    dict [("archive_splits", archive_splits_json source.archive_splits)]

/-- The fields that the identity of a raw folder is the digest of. -/
def materialization_fields (spec : DatasetSourceSpec) (resolved : ResolvedSource)
    (maximum_images : ℕ) : Json :=
  dict
    [("source_kind", .str resolved.source_kind.label),
      ("reference", .str resolved.reference),
      ("revision", .str resolved.resolved_revision),
      ("selection", selection_fields spec),
      ("maximum_images", .num maximum_images),
      ("member_policy_version", .num MEMBER_POLICY_VERSION)]

/-- `materialization_identity`. -/
def materialization_identity (checksum : ByteArray → String) (spec : DatasetSourceSpec)
    (resolved : ResolvedSource) (maximum_images : ℕ) : String :=
  checksum (canonical_json (materialization_fields spec resolved maximum_images))

/-! ### Split labels -/

def plan_messages : String → String
  | _ => "Two split folders map to the same label after their names are "
    ++ "simplified. Rename one of them so every label is distinct."

def plan_failure (code : String) : ApplicationFailure where
  code := code
  message := plan_messages code
  status_code := 422

/-- What one character of a name becomes in its label: `str.lower`, and an underscore for
everything else. Outside ASCII only the Kelvin sign and the dotted capital I have ASCII letters in
their lower case. -/
def label_characters (c : Char) : List Char :=
  if ('a' ≤ c ∧ c ≤ 'z') ∨ ('0' ≤ c ∧ c ≤ '9') ∨ c = '_' then [c]
  else if 'A' ≤ c ∧ c ≤ 'Z' then [c.toLower]
  else if c.toNat = 0x212a then ['k']
  else if c.toNat = 0x130 then ['i', '_']
  else ['_']

/-- `upstream_label`: turn a folder or archive name into a safe counter key. -/
def upstream_label (folder_or_archive_name : String) : String :=
  let simplified := folder_or_archive_name.toList.flatMap label_characters
  let labelled :=
    match simplified with
    | [] => "label_".toList
    | first :: _ => if first.isAlpha then simplified else "label_".toList ++ simplified
  String.ofList (labelled.take MAXIMUM_LABEL_LENGTH)

/-- One folder of the request in the loop of `split_labels`. -/
def assign_label (labels : Dict DatasetSplit × Dict String) (item : String × DatasetSplit) :
    Except Raised (Dict DatasetSplit × Dict String) := do
  let label := upstream_label item.1
  raise_if ((labels.1.get? label).getD item.2 ≠ item.2)
    (.application (plan_failure "source_split_labels"))
  return (labels.1.insert label item.2, labels.2.insert item.1 label)

/-- `split_labels`: merge the split knowledge of the adapter with the mapping of the request. -/
def split_labels (spec : DatasetSourceSpec) (resolved : ResolvedSource) :
    Except Raised (Dict DatasetSplit × Dict String) :=
  ((spec.base.archive_splits.getD .empty).entries).foldlM assign_label
    (resolved.split_mapping, resolved.member_split_labels)

/-- `plan_for`: bind a resolved source to a folder name, applying the splits of the request. -/
def plan_for (checksum : ByteArray → String) (spec : DatasetSourceSpec) (resolved : ResolvedSource)
    (source_name : String) (maximum_images : ℕ) (training_intended : Bool) :
    Except Raised MaterializationPlan := do
  let (split_mapping, member_split_labels) ← split_labels spec resolved
  let planned := { resolved with
    split_mapping := split_mapping
    member_split_labels := member_split_labels
    declared_splits := !split_mapping.entries.isEmpty }
  return {
    resolved := planned
    source_name := source_name
    identity := materialization_identity checksum spec resolved maximum_images
    maximum_images := maximum_images
    training_intended := training_intended }

end StegoLab

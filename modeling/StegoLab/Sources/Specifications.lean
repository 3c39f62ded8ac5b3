import StegoLab.Datasets.Manifest

/-!
# Source specifications

Remote and uploaded dataset sources, as a request names them.
-/

namespace StegoLab

open CanonicalJson

inductive SourceContent where
  | images
  | text
  deriving DecidableEq, Repr

inductive UpstreamSplit where
  | train
  | validation
  | test
  deriving DecidableEq, Repr

def SourceContent.label : SourceContent → String
  | .images => "images"
  | .text => "text"

def UpstreamSplit.label : UpstreamSplit → String
  | .train => "train"
  | .validation => "validation"
  | .test => "test"

def MAXIMUM_DOWNLOAD_BYTES : ℕ := 100 * 1024 ^ 3
def DEFAULT_DOWNLOAD_BYTES : ℕ := 25 * 1024 ^ 3
def MAXIMUM_IMAGES : ℕ := 200000

/-- The fields shared by every source. -/
structure SourceSpecificationBase where
  archive_splits : Option (Dict DatasetSplit) := none
  maximum_download_bytes : ℕ := DEFAULT_DOWNLOAD_BYTES
  terms_reference : String

structure HuggingFaceSourceSpec extends SourceSpecificationBase where
  repository : String
  revision : String := "main"
  content : SourceContent := .images
  path_prefix : Option String := none
  file_names : Option (List String) := none
  split : Option UpstreamSplit := none
  image_column : Option String := none
  text_column : Option String := none
  maximum_files : ℕ := 200

structure HttpsArchiveSourceSpec extends SourceSpecificationBase where
  url : String
  expected_sha256 : Option String := none

structure UploadSourceSpec extends SourceSpecificationBase where
  upload_identifier : String

inductive DatasetSourceSpec where
  | hugging_face (source : HuggingFaceSourceSpec)
  | https_archive (source : HttpsArchiveSourceSpec)
  | upload (source : UploadSourceSpec)

/-! ### Serialization -/

def SourceSpecificationBase.fields (source : SourceSpecificationBase) : List (String × Json) :=
  [("archive_splits", match source.archive_splits with
      | none => .null
      | some splits => split_dict splits),
    ("maximum_download_bytes", .num source.maximum_download_bytes),
    ("terms_reference", .str source.terms_reference)]

/-- `source.model_dump(mode="json")`. -/
def DatasetSourceSpec.model_dump : DatasetSourceSpec → Json
  | .hugging_face source =>
    dict (source.fields ++
      [("source_kind", .str "hugging_face"),
        ("repository", .str source.repository),
        ("revision", .str source.revision),
        ("content", .str source.content.label),
        ("path_prefix", optional_str source.path_prefix),
        ("file_names", match source.file_names with
          | none => .null
          | some names => .arr (names.map .str)),
        ("split", optional_str (source.split.map UpstreamSplit.label)),
        ("image_column", optional_str source.image_column),
        ("text_column", optional_str source.text_column),
        ("maximum_files", .num source.maximum_files)])
  | .https_archive source =>
    dict (source.fields ++
      [("source_kind", .str "https_archive"),
        ("url", .str source.url),
        ("expected_sha256", optional_str source.expected_sha256)])
  | .upload source =>
    dict (source.fields ++
      [("source_kind", .str "upload"),
        ("upload_identifier", .str source.upload_identifier)])

end StegoLab

import StegoLab.Library.CanonicalJson
import StegoLab.Library.Dictionary
import StegoLab.Failures

/-!
# Dataset records

The records of a prepared dataset and their canonical serialization. `checksum` is SHA-256 of the
serialized bytes in hexadecimal; it is a parameter of the functions that use it.
-/

namespace StegoLab

open CanonicalJson

/-! ### Splits and sources -/

inductive DatasetSplit where
  | train
  | tuning
  | held_out
  deriving DecidableEq, Repr

inductive SourceKind where
  | uhd_iqa
  | local_files
  | hugging_face
  | https_archive
  | upload
  deriving DecidableEq, Repr

def DatasetSplit.label : DatasetSplit → String
  | .train => "train"
  | .tuning => "tuning"
  | .held_out => "held_out"

def SourceKind.label : SourceKind → String
  | .uhd_iqa => "uhd_iqa"
  | .local_files => "local"
  | .hugging_face => "hugging_face"
  | .https_archive => "https_archive"
  | .upload => "upload"

def DATASET_SPLITS : List DatasetSplit := [.train, .tuning, .held_out]

def REMOTE_SOURCE_KINDS : List SourceKind := [.hugging_face, .https_archive, .upload]

/-- The labels of UHD-IQA and the splits they stand for. -/
def SPLIT_MAPPING : Dict DatasetSplit :=
  Dict.of_items [("training", .train), ("validation", .tuning), ("test", .held_out)]

lemma DatasetSplit.label_injective : Function.Injective DatasetSplit.label := by
  intro split split' h
  cases split <;> cases split' <;> first | rfl | exact absurd h (by decide)

/-! ### Records -/

/-- The original bytes and the prepared pixels of one image, with its group and split. -/
structure DatasetImageRecord where
  source_path : String
  prepared_path : String
  source_identity : Option String := none
  upstream_split : Option String := none
  subset : Option String := none
  assigned_split : Option DatasetSplit := none
  duplicate_group : String := ""
  split_group : String := ""
  representative_source_path : Option String := none
  source_checksum : String
  prepared_checksum : String
  rgb_checksum : String
  source_bytes : ℕ
  prepared_bytes : ℕ
  source_width : ℕ
  source_height : ℕ
  width : ℕ
  height : ℕ
  source_format : String
  source_mode : String
  mode : String
  orientation : ℕ
  color_policy : String
  grayscale_converted : Bool
  eligible : Bool
  deriving DecidableEq

/-- A rejected candidate. -/
structure DatasetRejection where
  source_path : String
  source_checksum : Option String := none
  upstream_split : Option String := none
  reason : String
  source_bytes : ℕ := 0
  deriving DecidableEq

/-! ### Serialization -/

/-- The text of an optional field. -/
def optional_str : Option String → Json
  | none => .null
  | some value => .str value

def optional_num : Option ℕ → Json
  | none => .null
  | some value => .num value

/-- `record.model_dump(mode="json")`. -/
def DatasetImageRecord.model_dump (record : DatasetImageRecord) : Json :=
  dict
    [("source_path", .str record.source_path),
      ("prepared_path", .str record.prepared_path),
      ("source_identity", optional_str record.source_identity),
      ("upstream_split", optional_str record.upstream_split),
      ("subset", optional_str record.subset),
      ("assigned_split", optional_str (record.assigned_split.map DatasetSplit.label)),
      ("duplicate_group", .str record.duplicate_group),
      ("split_group", .str record.split_group),
      ("representative_source_path", optional_str record.representative_source_path),
      ("source_checksum", .str record.source_checksum),
      ("prepared_checksum", .str record.prepared_checksum),
      ("rgb_checksum", .str record.rgb_checksum),
      ("source_bytes", .num record.source_bytes),
      ("prepared_bytes", .num record.prepared_bytes),
      ("source_width", .num record.source_width),
      ("source_height", .num record.source_height),
      ("width", .num record.width),
      ("height", .num record.height),
      ("source_format", .str record.source_format),
      ("source_mode", .str record.source_mode),
      ("mode", .str record.mode),
      ("orientation", .num record.orientation),
      ("color_policy", .str record.color_policy),
      ("grayscale_converted", .bool record.grayscale_converted),
      ("eligible", .bool record.eligible)]

/-- `rejection.model_dump(mode="json")`. -/
def DatasetRejection.model_dump (rejection : DatasetRejection) : Json :=
  dict
    [("source_path", .str rejection.source_path),
      ("source_checksum", optional_str rejection.source_checksum),
      ("upstream_split", optional_str rejection.upstream_split),
      ("reason", .str rejection.reason),
      ("source_bytes", .num rejection.source_bytes)]

/-- `sorted(records, key=lambda record: record.source_path)`. -/
def sorted_by {Record : Type} (path : Record → String) (records : List Record) : List Record :=
  records.insertionSort fun a b => path a ≤ path b

section SortedBy

variable {Record : Type} {path : Record → String}

lemma sorted_by_perm (records : List Record) : (sorted_by path records).Perm records :=
  List.perm_insertionSort _ _

lemma pairwise_sorted_by (records : List Record) :
    (sorted_by path records).Pairwise fun a b => path a ≤ path b :=
  List.pairwise_insertionSort _ _

/-- With unique paths the sorted list does not depend on the order of the input. -/
lemma sorted_by_eq_of_perm {records records' : List Record} (hperm : records.Perm records')
    (hnodup : (records.map path).Nodup) : sorted_by path records = sorted_by path records' := by
  have hsorted : (sorted_by path records).Perm (sorted_by path records') :=
    (sorted_by_perm records).trans (hperm.trans (sorted_by_perm records').symm)
  refine hsorted.eq_of_pairwise (fun a b ha hb hab hba => ?_) (pairwise_sorted_by records)
    (pairwise_sorted_by records')
  refine List.inj_on_of_nodup_map hnodup ?_ ?_ (le_antisymm hab hba)
  · exact (sorted_by_perm records).mem_iff.mp ha
  · exact ((sorted_by_perm records').trans hperm.symm).mem_iff.mp hb

/-- Sorting again changes nothing. -/
lemma sorted_by_map_sorted {f : Record → Record} (hpath : ∀ record, path (f record) = path record)
    (records : List Record) :
    sorted_by path ((sorted_by path records).map f) = (sorted_by path records).map f := by
  refine List.Pairwise.insertionSort_eq (List.pairwise_map.mpr ?_)
  refine (pairwise_sorted_by records).imp fun hab => ?_
  rwa [hpath, hpath]

end SortedBy

end StegoLab

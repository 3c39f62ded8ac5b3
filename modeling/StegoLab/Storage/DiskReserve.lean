import Mathlib.Algebra.GroupWithZero.Nat
import Mathlib.Data.Int.Notation
import Mathlib.Data.Nat.Notation
import StegoLab.Failures

/-!
# The disk reserve

Failures of the dataset commands, and the free space that every bounded write leaves on the disk.
-/

namespace StegoLab

def dataset_messages : String → String
  | "dataset_empty" => "The selected source has no image candidates. Add JPEG or PNG files."
  | "dataset_limits" =>
    "The dataset exceeds its file or byte limits. Select a smaller named subset."
  | "dataset_changed" =>
    "A source file changed during preparation. Retry with a stable source."
  | "dataset_metadata" =>
    "The source metadata file is missing, ambiguous, or invalid. "
      ++ "Check the image names, splits, and identities."
  | "dataset_storage" => "Dataset output could not be saved. Check access and free space."
  | "dataset_space" =>
    "Dataset preparation would exceed its output limit or free-space reserve."
  | "dataset_busy" =>
    "Another dataset preparation is using this output root. Retry when it finishes."
  | "dataset_exists" => "This dataset revision already exists. Validate and reuse it."
  | _ => "Dataset files could not be accessed safely. Check access and paths."

def dataset_failure (code : String) : ApplicationFailure where
  code := code
  message := dataset_messages code
  status_code := 400

def MINIMUM_RESERVE_BYTES : ℕ := 10 * 1024 ^ 3

/-- What `shutil.disk_usage` reports. -/
structure DiskUsage where
  total : ℕ
  free : ℕ

/-- `ensure_disk_reserve`; `none` is a disk that cannot be examined. -/
def ensure_disk_reserve (disk_usage : Option DiskUsage) (next_bytes : ℕ) : Except Raised Unit :=
  match disk_usage with
  | none => fail (dataset_failure "dataset_storage")
  | some usage =>
    raise_if ((usage.free : ℤ) - next_bytes < max MINIMUM_RESERVE_BYTES (usage.total / 10))
      (.application (dataset_failure "dataset_space"))

/-- The reserve is refused with one of two codes. -/
lemma ensure_disk_reserve_refuses {disk_usage : Option DiskUsage} {next_bytes : ℕ} {e : Raised}
    (h : ensure_disk_reserve disk_usage next_bytes = .error e) :
    ∃ failure, failure.code ∈ ["dataset_storage", "dataset_space"] ∧ e = .application failure := by
  cases disk_usage with
  | none => exact ⟨_, by decide, (Except.error.inj h).symm⟩
  | some usage =>
    simp only [ensure_disk_reserve, raise_if] at h
    split_ifs at h
    exact ⟨_, by decide, (Except.error.inj h).symm⟩

end StegoLab

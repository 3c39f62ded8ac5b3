import Mathlib.Data.Nat.Notation
import StegoLab.Failures

/-!
# Image policies

Trusted limits of images, and the fixed failures of image handling.
-/

namespace StegoLab

/-- Limits of images, apart from what the public contracts say. -/
structure ImagePolicy where
  minimum_side : ℕ
  maximum_side : ℕ
  maximum_pixels : ℕ
  maximum_bytes : ℕ
  allow_grayscale : Bool := false
  dataset : Bool := false
  deriving DecidableEq, Repr

namespace ImagePolicy

def limit_failure (policy : ImagePolicy) : ApplicationFailure where
  code := "image_limits"
  message :=
    if policy.dataset then
      "The dataset image exceeds supported limits. Use sides of "
        ++ "1–8192 pixels, at most 32,000,000 pixels, and at most "
        ++ toString (policy.maximum_bytes / (1024 * 1024)) ++ " MiB."
    else
      "The image exceeds supported limits. Use sides of "
        ++ "512–4096 pixels, at most 8,850,000 pixels, and at most 50 MiB."
  status_code := 422

/-- The dimensions are within the limits. -/
def Allows (policy : ImagePolicy) (width height : ℕ) : Prop :=
  (policy.minimum_side ≤ width ∧ width ≤ policy.maximum_side) ∧
    (policy.minimum_side ≤ height ∧ height ≤ policy.maximum_side) ∧
    width * height ≤ policy.maximum_pixels

instance (policy : ImagePolicy) (width height : ℕ) : Decidable (policy.Allows width height) :=
  inferInstanceAs (Decidable (_ ∧ _))

/-- `check_dimensions(width, height)`, whose failure is `limit_failure`. -/
def check_dimensions (policy : ImagePolicy) (width height : ℕ) : Except ApplicationFailure Unit :=
  raise_if (¬ policy.Allows width height) policy.limit_failure

end ImagePolicy

def PRODUCTION_IMAGE_POLICY : ImagePolicy where
  minimum_side := 512
  maximum_side := 4096
  maximum_pixels := 8850000
  maximum_bytes := 50 * 1024 * 1024

def DATASET_SOURCE_POLICY : ImagePolicy where
  minimum_side := 1
  maximum_side := 8192
  maximum_pixels := 32000000
  maximum_bytes := 50 * 1024 * 1024
  allow_grayscale := true
  dataset := true

def image_messages : String → String
  | "image_limits" => "The image exceeds supported limits. Use sides of "
    ++ "512–4096 pixels, at most 8,850,000 pixels, and at most 50 MiB."
  | "image_color" => "The image color declaration is invalid or unsupported. "
    ++ "Convert the image to eight-bit sRGB with a valid RGB profile, then retry."
  | "image_resources" => "There is not enough memory to process the image. "
    ++ "Close other applications or use a smaller image, then retry."
  | "image_write" => "The prepared image could not be saved. Choose a new "
    ++ "output file and check directory access and free space, then retry."
  | _ => "The image is invalid or unsupported. Convert it to a "
    ++ "single-frame, eight-bit RGB JPEG or RGB/RGBA PNG, then retry."

/-- A fixed failure of image handling. -/
def image_failure (code : String) : ApplicationFailure where
  code := code
  message := image_messages code
  status_code := if code = "image_resources" then 503 else 422

def PNG_SIGNATURE : List UInt8 :=
  [0x89, 0x50, 0x4e, 0x47, 0x0d, 0x0a, 0x1a, 0x0a]

end StegoLab

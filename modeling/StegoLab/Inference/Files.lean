import Mathlib.Data.Rat.Defs
import StegoLab.Images.PngHeader
import StegoLab.Library.Crashes
import StegoLab.Library.Weights
import StegoLab.Workflow.Admission

/-!
# Files of experimental inference

Uploads and published results are kept for one day, in storage with a cap.
-/

namespace StegoLab

open Transaction Program

/-! ### Records -/

inductive PixelPolicy where
  | prepare_srgb
  | preserve_stored
  deriving DecidableEq, Repr

inductive ColorPolicy where
  | icc_to_srgb
  | declared_srgb
  | assumed_srgb
  deriving DecidableEq, Repr

/-- How an image was handled. -/
structure ImageSummary where
  source_format : SourceFormat
  mode : ImageMode
  pixel_policy : PixelPolicy
  source_width : ℕ
  source_height : ℕ
  prepared_width : ℕ
  prepared_height : ℕ
  input_size_bytes : ℕ
  orientation : ℕ
  color_policy : ColorPolicy
  deriving DecidableEq, Repr

/-- One accepted upload, as a client sees it. -/
structure UploadedImage where
  image_reference : String
  purpose : ImagePurpose
  summary : ImageSummary
  warnings : List String
  created_at : ℚ
  expires_at : ℚ
  deriving DecidableEq

namespace InferenceFileStore

/-- An upload or a published result with its stored image. -/
structure StoredImageRecord extends UploadedImage where
  stored_bytes : ℕ
  checksum : String
  deriving DecidableEq

def STORAGE_CAP_BYTES : ℕ := 512 * 1024 ^ 2
def MAXIMUM_UPLOAD_BYTES : ℕ := 16777216
def MAXIMUM_STORED_IMAGE_BYTES : ℕ := 64 * 1024 * 1024
def MAXIMUM_RECORD_BYTES : ℕ := 64 * 1024
def RETENTION_SECONDS : ℚ := 24 * 60 * 60
def SCRATCH_RETENTION_SECONDS : ℚ := 60 * 60
def IMAGE_FILE : String := "image.png"
def RECORD_FILE : String := "record.json"

def is_hexadecimal (c : Char) : Bool :=
  ('0' ≤ c && c ≤ '9') || ('a' ≤ c && c ≤ 'f')

/-- A text of so many lower-case hexadecimal digits. -/
def hexadecimal (length : ℕ) (text : List Char) : Bool :=
  text.length = length && text.all is_hexadecimal

/-- `^(image|encoded)_[0-9a-f]{32}$` -/
def stored_reference (reference : String) : Bool :=
  ("image_".toList.isPrefixOf reference.toList && hexadecimal 32 (reference.toList.drop 6))
    || ("encoded_".toList.isPrefixOf reference.toList && hexadecimal 32 (reference.toList.drop 8))

/-- The validation of a record. -/
def valid_record (record : StoredImageRecord) : Bool :=
  stored_reference record.image_reference
    && record.summary.pixel_policy
      = (if record.purpose = .cover then .prepare_srgb else .preserve_stored)
    && record.warnings.length ≤ 4
    && record.created_at < record.expires_at
    && (1 ≤ record.stored_bytes && record.stored_bytes ≤ MAXIMUM_STORED_IMAGE_BYTES)
    && hexadecimal 64 record.checksum.toList

/-! ### Failures -/

def upload_messages : String → String
  | "upload_too_large" => "The image is larger than the 16 MiB upload limit. "
    ++ "Choose a smaller file, then retry."
  | "image_purpose_format" => "Decode needs the PNG file saved by Encode, unchanged. Converted or "
    ++ "re-saved files, including JPEG, cannot be decoded."
  | _ => "Local image storage is full. Wait for older uploads to expire, "
    ++ "then retry."

def upload_status : String → ℕ
  | "upload_too_large" => 413
  | "image_purpose_format" => 422
  | _ => 503

def upload_failure (code : String) : Raised :=
  .application { code := code, message := upload_messages code, status_code := upload_status code }

/-- The preparation steps that a user should know about. -/
def summary_warnings (summary : ImageSummary) : List String :=
  (if summary.source_format = .JPEG then
    ["The JPEG file was converted to PNG. Encode and Decode always use PNG."] else [])
  ++ (if summary.orientation ≠ 1 then
    ["The image was rotated to its displayed orientation."] else [])
  ++ (if summary.color_policy = .icc_to_srgb then
    ["The image colors were converted to standard sRGB."] else [])

/-! ### The directories -/

/-- One directory and its regular files. -/
structure StoredDirectory where
  files : Dict (List UInt8)
  modified_at : ℚ
  deriving DecidableEq

def StoredDirectory.bytes (directory : StoredDirectory) : ℕ :=
  (directory.files.entries.map fun file => file.2.length).sum

structure InferenceDisk where
  images : Dict StoredDirectory
  results : Dict StoredDirectory
  scratch : Dict StoredDirectory
  deriving DecidableEq

/-- The directories that count. -/
inductive Shelf where
  | images
  | results
  deriving DecidableEq, Repr

def Shelf.get (disk : InferenceDisk) : Shelf → Dict StoredDirectory
  | .images => disk.images
  | .results => disk.results

def Shelf.edit (f : Dict StoredDirectory → Dict StoredDirectory) (disk : InferenceDisk) :
    Shelf → InferenceDisk
  | .images => { disk with images := f disk.images }
  | .results => { disk with results := f disk.results }

def directory_bytes (directories : Dict StoredDirectory) : ℕ :=
  (directories.entries.map fun directory => directory.2.bytes).sum

def used_bytes (disk : InferenceDisk) : ℕ :=
  directory_bytes disk.images + directory_bytes disk.results

/-- What is not modelled of images and their records: pixels, digests and JSON. -/
structure ImageTools where
  prepare_image : List UInt8 → Except ApplicationFailure (ImageSummary × List UInt8)
  read_prepared_png : List UInt8 → Except ApplicationFailure ImageSummary
  sha256 : List UInt8 → String
  model_dump_json : StoredImageRecord → List UInt8
  model_validate_json : List UInt8 → Option StoredImageRecord

/-- What surrounds one call: the clocks, the names that are chosen for it and its faults. -/
structure StorageCall where
  swept_at : ℚ
  written_at : ℚ
  recorded_at : ℚ
  uuid : String
  temporary : String := ".stegolab-image-0.png"
  listing : Shelf → Fault Unit := fun _ => .none
  listing_scratch : Fault Unit := .none
  inspecting : String → Fault Unit := fun _ => .none
  unreadable : List String := []
  /-- The files that a removal leaves, when it cannot remove a directory. -/
  left : String → Option (List String) := fun _ => none
  counting : Fault Unit := .none
  creating : Fault Unit := .none
  reading : Fault Unit := .none
  writing : Fault ℕ := .none
  linking : Fault Unit := .none
  /-- The temporary file cannot be removed. -/
  stuck : Bool := false
  counting_again : Fault Unit := .none
  recording : Fault ℕ := .none

abbrev InferenceProgram : Type → Type :=
  Program InferenceDisk Raised

variable (tools : ImageTools) (call : StorageCall)

/-! ### File operations -/

/-- `try: program except OSError: raise StorageFailure()`. -/
def storage_errors {α : Type} (program : InferenceProgram α) : InferenceProgram α :=
  catching program fun
    | .os_error => raise (.application StorageFailure)
    | e => raise e

/-- `try: program except (OSError, ValueError): raise StorageFailure()`. -/
def content_errors {α : Type} (program : InferenceProgram α) : InferenceProgram α :=
  catching program fun
    | .application failure => raise (.application failure)
    | _ => raise (.application StorageFailure)

/-- `shutil.rmtree(directory, ignore_errors=True)`. -/
def remove_tree (name : String) (directories : Dict StoredDirectory) : Dict StoredDirectory :=
  match call.left name, directories.get? name with
  | some kept, some directory =>
    directories.insert name
      { directory with
        files := Dict.of_items (directory.files.entries.filter fun file => file.1 ∈ kept) }
  | _, _ => directories.erase name

def rmtree (shelf : Shelf) (name : String) : InferenceProgram Unit :=
  atomically .none .os_error fun disk => shelf.edit (remove_tree call name) disk

/-- `directory.mkdir(mode=0o700)`. -/
def make_directory (shelf : Shelf) (name : String) : InferenceProgram Unit := do
  let disk ← read
  attempt (raise_if ((shelf.get disk).get? name ≠ none) .os_error)
  atomically call.creating .os_error fun disk =>
    shelf.edit (fun directories => directories.insert name ⟨.empty, call.written_at⟩) disk

/-- The disk with one file written. -/
def put_file (shelf : Shelf) (name file : String) (data : List UInt8) (disk : InferenceDisk) :
    InferenceDisk :=
  match (shelf.get disk).get? name with
  | none => disk
  | some directory =>
    shelf.edit (fun directories => directories.insert name
      ⟨directory.files.insert file data, call.written_at⟩) disk

/-- `open(path, O_CREAT | O_EXCL)` succeeds. -/
def check_new (shelf : Shelf) (name file : String) : InferenceProgram Unit := do
  let disk ← read
  attempt (raise_if (((shelf.get disk).get? name).map (fun directory => directory.files.get? file)
    ≠ some none) .os_error)

/-- A new file, of which a fault leaves a beginning. -/
def write_new_file (fault : Fault ℕ) (shelf : Shelf) (name file : String) (data : List UInt8) :
    InferenceProgram Unit := do
  check_new shelf name file
  operation fault .os_error (fun reached => put_file call shelf name file (data.take reached))
    (put_file call shelf name file data)

/-- `os.link(source, destination)`, with the data of the source. -/
def link_file (shelf : Shelf) (name file : String) (data : List UInt8) : InferenceProgram Unit := do
  check_new shelf name file
  atomically call.linking .os_error (put_file call shelf name file data)

/-- `path.unlink(missing_ok=True)`, whose failure is ignored. -/
def unlink_temporary (shelf : Shelf) (name : String) : InferenceProgram Unit :=
  atomically .none .os_error fun disk =>
    match (shelf.get disk).get? name with
    | none => disk
    | some directory =>
      if call.stuck then disk
      else shelf.edit (fun directories => directories.insert name
        ⟨directory.files.erase call.temporary, call.written_at⟩) disk

/-- The stored bytes and so many more are within the cap. -/
def check_room (fault : Fault Unit) (size : ℕ) : InferenceProgram Unit := do
  inspect fault .os_error
  let disk ← read
  attempt (raise_if (STORAGE_CAP_BYTES < used_bytes disk + size)
    (upload_failure "inference_storage_full"))

/-- `except BaseException: shutil.rmtree(directory, ignore_errors=True); raise`. -/
def removing_on_failure {α : Type} (shelf : Shelf) (name : String) (program : InferenceProgram α) :
    InferenceProgram α :=
  catching program fun e => do
    rmtree call shelf name
    raise e

/-! ### Expiry -/

/-- `_expired`: by the record, or by age when it cannot be read. -/
def expired (name : String) (directory : StoredDirectory) : Bool :=
  let record := do
    let content ← directory.files.get? RECORD_FILE
    if name ∈ call.unreadable ∨ MAXIMUM_RECORD_BYTES < content.length then none
    else tools.model_validate_json content
  match record with
  | some record => record.expires_at ≤ call.swept_at
  | none => RETENTION_SECONDS ≤ call.swept_at - directory.modified_at

/-- The directories of one shelf, one after another. -/
def sweep_shelf (shelf : Shelf) : List (String × StoredDirectory) → ℕ → InferenceProgram ℕ
  | [], removed => return removed
  | (name, directory) :: rest, removed => do
    inspect (call.inspecting name) .os_error
    if expired tools call name directory then do
      rmtree call shelf name
      sweep_shelf shelf rest (removed + 1)
    else sweep_shelf shelf rest removed

/-- The scratch folders, one after another. -/
def sweep_scratch : List (String × StoredDirectory) → ℕ → InferenceProgram ℕ
  | [], removed => return removed
  | (name, directory) :: rest, removed => do
    inspect (call.inspecting name) .os_error
    if SCRATCH_RETENTION_SECONDS ≤ call.swept_at - directory.modified_at then do
      atomically .none .os_error fun disk =>
        { disk with scratch := remove_tree call name disk.scratch }
      sweep_scratch rest (removed + 1)
    else sweep_scratch rest removed

/-- `sweep`: delete what has expired, and count the removals. -/
def sweep : InferenceProgram ℕ :=
  storage_errors do
    inspect (call.listing .images) .os_error
    let disk ← read
    let removed ← sweep_shelf tools call .images disk.images.entries 0
    inspect (call.listing .results) .os_error
    let disk ← read
    let removed ← sweep_shelf tools call .results disk.results.entries removed
    inspect call.listing_scratch .os_error
    let disk ← read
    sweep_scratch call disk.scratch.entries removed

/-! ### Storing -/

/-- The record of a stored image. -/
def image_record (identifier : String) (purpose : ImagePurpose) (summary : ImageSummary)
    (stored : List UInt8) (warnings : List String) : StoredImageRecord where
  image_reference := identifier
  purpose := purpose
  summary := summary
  warnings := warnings
  created_at := call.recorded_at
  expires_at := call.recorded_at + RETENTION_SECONDS
  stored_bytes := stored.length
  checksum := tools.sha256 stored

/-- `_record`: write the record next to a stored image. -/
def write_record (shelf : Shelf) (identifier : String) (purpose : ImagePurpose)
    (summary : ImageSummary) (stored : List UInt8) (warnings : List String) :
    InferenceProgram StoredImageRecord := do
  let record := image_record tools call identifier purpose summary stored warnings
  attempt (raise_if (valid_record record = false) .value_error)
  write_new_file call call.recording shelf identifier RECORD_FILE (tools.model_dump_json record)
  return record

/-- `write_png`: publish the image under its name through a temporary file. -/
def write_png (identifier : String) (image : List UInt8) : InferenceProgram Unit :=
  finally_do
    (catching (do
      write_new_file call call.writing .images identifier call.temporary image
      link_file call .images identifier IMAGE_FILE image)
      fun
        | .application failure => raise (.application failure)
        | _ => raise (.application (image_failure "image_write")))
    (unlink_temporary call .images identifier)

/-- The image that `_write` saves, with its summary and warnings. -/
def save_image (identifier : String) (data : List UInt8) :
    ImagePurpose → InferenceProgram (ImageSummary × List UInt8 × List String)
  | .cover => do
    let prepared ← attempt ((tools.prepare_image data).mapError .application)
    write_png call identifier prepared.2
    inspect call.reading .os_error
    attempt (raise_if (MAXIMUM_STORED_IMAGE_BYTES < prepared.2.length) .value_error)
    return (prepared.1, prepared.2, summary_warnings prepared.1)
  | .encoded => do
    attempt (raise_if (¬ PNG_SIGNATURE <+: data) (upload_failure "image_purpose_format"))
    let summary ← attempt ((tools.read_prepared_png data).mapError .application)
    write_new_file call call.writing .images identifier IMAGE_FILE data
    return (summary, data, [])

/-- `_write`: save the prepared cover or the exact encoded image with its record. -/
def write_upload (identifier : String) (purpose : ImagePurpose) (data : List UInt8) :
    InferenceProgram StoredImageRecord :=
  content_errors do
    let saved ← save_image tools call identifier data purpose
    check_room call.counting_again 0
    write_record tools call .images identifier purpose saved.1 saved.2.1 saved.2.2

/-- `store`: validate, save and describe one upload. -/
def store (purpose : ImagePurpose) (data : List UInt8) : InferenceProgram UploadedImage := do
  attempt (raise_if (MAXIMUM_UPLOAD_BYTES < data.length) (upload_failure "upload_too_large"))
  let _ ← sweep tools call
  let identifier := "image_" ++ call.uuid
  storage_errors do
    check_room call.counting data.length
    make_directory call .images identifier
  removing_on_failure call .images identifier do
    let record ← write_upload tools call identifier purpose data
    return record.toUploadedImage

/-- The file of a scratch folder, within its size limit. -/
def read_source (folder file : String) : InferenceProgram (List UInt8) := do
  inspect call.reading .os_error
  let disk ← read
  match (disk.scratch.get? folder).bind fun directory => directory.files.get? file with
  | none => raise .os_error
  | some data => do
    attempt (raise_if (MAXIMUM_STORED_IMAGE_BYTES < data.length) .value_error)
    return data

/-- `publish_result`: publish a verified image from a scratch folder. -/
def publish_result (folder file : String) : InferenceProgram StoredImageRecord := do
  let _ ← sweep tools call
  let identifier := "encoded_" ++ call.uuid
  let data ← content_errors do
    let data ← read_source call folder file
    check_room call.counting data.length
    make_directory call .results identifier
    return data
  removing_on_failure call .results identifier do
    let summary ← attempt ((tools.read_prepared_png data).mapError .application)
    catching (link_file call .results identifier IMAGE_FILE data) fun
      | .os_error => write_new_file call call.writing .results identifier IMAGE_FILE data
      | e => raise e
    write_record tools call .results identifier .encoded summary data []

end InferenceFileStore

end StegoLab

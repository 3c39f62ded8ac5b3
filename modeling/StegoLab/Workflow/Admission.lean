import StegoLab.Protocol.Frame
import StegoLab.Workflow.Jobs

/-!
# Admission

The checks of an encode or decode request before its job is accepted: the uploaded image, the
installed model, and the sizes of its secrets.
-/

namespace StegoLab

/-! ### What is read -/

inductive ImagePurpose where
  | cover
  | encoded
  deriving DecidableEq, Repr

/-- An uploaded image, as far as admission reads it. -/
structure StoredImageRecord where
  purpose : ImagePurpose
  prepared_width : ℕ
  prepared_height : ℕ
  deriving DecidableEq

/-- The record of an installed model; its sides are fixed. -/
structure InstalledModel where
  model_identifier : String
  compatibility_identifier : String
  minimum_side : ℕ := 512
  maximum_side : ℕ := 1024
  deriving DecidableEq

/-- What `files.read_record` and `installed.resolve` answer for the request. -/
structure InferenceReading where
  image : Except Raised StoredImageRecord
  model : Except Raised InstalledModel

/-! ### Failures -/

def image_purpose_mismatch : ApplicationFailure where
  code := "image_purpose_mismatch"
  message := "Encode needs an image uploaded as a cover, and Decode needs an image "
    ++ "uploaded as encoded. Upload the file again with the right purpose."
  status_code := 422

def model_range_failure (model : InstalledModel) : ApplicationFailure where
  code := "image_outside_model_range"
  message := "This experimental model accepts images with sides between "
    ++ toString model.minimum_side ++ " and " ++ toString model.maximum_side
    ++ " pixels and files up to 16 MiB. Choose a smaller image or crop it before uploading."
  status_code := 422

def message_not_text : ApplicationFailure where
  code := "invalid_message"
  message := "The message contains characters that cannot be saved as UTF-8 text. "
    ++ "Remove them and retry."
  status_code := 422

def message_too_long (limit : ℕ) : ApplicationFailure where
  code := "message_too_long"
  message := "The message is longer than this image can carry. Shorten it to at "
    ++ "most " ++ toString limit ++ " bytes of UTF-8 text."
  status_code := 422

/-! ### Checks -/

/-- `check_model_range`. -/
def check_model_range (model : InstalledModel) (width height : ℕ) : Except Raised Unit :=
  raise_if (¬ ∀ side ∈ [width, height], model.minimum_side ≤ side ∧ side ≤ model.maximum_side)
    (.application (model_range_failure model))

/-- `message_bytes`: count the bytes of a message, up to a limit. -/
def message_byte_count (message : String) (limit : ℕ) : Except Raised ℕ :=
  match Utf8.encode (Utf8.code_points message) with
  | none => fail message_not_text
  | some encoded =>
    if encoded.length > limit then fail (message_too_long limit) else .ok encoded.length

/-- The operation of a request, by its type. -/
def InferenceJobRequest.operation (request : InferenceJobRequest) : Operation :=
  if request.message.isSome then .encode else .decode

lemma InferenceJobRequest.operation_allowed (request : InferenceJobRequest) :
    request.operation ∈ [.encode, .decode] := by
  unfold operation
  split_ifs
  · decide
  · decide

/-- The message of an encode request must fit the image. -/
def check_message (request : InferenceJobRequest) (model : InstalledModel) (width height : ℕ) :
    Except Raised ℕ := do
  match request.message with
  | none => return 0
  | some message =>
    let capacity ← calculate_capacity
      { width, height, compatibility_identifier := model.compatibility_identifier }
    message_byte_count message capacity.maximum_message_bytes

/-- `admit_inference`: check image, model, range, and secret sizes before a job is accepted. -/
def admit_inference (reading : InferenceReading) (request : InferenceJobRequest) :
    Except Raised InferenceJobRecord := do
  let record ← reading.image
  raise_if (record.purpose ≠ if request.operation = .encode then .cover else .encoded)
    (Raised.application image_purpose_mismatch)
  let model ← reading.model
  let width := record.prepared_width
  let height := record.prepared_height
  check_model_range model width height
  let _ ← password_bytes (Utf8.code_points request.password)
  let count ← check_message request model width height
  return {
    operation := request.operation
    image_reference := request.image_reference
    model_identifier := request.model_identifier
    message_byte_count := count
    width
    height
    allowed := request.operation_allowed }

/-! ### What passes -/

lemma password_size {password : String} {encoded : List UInt8}
    (h : password_bytes (Utf8.code_points password) = .ok encoded) :
    password.utf8ByteSize ≤ 1024 := by
  unfold password_bytes at h
  split_ifs at h
  · split at h
    · simp [fail] at h
    · next bytes hbytes =>
      split_ifs at h with hlong
      · simp [fail] at h
      · rw [← Utf8.length_of_encode_code_points hbytes]
        omega
  · simp [fail] at h

lemma message_size {request : InferenceJobRequest} {model : InstalledModel}
    {width height count : ℕ} (h : check_message request model width height = .ok count) :
    ∀ message ∈ request.message, message.utf8ByteSize ≤ 1024 := by
  intro message hmessage
  rw [Option.mem_def] at hmessage
  unfold check_message at h
  rw [hmessage] at h
  obtain ⟨capacity, -, hcount⟩ := bind_eq_ok.mp h
  unfold message_byte_count at hcount
  split at hcount
  · simp [fail] at hcount
  · next bytes hbytes =>
    split_ifs at hcount with hlong
    · simp [fail] at hcount
    · rw [← Utf8.length_of_encode_code_points hbytes]
      exact (not_lt.mp hlong).trans capacity.maximum_message_bytes_range.2

/-- What an admitted request has passed. -/
structure AdmittedInference (reading : InferenceReading) (request : InferenceJobRequest)
    (record : InferenceJobRecord) : Prop where
  model : ∃ model, reading.model = .ok model
  operation : record.operation = request.operation
  model_identifier : record.model_identifier = request.model_identifier
  password : request.password.utf8ByteSize ≤ 1024
  message : ∀ message ∈ request.message, message.utf8ByteSize ≤ 1024

theorem admit_inference_ok {reading : InferenceReading} {request : InferenceJobRequest}
    {record : InferenceJobRecord} (h : admit_inference reading request = .ok record) :
    AdmittedInference reading request record := by
  obtain ⟨image, -, h⟩ := bind_eq_ok.mp h
  obtain ⟨_, -, h⟩ := bind_eq_ok.mp h
  obtain ⟨model, hmodel, h⟩ := bind_eq_ok.mp h
  obtain ⟨_, -, h⟩ := bind_eq_ok.mp h
  obtain ⟨_, hpassword, h⟩ := bind_eq_ok.mp h
  obtain ⟨count, hcount, h⟩ := bind_eq_ok.mp h
  obtain rfl := pure_eq_ok.mp h
  exact ⟨⟨model, hmodel⟩, rfl, rfl, password_size hpassword, message_size hcount⟩

end StegoLab

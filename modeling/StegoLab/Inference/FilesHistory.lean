import StegoLab.Images.PngHeaderProperties
import StegoLab.Inference.FilesProperties

/-!
# Histories of the inference storage

Uploads, publications, expiries and deletions in any order. The storage is within its cap after the
calls that store an image exactly when each leaves room for its record.
-/

namespace StegoLab
namespace InferenceFileStore

open Transaction Program

/-! ### Events -/

inductive StorageEvent where
  | store (call : StorageCall) (purpose : ImagePurpose) (data : List UInt8)
  | publish_result (call : StorageCall) (folder file : String)
  | sweep (call : StorageCall)
  /-- A directory is deleted from outside. -/
  | deletion (shelf : Shelf) (name : String)
  /-- A job writes its scratch folder. -/
  | scratch (folder : String) (directory : StoredDirectory)

variable (tools : ImageTools)

/-- The disk behind one event. -/
def step (disk : InferenceDisk) : StorageEvent → InferenceDisk
  | .store call purpose data => (store tools call purpose data disk).2
  | .publish_result call folder file => (publish_result tools call folder file disk).2
  | .sweep call => (sweep tools call disk).2
  | .deletion shelf name => shelf.edit (fun directories => directories.erase name) disk
  | .scratch folder directory => { disk with scratch := disk.scratch.insert folder directory }

def history (disk : InferenceDisk) (events : List StorageEvent) : InferenceDisk :=
  events.foldl (step tools) disk

/-- The event is a call that stores an image and returns. -/
def Stores (disk : InferenceDisk) : StorageEvent → Prop
  | .store call purpose data => ∃ image t, store tools call purpose data disk = (.ok image, t)
  | .publish_result call folder file =>
    ∃ record t, publish_result tools call folder file disk = (.ok record, t)
  | _ => False

/-- Behind the sweep there is room for the image of the call and for its record. -/
def LeavesRoom (disk : InferenceDisk) : StorageEvent → Prop
  | .store call purpose data => ∀ saved, prepared_image tools data purpose = .ok saved →
    used_bytes (swept tools call disk) + image_bytes call saved.2.1 purpose
      + (tools.model_dump_json (image_record tools call ("image_" ++ call.uuid) purpose saved.1
        saved.2.1 saved.2.2)).length ≤ STORAGE_CAP_BYTES
  | .publish_result call folder file => ∀ data summary,
    source_file (swept tools call disk) folder file = some data →
    tools.read_prepared_png data = .ok summary →
    used_bytes (swept tools call disk) + data.length
      + (tools.model_dump_json (image_record tools call ("encoded_" ++ call.uuid) .encoded summary
        data [])).length ≤ STORAGE_CAP_BYTES
  | _ => True

/-- After every call that stores an image the used bytes are within the cap. -/
def CapHolds (disk : InferenceDisk) (events : List StorageEvent) : Prop :=
  ∀ past event future, events = past ++ event :: future → Stores tools (history tools disk past) event →
    used_bytes (history tools disk (past ++ [event])) ≤ STORAGE_CAP_BYTES

/-! ### The cap -/

variable {tools} {disk : InferenceDisk} {event : StorageEvent}

lemma history_snoc (past : List StorageEvent) :
    history tools disk (past ++ [event]) = step tools (history tools disk past) event := by
  rw [history, List.foldl_append]
  rfl

/-- A call that stores an image keeps the cap exactly when it leaves room. -/
lemma used_bytes_step_iff (h : Stores tools disk event) :
    used_bytes (step tools disk event) ≤ STORAGE_CAP_BYTES ↔ LeavesRoom tools disk event := by
  cases event with
  | store call purpose data =>
    obtain ⟨image, t, hstore⟩ := h
    obtain ⟨saved, hprepared, -, hused⟩ := store_returned hstore
    have hstep : step tools disk (.store call purpose data) = t := congrArg Prod.snd hstore
    rw [hstep, hused]
    constructor
    · intro hcap saved' hsaved
      rw [hprepared] at hsaved
      obtain rfl := Except.ok.inj hsaved
      exact hcap
    · intro hroom
      exact hroom saved hprepared
  | publish_result call folder file =>
    obtain ⟨record, t, hpublish⟩ := h
    obtain ⟨data, summary, hsource, hsummary, -, hused⟩ := publish_result_returned hpublish
    have hstep : step tools disk (.publish_result call folder file) = t :=
      congrArg Prod.snd hpublish
    rw [hstep, hused]
    constructor
    · intro hcap data' summary' hsource' hsummary'
      rw [hsource] at hsource'
      obtain rfl := Option.some.inj hsource'
      rw [hsummary] at hsummary'
      obtain rfl := Except.ok.inj hsummary'
      exact hcap
    · intro hroom
      exact hroom data summary hsource hsummary
  | sweep call => exact h.elim
  | deletion shelf name => exact h.elim
  | scratch folder directory => exact h.elim

/-- In every history the cap holds after the calls that store an image exactly when each of them
leaves room for its record. -/
theorem cap_holds_iff_leaves_room (tools : ImageTools) (disk : InferenceDisk)
    (events : List StorageEvent) :
    CapHolds tools disk events ↔ ∀ past event future, events = past ++ event :: future →
      Stores tools (history tools disk past) event →
      LeavesRoom tools (history tools disk past) event := by
  constructor
  · intro hcap past event future hsplit hstores
    rw [← used_bytes_step_iff hstores, ← history_snoc]
    exact hcap past event future hsplit hstores
  · intro hroom past event future hsplit hstores
    rw [history_snoc, used_bytes_step_iff hstores]
    exact hroom past event future hsplit hstores

/-- The room for the image is checked, so no more than a record goes beyond the cap. -/
theorem used_bytes_step_le (h : Stores tools disk event) :
    ∃ record, used_bytes (step tools disk event)
      ≤ STORAGE_CAP_BYTES + (tools.model_dump_json record).length := by
  cases event with
  | store call purpose data =>
    obtain ⟨image, t, hstore⟩ := h
    obtain ⟨saved, -, hcap, hused⟩ := store_returned hstore
    have hstep : step tools disk (.store call purpose data) = t := congrArg Prod.snd hstore
    refine ⟨image_record tools call ("image_" ++ call.uuid) purpose saved.1 saved.2.1 saved.2.2, ?_⟩
    rw [hstep, hused]
    exact Nat.add_le_add_right hcap _
  | publish_result call folder file =>
    obtain ⟨record, t, hpublish⟩ := h
    obtain ⟨data, summary, -, -, hcap, hused⟩ := publish_result_returned hpublish
    have hstep : step tools disk (.publish_result call folder file) = t :=
      congrArg Prod.snd hpublish
    refine ⟨image_record tools call ("encoded_" ++ call.uuid) .encoded summary data [], ?_⟩
    rw [hstep, hused]
    exact Nat.add_le_add_right hcap _
  | sweep call => exact h.elim
  | deletion shelf name => exact h.elim
  | scratch folder directory => exact h.elim

/-! ### Uploads that fit -/

section Fitting

variable {call : StorageCall}

/-- No file operation of the call fails. -/
structure Calm (call : StorageCall) : Prop where
  listing : ∀ shelf, call.listing shelf = .none
  listing_scratch : call.listing_scratch = .none
  inspecting : ∀ name, call.inspecting name = .none
  counting : call.counting = .none
  creating : call.creating = .none
  writing : call.writing = .none
  counting_again : call.counting_again = .none
  recording : call.recording = .none

lemma sweep_shelf_of_fresh (hcalm : Calm call) (shelf : Shelf)
    {directories : List (String × StoredDirectory)} (removed : ℕ)
    (h : ∀ entry ∈ directories, expired tools call entry.1 entry.2 = false) :
    sweep_shelf tools call shelf directories removed disk = (.ok removed, disk) := by
  induction directories with
  | nil => rfl
  | cons entry rest ih =>
    rw [List.forall_mem_cons] at h
    have hfresh : ¬ expired tools call entry.1 entry.2 = true := by
      rw [h.1]
      exact Bool.false_ne_true
    obtain ⟨name, directory⟩ := entry
    rw [sweep_shelf, hcalm.inspecting, bind_of_ok inspect_none, if_neg hfresh]
    exact ih h.2

/-- A sweep of a disk on which nothing has expired. -/
lemma sweep_of_fresh (hcalm : Calm call)
    (himages : ∀ entry ∈ disk.images.entries, expired tools call entry.1 entry.2 = false)
    (hresults : ∀ entry ∈ disk.results.entries, expired tools call entry.1 entry.2 = false)
    (hscratch : disk.scratch.entries = []) :
    sweep tools call disk = (.ok 0, disk) := by
  apply catching_of_ok
  rw [hcalm.listing, hcalm.listing, hcalm.listing_scratch, bind_of_ok inspect_none, read_bind,
    bind_of_ok (sweep_shelf_of_fresh hcalm .images 0 himages), bind_of_ok inspect_none, read_bind,
    bind_of_ok (sweep_shelf_of_fresh hcalm .results 0 hresults), bind_of_ok inspect_none, read_bind,
    hscratch]
  rfl

lemma write_new_file_of_missing {shelf : Shelf} {name file : String} {data : List UInt8}
    (h : Missing disk shelf name file) :
    write_new_file call .none shelf name file data disk
      = (.ok (), put_file call shelf name file data disk) := by
  obtain ⟨directory, hdirectory, hfile⟩ := h
  have hnew : check_new shelf name file disk = (.ok (), disk) := by
    rw [check_new, read_bind, hdirectory, Option.map_some, hfile]
    rfl
  rw [write_new_file, bind_of_ok hnew]
  rfl

/-- The disk with one more upload. -/
def with_upload (tools : ImageTools) (call : StorageCall) (data : List UInt8) (summary : ImageSummary)
    (disk : InferenceDisk) : InferenceDisk :=
  let record := image_record tools call ("image_" ++ call.uuid) .encoded summary data []
  put_file call .images ("image_" ++ call.uuid) RECORD_FILE (tools.model_dump_json record)
    (put_file call .images ("image_" ++ call.uuid) IMAGE_FILE data
      (Shelf.images.edit (fun directories =>
        directories.insert ("image_" ++ call.uuid) ⟨.empty, call.written_at⟩) disk))

lemma put_file_images {name file : String} {data : List UInt8} {other : String} (h : other ≠ name) :
    (put_file call .images name file data disk).images.get? other = disk.images.get? other := by
  unfold put_file
  cases (Shelf.images.get disk).get? name with
  | none => rfl
  | some directory =>
    change (disk.images.insert name _).get? other = _
    rw [Dict.get?_insert, if_neg h]

lemma put_file_rest {name file : String} {data : List UInt8} :
    (put_file call .images name file data disk).results = disk.results ∧
      (put_file call .images name file data disk).scratch = disk.scratch := by
  unfold put_file
  cases (Shelf.images.get disk).get? name with
  | none => exact ⟨rfl, rfl⟩
  | some directory => exact ⟨rfl, rfl⟩

/-- One more upload is one more directory. -/
lemma with_upload_images (data : List UInt8) (summary : ImageSummary) (name : String) :
    ∃ files, (with_upload tools call data summary disk).images.get? name
      = if name = "image_" ++ call.uuid then some ⟨files, call.written_at⟩
        else disk.images.get? name := by
  by_cases hname : name = "image_" ++ call.uuid
  · subst hname
    have hopened : (Shelf.images.get (Shelf.images.edit (fun directories =>
        directories.insert ("image_" ++ call.uuid) ⟨.empty, call.written_at⟩) disk)).get?
          ("image_" ++ call.uuid) = some ⟨.empty, call.written_at⟩ := by
      rw [get_edit]
      simp
    have hsaved := @get?_put_file call _ .images ("image_" ++ call.uuid) IMAGE_FILE data _ hopened
    refine ⟨(Dict.empty.insert IMAGE_FILE data).insert RECORD_FILE (tools.model_dump_json
      (image_record tools call ("image_" ++ call.uuid) .encoded summary data [])), ?_⟩
    rw [if_pos rfl]
    exact get?_put_file hsaved
  · refine ⟨.empty, ?_⟩
    rw [if_neg hname, with_upload, put_file_images hname, put_file_images hname]
    change (disk.images.insert _ _).get? name = _
    rw [Dict.get?_insert, if_neg hname]

lemma with_upload_rest (data : List UInt8) (summary : ImageSummary) :
    (with_upload tools call data summary disk).results = disk.results ∧
      (with_upload tools call data summary disk).scratch = disk.scratch := by
  unfold with_upload
  dsimp only
  rw [put_file_rest.1, put_file_rest.1, put_file_rest.2, put_file_rest.2]
  exact ⟨rfl, rfl⟩

/-- An encoded image that fits is stored. -/
lemma store_of_room (hcalm : Calm call) (hsweep : sweep tools call disk = (.ok 0, disk))
    {data : List UInt8} {summary : ImageSummary} (hsize : data.length ≤ MAXIMUM_UPLOAD_BYTES)
    (hroom : used_bytes disk + data.length ≤ STORAGE_CAP_BYTES)
    (hnew : disk.images.get? ("image_" ++ call.uuid) = none) (hsignature : PNG_SIGNATURE <+: data)
    (hsummary : tools.read_prepared_png data = .ok summary)
    (hvalid : valid_record (image_record tools call ("image_" ++ call.uuid) .encoded summary data [])
      = true) :
    store tools call .encoded data disk
      = (.ok (image_record tools call ("image_" ++ call.uuid) .encoded summary data []).toUploadedImage,
        with_upload tools call data summary disk) := by
  set identifier := "image_" ++ call.uuid
  set record := image_record tools call identifier .encoded summary data []
  set opened := Shelf.images.edit (fun directories =>
    directories.insert identifier ⟨.empty, call.written_at⟩) disk with hopened
  set saved := put_file call .images identifier IMAGE_FILE data opened
  have hopened_get : (Shelf.images.get opened).get? identifier
      = some ⟨.empty, call.written_at⟩ := by
    rw [hopened, get_edit]
    simp
  have hsaved_get := @get?_put_file call opened .images identifier IMAGE_FILE data _ hopened_get
  have hsize_check : attempt (raise_if (MAXIMUM_UPLOAD_BYTES < data.length)
      (upload_failure "upload_too_large")) disk = (.ok (), disk) := by
    rw [raise_if, if_neg (not_lt.mpr hsize)]
    rfl
  have hroom_check : check_room .none data.length disk = (.ok (), disk) := by
    rw [check_room, bind_of_ok inspect_none, read_bind, raise_if, if_neg (not_lt.mpr hroom)]
    rfl
  have hmake : make_directory call .images identifier disk = (.ok (), opened) := by
    have hget : (Shelf.images.get disk).get? identifier = none := hnew
    rw [make_directory, read_bind, hget, raise_if, if_neg (not_not.mpr rfl), hcalm.creating]
    rfl
  have hsave : save_image tools call identifier data .encoded opened
      = (.ok (summary, data, []), saved) := by
    have hwrite := @write_new_file_of_missing opened call .images identifier IMAGE_FILE data
      ⟨_, hopened_get, Dict.get?_empty _⟩
    rw [save_image, raise_if, if_neg (not_not.mpr hsignature), hsummary, hcalm.writing]
    change (write_new_file call .none .images identifier IMAGE_FILE data >>= fun _ =>
      pure (summary, data, [])) opened = _
    rw [bind_of_ok hwrite]
    rfl
  have hagain : check_room .none 0 saved = (.ok (), saved) := by
    have hused : used_bytes saved = used_bytes disk + data.length := by
      have hput := @used_bytes_put_file call opened .images identifier IMAGE_FILE data
        ⟨_, hopened_get, Dict.get?_empty _⟩
      rw [hput, make_directory_returned hmake]
    rw [check_room, bind_of_ok inspect_none, read_bind, raise_if,
      if_neg (by rw [hused, Nat.add_zero]; exact not_lt.mpr hroom)]
    rfl
  have hrecord : write_record tools call .images identifier .encoded summary data [] saved
      = (.ok record, with_upload tools call data summary disk) := by
    have hwrite := @write_new_file_of_missing saved call .images identifier RECORD_FILE
      (tools.model_dump_json record) ⟨_, hsaved_get, by simp [IMAGE_FILE, RECORD_FILE]⟩
    rw [write_record, raise_if, if_neg (by rw [hvalid]; exact Bool.false_ne_true.symm),
      hcalm.recording]
    change (write_new_file call .none .images identifier RECORD_FILE
      (tools.model_dump_json record) >>= fun _ => pure record) saved = _
    rw [bind_of_ok hwrite]
    rfl
  have hupload : write_upload tools call identifier .encoded data opened
      = (.ok record, with_upload tools call data summary disk) := by
    apply catching_of_ok
    rw [bind_of_ok hsave, hcalm.counting_again, bind_of_ok hagain]
    exact hrecord
  have hdirectory : storage_errors (do
      check_room call.counting data.length
      make_directory call .images identifier) disk = (.ok (), opened) := by
    apply catching_of_ok
    rw [hcalm.counting, bind_of_ok hroom_check]
    exact hmake
  rw [store, bind_of_ok hsize_check, bind_of_ok hsweep, bind_of_ok hdirectory]
  apply catching_of_ok
  rw [bind_of_ok hupload]
  rfl

end Fitting

/-! ### A storage that is filled -/

/-- The stored stream of a black image of 512 by 512 pixels. -/
def BLACK_PIXELS : List UInt8 :=
  [0x78, 0x01]
    ++ (List.replicate 12 ([0x00, 0xff, 0xff, 0x00, 0x00] ++ List.replicate 65535 0)).flatten
    ++ ([0x01, 0x0c, 0x02, 0xf3, 0xfd] ++ List.replicate 524 0) ++ [0x02, 0xb4, 0x00, 0x01]

/-- A black image with a private chunk of so many bytes. -/
@[irreducible] def padded_image (padding : ℕ) : List UInt8 :=
  PNG_SIGNATURE ++ chunk_bytes png_crc32
    [⟨IHDR, [0, 0, 2, 0, 0, 0, 2, 0, 8, 2, 0, 0, 0]⟩,
      ⟨[0x73, 0x74, 0x45, 0x67], List.replicate padding 0⟩, ⟨IDAT, BLACK_PIXELS⟩, ⟨IEND, []⟩]

/-- The bytes of the image without the content of that chunk. -/
def PLAIN_BYTES : ℕ := 787084

def black_summary (size : ℕ) : ImageSummary where
  source_format := .PNG
  mode := .RGB
  pixel_policy := .preserve_stored
  source_width := 512
  source_height := 512
  prepared_width := 512
  prepared_height := 512
  input_size_bytes := size
  orientation := 1
  color_policy := .assumed_srgb

def JSON_REFERENCE : String :=
  "\x7b\"image_reference\":\""

def JSON_SUMMARY : String :=
  "\",\"purpose\":\"encoded\",\"summary\":\x7b\"source_format\":\"PNG\","

def JSON_SOURCE : String :=
  "\"mode\":\"RGB\",\"pixel_policy\":\"preserve_stored\",\"source_width\":512,"

def JSON_PREPARED : String :=
  "\"source_height\":512,\"prepared_width\":512,\"prepared_height\":512,"

def JSON_INPUT : String :=
  "\"input_size_bytes\":"

def JSON_COLOR : String :=
  ",\"orientation\":1,\"color_policy\":\"assumed_srgb\"\x7d,\"warnings\":[],"

def JSON_TIMES : String :=
  "\"created_at\":\"1970-01-01T00:00:00Z\",\"expires_at\":\"1970-01-02T00:00:00Z\","

def JSON_STORED : String :=
  "\"stored_bytes\":"

def JSON_CHECKSUM : String :=
  ",\"checksum\":\""

def JSON_END : String :=
  "\"\x7d"

/-- The record of a black image, stored at the beginning of 1970. -/
def record_json (record : StoredImageRecord) : String :=
  JSON_REFERENCE ++ (record.image_reference ++ (JSON_SUMMARY ++ (JSON_SOURCE ++ (JSON_PREPARED
    ++ (JSON_INPUT ++ (toString record.summary.input_size_bytes ++ (JSON_COLOR ++ (JSON_TIMES
      ++ (JSON_STORED ++ (toString record.stored_bytes ++ (JSON_CHECKSUM ++ (record.checksum
        ++ JSON_END))))))))))))

def json_bytes (record : StoredImageRecord) : List UInt8 :=
  (record_json record).toList.map fun c => UInt8.ofNat c.toNat

/-- The digits of the upload with this number. -/
def upload_uuid (number : ℕ) : String :=
  String.ofList (List.replicate number 'a' ++ List.replicate (32 - number) '0')

def upload_call (number : ℕ) : StorageCall where
  swept_at := 0
  written_at := 0
  recorded_at := 0
  uuid := upload_uuid number

def zero_digest : String :=
  String.ofList (List.replicate 64 '0')

/-- The record of an upload of this size. -/
def upload_record (number size : ℕ) : StoredImageRecord where
  image_reference := "image_" ++ upload_uuid number
  purpose := .encoded
  summary := black_summary size
  warnings := []
  created_at := 0
  expires_at := 0 + RETENTION_SECONDS
  stored_bytes := size
  checksum := zero_digest

/-- Tools for the black images; of the digest only the length matters. -/
def black_tools : ImageTools where
  prepare_image _ := .error (image_failure "image_limits")
  read_prepared_png data :=
    if data = padded_image (data.length - PLAIN_BYTES) then .ok (black_summary data.length)
    else .error (image_failure "image_invalid")
  sha256 _ := zero_digest
  model_dump_json := json_bytes
  model_validate_json bytes :=
    ((List.range 31).map fun number => upload_record number MAXIMUM_UPLOAD_BYTES).find?
      fun record => json_bytes record = bytes

def EMPTY_DISK : InferenceDisk where
  images := .empty
  results := .empty
  scratch := .empty

/-- The upload of a black image with so many bytes of padding. -/
def upload (number padding : ℕ) : StorageEvent :=
  .store (upload_call number) .encoded (padded_image padding)

/-- The padding of an image of the greatest size. -/
def FULL_PADDING : ℕ := 15990132

section Filling

variable {number padding size : ℕ}

lemma length_BLACK_PIXELS : BLACK_PIXELS.length = 787015 := by
  have hblock : ([0x00, 0xff, 0xff, 0x00, 0x00] ++ List.replicate 65535 0 : List UInt8).length
      = 65540 := by
    rw [List.length_append, List.length_replicate]
    rfl
  have hrest : ([0x01, 0x0c, 0x02, 0xf3, 0xfd] ++ List.replicate 524 0 : List UInt8).length
      = 529 := by
    rw [List.length_append, List.length_replicate]
    rfl
  rw [BLACK_PIXELS, List.length_append, List.length_append, List.length_append, List.length_flatten,
    List.map_replicate, List.sum_replicate_nat, hblock, hrest]
  rfl

lemma length_image_bytes (padding : ℕ) (pixels : List UInt8) :
    (PNG_SIGNATURE ++ chunk_bytes png_crc32
      [⟨IHDR, [0, 0, 2, 0, 0, 0, 2, 0, 8, 2, 0, 0, 0]⟩,
        ⟨[0x73, 0x74, 0x45, 0x67], List.replicate padding 0⟩, ⟨IDAT, pixels⟩, ⟨IEND, []⟩]).length
      = 69 + padding + pixels.length := by
  simp only [PNG_SIGNATURE, chunk_bytes, List.flatMap_cons, List.flatMap_nil, List.length_append,
    length_bytes, List.length_replicate, IHDR, IDAT, IEND, List.length_cons, List.length_nil]
  omega

lemma length_padded_image (padding : ℕ) : (padded_image padding).length = PLAIN_BYTES + padding := by
  rw [padded_image, length_image_bytes, length_BLACK_PIXELS, PLAIN_BYTES]
  omega

lemma length_full_image : (padded_image FULL_PADDING).length = MAXIMUM_UPLOAD_BYTES :=
  length_padded_image FULL_PADDING

lemma signature_prefix_padded_image (padding : ℕ) : PNG_SIGNATURE <+: padded_image padding := by
  rw [padded_image]
  exact List.prefix_append _ _

lemma read_upload (h : (padded_image padding).length = size) :
    black_tools.read_prepared_png (padded_image padding) = .ok (black_summary size) := by
  have hpadding : size - PLAIN_BYTES = padding := by
    rw [← h, length_padded_image, Nat.add_sub_cancel_left]
  unfold black_tools
  dsimp only
  rw [h, hpadding, if_pos rfl]

lemma toList_upload_uuid : (upload_uuid number).toList
    = List.replicate number 'a' ++ List.replicate (32 - number) '0' :=
  String.toList_ofList

lemma upload_uuid_inj {number' : ℕ} (h : upload_uuid number = upload_uuid number') :
    number = number' := by
  have hcount := congrArg (fun text => text.toList.count 'a') h
  simpa [toList_upload_uuid, List.count_append, List.count_replicate] using hcount

lemma length_record_json (record : StoredImageRecord) :
    (record_json record).length = JSON_REFERENCE.length + (record.image_reference.length
      + (JSON_SUMMARY.length + (JSON_SOURCE.length + (JSON_PREPARED.length + (JSON_INPUT.length
        + ((toString record.summary.input_size_bytes).length + (JSON_COLOR.length
          + (JSON_TIMES.length + (JSON_STORED.length + ((toString record.stored_bytes).length
            + (JSON_CHECKSUM.length + (record.checksum.length + JSON_END.length)))))))))))) := by
  simp only [record_json, String.length_append]

lemma length_upload_uuid (h : number ≤ 32) : (upload_uuid number).length = 32 := by
  rw [← String.length_toList, toList_upload_uuid, List.length_append, List.length_replicate,
    List.length_replicate]
  omega

@[irreducible] def RECORD_BYTES : ℕ :=
  (json_bytes (upload_record 0 MAXIMUM_UPLOAD_BYTES)).length

/-- The records of uploads of one size are equally long. -/
lemma length_json_bytes (h : number ≤ 32) :
    (json_bytes (upload_record number MAXIMUM_UPLOAD_BYTES)).length = RECORD_BYTES := by
  have hreference (number' : ℕ) (h' : number' ≤ 32) :
      (upload_record number' MAXIMUM_UPLOAD_BYTES).image_reference.length = "image_".length + 32 := by
    rw [upload_record, String.length_append, length_upload_uuid h']
  unfold RECORD_BYTES json_bytes
  rw [List.length_map, List.length_map, String.length_toList, String.length_toList,
    length_record_json, length_record_json, hreference number h, hreference 0 (Nat.zero_le _)]
  rfl

lemma length_repeated (length : ℕ) (c : Char) :
    (String.ofList (List.replicate length c)).length = length := by
  rw [← String.length_toList, String.toList_ofList, List.length_replicate]

lemma length_zero_digest : zero_digest.length = 64 :=
  length_repeated 64 '0'

lemma RECORD_BYTES_le : RECORD_BYTES ≤ 1000 := by
  have hreference : (upload_record 0 MAXIMUM_UPLOAD_BYTES).image_reference.length
      = "image_".length + 32 := by
    rw [upload_record, String.length_append, length_upload_uuid (Nat.zero_le _)]
  have hchecksum : (upload_record 0 MAXIMUM_UPLOAD_BYTES).checksum.length = 64 :=
    length_zero_digest
  have hsize : (toString MAXIMUM_UPLOAD_BYTES).length = 8 := by
    decide
  have hinput : (toString (upload_record 0 MAXIMUM_UPLOAD_BYTES).summary.input_size_bytes).length
      = 8 := hsize
  have hstored : (toString (upload_record 0 MAXIMUM_UPLOAD_BYTES).stored_bytes).length = 8 := hsize
  have himage : "image_".length ≤ 80 := by decide
  have hjson : JSON_REFERENCE.length ≤ 80 := by decide
  have hsummary : JSON_SUMMARY.length ≤ 80 := by decide
  have hsource : JSON_SOURCE.length ≤ 80 := by decide
  have hprepared : JSON_PREPARED.length ≤ 80 := by decide
  have hinput_name : JSON_INPUT.length ≤ 80 := by decide
  have hcolor : JSON_COLOR.length ≤ 80 := by decide
  have htimes : JSON_TIMES.length ≤ 80 := by decide
  have hstored_name : JSON_STORED.length ≤ 80 := by decide
  have hchecksum_name : JSON_CHECKSUM.length ≤ 80 := by decide
  have hend : JSON_END.length ≤ 80 := by decide
  unfold RECORD_BYTES json_bytes
  rw [List.length_map, String.length_toList, length_record_json, hreference, hchecksum, hinput,
    hstored]
  omega

lemma json_bytes_pos (record : StoredImageRecord) : 0 < (json_bytes record).length := by
  have hpiece : 0 < JSON_REFERENCE.length := by
    decide
  unfold json_bytes
  rw [List.length_map, String.length_toList, length_record_json]
  omega

lemma all_hexadecimal_replicate {c : Char} (length : ℕ) (h : is_hexadecimal c = true) :
    (List.replicate length c).all is_hexadecimal = true := by
  rw [List.all_eq_true]
  intro d hd
  rw [(List.mem_replicate.mp hd).2]
  exact h

lemma hexadecimal_upload_uuid (h : number ≤ 32) :
    hexadecimal 32 (upload_uuid number).toList = true := by
  have hlength : (upload_uuid number).toList.length = 32 := by
    rw [String.length_toList, length_upload_uuid h]
  have hdigits : (upload_uuid number).toList.all is_hexadecimal = true := by
    rw [toList_upload_uuid, List.all_append, all_hexadecimal_replicate _ rfl,
      all_hexadecimal_replicate _ rfl]
    rfl
  rw [hexadecimal, hlength, hdigits]
  rfl

lemma hexadecimal_repeated (length : ℕ) :
    hexadecimal length (String.ofList (List.replicate length '0')).toList = true := by
  rw [String.toList_ofList, hexadecimal, List.length_replicate, all_hexadecimal_replicate _ rfl]
  simp

lemma RETENTION_SECONDS_pos : 0 < RETENTION_SECONDS := by
  rw [RETENTION_SECONDS]
  norm_num

lemma valid_upload_record (h : number ≤ 32) (hsize : 1 ≤ size)
    (hsize' : size ≤ MAXIMUM_STORED_IMAGE_BYTES) : valid_record (upload_record number size) = true := by
  have hreference : stored_reference ("image_" ++ upload_uuid number) = true := by
    have hdrop : ("image_" ++ upload_uuid number).toList.drop 6 = (upload_uuid number).toList := by
      rw [String.toList_append]
      rfl
    have hstart : "image_".toList.isPrefixOf ( "image_" ++ upload_uuid number).toList = true := by
      rw [String.toList_append, List.isPrefixOf_iff_prefix]
      exact List.prefix_append _ _
    rw [stored_reference, hdrop, hstart, hexadecimal_upload_uuid h]
    rfl
  have hchecksum : hexadecimal 64 zero_digest.toList = true :=
    hexadecimal_repeated 64
  simp [valid_record, upload_record, hreference, hchecksum, RETENTION_SECONDS_pos, black_summary,
    hsize, hsize']

/-- An upload does not expire at once. -/
lemma fresh_upload {name : String} {directory : StoredDirectory} (h : directory.modified_at = 0) :
    expired black_tools (upload_call number) name directory = false := by
  have hretention : ¬ RETENTION_SECONDS ≤ 0 :=
    not_le.mpr RETENTION_SECONDS_pos
  have hrecord : ∀ bytes record, black_tools.model_validate_json bytes = some record →
      record.expires_at = RETENTION_SECONDS := by
    intro bytes record hfind
    unfold black_tools at hfind
    dsimp only at hfind
    obtain ⟨number', -, hrecord⟩ := List.mem_map.mp (List.mem_of_find?_eq_some hfind)
    rw [← hrecord, upload_record, zero_add]
  unfold expired
  dsimp only
  split
  · next record hfound =>
    rw [Option.bind_eq_bind, Option.bind_eq_some_iff] at hfound
    obtain ⟨content, -, hcontent⟩ := hfound
    split_ifs at hcontent
    rw [hrecord content record hcontent]
    exact decide_eq_false hretention
  · rw [h, upload_call, sub_zero]
    exact decide_eq_false hretention

/-- The disk behind so many uploads of the greatest size. -/
structure Filled (number : ℕ) (disk : InferenceDisk) : Prop where
  used : used_bytes disk = number * (MAXIMUM_UPLOAD_BYTES + RECORD_BYTES)
  images : ∀ name directory, disk.images.get? name = some directory →
    (∃ earlier < number, name = "image_" ++ upload_uuid earlier) ∧ directory.modified_at = 0
  results : disk.results = .empty
  scratch : disk.scratch = .empty

lemma filled_empty : Filled 0 EMPTY_DISK where
  used := by
    rw [Nat.zero_mul]
    rfl
  images name directory h := absurd h (by simp [EMPTY_DISK])
  results := rfl
  scratch := rfl

lemma calm_upload : Calm (upload_call number) :=
  ⟨fun _ => rfl, rfl, fun _ => rfl, rfl, rfl, rfl, rfl, rfl⟩

lemma Filled.sweep (h : Filled number disk) :
    sweep black_tools (upload_call number) disk = (.ok 0, disk) := by
  apply sweep_of_fresh calm_upload
  · intro entry hentry
    have hget : disk.images.get? entry.1 = some entry.2 :=
      (Dict.lookup_eq_some_iff disk.images.nodup_keys).mpr hentry
    exact fresh_upload (h.images _ _ hget).2
  · rw [h.results]
    exact fun entry hentry => absurd hentry List.not_mem_nil
  · rw [h.scratch]
    rfl

lemma image_record_upload (h : (padded_image padding).length = size) :
    image_record black_tools (upload_call number) ("image_" ++ (upload_call number).uuid) .encoded
      (black_summary size) (padded_image padding) [] = upload_record number size := by
  rw [image_record, h]
  rfl

/-- An upload that fits is stored. -/
lemma Filled.store (h : Filled number disk) (hnumber : number ≤ 32)
    (hlength : (padded_image padding).length = size) (hsize : size ≤ MAXIMUM_UPLOAD_BYTES)
    (hroom : used_bytes disk + size ≤ STORAGE_CAP_BYTES) :
    store black_tools (upload_call number) .encoded (padded_image padding) disk
      = (.ok (upload_record number size).toUploadedImage,
        with_upload black_tools (upload_call number) (padded_image padding) (black_summary size)
          disk) := by
  have hnew : disk.images.get? ("image_" ++ upload_uuid number) = none := by
    cases hget : disk.images.get? ("image_" ++ upload_uuid number) with
    | none => rfl
    | some directory =>
      obtain ⟨⟨earlier, hearlier, hname⟩, -⟩ := h.images _ _ hget
      have hsame := upload_uuid_inj (String.append_right_inj _ |>.mp hname)
      omega
  have hvalid : valid_record (upload_record number size) = true := by
    apply valid_upload_record hnumber
    · rw [← hlength, length_padded_image, PLAIN_BYTES]
      omega
    · rw [MAXIMUM_UPLOAD_BYTES] at hsize
      rw [MAXIMUM_STORED_IMAGE_BYTES]
      omega
  have hstore := @store_of_room black_tools disk (upload_call number) calm_upload h.sweep
    (padded_image padding) (black_summary size) (by rwa [hlength]) (by rwa [hlength]) hnew
    (signature_prefix_padded_image _) (read_upload hlength)
  rw [image_record_upload hlength] at hstore
  exact hstore hvalid

/-- What the upload of an image adds. -/
lemma Filled.used_bytes_upload (h : Filled number disk) (hnumber : number ≤ 32)
    (hlength : (padded_image padding).length = size) (hsize : size ≤ MAXIMUM_UPLOAD_BYTES)
    (hroom : used_bytes disk + size ≤ STORAGE_CAP_BYTES) :
    used_bytes (step black_tools disk (upload number padding))
      = used_bytes disk + size + (json_bytes (upload_record number size)).length := by
  have hstore := h.store hnumber hlength hsize hroom
  obtain ⟨saved, hsaved, -, hused⟩ := store_returned hstore
  have hprepared : prepared_image black_tools (padded_image padding) .encoded
      = .ok (black_summary size, padded_image padding, []) := by
    rw [prepared_image, read_upload hlength]
    rfl
  rw [hprepared] at hsaved
  obtain rfl := Except.ok.inj hsaved
  have hswept : swept black_tools (upload_call number) disk = disk := congrArg Prod.snd h.sweep
  have himage : image_bytes (upload_call number) (padded_image padding) .encoded = size := hlength
  have hstep : step black_tools disk (upload number padding)
      = with_upload black_tools (upload_call number) (padded_image padding) (black_summary size)
        disk := congrArg Prod.snd hstore
  rw [hswept, image_record_upload hlength, himage] at hused
  rw [hstep, hused]
  rfl

lemma Filled.upload (h : Filled number disk) (hnumber : number < 31)
    (hlength : (padded_image padding).length = MAXIMUM_UPLOAD_BYTES) :
    Filled (number + 1) (step black_tools disk (upload number padding)) := by
  have hbound := RECORD_BYTES_le
  have hroom : used_bytes disk + MAXIMUM_UPLOAD_BYTES ≤ STORAGE_CAP_BYTES := by
    rw [h.used, MAXIMUM_UPLOAD_BYTES, STORAGE_CAP_BYTES]
    generalize RECORD_BYTES = bytes at hbound
    have hproduct : number * (16777216 + bytes) ≤ 30 * (16777216 + 1000) :=
      Nat.mul_le_mul (Nat.le_of_lt_succ hnumber) (Nat.add_le_add_left hbound _)
    omega
  have hstore := h.store (by omega) hlength le_rfl hroom
  have hstep : step black_tools disk (InferenceFileStore.upload number padding)
      = with_upload black_tools (upload_call number) (padded_image padding)
        (black_summary MAXIMUM_UPLOAD_BYTES) disk := congrArg Prod.snd hstore
  constructor
  · rw [h.used_bytes_upload (by omega) hlength le_rfl hroom, h.used,
      length_json_bytes (by omega), Nat.succ_mul, Nat.add_assoc]
  · intro name directory hget
    rw [hstep] at hget
    obtain ⟨files, hfiles⟩ := @with_upload_images black_tools disk (upload_call number)
      (padded_image padding) (black_summary MAXIMUM_UPLOAD_BYTES) name
    rw [hfiles] at hget
    split_ifs at hget with hname
    · obtain rfl := Option.some.inj hget
      exact ⟨⟨number, Nat.lt_succ_self _, hname⟩, rfl⟩
    · obtain ⟨⟨earlier, hearlier, hname⟩, htime⟩ := h.images name directory hget
      exact ⟨⟨earlier, Nat.lt_succ_of_lt hearlier, hname⟩, htime⟩
  · rw [hstep, (with_upload_rest _ _).1, h.results]
  · rw [hstep, (with_upload_rest _ _).2, h.scratch]

/-- Uploads of the greatest size, one after another. -/
def uploads (number : ℕ) : List StorageEvent :=
  (List.range number).map fun number => upload number FULL_PADDING

lemma filled_uploads (h : number ≤ 31) :
    Filled number (history black_tools EMPTY_DISK (uploads number)) := by
  induction number with
  | zero => exact filled_empty
  | succ number ih =>
    have hnext := (ih (by omega)).upload (by omega) length_full_image
    rw [uploads, List.range_succ, List.map_append, List.map_singleton, history_snoc]
    exact hnext

end Filling

/-- The upload that fills the storage to its cap, and its record beyond it. -/
def last_upload : StorageEvent :=
  upload 31 (FULL_PADDING - 31 * RECORD_BYTES)

theorem full_storage_exceeds_cap :
    ¬ CapHolds black_tools EMPTY_DISK (uploads 31 ++ [last_upload]) := by
  intro hcap
  have hfilled := @filled_uploads 31 le_rfl
  have hbound := RECORD_BYTES_le
  have hlength : (padded_image (FULL_PADDING - 31 * RECORD_BYTES)).length
      = MAXIMUM_UPLOAD_BYTES - 31 * RECORD_BYTES := by
    rw [length_padded_image, PLAIN_BYTES, FULL_PADDING, MAXIMUM_UPLOAD_BYTES]
    generalize RECORD_BYTES = bytes at hbound
    omega
  have hroom : used_bytes (history black_tools EMPTY_DISK (uploads 31))
      + (MAXIMUM_UPLOAD_BYTES - 31 * RECORD_BYTES) = STORAGE_CAP_BYTES := by
    rw [hfilled.used, MAXIMUM_UPLOAD_BYTES, STORAGE_CAP_BYTES]
    generalize RECORD_BYTES = bytes at hbound
    omega
  have hstores : Stores black_tools (history black_tools EMPTY_DISK (uploads 31)) last_upload :=
    ⟨_, _, hfilled.store (by decide) hlength (Nat.sub_le _ _) hroom.le⟩
  have hwithin := hcap (uploads 31) last_upload [] rfl hstores
  have hbytes := hfilled.used_bytes_upload (by decide) hlength (Nat.sub_le _ _) hroom.le
  have hrecord := json_bytes_pos (upload_record 31 (MAXIMUM_UPLOAD_BYTES - 31 * RECORD_BYTES))
  rw [history_snoc, last_upload, hbytes, hroom] at hwithin
  omega

end InferenceFileStore
end StegoLab

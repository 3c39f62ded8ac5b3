import StegoLab.Inference.Files

/-!
# The cap of the inference storage

A call that stores an image leaves as many bytes more as the files that it adds. The room for the
image is checked, the room for its record is not.
-/

namespace StegoLab
namespace InferenceFileStore

open Transaction Program

variable {tools : ImageTools} {call : StorageCall} {s t : InferenceDisk} {shelf : Shelf}
  {name file identifier : String} {data : List UInt8} {u : Unit}

/-! ### Bytes -/

lemma used_bytes_edit (f : Dict StoredDirectory → Dict StoredDirectory) :
    used_bytes (shelf.edit f s) + directory_bytes (shelf.get s)
      = used_bytes s + directory_bytes (f (shelf.get s)) := by
  cases shelf with
  | images =>
    simp only [used_bytes, Shelf.edit, Shelf.get]
    omega
  | results =>
    simp only [used_bytes, Shelf.edit, Shelf.get]
    omega

@[simp] lemma get_edit (f : Dict StoredDirectory → Dict StoredDirectory) :
    shelf.get (shelf.edit f s) = f (shelf.get s) := by
  cases shelf with
  | images => rfl
  | results => rfl

lemma directory_bytes_insert (directories : Dict StoredDirectory) (directory : StoredDirectory) :
    directory_bytes (directories.insert name directory)
        + directories.weight_at StoredDirectory.bytes name
      = directory_bytes directories + directory.bytes :=
  Dict.sum_weights_insert StoredDirectory.bytes directories name directory

/-- A directory that is replaced changes the used bytes by its own. -/
lemma used_bytes_insert {before after : StoredDirectory}
    (h : (shelf.get s).get? name = some before) :
    used_bytes (shelf.edit (fun directories => directories.insert name after) s) + before.bytes
      = used_bytes s + after.bytes := by
  have hused := @used_bytes_edit s shelf fun directories => directories.insert name after
  have hdirectory := @directory_bytes_insert name (shelf.get s) after
  have hweight : (shelf.get s).weight_at StoredDirectory.bytes name = before.bytes := by
    rw [Dict.weight_at, h, Option.elim_some]
  rw [hweight] at hdirectory
  omega

lemma used_bytes_insert_new (h : (shelf.get s).get? name = none) (after : StoredDirectory) :
    used_bytes (shelf.edit (fun directories => directories.insert name after) s)
      = used_bytes s + after.bytes := by
  have hused := @used_bytes_edit s shelf fun directories => directories.insert name after
  have hdirectory := @directory_bytes_insert name (shelf.get s) after
  have hweight : (shelf.get s).weight_at StoredDirectory.bytes name = 0 := by
    rw [Dict.weight_at, h, Option.elim_none]
  rw [hweight] at hdirectory
  omega

lemma bytes_insert {files : Dict (List UInt8)} (h : files.get? file = none) (time : ℚ) :
    (StoredDirectory.mk (files.insert file data) time).bytes
      = (files.entries.map fun entry => entry.2.length).sum + data.length := by
  have hinsert := Dict.sum_weights_insert List.length files file data
  have hweight : files.weight_at List.length file = 0 := by
    rw [Dict.weight_at, h, Option.elim_none]
  rw [hweight, Nat.add_zero] at hinsert
  exact hinsert

lemma bytes_erase {files : Dict (List UInt8)} (h : files.get? file = some data) (time : ℚ) :
    (StoredDirectory.mk (files.erase file) time).bytes + data.length
      = (files.entries.map fun entry => entry.2.length).sum := by
  have herase := Dict.sum_weights_erase List.length files file
  have hweight : files.weight_at List.length file = data.length := by
    rw [Dict.weight_at, h, Option.elim_some]
  rw [hweight] at herase
  exact herase

/-! ### File operations -/

/-- A directory without the file. -/
def Missing (s : InferenceDisk) (shelf : Shelf) (name file : String) : Prop :=
  ∃ directory, (shelf.get s).get? name = some directory ∧ directory.files.get? file = none

lemma check_new_returned (h : check_new shelf name file s = (.ok u, t)) :
    t = s ∧ Missing s shelf name file := by
  unfold check_new at h
  obtain ⟨disk, v, hread, hrest⟩ := bind_ok.mp h
  obtain ⟨rfl, rfl⟩ := read_ok.mp hread
  obtain ⟨hcheck, rfl⟩ := attempt_returned hrest
  rw [raise_if_eq_ok, not_not, Option.map_eq_some_iff] at hcheck
  exact ⟨rfl, hcheck⟩

/-- A new file adds its bytes. -/
lemma used_bytes_put_file (h : Missing s shelf name file) :
    used_bytes (put_file call shelf name file data s) = used_bytes s + data.length := by
  obtain ⟨directory, hdirectory, hfile⟩ := h
  rw [put_file, hdirectory]
  have hused := @used_bytes_insert s shelf name directory
    ⟨directory.files.insert file data, call.written_at⟩ hdirectory
  have hbytes := @bytes_insert file data directory.files hfile call.written_at
  change _ = directory.bytes + data.length at hbytes
  dsimp only
  omega

lemma get?_put_file {directory : StoredDirectory} (h : (shelf.get s).get? name = some directory) :
    (shelf.get (put_file call shelf name file data s)).get? name
      = some ⟨directory.files.insert file data, call.written_at⟩ := by
  rw [put_file, h]
  simp

lemma write_new_file_returned {fault : Fault ℕ}
    (h : write_new_file call fault shelf name file data s = (.ok u, t)) :
    Missing s shelf name file ∧ t = put_file call shelf name file data s := by
  unfold write_new_file at h
  obtain ⟨_, v, hnew, hwrite⟩ := bind_ok.mp h
  obtain ⟨rfl, hmissing⟩ := check_new_returned hnew
  obtain rfl := none_of_returned hwrite
  exact ⟨hmissing, (congrArg Prod.snd hwrite).symm⟩

lemma link_file_returned (h : link_file call shelf name file data s = (.ok u, t)) :
    Missing s shelf name file ∧ t = put_file call shelf name file data s := by
  unfold link_file atomically at h
  obtain ⟨_, v, hnew, hlink⟩ := bind_ok.mp h
  obtain ⟨rfl, hmissing⟩ := check_new_returned hnew
  rw [none_of_returned hlink] at hlink
  exact ⟨hmissing, (congrArg Prod.snd hlink).symm⟩

/-- A link that fails leaves nothing. -/
lemma link_file_failed {e : Stop Raised} (h : link_file call shelf name file data s = (.error e, t)) :
    s = t := by
  unfold link_file at h
  rcases bind_error.mp h with hnew | ⟨_, v, hnew, hlink⟩
  · unfold check_new at hnew
    rcases bind_error.mp hnew with hread | ⟨disk, w, hread, hguard⟩
    · exact absurd (congrArg Prod.fst hread) (by simp [Transaction.read])
    · obtain ⟨rfl, rfl⟩ := read_ok.mp hread
      exact (attempt_failed hguard).2.symm
  · obtain ⟨rfl, -⟩ := check_new_returned hnew
    cases hfault : call.linking with
    | none =>
      rw [hfault] at hlink
      exact absurd (congrArg Prod.fst hlink) (by simp [atomically, operation])
    | error reached =>
      rw [hfault] at hlink
      exact congrArg Prod.snd hlink
    | crash reached =>
      rw [hfault] at hlink
      exact congrArg Prod.snd hlink

lemma make_directory_returned (h : make_directory call shelf name s = (.ok u, t)) :
    used_bytes t = used_bytes s := by
  unfold make_directory atomically at h
  obtain ⟨disk, v, hread, hrest⟩ := bind_ok.mp h
  obtain ⟨rfl, rfl⟩ := read_ok.mp hread
  obtain ⟨_, w, hguard, hmake⟩ := bind_ok.mp hrest
  obtain ⟨hcheck, rfl⟩ := attempt_returned hguard
  rw [raise_if_eq_ok, not_not] at hcheck
  rw [none_of_returned hmake] at hmake
  obtain rfl : _ = t := congrArg Prod.snd hmake
  exact used_bytes_insert_new hcheck _

lemma check_room_returned {fault : Fault Unit} {size : ℕ}
    (h : check_room fault size s = (.ok u, t)) :
    t = s ∧ used_bytes s + size ≤ STORAGE_CAP_BYTES := by
  unfold check_room at h
  obtain ⟨_, v, hinspect, hrest⟩ := bind_ok.mp h
  obtain ⟨-, rfl⟩ := inspect_returned hinspect
  obtain ⟨disk, w, hread, hguard⟩ := bind_ok.mp hrest
  obtain ⟨rfl, rfl⟩ := read_ok.mp hread
  obtain ⟨hcheck, rfl⟩ := attempt_returned hguard
  rw [raise_if_eq_ok, not_lt] at hcheck
  exact ⟨rfl, hcheck⟩

section Handlers

variable {α : Type} {program : InferenceProgram α} {a : α}

lemma storage_errors_returned (h : storage_errors program s = (.ok a, t)) :
    program s = (.ok a, t) := by
  rcases catching_returned h with h | ⟨e, v, -, h⟩
  · exact h
  · cases e <;> exact (raise_not_returned h).elim

lemma content_errors_returned (h : content_errors program s = (.ok a, t)) :
    program s = (.ok a, t) := by
  rcases catching_returned h with h | ⟨e, v, -, h⟩
  · exact h
  · cases e <;> exact (raise_not_returned h).elim

lemma removing_on_failure_returned
    (h : removing_on_failure call shelf name program s = (.ok a, t)) : program s = (.ok a, t) := by
  rcases catching_returned h with h | ⟨e, v, -, h⟩
  · exact h
  · obtain ⟨_, w, -, h⟩ := bind_ok.mp h
    exact (raise_not_returned h).elim

end Handlers

/-! ### Stored images -/

section Storing

variable {summary : ImageSummary} {stored : List UInt8} {warnings : List String}
  {purpose : ImagePurpose} {record : StoredImageRecord}

lemma write_record_returned
    (h : write_record tools call shelf identifier purpose summary stored warnings s
      = (.ok record, t)) :
    record = image_record tools call identifier purpose summary stored warnings ∧
      used_bytes t = used_bytes s + (tools.model_dump_json record).length := by
  unfold write_record at h
  obtain ⟨_, v, hvalid, hrest⟩ := bind_ok.mp h
  obtain ⟨-, rfl⟩ := attempt_returned hvalid
  obtain ⟨_, w, hwrite, hpure⟩ := bind_ok.mp hrest
  obtain ⟨rfl, rfl⟩ := pure_ok.mp hpure
  obtain ⟨hmissing, rfl⟩ := write_new_file_returned hwrite
  exact ⟨rfl, used_bytes_put_file hmissing⟩

/-- The bytes of the image files that a call leaves: a temporary copy may stay. -/
def image_bytes (call : StorageCall) (stored : List UInt8) : ImagePurpose → ℕ
  | .cover => if call.stuck then 2 * stored.length else stored.length
  | .encoded => stored.length

lemma unlink_temporary_returned {directory : StoredDirectory}
    (hdirectory : (shelf.get s).get? name = some directory)
    (hfile : directory.files.get? call.temporary = some data)
    (h : unlink_temporary call shelf name s = (.ok u, t)) :
    used_bytes t + (if call.stuck then 0 else data.length) = used_bytes s := by
  have ht : t = if call.stuck then s
      else shelf.edit (fun directories => directories.insert name
        ⟨directory.files.erase call.temporary, call.written_at⟩) s := by
    unfold unlink_temporary at h
    rw [atomically_none, hdirectory] at h
    exact (congrArg Prod.snd h).symm
  rw [ht]
  split_ifs
  · rfl
  · have hused := @used_bytes_insert s shelf name directory
      ⟨directory.files.erase call.temporary, call.written_at⟩ hdirectory
    have hbytes := @bytes_erase call.temporary data directory.files hfile call.written_at
    change _ = directory.bytes at hbytes
    omega

/-- The temporary file is removed or stays beside the image. -/
lemma write_png_returned (h : write_png call identifier data s = (.ok u, t)) :
    used_bytes t = used_bytes s + image_bytes call data .cover := by
  unfold write_png at h
  obtain ⟨v, hwrite, hunlink⟩ := finally_do_returned h
  rcases catching_returned hwrite with hwrite | ⟨e, w, -, hraise⟩
  · obtain ⟨_, w, htemporary, hlink⟩ := bind_ok.mp hwrite
    obtain ⟨hmissing, rfl⟩ := write_new_file_returned htemporary
    obtain ⟨hmissing', rfl⟩ := link_file_returned hlink
    have hused := @used_bytes_put_file call s .images identifier call.temporary data hmissing
    have hused' := @used_bytes_put_file call _ .images identifier IMAGE_FILE data hmissing'
    obtain ⟨directory, hdirectory, -⟩ := hmissing
    obtain ⟨directory', hdirectory', hfile'⟩ := hmissing'
    have hget := @get?_put_file call s .images identifier call.temporary data directory hdirectory
    obtain rfl := Option.some.inj (hget.symm.trans hdirectory')
    have hname : call.temporary ≠ IMAGE_FILE := by
      intro heq
      rw [heq] at hfile'
      simp at hfile'
    have hget' := @get?_put_file call _ .images identifier IMAGE_FILE data _ hdirectory'
    have hbytes := @unlink_temporary_returned call _ _ .images identifier data _ _ hget'
      (by simp [hname]) hunlink
    rw [image_bytes]
    split_ifs at hbytes ⊢
    · omega
    · omega
  · cases e <;> exact (raise_not_returned hraise).elim

/-- The image that a call stores, by its purpose. -/
def prepared_image (tools : ImageTools) (data : List UInt8) :
    ImagePurpose → Except ApplicationFailure (ImageSummary × List UInt8 × List String)
  | .cover => (tools.prepare_image data).map fun prepared =>
    (prepared.1, prepared.2, summary_warnings prepared.1)
  | .encoded => (tools.read_prepared_png data).map fun summary => (summary, data, [])

lemma save_image_returned {saved : ImageSummary × List UInt8 × List String}
    (h : save_image tools call identifier data purpose s = (.ok saved, t)) :
    prepared_image tools data purpose = .ok saved ∧
      used_bytes t = used_bytes s + image_bytes call saved.2.1 purpose := by
  cases purpose with
  | cover =>
    obtain ⟨prepared, v, hattempt, hrest⟩ := bind_ok.mp h
    obtain ⟨hprepared, rfl⟩ := attempt_returned hattempt
    obtain ⟨_, w, hwrite, hread⟩ := bind_ok.mp hrest
    obtain ⟨_, x, hinspect, hcheck⟩ := bind_ok.mp hread
    obtain ⟨-, rfl⟩ := inspect_returned hinspect
    obtain ⟨_, y, hguard, hpure⟩ := bind_ok.mp hcheck
    obtain ⟨-, rfl⟩ := attempt_returned hguard
    obtain ⟨rfl, rfl⟩ := pure_ok.mp hpure
    refine ⟨?_, write_png_returned hwrite⟩
    cases hprepare : tools.prepare_image data with
    | error e =>
      rw [hprepare] at hprepared
      exact absurd hprepared (by simp [Except.mapError])
    | ok prepared' =>
      rw [hprepare] at hprepared
      obtain rfl : prepared' = prepared := Except.ok.inj hprepared
      rw [prepared_image, hprepare]
      rfl
  | encoded =>
    obtain ⟨_, v, hguard, hrest⟩ := bind_ok.mp h
    obtain ⟨-, rfl⟩ := attempt_returned hguard
    obtain ⟨summary, w, hattempt, hsave⟩ := bind_ok.mp hrest
    obtain ⟨hsummary, rfl⟩ := attempt_returned hattempt
    obtain ⟨_, x, hwrite, hpure⟩ := bind_ok.mp hsave
    obtain ⟨rfl, rfl⟩ := pure_ok.mp hpure
    obtain ⟨hmissing, rfl⟩ := write_new_file_returned hwrite
    refine ⟨?_, used_bytes_put_file hmissing⟩
    cases hread : tools.read_prepared_png data with
    | error e =>
      rw [hread] at hsummary
      exact absurd hsummary (by simp [Except.mapError])
    | ok summary' =>
      rw [hread] at hsummary
      obtain rfl : summary' = summary := Except.ok.inj hsummary
      rw [prepared_image, hread]
      rfl

/-- The disk behind the sweep of a call. -/
def swept (tools : ImageTools) (call : StorageCall) (disk : InferenceDisk) : InferenceDisk :=
  (sweep tools call disk).2

lemma write_upload_returned
    (h : write_upload tools call identifier purpose data s = (.ok record, t)) :
    ∃ saved, prepared_image tools data purpose = .ok saved ∧
      record = image_record tools call identifier purpose saved.1 saved.2.1 saved.2.2 ∧
      used_bytes s + image_bytes call saved.2.1 purpose ≤ STORAGE_CAP_BYTES ∧
      used_bytes t = used_bytes s + image_bytes call saved.2.1 purpose
        + (tools.model_dump_json record).length := by
  obtain ⟨saved, v, hsave, hrest⟩ := bind_ok.mp (content_errors_returned h)
  obtain ⟨hprepared, hused⟩ := save_image_returned hsave
  obtain ⟨_, w, hroom, hrecord⟩ := bind_ok.mp hrest
  obtain ⟨rfl, hcap⟩ := check_room_returned hroom
  obtain ⟨hvalue, hbytes⟩ := write_record_returned hrecord
  refine ⟨saved, hprepared, hvalue, ?_, ?_⟩
  · rw [← hused]
    exact hcap
  · rw [hbytes, hused]

/-- What a successful `store` adds to the disk behind its sweep. -/
lemma store_returned {image : UploadedImage}
    (h : store tools call purpose data s = (.ok image, t)) :
    ∃ saved, prepared_image tools data purpose = .ok saved ∧
      used_bytes (swept tools call s) + image_bytes call saved.2.1 purpose ≤ STORAGE_CAP_BYTES ∧
      used_bytes t = used_bytes (swept tools call s) + image_bytes call saved.2.1 purpose
        + (tools.model_dump_json (image_record tools call ("image_" ++ call.uuid) purpose saved.1
          saved.2.1 saved.2.2)).length := by
  obtain ⟨_, v, hsize, hrest⟩ := bind_ok.mp h
  obtain ⟨-, rfl⟩ := attempt_returned hsize
  obtain ⟨removed, w, hsweep, hchecked⟩ := bind_ok.mp hrest
  obtain ⟨_, x, hdirectory, hstored⟩ := bind_ok.mp hchecked
  obtain ⟨_, y, hroom, hmake⟩ := bind_ok.mp (storage_errors_returned hdirectory)
  obtain ⟨rfl, -⟩ := check_room_returned hroom
  obtain ⟨record, z, hupload, hpure⟩ := bind_ok.mp (removing_on_failure_returned hstored)
  obtain ⟨-, rfl⟩ := pure_ok.mp hpure
  obtain ⟨saved, hprepared, rfl, hcap, hused⟩ := write_upload_returned hupload
  have hswept : swept tools call v = y := congrArg Prod.snd hsweep
  rw [make_directory_returned hmake] at hcap hused
  rw [hswept]
  exact ⟨saved, hprepared, hcap, hused⟩

/-- The file of a scratch folder. -/
def source_file (disk : InferenceDisk) (folder file : String) : Option (List UInt8) :=
  (disk.scratch.get? folder).bind fun directory => directory.files.get? file

lemma read_source_returned {folder : String}
    (h : read_source call folder file s = (.ok data, t)) :
    t = s ∧ source_file s folder file = some data := by
  obtain ⟨_, v, hinspect, hrest⟩ := bind_ok.mp h
  obtain ⟨-, rfl⟩ := inspect_returned hinspect
  obtain ⟨disk, w, hread, hfile⟩ := bind_ok.mp hrest
  obtain ⟨rfl, rfl⟩ := read_ok.mp hread
  cases hsource : source_file v folder file with
  | none =>
    unfold source_file at hsource
    simp only [hsource] at hfile
    exact (raise_not_returned hfile).elim
  | some content =>
    have hfound := hsource
    unfold source_file at hfound
    simp only [hfound] at hfile
    obtain ⟨_, x, hguard, hpure⟩ := bind_ok.mp hfile
    obtain ⟨-, rfl⟩ := attempt_returned hguard
    obtain ⟨rfl, rfl⟩ := pure_ok.mp hpure
    exact ⟨rfl, rfl⟩

/-- What a successful `publish_result` adds to the disk behind its sweep. -/
lemma publish_result_returned {folder : String}
    (h : publish_result tools call folder file s = (.ok record, t)) :
    ∃ data summary, source_file (swept tools call s) folder file = some data ∧
      tools.read_prepared_png data = .ok summary ∧
      used_bytes (swept tools call s) + data.length ≤ STORAGE_CAP_BYTES ∧
      used_bytes t = used_bytes (swept tools call s) + data.length
        + (tools.model_dump_json (image_record tools call ("encoded_" ++ call.uuid) .encoded summary
          data [])).length := by
  obtain ⟨removed, v, hsweep, hrest⟩ := bind_ok.mp h
  obtain ⟨data, w, hopened, hstored⟩ := bind_ok.mp hrest
  obtain ⟨data', x, hread, hchecked⟩ := bind_ok.mp (content_errors_returned hopened)
  obtain ⟨rfl, hsource⟩ := read_source_returned hread
  obtain ⟨_, y, hroom, hmake⟩ := bind_ok.mp hchecked
  obtain ⟨rfl, hcap⟩ := check_room_returned hroom
  obtain ⟨_, z, hdirectory, hpure⟩ := bind_ok.mp hmake
  obtain ⟨rfl, rfl⟩ := pure_ok.mp hpure
  obtain ⟨summary, x, hattempt, hsaved⟩ := bind_ok.mp (removing_on_failure_returned hstored)
  obtain ⟨hsummary, rfl⟩ := attempt_returned hattempt
  obtain ⟨_, x', himage, hrecord⟩ := bind_ok.mp hsaved
  obtain ⟨rfl, hused⟩ := write_record_returned hrecord
  have hswept : swept tools call s = y := congrArg Prod.snd hsweep
  have himage_bytes : used_bytes x' = used_bytes x + data'.length := by
    rcases catching_returned himage with hlink | ⟨e, disk, hfailed, hhandler⟩
    · obtain ⟨hmissing, rfl⟩ := link_file_returned hlink
      exact used_bytes_put_file hmissing
    · obtain rfl := link_file_failed hfailed
      cases e with
      | os_error =>
        obtain ⟨hmissing, rfl⟩ := write_new_file_returned hhandler
        exact used_bytes_put_file hmissing
      | application failure => exact (raise_not_returned hhandler).elim
      | value_error => exact (raise_not_returned hhandler).elim
  have hprepared : tools.read_prepared_png data' = .ok summary := by
    cases hread : tools.read_prepared_png data' with
    | error e =>
      rw [hread] at hsummary
      exact absurd hsummary (by simp [Except.mapError])
    | ok summary' =>
      rw [hread] at hsummary
      exact congrArg Except.ok (Except.ok.inj hsummary)
  rw [make_directory_returned hdirectory] at himage_bytes
  rw [hswept]
  refine ⟨data', summary, hsource, hprepared, hcap, ?_⟩
  rw [hused, himage_bytes]

end Storing

end InferenceFileStore
end StegoLab

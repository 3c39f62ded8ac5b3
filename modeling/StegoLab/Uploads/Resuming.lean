import StegoLab.Uploads.Truthful

/-!
# Resuming an upload

A client that finds a truthful record sends the parts that it misses and completes the session.
Without faults the store accepts each of these calls, or refuses it for the space, for the content
or for a different part at the same index.
-/

namespace StegoLab

open Transaction Program UploadSessionFiles DatasetUploadStore UploadDisk

variable {identifier : String} {index : ℕ} {data : List UInt8} {stored : ValidUpload}
  {surroundings : UploadSurroundings} {sha256 : List UInt8 → String} {directory : SessionDirectory}
  {disk : UploadDisk}

/-- The call was refused with one of the codes. -/
def RefusedWith {α : Type} (codes : List String) (outcome : Except (Stop Raised) α) : Prop :=
  ∃ failure, failure.code ∈ codes ∧ outcome = .error (.raised (.application failure))

/-- An unfinished session can be continued from its record: without faults and before it expires,
every part that it does not list is accepted, unless another part of that size is there, and once
all are listed it completes; either is refused only for the space or for the content. -/
def Resumable (sha256 : List UInt8 → String) (disk : UploadDisk) : Prop :=
  ∀ identifier stored surroundings, disk.record? identifier = some stored →
    stored.1.session.complete = false → surroundings.faults = {} →
    surroundings.clock identifier < stored.1.session.expires_at →
      (∀ index data, index < stored.1.session.chunk_count →
        index ∉ stored.1.session.received_chunks →
        data.length = expected_chunk_bytes stored.1.session index →
          (∃ chunk, (receive_chunk surroundings sha256 identifier index data disk).1 = .ok chunk ∧
            ∀ other, other ∈ chunk.received_chunks ↔
              other ∈ stored.1.session.received_chunks ∨ other = index) ∨
          RefusedWith ["upload_storage_full", "dataset_storage", "dataset_space"]
            (receive_chunk surroundings sha256 identifier index data disk).1 ∨
          ∃ present, disk.chunk? identifier index = some present ∧ sha256 present ≠ sha256 data) ∧
      (stored.1.session.received_chunks.length = stored.1.session.chunk_count →
        (∃ session, (complete surroundings sha256 identifier disk).1 = .ok session ∧
          session.complete = true) ∨
        RefusedWith ["upload_storage_full", "dataset_storage", "dataset_space",
            "upload_checksum_mismatch", "upload_not_archive"]
          (complete surroundings sha256 identifier disk).1)

/-! ### Calls without faults -/

lemma load_of_record (hfaults : surroundings.faults = {})
    (hidentifier : is_upload_identifier identifier = true)
    (hrecord : disk.record? identifier = some stored)
    (hclock : surroundings.clock identifier < stored.1.session.expires_at) :
    load surroundings identifier disk = (.ok stored, disk) := by
  have hread : read_record surroundings.faults identifier disk = (.ok (some stored), disk) := by
    rw [hfaults, read_record, bind_of_ok inspect_none, Program.read_bind, hrecord]
    rfl
  rw [load, if_pos hidentifier, bind_of_ok hread]
  change live surroundings identifier stored disk = _
  rw [live, if_neg (not_le.mpr hclock)]
  rfl

lemma save_record_returns (stored : ValidUpload) (disk : UploadDisk) :
    ∃ after, save_record {} stored disk = (.ok (), after) :=
  ⟨_, rfl⟩

lemma write_chunk_returns (identifier : String) (index : ℕ) (data : List UInt8)
    (disk : UploadDisk) : ∃ after, write_chunk {} identifier index data disk = (.ok (), after) :=
  ⟨_, rfl⟩

/-- The lock changes no result, and refusals stay as they are. -/
lemma serialised_fst {α : Type} {program : UploadProgram α} (hfaults : surroundings.faults = {})
    {outcome : Except (Stop Raised) α} (hprogram : (program disk).1 = outcome)
    (hrefused : ∀ e, outcome = .error e → ∃ failure, e = .raised (.application failure)) :
    (serialised surroundings program disk).1 = outcome := by
  have hlocked : locked surroundings.faults program disk =
      finally_do program (inspect .none .os_error) disk := by
    rw [locked, hfaults]
    exact bind_of_ok inspect_none
  rw [serialised, catching, resume, hlocked, finally_do, resume]
  rcases h : program disk with ⟨e | a, t⟩
  · rw [h] at hprogram
    obtain ⟨failure, rfl⟩ := hrefused e hprogram.symm
    exact hprogram
  · rw [h] at hprogram
    exact hprogram

/-- The capacity of the store and of the disk, before a part or an archive is written. -/
lemma space_cases (hfaults : surroundings.faults = {}) (next : ℕ) (disk : UploadDisk) :
    (check_capacity surroundings next disk = (.ok (), disk) ∧
        ensure_disk_reserve surroundings.disk_usage next = .ok ()) ∨
      ∃ failure, failure.code ∈ ["upload_storage_full", "dataset_storage", "dataset_space"] ∧
        ∀ {α : Type} (rest : UploadProgram α),
          (do
            check_capacity surroundings next
            attempt (ensure_disk_reserve surroundings.disk_usage next)
            rest) disk = (.error (.raised (.application failure)), disk) := by
  have hused : UploadSessionFiles.used_bytes surroundings.faults disk =
      (.ok (disk.sessions.entries.map fun entry => entry.2.used_bytes).sum, disk) := by
    rw [hfaults]
    rfl
  have hcapacity := bind_of_ok (f := fun used : ℕ => (attempt (raise_if
    (used + next > MAXIMUM_UPLOAD_STORAGE_BYTES)
    (.application (upload_failure "upload_storage_full"))) : UploadProgram Unit)) hused
  by_cases hfull : (disk.sessions.entries.map fun entry => entry.2.used_bytes).sum + next >
      MAXIMUM_UPLOAD_STORAGE_BYTES
  · rw [raise_if, if_pos hfull] at hcapacity
    exact Or.inr ⟨_, by decide, fun rest => bind_of_error hcapacity⟩
  rw [raise_if, if_neg hfull] at hcapacity
  cases hreserve : ensure_disk_reserve surroundings.disk_usage next with
  | ok _ => exact Or.inl ⟨hcapacity, rfl⟩
  | error e =>
    obtain ⟨failure, hcode, rfl⟩ := ensure_disk_reserve_refuses hreserve
    exact Or.inr ⟨failure, List.mem_cons_of_mem _ hcode,
      fun rest => (bind_of_ok hcapacity).trans (bind_of_error rfl)⟩

/-! ### A missing part -/

/-- A part that is not listed yet can be listed. -/
lemma valid_listing (h : stored.1.session.Valid) (hcomplete : stored.1.session.complete = false)
    (hunhashed : stored.1.session.sha256 = none) (hindex : index < stored.1.session.chunk_count)
    (hmissing : index ∉ stored.1.session.received_chunks) :
    (listing stored.1.session index).Valid := by
  have hperm := List.mergeSort_perm (stored.1.session.received_chunks ++ [index]) (· ≤ ·)
  have hnodup : (stored.1.session.received_chunks ++ [index]).Nodup :=
    List.nodup_append'.mpr ⟨h.received_chunks.imp fun hlt => hlt.ne, List.nodup_singleton _,
      fun other hother hsame => hmissing (List.mem_singleton.mp hsame ▸ hother)⟩
  refine ⟨h.total_bytes, h.chunk_bytes, h.chunk_count, ?_, fun other hother => ?_, ?_⟩
  · have hsorted : ((stored.1.session.received_chunks ++ [index]).mergeSort
        fun a b => decide (a ≤ b)).Pairwise fun a b => decide (a ≤ b) = true :=
      List.pairwise_mergeSort (fun a b c hab hbc => by simp at *; omega) (fun a b => by simp; omega) _
    exact (hsorted.and (hperm.nodup_iff.mpr hnodup)).imp fun h =>
      lt_of_le_of_ne (of_decide_eq_true h.1) h.2
  · rcases mem_listing.mp hother with hmem | rfl
    · exact h.in_range other hmem
    · exact hindex
  · change stored.1.session.complete = true ↔ _ ∧ stored.1.session.sha256 ≠ none
    rw [hcomplete, hunhashed]
    simp

/-- Listing a new part returns the new list. -/
lemma list_part_returns (disk : UploadDisk) (hfaults : surroundings.faults = {})
    (hcomplete : stored.1.session.complete = false) (hunhashed : stored.1.session.sha256 = none)
    (hindex : index < stored.1.session.chunk_count)
    (hmissing : index ∉ stored.1.session.received_chunks) :
    ∃ listed after, list_part surroundings stored index disk = (.ok listed, after) ∧
      listed.1.session = listing stored.1.session index := by
  let listed : ValidUpload :=
    ⟨{ stored.1 with session := listing stored.1.session index },
      valid_listing stored.2 hcomplete hunhashed hindex hmissing⟩
  have hupdated : updated stored (listing stored.1.session index) = .ok listed := dif_pos _
  obtain ⟨after, hsaved⟩ := save_record_returns listed disk
  refine ⟨listed, after, ?_, rfl⟩
  rw [list_part, if_neg hmissing, hupdated, hfaults]
  exact (bind_of_ok rfl).trans (bind_of_ok hsaved)

/-- Storing a part succeeds, is refused for the space, or meets another part of its size. -/
lemma store_part_cases (sha256 : List UInt8 → String) (identifier : String) (index : ℕ)
    (data : List UInt8) (disk : UploadDisk) (hfaults : surroundings.faults = {}) :
    (∃ after, store_part surroundings sha256 identifier index data disk = (.ok (), after)) ∨
      (∃ failure, failure.code ∈ ["upload_storage_full", "dataset_storage", "dataset_space"] ∧
        store_part surroundings sha256 identifier index data disk =
          (.error (.raised (.application failure)), disk)) ∨
      ∃ present, disk.chunk? identifier index = some present ∧ sha256 present ≠ sha256 data := by
  have hsize : chunk_size surroundings.faults identifier index disk =
      (.ok ((disk.chunk? identifier index).map List.length), disk) := by
    rw [hfaults]
    rfl
  rw [store_part, bind_of_ok hsize]
  by_cases hequal : (disk.chunk? identifier index).map List.length = some data.length
  · rw [if_pos hequal]
    obtain ⟨present, hpresent, -⟩ := Option.map_eq_some_iff.mp hequal
    by_cases hdigest : sha256 present = sha256 data
    · refine Or.inl ⟨disk, ?_⟩
      have hread : read_part surroundings.faults.chunk_digest identifier index disk =
          (.ok present, disk) := by
        rw [hfaults, read_part, bind_of_ok inspect_none, Program.read_bind, hpresent]
        rfl
      rw [bind_of_ok hread, raise_if, if_neg (not_not.mpr hdigest)]
      rfl
    · exact Or.inr (Or.inr ⟨present, hpresent, hdigest⟩)
  · rw [if_neg hequal]
    rcases space_cases hfaults data.length disk with ⟨hcapacity, hreserve⟩ | hrefused
    · obtain ⟨after, hwritten⟩ := write_chunk_returns identifier index data disk
      refine Or.inl ⟨after, ?_⟩
      rw [bind_of_ok hcapacity, hreserve, hfaults]
      exact (bind_of_ok rfl).trans hwritten
    · obtain ⟨failure, hcode, hstops⟩ := hrefused
      exact Or.inr (Or.inl ⟨failure, hcode, hstops _⟩)

/-! ### Completing -/

/-- All the parts are in their expected size. -/
lemma verified_parts_of_holds {session : DatasetUploadSession} (indexes : List ℕ)
    (hget : disk.sessions.get? identifier = some directory)
    (h : ∀ index ∈ indexes, directory.Holds session index) :
    verified_parts {} identifier session indexes disk = (.ok indexes, disk) := by
  induction indexes with
  | nil => rfl
  | cons index rest ih =>
    have hsize : chunk_size {} identifier index disk =
        (.ok (some (expected_chunk_bytes session index)), disk) := by
      rw [chunk_size, bind_of_ok inspect_none, Program.read_bind, UploadDisk.chunk?, hget,
        Option.bind_some, h index List.mem_cons_self]
      rfl
    have hrest := ih fun other hother => h other (List.mem_cons_of_mem _ hother)
    rw [verified_parts, bind_of_ok hsize, if_pos rfl, bind_of_ok hrest]
    rfl

/-- The joining loop reads every part that is there. -/
lemma join_parts_returns (rest : List ℕ) : ∀ (joined : List UInt8) (disk : UploadDisk)
    (directory : SessionDirectory), disk.sessions.get? identifier = some directory →
    rest.Nodup → (∀ index ∈ rest, directory.chunks.lookup index ≠ none) →
    ∃ all after, join_parts {} identifier rest joined disk = (.ok all, after) := by
  induction rest with
  | nil => exact fun joined disk _ _ _ _ => ⟨joined, disk, rfl⟩
  | cons index rest ih =>
    intro joined disk directory hget hnodup hpresent
    obtain ⟨data, hdata⟩ := Option.ne_none_iff_exists'.mp (hpresent index List.mem_cons_self)
    have hread : read_part .none identifier index disk = (.ok data, disk) := by
      rw [read_part, bind_of_ok inspect_none, Program.read_bind, UploadDisk.chunk?, hget,
        Option.bind_some, hdata]
      rfl
    rw [join_parts, bind_of_ok hread, bind_of_ok operation_none, unlink_chunk,
      bind_of_ok atomically_none]
    refine ih _ _ { directory with
        archive := directory.archive.map (· ++ data)
        chunks := directory.chunks.erase index } ?_ (List.nodup_cons.mp hnodup).2 fun other hother => ?_
    · rw [get?_modify, if_pos rfl, append_archive, get?_modify, if_pos rfl, hget]
      rfl
    · have hne : other ≠ index := fun heq => (List.nodup_cons.mp hnodup).1 (heq ▸ hother)
      rw [AList.lookup_erase_ne hne]
      exact hpresent other (List.mem_cons_of_mem _ hother)

lemma assemble_returns (sha256 : List UInt8 → String) {chunk_count : ℕ}
    (hget : disk.sessions.get? identifier = some directory)
    (hpresent : ∀ index < chunk_count, directory.chunks.lookup index ≠ none) :
    ∃ assembled after, assemble {} sha256 identifier chunk_count disk = (.ok assembled, after) := by
  rw [assemble, bind_of_ok atomically_none, bind_of_ok atomically_none]
  obtain ⟨all, after, hjoined⟩ := join_parts_returns (List.range chunk_count) []
    ((disk.modify identifier fun directory => { directory with archive := none }).modify identifier
      fun directory => { directory with archive := some [] })
    { directory with archive := some [] }
    (by rw [get?_modify, if_pos rfl, get?_modify, if_pos rfl, hget]; rfl) List.nodup_range
    fun index hindex => hpresent index (List.mem_range.mp hindex)
  rw [bind_of_ok hjoined]
  exact ⟨_, _, rfl⟩

lemma remove_request_of_returns (identifier client_request_identifier : String)
    (disk : UploadDisk) :
    ∃ after, remove_request_of {} identifier client_request_identifier disk = (.ok (), after) := by
  have hread : read_request {} client_request_identifier disk =
      (.ok (disk.requests.get? client_request_identifier), disk) := rfl
  rw [remove_request_of, bind_of_ok hread]
  by_cases h : disk.requests.get? client_request_identifier = some identifier
  · rw [if_pos h]
    exact ⟨_, rfl⟩
  · rw [if_neg h]
    exact ⟨_, rfl⟩

lemma remove_session_returns (identifier client_request_identifier : String) (disk : UploadDisk) :
    ∃ removed after, remove_session {} identifier (some client_request_identifier) disk =
      (.ok removed, after) := by
  have hdirectory : ∃ removed after, remove_directory {} identifier disk = (.ok removed, after) := by
    rw [remove_directory, Program.read_bind]
    by_cases h : (disk.sessions.get? identifier).isSome
    · rw [if_pos h]
      exact ⟨_, _, rfl⟩
    · rw [if_neg h]
      exact ⟨_, _, rfl⟩
  obtain ⟨removed, after, hremoved⟩ := hdirectory
  obtain ⟨last, hrequest⟩ := remove_request_of_returns identifier client_request_identifier after
  refine ⟨removed, last, ?_⟩
  rw [remove_session, bind_of_ok hremoved]
  exact bind_of_ok hrequest

/-- The verified archive is published, or refused for its content. -/
lemma verify_archive_cases (hfaults : surroundings.faults = {})
    (hlength : stored.1.session.received_chunks.length = stored.1.session.chunk_count)
    (identifier digest : String) (leading : List UInt8) (disk : UploadDisk) :
    (∃ session, (verify_archive surroundings identifier stored digest leading disk).1 = .ok session ∧
      session.complete = true) ∨
    RefusedWith ["upload_checksum_mismatch", "upload_not_archive"]
      (verify_archive surroundings identifier stored digest leading disk).1 := by
  have hdiscard : ∀ code, (discard_refused surroundings identifier stored code disk).1 =
      .error (.raised (.application (upload_failure code))) := by
    intro code
    obtain ⟨removed, after, hremoved⟩ := remove_session_returns identifier
      stored.1.client_request_identifier disk
    rw [discard_refused, hfaults, bind_of_ok hremoved]
    rfl
  rw [verify_archive]
  by_cases hdigest : stored.1.expected_sha256 ≠ none ∧ stored.1.expected_sha256 ≠ some digest
  · rw [if_pos hdigest, hdiscard]
    exact Or.inr ⟨_, by decide, rfl⟩
  rw [if_neg hdigest]
  by_cases hprefix : is_archive_prefix leading = false
  · rw [if_pos hprefix, hdiscard]
    exact Or.inr ⟨_, by decide, rfl⟩
  rw [if_neg hprefix]
  let completed : ValidUpload :=
    ⟨{ stored.1 with
        session := { stored.1.session with complete := true, sha256 := some digest } },
      valid_completed stored.2 hlength digest⟩
  have hupdated : updated stored { stored.1.session with complete := true, sha256 := some digest } =
      .ok completed := dif_pos _
  obtain ⟨after, hsaved⟩ := save_record_returns completed disk
  refine Or.inl ⟨completed.1.session, ?_, rfl⟩
  rw [publish_archive, hupdated, hfaults, bind_of_ok (show attempt (.ok completed) disk = _ from rfl),
    bind_of_ok hsaved]
  rfl

/-! ### The client -/

/-- Every session with a truthful record can be resumed. -/
theorem resumable_of_truthful (h : disk.Every TruthfulRecord) : Resumable sha256 disk := by
  intro identifier stored surroundings hrecord hcomplete hfaults hclock
  obtain ⟨directory, hget, hdirectory⟩ := Option.bind_eq_some_iff.mp hrecord
  have htruthful := h identifier directory hget
  have hload := load_of_record hfaults htruthful.well_formed hrecord hclock
  refine ⟨fun index data hindex hmissing hlength => ?_, fun hlength => ?_⟩
  · have hcheck : check_part stored.1.session index data = .ok () := by
      refine bind_eq_ok.mpr ⟨(), raise_if_eq_ok.mpr (by simp [hcomplete]),
        bind_eq_ok.mpr ⟨(), raise_if_eq_ok.mpr (by omega), raise_if_eq_ok.mpr ?_⟩⟩
      exact not_not.mpr hlength
    have hbody : ∀ {after : UploadDisk},
        store_part surroundings sha256 identifier index data disk = (.ok (), after) →
        ∃ chunk, (receive_chunk surroundings sha256 identifier index data disk).1 = .ok chunk ∧
          ∀ other, other ∈ chunk.received_chunks ↔
            other ∈ stored.1.session.received_chunks ∨ other = index := by
      intro after hstored
      obtain ⟨listed, last, hlisted, hsession⟩ := list_part_returns after hfaults hcomplete
        (htruthful.unhashed stored hdirectory hcomplete) hindex hmissing
      refine ⟨acknowledgement sha256 identifier index data listed.1.session,
        serialised_fst hfaults ?_ (by simp), fun other => ?_⟩
      · rw [bind_of_ok hload, hcheck, bind_of_ok (show attempt (.ok ()) disk = _ from rfl),
          Int.toNat_natCast, bind_of_ok hstored, bind_of_ok hlisted]
        rfl
      · rw [acknowledgement, hsession]
        exact mem_listing
    rcases store_part_cases sha256 identifier index data disk hfaults with
      ⟨after, hstored⟩ | ⟨failure, hcode, hrefused⟩ | hother
    · exact Or.inl (hbody hstored)
    · refine Or.inr (Or.inl ⟨failure, hcode, serialised_fst hfaults ?_ fun e he => ⟨failure, ?_⟩⟩)
      · rw [bind_of_ok hload, hcheck, bind_of_ok (show attempt (.ok ()) disk = _ from rfl),
          Int.toNat_natCast, bind_of_error hrefused]
      · exact (Except.error.inj he).symm
    · exact Or.inr (Or.inr hother)
  · have hholds := fun index hindex => htruthful.holds stored hdirectory hcomplete index hindex
    have hverified := verified_parts_of_holds stored.1.session.received_chunks hget hholds
    have hpresent : ∀ index < stored.1.session.chunk_count,
        directory.chunks.lookup index ≠ none := by
      intro index hindex hnone
      have hpart := hholds index
        (mem_of_length_eq stored.2.received_chunks stored.2.in_range hlength hindex)
      rw [SessionDirectory.Holds, hnone] at hpart
      exact absurd hpart (by simp)
    obtain ⟨assembled, after, hassembled⟩ := assemble_returns sha256 hget hpresent
    have hbody : (∀ e, (join_all surroundings sha256 identifier stored disk).1 = .error e →
        ∃ failure, e = .raised (.application failure)) →
        (complete surroundings sha256 identifier disk).1 =
          (join_all surroundings sha256 identifier stored disk).1 := by
      intro herror
      refine serialised_fst hfaults ?_ herror
      rw [bind_of_ok hload, if_neg (by simp [hcomplete]), complete_parts, hfaults,
        bind_of_ok hverified, if_pos hlength]
    rcases space_cases hfaults stored.1.session.chunk_bytes disk with
      ⟨hcapacity, hreserve⟩ | ⟨failure, hcode, hrefused⟩
    · have hjoined : join_all surroundings sha256 identifier stored disk =
          verify_archive surroundings identifier stored assembled.1 assembled.2 after := by
        rw [join_all, bind_of_ok hcapacity, hreserve,
          bind_of_ok (show attempt (.ok ()) disk = _ from rfl), hfaults, bind_of_ok hassembled]
      rw [hjoined] at hbody
      rcases verify_archive_cases hfaults hlength identifier assembled.1 assembled.2 after with
        ⟨session, hok, hdone⟩ | ⟨failure, hcode, hrefused⟩
      · rw [hok] at hbody
        exact Or.inl ⟨session, hbody (by simp), hdone⟩
      · rw [hrefused] at hbody
        refine Or.inr ⟨failure, ?_, hbody fun e he => ⟨failure, (Except.error.inj he).symm⟩⟩
        exact List.mem_append_right ["upload_storage_full", "dataset_storage", "dataset_space"] hcode
    · have hjoined : join_all surroundings sha256 identifier stored disk =
          (.error (.raised (.application failure)), disk) := hrefused _
      rw [hjoined] at hbody
      refine Or.inr ⟨failure, ?_, hbody fun e he => ⟨failure, (Except.error.inj he).symm⟩⟩
      exact List.mem_append_left ["upload_checksum_mismatch", "upload_not_archive"] hcode

/-! ### Runs -/

/-- An upload of three bytes. -/
def upload_request : DatasetUploadCreateRequest where
  client_request_identifier := "a"
  file_name := "f"
  total_bytes := 3

def uuid4_hex : String := "00000000000000000000000000000000"

/-- A digest that tells all files apart. -/
def spelled (data : List UInt8) : String :=
  String.ofList (data.map fun byte => Char.ofNat byte.toNat)

def opened_upload : UploadDisk :=
  (create {} spelled upload_request uuid4_hex {}).2

def received_upload : UploadDisk :=
  (receive_chunk {} spelled ("upload_" ++ uuid4_hex) 0 [0x1f, 0x8b, 0] opened_upload).2

/-- The archive is whole, and its record is not saved yet. -/
def crash_before_record : UploadSurroundings where
  faults := { flush_archive := .crash () }

def interrupted_upload : UploadDisk :=
  (complete crash_before_record spelled ("upload_" ++ uuid4_hex) received_upload).2

/-- The process ends when one byte of a part is written. -/
def crash_in_part : UploadSurroundings where
  faults := { write_chunk := .crash 1 }

def cut_upload : UploadDisk :=
  (receive_chunk crash_in_part spelled ("upload_" ++ uuid4_hex) 0 [0x1f, 0x8b, 0] opened_upload).2

lemma create_upload : UploadStep spelled {} (.create {} upload_request uuid4_hex)
    { disk := opened_upload } :=
  .create (by decide +kernel) (by decide +kernel) Prod.mk.eta.symm

end StegoLab

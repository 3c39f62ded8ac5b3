import StegoLab.Uploads.Assembly
import StegoLab.Uploads.System

/-!
# Truthful records

The record of an unfinished session lists only parts that are stored in their expected size, along
every run in which no stop falls between the first removal of a listed part and the rewriting or the
removal of its record.
-/

namespace StegoLab

open Transaction Program UploadSessionFiles DatasetUploadStore UploadDisk

variable {identifier : String} {index : ℕ} {data : List UInt8} {stored : ValidUpload}
  {faults : UploadFaults} {surroundings : UploadSurroundings} {sha256 : List UInt8 → String}
  {start directory : SessionDirectory} {disk initial : UploadDisk}

/-- The parts that an unfinished session lists. -/
def SessionDirectory.listed (directory : SessionDirectory) : List ℕ :=
  directory.record.elim [] fun stored =>
    if stored.1.session.complete then [] else stored.1.session.received_chunks

/-- The record of a directory names it, has no digest before it is complete, and lists only parts
that are stored in their expected size. -/
structure TruthfulRecord (identifier : String) (directory : SessionDirectory) : Prop where
  well_formed : is_upload_identifier identifier = true
  named : ∀ stored, directory.record = some stored →
    stored.1.session.upload_identifier = identifier
  unhashed : ∀ stored, directory.record = some stored → stored.1.session.complete = false →
    stored.1.session.sha256 = none
  holds : ∀ stored, directory.record = some stored → stored.1.session.complete = false →
    ∀ index ∈ stored.1.session.received_chunks, directory.Holds stored.1.session index

/-! ### The condition -/

/-- A removal that stops partway has removed the record or no part that it lists. -/
def RemovesTruthfully (disk : UploadDisk) (faults : UploadFaults) : Prop :=
  ∀ identifier directory removed, disk.sessions.get? identifier = some directory →
    (faults.remove_session identifier).Stops removed →
      removed.record = true ∨ ∀ index ∈ removed.chunks, index ∉ directory.listed

/-- Nothing stops between the removal of the first part and the rewriting or the removal of the
record. -/
structure JoinsWhole (faults : UploadFaults) (identifier : String) : Prop where
  parts : ∀ index, 0 < index → JoinsPart faults index
  flush_archive : faults.flush_archive = .none
  create_directory : faults.create_directory = .none
  write_record : faults.write_record = .none
  replace_record : faults.replace_record = .none
  removal : ∀ removed, (faults.remove_session identifier).Stops removed → removed.record = true

/-- The call does not stop while a part is gone that the record still lists: no removal of a session
stops there, and neither does the joining of a live session that lists all its parts. -/
def UploadEvent.KeepsRecords (disk : UploadDisk) (e : UploadEvent) : Prop :=
  RemovesTruthfully disk e.surroundings.faults ∧
    ∀ surroundings identifier, e = .complete surroundings identifier →
      ∀ stored, disk.record? identifier = some stored → stored.1.session.complete = false →
        surroundings.clock identifier < stored.1.session.expires_at →
        stored.1.session.received_chunks.length = stored.1.session.chunk_count →
          JoinsWhole surroundings.faults identifier

/-! ### Calls that remove or open sessions -/

/-- Truthful records that were there initially or list no parts. -/
structure TruthfulSince (initial : UploadDisk) (identifier : String)
    (directory : SessionDirectory) : Prop extends TruthfulRecord identifier directory where
  since : ∀ stored, directory.record = some stored → stored.1.session.received_chunks = [] ∨
    initial.record? identifier = some stored

lemma Every.truthfulSince (h : disk.Every TruthfulRecord) : disk.Every (TruthfulSince disk) :=
  fun _ _ hget => ⟨h _ _ hget, fun _ hstored =>
    Or.inr (by rw [UploadDisk.record?, hget, Option.bind_some, hstored])⟩

lemma Every.truthfulRecord (h : disk.Every (TruthfulSince initial)) : disk.Every TruthfulRecord :=
  fun _ _ hget => (h _ _ hget).toTruthfulRecord

lemma truthfulRecord_of_none (hidentifier : is_upload_identifier identifier = true)
    (h : directory.record = none) : TruthfulRecord identifier directory where
  well_formed := hidentifier
  named _ hstored := absurd (h.symm.trans hstored) (by simp)
  unhashed _ hstored := absurd (h.symm.trans hstored) (by simp)
  holds _ hstored := absurd (h.symm.trans hstored) (by simp)

lemma lookup_foldl_erase (removed : List ℕ) (chunks : AList fun _ : ℕ => List UInt8) {index : ℕ}
    (h : index ∉ removed) :
    (removed.foldl (fun chunks index => chunks.erase index) chunks).lookup index =
      chunks.lookup index := by
  induction removed generalizing chunks with
  | nil => rfl
  | cons first rest ih =>
    rw [List.foldl_cons, ih _ fun hmem => h (List.mem_cons_of_mem _ hmem)]
    exact AList.lookup_erase_ne fun heq => h (heq ▸ List.mem_cons_self)

lemma listed_of_record (hrecord : directory.record = some stored)
    (hcomplete : stored.1.session.complete = false) :
    directory.listed = stored.1.session.received_chunks := by
  rw [SessionDirectory.listed, hrecord]
  simp [hcomplete]

lemma RemovesTruthfully.keeps (h : RemovesTruthfully initial faults) :
    KeepsRemovals (TruthfulSince initial) faults identifier := by
  intro removed hstops directory hdirectory
  cases hrecord : removed.record with
  | true =>
    have hnone : (removed.remove directory).record = none := by
      simp [RemovedFiles.remove, hrecord]
    exact ⟨truthfulRecord_of_none hdirectory.well_formed hnone, fun stored hstored =>
      absurd (hnone.symm.trans hstored) (by simp)⟩
  | false =>
    have hsame : (removed.remove directory).record = directory.record := by
      simp [RemovedFiles.remove, hrecord]
    refine ⟨⟨hdirectory.well_formed, fun stored hstored => hdirectory.named stored (hsame ▸ hstored),
      fun stored hstored => hdirectory.unhashed stored (hsame ▸ hstored),
      fun stored hstored hcomplete index hindex => ?_⟩, fun stored hstored =>
        hdirectory.since stored (hsame ▸ hstored)⟩
    rw [hsame] at hstored
    obtain ⟨start, hget, hstart⟩ := Option.bind_eq_some_iff.mp
      ((hdirectory.since stored hstored).resolve_left (List.ne_nil_of_mem hindex))
    have hkept : index ∉ removed.chunks := fun hremoved =>
      (h identifier start removed hget hstops).elim (fun h' => by simp [hrecord] at h')
        fun h' => h' index hremoved (by rw [listed_of_record hstart hcomplete]; exact hindex)
    rw [SessionDirectory.Holds, RemovedFiles.remove, lookup_foldl_erase _ _ hkept]
    exact hdirectory.holds stored hstored hcomplete index hindex

/-- The loaded session under the condition. -/
lemma contract_load_truthful (hremoves : RemovesTruthfully initial surroundings.faults) :
    Contract (UploadDisk.Every (TruthfulSince initial)) (load surroundings identifier)
      (fun stored => UploadDisk.At TruthfulRecord identifier
        (Loaded surroundings (TruthfulSince initial) identifier stored))
      fun _ => UploadDisk.Every TruthfulRecord :=
  (contract_load hremoves.keeps).mono (fun _ => id)
    (fun _ _ h => ⟨fun key directory hkey hget => (h.others key directory hkey hget).toTruthfulRecord,
      h.here⟩)
    fun _ _ => Every.truthfulRecord

/-! ### Receiving a part -/

/-- A part that the record does not list may hold anything. -/
lemma TruthfulRecord.rewritten {content : Option (List UInt8)}
    (h : TruthfulRecord identifier start) (hindex : index ∉ start.listed)
    (hrewritten : Rewritten start index content directory) :
    TruthfulRecord identifier directory where
  well_formed := h.well_formed
  named stored hstored := h.named stored (hrewritten.record ▸ hstored)
  unhashed stored hstored := h.unhashed stored (hrewritten.record ▸ hstored)
  holds stored hstored hcomplete other hother := by
    rw [hrewritten.record] at hstored
    have hne : other ≠ index := by
      rintro rfl
      exact hindex (by rw [listed_of_record hstored hcomplete]; exact hother)
    rw [SessionDirectory.Holds, hrewritten.others other hne]
    exact h.holds stored hstored hcomplete other hother

/-- After `store_part` the part has its size, and the record is the same. -/
lemma contract_store_part (hstart : TruthfulRecord identifier start)
    (hrecord : start.record = some stored) (hcomplete : stored.1.session.complete = false)
    (hlength : data.length = expected_chunk_bytes stored.1.session index) :
    Contract (UploadDisk.At TruthfulRecord identifier (· = start))
      (store_part surroundings sha256 identifier index data)
      (fun _ => UploadDisk.At TruthfulRecord identifier fun directory =>
        directory.record = start.record ∧ directory.Holds stored.1.session index ∧
          TruthfulRecord identifier directory)
      fun _ => UploadDisk.Every TruthfulRecord := by
  have hkeeps : ∀ directory, directory = start → TruthfulRecord identifier directory :=
    fun _ h => h ▸ hstart
  refine (contract_chunk_size hkeeps).bind fun size => .ite (fun hsize => ?_) fun hsize => ?_
  · refine Contract.bind (Q := fun _ => UploadDisk.At TruthfulRecord identifier fun directory =>
      directory = start ∧ size = (directory.chunks.lookup index).map List.length)
      ((contract_read_part (fun _ _ h => hkeeps _ h.1) fun _ h _ => hkeeps _ h.1).weaken
        fun _ _ h => h.mono fun _ h => h.1) fun present => ?_
    refine contract_attempt (fun _ _ _ h => h.mono fun directory h => ?_)
      fun _ _ _ h => h.every fun _ h => hkeeps _ h.1
    obtain ⟨rfl, hequal⟩ := h
    exact ⟨rfl, by rw [SessionDirectory.Holds, ← hequal, hsize, hlength], hstart⟩
  · have hindex : index ∉ start.listed ∨ size ≠ (start.chunks.lookup index).map List.length := by
      by_contra hboth
      rw [not_or, not_not, not_not] at hboth
      rw [listed_of_record hrecord hcomplete] at hboth
      have := hstart.holds stored hrecord hcomplete index hboth.1
      exact hsize (hboth.2.trans (this.trans (by rw [hlength])))
    refine Contract.bind (Q := fun _ => UploadDisk.At TruthfulRecord identifier fun directory =>
      directory = start ∧ size = (directory.chunks.lookup index).map List.length)
      (keeps_check_capacity.mono (fun _ => id) (fun _ _ => id)
        fun _ _ h => h.every fun _ h => hkeeps _ h.1) fun _ => ?_
    refine Contract.bind (Q := fun _ => UploadDisk.At TruthfulRecord identifier fun directory =>
      directory = start ∧ size = (directory.chunks.lookup index).map List.length)
      (keeps_attempt.mono (fun _ => id) (fun _ _ => id)
        fun _ _ h => h.every fun _ h => hkeeps _ h.1) fun _ => ?_
    refine contract_pin fun now ⟨hnow, hmeasured⟩ => ?_
    subst hnow
    have hunlisted := hindex.resolve_right fun h => h hmeasured
    refine (contract_write_chunk hstart (fun _ _ h _ => hstart.rewritten hunlisted h)
      fun _ _ _ _ _ h => hstart.rewritten hunlisted h).weaken
      fun _ disk h => h.2.mono fun directory h => ?_
    exact ⟨h.record, by rw [SessionDirectory.Holds, h.here, ← hlength]; rfl,
      hstart.rewritten hunlisted h⟩

lemma mem_listing {session : DatasetUploadSession} {other : ℕ} :
    other ∈ (listing session index).received_chunks ↔
      other ∈ session.received_chunks ∨ other = index := by
  rw [listing, List.mem_mergeSort, List.mem_append, List.mem_singleton]

lemma contract_list_part (hcomplete : stored.1.session.complete = false) :
    Contract (UploadDisk.At TruthfulRecord identifier fun directory =>
        directory.record = some stored ∧ directory.Holds stored.1.session index ∧
          TruthfulRecord identifier directory)
      (list_part surroundings stored index)
      (fun _ => UploadDisk.Every TruthfulRecord) fun _ => UploadDisk.Every TruthfulRecord := by
  refine .ite (fun _ => .pure fun _ h => h.every fun _ h => h.2.2) fun _ => ?_
  refine contract_pin fun start ⟨hrecord, hholds, hstart⟩ => ?_
  refine Contract.bind (Q := fun listed disk =>
      updated stored (listing stored.1.session index) = .ok listed ∧
        disk.At TruthfulRecord identifier (· = start))
    (contract_attempt (fun _ hok _ h => ⟨hok, h⟩) fun _ _ _ h => h.every fun _ h => h ▸ hstart)
    fun listed => .assume (P := UploadDisk.At TruthfulRecord identifier (· = start)) fun hok => ?_
  rw [updated] at hok
  split_ifs at hok with hvalid
  obtain rfl := Except.ok.inj hok
  have hafter : TruthfulRecord identifier
      { start with record := some ⟨{ stored.1 with session := listing stored.1.session index },
        hvalid⟩ } := by
    refine ⟨hstart.well_formed, fun stored' hstored' => ?_, fun stored' hstored' _ => ?_,
      fun stored' hstored' _ other hother => ?_⟩
    · obtain rfl := Option.some_inj.mp hstored'
      exact hstart.named stored hrecord
    · obtain rfl := Option.some_inj.mp hstored'
      exact hstart.unhashed stored hrecord hcomplete
    · obtain rfl := Option.some_inj.mp hstored'
      rcases mem_listing.mp hother with hmem | rfl
      · exact hstart.holds stored hrecord hcomplete other hmem
      · exact hholds
  refine Contract.bind (Q := fun _ => UploadDisk.Every TruthfulRecord)
    (contract_replace_record hstart ?_ hafter) fun _ => .pure fun _ => id
  exact hstart.named stored hrecord

theorem contract_receive_chunk {index : ℤ}
    (hremoves : RemovesTruthfully initial surroundings.faults) :
    Contract (UploadDisk.Every (TruthfulSince initial))
      (receive_chunk surroundings sha256 identifier index data)
      (fun _ => UploadDisk.Every TruthfulRecord) fun _ => UploadDisk.Every TruthfulRecord := by
  refine contract_serialised ?_ (fun _ => Every.truthfulRecord) fun _ _ => id
  refine (contract_load_truthful hremoves).bind fun stored => ?_
  refine contract_pin fun start hloaded => ?_
  have hstart := hloaded.keeps.toTruthfulRecord
  refine Contract.bind (Q := fun _ disk => check_part stored.1.session index data = .ok () ∧
      disk.At TruthfulRecord identifier (· = start))
    (contract_attempt (fun _ hok _ h => ⟨hok, h⟩) fun _ _ _ h => h.every fun _ h => h ▸ hstart)
    fun _ => .assume (P := UploadDisk.At TruthfulRecord identifier (· = start)) fun hcheck => ?_
  obtain ⟨_, hcomplete, hcheck⟩ := bind_eq_ok.mp hcheck
  obtain ⟨_, hrange, hlength⟩ := bind_eq_ok.mp hcheck
  rw [raise_if_eq_ok, Bool.not_eq_true] at hcomplete
  rw [raise_if_eq_ok, not_not] at hlength
  refine (contract_store_part hstart hloaded.record hcomplete hlength).bind fun _ => ?_
  refine Contract.bind (Q := fun _ => UploadDisk.Every TruthfulRecord)
    ((contract_list_part hcomplete).strengthen fun _ h => h.mono fun _ h => ?_)
    fun _ => .pure fun _ => id
  exact ⟨h.1.trans hloaded.record, h.2⟩

/-! ### Completing a session -/

lemma contract_remove_chunks {D : String → SessionDirectory → Prop}
    {F : SessionDirectory → Prop}
    (hkeeps : ∀ directory chunks, F directory → D identifier { directory with chunks := chunks }) :
    Contract (UploadDisk.At D identifier F) (remove_chunks faults identifier)
      (fun _ => UploadDisk.Every D) fun _ => UploadDisk.Every D := by
  refine Contract.bind (Q := fun _ => UploadDisk.Every D) ?_ fun _ => keeps_inspect
  refine (contract_edit (G := D identifier) (fun directory h => hkeeps _ _ h)
    fun reached _ directory h => ?_).weaken fun _ _ h => h.every fun _ => id
  exact hkeeps directory (reached.foldl (fun chunks index => chunks.erase index) directory.chunks) h

lemma truthfulRecord_of_complete (hidentifier : is_upload_identifier identifier = true)
    (hrecord : directory.record = some stored)
    (hnamed : stored.1.session.upload_identifier = identifier)
    (hcomplete : stored.1.session.complete = true) : TruthfulRecord identifier directory where
  well_formed := hidentifier
  named stored' hstored' := by
    obtain rfl := Option.some_inj.mp (hrecord.symm.trans hstored')
    exact hnamed
  unhashed stored' hstored' hincomplete := by
    obtain rfl := Option.some_inj.mp (hrecord.symm.trans hstored')
    exact absurd (hcomplete.symm.trans hincomplete) (by simp)
  holds stored' hstored' hincomplete := by
    obtain rfl := Option.some_inj.mp (hrecord.symm.trans hstored')
    exact absurd (hcomplete.symm.trans hincomplete) (by simp)

/-- With the record and its parts as they were, nothing is lost. -/
lemma TruthfulRecord.of_consumed {done : List ℕ} (h : TruthfulRecord identifier start)
    (hdone : ∀ stored, start.record = some stored → ∀ index ∈ done,
      ¬ start.Holds stored.1.session index)
    (hconsumed : Consumed start done directory) : TruthfulRecord identifier directory where
  well_formed := h.well_formed
  named stored hstored := h.named stored (hconsumed.record ▸ hstored)
  unhashed stored hstored := h.unhashed stored (hconsumed.record ▸ hstored)
  holds stored hstored hcomplete index hindex := by
    rw [hconsumed.record] at hstored
    have hholds := h.holds stored hstored hcomplete index hindex
    rw [SessionDirectory.Holds, hconsumed.chunks,
      if_neg fun hmem => hdone stored hstored index hmem hholds]
    exact hholds

/-- A complete copy of a session that lists all its parts is valid. -/
lemma valid_completed {session : DatasetUploadSession} (h : session.Valid)
    (hlength : session.received_chunks.length = session.chunk_count) (digest : String) :
    ({ session with complete := true, sha256 := some digest } : DatasetUploadSession).Valid :=
  ⟨h.total_bytes, h.chunk_bytes, h.chunk_count, h.received_chunks, h.in_range,
    by simp [hlength]⟩

/-- The verification of an assembled archive, when nothing stops before the record is written or
removed. -/
lemma contract_verify_archive {digest : String} {leading : List UInt8}
    {F : SessionDirectory → Prop} (hidentifier : is_upload_identifier identifier = true)
    (hnamed : stored.1.session.upload_identifier = identifier)
    (hlength : stored.1.session.received_chunks.length = stored.1.session.chunk_count)
    (hjoins : JoinsWhole surroundings.faults identifier) :
    Contract (UploadDisk.At TruthfulRecord identifier F)
      (verify_archive surroundings identifier stored digest leading)
      (fun _ => UploadDisk.Every TruthfulRecord) fun _ => UploadDisk.Every TruthfulRecord := by
  have hremoval : Contract (UploadDisk.At TruthfulRecord identifier F)
      (remove_session surroundings.faults identifier (some stored.1.client_request_identifier))
      (fun _ => UploadDisk.Every TruthfulRecord) fun _ => UploadDisk.Every TruthfulRecord := by
    refine (contract_remove_session fun removed hremoved directory _ => ?_).strengthen
      fun _ h => h.near
    exact truthfulRecord_of_none hidentifier (by simp [RemovedFiles.remove, hjoins.removal _ hremoved])
  refine .ite (fun _ => hremoval.bind fun _ => contract_refuse) fun _ =>
    .ite (fun _ => hremoval.bind fun _ => contract_refuse) fun _ => ?_
  have hvalid := valid_completed stored.2 hlength digest
  refine Contract.bind (Q := fun completed disk =>
      completed.1.session = { stored.1.session with complete := true, sha256 := some digest } ∧
        disk.At TruthfulRecord identifier F)
    (contract_attempt (fun completed hok _ h => ?_) fun _ herror => ?_)
    fun completed => .assume (P := UploadDisk.At TruthfulRecord identifier F) fun hsession => ?_
  · rw [updated, dif_pos hvalid] at hok
    obtain rfl := Except.ok.inj hok
    exact ⟨rfl, h⟩
  · rw [updated, dif_pos hvalid] at herror
    exact absurd herror (by simp)
  have hafter : ∀ directory : SessionDirectory, directory.record = some completed →
      TruthfulRecord identifier directory := fun directory hrecord =>
    truthfulRecord_of_complete hidentifier hrecord (by rw [hsession]; exact hnamed)
      (by rw [hsession])
  refine (contract_save_record (G := fun directory => directory.record = some completed)
    (by rw [hsession]; exact hnamed) (fun _ _ => rfl) (fun hfault => ?_) hafter).bind fun _ => ?_
  · rw [hjoins.create_directory, hjoins.write_record, hjoins.replace_record] at hfault
    simp at hfault
  · refine Contract.bind (Q := fun _ => UploadDisk.Every TruthfulRecord)
      (contract_remove_chunks fun directory chunks h => hafter _ h) fun _ => .pure fun _ => id

lemma contract_join_all (hstart : TruthfulRecord identifier start)
    (hrecord : start.record = some stored) (hcomplete : stored.1.session.complete = false)
    (hlength : stored.1.session.received_chunks.length = stored.1.session.chunk_count)
    (hjoins : JoinsWhole surroundings.faults identifier) :
    Contract (UploadDisk.At TruthfulRecord identifier (· = start))
      (join_all surroundings sha256 identifier stored)
      (fun _ => UploadDisk.Every TruthfulRecord) fun _ => UploadDisk.Every TruthfulRecord := by
  have hstop : ∀ disk : UploadDisk, disk.At TruthfulRecord identifier (· = start) →
      disk.Every TruthfulRecord :=
    fun _ h => h.every fun _ h => h ▸ hstart
  refine (keeps_check_capacity.mono (fun _ => id) (fun _ _ => id) fun _ => hstop).bind fun _ => ?_
  refine (keeps_attempt.mono (fun _ => id) (fun _ _ => id) fun _ => hstop).bind fun _ => ?_
  refine (contract_assemble (fun index hindex => ?_) (fun directory h => ?_)
    (Or.inl ⟨hjoins.parts, hjoins.flush_archive⟩)).bind fun assembled => ?_
  · have hmem := mem_of_length_eq stored.2.received_chunks stored.2.in_range hlength hindex
    intro hnone
    have hholds := hstart.holds stored hrecord hcomplete index hmem
    rw [SessionDirectory.Holds, hnone] at hholds
    exact absurd hholds (by simp)
  · exact hstart.of_consumed (fun _ _ index hindex => absurd hindex List.not_mem_nil) h
  · refine .exists_pre fun all => ?_
    refine (contract_verify_archive hstart.well_formed (hstart.named stored hrecord) hlength
      hjoins).strengthen fun _ h => h.2.2

theorem contract_complete_parts (hstart : TruthfulRecord identifier start)
    (hrecord : start.record = some stored) (hcomplete : stored.1.session.complete = false)
    (hjoins : stored.1.session.received_chunks.length = stored.1.session.chunk_count →
      JoinsWhole surroundings.faults identifier) :
    Contract (UploadDisk.At TruthfulRecord identifier (· = start))
      (complete_parts surroundings sha256 identifier stored)
      (fun _ => UploadDisk.Every TruthfulRecord) fun _ => UploadDisk.Every TruthfulRecord := by
  have hall : stored.1.session.received_chunks.filter
      (fun index => start.Holds stored.1.session index) = stored.1.session.received_chunks :=
    List.filter_eq_self.mpr fun index hindex =>
      decide_eq_true (hstart.holds stored hrecord hcomplete index hindex)
  have hkeeps : ∀ done directory, (∀ index ∈ done, ¬ start.Holds stored.1.session index) →
      Consumed start done directory → TruthfulRecord identifier directory := by
    intro done directory hdone hconsumed
    refine hstart.of_consumed (fun stored' hstored' => ?_) hconsumed
    obtain rfl := Option.some_inj.mp (hrecord.symm.trans hstored')
    exact hdone
  refine ((contract_verified_parts hkeeps stored.1.session.received_chunks []
    fun _ h => absurd h List.not_mem_nil).strengthen fun _ h => h.mono fun _ h => h ▸ .refl).bind
    fun present => ?_
  refine contract_pin fun now ⟨hpresent, done, hdone, hnow⟩ => ?_
  have htruthful := hkeeps done now hdone hnow
  have hnow_record := hnow.record.trans hrecord
  rw [hall] at hpresent
  subst hpresent
  refine .ite (fun hlength => ?_) fun _ => ?_
  · exact contract_join_all htruthful hnow_record hcomplete hlength (hjoins hlength)
  refine Contract.bind (Q := fun corrected disk => corrected.1.session = stored.1.session ∧
      disk.At TruthfulRecord identifier (· = now))
    (contract_attempt (fun corrected hok _ h => ?_) fun _ _ _ h => h.every fun _ h => h ▸ htruthful)
    fun corrected => .assume (P := UploadDisk.At TruthfulRecord identifier (· = now))
      fun hsession => ?_
  · rw [updated] at hok
    split_ifs at hok
    obtain rfl := Except.ok.inj hok
    exact ⟨rfl, h⟩
  have hafter : TruthfulRecord identifier { now with record := some corrected } := by
    refine ⟨hstart.well_formed, fun stored' hstored' => ?_, fun stored' hstored' _ => ?_,
      fun stored' hstored' _ index hindex => ?_⟩
    · obtain rfl := Option.some_inj.mp hstored'
      rw [hsession]
      exact htruthful.named stored hnow_record
    · obtain rfl := Option.some_inj.mp hstored'
      rw [hsession]
      exact htruthful.unhashed stored hnow_record hcomplete
    · obtain rfl := Option.some_inj.mp hstored'
      rw [hsession] at hindex ⊢
      exact htruthful.holds stored hnow_record hcomplete index hindex
  refine Contract.bind (Q := fun _ => UploadDisk.Every TruthfulRecord)
    (contract_replace_record htruthful ?_ hafter) fun _ => contract_raise fun _ => id
  rw [hsession]
  exact htruthful.named stored hnow_record

theorem contract_complete (hremoves : RemovesTruthfully initial surroundings.faults)
    (hjoins : ∀ stored, initial.record? identifier = some stored →
      stored.1.session.complete = false →
      surroundings.clock identifier < stored.1.session.expires_at →
      stored.1.session.received_chunks.length = stored.1.session.chunk_count →
        JoinsWhole surroundings.faults identifier) :
    Contract (UploadDisk.Every (TruthfulSince initial))
      (complete surroundings sha256 identifier)
      (fun _ => UploadDisk.Every TruthfulRecord) fun _ => UploadDisk.Every TruthfulRecord := by
  refine contract_serialised ?_ (fun _ => Every.truthfulRecord) fun _ _ => id
  refine (contract_load_truthful hremoves).bind fun stored => ?_
  refine contract_pin fun start hloaded => ?_
  have hstart := hloaded.keeps.toTruthfulRecord
  have hnamed := hstart.named stored hloaded.record
  refine .ite (fun hcomplete => ?_) fun hcomplete => ?_
  · refine Contract.bind (Q := fun _ => UploadDisk.Every TruthfulRecord)
      (contract_remove_chunks fun directory chunks h => ?_) fun _ => .pure fun _ => id
    exact truthfulRecord_of_complete hstart.well_formed
      (show directory.record = some stored from h ▸ hloaded.record) hnamed hcomplete
  · rw [Bool.not_eq_true] at hcomplete
    refine contract_complete_parts hstart hloaded.record hcomplete fun hlength => ?_
    refine hjoins stored ((hloaded.keeps.since stored hloaded.record).resolve_left fun hnil => ?_)
      hcomplete hloaded.unexpired hlength
    have hpos := stored.2.chunk_count_pos
    rw [hnil, List.length_nil] at hlength
    omega

/-! ### Runs -/

/-- A call that keeps the records truthful. -/
def TruthfulStep (sha256 : List UInt8 → String) (s : UploadHistory) (e : UploadEvent)
    (t : UploadHistory) : Prop :=
  UploadStep sha256 s e t ∧ e.KeepsRecords s.disk

/-- Every call that keeps the condition keeps the records truthful. -/
theorem TruthfulStep.keeps {s t : UploadHistory} {e : UploadEvent}
    (hstep : TruthfulStep sha256 s e t) (h : s.disk.Every TruthfulRecord) :
    t.disk.Every TruthfulRecord := by
  obtain ⟨hstep, hremoves, hjoins⟩ := hstep
  have hsince := Every.truthfulSince h
  have hback : ∀ {α : Type} {x : UploadProgram α}, Keeps (UploadDisk.Every (TruthfulSince s.disk)) x →
      Contract (UploadDisk.Every (TruthfulSince s.disk)) x (fun _ => UploadDisk.Every TruthfulRecord)
        fun _ => UploadDisk.Every TruthfulRecord :=
    fun hx => hx.mono (fun _ => id) (fun _ _ => Every.truthfulRecord) fun _ _ => Every.truthfulRecord
  cases hstep with
  | @create surroundings request uuid4 _ _ hidentifier hfresh hx =>
    refine Contract.ends ((contract_create (fun _ => hremoves.keeps) ?_ fun stored hok => ?_).mono
      (fun _ => id) (fun _ _ => Every.truthfulRecord) fun _ _ => Every.truthfulRecord)
      (fun key directory hget => ⟨fun hkey => ?_, hsince key directory hget⟩) hx
    · exact ⟨truthfulRecord_of_none hidentifier rfl, fun _ hstored => absurd hstored (by simp)⟩
    · rw [stored_request] at hok
      split_ifs at hok
      obtain rfl := Except.ok.inj hok
      refine ⟨⟨hidentifier, fun _ hstored => ?_, fun _ hstored _ => ?_,
        fun _ hstored _ index hindex => ?_⟩, fun _ hstored => Or.inl ?_⟩
      · obtain rfl := Option.some_inj.mp hstored
        rfl
      · obtain rfl := Option.some_inj.mp hstored
        rfl
      · obtain rfl := Option.some_inj.mp hstored
        exact absurd hindex List.not_mem_nil
      · obtain rfl := Option.some_inj.mp hstored
        rfl
    · rw [hkey, hfresh] at hget
      exact absurd hget (by simp)
  | receive_chunk hx => exact Contract.ends (contract_receive_chunk hremoves) hsince hx
  | read hx => exact Contract.ends (hback (keeps_read_session hremoves.keeps)) hsince hx
  | complete hx =>
    exact Contract.ends (contract_complete hremoves (hjoins _ _ rfl)) hsince hx
  | archive_path hx => exact Contract.ends (hback (keeps_archive_path hremoves.keeps)) hsince hx
  | discard hx => exact Contract.ends (hback (keeps_discard hremoves.keeps)) hsince hx
  | sweep hx => exact Contract.ends (hback (keeps_sweep fun _ => hremoves.keeps)) hsince hx
  | used_bytes hx => exact Contract.ends (hback keeps_used_bytes) hsince hx

lemma every_initial {D : String → SessionDirectory → Prop} : ({} : UploadDisk).Every D :=
  fun _ _ hget => absurd hget (by simp)

end StegoLab

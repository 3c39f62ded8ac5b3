import StegoLab.Uploads.Resuming

/-!
# Faithful parts

The listed parts of an unfinished session hold what was acknowledged, as long as no call stops
between the rewriting of a part that the record still lists and its answer.
-/

namespace StegoLab

open Transaction Program UploadSessionFiles DatasetUploadStore UploadDisk

variable {identifier : String} {index : ℕ} {data : List UInt8} {stored : ValidUpload}
  {faults : UploadFaults} {surroundings : UploadSurroundings} {sha256 : List UInt8 → String}
  {start directory : SessionDirectory} {disk initial : UploadDisk}
  {acknowledged : ℕ → Option (List UInt8)} {parts : String → ℕ → Option (List UInt8)}

/-! ### Sizes -/

lemma chunk_bytes_cover {session : DatasetUploadSession} (h : session.Valid) :
    (session.chunk_count - 1) * session.chunk_bytes < session.total_bytes := by
  have hpos : 0 < session.chunk_bytes := by
    rw [h.chunk_bytes]
    decide
  by_contra hle
  rw [not_lt, mul_comm] at hle
  have hcount := (ceilDiv_le_iff_le_mul hpos).mpr hle
  rw [← h.chunk_count] at hcount
  have := h.chunk_count_pos
  omega

/-- No part of a session is empty. -/
lemma expected_chunk_bytes_pos {session : DatasetUploadSession} (h : session.Valid) (index : ℕ) :
    0 < expected_chunk_bytes session index := by
  rw [expected_chunk_bytes]
  split_ifs with hlast
  · have := chunk_bytes_cover h
    rw [← hlast, Nat.add_sub_cancel] at this
    omega
  · rw [h.chunk_bytes]
    decide

/-- The parts of a session add up to its size. -/
lemma sum_expected_chunk_bytes {session : DatasetUploadSession} (h : session.Valid) :
    ((List.range session.chunk_count).map (expected_chunk_bytes session)).sum =
      session.total_bytes := by
  obtain ⟨n, hn⟩ : ∃ n, session.chunk_count = n + 1 :=
    ⟨session.chunk_count - 1, by have := h.chunk_count_pos; omega⟩
  have hfront : (List.range n).map (expected_chunk_bytes session) =
      (List.range n).map fun _ => session.chunk_bytes := by
    refine List.map_congr_left fun i hi => ?_
    rw [expected_chunk_bytes, hn, if_neg (by have := List.mem_range.mp hi; omega)]
  have hcover := chunk_bytes_cover h
  rw [hn, Nat.add_sub_cancel] at hcover
  rw [hn, List.range_succ, List.map_append, List.sum_append, hfront, List.map_const',
    List.sum_replicate, List.length_range, List.map_singleton, List.sum_singleton,
    expected_chunk_bytes, hn, if_pos rfl, smul_eq_mul]
  omega

/-! ### The invariant -/

/-- The bytes of all acknowledged parts in index order, and what the record says of them. -/
structure Assembly (sha256 : List UInt8 → String) (acknowledged : ℕ → Option (List UInt8))
    (stored : StoredUploadSession) (all : List UInt8) : Prop where
  parts : ∃ part : ℕ → List UInt8,
    (∀ index < stored.session.chunk_count, acknowledged index = some (part index)) ∧
      all = (List.range stored.session.chunk_count).flatMap part
  total_bytes : all.length = stored.session.total_bytes
  digest : stored.session.sha256 = some (sha256 all)
  expected_sha256 : ∀ expected, stored.expected_sha256 = some expected → expected = sha256 all

/-- The listed parts of an unfinished session hold what was acknowledged, and a complete session is
the assembly of the acknowledged parts. -/
structure FaithfulSession (sha256 : List UInt8 → String) (acknowledged : ℕ → Option (List UInt8))
    (identifier : String) (directory : SessionDirectory) : Prop where
  named : ∀ stored, directory.record = some stored →
    stored.1.session.upload_identifier = identifier
  listed : ∀ stored, directory.record = some stored → stored.1.session.complete = false →
    ∀ index ∈ stored.1.session.received_chunks, ∀ data,
      directory.chunks.lookup index = some data →
        data.length = expected_chunk_bytes stored.1.session index →
          acknowledged index = some data
  assembled : ∀ stored, directory.record = some stored → stored.1.session.complete = true →
    ∃ all, Assembly sha256 acknowledged stored.1 all ∧
      (directory.archive = some all ∨ directory.archive = none)

/-- Faithful sessions, of which no record is new unless it lists nothing. -/
structure FaithfulSince (sha256 : List UInt8 → String) (parts : String → ℕ → Option (List UInt8))
    (initial : UploadDisk) (identifier : String) (directory : SessionDirectory) : Prop
    extends FaithfulSession sha256 (parts identifier) identifier directory where
  since : ∀ stored, directory.record = some stored →
    stored.1.session.received_chunks = [] ∧ stored.1.session.complete = false ∨
      initial.record? identifier = some stored

/-- Faithful sessions, where the archive of every newly complete session is there. -/
structure FaithfulFrom (sha256 : List UInt8 → String) (parts : String → ℕ → Option (List UInt8))
    (initial : UploadDisk) (identifier : String) (directory : SessionDirectory) : Prop
    extends FaithfulSession sha256 (parts identifier) identifier directory where
  archive : ∀ stored, directory.record = some stored → stored.1.session.complete = true →
    (∃ before, initial.record? identifier = some before ∧ before.1.session.complete = true) ∨
      directory.archive ≠ none

lemma FaithfulSince.from (h : FaithfulSince sha256 parts initial identifier directory) :
    FaithfulFrom sha256 parts initial identifier directory where
  toFaithfulSession := h.toFaithfulSession
  archive stored hstored hcomplete := by
    rcases h.since stored hstored with ⟨-, hincomplete⟩ | hbefore
    · exact absurd (hcomplete.symm.trans hincomplete) (by simp)
    · exact Or.inl ⟨stored, hbefore, hcomplete⟩

lemma faithfulSession_of_none (h : directory.record = none) :
    FaithfulSession sha256 acknowledged identifier directory where
  named _ hstored := absurd (h.symm.trans hstored) (by simp)
  listed _ hstored := absurd (h.symm.trans hstored) (by simp)
  assembled _ hstored := absurd (h.symm.trans hstored) (by simp)

/-- Files that are removed make no session less faithful. -/
lemma FaithfulSession.of_fewer (h : FaithfulSession sha256 acknowledged identifier start)
    (hrecord : directory.record = start.record)
    (hchunks : ∀ index data, directory.chunks.lookup index = some data →
      start.chunks.lookup index = some data)
    (harchive : directory.archive = start.archive ∨ directory.archive = none ∨
      ∀ stored, start.record = some stored → stored.1.session.complete = false) :
    FaithfulSession sha256 acknowledged identifier directory where
  named stored hstored := h.named stored (hrecord ▸ hstored)
  listed stored hstored hcomplete index hindex data hdata hlength :=
    h.listed stored (hrecord ▸ hstored) hcomplete index hindex data (hchunks index data hdata) hlength
  assembled stored hstored hcomplete := by
    rw [hrecord] at hstored
    obtain ⟨all, hassembly, hall⟩ := h.assembled stored hstored hcomplete
    rcases harchive with hsame | hnone | hincomplete
    · exact ⟨all, hassembly, hsame ▸ hall⟩
    · exact ⟨all, hassembly, Or.inr hnone⟩
    · exact absurd (hcomplete.symm.trans (hincomplete stored hstored)) (by simp)

lemma lookup_foldl_erase_some (removed : List ℕ) (chunks : AList fun _ : ℕ => List UInt8)
    {index : ℕ} {data : List UInt8}
    (h : (removed.foldl (fun chunks index => chunks.erase index) chunks).lookup index = some data) :
    chunks.lookup index = some data := by
  induction removed generalizing chunks with
  | nil => exact h
  | cons first rest ih =>
    have herased := ih _ h
    by_cases heq : index = first
    · rw [heq, AList.lookup_erase] at herased
      exact absurd herased (by simp)
    · rwa [AList.lookup_erase_ne heq] at herased

lemma FaithfulSince.keepsRemovals :
    KeepsRemovals (FaithfulSince sha256 parts initial) faults identifier := by
  intro removed _ directory h
  cases hrecord : removed.record with
  | true =>
    have hnone : (removed.remove directory).record = none := by
      simp [RemovedFiles.remove, hrecord]
    exact ⟨faithfulSession_of_none hnone, fun _ hstored => absurd (hnone.symm.trans hstored) (by simp)⟩
  | false =>
    have hsame : (removed.remove directory).record = directory.record := by
      simp [RemovedFiles.remove, hrecord]
    refine ⟨h.toFaithfulSession.of_fewer hsame (fun _ _ => lookup_foldl_erase_some _ _) ?_,
      fun stored hstored => h.since stored (hsame ▸ hstored)⟩
    cases harchive : removed.archive with
    | true => exact Or.inr (Or.inl (by simp [RemovedFiles.remove, harchive]))
    | false => exact Or.inl (by simp [RemovedFiles.remove, harchive])

/-! ### The condition -/

/-- The call rewrites a part that the record still lists, and nothing stops it before the bytes of
the part are written. -/
structure RewritesListed (disk : UploadDisk) (surroundings : UploadSurroundings)
    (identifier : String) (index : ℕ) (data : List UInt8) (stored : ValidUpload) : Prop where
  record : disk.record? identifier = some stored
  unfinished : stored.1.session.complete = false
  live : surroundings.clock identifier < stored.1.session.expires_at
  listed : index ∈ stored.1.session.received_chunks
  length : data.length = expected_chunk_bytes stored.1.session index
  lost : (disk.chunk? identifier index).map List.length ≠ some data.length
  capacity : (disk.sessions.entries.map fun entry => entry.2.used_bytes).sum + data.length ≤
    MAXIMUM_UPLOAD_STORAGE_BYTES
  reserve : ensure_disk_reserve surroundings.disk_usage data.length = .ok ()
  lock : surroundings.faults.lock = .none
  read_record : surroundings.faults.read_record identifier = .none
  chunk_size : surroundings.faults.chunk_size index = .none
  used_bytes : surroundings.faults.used_bytes = .none
  unlink_chunk : surroundings.faults.unlink_chunk index = .none
  create_chunk : surroundings.faults.create_chunk = .none

/-- A call that rewrites a part which the record still lists does not stop between its last byte and
the answer. -/
def UploadEvent.AnswersRewrites (disk : UploadDisk) (e : UploadEvent) : Prop :=
  ∀ surroundings identifier index data stored,
    e = .receive_chunk surroundings identifier index data →
    RewritesListed disk surroundings identifier index.toNat data stored →
      (∀ n, surroundings.faults.write_chunk.Stops n → n < data.length) ∧
        (surroundings.faults.write_chunk = .none →
          surroundings.faults.flush_chunk = .none ∧ surroundings.faults.unlock = .none)

/-- The digest tells a received part from the part that is stored at its index. -/
def UploadEvent.Distinguishes (sha256 : List UInt8 → String) (disk : UploadDisk)
    (e : UploadEvent) : Prop :=
  ∀ surroundings identifier index data present,
    e = .receive_chunk surroundings identifier index data →
    disk.chunk? identifier index.toNat = some present → sha256 present = sha256 data →
      present = data

/-! ### Receiving a part -/

lemma credit_other {key : String} (h : key ≠ identifier) :
    credit parts identifier index data key = parts key := by
  funext other
  rw [credit, if_neg fun h' => h h'.1]

/-- The parts that the record of a directory lists. -/
def SessionDirectory.received (directory : SessionDirectory) : List ℕ :=
  directory.record.elim [] fun stored => stored.1.session.received_chunks

lemma received_of_get? (h : disk.sessions.get? identifier = some directory) :
    disk.received identifier = directory.received := by
  rw [UploadDisk.received, UploadDisk.record?, h]
  rfl

lemma received_of_record (h : directory.record = some stored) :
    directory.received = stored.1.session.received_chunks := by
  rw [SessionDirectory.received, h]
  rfl

/-- Complete records are those from before. -/
def Settles (initial : UploadDisk) (identifier : String) (directory : SessionDirectory) : Prop :=
  ∀ stored, directory.record = some stored → stored.1.session.complete = true →
    initial.record? identifier = some stored

/-- Faithful while a part is received: it is acknowledged once the record begins to list it. -/
structure Receiving (sha256 : List UInt8 → String) (parts : String → ℕ → Option (List UInt8))
    (initial : UploadDisk) (identifier : String) (index : ℕ) (data : List UInt8) (key : String)
    (directory : SessionDirectory) : Prop where
  faithful : FaithfulSession sha256
    ((if index ∉ initial.received identifier ∧ index ∈ directory.received
      then credit parts identifier index data else parts) key) key directory
  settles : Settles initial key directory

/-- Faithful once the part is acknowledged. -/
structure Answered (sha256 : List UInt8 → String) (parts : String → ℕ → Option (List UInt8))
    (initial : UploadDisk) (identifier : String) (index : ℕ) (data : List UInt8) (key : String)
    (directory : SessionDirectory) : Prop where
  faithful : FaithfulSession sha256 (credit parts identifier index data key) key directory
  settles : Settles initial key directory

lemma Receiving.answered {key : String} (hkey : key ≠ identifier)
    (h : Receiving sha256 parts initial identifier index data key directory) :
    Answered sha256 parts initial identifier index data key directory := by
  refine ⟨?_, h.settles⟩
  have hfaithful := h.faithful
  split_ifs at hfaithful
  · exact hfaithful
  · rw [credit_other hkey]
    exact hfaithful

lemma FaithfulSince.receiving {key : String}
    (h : FaithfulSince sha256 parts initial key directory) :
    Receiving sha256 parts initial identifier index data key directory where
  faithful := by
    by_cases hnew : index ∉ initial.received identifier ∧ index ∈ directory.received
    · rw [if_pos hnew]
      have hkey : key ≠ identifier := by
        rintro rfl
        cases hrecord : directory.record with
        | none =>
          rw [SessionDirectory.received, hrecord] at hnew
          exact absurd hnew.2 List.not_mem_nil
        | some stored =>
          rw [received_of_record hrecord] at hnew
          rcases h.since stored hrecord with ⟨hnil, -⟩ | hbefore
          · exact absurd (hnil ▸ hnew.2) List.not_mem_nil
          · rw [UploadDisk.received, hbefore] at hnew
            exact hnew.1 hnew.2
      rw [credit_other hkey]
      exact h.toFaithfulSession
    · rw [if_neg hnew]
      exact h.toFaithfulSession
  settles stored hstored hcomplete := by
    rcases h.since stored hstored with ⟨-, hincomplete⟩ | hbefore
    · exact absurd (hcomplete.symm.trans hincomplete) (by simp)
    · exact hbefore

/-- The part is written, and the directory is otherwise as it was. -/
lemma FaithfulSession.rewritten {acknowledged' : ℕ → Option (List UInt8)}
    {content : Option (List UInt8)}
    (h : FaithfulSession sha256 acknowledged identifier start) (hrecord : start.record = some stored)
    (hcomplete : stored.1.session.complete = false)
    (hrewritten : Rewritten start index content directory)
    (hothers : ∀ other, other ≠ index → acknowledged' other = acknowledged other)
    (hhere : index ∈ stored.1.session.received_chunks → ∀ data', content = some data' →
      data'.length = expected_chunk_bytes stored.1.session index →
        acknowledged' index = some data') :
    FaithfulSession sha256 acknowledged' identifier directory where
  named stored' hstored' := h.named stored' (hrewritten.record ▸ hstored')
  listed stored' hstored' _ other hother data' hdata' hlength := by
    obtain rfl := Option.some_inj.mp (hrecord.symm.trans (hrewritten.record ▸ hstored'))
    by_cases heq : other = index
    · subst heq
      exact hhere hother data' (hrewritten.here.symm.trans hdata') hlength
    · rw [hothers other heq]
      rw [hrewritten.others other heq] at hdata'
      exact h.listed stored hrecord hcomplete other hother data' hdata' hlength
  assembled stored' hstored' hcomplete' := by
    obtain rfl := Option.some_inj.mp (hrecord.symm.trans (hrewritten.record ▸ hstored'))
    exact absurd (hcomplete'.symm.trans hcomplete) (by simp)

/-- What is known of the session whose part is received. -/
structure Ready (surroundings : UploadSurroundings) (sha256 : List UInt8 → String)
    (parts : String → ℕ → Option (List UInt8)) (initial : UploadDisk) (identifier : String)
    (index : ℕ) (data : List UInt8) (stored : ValidUpload) (start : SessionDirectory) : Prop where
  found : initial.sessions.get? identifier = some start
  record : start.record = some stored
  faithful : FaithfulSession sha256 (parts identifier) identifier start
  unfinished : stored.1.session.complete = false
  live : surroundings.clock identifier < stored.1.session.expires_at
  length : data.length = expected_chunk_bytes stored.1.session index
  lock : surroundings.faults.lock = .none
  read_record : surroundings.faults.read_record identifier = .none
  distinguishes : ∀ present, initial.chunk? identifier index = some present →
    sha256 present = sha256 data → present = data
  answers : RewritesListed initial surroundings identifier index data stored →
    (∀ n, surroundings.faults.write_chunk.Stops n → n < data.length) ∧
      (surroundings.faults.write_chunk = .none →
        surroundings.faults.flush_chunk = .none ∧ surroundings.faults.unlock = .none)

namespace Ready

variable (h : Ready surroundings sha256 parts initial identifier index data stored start)

include h

lemma received : initial.received identifier = stored.1.session.received_chunks := by
  rw [received_of_get? h.found, received_of_record h.record]

lemma settles (hrecord : directory.record = start.record) :
    Settles initial identifier directory := fun stored' hstored' hcomplete => by
  obtain rfl := Option.some_inj.mp (h.record.symm.trans (hrecord ▸ hstored'))
  exact absurd (hcomplete.symm.trans h.unfinished) (by simp)

/-- The part is not listed before the record is saved. -/
lemma receiving {content : Option (List UInt8)}
    (hrewritten : Rewritten start index content directory)
    (hhere : index ∈ stored.1.session.received_chunks → ∀ data', content = some data' →
      data'.length = expected_chunk_bytes stored.1.session index →
        parts identifier index = some data') :
    Receiving sha256 parts initial identifier index data identifier directory where
  faithful := by
    rw [if_neg]
    · exact h.faithful.rewritten h.record h.unfinished hrewritten (fun _ _ => rfl) hhere
    · rw [h.received, SessionDirectory.received, hrewritten.record, h.record]
      exact fun hnew => hnew.1 hnew.2
  settles := h.settles hrewritten.record

lemma receiving_start : Receiving sha256 parts initial identifier index data identifier start where
  faithful := by
    rw [if_neg]
    · exact h.faithful
    · rw [h.received, received_of_record h.record]
      exact fun hnew => hnew.1 hnew.2
  settles := h.settles rfl

end Ready

/-- The part is there after `store_part`; if a listed one was rewritten, the lock is released without
a fault. -/
lemma contract_store_faithful
    (h : Ready surroundings sha256 parts initial identifier index data stored start) :
    Contract
      (fun disk => disk = initial ∧
        disk.At (Receiving sha256 parts initial identifier index data) identifier (· = start))
      (store_part surroundings sha256 identifier index data)
      (fun _ => UploadDisk.At (Receiving sha256 parts initial identifier index data) identifier
        fun directory => Rewritten start index (some data) directory ∧
          (directory = start ∨
            (index ∈ stored.1.session.received_chunks → surroundings.faults.unlock = .none)))
      fun _ => UploadDisk.Every (Receiving sha256 parts initial identifier index data) := by
  have hstop : ∀ disk : UploadDisk,
      disk.At (Receiving sha256 parts initial identifier index data) identifier (· = start) →
        disk.Every (Receiving sha256 parts initial identifier index data) :=
    fun _ hat => hat.every fun _ heq => heq ▸ h.receiving_start
  have hchunk : initial.chunk? identifier index = start.chunks.lookup index := by
    rw [UploadDisk.chunk?, h.found]
    rfl
  refine Contract.bind (Q := fun size disk => (surroundings.faults.chunk_size index = .none ∧
      size = (start.chunks.lookup index).map List.length) ∧ disk = initial ∧
        disk.At (Receiving sha256 parts initial identifier index data) identifier (· = start))
    ⟨fun hdisk hx => ?_, fun hdisk hx => ?_⟩ fun size => .assume fun hsize => ?_
  · obtain ⟨rfl, hnone, rfl⟩ := chunk_size_returned hx
    exact ⟨⟨hnone, by rw [hdisk.1, hchunk]⟩, hdisk⟩
  · exact (contract_chunk_size fun _ heq => heq ▸ h.receiving_start).fails hdisk.2 hx
  obtain ⟨hmeasured, hsize⟩ := hsize
  refine .ite (fun hequal => ?_) fun hdiffers => ?_
  · refine Contract.bind (Q := fun present => UploadDisk.At
        (Receiving sha256 parts initial identifier index data) identifier fun directory =>
          directory = start ∧ directory.chunks.lookup index = some present)
      ((contract_read_part (fun _ _ heq => heq ▸ h.receiving_start)
        fun _ heq _ => heq ▸ h.receiving_start).strengthen fun _ h => h.2) fun present => ?_
    refine contract_attempt (fun _ hok disk hat => ?_)
      fun _ _ _ hat => hat.every fun _ heq => heq.1 ▸ h.receiving_start
    refine hat.mono fun directory hdirectory => ?_
    obtain ⟨rfl, hpresent⟩ := hdirectory
    rw [raise_if_eq_ok, not_not] at hok
    obtain rfl := h.distinguishes present (hchunk.trans hpresent) hok
    exact ⟨⟨rfl, rfl, hpresent, fun _ _ => rfl⟩, Or.inl rfl⟩
  · refine Contract.bind (Q := fun _ disk => ((surroundings.faults.used_bytes = .none ∧
        (initial.sessions.entries.map fun entry => entry.2.used_bytes).sum + data.length ≤
          MAXIMUM_UPLOAD_STORAGE_BYTES)) ∧
        disk.At (Receiving sha256 parts initial identifier index data) identifier (· = start))
      ⟨fun hdisk hx => ?_, fun hdisk hx => ?_⟩ fun _ => .assume
        (P := UploadDisk.At (Receiving sha256 parts initial identifier index data) identifier
          (· = start)) fun hcapacity => ?_
    · obtain ⟨rfl, hnone, hfits⟩ := check_capacity_returned hx
      exact ⟨⟨hnone, hdisk.1 ▸ hfits⟩, hdisk.2⟩
    · exact hstop _ (keeps_check_capacity.fails hdisk.2 hx)
    refine Contract.bind (Q := fun _ disk =>
        ensure_disk_reserve surroundings.disk_usage data.length = .ok () ∧
          disk.At (Receiving sha256 parts initial identifier index data) identifier (· = start))
      (contract_attempt (fun _ hok _ hat => ⟨hok, hat⟩) fun _ _ _ => hstop _)
      fun _ => .assume
        (P := UploadDisk.At (Receiving sha256 parts initial identifier index data) identifier
          (· = start)) fun hreserve => ?_
    have hlost : (initial.chunk? identifier index).map List.length ≠ some data.length := by
      rw [hchunk, ← hsize]
      exact hdiffers
    have hanswers : index ∈ stored.1.session.received_chunks →
        surroundings.faults.unlink_chunk index = .none →
        surroundings.faults.create_chunk = .none →
        (∀ n, surroundings.faults.write_chunk.Stops n → n < data.length) ∧
          (surroundings.faults.write_chunk = .none →
            surroundings.faults.flush_chunk = .none ∧ surroundings.faults.unlock = .none) := by
      intro hlisted hunlink hcreate
      refine h.answers ⟨?_, h.unfinished, h.live, hlisted, h.length, hlost, hcapacity.2, hreserve,
        h.lock, h.read_record, hmeasured, hcapacity.1, hunlink, hcreate⟩
      rw [UploadDisk.record?, h.found, Option.bind_some, h.record]
    have hpos := expected_chunk_bytes_pos stored.2 index
    refine (contract_write_chunk h.receiving_start (fun content directory hrewritten hcontent => ?_)
      fun hunlink hcreate hwrite hflush directory hrewritten => ?_).weaken fun _ disk hdisk => ?_
    · refine h.receiving hrewritten fun hlisted data' hdata' hlength => ?_
      rcases hcontent with hnone | hempty | ⟨hunlink, hcreate, n, hn, hcontent⟩
      · exact absurd (hnone.symm.trans hdata') (by simp)
      · obtain rfl := Option.some_inj.mp (hempty.symm.trans hdata')
        exact absurd hlength hpos.ne
      · obtain rfl := Option.some_inj.mp (hcontent.symm.trans hdata')
        have hshort := (hanswers hlisted hunlink hcreate).1 n hn
        rw [List.length_take, ← h.length] at hlength
        omega
    · refine h.receiving hrewritten fun hlisted => ?_
      exact absurd ((hanswers hlisted hunlink hcreate).2 hwrite).1 hflush
    · obtain ⟨⟨hunlink, hcreate, hwrite⟩, hat⟩ := hdisk
      exact hat.mono fun directory hrewritten => ⟨hrewritten, Or.inr fun hlisted =>
        ((hanswers hlisted hunlink hcreate).2 hwrite).2⟩

lemma credit_here : credit parts identifier index data identifier index = some data :=
  if_pos ⟨rfl, rfl⟩

lemma credit_elsewhere {other : ℕ} (h : other ≠ index) :
    credit parts identifier index data identifier other = parts identifier other :=
  if_neg fun h' => h h'.2

/-- With the part in place, the session is faithful to the acknowledgement. -/
lemma Ready.answered (h : Ready surroundings sha256 parts initial identifier index data stored start)
    (hrewritten : Rewritten start index (some data) directory) :
    Answered sha256 parts initial identifier index data identifier directory where
  faithful := h.faithful.rewritten h.record h.unfinished hrewritten (fun _ => credit_elsewhere)
    fun _ _ hdata' _ => Option.some_inj.mp hdata' ▸ credit_here
  settles := h.settles hrewritten.record

/-- The record that lists the part. -/
lemma Ready.listed (h : Ready surroundings sha256 parts initial identifier index data stored start)
    (hrewritten : Rewritten start index (some data) directory) {listed : ValidUpload}
    (hlisted : listed.1.session = listing stored.1.session index) :
    Answered sha256 parts initial identifier index data identifier
      { directory with record := some listed } where
  faithful := by
    refine ⟨fun stored' hstored' => ?_, fun stored' hstored' _ other hother data' hdata' hlength => ?_,
      fun stored' hstored' hcomplete => ?_⟩
    · obtain rfl := Option.some_inj.mp hstored'
      rw [hlisted]
      exact h.faithful.named stored h.record
    · obtain rfl := Option.some_inj.mp hstored'
      rw [hlisted] at hother hlength
      by_cases heq : other = index
      · subst heq
        obtain rfl := Option.some_inj.mp (hrewritten.here.symm.trans hdata')
        exact credit_here
      · rw [credit_elsewhere heq]
        exact h.faithful.listed stored h.record h.unfinished other
          ((mem_listing.mp hother).resolve_right heq) data'
          ((hrewritten.others other heq).symm.trans hdata') hlength
    · obtain rfl := Option.some_inj.mp hstored'
      rw [hlisted] at hcomplete
      exact absurd (hcomplete.symm.trans h.unfinished) (by simp)
  settles stored' hstored' hcomplete := by
    obtain rfl := Option.some_inj.mp hstored'
    rw [hlisted] at hcomplete
    exact absurd (hcomplete.symm.trans h.unfinished) (by simp)

lemma every_answered {F : SessionDirectory → Prop}
    (hat : disk.At (Receiving sha256 parts initial identifier index data) identifier F)
    (hF : ∀ directory, F directory →
      Answered sha256 parts initial identifier index data identifier directory) :
    disk.Every (Answered sha256 parts initial identifier index data) :=
  UploadDisk.At.every ⟨fun key directory hkey hget => (hat.others key directory hkey hget).answered hkey,
    hat.here⟩ hF

lemma contract_list_faithful
    (h : Ready surroundings sha256 parts initial identifier index data stored start) :
    Contract
      (UploadDisk.At (Receiving sha256 parts initial identifier index data) identifier
        fun directory => Rewritten start index (some data) directory ∧
          (directory = start ∨
            (index ∈ stored.1.session.received_chunks → surroundings.faults.unlock = .none)))
      (list_part surroundings stored index)
      (fun _ disk => disk.Every (Answered sha256 parts initial identifier index data) ∧
        (surroundings.faults.unlock ≠ .none →
          disk.Every (Receiving sha256 parts initial identifier index data)))
      fun _ => UploadDisk.Every (Receiving sha256 parts initial identifier index data) := by
  refine contract_pin fun now ⟨hrewritten, hreleased⟩ => ?_
  refine .ite (fun hlisted => .pure fun disk hat => ?_) fun hnew => ?_
  · refine ⟨every_answered hat fun _ heq => heq ▸ h.answered hrewritten, fun hunlock =>
      hat.every fun directory heq => ?_⟩
    rw [heq, hreleased.resolve_right fun hnone => hunlock (hnone hlisted)]
    exact h.receiving_start
  have hbefore : Receiving sha256 parts initial identifier index data identifier now :=
    h.receiving hrewritten fun hlisted => absurd hlisted hnew
  refine Contract.bind (Q := fun listed disk => listed.1.session = listing stored.1.session index ∧
      disk.At (Receiving sha256 parts initial identifier index data) identifier (· = now))
    (contract_attempt (fun listed hok _ hat => ?_) fun _ _ _ hat => hat.every fun _ heq => heq ▸ hbefore)
    fun listed => .assume
      (P := UploadDisk.At (Receiving sha256 parts initial identifier index data) identifier (· = now))
      fun hlisted => ?_
  · rw [updated] at hok
    split_ifs at hok
    obtain rfl := Except.ok.inj hok
    exact ⟨rfl, hat⟩
  have hanswered := h.listed hrewritten hlisted
  have hafter : Receiving sha256 parts initial identifier index data identifier
      { now with record := some listed } := by
    refine ⟨?_, hanswered.settles⟩
    rw [if_pos]
    · exact hanswered.faithful
    · have hrecord : ({ now with record := some listed } : SessionDirectory).record = some listed :=
        rfl
      rw [h.received, received_of_record hrecord, hlisted]
      exact ⟨hnew, mem_listing.mpr (Or.inr rfl)⟩
  refine Contract.bind (Q := fun _ => UploadDisk.At
      (Receiving sha256 parts initial identifier index data) identifier
        (· = { now with record := some listed })) ?_ fun _ => .pure fun disk hat => ?_
  · refine contract_save_record (by rw [hlisted]; exact h.faithful.named stored h.record)
      (fun _ heq => by rw [heq]) (fun _ _ heq => heq ▸ hbefore) fun _ heq => heq ▸ hafter
  · exact ⟨every_answered hat fun _ heq => heq ▸ hanswered, fun _ =>
      hat.every fun _ heq => heq ▸ hafter⟩

/-- What the condition and the digest give for one call. -/
structure ReceivesFaithfully (surroundings : UploadSurroundings) (sha256 : List UInt8 → String)
    (initial : UploadDisk) (identifier : String) (index : ℕ) (data : List UInt8) : Prop where
  distinguishes : ∀ present, initial.chunk? identifier index = some present →
    sha256 present = sha256 data → present = data
  answers : ∀ stored, RewritesListed initial surroundings identifier index data stored →
    (∀ n, surroundings.faults.write_chunk.Stops n → n < data.length) ∧
      (surroundings.faults.write_chunk = .none →
        surroundings.faults.flush_chunk = .none ∧ surroundings.faults.unlock = .none)

/-- The call after it has loaded the session. -/
lemma contract_receive_loaded {index : ℤ}
    (h : ReceivesFaithfully surroundings sha256 initial identifier index.toNat data)
    (hlock : surroundings.faults.lock = .none)
    (hread : surroundings.faults.read_record identifier = .none)
    (hfound : initial.sessions.get? identifier = some start)
    (hloaded : Loaded surroundings (FaithfulSince sha256 parts initial) identifier stored start) :
    Contract
      (fun disk => disk = initial ∧
        disk.At (Receiving sha256 parts initial identifier index.toNat data) identifier (· = start))
      (do
        attempt (check_part stored.1.session index data)
        store_part surroundings sha256 identifier index.toNat data
        let listed ← list_part surroundings stored index.toNat
        return acknowledgement sha256 identifier index.toNat data listed.1.session)
      (fun _ disk => disk.Every (Answered sha256 parts initial identifier index.toNat data) ∧
        (surroundings.faults.unlock ≠ .none →
          disk.Every (Receiving sha256 parts initial identifier index.toNat data)))
      fun _ => UploadDisk.Every (Receiving sha256 parts initial identifier index.toNat data) := by
  refine Contract.bind (Q := fun _ disk => check_part stored.1.session index data = .ok () ∧
      disk = initial ∧
        disk.At (Receiving sha256 parts initial identifier index.toNat data) identifier (· = start))
    (contract_attempt (fun _ hok _ hdisk => ⟨hok, hdisk⟩) fun _ _ _ hdisk =>
      hdisk.2.every fun _ heq => heq ▸ hloaded.keeps.receiving) fun _ => .assume
    (P := fun disk => disk = initial ∧
      disk.At (Receiving sha256 parts initial identifier index.toNat data) identifier (· = start))
    fun hcheck => ?_
  obtain ⟨_, hcomplete, hcheck⟩ := bind_eq_ok.mp hcheck
  obtain ⟨_, -, hlength⟩ := bind_eq_ok.mp hcheck
  rw [raise_if_eq_ok, Bool.not_eq_true] at hcomplete
  rw [raise_if_eq_ok, not_not] at hlength
  have hready : Ready surroundings sha256 parts initial identifier index.toNat data stored start :=
    { found := hfound
      record := hloaded.record
      faithful := hloaded.keeps.toFaithfulSession
      unfinished := hcomplete
      live := hloaded.unexpired
      length := hlength
      lock := hlock
      read_record := hread
      distinguishes := h.distinguishes
      answers := h.answers stored }
  exact (contract_store_faithful hready).bind fun _ =>
    (contract_list_faithful hready).bind fun _ => .pure fun _ => id

theorem contract_receive_faithful {index : ℤ}
    (h : ReceivesFaithfully surroundings sha256 initial identifier index.toNat data) :
    Contract (fun disk => disk = initial ∧ disk.Every (FaithfulSince sha256 parts initial))
      (receive_chunk surroundings sha256 identifier index data)
      (fun _ => UploadDisk.Every (Answered sha256 parts initial identifier index.toNat data))
      fun _ => UploadDisk.Every (Receiving sha256 parts initial identifier index.toNat data) := by
  have hback : ∀ disk : UploadDisk, disk.Every (FaithfulSince sha256 parts initial) →
      disk.Every (Receiving sha256 parts initial identifier index.toNat data) :=
    fun _ hevery key directory hget => (hevery key directory hget).receiving
  refine Contract.weaken (Q := fun _ disk =>
      disk.Every (Answered sha256 parts initial identifier index.toNat data) ∧
        (surroundings.faults.unlock ≠ .none →
          disk.Every (Receiving sha256 parts initial identifier index.toNat data)))
    (contract_locked (fun hlock => ?_) (fun _ hdisk => hback _ hdisk.2)
      fun hunlock _ _ hdisk => hdisk.2 hunlock) fun _ _ hdisk => hdisk.1
  refine ((contract_load_same FaithfulSince.keepsRemovals).mono (fun _ => id) (fun _ _ => id)
    fun _ => hback).bind fun stored => .assume fun hread => ⟨fun hdisk hx => ?_, fun hdisk hx => ?_⟩
  all_goals
    obtain ⟨hsame, hat⟩ := hdisk
    obtain ⟨start, hget, hloaded⟩ := hat.here
    have hready := contract_receive_loaded h hlock hread (hsame ▸ hget) hloaded
    have hstart : UploadDisk.At (Receiving sha256 parts initial identifier index.toNat data)
        identifier (· = start) _ :=
      ⟨fun key directory hkey hget => (hat.others key directory hkey hget).receiving,
        start, hget, rfl⟩
  · exact hready.returns ⟨hsame, hstart⟩ hx
  · exact hready.fails ⟨hsame, hstart⟩ hx

end StegoLab

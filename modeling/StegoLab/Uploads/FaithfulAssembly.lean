import StegoLab.Uploads.Faithful

/-!
# Faithful assembly

The archive of a complete session joins the parts that were last acknowledged, along every run in
which no call stops between the rewriting of a part that the record still lists and its answer.
-/

namespace StegoLab

open Transaction Program UploadSessionFiles DatasetUploadStore UploadDisk

variable {identifier : String} {stored : ValidUpload} {surroundings : UploadSurroundings}
  {sha256 : List UInt8 → String} {start directory : SessionDirectory} {disk initial : UploadDisk}
  {acknowledged : ℕ → Option (List UInt8)} {parts : String → ℕ → Option (List UInt8)}

/-! ### Completing a session -/

/-- With some parts of an unfinished session gone, it is as faithful as before. -/
lemma FaithfulSession.from_consumed {done : List ℕ}
    (h : FaithfulSession sha256 (parts identifier) identifier start)
    (hrecord : start.record = some stored) (hcomplete : stored.1.session.complete = false)
    (hconsumed : Consumed start done directory) :
    FaithfulFrom sha256 parts initial identifier directory where
  toFaithfulSession := by
    refine h.of_fewer hconsumed.record (fun index data hdata => ?_) (Or.inr (Or.inr ?_))
    · rw [hconsumed.chunks] at hdata
      split_ifs at hdata
      exact hdata
    · intro stored' hstored'
      obtain rfl := Option.some_inj.mp (hrecord.symm.trans hstored')
      exact hcomplete
  archive stored' hstored' hcomplete' := by
    obtain rfl := Option.some_inj.mp (hrecord.symm.trans (hconsumed.record ▸ hstored'))
    exact absurd (hcomplete'.symm.trans hcomplete) (by simp)

/-- The joined parts of a session that has them all are the assembly of what was acknowledged. -/
lemma FaithfulSession.assembly {completed : StoredUploadSession}
    (h : FaithfulSession sha256 acknowledged identifier start)
    (hrecord : start.record = some stored) (hcomplete : stored.1.session.complete = false)
    (hholds : ∀ index < stored.1.session.chunk_count,
      index ∈ stored.1.session.received_chunks ∧ start.Holds stored.1.session index)
    {all : List UInt8} (hall : all = (List.range stored.1.session.chunk_count).flatMap start.part)
    (hcount : completed.session.chunk_count = stored.1.session.chunk_count)
    (htotal : completed.session.total_bytes = stored.1.session.total_bytes)
    (hdigest : completed.session.sha256 = some (sha256 all))
    (hexpected : ∀ expected, completed.expected_sha256 = some expected → expected = sha256 all) :
    Assembly sha256 acknowledged completed all where
  parts := by
    rw [hcount]
    refine ⟨start.part, fun index hindex => ?_, hall⟩
    obtain ⟨hlisted, hpart⟩ := hholds index hindex
    obtain ⟨data, hdata, hlength⟩ := Option.map_eq_some_iff.mp hpart
    rw [h.listed stored hrecord hcomplete index hlisted data hdata hlength, SessionDirectory.part,
      hdata]
    rfl
  total_bytes := by
    rw [htotal, ← sum_expected_chunk_bytes stored.2, hall, List.length_flatMap]
    refine congrArg List.sum (List.map_congr_left fun index hindex => ?_)
    obtain ⟨data, hdata, hlength⟩ :=
      Option.map_eq_some_iff.mp (hholds index (List.mem_range.mp hindex)).2
    rw [SessionDirectory.part, hdata]
    exact hlength
  digest := hdigest
  expected_sha256 := hexpected

/-- The archive is whole and its session may be published. -/
lemma contract_publish_archive {all : List UInt8}
    (h : FaithfulSession sha256 (parts identifier) identifier start)
    (hrecord : start.record = some stored) (hcomplete : stored.1.session.complete = false)
    (hholds : ∀ index < stored.1.session.chunk_count,
      index ∈ stored.1.session.received_chunks ∧ start.Holds stored.1.session index)
    (hall : all = (List.range stored.1.session.chunk_count).flatMap start.part)
    (hexpected : ∀ expected, stored.1.expected_sha256 = some expected → expected = sha256 all) :
    Contract
      (UploadDisk.At (FaithfulFrom sha256 parts initial) identifier
        (Joining start (List.range stored.1.session.chunk_count) all))
      (publish_archive surroundings identifier stored (sha256 all))
      (fun _ => UploadDisk.Every (FaithfulFrom sha256 parts initial))
      fun _ => UploadDisk.Every (FaithfulFrom sha256 parts initial) := by
  have hbefore : ∀ directory, Joining start (List.range stored.1.session.chunk_count) all directory →
      FaithfulFrom sha256 parts initial identifier directory :=
    fun _ hjoining => h.from_consumed hrecord hcomplete hjoining.toConsumed
  refine Contract.bind (Q := fun completed disk =>
      (completed.1.session =
          { stored.1.session with complete := true, sha256 := some (sha256 all) } ∧
        completed.1.expected_sha256 = stored.1.expected_sha256) ∧
      disk.At (FaithfulFrom sha256 parts initial) identifier
        (Joining start (List.range stored.1.session.chunk_count) all))
    (contract_attempt (fun completed hok _ hat => ?_) fun _ _ _ hat => hat.every hbefore)
    fun completed => .assume (P := UploadDisk.At (FaithfulFrom sha256 parts initial) identifier
        (Joining start (List.range stored.1.session.chunk_count) all)) fun hcompleted => ?_
  · rw [updated] at hok
    split_ifs at hok
    obtain rfl := Except.ok.inj hok
    exact ⟨⟨rfl, rfl⟩, hat⟩
  obtain ⟨hsession, hsame⟩ := hcompleted
  have hassembly : Assembly sha256 (parts identifier) completed.1 all :=
    h.assembly hrecord hcomplete hholds hall (by rw [hsession]) (by rw [hsession])
      (by rw [hsession]) fun expected hequal => hexpected expected (hsame ▸ hequal)
  have hafter : ∀ directory : SessionDirectory, directory.record = some completed ∧
      directory.archive = some all → FaithfulFrom sha256 parts initial identifier directory := by
    intro directory hdirectory
    refine ⟨⟨fun stored' hstored' => ?_, fun stored' hstored' hincomplete => ?_,
      fun stored' hstored' _ => ?_⟩, fun _ _ _ => Or.inr (by simp [hdirectory.2])⟩
    · obtain rfl := Option.some_inj.mp (hdirectory.1.symm.trans hstored')
      rw [hsession]
      exact h.named stored hrecord
    · obtain rfl := Option.some_inj.mp (hdirectory.1.symm.trans hstored')
      rw [hsession] at hincomplete
      exact absurd hincomplete (by simp)
    · obtain rfl := Option.some_inj.mp (hdirectory.1.symm.trans hstored')
      exact ⟨all, hassembly, Or.inl hdirectory.2⟩
  refine (contract_save_record (G := fun directory => directory.record = some completed ∧
      directory.archive = some all) (by rw [hsession]; exact h.named stored hrecord)
    (fun _ hjoining => ⟨rfl, hjoining.archive⟩) (fun _ => hbefore) hafter).bind fun _ => ?_
  exact (contract_remove_chunks fun directory chunks hdirectory => hafter _ hdirectory).bind
    fun _ => .pure fun _ => id

lemma contract_verify_faithful {all : List UInt8}
    (h : FaithfulSession sha256 (parts identifier) identifier start)
    (hrecord : start.record = some stored) (hcomplete : stored.1.session.complete = false)
    (hholds : ∀ index < stored.1.session.chunk_count,
      index ∈ stored.1.session.received_chunks ∧ start.Holds stored.1.session index)
    (hall : all = (List.range stored.1.session.chunk_count).flatMap start.part)
    (leading : List UInt8) :
    Contract
      (UploadDisk.At (FaithfulFrom sha256 parts initial) identifier
        (Joining start (List.range stored.1.session.chunk_count) all))
      (verify_archive surroundings identifier stored (sha256 all) leading)
      (fun _ => UploadDisk.Every (FaithfulFrom sha256 parts initial))
      fun _ => UploadDisk.Every (FaithfulFrom sha256 parts initial) := by
  have hremoval : Contract
      (UploadDisk.At (FaithfulFrom sha256 parts initial) identifier
        (Joining start (List.range stored.1.session.chunk_count) all))
      (remove_session surroundings.faults identifier (some stored.1.client_request_identifier))
      (fun _ => UploadDisk.Every (FaithfulFrom sha256 parts initial))
      fun _ => UploadDisk.Every (FaithfulFrom sha256 parts initial) := by
    refine (contract_remove_session fun removed _ directory hjoining => ?_).strengthen
      fun _ hat => hat.near
    cases hremoved : removed.record with
    | true =>
      have hnone : (removed.remove directory).record = none := by
        simp [RemovedFiles.remove, hremoved]
      exact ⟨faithfulSession_of_none hnone, fun _ hstored' =>
        absurd (hnone.symm.trans hstored') (by simp)⟩
    | false =>
      have hsame : (removed.remove directory).record = start.record := by
        rw [← hjoining.record]
        simp [RemovedFiles.remove, hremoved]
      refine ⟨h.of_fewer hsame (fun index data hdata => ?_) (Or.inr (Or.inr fun stored' hstored' => ?_)),
        fun stored' hstored' hcomplete' => ?_⟩
      · have hlookup := lookup_foldl_erase_some _ _ hdata
        rw [hjoining.chunks] at hlookup
        split_ifs at hlookup
        exact hlookup
      · obtain rfl := Option.some_inj.mp (hrecord.symm.trans hstored')
        exact hcomplete
      · obtain rfl := Option.some_inj.mp (hrecord.symm.trans (hsame ▸ hstored'))
        exact absurd (hcomplete'.symm.trans hcomplete) (by simp)
  refine .ite (fun _ => hremoval.bind fun _ => contract_refuse) fun hmatches =>
    .ite (fun _ => hremoval.bind fun _ => contract_refuse) fun _ => ?_
  refine contract_publish_archive h hrecord hcomplete hholds hall fun expected hexpected => ?_
  rw [hexpected] at hmatches
  by_contra hne
  exact hmatches ⟨by simp, fun hsame => hne (Option.some_inj.mp hsame)⟩

lemma contract_complete_faithful_parts
    (h : FaithfulSession sha256 (parts identifier) identifier start)
    (hrecord : start.record = some stored) (hcomplete : stored.1.session.complete = false) :
    Contract (UploadDisk.At (FaithfulFrom sha256 parts initial) identifier (· = start))
      (complete_parts surroundings sha256 identifier stored)
      (fun _ => UploadDisk.Every (FaithfulFrom sha256 parts initial))
      fun _ => UploadDisk.Every (FaithfulFrom sha256 parts initial) := by
  refine ((contract_verified_parts (fun done directory _ hconsumed =>
      h.from_consumed hrecord hcomplete hconsumed) stored.1.session.received_chunks []
    fun _ hmem => absurd hmem List.not_mem_nil).strengthen fun _ hat =>
      hat.mono fun _ heq => heq ▸ .refl).bind fun present => ?_
  refine contract_pin fun now ⟨hpresent, done, hdone, hnow⟩ => ?_
  have hkept : FaithfulFrom sha256 parts initial identifier now :=
    h.from_consumed hrecord hcomplete hnow
  have hnow_record := hnow.record.trans hrecord
  have hmember : ∀ index ∈ present, index ∈ stored.1.session.received_chunks ∧
      start.Holds stored.1.session index := by
    intro index hindex
    rw [hpresent, List.mem_filter] at hindex
    exact ⟨hindex.1, of_decide_eq_true hindex.2⟩
  have hstop : ∀ disk : UploadDisk,
      disk.At (FaithfulFrom sha256 parts initial) identifier (· = now) →
        disk.Every (FaithfulFrom sha256 parts initial) :=
    fun _ hat => hat.every fun _ heq => heq ▸ hkept
  refine .ite (fun hlength => ?_) fun _ => ?_
  · have hsorted : present.Pairwise (· < ·) := by
      rw [hpresent]
      exact stored.2.received_chunks.sublist List.filter_sublist
    have hholds : ∀ index < stored.1.session.chunk_count,
        index ∈ stored.1.session.received_chunks ∧ now.Holds stored.1.session index := by
      intro index hindex
      obtain ⟨hlisted, hpart⟩ := hmember index (mem_of_length_eq hsorted
        (fun index hindex => stored.2.in_range index (hmember index hindex).1) hlength hindex)
      refine ⟨hlisted, ?_⟩
      rw [SessionDirectory.Holds, hnow.chunks, if_neg fun hmem => hdone index hmem hpart]
      exact hpart
    refine (keeps_check_capacity.mono (fun _ => id) (fun _ _ => id) fun _ => hstop).bind fun _ => ?_
    refine (keeps_attempt.mono (fun _ => id) (fun _ _ => id) fun _ => hstop).bind fun _ => ?_
    refine (contract_assemble (fun index hindex hnone => ?_)
      (fun directory hconsumed => hkept.toFaithfulSession.from_consumed hnow_record hcomplete hconsumed)
      (Or.inr fun done directory hconsumed =>
        hkept.toFaithfulSession.from_consumed hnow_record hcomplete hconsumed)).bind fun assembled => ?_
    · have hpart := (hholds index hindex).2
      rw [SessionDirectory.Holds, hnone] at hpart
      exact absurd hpart (by simp)
    · refine .exists_pre fun all => .assume fun hall => .assume fun hassembled => ?_
      subst hassembled
      exact contract_verify_faithful hkept.toFaithfulSession hnow_record hcomplete hholds hall _
  · refine Contract.bind (Q := fun corrected disk =>
        corrected.1.session = { stored.1.session with received_chunks := present } ∧
          disk.At (FaithfulFrom sha256 parts initial) identifier (· = now))
      (contract_attempt (fun corrected hok _ hat => ?_) fun _ _ _ => hstop _)
      fun corrected => .assume
        (P := UploadDisk.At (FaithfulFrom sha256 parts initial) identifier (· = now))
        fun hsession => ?_
    · rw [updated] at hok
      split_ifs at hok
      obtain rfl := Except.ok.inj hok
      exact ⟨rfl, hat⟩
    have hafter : FaithfulFrom sha256 parts initial identifier
        { now with record := some corrected } := by
      refine ⟨⟨fun stored' hstored' => ?_, fun stored' hstored' _ index hindex data hdata hsize => ?_,
        fun stored' hstored' hcomplete' => ?_⟩, fun stored' hstored' hcomplete' => ?_⟩
      · obtain rfl := Option.some_inj.mp hstored'
        rw [hsession]
        exact h.named stored hrecord
      · obtain rfl := Option.some_inj.mp hstored'
        rw [hsession] at hindex hsize
        exact hkept.listed stored hnow_record hcomplete index (hmember index hindex).1 data hdata hsize
      · obtain rfl := Option.some_inj.mp hstored'
        rw [hsession] at hcomplete'
        exact absurd (hcomplete'.symm.trans hcomplete) (by simp)
      · obtain rfl := Option.some_inj.mp hstored'
        rw [hsession] at hcomplete'
        exact absurd (hcomplete'.symm.trans hcomplete) (by simp)
    refine Contract.bind (Q := fun _ => UploadDisk.Every (FaithfulFrom sha256 parts initial))
      (contract_replace_record hkept ?_ hafter) fun _ => contract_raise fun _ => id
    rw [hsession]
    exact h.named stored hrecord

theorem contract_complete_faithful :
    Contract (UploadDisk.Every (FaithfulSince sha256 parts initial))
      (complete surroundings sha256 identifier)
      (fun _ => UploadDisk.Every (FaithfulFrom sha256 parts initial))
      fun _ => UploadDisk.Every (FaithfulFrom sha256 parts initial) := by
  have hback : ∀ disk : UploadDisk, disk.Every (FaithfulSince sha256 parts initial) →
      disk.Every (FaithfulFrom sha256 parts initial) :=
    fun _ hevery key directory hget => (hevery key directory hget).from
  refine contract_serialised ?_ hback fun _ _ => id
  refine Contract.bind (Q := fun stored => UploadDisk.At (FaithfulFrom sha256 parts initial)
      identifier (Loaded surroundings (FaithfulSince sha256 parts initial) identifier stored))
    ((contract_load FaithfulSince.keepsRemovals).mono (fun _ => id) (fun stored disk hat => ?_)
      fun _ => hback) fun stored => contract_pin fun start hloaded => ?_
  · exact ⟨fun key directory hkey hget => (hat.others key directory hkey hget).from, hat.here⟩
  refine .ite (fun hcomplete => ?_) fun hcomplete => ?_
  · refine (contract_remove_chunks fun directory chunks heq => ?_).bind fun _ => .pure fun _ => id
    subst heq
    refine ⟨⟨hloaded.keeps.named, fun stored' hstored' hincomplete => ?_,
      hloaded.keeps.assembled⟩, hloaded.keeps.from.archive⟩
    obtain rfl := Option.some_inj.mp (hloaded.record.symm.trans hstored')
    exact absurd (hcomplete.symm.trans hincomplete) (by simp)
  · exact contract_complete_faithful_parts hloaded.keeps.toFaithfulSession hloaded.record
      (by simpa using hcomplete)

/-! ### Runs -/

/-- A call that answers when it rewrites a listed part, with a digest that tells its parts apart. -/
structure FaithfulStep (sha256 : List UInt8 → String) (s : UploadHistory) (e : UploadEvent)
    (t : UploadHistory) : Prop where
  step : UploadStep sha256 s e t
  answers : e.AnswersRewrites s.disk
  distinguishes : e.Distinguishes sha256 s.disk

/-- Every session is faithful to the acknowledgements. -/
def UploadHistory.Faithful (sha256 : List UInt8 → String) (s : UploadHistory) : Prop :=
  s.disk.Every fun key => FaithfulSession sha256 (s.acknowledged key) key

lemma UploadHistory.Faithful.since {s : UploadHistory} (h : s.Faithful sha256) :
    s.disk.Every (FaithfulSince sha256 s.acknowledged s.disk) :=
  fun key directory hget => ⟨h key directory hget, fun _ hstored =>
    Or.inr (by rw [UploadDisk.record?, hget, Option.bind_some, hstored])⟩

lemma acknowledge_ok {index : ℕ} {data : List UInt8} {chunk : DatasetUploadChunk} :
    acknowledge identifier index data (.ok chunk) initial disk parts =
      credit parts identifier index data :=
  if_pos (Or.inl rfl)

lemma acknowledge_error {index : ℕ} {data : List UInt8} {e : Stop Raised} :
    acknowledge identifier index data (.error e) initial disk parts =
      if index ∉ initial.received identifier ∧ index ∈ disk.received identifier
      then credit parts identifier index data else parts := by
  rw [acknowledge]
  congr 1
  simp [Except.isOk, Except.toBool]

/-- After a received part, in either case of its acknowledgement. -/
lemma every_of_receiving {index : ℤ} {data : List UInt8}
    {outcome : Except (Stop Raised) DatasetUploadChunk}
    (h : ReceivesFaithfully surroundings sha256 initial identifier index.toNat data)
    (hsince : initial.Every (FaithfulSince sha256 parts initial))
    (hx : receive_chunk surroundings sha256 identifier index data initial = (outcome, disk)) :
    disk.Every (FaithfulFrom sha256
      (acknowledge identifier index.toNat data outcome initial disk parts) initial) := by
  have hsettled : ∀ key directory, Settles initial key directory → ∀ stored : ValidUpload,
      directory.record = some stored → stored.1.session.complete = true →
      (∃ before, initial.record? key = some before ∧ before.1.session.complete = true) ∨
        directory.archive ≠ none :=
    fun key directory hsettles stored hstored hcomplete =>
      Or.inl ⟨stored, hsettles stored hstored hcomplete, hcomplete⟩
  cases outcome with
  | ok chunk =>
    intro key directory hget
    have hanswered := (contract_receive_faithful h).returns ⟨rfl, hsince⟩ hx key directory hget
    exact ⟨by rw [acknowledge_ok]; exact hanswered.faithful,
      hsettled key directory hanswered.settles⟩
  | error e =>
    intro key directory hget
    have hreceiving := (contract_receive_faithful h).fails ⟨rfl, hsince⟩ hx key directory hget
    refine ⟨?_, hsettled key directory hreceiving.settles⟩
    have hfaithful := hreceiving.faithful
    by_cases hkey : key = identifier
    · subst hkey
      rw [acknowledge_error, received_of_get? hget]
      exact hfaithful
    · have hother : acknowledge identifier index.toNat data (.error e) initial disk parts key =
          parts key := by
        rw [acknowledge_error]
        split_ifs
        · exact credit_other hkey
        · rfl
      rw [hother]
      split_ifs at hfaithful
      · rwa [credit_other hkey] at hfaithful
      · exact hfaithful

/-- Every call keeps the sessions faithful, and a newly complete session has its archive. -/
theorem FaithfulStep.keeps {s t : UploadHistory} {e : UploadEvent} (h : FaithfulStep sha256 s e t)
    (hs : s.Faithful sha256) : t.disk.Every (FaithfulFrom sha256 t.acknowledged s.disk) := by
  have hsince := hs.since
  have hback : ∀ disk : UploadDisk, disk.Every (FaithfulSince sha256 s.acknowledged s.disk) →
      disk.Every (FaithfulFrom sha256 s.acknowledged s.disk) :=
    fun _ hevery key directory hget => (hevery key directory hget).from
  have hremoved : ∀ {faults : UploadFaults} (identifier : String),
      KeepsRemovals (FaithfulSince sha256 s.acknowledged s.disk) faults identifier :=
    fun _ => FaithfulSince.keepsRemovals
  cases h.step with
  | @create surroundings request uuid4 _ _ hidentifier hfresh hx =>
    refine hback _ (Contract.ends (contract_create hremoved ?_ fun stored hok => ?_)
      (fun key directory hget => ⟨fun hkey => ?_, hsince key directory hget⟩) hx)
    · exact ⟨faithfulSession_of_none rfl, fun _ hstored => absurd hstored (by simp)⟩
    · rw [stored_request] at hok
      split_ifs at hok
      obtain rfl := Except.ok.inj hok
      refine ⟨⟨fun _ hstored => ?_, fun _ hstored _ index hindex => ?_, fun _ hstored hcomplete => ?_⟩,
        fun _ hstored => Or.inl ?_⟩
      · obtain rfl := Option.some_inj.mp hstored
        rfl
      · obtain rfl := Option.some_inj.mp hstored
        exact absurd hindex List.not_mem_nil
      · obtain rfl := Option.some_inj.mp hstored
        exact absurd hcomplete (by simp [opened])
      · obtain rfl := Option.some_inj.mp hstored
        exact ⟨rfl, rfl⟩
    · rw [hkey, hfresh] at hget
      exact absurd hget (by simp)
  | receive_chunk hx =>
    exact every_of_receiving ⟨fun present => h.distinguishes _ _ _ _ present rfl,
      fun stored => h.answers _ _ _ _ stored rfl⟩ hsince hx
  | read hx => exact hback _ (Contract.ends (keeps_read_session (hremoved _)) hsince hx)
  | complete hx => exact Contract.ends contract_complete_faithful hsince hx
  | archive_path hx => exact hback _ (Contract.ends (keeps_archive_path (hremoved _)) hsince hx)
  | discard hx => exact hback _ (Contract.ends (keeps_discard (hremoved _)) hsince hx)
  | sweep hx => exact hback _ (Contract.ends (keeps_sweep hremoved) hsince hx)
  | used_bytes hx => exact hback _ (Contract.ends keeps_used_bytes hsince hx)

/-- Along every run whose calls answer when they rewrite a listed part, a complete session is the
assembly of the parts that were last acknowledged, and its archive is there when it becomes
complete. -/
theorem upload_assembly_faithful {s t : UploadHistory} {e : UploadEvent}
    {events : List UploadEvent} (h : Run (FaithfulStep sha256) {} events s)
    (hstep : FaithfulStep sha256 s e t) (hstored : t.disk.record? identifier = some stored)
    (hcomplete : stored.1.session.complete = true) :
    ∃ all, Assembly sha256 (t.acknowledged identifier) stored.1 all ∧
      (t.disk.archive? identifier = some all ∨ t.disk.archive? identifier = none ∧
        ∃ before, s.disk.record? identifier = some before ∧ before.1.session.complete = true) := by
  have hfaithful := h.invariant (UploadHistory.Faithful sha256)
    (fun hs hstep key directory hget => (hstep.keeps hs key directory hget).toFaithfulSession)
    every_initial
  obtain ⟨directory, hget, hrecord⟩ := Option.bind_eq_some_iff.mp hstored
  have hfrom := hstep.keeps hfaithful identifier directory hget
  obtain ⟨all, hassembly, hall⟩ := hfrom.assembled stored hrecord hcomplete
  have harchive : t.disk.archive? identifier = directory.archive := by
    rw [UploadDisk.archive?, hget]
    rfl
  refine ⟨all, hassembly, ?_⟩
  rw [harchive]
  rcases hall with hthere | hgone
  · exact Or.inl hthere
  · exact Or.inr ⟨hgone, (hfrom.archive stored hrecord hcomplete).resolve_right fun hne => hne hgone⟩

/-! ### A part that was never acknowledged -/

/-- A part arrives again for one that an interrupted call removed, and the process ends before the
answer. -/
def crash_before_answer : UploadSurroundings where
  faults := { flush_chunk := .crash () }

def rewritten_upload : UploadDisk :=
  (receive_chunk crash_before_answer spelled ("upload_" ++ uuid4_hex) 0 [0x1f, 0x8b, 1]
    interrupted_upload).2

def completed_upload : UploadDisk :=
  (complete {} spelled ("upload_" ++ uuid4_hex) rewritten_upload).2

/-- After two crashes a session completes with a part that was not acknowledged. -/
theorem upload_assembles_unacknowledged_part : ∃ events s, Run (UploadStep spelled) {} events s ∧
    ∃ identifier stored, s.disk.record? identifier = some stored ∧
      stored.1.session.complete = true ∧ stored.1.session.chunk_count = 1 ∧
        s.acknowledged identifier 0 = some [0x1f, 0x8b, 0] ∧
          s.disk.archive? identifier = some [0x1f, 0x8b, 1] := by
  have hreceive : UploadStep spelled { disk := opened_upload }
      (.receive_chunk {} ("upload_" ++ uuid4_hex) 0 [0x1f, 0x8b, 0])
      { disk := received_upload, acknowledged := _ } := .receive_chunk Prod.mk.eta.symm
  have hinterrupt : ∀ acknowledged, UploadStep spelled
      { disk := received_upload, acknowledged := acknowledged }
      (.complete crash_before_record ("upload_" ++ uuid4_hex))
      { disk := interrupted_upload, acknowledged := acknowledged } :=
    fun _ => .complete Prod.mk.eta.symm
  have hrewrite : ∀ acknowledged, UploadStep spelled
      { disk := interrupted_upload, acknowledged := acknowledged }
      (.receive_chunk crash_before_answer ("upload_" ++ uuid4_hex) 0 [0x1f, 0x8b, 1])
      { disk := rewritten_upload, acknowledged := _ } :=
    fun _ => .receive_chunk Prod.mk.eta.symm
  have hcomplete : ∀ acknowledged, UploadStep spelled
      { disk := rewritten_upload, acknowledged := acknowledged }
      (.complete {} ("upload_" ++ uuid4_hex))
      { disk := completed_upload, acknowledged := acknowledged } :=
    fun _ => .complete Prod.mk.eta.symm
  refine ⟨_, _, .cons create_upload (.cons hreceive (.cons (hinterrupt _) (.cons (hrewrite _)
    (.cons (hcomplete _) .nil)))), ?_⟩
  have hrecord : (completed_upload.record? ("upload_" ++ uuid4_hex)).map
      (fun stored => (stored.1.session.complete, stored.1.session.chunk_count)) =
      some (true, 1) := by decide +kernel
  obtain ⟨stored, hstored, hsession⟩ := Option.map_eq_some_iff.mp hrecord
  obtain ⟨hfinished, hcount⟩ := Prod.ext_iff.mp hsession
  exact ⟨_, stored, hstored, hfinished, hcount, by decide +kernel, by decide +kernel⟩

def whole_upload : UploadDisk :=
  (complete {} spelled ("upload_" ++ uuid4_hex) received_upload).2

/-- Without crashes the archive is the acknowledged part. -/
theorem upload_assembly_faithful_whole :
    whole_upload.archive? ("upload_" ++ uuid4_hex) = some [0x1f, 0x8b, 0] ∧
      ∃ stored, whole_upload.record? ("upload_" ++ uuid4_hex) = some stored ∧
        ∃ acknowledged all, Assembly spelled acknowledged stored.1 all := by
  have hcreate : FaithfulStep spelled {} (.create {} upload_request uuid4_hex)
      { disk := opened_upload } := by
    refine ⟨create_upload, ?_, ?_⟩
    · rintro _ _ _ _ _ ⟨⟩
    · rintro _ _ _ _ _ ⟨⟩
  have hreceive : UploadStep spelled { disk := opened_upload }
      (.receive_chunk {} ("upload_" ++ uuid4_hex) 0 [0x1f, 0x8b, 0])
      { disk := received_upload, acknowledged := _ } := .receive_chunk Prod.mk.eta.symm
  have hanswers : UploadEvent.AnswersRewrites opened_upload
      (.receive_chunk {} ("upload_" ++ uuid4_hex) 0 [0x1f, 0x8b, 0]) := by
    rintro _ _ _ _ _ ⟨⟩ -
    exact ⟨fun _ hstops => absurd hstops Fault.not_stops_none, fun _ => ⟨rfl, rfl⟩⟩
  have hdistinguishes : UploadEvent.Distinguishes spelled opened_upload
      (.receive_chunk {} ("upload_" ++ uuid4_hex) 0 [0x1f, 0x8b, 0]) := by
    rintro _ _ _ _ present ⟨⟩ hpresent
    exact absurd (hpresent.symm.trans
      (show opened_upload.chunk? ("upload_" ++ uuid4_hex) 0 = none by decide +kernel)) (by simp)
  have hcomplete : ∀ acknowledged, FaithfulStep spelled
      { disk := received_upload, acknowledged := acknowledged }
      (.complete {} ("upload_" ++ uuid4_hex))
      { disk := whole_upload, acknowledged := acknowledged } := by
    refine fun acknowledged => ⟨.complete Prod.mk.eta.symm, ?_, ?_⟩
    · rintro _ _ _ _ _ ⟨⟩
    · rintro _ _ _ _ _ ⟨⟩
  have hrecord : (whole_upload.record? ("upload_" ++ uuid4_hex)).map
      (fun stored => stored.1.session.complete) = some true := by decide +kernel
  obtain ⟨stored, hstored, hfinished⟩ := Option.map_eq_some_iff.mp hrecord
  obtain ⟨all, hassembly, -⟩ := upload_assembly_faithful
    (.cons hcreate (.cons ⟨hreceive, hanswers, hdistinguishes⟩ .nil))
    (hcomplete _) hstored hfinished
  exact ⟨by decide +kernel, stored, hstored, _, all, hassembly⟩

end StegoLab

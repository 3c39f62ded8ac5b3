import Mathlib.Data.Finset.Card
import StegoLab.Uploads.Calls

/-!
# Parts and archives

What the operations on parts do to a session directory. The joining loop removes each part after it
has appended it, so it passes through directories in which the record still lists parts that are
gone.
-/

namespace StegoLab

open Transaction Program UploadSessionFiles DatasetUploadStore UploadDisk

variable {D : String → SessionDirectory → Prop} {F : SessionDirectory → Prop} {identifier : String}
  {faults : UploadFaults} {surroundings : UploadSurroundings} {sha256 : List UInt8 → String}
  {start directory : SessionDirectory} {session : DatasetUploadSession}

lemma UploadDisk.At.pin {disk : UploadDisk} (h : disk.At D identifier F) :
    ∃ start, F start ∧ disk.At D identifier (· = start) :=
  let ⟨start, hget, hstart⟩ := h.here
  ⟨start, hstart, h.others, start, hget, rfl⟩

/-- A contract from each directory in turn. -/
lemma contract_pin {α : Type} {x : UploadProgram α} {Q : α → UploadDisk → Prop}
    {R : Stop Raised → UploadDisk → Prop}
    (h : ∀ start, F start → Contract (UploadDisk.At D identifier (· = start)) x Q R) :
    Contract (UploadDisk.At D identifier F) x Q R :=
  (Contract.exists_pre fun start => .assume (h start)).strengthen fun _ => UploadDisk.At.pin

/-! ### Writing a part -/

/-- Only the file of one part differs. -/
structure Rewritten (start : SessionDirectory) (index : ℕ) (content : Option (List UInt8))
    (directory : SessionDirectory) : Prop where
  record : directory.record = start.record
  archive : directory.archive = start.archive
  here : directory.chunks.lookup index = content
  others : ∀ other, other ≠ index → directory.chunks.lookup other = start.chunks.lookup other

/-- Writing a part, if its stops keep `D`. -/
lemma contract_write_chunk {index : ℕ} {data : List UInt8}
    (hstart : D identifier start)
    (hcut : ∀ content directory, Rewritten start index content directory →
      (content = none ∨ content = some [] ∨ faults.unlink_chunk index = .none ∧
        faults.create_chunk = .none ∧
        ∃ n, faults.write_chunk.Stops n ∧ content = some (data.take n)) → D identifier directory)
    (hwhole : faults.unlink_chunk index = .none → faults.create_chunk = .none →
      faults.write_chunk = .none → faults.flush_chunk ≠ .none → ∀ directory,
      Rewritten start index (some data) directory → D identifier directory) :
    Contract (UploadDisk.At D identifier (· = start)) (write_chunk faults identifier index data)
      (fun _ disk => (faults.unlink_chunk index = .none ∧ faults.create_chunk = .none ∧
        faults.write_chunk = .none) ∧ disk.At D identifier (Rewritten start index (some data)))
      fun _ => UploadDisk.Every D := by
  have hput : ∀ content content' directory, Rewritten start index content directory →
      Rewritten start index (some content')
        { directory with chunks := directory.chunks.insert index content' } := by
    intro content content' directory h
    exact ⟨h.record, h.archive, AList.lookup_insert _, fun other hother =>
      (AList.lookup_insert_ne hother).trans (h.others other hother)⟩
  refine ((contract_edit_whole (F := (· = start)) (G := Rewritten start index none)
    (fun directory h => ?_) fun _ _ h => h ▸ hstart).know fun _ _ _ => none_of_returned).bind
    fun _ => .assume fun hunlink => ?_
  · rw [h]
    exact ⟨rfl, rfl, AList.lookup_erase _ _, fun other hother => AList.lookup_erase_ne hother⟩
  refine ((contract_edit_whole (G := Rewritten start index (some []))
    (fun directory h => hput _ _ _ h) fun _ _ h => hcut _ _ h (Or.inl rfl)).know
    fun _ _ _ => none_of_returned).bind fun _ => .assume fun hcreate => ?_
  refine ((contract_edit (G := Rewritten start index (some data)) (fun directory h => hput _ _ _ h)
    fun reached hreached directory h => ?_).know fun _ _ _ => none_of_returned).bind
    fun _ => .assume fun hwrite => ?_
  · exact hcut _ _ (hput _ (data.take reached) _ h)
      (Or.inr (Or.inr ⟨hunlink, hcreate, reached, hreached, rfl⟩))
  · exact (contract_look (hwhole hunlink hcreate hwrite)).weaken
      fun _ _ h => ⟨⟨hunlink, hcreate, hwrite⟩, h⟩

/-! ### Joining the parts -/

/-- The bytes of a part; nothing when it is missing. -/
def SessionDirectory.part (directory : SessionDirectory) (index : ℕ) : List UInt8 :=
  (directory.chunks.lookup index).getD []

/-- The record stays, and exactly the parts that are done are gone. -/
structure Consumed (start : SessionDirectory) (done : List ℕ) (directory : SessionDirectory) :
    Prop where
  record : directory.record = start.record
  chunks : ∀ index, directory.chunks.lookup index =
    if index ∈ done then none else start.chunks.lookup index

/-- The archive holds the parts that are done. -/
structure Joining (start : SessionDirectory) (done : List ℕ) (joined : List UInt8)
    (directory : SessionDirectory) : Prop extends Consumed start done directory where
  archive : directory.archive = some joined

lemma Consumed.refl : Consumed start [] start where
  record := rfl
  chunks _ := by rw [if_neg List.not_mem_nil]

/-- No operation of the joining loop on this part stops. -/
structure JoinsPart (faults : UploadFaults) (index : ℕ) : Prop where
  read_part : faults.read_part index = .none
  write_archive : faults.write_archive index = .none
  unlink_part : faults.unlink_part index = .none

/-- The joining loop, if each of its stops is at a part where nothing stops, or leaves a directory
with `D`. -/
lemma contract_join_parts (rest : List ℕ) :
    ∀ (done : List ℕ) (joined : List UInt8), (done ++ rest).Nodup →
    (∀ index ∈ rest, start.chunks.lookup index ≠ none) →
    (∀ before index after, rest = before ++ index :: after → JoinsPart faults index ∨
      ∀ directory, Consumed start (done ++ before) directory → D identifier directory) →
    Contract (UploadDisk.At D identifier (Joining start done joined))
      (join_parts faults identifier rest joined)
      (fun all disk => all = joined ++ rest.flatMap start.part ∧
        disk.At D identifier (Joining start (done ++ rest) all))
      fun _ => UploadDisk.Every D := by
  induction rest with
  | nil =>
    intro done joined _ _ _
    refine .pure fun disk h => ⟨by simp, ?_⟩
    rw [List.append_nil]
    exact h
  | cons index rest ih =>
    intro done joined hnodup hpresent hstop
    obtain ⟨data, hdata⟩ := Option.ne_none_iff_exists'.mp (hpresent index List.mem_cons_self)
    have hindex : index ∉ done := fun hmem =>
      (List.nodup_append'.mp hnodup).2.2 hmem List.mem_cons_self
    have hfirst := hstop [] index rest rfl
    rw [List.append_nil] at hfirst
    have hlookup : ∀ directory, Consumed start done directory →
        directory.chunks.lookup index = some data := fun directory h => by
      rw [h.chunks, if_neg hindex, hdata]
    refine Contract.bind (Q := fun read disk => read = data ∧
      disk.At D identifier (Joining start done joined)) ?_ fun read =>
        .assume (P := UploadDisk.At D identifier (Joining start done joined)) fun hread => ?_
    · refine (contract_read_part (fun hfault directory h => ?_) fun directory h hnone => ?_).weaken
        fun read disk h => ?_
      · exact hfirst.elim (fun h' => absurd h'.read_part hfault) fun hD => hD _ h.toConsumed
      · exact absurd ((hlookup _ h.toConsumed).symm.trans hnone) (by simp)
      · obtain ⟨directory, hget, hjoining, hpart⟩ := h.here
        exact ⟨Option.some_inj.mp (hpart.symm.trans (hlookup _ hjoining.toConsumed)),
          h.mono fun _ h => h.1⟩
    subst hread
    refine (contract_edit (G := Joining start done (joined ++ read)) (fun directory h => ?_)
      fun reached hreached directory h => ?_).bind fun _ => ?_
    · exact ⟨⟨h.record, h.chunks⟩, by simp [h.archive]⟩
    · refine hfirst.elim (fun h' => absurd hreached ?_) fun hD => hD _ ⟨h.record, h.chunks⟩
      rw [h'.write_archive]
      exact Fault.not_stops_none
    refine (contract_edit_whole (G := Joining start (done ++ [index]) (joined ++ read))
      (fun directory h => ⟨⟨h.record, fun other => ?_⟩, h.archive⟩) fun hfault directory h => ?_).bind
      fun _ => ?_
    · by_cases hother : other = index
      · subst hother
        rw [if_pos (by simp)]
        exact AList.lookup_erase _ _
      · rw [AList.lookup_erase_ne hother, h.chunks]
        simp [hother]
    · exact hfirst.elim (fun h' => absurd h'.unlink_part hfault) fun hD => hD _ h.toConsumed
    have hrest := ih (done ++ [index]) (joined ++ read) (by simpa using hnodup)
      (fun other hother => hpresent other (List.mem_cons_of_mem _ hother))
      fun before other after hsplit => ?_
    · refine hrest.weaken fun all disk h => ⟨?_, by simpa using h.2⟩
      rw [h.1, List.flatMap_cons, SessionDirectory.part, hdata, List.append_assoc]
      rfl
    · have := hstop (index :: before) other after (by rw [hsplit]; rfl)
      simpa using this

/-! ### Verifying the parts -/

/-- A part is there in its expected size. -/
def SessionDirectory.Holds (directory : SessionDirectory) (session : DatasetUploadSession)
    (index : ℕ) : Prop :=
  (directory.chunks.lookup index).map List.length = some (expected_chunk_bytes session index)

instance {index : ℕ} : Decidable (directory.Holds session index) :=
  inferInstanceAs (Decidable (_ = _))

/-- `verified_parts` keeps the parts in their expected size, if each of its stops has only removed
others and keeps `D`. -/
lemma contract_verified_parts
    (hstop : ∀ done directory, (∀ index ∈ done, ¬ start.Holds session index) →
      Consumed start done directory → D identifier directory) (indexes : List ℕ) :
    ∀ done : List ℕ, (∀ index ∈ done, ¬ start.Holds session index) →
    Contract (UploadDisk.At D identifier (Consumed start done))
      (verified_parts faults identifier session indexes)
      (fun present => UploadDisk.At D identifier fun directory =>
        present = indexes.filter (fun index => start.Holds session index) ∧
          ∃ done, (∀ index ∈ done, ¬ start.Holds session index) ∧ Consumed start done directory)
      fun _ => UploadDisk.Every D := by
  induction indexes with
  | nil =>
    intro done hdone
    exact .pure fun _ h => h.mono fun _ h => ⟨rfl, done, hdone, h⟩
  | cons index rest ih =>
    intro done hdone
    refine (contract_chunk_size fun directory h => hstop done directory hdone h).bind fun size => ?_
    refine contract_pin fun now ⟨hnow, hsize⟩ => ?_
    have hholds : size = some (expected_chunk_bytes session index) ↔
        start.Holds session index := by
      rw [hsize, hnow.chunks]
      by_cases hmem : index ∈ done
      · rw [if_pos hmem]
        exact ⟨fun h => absurd h (by simp), fun h => absurd h (hdone index hmem)⟩
      · rw [if_neg hmem]
        rfl
    refine .ite (fun hequal => ?_) fun hdiffers => ?_
    · have hindex := hholds.mp hequal
      refine ((ih done hdone).strengthen fun disk h => h.mono fun _ h => h ▸ hnow).bind
        fun present => .pure fun disk h => h.mono fun directory h => ⟨?_, h.2⟩
      rw [List.filter_cons_of_pos (by simpa using hindex), h.1]
    · have hindex := mt hholds.mpr hdiffers
      refine (contract_edit_whole (F := (· = now)) (G := Consumed start (done ++ [index]))
        (fun directory h => ?_) fun _ _ h => hstop done _ hdone (h ▸ hnow)).bind fun _ => ?_
      · rw [h]
        refine ⟨hnow.record, fun other => ?_⟩
        by_cases hother : other = index
        · subst hother
          rw [if_pos (by simp)]
          exact AList.lookup_erase _ _
        · rw [AList.lookup_erase_ne hother, hnow.chunks]
          simp [hother]
      · refine (ih (done ++ [index]) fun other hother => ?_).weaken fun present disk h =>
          h.mono fun directory h => ⟨?_, h.2⟩
        · rcases List.mem_append.mp hother with hmem | hmem
          · exact hdone other hmem
          · exact List.mem_singleton.mp hmem ▸ hindex
        · rw [List.filter_cons_of_neg (by simpa using hindex), h.1]

lemma DatasetUploadSession.Valid.chunk_count_pos (h : session.Valid) : 0 < session.chunk_count := by
  by_contra hzero
  have hcover := (ceilDiv_le_iff_le_mul (show 0 < session.chunk_bytes by rw [h.chunk_bytes]; decide)
    (b := session.total_bytes) (c := 0)).mp (by rw [← h.chunk_count]; omega)
  have hpos := h.total_bytes.1
  omega

/-- A strictly increasing list of `n` numbers below `n` has all of them. -/
lemma mem_of_length_eq {n : ℕ} {indexes : List ℕ} (hsorted : indexes.Pairwise (· < ·))
    (hrange : ∀ index ∈ indexes, index < n) (hlength : indexes.length = n) {index : ℕ}
    (hindex : index < n) : index ∈ indexes := by
  have hnodup : indexes.Nodup := hsorted.imp fun h => h.ne
  have hsubset : indexes.toFinset ⊆ Finset.range n := fun i hi =>
    Finset.mem_range.mpr (hrange i (List.mem_toFinset.mp hi))
  have hequal := Finset.eq_of_subset_of_card_le hsubset
    (by rw [Finset.card_range, List.toFinset_card_of_nodup hnodup, hlength])
  exact List.mem_toFinset.mp (hequal ▸ Finset.mem_range.mpr hindex)

/-! ### Assembling -/

/-- `assemble`, if its stops before the first removal keep `D` and so do those after it, unless
nothing stops there. -/
lemma contract_assemble {chunk_count : ℕ}
    (hpresent : ∀ index < chunk_count, start.chunks.lookup index ≠ none)
    (hbefore : ∀ directory, Consumed start [] directory → D identifier directory)
    (hafter : ((∀ index, 0 < index → JoinsPart faults index) ∧ faults.flush_archive = .none) ∨
      ∀ done directory, Consumed start done directory → D identifier directory) :
    Contract (UploadDisk.At D identifier (· = start))
      (assemble faults sha256 identifier chunk_count)
      (fun assembled disk => ∃ all, all = (List.range chunk_count).flatMap start.part ∧
        assembled = (sha256 all, all.take ARCHIVE_PREFIX_BYTES) ∧
        disk.At D identifier (Joining start (List.range chunk_count) all))
      fun _ => UploadDisk.Every D := by
  refine (contract_edit_whole (F := (· = start)) (G := Consumed start []) (fun _ h => ?_)
    fun _ _ h => hbefore _ (h ▸ .refl)).bind fun _ => ?_
  · rw [h]
    exact ⟨rfl, fun _ => by rw [if_neg List.not_mem_nil]⟩
  refine (contract_edit_whole (G := Joining start [] []) (fun _ h => ⟨⟨h.record, h.chunks⟩, rfl⟩)
    fun _ _ h => hbefore _ h).bind fun _ => ?_
  refine (contract_join_parts (List.range chunk_count) [] [] List.nodup_range
    (fun index hindex => hpresent index (List.mem_range.mp hindex))
    fun before index after hsplit => ?_).bind fun all => .assume fun hall => ?_
  · cases before with
    | nil => exact Or.inr hbefore
    | cons first before =>
      refine hafter.imp (fun h => h.1 index ?_) fun h => h _
      have hpos := congrArg (fun indexes => indexes[before.length + 1]?) hsplit
      simp only [List.cons_append, List.getElem?_cons_succ, List.getElem?_append_right le_rfl,
        Nat.sub_self, List.getElem?_cons_zero] at hpos
      obtain ⟨hlt, heq⟩ := List.getElem?_eq_some_iff.mp hpos
      rw [List.getElem_range] at heq
      omega
  refine (contract_look fun hfault directory h => ?_).bind fun _ => .pure fun disk h => ?_
  · exact hafter.elim (fun h' => absurd h'.2 hfault) fun hD => hD _ _ h.toConsumed
  · exact ⟨all, hall, rfl, h⟩

end StegoLab

import Mathlib.Algebra.Order.BigOperators.Group.List
import StegoLab.Library.Weights
import StegoLab.Uploads.Resuming

/-!
# The storage cap

The parts and the archives of all sessions together stay within the cap. A crash can fall at any
file operation of a call, and leaves the tree as it is at that instant, so what holds after every
call holds in the middle of every operation.
-/

namespace StegoLab

open Transaction Program UploadSessionFiles DatasetUploadStore UploadDisk

variable {identifier : String} {data : List UInt8} {stored : ValidUpload} {faults : UploadFaults}
  {surroundings : UploadSurroundings} {sha256 : List UInt8 → String} {directory : SessionDirectory}
  {disk initial : UploadDisk} {weight : String → ℕ} {limit growth : ℕ}

/-! ### Bytes of one session -/

lemma used_bytes_erase_le (index : ℕ) :
    ({ directory with chunks := directory.chunks.erase index } : SessionDirectory).used_bytes
      ≤ directory.used_bytes := by
  refine Nat.add_le_add_right ?_ _
  exact ((List.kerase_sublist index directory.chunks.entries).map _).sum_le_sum fun _ _ =>
    Nat.zero_le _

lemma used_bytes_insert (index : ℕ) (content : List UInt8) :
    ({ directory with chunks := directory.chunks.insert index content } : SessionDirectory).used_bytes
      = content.length +
        ({ directory with chunks := directory.chunks.erase index } : SessionDirectory).used_bytes := by
  simp only [SessionDirectory.used_bytes, AList.entries_insert, List.map_cons, List.sum_cons,
    Nat.add_assoc]
  rfl

/-- A part that is there counts with its length. -/
lemma used_bytes_of_lookup {index : ℕ} {content : List UInt8}
    (h : directory.chunks.lookup index = some content) :
    directory.used_bytes = content.length +
      ({ directory with chunks := directory.chunks.erase index } : SessionDirectory).used_bytes := by
  have hmem : index ∈ directory.chunks.entries.keys :=
    List.dlookup_isSome.mp (Option.isSome_of_eq_some h)
  obtain ⟨content', before, after, -, hentries, herased⟩ := List.exists_of_kerase hmem
  have hthere : (⟨index, content'⟩ : Sigma fun _ : ℕ => List UInt8) ∈ directory.chunks.entries := by
    rw [hentries]
    exact List.mem_append_right _ List.mem_cons_self
  obtain rfl : content' = content :=
    Option.some_inj.mp ((AList.mem_lookup_iff.mpr hthere).symm.trans h)
  have herase : (directory.chunks.erase index).entries = before ++ after := herased
  simp only [SessionDirectory.used_bytes, herase, hentries, List.map_append, List.map_cons,
    List.sum_append, List.sum_cons]
  omega

lemma used_bytes_remove_le (removed : RemovedFiles) :
    (removed.remove directory).used_bytes ≤ directory.used_bytes := by
  have hchunks : ∀ (indexes : List ℕ) (directory : SessionDirectory),
      ({ directory with
          chunks := indexes.foldl (fun chunks index => chunks.erase index) directory.chunks } :
        SessionDirectory).used_bytes ≤ directory.used_bytes := by
    intro indexes
    induction indexes with
    | nil => exact fun _ => le_rfl
    | cons index indexes ih =>
      intro directory
      exact (ih { directory with chunks := directory.chunks.erase index }).trans
        (used_bytes_erase_le index)
  refine le_trans ?_ (hchunks removed.chunks directory)
  refine Nat.add_le_add_left ?_ _
  rw [RemovedFiles.remove]
  cases removed.archive with
  | false => exact le_rfl
  | true => exact Nat.zero_le _

/-! ### Bytes of all sessions -/

/-- The bytes that the parts and the archives of all sessions occupy. -/
def UploadDisk.used_bytes (disk : UploadDisk) : ℕ :=
  (disk.sessions.entries.map fun entry => entry.2.used_bytes).sum

def UploadDisk.Capped (disk : UploadDisk) : Prop :=
  disk.used_bytes ≤ MAXIMUM_UPLOAD_STORAGE_BYTES

/-- The bytes of a session, if it is there. -/
def UploadDisk.usage (disk : UploadDisk) (identifier : String) : ℕ :=
  disk.sessions.weight_at SessionDirectory.used_bytes identifier

/-- The bytes of each session with an allowance for one of them. -/
def UploadDisk.allowing (disk : UploadDisk) (identifier : String) (growth : ℕ) (key : String) : ℕ :=
  disk.usage key + if key = identifier then growth else 0

/-- A session occupies no more than it is given. -/
def Within (weight : String → ℕ) (identifier : String) (directory : SessionDirectory) : Prop :=
  directory.used_bytes ≤ weight identifier

lemma every_within_usage : disk.Every (Within disk.usage) := by
  intro key directory hget
  rw [Within, usage, Dict.weight_at, hget]
  exact le_rfl

/-- Within an allowance, all sessions together have grown no more than it. -/
lemma used_bytes_le_of_within (h : disk.Every (Within (initial.allowing identifier growth))) :
    disk.used_bytes ≤ initial.used_bytes + growth := by
  refine Dict.sum_weights_le SessionDirectory.used_bytes identifier fun key => ?_
  rw [Dict.weight_at]
  cases hget : disk.sessions.get? key with
  | none => exact Nat.zero_le _
  | some directory => exact h key directory hget

lemma capped_of_allowing (hcapacity : initial.used_bytes + growth ≤ MAXIMUM_UPLOAD_STORAGE_BYTES)
    (h : disk.Every (Within (initial.allowing identifier growth))) : disk.Capped :=
  (used_bytes_le_of_within h).trans hcapacity

lemma capped_of_usage (hcapped : initial.Capped) (h : disk.Every (Within initial.usage)) :
    disk.Capped := by
  have hallowed : disk.Every (Within (initial.allowing "" 0)) := by
    intro key directory hget
    rw [Within, allowing, ite_self, Nat.add_zero]
    exact h key directory hget
  exact capped_of_allowing hcapped hallowed

/-- What keeps the bytes of each session within what they were keeps the cap. -/
lemma keeps_capped {α : Type} {x : UploadProgram α}
    (h : ∀ weight, Keeps (UploadDisk.Every (Within weight)) x) : Keeps UploadDisk.Capped x :=
  Contract.from_each fun disk hcapped => ((h disk.usage).mono
    (fun _ hdisk => hdisk ▸ every_within_usage) (fun _ _ => capped_of_usage hcapped)
    fun _ _ => capped_of_usage hcapped)

/-! ### Calls that free bytes -/

lemma keepsRemovals_within : KeepsRemovals (Within weight) faults identifier :=
  fun removed _ _ h => (used_bytes_remove_le removed).trans h

/-- Records do not count. -/
lemma keeps_save_record : Keeps (UploadDisk.Every (Within weight)) (save_record faults stored) := by
  refine Contract.bind (Q := fun _ => UploadDisk.Every (Within weight))
    (contract_atomically (fun disk h key directory hget => ?_) fun _ _ _ => id) fun _ => ?_
  · rw [get?_create_directory] at hget
    by_cases hkey : key = stored.1.session.upload_identifier
    · rw [if_pos hkey, Option.some_inj] at hget
      cases hold : disk.sessions.get? key with
      | none =>
        rw [hold, Option.getD_none] at hget
        subst hget
        exact Nat.zero_le _
      | some old =>
        rw [hold, Option.getD_some] at hget
        subst hget
        exact h key old hold
    · rw [if_neg hkey] at hget
      exact h key directory hget
  refine keeps_inspect.bind fun _ => ?_
  refine Contract.bind (Q := fun _ => UploadDisk.Every (Within weight))
    (contract_atomically (fun disk h => ?_) fun _ _ _ => id) fun _ => keeps_inspect
  exact h.near.modify fun _ hdirectory => hdirectory

lemma keeps_remove_session {request_identifier : Option String} :
    Keeps (UploadDisk.Every (Within weight))
      (remove_session faults identifier request_identifier) :=
  (contract_remove_session keepsRemovals_within).strengthen fun _ => Every.near

lemma used_bytes_remove_chunks_le (chunks : List ℕ) :
    ({ directory with
        chunks := chunks.foldl (fun chunks index => chunks.erase index) directory.chunks } :
      SessionDirectory).used_bytes ≤ directory.used_bytes :=
  used_bytes_remove_le { chunks := chunks }

lemma keeps_remove_chunks :
    Keeps (UploadDisk.Every (Within weight)) (remove_chunks faults identifier) := by
  refine Contract.bind (Q := fun _ => UploadDisk.Every (Within weight))
    (contract_operation (fun disk h => ?_) fun removed _ _ disk h => ?_) fun _ => keeps_inspect
  · refine h.near.modify fun directory hdirectory => le_trans ?_ hdirectory
    exact Nat.add_le_add_right (Nat.zero_le _) _
  · exact h.near.modify fun directory hdirectory =>
      (used_bytes_remove_chunks_le removed).trans hdirectory

lemma keeps_load : Keeps (UploadDisk.Every (Within weight)) (load surroundings identifier) :=
  (contract_load keepsRemovals_within).weaken fun _ _ => Loaded.every

/-! ### Writing a part -/

/-- Only as much as was checked is written. -/
lemma contract_check_capacity {next : ℕ} :
    Contract UploadDisk.Capped (check_capacity surroundings next)
      (fun _ disk => disk.used_bytes + next ≤ MAXIMUM_UPLOAD_STORAGE_BYTES)
      fun _ => UploadDisk.Capped where
  returns _ hx := by
    obtain ⟨rfl, -, hfits⟩ := check_capacity_returned hx
    exact hfits
  fails hcapped hx := keeps_check_capacity.fails hcapped hx

lemma capped_of_room {next : ℕ} (h : disk.used_bytes + next ≤ MAXIMUM_UPLOAD_STORAGE_BYTES) :
    disk.Capped :=
  (Nat.le_add_right _ _).trans h

/-- The other sessions occupy what they did, and `F` holds of this one. -/
abbrev Beside (weight : String → ℕ) (identifier : String) (F : SessionDirectory → Prop)
    (disk : UploadDisk) : Prop :=
  disk.Near (Within weight) identifier F

section Beside

variable {F G H : SessionDirectory → Prop} {exception : Raised}

lemma Beside.mono (h : Beside weight identifier F disk) (hF : ∀ directory, F directory → G directory) :
    Beside weight identifier G disk where
  others := h.others
  here directory hget := hF directory (h.here directory hget)

lemma Beside.edit {f : SessionDirectory → SessionDirectory} (h : Beside weight identifier F disk)
    (hf : ∀ directory, F directory → G (f directory)) :
    Beside weight identifier G (disk.modify identifier f) where
  others key directory hkey hget := by
    rw [get?_modify, if_neg hkey] at hget
    exact h.others key directory hkey hget
  here directory hget := by
    rw [get?_modify, if_pos rfl] at hget
    obtain ⟨old, hold, rfl⟩ := Option.map_eq_some_iff.mp hget
    exact hf old (h.here old hold)

lemma contract_edit_beside {κ : Type} {fault : Fault κ}
    {partway : κ → SessionDirectory → SessionDirectory}
    {effect : SessionDirectory → SessionDirectory}
    (heffect : ∀ directory, F directory → G (effect directory))
    (hstop : ∀ reached directory, F directory → H (partway reached directory)) :
    Contract (Beside weight identifier F)
      (operation fault exception (fun reached disk => disk.modify identifier (partway reached))
        fun disk => disk.modify identifier effect)
      (fun _ => Beside weight identifier G) fun _ => Beside weight identifier H :=
  contract_operation (fun _ h => h.edit heffect) fun reached _ _ _ h => h.edit (hstop reached)

lemma contract_edit_whole_beside {fault : Fault Unit}
    {effect : SessionDirectory → SessionDirectory}
    (heffect : ∀ directory, F directory → G (effect directory))
    (hstop : ∀ directory, F directory → H directory) :
    Contract (Beside weight identifier F)
      (atomically fault exception fun disk => disk.modify identifier effect)
      (fun _ => Beside weight identifier G) fun _ => Beside weight identifier H :=
  contract_atomically (fun _ h => h.edit heffect) fun _ _ _ h => h.mono hstop

lemma contract_inspect_beside {fault : Fault Unit} (hstop : ∀ directory, F directory → H directory) :
    Contract (Beside weight identifier F) (inspect fault exception)
      (fun _ => Beside weight identifier F) fun _ => Beside weight identifier H :=
  contract_inspect fun _ _ _ h => h.mono hstop

/-- A part grows the session by no more than its length. -/
lemma contract_write_chunk_beside {index : ℕ} :
    Contract (Beside weight identifier fun directory => directory.used_bytes ≤ limit)
      (write_chunk faults identifier index data)
      (fun _ => Beside weight identifier fun directory =>
        directory.used_bytes ≤ limit + data.length)
      fun _ => Beside weight identifier fun directory =>
        directory.used_bytes ≤ limit + data.length := by
  have hgrown : ∀ directory : SessionDirectory, directory.used_bytes ≤ limit →
      directory.used_bytes ≤ limit + data.length := fun _ h => h.trans (Nat.le_add_right _ _)
  have hput : ∀ (directory : SessionDirectory) (content : List UInt8),
      directory.used_bytes ≤ limit → content.length ≤ data.length →
      ({ directory with chunks := directory.chunks.insert index content } :
        SessionDirectory).used_bytes ≤ limit + data.length := by
    intro directory content h hcontent
    rw [used_bytes_insert, Nat.add_comm]
    exact Nat.add_le_add ((used_bytes_erase_le index).trans h) hcontent
  refine Contract.bind (Q := fun _ => Beside weight identifier fun directory =>
    directory.used_bytes ≤ limit) ?_ fun _ => ?_
  · exact contract_edit_whole_beside (fun directory h => (used_bytes_erase_le index).trans h) hgrown
  refine Contract.bind (Q := fun _ => Beside weight identifier fun directory =>
    directory.used_bytes ≤ limit) ?_ fun _ => ?_
  · refine contract_edit_whole_beside (fun directory h => ?_) hgrown
    rw [used_bytes_insert, List.length_nil, Nat.zero_add]
    exact (used_bytes_erase_le index).trans h
  refine Contract.bind (Q := fun _ => Beside weight identifier fun directory =>
    directory.used_bytes ≤ limit + data.length) ?_ fun _ => contract_inspect_beside fun _ h => h
  refine contract_edit_beside (fun directory h => hput directory data h le_rfl)
    fun reached directory h => hput directory (data.take reached) h ?_
  rw [List.length_take]
  exact Nat.min_le_right _ _

end Beside

/-- What has been checked for one session fits, as long as the others stay as they are. -/
lemma capped_of_beside (hcapacity : initial.used_bytes + growth ≤ MAXIMUM_UPLOAD_STORAGE_BYTES)
    (h : Beside initial.usage identifier
      (fun directory => directory.used_bytes ≤ initial.usage identifier + growth) disk) :
    disk.Capped := by
  have hallowed : disk.Every (Within (initial.allowing identifier growth)) := by
    intro key directory hget
    rw [Within, allowing]
    by_cases hkey : key = identifier
    · subst hkey
      rw [if_pos rfl]
      exact h.here directory hget
    · rw [if_neg hkey, Nat.add_zero]
      exact h.others key directory hkey hget
  exact capped_of_allowing hcapacity hallowed

lemma keeps_store_part {index : ℕ} :
    Keeps UploadDisk.Capped (store_part surroundings sha256 identifier index data) := by
  refine Contract.bind (Q := fun _ => UploadDisk.Capped) ?_ fun size => .ite (fun _ => ?_) fun _ => ?_
  · exact keeps_capped fun _ => keeps_inspect.bind fun _ =>
      Contract.bind (Q := fun _ => UploadDisk.Every (Within _)) (.read fun _ => id)
        fun _ => .pure fun _ => id
  · refine Contract.bind (Q := fun _ => UploadDisk.Capped) ?_ fun present => keeps_attempt
    refine Contract.bind (Q := fun _ => UploadDisk.Capped) (contract_inspect fun _ _ _ => id)
      fun _ => ?_
    refine Contract.bind (Q := fun _ => UploadDisk.Capped) (.read fun _ => id) fun disk => ?_
    cases disk.chunk? identifier index with
    | none => exact contract_raise fun _ => id
    | some content => exact .pure fun _ => id
  · refine contract_check_capacity.bind fun _ => ?_
    refine Contract.bind (Q := fun _ disk =>
      disk.used_bytes + data.length ≤ MAXIMUM_UPLOAD_STORAGE_BYTES)
      (contract_attempt (fun _ _ _ => id) fun _ _ _ => capped_of_room) fun _ => ?_
    refine Contract.from_each fun initial hroom => ?_
    have hwrite : Contract (Beside initial.usage identifier fun directory =>
        directory.used_bytes ≤ initial.usage identifier)
        (write_chunk surroundings.faults identifier index data) _ _ := contract_write_chunk_beside
    refine hwrite.mono (fun disk hdisk => ?_) (fun _ _ => capped_of_beside hroom)
      fun _ _ => capped_of_beside hroom
    rw [hdisk]
    exact every_within_usage.near

theorem keeps_receive_chunk {index : ℤ} :
    Keeps UploadDisk.Capped (receive_chunk surroundings sha256 identifier index data) := by
  refine contract_serialised ?_ (fun _ => id) fun _ _ => id
  refine (keeps_capped fun _ => keeps_load).bind fun stored => ?_
  refine Contract.bind (Q := fun _ => UploadDisk.Capped) keeps_attempt fun _ => ?_
  refine keeps_store_part.bind fun _ => ?_
  refine Contract.bind (Q := fun _ => UploadDisk.Capped) ?_ fun _ => .pure fun _ => id
  refine .ite (fun _ => .pure fun _ => id) fun _ => ?_
  refine Contract.bind (Q := fun _ => UploadDisk.Capped) keeps_attempt fun listed => ?_
  exact (keeps_capped fun _ => keeps_save_record).bind fun _ => .pure fun _ => id

/-! ### Joining the parts -/

/-- The session occupies no more than `limit`, and none of the parts is longer than `longest`. -/
structure Joinable (limit longest : ℕ) (rest : List ℕ) (directory : SessionDirectory) : Prop where
  used : directory.used_bytes ≤ limit
  parts : ∀ index ∈ rest, ∀ content, directory.chunks.lookup index = some content →
    content.length ≤ longest

lemma Joinable.longest {longest : ℕ} {rest : List ℕ} (h : Joinable limit longest rest directory) :
    directory.used_bytes ≤ limit + longest :=
  h.used.trans (Nat.le_add_right _ _)

lemma used_bytes_append_le {content : List UInt8} :
    ({ directory with archive := directory.archive.map (· ++ content) } :
      SessionDirectory).used_bytes ≤ directory.used_bytes + content.length := by
  rw [SessionDirectory.used_bytes, SessionDirectory.used_bytes]
  cases directory.archive with
  | none => exact Nat.le_add_right _ _
  | some archive =>
    rw [Option.map_some, Option.elim_some, Option.elim_some, List.length_append, Nat.add_assoc]

/-- Reading a part finds it in the directory. -/
lemma contract_read_part_beside {F : SessionDirectory → Prop} {fault : Fault Unit} {index : ℕ} :
    Contract (Beside weight identifier F) (read_part fault identifier index)
      (fun content => Beside weight identifier fun directory =>
        F directory ∧ directory.chunks.lookup index = some content)
      fun _ => Beside weight identifier F := by
  refine (contract_inspect_beside fun _ h => h).bind fun _ => ?_
  refine (Contract.read (Q := fun disk disk' => disk = disk' ∧ Beside weight identifier F disk)
    fun _ h => ⟨rfl, h⟩).bind fun disk => ?_
  cases hchunk : disk.chunk? identifier index with
  | none => exact contract_raise fun _ h => h.1 ▸ h.2
  | some content =>
    refine .pure fun disk' h => ?_
    obtain ⟨rfl, h⟩ := h
    refine ⟨h.others, fun directory hget => ⟨h.here directory hget, ?_⟩⟩
    rw [UploadDisk.chunk?, hget] at hchunk
    exact hchunk

/-- While the parts are joined, the session grows by one part at most. -/
lemma contract_join_parts_beside {longest : ℕ} (rest : List ℕ) : ∀ joined : List UInt8,
    Contract (Beside weight identifier (Joinable limit longest rest))
      (join_parts faults identifier rest joined)
      (fun _ => Beside weight identifier fun directory => directory.used_bytes ≤ limit + longest)
      fun _ => Beside weight identifier fun directory =>
        directory.used_bytes ≤ limit + longest := by
  induction rest with
  | nil => exact fun _ => .pure fun _ h => h.mono fun _ h => h.longest
  | cons index rest ih =>
    intro joined
    refine (contract_read_part_beside.mono (fun _ => id) (fun _ _ => id)
      fun _ _ h => h.mono fun _ h => h.longest).bind fun content => ?_
    have happend : ∀ (directory : SessionDirectory) (written : List UInt8),
        (Joinable limit longest (index :: rest) directory ∧
          directory.chunks.lookup index = some content) →
        written.length ≤ content.length →
        ({ directory with archive := directory.archive.map (· ++ written) } :
          SessionDirectory).used_bytes ≤ limit + longest := by
      rintro directory written ⟨hjoinable, hpart⟩ hwritten
      have hlength := hjoinable.parts index List.mem_cons_self content hpart
      exact used_bytes_append_le.trans (Nat.add_le_add hjoinable.used (hwritten.trans hlength))
    -- The part is in the archive and still there: the session is one part above the limit.
    refine Contract.bind (Q := fun _ => Beside weight identifier fun directory =>
      (directory.used_bytes ≤ limit + content.length ∧ directory.used_bytes ≤ limit + longest) ∧
        directory.chunks.lookup index = some content ∧
        ∀ other ∈ rest, ∀ part, directory.chunks.lookup other = some part →
          part.length ≤ longest) ?_ fun _ => ?_
    · refine contract_edit_beside (fun directory h => ⟨⟨?_, ?_⟩, h.2, ?_⟩)
        fun reached directory h => ?_
      · exact used_bytes_append_le.trans (Nat.add_le_add_right h.1.used _)
      · exact happend directory content h le_rfl
      · exact fun other hother => h.1.parts other (List.mem_cons_of_mem _ hother)
      · refine happend directory (content.take reached) h ?_
        rw [List.length_take]
        exact Nat.min_le_right _ _
    refine Contract.bind (Q := fun _ => Beside weight identifier (Joinable limit longest rest))
      ?_ fun _ => ih _
    refine contract_edit_whole_beside (fun directory h => ⟨?_, fun other hother part hpart => ?_⟩)
      fun directory h => h.1.2
    · have hused := used_bytes_of_lookup h.2.1
      have hle := h.1.1
      omega
    · by_cases hsame : other = index
      · rw [hsame] at hpart
        exact absurd ((AList.lookup_erase index directory.chunks).symm.trans hpart) (by simp)
      · exact h.2.2 other hother part ((AList.lookup_erase_ne hsame).symm.trans hpart)

lemma contract_assemble_beside {longest chunk_count : ℕ} :
    Contract (Beside weight identifier (Joinable limit longest (List.range chunk_count)))
      (assemble faults sha256 identifier chunk_count)
      (fun _ => Beside weight identifier fun directory => directory.used_bytes ≤ limit + longest)
      fun _ => Beside weight identifier fun directory =>
        directory.used_bytes ≤ limit + longest := by
  refine Contract.bind
    (Q := fun _ => Beside weight identifier (Joinable limit longest (List.range chunk_count)))
    ?_ fun _ => ?_
  · refine contract_edit_whole_beside (fun directory h => ⟨?_, h.parts⟩) fun _ h => h.longest
    exact (Nat.add_le_add_left (Nat.zero_le _) _).trans h.used
  refine Contract.bind
    (Q := fun _ => Beside weight identifier (Joinable limit longest (List.range chunk_count)))
    ?_ fun _ => ?_
  · refine contract_edit_whole_beside (fun directory h => ⟨?_, h.parts⟩) fun _ h => h.longest
    exact (Nat.add_le_add_left (Nat.zero_le _) _).trans h.used
  refine (contract_join_parts_beside (List.range chunk_count) []).bind fun joined => ?_
  exact (contract_inspect_beside fun _ h => h).bind fun _ => .pure fun _ => id

/-! ### Completing -/

lemma DatasetUploadSession.Valid.expected_chunk_bytes_le {session : DatasetUploadSession}
    (h : session.Valid) (index : ℕ) : expected_chunk_bytes session index ≤ session.chunk_bytes := by
  rw [expected_chunk_bytes]
  split_ifs with hlast
  · have hcover := (ceilDiv_le_iff_le_mul
      (show 0 < session.chunk_bytes by rw [h.chunk_bytes]; decide)
      (b := session.total_bytes) (c := session.chunk_count)).mp h.chunk_count.ge
    rw [← hlast, Nat.mul_comm, Nat.succ_mul] at hcover
    omega
  · exact le_rfl

/-- None of the parts that the session is made of is longer than a part may be. -/
def SizedParts (identifier : String) (stored : ValidUpload) (disk : UploadDisk) : Prop :=
  ∀ directory, disk.sessions.get? identifier = some directory →
    ∀ index ∈ List.range stored.1.session.chunk_count, ∀ content,
      directory.chunks.lookup index = some content →
      content.length ≤ stored.1.session.chunk_bytes

lemma keeps_verify_archive {digest : String} {leading : List UInt8} :
    Keeps UploadDisk.Capped (verify_archive surroundings identifier stored digest leading) := by
  have hdiscard : ∀ code, Keeps UploadDisk.Capped
      (discard_refused surroundings identifier stored code) := fun code =>
    (keeps_capped fun _ => keeps_remove_session).bind fun _ => contract_refuse
  refine .ite (fun _ => hdiscard _) fun _ => .ite (fun _ => hdiscard _) fun _ => ?_
  refine Contract.bind (Q := fun _ => UploadDisk.Capped) keeps_attempt fun completed => ?_
  refine (keeps_capped fun _ => keeps_save_record).bind fun _ => ?_
  exact (keeps_capped fun _ => keeps_remove_chunks).bind fun _ => .pure fun _ => id

/-- The archive is written while the parts are still there, within what was checked. -/
lemma contract_join_all_capped :
    Contract (fun disk => disk.Capped ∧ SizedParts identifier stored disk)
      (join_all surroundings sha256 identifier stored)
      (fun _ => UploadDisk.Capped) fun _ => UploadDisk.Capped := by
  have hcheck : Contract (fun disk => disk.Capped ∧ SizedParts identifier stored disk)
      (check_capacity surroundings stored.1.session.chunk_bytes) _ _ :=
    contract_check_capacity.both keeps_check_capacity
  refine (hcheck.mono (fun _ => id) (fun _ _ => id) fun _ _ h => h.1).bind fun _ => ?_
  refine Contract.bind (Q := fun _ disk =>
    disk.used_bytes + stored.1.session.chunk_bytes ≤ MAXIMUM_UPLOAD_STORAGE_BYTES ∧
      SizedParts identifier stored disk)
    (contract_attempt (fun _ _ _ => id) fun _ _ _ h => capped_of_room h.1) fun _ => ?_
  refine Contract.bind (Q := fun _ => UploadDisk.Capped) ?_ fun assembled => keeps_verify_archive
  refine Contract.from_each fun initial ⟨hroom, hsized⟩ => ?_
  have hassemble : Contract (Beside initial.usage identifier (Joinable (initial.usage identifier)
      stored.1.session.chunk_bytes (List.range stored.1.session.chunk_count)))
      (assemble surroundings.faults sha256 identifier stored.1.session.chunk_count) _ _ :=
    contract_assemble_beside
  refine hassemble.mono (fun disk hdisk => ?_) (fun _ _ => capped_of_beside hroom)
    fun _ _ => capped_of_beside hroom
  subst hdisk
  exact ⟨every_within_usage.near.others, fun directory hget =>
    ⟨every_within_usage identifier directory hget, hsized directory hget⟩⟩

lemma keeps_verified_parts {session : DatasetUploadSession} (indexes : List ℕ) :
    Keeps (UploadDisk.Every (Within weight)) (verified_parts faults identifier session indexes) := by
  induction indexes with
  | nil => exact .pure fun _ => id
  | cons index rest ih =>
    refine Contract.bind (Q := fun _ => UploadDisk.Every (Within weight)) ?_
      fun size => .ite (fun _ => ih.bind fun _ => .pure fun _ => id) fun _ => ?_
    · exact keeps_inspect.bind fun _ => Contract.bind (Q := fun _ => UploadDisk.Every (Within weight))
        (.read fun _ => id) fun _ => .pure fun _ => id
    · refine Contract.bind (Q := fun _ => UploadDisk.Every (Within weight))
        (contract_atomically (fun disk h => ?_) fun _ _ _ => id) fun _ => ih
      exact h.near.modify fun directory hdirectory => (used_bytes_erase_le index).trans hdirectory

/-- Parts that were all found in their expected size are not longer than a part may be. -/
lemma sizedParts_of_verified {start : SessionDirectory} {present : List ℕ}
    (h : disk.At (fun _ _ => True) identifier fun directory =>
      present = stored.1.session.received_chunks.filter
        (fun index => start.Holds stored.1.session index) ∧
        ∃ done, (∀ index ∈ done, ¬ start.Holds stored.1.session index) ∧
          Consumed start done directory)
    (hlength : present.length = stored.1.session.chunk_count) :
    SizedParts identifier stored disk := by
  intro directory hget index hindex content hcontent
  obtain ⟨directory', hget', hpresent, done, hdone, hconsumed⟩ := h.here
  obtain rfl := Option.some_inj.mp (hget.symm.trans hget')
  have hmem : index ∈ present := by
    rw [hpresent] at hlength ⊢
    exact mem_of_length_eq (stored.2.received_chunks.filter _)
      (fun other hother => stored.2.in_range other (List.mem_filter.mp hother).1) hlength
      (List.mem_range.mp hindex)
  rw [hpresent, List.mem_filter, decide_eq_true_eq] at hmem
  have hsame := hconsumed.chunks index
  rw [if_neg fun hgone => hdone index hgone hmem.2, hcontent] at hsame
  have hsize := hmem.2
  rw [SessionDirectory.Holds, ← hsame, Option.map_some, Option.some_inj] at hsize
  rw [hsize]
  exact stored.2.expected_chunk_bytes_le index

lemma keeps_report_missing {present : List ℕ} :
    Keeps UploadDisk.Capped (report_missing surroundings stored present) := by
  refine Contract.bind (Q := fun _ => UploadDisk.Capped) keeps_attempt fun corrected => ?_
  exact (keeps_capped fun _ => keeps_save_record).bind fun _ => contract_raise fun _ => id

lemma contract_complete_parts_capped (start : SessionDirectory) :
    Contract (fun disk => disk.Capped ∧
        disk.At (fun _ _ => True) identifier (Consumed start []))
      (complete_parts surroundings sha256 identifier stored)
      (fun _ => UploadDisk.Capped) fun _ => UploadDisk.Capped := by
  have hverify : Contract (fun disk => disk.Capped ∧
      disk.At (fun _ _ => True) identifier (Consumed start []))
      (verified_parts surroundings.faults identifier stored.1.session
        stored.1.session.received_chunks) _ _ :=
    (keeps_capped fun _ => keeps_verified_parts stored.1.session.received_chunks).both
      (contract_verified_parts (fun _ _ _ _ => trivial) stored.1.session.received_chunks []
        fun _ h => absurd h List.not_mem_nil)
  refine (hverify.mono (fun _ => id) (fun _ _ => id) fun _ _ h => h.1).bind fun present => ?_
  refine .ite (fun hlength => ?_) fun _ => keeps_report_missing.strengthen fun _ h => h.1
  exact contract_join_all_capped.strengthen fun _ h => ⟨h.1, sizedParts_of_verified h.2 hlength⟩

theorem keeps_complete :
    Keeps UploadDisk.Capped (complete surroundings sha256 identifier) := by
  refine contract_serialised ?_ (fun _ => id) fun _ _ => id
  have hload : Contract (fun disk => disk.Capped ∧ disk.Every fun _ _ => True)
      (load surroundings identifier) _ _ :=
    (keeps_capped fun _ => keeps_load).both (contract_load fun _ _ _ _ => trivial)
  refine (hload.mono (fun _ h => ⟨h, fun _ _ _ => trivial⟩) (fun _ _ => id)
    fun _ _ h => h.1).bind fun stored => .ite (fun _ => ?_) fun _ => ?_
  · exact ((keeps_capped fun _ => keeps_remove_chunks).strengthen fun _ h => h.1).bind
      fun _ => .pure fun _ => id
  · refine Contract.from_each fun initial ⟨hcapped, hloaded⟩ => ?_
    obtain ⟨start, -, hstart⟩ := hloaded.pin
    refine (contract_complete_parts_capped start).strengthen fun disk hdisk => ?_
    subst hdisk
    exact ⟨hcapped, hstart.mono fun _ h => h ▸ .refl⟩

/-! ### Runs -/

/-- Every call keeps the cap, wherever it stops. -/
theorem capped_of_step {s t : UploadHistory} {e : UploadEvent}
    (hstep : UploadStep sha256 s e t) (h : s.disk.Capped) : t.disk.Capped := by
  cases hstep with
  | @create surroundings request uuid4 _ _ hidentifier hfresh hx =>
    have hcreate : Contract (UploadDisk.Every (Fresh (Within s.disk.usage) ("upload_" ++ uuid4)))
        (create surroundings sha256 request uuid4)
        (fun _ => UploadDisk.Every (Within s.disk.usage))
        fun _ => UploadDisk.Every (Within s.disk.usage) :=
      contract_create (fun _ => keepsRemovals_within) (Nat.zero_le _) fun _ _ => Nat.zero_le _
    refine capped_of_usage h (hcreate.ends (fun key directory hget => ⟨fun hkey => ?_, ?_⟩) hx)
    · rw [hkey, hfresh] at hget
      exact absurd hget (by simp)
    · exact every_within_usage key directory hget
  | receive_chunk hx => exact keeps_receive_chunk.ends h hx
  | read hx =>
    exact (keeps_capped fun _ => keeps_read_session keepsRemovals_within).ends h hx
  | complete hx => exact keeps_complete.ends h hx
  | archive_path hx =>
    exact (keeps_capped fun _ => keeps_archive_path keepsRemovals_within).ends h hx
  | discard hx => exact (keeps_capped fun _ => keeps_discard keepsRemovals_within).ends h hx
  | sweep hx =>
    exact (keeps_capped fun _ => keeps_sweep fun _ => keepsRemovals_within).ends h hx
  | used_bytes hx => exact (keeps_capped fun _ => keeps_used_bytes).ends h hx

/-- Along every run, and wherever its last call stops, the parts and the archives together stay
within the cap. -/
theorem upload_storage_capped {s : UploadHistory} {events : List UploadEvent}
    (h : Run (UploadStep sha256) {} events s) :
    s.disk.used_bytes ≤ MAXIMUM_UPLOAD_STORAGE_BYTES :=
  h.invariant (fun s => s.disk.Capped) (fun hs hstep => capped_of_step hstep hs) (Nat.zero_le _)

/-- The process ends between the writing and the removal of a part. -/
def crash_while_joining : UploadSurroundings where
  faults := { unlink_part := fun _ => .crash () }

def joining_upload : UploadDisk :=
  (complete crash_while_joining spelled ("upload_" ++ uuid4_hex) received_upload).2

/-- A part counts twice while it is in the archive and still there. -/
theorem upload_storage_capped_joining :
    joining_upload.used_bytes = 6 ∧ joining_upload.used_bytes ≤ MAXIMUM_UPLOAD_STORAGE_BYTES := by
  have hreceive : UploadStep spelled { disk := opened_upload }
      (.receive_chunk {} ("upload_" ++ uuid4_hex) 0 [0x1f, 0x8b, 0])
      { disk := received_upload, acknowledged := _ } := .receive_chunk Prod.mk.eta.symm
  have hcomplete : ∀ acknowledged, UploadStep spelled
      { disk := received_upload, acknowledged := acknowledged }
      (.complete crash_while_joining ("upload_" ++ uuid4_hex))
      { disk := joining_upload, acknowledged := acknowledged } :=
    fun _ => .complete Prod.mk.eta.symm
  exact ⟨by decide +kernel,
    upload_storage_capped (.cons create_upload (.cons hreceive (.cons (hcomplete _) .nil)))⟩

end StegoLab

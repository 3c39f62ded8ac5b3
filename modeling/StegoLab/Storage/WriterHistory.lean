import StegoLab.Library.Runs
import StegoLab.Storage.WriterProperties

/-!
# Histories of dataset writers

Writers follow each other on one output root. Each of them may fail or crash at any operation, and
so may the recovery of what an earlier one has left.
-/

namespace StegoLab
namespace DatasetWriter

open Transaction Program

variable {records : OwnerRecords} {foreign : Dict StagedEntry} {first second disk disk' : DatasetDisk}
  {session : WriterSession} {sessions : List WriterSession} {writer : DatasetWriter}
  {root root' tree : FileTree} {parts : List String} {path : String}

/-! ### Sessions -/

/-- A staging directory with at most one life among the strangers. -/
def Kept (records : OwnerRecords) (foreign : Dict StagedEntry) (disk : DatasetDisk) : Prop :=
  disk.staging = foreign ∨
    ∃ run life, foreign.get? run.text = none ∧ Layout records run foreign life disk.staging

/-- The name of a writer is not the name of a stranger. -/
def Fresh (foreign : Dict StagedEntry) (writer : DatasetWriter) : Prop :=
  foreign.get? writer.run.text = none

lemma Left.kept {s : WriterState} (h : Left records foreign root s) :
    Kept records foreign s.toDatasetDisk :=
  Or.inr h.2

lemma Kept.left (h : Kept records foreign disk) (hforeign : Unmarked foreign)
    (hfresh : Fresh foreign writer) : Left records foreign disk.root disk.start := by
  refine ⟨rfl, ?_⟩
  rcases h with h | h
  · refine ⟨writer.run, .nothing, hfresh, ?_⟩
    change Layout records writer.run foreign .nothing disk.staging
    rw [h]
    exact layout_nothing hforeign hfresh
  · exact h

/-- Strangers stay where and what they are. -/
lemma Kept.stranger {name : String} {entry : StagedEntry} (h : Kept records foreign disk)
    (hforeign : Unmarked foreign) (hname : foreign.get? name = some entry) :
    disk.staging.get? name = some entry := by
  rcases h with h | ⟨run, life, hfresh, hlayout⟩
  · rw [h, hname]
  · rw [hlayout.stranger, hname]
    · rintro rfl
      rw [(hforeign run).2] at hname
      exact absurd hname (by simp)
    · rintro rfl
      rw [(hforeign run).1] at hname
      exact absurd hname (by simp)
    · rintro rfl
      rw [hfresh] at hname
      exact absurd hname (by simp)

/-- The end of a session that starts from what an earlier one has left. -/
lemma session_ends (hkept : Kept records foreign disk) (hforeign : Unmarked foreign)
    (hfresh : Fresh foreign session.writer) :
    Kept records foreign (session.result records disk).2
      ∧ Interrupted session disk.root (session.result records disk).2.root := by
  have hsession := @contract_session records foreign disk.root False session hforeign hfresh
    (fun h => h.elim)
  have hstart := hkept.left hforeign hfresh
  rcases hresult : session.program records disk.start with ⟨e | _, s⟩
  · obtain ⟨root', hroot, hleft⟩ := hsession.fails ⟨hstart, rfl, rfl⟩ hresult
    rw [WriterSession.result, hresult]
    refine ⟨hleft.kept, ?_⟩
    rw [← hleft.1] at hroot
    exact hroot
  · have hreturned := hsession.returns ⟨hstart, rfl, rfl⟩ hresult
    rw [WriterSession.result, hresult]
    exact ⟨hreturned.left.kept, hreturned.delivered.interrupted⟩

/-! ### Output roots -/

lemma Unmoved.grows (h : Unmoved root path root') :
    root.Extends root' ∧ ∀ p, root'.node p ≠ root.node p → root'.node p = some .directory := by
  obtain ⟨made, -, rfl⟩ := h
  exact ⟨FileTree.extends_make_directories, fun p hp => (FileTree.node_make_directories hp).2⟩

lemma Moved.extends (h : Moved root path tree root') : root.Extends root' := by
  obtain ⟨parts, -, -, rfl⟩ := h
  exact FileTree.extends_make_directories.trans FileTree.extends_graft

/-- The destination was free, and has the whole tree. -/
lemma Moved.destination (h : Moved root path tree root') :
    ∃ parts, relative_parts path = some parts ∧ root.node parts = none
      ∧ ∀ rest, root'.node (parts ++ rest) = tree.node rest := by
  obtain ⟨parts, hparts, hvacant, rfl⟩ := h
  refine ⟨parts, hparts, ?_, fun rest => FileTree.node_graft hvacant⟩
  by_contra hnode
  have hkept := @FileTree.extends_make_directories root [] parts.dropLast parts hnode
  rw [hvacant.2.2] at hkept
  exact hnode hkept.symm

lemma Interrupted.extends (h : Interrupted session root root') : root.Extends root' := by
  rcases h with rfl | ⟨call, path, -, hunmoved | hmoved⟩
  · exact FileTree.Extends.refl _
  · exact hunmoved.grows.1
  · exact hmoved.extends

/-! ### Histories -/

/-- What a history of sessions keeps. -/
structure Intact (records : OwnerRecords) (foreign : Dict StagedEntry) (first disk : DatasetDisk) :
    Prop where
  kept : Kept records foreign disk
  revisions : first.root.Extends disk.root

lemma intact_of_run (hrun : Run (SessionStep records) first sessions disk)
    (hfirst : Kept records foreign first) (hforeign : Unmarked foreign)
    (hsessions : ∀ session ∈ sessions, Fresh foreign session.writer) :
    Intact records foreign first disk := by
  have hfresh := hrun.restrict hsessions
  apply hfresh.invariant (Intact records foreign first) _ ⟨hfirst, FileTree.Extends.refl _⟩
  rintro disk session disk' hdisk ⟨hsession, rfl⟩
  obtain ⟨hkept, hinterrupted⟩ := session_ends hdisk.kept hforeign hsession
  exact ⟨hkept, hdisk.revisions.trans hinterrupted.extends⟩

/-- After any history of sessions that failed or crashed anywhere, an entry that is not disturbed
itself returns. Nothing of the earlier writers is left in the staging directory: it has the entries
of strangers, and the marker and the empty stage of the new writer. The output root is as it was. -/
theorem abandoned_stages_removed {call : EnterCall}
    (hrun : Run (SessionStep records) first sessions disk) (hforeign : Unmarked first.staging)
    (hsessions : ∀ session ∈ sessions, Fresh first.staging session.writer)
    (hfresh : Fresh first.staging writer) (henter : Enterable writer call first.staging) :
    ∃ s, enter records writer call disk.start = (.ok (), s) ∧ s.root = disk.root
      ∧ s.staging = (first.staging.insert writer.run.marker (owner_marker records writer.run)).insert
        writer.run.text (.directory .empty true) := by
  have hdisk := intact_of_run hrun (Or.inl rfl) hforeign hsessions
  have hstart := hdisk.kept.left hforeign hfresh
  have hcontract := @contract_enter records writer first.staging disk.root call False hforeign hfresh
  rcases hresult : enter records writer call disk.start with ⟨e | _, s⟩
  · exact absurd henter (hcontract.fails ⟨hstart, rfl, rfl⟩ hresult).1
  · have hworking := hcontract.returns ⟨hstart, rfl, rfl⟩ hresult
    refine ⟨s, rfl, hworking.root, ?_⟩
    apply Dict.ext_get?
    intro name
    rw [Dict.get?_insert, Dict.get?_insert]
    split_ifs with hstage hmarker
    · rw [hstage, hworking.layout.stage]
      rfl
    · rw [hmarker, hworking.layout.marker]
      rfl
    · by_cases hpending : name = writer.run.pending
      · rw [hpending, hworking.layout.pending, (hforeign writer.run).2]
        rfl
      · exact hworking.layout.stranger hpending hmarker hstage

/-! #### A history -/

/-- Markers as ASCII text. -/
def ascii_bytes (text : String) : List UInt8 :=
  text.toList.map fun c => UInt8.ofNat c.toNat

def owner_head : String := "\x7b\"version\": 1, \"owner_uid\": 1000, \"stage\": \""

def owner_tail : String := "\"\x7d"

def owner_text (stage : String) : String := owner_head ++ stage ++ owner_tail

lemma owner_text_short (stage : String) (h : run_name stage = true) :
    (ascii_bytes (owner_text stage)).length ≤ 1024 := by
  have hstage : stage.length = 36 := RunName.length ⟨stage, h⟩
  have hhead : owner_head.length = 44 := by decide
  have htail : owner_tail.length = 2 := by decide
  rw [ascii_bytes, List.length_map, String.length_toList, owner_text, String.length_append,
    String.length_append, hhead, htail, hstage]
  simp

def text_records : OwnerRecords where
  dumps stage := ascii_bytes (owner_text stage)
  loads_equals content stage := some (content = ascii_bytes (owner_text stage))
  round_trip _ := congrArg some (decide_eq_true rfl)
  short := owner_text_short

def writer_a : DatasetWriter where
  output_root := ["data", "prepared"]
  source_directory := ["data", "raw"]
  run := ⟨"run-aaaaaaaaaaaaaaaaaaaaaaaaaaaaaaaa", by decide⟩

def writer_b : DatasetWriter where
  output_root := ["data", "prepared"]
  source_directory := ["data", "raw"]
  run := ⟨"run-bbbbbbbbbbbbbbbbbbbbbbbbbbbbbbbb", by decide⟩

def large_disk : Option DiskUsage := some ⟨200 * 1024 ^ 3, 150 * 1024 ^ 3⟩

/-- A disk with a directory of a stranger. -/
def shared_disk : DatasetDisk where
  root := .empty
  staging := Dict.empty.insert "unrelated" (.directory .empty true)

/-- The process dies in its first write. -/
def crashed_session : WriterSession where
  writer := writer_a
  entering := { usage := large_disk }
  actions := [.write_file { usage := fun _ => large_disk, writing := fun _ => .crash 2 } none
    "images/a.png" [[1, 2, 3]] none]
  publication := some ({ usage := large_disk }, "uhd_iqa/revision")

/-- The recovery dies while it removes the abandoned stage. -/
def crashed_recovery : WriterSession where
  writer := writer_b
  entering :=
    { usage := large_disk
      recovery := { removal := fun _ => { removing := .crash fun path => path = ["images"] } } }
  actions := []
  publication := none

def published_session : WriterSession where
  writer := writer_b
  entering := { usage := large_disk }
  actions :=
    [ .write_file { usage := fun _ => large_disk } none "images/a.png" [[1, 2, 3]] none,
      .write_file { usage := fun _ => large_disk } (some 4) "manifest.json" [[4], [5, 6]] none ]
  publication := some ({ usage := large_disk }, "uhd_iqa/revision")

lemma shared_disk_unmarked : Unmarked shared_disk.staging := by
  intro run
  have hother : ∀ name : String, name.length ≠ 9 → shared_disk.staging.get? name = none := by
    intro name hlength
    apply (Dict.get?_insert _ _ _ _).trans
    apply if_neg
    rintro rfl
    exact hlength (by decide)
  constructor
  · apply hother
    rw [run.length_marker]
    simp
  · apply hother
    rw [run.length_pending]
    simp

lemma writer_a_fresh : Fresh shared_disk.staging writer_a := rfl

lemma writer_b_fresh : Fresh shared_disk.staging writer_b := rfl

lemma enterable_b : Enterable writer_b { usage := large_disk } shared_disk.staging where
  quiet := ⟨rfl, rfl, rfl, rfl, rfl, ⟨rfl, fun _ => rfl, fun _ => rfl, fun _ => rfl⟩, rfl, rfl, rfl,
    rfl⟩
  apart := rfl
  few := by decide

/-- The disk behind two crashes. -/
def abandoned_disk : DatasetDisk :=
  (crashed_recovery.result text_records (crashed_session.result text_records shared_disk).2).2

/-- The disk behind a publication after them. -/
def published_disk : DatasetDisk :=
  (published_session.result text_records abandoned_disk).2

lemma abandoned_run :
    Run (SessionStep text_records) shared_disk [crashed_session, crashed_recovery] abandoned_disk :=
  .cons rfl (.cons rfl .nil)

lemma abandoned_fresh :
    ∀ session ∈ [crashed_session, crashed_recovery], Fresh shared_disk.staging session.writer := by
  simp [crashed_session, crashed_recovery, writer_a_fresh, writer_b_fresh]

theorem two_crashes_recovered :
    ∃ s, enter text_records writer_b { usage := large_disk } abandoned_disk.start = (.ok (), s)
      ∧ s.root = abandoned_disk.root
      ∧ s.staging = (shared_disk.staging.insert writer_b.run.marker
        (owner_marker text_records writer_b.run)).insert writer_b.run.text
          (.directory .empty true) :=
  abandoned_stages_removed abandoned_run shared_disk_unmarked abandoned_fresh writer_b_fresh
    enterable_b

/-! #### Publication -/

/-- In any history, one more session leaves every earlier entry of the output root and every
stranger of the staging directory as they were. All that is new in the output root is directories
on the way, unless the destination was free and now has the whole tree that was staged. -/
theorem publication_atomic (hrun : Run (SessionStep records) first sessions disk)
    (hforeign : Unmarked first.staging)
    (hsessions : ∀ session ∈ sessions, Fresh first.staging session.writer)
    (hfresh : Fresh first.staging session.writer) (hstep : SessionStep records disk session disk') :
    first.root.Extends disk.root ∧ disk.root.Extends disk'.root
      ∧ (∀ name entry, first.staging.get? name = some entry →
        disk'.staging.get? name = some entry)
      ∧ ((∀ p, disk'.root.node p ≠ disk.root.node p → disk'.root.node p = some .directory)
        ∨ ∃ call path parts, session.publication = some (call, path)
          ∧ relative_parts path = some parts ∧ disk.root.node parts = none
          ∧ ∀ rest, disk'.root.node (parts ++ rest) = (staged_tree session.actions).node rest) := by
  have hdisk := intact_of_run hrun (Or.inl rfl) hforeign hsessions
  obtain ⟨hkept, hinterrupted⟩ := session_ends hdisk.kept hforeign hfresh
  rw [← hstep] at hkept hinterrupted
  refine ⟨hdisk.revisions, hinterrupted.extends, fun name entry => hkept.stranger hforeign, ?_⟩
  rcases hinterrupted with hroot | ⟨call, path, hpublication, hunmoved | hmoved⟩
  · apply Or.inl
    intro p hp
    rw [hroot] at hp
    exact absurd rfl hp
  · exact Or.inl hunmoved.grows.2
  · obtain ⟨parts, hdestination⟩ := hmoved.destination
    exact Or.inr ⟨call, path, parts, hpublication, hdestination⟩

theorem atomic_after_crashes :
    shared_disk.root.Extends abandoned_disk.root
      ∧ abandoned_disk.root.Extends published_disk.root
      ∧ (∀ name entry, shared_disk.staging.get? name = some entry →
        published_disk.staging.get? name = some entry)
      ∧ ((∀ p, published_disk.root.node p ≠ abandoned_disk.root.node p →
          published_disk.root.node p = some .directory)
        ∨ ∃ call path parts, published_session.publication = some (call, path)
          ∧ relative_parts path = some parts ∧ abandoned_disk.root.node parts = none
          ∧ ∀ rest, published_disk.root.node (parts ++ rest)
            = (staged_tree published_session.actions).node rest) :=
  publication_atomic abandoned_run shared_disk_unmarked abandoned_fresh writer_b_fresh rfl

lemma published_returns : (published_session.result text_records abandoned_disk).1 = .ok () := by
  decide +kernel

/-- How a session ended, beside the disk that it left. -/
lemma result_of_outcome {outcome : Except (Stop WriterException) Unit}
    (h : (session.result records disk).1 = outcome) :
    session.result records disk = (outcome, (session.result records disk).2) := by
  rw [← h]

lemma published_result :
    published_session.result text_records abandoned_disk = (.ok (), published_disk) :=
  result_of_outcome published_returns

end DatasetWriter
end StegoLab

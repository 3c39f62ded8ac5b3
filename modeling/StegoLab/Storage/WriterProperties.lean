import StegoLab.Storage.EntryProperties

/-!
# What a dataset writer publishes

Every write goes to the stage and is charged before it is made. Publication moves the stage as a
whole to a vacant place, so that the output root has a revision completely or not at all.
-/

namespace StegoLab
namespace DatasetWriter

open Transaction Program

variable {records : OwnerRecords} {writer : DatasetWriter} {foreign staging : Dict StagedEntry}
  {s before : WriterState} {root tree tree' : FileTree} {charged : Prop} {parts above : List String}
  {usage : Option DiskUsage} {size : ℕ}

/-! ### The stage of a writer -/

lemma Working.tree_eq (h : Working records writer foreign root charged tree s) :
    Place.stage.tree writer s = tree := by
  rw [Place.tree, h.layout.stage]
  rfl

lemma Working.edit {f : FileTree → FileTree}
    (h : Working records writer foreign root charged tree s)
    (hbudget : charged → (f tree).HoldsAtMost s.authorized_bytes) :
    Working records writer foreign root charged (f tree) (Place.stage.edit writer f s) := by
  rw [Place.edit, h.layout.stage]
  exact ⟨h.layout.edit_stage, h.root, h.locked, h.unpublished, h.affordable, hbudget⟩

/-- A writer that still has its stage. -/
def StillWorking (records : OwnerRecords) (writer : DatasetWriter) (foreign : Dict StagedEntry)
    (root : FileTree) (charged : Prop) (s : WriterState) : Prop :=
  ∃ tree, Working records writer foreign root charged tree s

lemma Working.still (h : Working records writer foreign root charged tree s) :
    StillWorking records writer foreign root charged s := ⟨tree, h⟩

lemma StillWorking.left (h : StillWorking records writer foreign root charged s)
    (hfresh : foreign.get? writer.run.text = none) : Left records foreign root s := by
  obtain ⟨tree, hworking⟩ := h
  exact ⟨hworking.root, writer.run, .staged tree, hfresh, hworking.layout⟩

lemma contract_directory_errors {α : Type} {program : WriterProgram α} {P R : WriterState → Prop}
    {Q : α → WriterState → Prop} (h : Contract P program Q fun _ => R) :
    Contract P (directory_errors program) Q fun _ => R := by
  apply contract_translate h
  intro e
  cases e with
  | raised exception => cases exception <;> exact ⟨_, rfl⟩
  | download_stopped => exact ⟨_, rfl⟩
  | archive_error => exact ⟨_, rfl⟩

lemma contract_storage_errors {α : Type} {program : WriterProgram α} {P R : WriterState → Prop}
    {Q : α → WriterState → Prop} (h : Contract P program Q fun _ => R) :
    Contract P (storage_errors program) Q fun _ => R := by
  apply contract_translate h
  intro e
  cases e with
  | raised exception => cases exception <;> exact ⟨_, rfl⟩
  | download_stopped => exact ⟨_, rfl⟩
  | archive_error => exact ⟨_, rfl⟩

/-! ### Directories -/

/-- The directories of a path are made one by one. A stop leaves the first few of them. -/
lemma contract_open_directories {I : FileTree → WriterState → Prop} {place : Place}
    {faults : List String → Fault Unit} (htree : ∀ tree s, I tree s → place.tree writer s = tree)
    (hedit : ∀ tree s path, I tree s →
      I (tree.make_directory path) (place.edit writer (fun tree => tree.make_directory path) s))
    (habove : tree.node above = some .directory) :
    Contract (I tree) (open_directories writer faults place above parts)
      (fun _ s => I (tree.make_directories above parts) s
        ∧ (tree.make_directories above parts).node (above ++ parts) = some .directory)
      fun _ s => ∃ k, I (tree.make_directories above (parts.take k)) s := by
  induction parts generalizing tree above with
  | nil =>
    apply Contract.pure
    intro s hs
    refine ⟨hs, ?_⟩
    rw [List.append_nil]
    exact habove
  | cons part rest ih =>
    have happend : above ++ [part] ++ rest = above ++ part :: rest := by simp
    apply Contract.bind (Q := fun _ => I (tree.make_directory (above ++ [part])))
    · apply contract_atomically
      · exact fun s hs => hedit tree s _ hs
      · exact fun _ e s hs => ⟨0, hs⟩
    intro _
    apply contract_read_bind
    intro s hs
    apply Contract.bind (Q := fun _ t => t = s
      ∧ (tree.make_directory (above ++ [part])).node (above ++ [part]) = some .directory)
    · apply contract_attempt
      · rintro _ hcheck t rfl
        rw [raise_if_eq_ok, not_not, htree _ _ hs] at hcheck
        exact ⟨rfl, hcheck⟩
      · rintro e _ t rfl
        exact ⟨1, hs⟩
    intro _
    apply Contract.from_each
    rintro t ⟨rfl, hpart⟩
    apply (ih hpart).mono
    · rintro u rfl
      exact hs
    · rintro _ u ⟨hu, hnode⟩
      exact ⟨hu, happend ▸ hnode⟩
    · rintro e u ⟨k, hu⟩
      exact ⟨k + 1, hu⟩

lemma Working.make_directory {path : List String}
    (h : Working records writer foreign root charged tree s) :
    Working records writer foreign root charged (tree.make_directory path)
      (Place.stage.edit writer (fun tree => tree.make_directory path) s) :=
  h.edit (f := fun tree => tree.make_directory path) fun hcharged =>
    (h.budget hcharged).shrink fun _ => FileTree.size_make_directory

/-- A directory of the stage that has been opened. -/
lemma contract_within_stage {α : Type} {opening : Fault Unit} {faults : List String → Fault Unit}
    {body : WriterProgram α} {Q : α → WriterState → Prop}
    (hbody : (tree.make_directories [] parts).node parts = some .directory →
      Contract (Working records writer foreign root charged (tree.make_directories [] parts)) body Q
        fun _ => StillWorking records writer foreign root charged) :
    Contract (Working records writer foreign root charged tree)
      (within_directory writer opening faults .stage parts body) Q
      fun _ => StillWorking records writer foreign root charged := by
  have hopen := @contract_open_directories writer tree parts []
    (Working records writer foreign root charged) .stage faults (fun _ _ h => h.tree_eq)
    (fun _ _ _ h => h.make_directory) tree.root
  apply contract_directory_errors
  apply Contract.bind (Q := fun _ => Working records writer foreign root charged tree)
  · apply contract_read_bind
    intro s hs
    rw [hs.layout.stage]
    apply (contract_inspect ?_).strengthen
    · rintro t rfl
      exact hs
    · exact fun _ e t ht => ht.still
  intro _
  apply Contract.bind (Q := fun _ s =>
    (tree.make_directories [] parts).node parts = some .directory
      ∧ Working records writer foreign root charged (tree.make_directories [] parts) s)
  · apply hopen.mono (fun _ => id)
    · exact fun _ s hs => ⟨hs.2, hs.1⟩
    · rintro e s ⟨k, hs⟩
      exact hs.still
  · exact fun _ => .assume hbody

/-! ### Charging -/

lemma contract_check_estimated_space {P : WriterState → Prop} :
    Contract P (check_estimated_space writer usage size)
      (fun _ s => P s ∧ s.authorized_bytes + size ≤ writer.maximum_prepared_bytes)
      fun _ => P := by
  apply contract_read_bind
  intro s hs
  apply Contract.bind (Q := fun _ t => t = s
    ∧ s.authorized_bytes + size ≤ writer.maximum_prepared_bytes)
  · apply contract_attempt
    · rintro _ hcheck t rfl
      rw [raise_if_eq_ok, not_lt] at hcheck
      exact ⟨rfl, hcheck⟩
    · rintro e _ t rfl
      exact hs
  intro _
  apply contract_attempt
  · rintro _ _ t ⟨rfl, hle⟩
    exact ⟨hs, hle⟩
  · rintro e _ t ⟨rfl, -⟩
    exact hs

/-- A charge leaves room for as many bytes in the stage. -/
lemma contract_reserve_write :
    Contract (Working records writer foreign root charged tree) (reserve_write writer usage size)
      (fun _ s => Working records writer foreign root charged tree s
        ∧ size ≤ s.authorized_bytes
        ∧ (charged → tree.HoldsAtMost (s.authorized_bytes - size)))
      fun _ => Working records writer foreign root charged tree := by
  apply contract_read_bind
  intro before hbefore
  have hopen : raise_if (before.locked = false ∨ before.published = true) storage_failure
      = .ok () := by
    rw [raise_if_eq_ok, hbefore.locked, hbefore.unpublished]
    simp
  apply contract_attempt_bind hopen
  apply Contract.bind (Q := fun _ s => Working records writer foreign root charged tree s
    ∧ s.authorized_bytes + size ≤ writer.maximum_prepared_bytes)
  · apply contract_check_estimated_space.strengthen
    rintro s rfl
    exact hbefore
  intro _
  apply contract_atomically
  · rintro s ⟨hs, hle⟩
    refine ⟨?_, Nat.le_add_left _ _, ?_⟩
    · exact ⟨hs.layout, hs.root, hs.locked, hs.unpublished, hle,
        fun hcharged => (hs.budget hcharged).mono (Nat.le_add_right _ _)⟩
    · intro hcharged
      rw [Nat.add_sub_cancel]
      exact hs.budget hcharged
  · exact fun hfault => absurd rfl hfault

/-! ### Writing -/

lemma size_place {data : List UInt8} (h : tree.Placeable parts) :
    (tree.place parts (.file data)).size parts = data.length := by
  rw [FileTree.size, FileTree.node_place_self h]
  rfl

lemma size_place_of_ne {p : List String} {entry : FileNode} (h : p ≠ parts) :
    (tree.place parts entry).size p = tree.size p := by
  rw [FileTree.size, FileTree.size, FileTree.node_place_of_ne h]

/-- A file can be placed over a file. -/
lemma placeable_place {data : List UInt8} (h : tree.Placeable parts) :
    (tree.place parts (.file data)).Placeable parts := by
  refine ⟨h.1, ?_, ?_⟩
  · rw [FileTree.node_place_of_ne (FileTree.dropLast_ne h.1)]
    exact h.2.1
  · rw [FileTree.node_place_self h]
    simp

lemma place_place {data data' : List UInt8} (h : tree.Placeable parts) :
    (tree.place parts (.file data)).place parts (.file data') = tree.place parts (.file data') := by
  apply FileTree.ext_node
  intro p
  by_cases hp : p = parts
  · subst hp
    rw [FileTree.node_place_self (placeable_place h), FileTree.node_place_self h]
  · rw [FileTree.node_place_of_ne hp, FileTree.node_place_of_ne hp, FileTree.node_place_of_ne hp]

/-- A file that grows within what was charged for it. -/
lemma Working.append {written data : List UInt8}
    (h : Working records writer foreign root charged (tree.place parts (.file written)) s)
    (hplace : tree.Placeable parts) (hsize : size ≤ s.authorized_bytes)
    (hbudget : charged →
      (tree.place parts (.file written)).HoldsAtMost (s.authorized_bytes - size))
    (hdata : data.length ≤ written.length + size) :
    Working records writer foreign root charged (tree.place parts (.file data))
      (Place.stage.edit writer (fun tree => tree.place parts (.file data)) s) := by
  rw [← place_place hplace]
  apply h.edit (f := fun tree => tree.place parts (.file data))
  intro hcharged
  have hself : ((tree.place parts (.file written)).place parts (.file data)).size parts
      ≤ (tree.place parts (.file written)).size parts + size := by
    rw [size_place (placeable_place hplace), size_place hplace]
    exact hdata
  rw [← Nat.sub_add_cancel hsize]
  exact (hbudget hcharged).grow hself fun p hp => Nat.le_of_eq (size_place_of_ne hp)

/-- The chunks of a file are charged and written one after another. -/
lemma contract_write_chunks {call : WriteCall} {maximum_bytes : Option ℕ} {written : List UInt8}
    {chunks : List (List UInt8)} (hplace : tree.Placeable parts) :
    Contract (Working records writer foreign root charged (tree.place parts (.file written)))
      (write_chunks writer call parts maximum_bytes written chunks)
      (fun data s => data = written ++ chunks.flatten
        ∧ Working records writer foreign root charged (tree.place parts (.file data)) s)
      fun _ => StillWorking records writer foreign root charged := by
  induction chunks generalizing written with
  | nil =>
    apply Contract.pure
    intro s hs
    exact ⟨(List.append_nil written).symm, hs⟩
  | cons chunk rest ih =>
    apply Contract.bind (Q := fun _ => Working records writer foreign root charged
      (tree.place parts (.file written)))
    · apply contract_attempt
      · exact fun _ _ s hs => hs
      · exact fun _ _ s hs => hs.still
    intro _
    apply Contract.bind
    · exact contract_reserve_write.mono (fun _ => id) (fun _ _ => id) fun _ s hs => hs.still
    intro _
    apply Contract.bind (Q := fun _ => Working records writer foreign root charged
      (tree.place parts (.file (written ++ chunk))))
    · apply contract_operation
      · rintro s ⟨hs, hsize, hbudget⟩
        apply hs.append hplace hsize hbudget
        rw [List.length_append]
      · rintro reached _ e s ⟨hs, hsize, hbudget⟩
        apply Working.still
        apply hs.append hplace hsize hbudget
        rw [← List.length_append]
        exact List.length_take_le' _ _
    intro _
    apply ih.weaken
    rintro data s ⟨hdata, hs⟩
    refine ⟨?_, hs⟩
    rw [hdata, List.flatten_cons, List.append_assoc]

/-- A new file is empty at first. -/
lemma contract_create_file {fault : Fault Unit} (hparts : parts ≠ [])
    (habove : tree.node parts.dropLast = some .directory) :
    Contract (Working records writer foreign root charged tree) (create_file writer fault parts)
      (fun _ s => (tree.Placeable parts ∧ tree.node parts = none)
        ∧ Working records writer foreign root charged (tree.place parts (.file [])) s)
      fun _ => StillWorking records writer foreign root charged := by
  apply contract_read_bind
  intro s hs
  apply Contract.bind (Q := fun _ t => t = s ∧ tree.node parts = none)
  · apply contract_attempt
    · rintro _ hcheck t rfl
      rw [raise_if_eq_ok, not_not, hs.tree_eq] at hcheck
      exact ⟨rfl, hcheck⟩
    · rintro e _ t rfl
      exact hs.still
  intro _
  apply contract_atomically
  · rintro t ⟨rfl, hnone⟩
    have hplace : tree.Placeable parts := ⟨hparts, habove, by rw [hnone]; simp⟩
    refine ⟨⟨hplace, hnone⟩, ?_⟩
    apply hs.edit (f := fun tree => tree.place parts (.file []))
    intro hcharged
    apply (hs.budget hcharged).shrink
    intro p
    by_cases hp : p = parts
    · subst hp
      rw [size_place hplace]
      exact Nat.zero_le _
    · exact Nat.le_of_eq (size_place_of_ne hp)
  · rintro _ e t ⟨rfl, -⟩
    exact hs.still

lemma relative_parts_ne_nil {path : String} (h : relative_parts path = some parts) : parts ≠ [] := by
  rw [relative_parts] at h
  split_ifs at h with hcheck
  rw [← Option.some_inj.mp h]
  exact fun hnil => hcheck (Or.inl hnil)

lemma path_parts_eq_ok {path : String} (h : path_parts path = .ok parts) :
    relative_parts path = some parts := by
  rw [path_parts] at h
  cases hparts : relative_parts path with
  | none =>
    rw [hparts] at h
    exact absurd h (by simp)
  | some parts' =>
    rw [hparts] at h
    exact congrArg some (Except.ok.inj h)

/-- The tree with a new file and the directories above it. -/
def with_file (tree : FileTree) (relative_path : String) (data : List UInt8) : FileTree :=
  match relative_parts relative_path with
  | none => tree
  | some parts => (tree.make_directories [] parts.dropLast).place parts (.file data)

/-- The files of a tree are those of another one, and one more. -/
def OneMore (tree tree' : FileTree) (relative_path : String) (data : List UInt8) : Prop :=
  ∀ p content, tree'.node p = some (.file content) ↔
    tree.node p = some (.file content) ∨ relative_parts relative_path = some p ∧ content = data

lemma node_make_directories_file {p : List String} {data : List UInt8} :
    (tree.make_directories above parts).node p = some (.file data)
      ↔ tree.node p = some (.file data) := by
  by_cases h : (tree.make_directories above parts).node p = tree.node p
  · rw [h]
  · obtain ⟨-, hdirectory⟩ := FileTree.node_make_directories h
    rw [hdirectory]
    constructor
    · exact fun hfile => absurd hfile (by simp)
    · intro hfile
      have hkept : (tree.make_directories above parts).node p = tree.node p :=
        FileTree.extends_make_directories p (by rw [hfile]; simp)
      exact absurd hkept h

/-- A new file is one more file. -/
lemma one_more_with_file {path : String} {data : List UInt8}
    (hparts : relative_parts path = some parts)
    (hplace : (tree.make_directories [] parts.dropLast).Placeable parts)
    (hnone : (tree.make_directories [] parts.dropLast).node parts = none) :
    OneMore tree (with_file tree path data) path data := by
  intro p content
  rw [with_file, hparts]
  dsimp only
  by_cases hp : p = parts
  · subst hp
    have hbefore : tree.node p ≠ some (.file content) := by
      intro hfile
      have hmade := (@node_make_directories_file tree p.dropLast [] p content).mpr hfile
      rw [hnone] at hmade
      exact absurd hmade (by simp)
    rw [FileTree.node_place_self hplace, or_iff_right hbefore, and_iff_right rfl]
    constructor
    · intro h
      exact (FileNode.file.inj (Option.some_inj.mp h)).symm
    · rintro rfl
      rfl
  · rw [FileTree.node_place_of_ne hp, node_make_directories_file, or_iff_left]
    rintro ⟨h, -⟩
    exact hp (Option.some_inj.mp h).symm

/-- A write returns with the whole file in the stage. -/
lemma contract_write_file {call : WriteCall} {maximum_bytes : Option ℕ} {path : String}
    {chunks : List (List UInt8)} {ending : Option WriterException} :
    Contract (Working records writer foreign root charged tree)
      (write_file writer call maximum_bytes path chunks ending)
      (fun data s => (data = chunks.flatten ∧ OneMore tree (with_file tree path data) path data)
        ∧ Working records writer foreign root charged (with_file tree path data) s)
      fun _ => StillWorking records writer foreign root charged := by
  apply Contract.bind (Q := fun parts s => relative_parts path = some parts
    ∧ Working records writer foreign root charged tree s)
  · apply contract_attempt
    · exact fun parts hparts s hs => ⟨path_parts_eq_ok hparts, hs⟩
    · exact fun _ _ s hs => hs.still
  intro parts
  apply Contract.assume
  intro hparts
  apply contract_storage_errors
  apply contract_within_stage
  intro habove
  apply (contract_create_file (relative_parts_ne_nil hparts) habove).bind
  intro _
  apply Contract.assume
  rintro ⟨hplace, hnone⟩
  apply (contract_write_chunks hplace).bind
  intro data
  apply Contract.assume
  intro hdata
  have hwritten : ∀ s, Working records writer foreign root charged
      ((tree.make_directories [] parts.dropLast).place parts (.file data)) s →
      Working records writer foreign root charged (with_file tree path data) s := by
    intro s hs
    rw [with_file, hparts]
    exact hs
  have hinspect : ∀ fault : Fault Unit,
      Contract (Working records writer foreign root charged (with_file tree path data))
        (inspect fault WriterException.os_error)
        (fun _ => Working records writer foreign root charged (with_file tree path data))
        fun _ => StillWorking records writer foreign root charged :=
    fun fault => contract_inspect fun _ _ s hs => hs.still
  apply Contract.bind (Q := fun _ =>
    Working records writer foreign root charged (with_file tree path data))
  · apply contract_attempt
    · exact fun _ _ s hs => hwritten s hs
    · exact fun _ _ s hs => hs.still
  intro _
  apply (hinspect call.flushing).bind
  intro _
  apply (hinspect call.flushing_directory).bind
  intro _
  exact .pure fun s hs =>
    ⟨⟨hdata.trans (List.nil_append _), one_more_with_file hparts hplace hnone⟩, hs⟩

/-! ### Actions -/

/-- What an action does to the stage when it returns. -/
def WriterAction.outcome (tree : FileTree) : WriterAction → FileTree
  | .write_file _ _ path chunks _ => with_file tree path chunks.flatten
  | .stage_work change => change tree
  | _ => tree

/-- An action whose bytes are charged. -/
def WriterAction.Charged : WriterAction → Prop
  | .stage_work change => ∀ tree p, (change tree).size p ≤ tree.size p
  | _ => True

/-- The file that an action writes. -/
def WriterAction.Writes (parts : List String) (data : List UInt8) : WriterAction → Prop
  | .write_file _ _ path chunks _ => relative_parts path = some parts ∧ data = chunks.flatten
  | _ => False

/-- An action through the writer alone. -/
def WriterAction.Plain : WriterAction → Prop
  | .stage_work _ => False
  | _ => True

lemma WriterAction.charged_of_plain {action : WriterAction} (h : action.Plain) : action.Charged := by
  cases action with
  | stage_work change => exact h.elim
  | _ => exact trivial

/-- The files of a tree are those of another one, and those that actions have written. -/
def Wrote (actions : List WriterAction) (tree tree' : FileTree) : Prop :=
  ∀ p data, tree'.node p = some (.file data) ↔
    tree.node p = some (.file data) ∨ ∃ action ∈ actions, action.Writes p data

lemma wrote_nil : Wrote [] tree tree := by
  intro p data
  simp

lemma wrote_of_not_writes {action : WriterAction} (h : ∀ p data, ¬ action.Writes p data) :
    Wrote [action] tree tree := by
  intro p data
  simp [h p data]

lemma Wrote.cons {action : WriterAction} {actions : List WriterAction} {tree'' : FileTree}
    (h : Wrote [action] tree tree') (h' : Wrote actions tree' tree'') :
    Wrote (action :: actions) tree tree'' := by
  intro p data
  rw [h' p data, h p data, or_assoc, List.exists_mem_cons_iff]
  simp

lemma contract_record_external_write {fault : Fault Unit} {path : String} :
    Contract (Working records writer foreign root charged tree)
      (record_external_write writer fault path size)
      (fun _ => Working records writer foreign root charged tree)
      fun _ => StillWorking records writer foreign root charged := by
  apply Contract.bind (Q := fun _ => Working records writer foreign root charged tree)
  · exact contract_attempt (fun _ _ s hs => hs) fun _ _ s hs => hs.still
  intro parts
  apply contract_storage_errors
  apply Contract.bind (Q := fun _ => Working records writer foreign root charged tree)
  · exact contract_inspect fun _ _ s hs => hs.still
  intro _
  apply contract_read_bind
  intro s hs
  apply contract_attempt
  · rintro _ _ t rfl
    exact hs
  · rintro e _ t rfl
    exact hs.still

lemma contract_reuse_path {fault : Fault Unit} {path : String} :
    Contract (Working records writer foreign root charged tree) (reuse_path fault path)
      (fun _ => Working records writer foreign root charged tree)
      fun _ => StillWorking records writer foreign root charged := by
  apply Contract.bind (Q := fun _ => Working records writer foreign root charged tree)
  · exact contract_attempt (fun _ _ s hs => hs) fun _ _ s hs => hs.still
  intro parts
  apply contract_read_bind
  intro s hs
  apply Contract.strengthen (P := Working records writer foreign root charged tree)
  · apply Contract.ite
    · exact fun _ => .pure fun t ht => ht
    · intro _
      apply Contract.bind (Q := fun _ => Working records writer foreign root charged tree)
      · exact contract_inspect fun _ _ s hs => hs.still
      intro _
      apply Contract.bind (Q := fun _ => Working records writer foreign root charged tree)
      · exact contract_attempt (fun _ _ s hs => hs) fun _ _ s hs => hs.still
      · exact fun _ => .pure fun t ht => ht
  · rintro t rfl
    exact hs

/-- An action returns with its outcome, or leaves a stage behind. -/
lemma contract_perform {action : WriterAction} (hcharged : charged → action.Charged) :
    Contract (Working records writer foreign root charged tree) (perform writer action)
      (fun _ s => (action.Plain → Wrote [action] tree (action.outcome tree))
        ∧ Working records writer foreign root charged (action.outcome tree) s)
      fun _ => StillWorking records writer foreign root charged := by
  cases action with
  | write_file call maximum_bytes path chunks ending =>
    apply contract_write_file.bind
    intro data
    apply Contract.pure
    rintro s ⟨⟨rfl, hmore⟩, hs⟩
    refine ⟨?_, hs⟩
    intro _ p content
    rw [WriterAction.outcome, hmore p content]
    simp [WriterAction.Writes]
  | reserve_write usage size =>
    apply contract_reserve_write.mono (fun _ => id)
    · exact fun _ _ hs => ⟨fun _ => wrote_of_not_writes fun _ _ => id, hs.1⟩
    · exact fun _ _ hs => hs.still
  | check_estimated_space usage size =>
    apply contract_check_estimated_space.mono (fun _ => id)
    · exact fun _ _ hs => ⟨fun _ => wrote_of_not_writes fun _ _ => id, hs.1⟩
    · exact fun _ _ hs => hs.still
  | record_external_write fault path size =>
    apply contract_record_external_write.weaken
    exact fun _ _ hs => ⟨fun _ => wrote_of_not_writes fun _ _ => id, hs⟩
  | reuse_path fault path =>
    apply contract_reuse_path.bind
    intro _
    apply Contract.pure
    exact fun _ hs => ⟨fun _ => wrote_of_not_writes fun _ _ => id, hs⟩
  | stage_work change =>
    apply contract_atomically
    · intro s hs
      refine ⟨fun hplain => hplain.elim, ?_⟩
      exact hs.edit fun h => (hs.budget h).shrink fun p => hcharged h tree p
    · exact fun hfault => absurd rfl hfault
  | stops stop =>
    exact .lift (fun _ h => absurd h (by simp)) fun _ _ s hs => hs.still

/-- The stage after all actions. -/
def staged_tree (actions : List WriterAction) : FileTree :=
  actions.foldl WriterAction.outcome .empty

/-- All actions return with their outcomes, or a stage is left behind. -/
lemma contract_run_actions {actions : List WriterAction}
    (hcharged : charged → ∀ action ∈ actions, action.Charged) :
    Contract (Working records writer foreign root charged tree) (run_actions writer actions)
      (fun _ s => ((∀ action ∈ actions, action.Plain) →
          Wrote actions tree (actions.foldl WriterAction.outcome tree))
        ∧ Working records writer foreign root charged
          (actions.foldl WriterAction.outcome tree) s)
      fun _ => StillWorking records writer foreign root charged := by
  induction actions generalizing tree with
  | nil => exact .pure fun s hs => ⟨fun _ => wrote_nil, hs⟩
  | cons action rest ih =>
    apply (contract_perform fun h => hcharged h action List.mem_cons_self).bind
    intro _
    apply Contract.assume
    intro hfirst
    apply (ih fun h other hother => hcharged h other (List.mem_cons_of_mem _ hother)).weaken
    rintro _ s ⟨hrest, hs⟩
    refine ⟨?_, hs⟩
    intro hplain
    apply (hfirst (hplain action List.mem_cons_self)).cons
    exact hrest fun other hother => hplain other (List.mem_cons_of_mem _ hother)

/-! ### Publication -/

/-- The destination has the whole stage, and its parents are there. -/
def Moved (root : FileTree) (relative_directory : String) (tree root' : FileTree) : Prop :=
  ∃ parts, relative_parts relative_directory = some parts
    ∧ (root.make_directories [] parts.dropLast).Vacant parts
    ∧ root' = (root.make_directories [] parts.dropLast).graft parts tree

/-- The destination is as it was, and some of its parents are there. -/
def Unmoved (root : FileTree) (relative_directory : String) (root' : FileTree) : Prop :=
  ∃ made, (made = [] ∨ ∃ parts, relative_parts relative_directory = some parts
      ∧ made <+: parts.dropLast)
    ∧ root' = root.make_directories [] made

/-- A stage that has been moved away, whose marker may still be there. -/
structure MovedAway (records : OwnerRecords) (writer : DatasetWriter)
    (foreign : Dict StagedEntry) (life : StageLife) (root : FileTree) (relative_directory : String)
    (tree : FileTree) (s : WriterState) : Prop where
  layout : Layout records writer.run foreign life s.staging
  moved : Moved root relative_directory tree s.root

/-- What a publication that does not return leaves. -/
def PublicationLeft (records : OwnerRecords) (writer : DatasetWriter) (foreign : Dict StagedEntry)
    (root : FileTree) (relative_directory : String) (tree : FileTree) (s : WriterState) : Prop :=
  (∃ root' charged, Unmoved root relative_directory root'
      ∧ StillWorking records writer foreign root' charged s)
    ∨ ∃ life, MovedAway records writer foreign life root relative_directory tree s

lemma Working.make_root_directory {path : List String}
    (h : Working records writer foreign root charged tree s) :
    Working records writer foreign (root.make_directory path) charged tree
      (Place.root.edit writer (fun tree => tree.make_directory path) s) where
  layout := h.layout
  root := by
    rw [← h.root]
    rfl
  locked := h.locked
  unpublished := h.unpublished
  affordable := h.affordable
  budget := h.budget

/-- The stage is moved to a vacant place, or nothing moves. -/
lemma contract_publish_directory {fault : Fault Unit} {path : String} {root' : FileTree}
    (hparts : relative_parts path = some parts)
    (hroot : root' = root.make_directories [] parts.dropLast)
    (habove : root'.node parts.dropLast = some .directory) :
    Contract (Working records writer foreign root' charged tree)
      (publish_directory writer fault parts)
      (fun _ => MovedAway records writer foreign .marked root path tree)
      fun _ => StillWorking records writer foreign root' charged := by
  apply contract_read_bind
  intro s hs
  rw [hs.layout.stage]
  apply Contract.bind (Q := fun _ t => t = s ∧ root'.node parts = none)
  · apply contract_attempt
    · rintro _ hcheck t rfl
      rw [raise_if_eq_ok, not_not, hs.root] at hcheck
      exact ⟨rfl, hcheck⟩
    · rintro e _ t rfl
      exact hs.still
  intro _
  apply contract_atomically
  · rintro t ⟨rfl, hnone⟩
    refine ⟨hs.layout.erase_stage, parts, hparts, ?_, ?_⟩
    · rw [← hroot]
      exact ⟨relative_parts_ne_nil hparts, habove, hnone⟩
    · rw [← hroot, ← hs.root]
  · rintro _ e t ⟨rfl, -⟩
    exact hs.still

lemma unmoved_refl {path : String} : Unmoved root path root :=
  ⟨[], Or.inl rfl, rfl⟩

lemma StillWorking.publication_left {path : String} {root' : FileTree}
    (h : StillWorking records writer foreign root' charged s) (hroot : Unmoved root path root') :
    PublicationLeft records writer foreign root path tree s :=
  Or.inl ⟨root', charged, hroot, h⟩

lemma MovedAway.publication_left {path : String} {life : StageLife}
    (h : MovedAway records writer foreign life root path tree s) :
    PublicationLeft records writer foreign root path tree s :=
  Or.inr ⟨life, h⟩

/-- The parents are made, and the stage is moved below them. -/
lemma contract_move_stage {call : PublishCall} {path : String}
    (hparts : relative_parts path = some parts) :
    Contract (Working records writer foreign root charged tree)
      (within_directory writer call.opening call.directories .root parts.dropLast do
        check_estimated_space writer call.usage 0
        inspect call.flushing_tree access_failure
        publish_directory writer call.moving parts
        atomically .none .os_error fun s => { s with published := true }
        inspect call.flushing_root .os_error)
      (fun _ => MovedAway records writer foreign .marked root path tree)
      fun _ => PublicationLeft records writer foreign root path tree := by
  have hopen := @contract_open_directories writer root parts.dropLast []
    (fun root => Working records writer foreign root charged tree) .root call.directories
    (fun _ _ h => h.root) (fun _ _ _ h => h.make_root_directory) root.root
  have hmade : Unmoved root path (root.make_directories [] parts.dropLast) :=
    ⟨parts.dropLast, Or.inr ⟨parts, hparts, List.prefix_rfl⟩, rfl⟩
  apply contract_directory_errors
  apply Contract.bind (Q := fun _ => Working records writer foreign root charged tree)
  · exact contract_inspect fun _ _ s hs => hs.still.publication_left unmoved_refl
  intro _
  apply Contract.bind (Q := fun _ s =>
    (root.make_directories [] parts.dropLast).node parts.dropLast = some .directory
      ∧ Working records writer foreign (root.make_directories [] parts.dropLast) charged tree s)
  · apply hopen.mono (fun _ => id)
    · exact fun _ s hs => ⟨hs.2, hs.1⟩
    · rintro e s ⟨k, hs⟩
      apply hs.still.publication_left
      exact ⟨parts.dropLast.take k, Or.inr ⟨parts, hparts, List.take_prefix _ _⟩, rfl⟩
  intro _
  apply Contract.assume
  intro habove
  apply Contract.bind (Q := fun _ =>
    Working records writer foreign (root.make_directories [] parts.dropLast) charged tree)
  · apply contract_check_estimated_space.mono (fun _ => id) (fun _ _ hs => hs.1)
    exact fun _ s hs => hs.still.publication_left hmade
  intro _
  apply Contract.bind (Q := fun _ =>
    Working records writer foreign (root.make_directories [] parts.dropLast) charged tree)
  · exact contract_inspect fun _ _ s hs => hs.still.publication_left hmade
  intro _
  apply Contract.bind (Q := fun _ => MovedAway records writer foreign .marked root path tree)
  · apply (contract_publish_directory hparts rfl habove).mono (fun _ => id) fun _ _ => id
    exact fun _ s hs => hs.publication_left hmade
  intro _
  apply Contract.bind (Q := fun _ => MovedAway records writer foreign .marked root path tree)
  · apply contract_atomically
    · exact fun s hs => ⟨hs.layout, hs.moved⟩
    · exact fun hfault => absurd rfl hfault
  intro _
  exact contract_inspect fun _ _ s hs => hs.publication_left

/-- A publication returns when the whole stage is at its destination and the marker is gone. -/
lemma contract_publish {call : PublishCall} {path : String} :
    Contract (Working records writer foreign root charged tree) (publish writer call path)
      (fun _ => MovedAway records writer foreign .nothing root path tree)
      fun _ => PublicationLeft records writer foreign root path tree := by
  apply contract_read_bind
  intro before hbefore
  have hopen : raise_if (before.locked = false ∨ before.published = true) storage_failure
      = .ok () := by
    rw [raise_if_eq_ok, hbefore.locked, hbefore.unpublished]
    simp
  apply contract_attempt_bind hopen
  apply Contract.strengthen (P := Working records writer foreign root charged tree)
  · apply Contract.bind (Q := fun parts s => relative_parts path = some parts
      ∧ Working records writer foreign root charged tree s)
    · apply contract_attempt
      · exact fun parts hparts s hs => ⟨path_parts_eq_ok hparts, hs⟩
      · exact fun _ _ s hs => hs.still.publication_left unmoved_refl
    intro parts
    apply Contract.assume
    intro hparts
    apply contract_storage_errors
    apply (contract_move_stage hparts).bind
    intro _
    apply contract_read_bind
    intro s hs
    have hmarker : raise_if ((s.staging.get? writer.run.marker).isNone = true) WriterException.os_error
        = .ok () := by
      rw [raise_if_eq_ok, hs.layout.marker]
      simp [StageLife.marker_entry]
    apply contract_attempt_bind hmarker
    apply Contract.bind (Q := fun _ => MovedAway records writer foreign .nothing root path tree)
    · apply contract_atomically
      · rintro t rfl
        exact ⟨hs.layout.erase_marker rfl, hs.moved⟩
      · rintro _ e t rfl
        exact hs.publication_left
    intro _
    apply Contract.bind (Q := fun _ => MovedAway records writer foreign .nothing root path tree)
    · exact contract_inspect fun _ _ s hs => hs.publication_left
    · exact fun _ => .pure fun s hs => hs
  · rintro t rfl
    exact hbefore

/-! ### Sessions -/

/-- What a session leaves of its output root when it returns. -/
def Delivered (session : WriterSession) (root root' : FileTree) : Prop :=
  match session.publication with
  | none => root' = root
  | some (_, path) => Moved root path (staged_tree session.actions) root'

/-- What a session leaves of its output root when it stops. -/
def Interrupted (session : WriterSession) (root root' : FileTree) : Prop :=
  root' = root ∨ ∃ call path, session.publication = some (call, path)
    ∧ (Unmoved root path root' ∨ Moved root path (staged_tree session.actions) root')

variable {session : WriterSession} {root' : FileTree}

lemma Delivered.interrupted (h : Delivered session root root') : Interrupted session root root' := by
  rw [Delivered] at h
  cases hpublication : session.publication with
  | none =>
    rw [hpublication] at h
    exact Or.inl h
  | some publication =>
    rw [hpublication] at h
    exact Or.inr ⟨publication.1, publication.2, hpublication, Or.inr h⟩

/-- What a session that is through its actions has put into its stage. -/
structure Content (session : WriterSession) (charged : Prop) : Prop where
  budget : charged →
    (staged_tree session.actions).HoldsAtMost session.writer.maximum_prepared_bytes
  files : (∀ action ∈ session.actions, action.Plain) →
    Wrote session.actions .empty (staged_tree session.actions)

/-- The stage, or what is left of it, when the body of a session has returned. -/
structure BodyDone (records : OwnerRecords) (foreign : Dict StagedEntry) (session : WriterSession)
    (root : FileTree) (charged : Prop) (root' : FileTree) (s : WriterState) : Prop where
  delivered : Delivered session root root'
  root : s.root = root'
  life : ∃ life, life.Leavable ∧ Layout records session.writer.run foreign life s.staging
  content : Content session charged

/-- An output root as a session may leave it when it stops. -/
def Stopped (records : OwnerRecords) (foreign : Dict StagedEntry) (session : WriterSession)
    (root : FileTree) (s : WriterState) : Prop :=
  ∃ root', Interrupted session root root' ∧ Left records foreign root' s

lemma PublicationLeft.stopped {call : PublishCall} {path : String}
    (h : PublicationLeft records session.writer foreign root path (staged_tree session.actions) s)
    (hpublication : session.publication = some (call, path))
    (hfresh : foreign.get? session.writer.run.text = none) :
    Stopped records foreign session root s := by
  rcases h with ⟨root', charged, hunmoved, hworking⟩ | ⟨life, haway⟩
  · exact ⟨root', Or.inr ⟨call, path, hpublication, Or.inl hunmoved⟩, hworking.left hfresh⟩
  · exact ⟨s.root, Or.inr ⟨call, path, hpublication, Or.inr haway.moved⟩, rfl, session.writer.run,
      life, hfresh, haway.layout⟩

/-- The body of a session: its actions, and its publication. -/
lemma contract_body (hfresh : foreign.get? session.writer.run.text = none)
    (hcharged : charged → ∀ action ∈ session.actions, action.Charged) :
    Contract (Working records session.writer foreign root charged .empty)
      (do
        run_actions session.writer session.actions
        run_publication session.writer session.publication)
      (fun _ s => ∃ root', BodyDone records foreign session root charged root' s)
      fun _ => Stopped records foreign session root := by
  apply Contract.bind (Q := fun _ s => Content session charged
    ∧ Working records session.writer foreign root charged (staged_tree session.actions) s)
  · apply (contract_run_actions hcharged).mono (fun _ => id)
    · rintro _ s ⟨hfiles, hs⟩
      exact ⟨⟨fun h => (hs.budget h).mono hs.affordable, hfiles⟩, hs⟩
    · exact fun _ s hs => ⟨root, Or.inl rfl, hs.left hfresh⟩
  intro _
  apply Contract.assume
  intro hcontent
  cases hpublication : session.publication with
  | none =>
    apply Contract.pure
    intro s hs
    refine ⟨root, ?_, hs.root, ⟨.staged _, trivial, hs.layout⟩, hcontent⟩
    rw [Delivered, hpublication]
  | some publication =>
    obtain ⟨call, path⟩ := publication
    apply Contract.bind (Q := fun _ => MovedAway records session.writer foreign .nothing root path
      (staged_tree session.actions))
    · apply contract_publish.mono (fun _ => id) fun _ _ => id
      exact fun _ s hs => hs.stopped hpublication hfresh
    · intro _
      apply Contract.pure
      intro s hs
      refine ⟨s.root, ?_, rfl, ⟨.nothing, trivial, hs.layout⟩, hcontent⟩
      rw [Delivered, hpublication]
      exact hs.moved

/-- What a session that returns leaves. -/
structure Returned (records : OwnerRecords) (foreign : Dict StagedEntry) (session : WriterSession)
    (root : FileTree) (charged : Prop) (s : WriterState) : Prop where
  delivered : Delivered session root s.root
  left : Left records foreign s.root s
  clean : session.leaving = {} → s.staging = foreign
  content : Content session charged

lemma contract_exit_returned (hforeign : Unmarked foreign)
    (hfresh : foreign.get? session.writer.run.text = none) :
    Contract (BodyDone records foreign session root charged root')
      (exit records session.writer session.leaving)
      (fun _ => Returned records foreign session root charged)
      fun _ => Stopped records foreign session root := by
  by_cases hquiet : session.leaving = {}
  · apply Contract.from_each
    intro before hbefore
    rw [hquiet]
    apply (@contract_quiet_exit records session.writer foreign root' hforeign hfresh).mono
    · rintro s rfl
      exact ⟨hbefore.root, hbefore.life⟩
    · rintro _ s ⟨hroot, hstaging⟩
      refine ⟨hroot ▸ hbefore.delivered, ⟨rfl, session.writer.run, .nothing, hfresh, ?_⟩,
        fun _ => hstaging, hbefore.content⟩
      rw [hstaging]
      exact layout_nothing hforeign hfresh
    · exact fun _ _ h => h.elim
  · apply Contract.from_each
    intro before hbefore
    obtain ⟨life, -, hlayout⟩ := hbefore.life
    apply (@contract_exit records session.writer foreign root' session.leaving hforeign).mono
    · rintro s rfl
      exact ⟨hbefore.root, session.writer.run, life, hfresh, hlayout⟩
    · intro _ s hs
      have hroot : s.root = root' := hs.1
      refine ⟨hroot ▸ hbefore.delivered, ⟨rfl, hs.2⟩, fun h => absurd h hquiet, hbefore.content⟩
    · exact fun _ s hs => ⟨root', hbefore.delivered.interrupted, hs⟩

lemma contract_exit_stopped (hforeign : Unmarked foreign) :
    Contract (Stopped records foreign session root)
      (exit records session.writer session.leaving)
      (fun _ => Stopped records foreign session root)
      fun _ => Stopped records foreign session root := by
  apply Contract.exists_pre
  intro root'
  apply Contract.assume
  intro hroot
  apply (contract_exit hforeign).mono (fun _ => id)
  · exact fun _ s hs => ⟨root', hroot, hs⟩
  · exact fun _ s hs => ⟨root', hroot, hs⟩

/-- A session from whatever an earlier one has left. -/
theorem contract_session (hforeign : Unmarked foreign)
    (hfresh : foreign.get? session.writer.run.text = none)
    (hcharged : charged → ∀ action ∈ session.actions, action.Charged) :
    Contract
      (fun s => Left records foreign root s ∧ s.authorized_bytes = 0 ∧ s.published = false)
      (session.program records)
      (fun _ => Returned records foreign session root charged)
      fun _ => Stopped records foreign session root := by
  apply Contract.bind (Q := fun _ =>
    Working records session.writer foreign root charged .empty)
  · apply (contract_enter hforeign hfresh).mono (fun _ => id) fun _ _ => id
    exact fun _ s hs => ⟨root, Or.inl rfl, hs.2⟩
  intro _
  apply contract_finally_do (contract_body hfresh hcharged)
  · intro _
    apply Contract.exists_pre
    exact fun _ => contract_exit_returned hforeign hfresh
  · exact fun _ => contract_exit_stopped hforeign
  · exact fun s hs => hs

end DatasetWriter
end StegoLab

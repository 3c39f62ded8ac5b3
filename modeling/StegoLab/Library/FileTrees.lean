import Mathlib.Algebra.BigOperators.Group.List.Lemmas
import Mathlib.Algebra.GroupWithZero.Nat
import Mathlib.Algebra.Order.BigOperators.Group.List
import Mathlib.Algebra.Order.Group.Nat
import Mathlib.Data.List.Infix
import Mathlib.Data.List.Nodup

/-!
# Directory trees

A tree of files and directories below a root. Whatever stands in a tree stands in a directory of
that tree, so nothing can be placed below a file or below a missing directory.
-/

/-- One entry of a directory tree; a link or a device is neither file nor directory. -/
inductive FileNode where
  | file (data : List UInt8)
  | directory
  | other
  deriving DecidableEq

/-- The bytes of a file. -/
def FileNode.size : FileNode → ℕ
  | .file data => data.length
  | .directory => 0
  | .other => 0

/-- What stands at each path below a root directory. -/
structure FileTree where
  node : List String → Option FileNode
  root : node [] = some .directory
  closed : ∀ path, node path ≠ none → node path.dropLast = some .directory

namespace FileTree

variable {tree tree' tree'' content : FileTree} {path p q : List String} {entry : FileNode}

@[ext] lemma ext_node (h : ∀ p, tree.node p = tree'.node p) : tree = tree' := by
  cases tree with
  | mk node _ _ =>
    cases tree' with
    | mk node' _ _ =>
      obtain rfl : node = node' := funext h
      rfl

lemma dropLast_ne {p : List String} (h : p ≠ []) : p.dropLast ≠ p := by
  intro heq
  have hlength := congrArg List.length heq
  rw [List.length_dropLast] at hlength
  have hpos := List.length_pos_of_ne_nil h
  omega

/-! ### Missing entries -/

/-- Whatever stands above an entry is a directory. -/
lemma directory_above (hp : p <+: q) (hne : p ≠ q) (hq : tree.node q ≠ none) :
    tree.node p = some .directory := by
  obtain ⟨rest, rfl⟩ := hp
  induction rest using List.reverseRecOn with
  | nil => exact absurd (List.append_nil p).symm hne
  | append_singleton rest name ih =>
    have hparent := tree.closed _ hq
    rw [← List.append_assoc, List.dropLast_concat] at hparent
    by_cases hrest : rest = []
    · rw [hrest, List.append_nil] at hparent
      exact hparent
    · apply ih
      · simp [hrest]
      · simp [hparent]

/-- Nothing stands below a missing entry. -/
lemma none_below (hp : p <+: q) (h : tree.node p = none) : tree.node q = none := by
  by_contra hq
  by_cases hne : p = q
  · exact hq (hne ▸ h)
  · have hdirectory := directory_above hp hne hq
    rw [h] at hdirectory
    exact absurd hdirectory (by simp)

/-! ### The empty tree -/

def empty : FileTree where
  node p := if p = [] then some .directory else none
  root := if_pos rfl
  closed path h := by
    have hpath : path = [] := by
      by_contra hne
      exact h (if_neg hne)
    rw [hpath]
    rfl

instance : Inhabited FileTree := ⟨empty⟩

lemma node_empty_of_ne (h : p ≠ []) : empty.node p = none := if_neg h

/-! ### Placing entries -/

/-- A new entry of a directory, or another content of a file; a directory stays one. -/
def Placeable (tree : FileTree) (path : List String) : Prop :=
  path ≠ [] ∧ tree.node path.dropLast = some .directory ∧ tree.node path ≠ some .directory

instance : Decidable (tree.Placeable path) := inferInstanceAs (Decidable (_ ∧ _ ∧ _))

/-- Put an entry at a path, where that is possible. -/
def place (tree : FileTree) (path : List String) (entry : FileNode) : FileTree where
  node p := if tree.Placeable path ∧ p = path then some entry else tree.node p
  root := by
    rw [if_neg]
    · exact tree.root
    · rintro ⟨h, hnil⟩
      exact h.1 hnil.symm
  closed p h := by
    by_cases hplace : tree.Placeable path ∧ p = path
    · obtain ⟨hplaceable, rfl⟩ := hplace
      rw [if_neg fun hparent => dropLast_ne hplaceable.1 hparent.2]
      exact hplaceable.2.1
    · rw [if_neg hplace] at h
      have hparent := tree.closed p h
      rw [if_neg]
      · exact hparent
      · rintro ⟨hplaceable, heq⟩
        exact hplaceable.2.2 (heq ▸ hparent)

lemma node_place_of_ne (h : p ≠ path) : (tree.place path entry).node p = tree.node p :=
  if_neg fun hp => h hp.2

lemma node_place_self (h : tree.Placeable path) :
    (tree.place path entry).node path = some entry :=
  if_pos ⟨h, rfl⟩

lemma place_of_not (h : ¬ tree.Placeable path) : tree.place path entry = tree := by
  apply ext_node
  intro p
  exact if_neg fun hp => h hp.1

/-- `mkdir`, where a parent directory is there and nothing stands in the way. -/
def make_directory (tree : FileTree) (path : List String) : FileTree :=
  if tree.node path = none then tree.place path .directory else tree

/-- `mkdir` for one part after another. -/
def make_directories (tree : FileTree) (above : List String) : List String → FileTree
  | [] => tree
  | part :: rest => (tree.make_directory (above ++ [part])).make_directories (above ++ [part]) rest

/-! ### Removing entries -/

/-- What is left when some entries are gone, with all below them. -/
def restrict (tree : FileTree) (kept : List String → Bool) : FileTree where
  node p := if p.inits.all fun q => q = [] || kept q then tree.node p else none
  root := tree.root
  closed path h := by
    by_cases hall : path.inits.all fun q => q = [] || kept q
    · rw [if_pos hall] at h
      have habove : path.dropLast.inits.all fun q => q = [] || kept q := by
        rw [List.all_eq_true] at hall ⊢
        intro q hq
        apply hall
        rw [List.mem_inits] at hq ⊢
        exact hq.trans (List.dropLast_prefix path)
      rw [if_pos habove]
      exact tree.closed path h
    · exact absurd (if_neg hall) h

/-- The removal of a file. -/
def remove (tree : FileTree) (path : List String) : FileTree :=
  tree.restrict fun q => q ≠ path

/-! ### Moving a tree -/

/-- A place where a directory can be moved to without replacing anything. -/
def Vacant (tree : FileTree) (path : List String) : Prop :=
  path ≠ [] ∧ tree.node path.dropLast = some .directory ∧ tree.node path = none

instance : Decidable (tree.Vacant path) := inferInstanceAs (Decidable (_ ∧ _ ∧ _))

/-- Move a whole directory to a path, where that is vacant. -/
def graft (tree : FileTree) (path : List String) (content : FileTree) : FileTree where
  node p := if tree.Vacant path ∧ path <+: p then content.node (p.drop path.length)
    else tree.node p
  root := by
    rw [if_neg]
    · exact tree.root
    · rintro ⟨h, hstart⟩
      exact h.1 (List.prefix_nil.mp hstart)
  closed p h := by
    by_cases hvacant : tree.Vacant path ∧ path <+: p
    · obtain ⟨hvacant, rest, rfl⟩ := hvacant
      rw [if_pos ⟨hvacant, List.prefix_append path rest⟩, List.drop_left] at h
      by_cases hrest : rest = []
      · rw [hrest, List.append_nil, if_neg]
        · exact hvacant.2.1
        · rintro ⟨-, hstart⟩
          exact dropLast_ne hvacant.1 (hstart.eq_of_length_le (by simp)).symm
      · rw [List.dropLast_append_of_ne_nil hrest,
          if_pos ⟨hvacant, List.prefix_append path _⟩, List.drop_left]
        exact content.closed rest h
    · rw [if_neg hvacant] at h
      rw [if_neg]
      · exact tree.closed p h
      · rintro ⟨hplace, hstart⟩
        exact hvacant ⟨hplace, hstart.trans (List.dropLast_prefix p)⟩

lemma node_graft (h : tree.Vacant path) :
    (tree.graft path content).node (path ++ p) = content.node p := by
  change (if tree.Vacant path ∧ path <+: path ++ p then _ else _) = _
  rw [if_pos ⟨h, List.prefix_append path p⟩, List.drop_left]

/-! ### What is kept -/

/-- Every entry of the first tree stands in the second as it was. -/
def Extends (tree tree' : FileTree) : Prop :=
  ∀ p, tree.node p ≠ none → tree'.node p = tree.node p

lemma Extends.refl (tree : FileTree) : Extends tree tree := fun _ _ => rfl

lemma Extends.trans (h : Extends tree tree') (h' : Extends tree' tree'') :
    Extends tree tree'' := by
  intro p hp
  have hkept := h p hp
  exact (h' p (hkept ▸ hp)).trans hkept

lemma Extends.directory (h : Extends tree tree') (hp : tree.node p = some .directory) :
    tree'.node p = some .directory :=
  (h p (by simp [hp])).trans hp

lemma extends_place (h : tree.node path = none) : Extends tree (tree.place path entry) := by
  intro p hp
  apply node_place_of_ne
  rintro rfl
  exact hp h

lemma extends_make_directory : Extends tree (tree.make_directory path) := by
  rw [make_directory]
  split_ifs with h
  · exact extends_place h
  · exact Extends.refl tree

lemma extends_make_directories {above parts : List String} :
    Extends tree (tree.make_directories above parts) := by
  induction parts generalizing tree above with
  | nil => exact Extends.refl tree
  | cons part rest ih => exact extends_make_directory.trans ih

/-- A vacant place has nothing below it either. -/
lemma extends_graft : Extends tree (tree.graft path content) := by
  intro p hp
  apply if_neg
  rintro ⟨hvacant, hstart⟩
  exact hp (none_below hstart hvacant.2.2)

/-! ### New directories -/

lemma node_make_directory (h : (tree.make_directory path).node p ≠ tree.node p) :
    p = path ∧ (tree.make_directory path).node p = some .directory := by
  rw [make_directory] at h ⊢
  split_ifs at h ⊢ with hnone
  · have hp : p = path := by
      by_contra hne
      exact h (node_place_of_ne hne)
    subst hp
    by_cases hplace : tree.Placeable p
    · exact ⟨rfl, node_place_self hplace⟩
    · exact absurd (congrArg (fun tree => FileTree.node tree p) (place_of_not hplace)) h
  · exact absurd rfl h

/-- Whatever is new is a directory on the way. -/
lemma node_make_directories {above parts : List String}
    (h : (tree.make_directories above parts).node p ≠ tree.node p) :
    p <+: above ++ parts ∧ (tree.make_directories above parts).node p = some .directory := by
  induction parts generalizing tree above with
  | nil => exact absurd rfl h
  | cons part rest ih =>
    have happend : above ++ [part] ++ rest = above ++ part :: rest := by simp
    by_cases hfirst : (tree.make_directory (above ++ [part])).node p = tree.node p
    · obtain ⟨hstart, hnode⟩ := ih (hfirst.symm ▸ h)
      exact ⟨happend ▸ hstart, hnode⟩
    · obtain ⟨rfl, hnode⟩ := node_make_directory hfirst
      have hkept : Extends (tree.make_directory (above ++ [part]))
          (tree.make_directories above (part :: rest)) := extends_make_directories
      exact ⟨happend ▸ List.prefix_append _ rest, hkept.directory hnode⟩

/-! ### Sizes -/

/-- The bytes of the entry at a path. -/
def size (tree : FileTree) (path : List String) : ℕ :=
  match tree.node path with
  | none => 0
  | some entry => entry.size

/-- All files together hold at most so many bytes. -/
def HoldsAtMost (tree : FileTree) (bytes : ℕ) : Prop :=
  ∀ paths : List (List String), paths.Nodup → (paths.map tree.size).sum ≤ bytes

lemma size_eq_zero (h : tree.node p = none ∨ tree.node p = some .directory) : tree.size p = 0 := by
  rcases h with h | h
  · simp [size, h]
  · simp [size, h, FileNode.size]

lemma holdsAtMost_empty : empty.HoldsAtMost 0 := by
  intro paths _
  apply Nat.le_of_eq
  apply List.sum_eq_zero
  intro n hn
  obtain ⟨p, -, rfl⟩ := List.mem_map.mp hn
  apply size_eq_zero
  by_cases hp : p = []
  · exact Or.inr (hp ▸ empty.root)
  · exact Or.inl (node_empty_of_ne hp)

/-- One entry grows, and no other. -/
lemma HoldsAtMost.grow {bytes more : ℕ} (h : tree.HoldsAtMost bytes)
    (hself : tree'.size path ≤ tree.size path + more)
    (hother : ∀ p, p ≠ path → tree'.size p ≤ tree.size p) : tree'.HoldsAtMost (bytes + more) := by
  intro paths hnodup
  by_cases hmem : path ∈ paths
  · have hperm := List.perm_cons_erase hmem
    have hrest : ((paths.erase path).map tree'.size).sum
        ≤ ((paths.erase path).map tree.size).sum := by
      apply List.sum_le_sum
      intro p hp
      exact hother p ((List.Nodup.mem_erase_iff hnodup).mp hp).1
    have hsum := h paths hnodup
    rw [(hperm.map tree.size).sum_eq, List.map_cons, List.sum_cons] at hsum
    rw [(hperm.map tree'.size).sum_eq, List.map_cons, List.sum_cons]
    omega
  · have hrest : (paths.map tree'.size).sum ≤ (paths.map tree.size).sum := by
      apply List.sum_le_sum
      intro p hp
      apply hother
      rintro rfl
      exact hmem hp
    have hsum := h paths hnodup
    omega

lemma HoldsAtMost.mono {bytes bytes' : ℕ} (h : tree.HoldsAtMost bytes) (hle : bytes ≤ bytes') :
    tree.HoldsAtMost bytes' :=
  fun paths hnodup => (h paths hnodup).trans hle

/-- A tree no part of which is larger. -/
lemma HoldsAtMost.shrink {bytes : ℕ} (h : tree.HoldsAtMost bytes)
    (hle : ∀ p, tree'.size p ≤ tree.size p) : tree'.HoldsAtMost bytes := by
  have hroot : tree'.size [] ≤ tree.size [] + 0 := hle []
  exact h.grow hroot fun p _ => hle p

lemma size_make_directory : (tree.make_directory path).size p ≤ tree.size p := by
  by_cases h : (tree.make_directory path).node p = tree.node p
  · rw [size, size, h]
  · obtain ⟨-, hnode⟩ := node_make_directory h
    rw [size_eq_zero (Or.inr hnode)]
    exact Nat.zero_le _

end FileTree

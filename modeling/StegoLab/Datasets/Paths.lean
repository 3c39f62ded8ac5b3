import StegoLab.Datasets.Preparation

/-!
# Path gates

The paths of valid records and the paths that can be opened are the same.
-/

namespace StegoLab

variable {path : String} {parts : List String}

/-! ### Components -/

/-- Joining the components of a path gives it back. -/
lemma intercalate_path_components : String.intercalate "/" (path_components path) = path := by
  apply String.toList_inj.mp
  have hlists : (path_components path).map String.toList = path.toList.splitOn '/' := by
    simp [path_components, Function.comp_def]
  rw [String.toList_intercalate, hlists]
  exact List.intercalate_splitOn '/'

/-- Parts without a separator are the components of the path that they make. -/
lemma path_components_intercalate (hparts : ∀ part ∈ parts, '/' ∉ part.toList) (h : parts ≠ []) :
    path_components (String.intercalate "/" parts) = parts := by
  have hlists : ∀ part ∈ parts.map String.toList, '/' ∉ part := by
    intro part hpart
    obtain ⟨text, htext, rfl⟩ := List.mem_map.mp hpart
    exact hparts text htext
  have hsplit := List.splitOn_intercalate '/' hlists (by simpa using h)
  have hseparator : "/".toList = ['/'] := by decide
  rw [path_components, String.toList_intercalate, hseparator, hsplit, List.map_map]
  simp [Function.comp_def]

/-- The pieces between separators contain none. -/
lemma not_mem_of_mem_splitOn {text piece : List Char} (h : piece ∈ text.splitOn '/') :
    '/' ∉ piece := by
  induction text generalizing piece with
  | nil =>
    rw [List.splitOn_nil, List.mem_singleton] at h
    simp [h]
  | cons c rest ih =>
    rw [List.splitOn_cons_eq_if_modifyHead] at h
    split_ifs at h with hc
    · rcases List.mem_cons.mp h with rfl | hrest
      · simp
      · exact ih hrest
    · have hne : '/' ≠ c := fun heq => hc (beq_iff_eq.mpr heq.symm)
      cases hsplit : rest.splitOn '/' with
      | nil => simp [hsplit] at h
      | cons first others =>
        rw [hsplit, List.modifyHead_cons, List.mem_cons] at h
        rcases h with rfl | hothers
        · rw [List.mem_cons, not_or]
          exact ⟨hne, ih (hsplit ▸ List.mem_cons_self)⟩
        · exact ih (hsplit ▸ List.mem_cons_of_mem _ hothers)

lemma not_mem_path_component {part : String} (h : part ∈ path_components path) :
    '/' ∉ part.toList := by
  obtain ⟨text, htext, rfl⟩ := List.mem_map.mp h
  rw [String.toList_ofList]
  exact not_mem_of_mem_splitOn htext

/-! ### Relative paths -/

/-- A path whose first component is empty is empty or starts with a separator. -/
lemma path_components_ne_root {second : String} {rest : List String}
    (hhead : path.toList.head? ≠ some '/') : path_components path ≠ "" :: second :: rest := by
  intro hcomponents
  apply hhead
  have hjoined := congrArg (String.intercalate "/") hcomponents
  rw [intercalate_path_components, String.intercalate_cons_cons] at hjoined
  simp [hjoined]

/-- The parts of a path that is not absolute. -/
lemma posix_parts_relative (hhead : path.toList.head? ≠ some '/') :
    posix_parts path = (path_components path).filter fun part => part ≠ "" ∧ part ≠ "." := by
  have hroot {second : String} {rest : List String} :
      path_components path ≠ "" :: second :: rest :=
    path_components_ne_root hhead
  unfold posix_parts
  dsimp only
  split
  · next hcomponents => exact absurd hcomponents hroot
  · next hcomponents => exact absurd hcomponents hroot
  · next hcomponents => exact absurd hcomponents hroot
  · exact List.nil_append _

lemma path_components_ne_nil : path_components path ≠ [] := by
  simp [path_components, List.splitOn_ne_nil]

/-- The characters that both gates allow. -/
lemma allowed_characters_iff : (path.toList.all fun c =>
      decide (c ≠ '\x5c' ∧ c ≠ ':' ∧ 32 ≤ c.toNat ∧ c.toNat ≠ 127)) = true ↔
    ¬ path.toList.any (fun c => c = '\x5c' ∨ c = ':') ∧
      ¬ path.toList.any (fun c => c.toNat < 32 ∨ c.toNat = 127) := by
  simp only [List.all_eq_true, List.any_eq_true, decide_eq_true_eq, not_exists, not_and, not_or,
    not_lt]
  constructor
  · intro hall
    exact ⟨fun c hc => ⟨(hall c hc).1, (hall c hc).2.1⟩, fun c hc => (hall c hc).2.2⟩
  · intro hnone c hc
    exact ⟨(hnone.1 c hc).1, (hnone.1 c hc).2, hnone.2 c hc⟩

lemma relative_path_eq_true : relative_path path = true ↔
    path ≠ "" ∧ path.length ≤ 4096 ∧ path.toList.head? ≠ some '/' ∧
      (∀ part ∈ path_components path, part ≠ "" ∧ part ≠ "." ∧ part ≠ "..") ∧
      ¬ path.toList.any (fun c => c = '\x5c' ∨ c = ':') ∧
      ¬ path.toList.any (fun c => c.toNat < 32 ∨ c.toNat = 127) := by
  rw [relative_path, Bool.and_eq_true, Bool.and_eq_true, allowed_characters_iff, List.all_eq_true]
  simp only [decide_eq_true_eq, and_assoc]

lemma relative_parts_isSome : (relative_parts path).isSome = true ↔
    posix_parts path ≠ [] ∧ path = String.intercalate "/" (posix_parts path) ∧
      (∀ part ∈ posix_parts path, part ≠ "" ∧ part ≠ "." ∧ part ≠ "..") ∧
      path.length ≤ 4096 ∧ path.toList.head? ≠ some '/' ∧
      ¬ path.toList.any (fun c => c = '\x5c' ∨ c = ':') ∧
      ¬ path.toList.any (fun c => c.toNat < 32 ∨ c.toNat = 127) := by
  have hparts : ¬ (posix_parts path).any (fun part => part = "" ∨ part = "." ∨ part = "..") ↔
      ∀ part ∈ posix_parts path, part ≠ "" ∧ part ≠ "." ∧ part ≠ ".." := by
    simp only [List.any_eq_true, decide_eq_true_eq, not_exists, not_and, not_or]
  have hlimit : path.length ≤ 4096 ↔ ¬ path.length > 4096 := not_lt.symm
  rw [relative_parts, ← hparts, hlimit]
  split
  · next hbad =>
    simp only [Option.isSome_none, Bool.false_eq_true, false_iff]
    tauto
  · next hgood =>
    simp only [Option.isSome_some, true_iff]
    tauto

/-- The schema accepts a path exactly when it can be taken apart to be opened. -/
theorem relative_path_iff_relative_parts :
    relative_path path = true ↔ (relative_parts path).isSome = true := by
  rw [relative_path_eq_true, relative_parts_isSome]
  constructor
  · rintro ⟨-, hlength, hhead, hparts, hcharacters⟩
    have hsame : posix_parts path = path_components path := by
      rw [posix_parts_relative hhead, List.filter_eq_self]
      intro part hpart
      obtain ⟨hempty, hdot, -⟩ := hparts part hpart
      exact decide_eq_true ⟨hempty, hdot⟩
    rw [hsame]
    exact ⟨path_components_ne_nil, intercalate_path_components.symm, hparts, hlength, hhead,
      hcharacters⟩
  · rintro ⟨hne, hjoined, hparts, hlength, hhead, hcharacters⟩
    have hslash : ∀ part ∈ posix_parts path, '/' ∉ part.toList := by
      intro part hpart
      rw [posix_parts_relative hhead] at hpart
      exact not_mem_path_component (List.mem_of_mem_filter hpart)
    have hsame : path_components path = posix_parts path := by
      conv_lhs => rw [hjoined]
      exact path_components_intercalate hslash hne
    refine ⟨?_, hlength, hhead, hsame ▸ hparts, hcharacters⟩
    rintro rfl
    exact hne (by decide)

end StegoLab

import Mathlib.Algebra.BigOperators.Group.Finset.Basic
import Mathlib.Algebra.BigOperators.Ring.Finset
import Mathlib.Combinatorics.Enumerative.DoubleCounting
import Mathlib.Tactic.Ring
import Mathlib.Tactic.Tauto
import StegoLab.Images.PixelStream

/-!
# Passes over the pixel grid

Every pixel belongs to one pass, so the passes hold as many pixels as the image.
-/

namespace StegoLab

/-! ### Covered positions -/

/-- The positions of a pass along one side. -/
def Positions (start step position : ℕ) : Prop :=
  start ≤ position ∧ step ∣ position - start

instance (start step position : ℕ) : Decidable (Positions start step position) :=
  inferInstanceAs (Decidable (_ ∧ _))

lemma lt_covered_iff {size start step k : ℕ} (hstep : 0 < step) :
    k < covered size start step ↔ start + k * step < size := by
  have hfloor : (k : ℤ) + 1 ≤ ((size : ℤ) - start + step - 1) / step ↔
      ((k : ℤ) + 1) * step ≤ (size : ℤ) - start + step - 1 :=
    Int.le_ediv_iff_mul_le (by exact_mod_cast hstep)
  have hproduct : ((k : ℤ) + 1) * step = ((k * step : ℕ) : ℤ) + step := by
    push_cast
    ring
  rw [hproduct] at hfloor
  rw [covered]
  constructor
  · intro h
    have hle : (k : ℤ) + 1 ≤ ((size : ℤ) - start + step - 1) / step := by omega
    have := hfloor.mp hle
    omega
  · intro h
    have := hfloor.mpr (by omega)
    omega

lemma card_positions {size start step : ℕ} (hstep : 0 < step) :
    ((Finset.range size).filter (Positions start step)).card = covered size start step := by
  have himage : (Finset.range size).filter (Positions start step)
      = (Finset.range (covered size start step)).image fun k => start + k * step := by
    ext position
    simp only [Finset.mem_filter, Finset.mem_range, Finset.mem_image, lt_covered_iff hstep]
    constructor
    · rintro ⟨hsize, hstart, k, hk⟩
      refine ⟨k, ?_, ?_⟩
      · rw [Nat.mul_comm, ← hk]
        omega
      · rw [Nat.mul_comm, ← hk]
        omega
    · rintro ⟨k, hsize, rfl⟩
      exact ⟨hsize, Nat.le_add_right _ _, k, by rw [Nat.add_sub_cancel_left, Nat.mul_comm]⟩
  rw [himage, Finset.card_image_of_injective, Finset.card_range]
  intro k k' hk
  exact Nat.eq_of_mul_eq_mul_right hstep (Nat.add_left_cancel hk)

/-! ### The partition -/

/-- The pixel belongs to the pass. -/
def Pass.Covers (pass : Pass) (pixel : ℕ × ℕ) : Prop :=
  Positions pass.start_x pass.step_x pixel.1 ∧ Positions pass.start_y pass.step_y pixel.2

instance (pass : Pass) (pixel : ℕ × ℕ) : Decidable (pass.Covers pixel) :=
  inferInstanceAs (Decidable (_ ∧ _))

lemma positions_iff_mod {start step position : ℕ} (h : start < step) :
    Positions start step position ↔ position % step = start := by
  constructor
  · rintro ⟨hstart, k, hk⟩
    have hposition : position = start + step * k := by omega
    rw [hposition, Nat.add_mul_mod_self_left, Nat.mod_eq_of_lt h]
  · rintro rfl
    exact ⟨Nat.mod_le _ _, Nat.dvd_sub_mod _⟩

/-- The offsets of a pass are below its steps, which divide the grid of eight by eight pixels. -/
lemma pass_steps : ∀ interlace, ∀ pass ∈ passes interlace, pass.start_x < pass.step_x ∧
    pass.start_y < pass.step_y ∧ pass.step_x ∣ 8 ∧ pass.step_y ∣ 8 := by
  intro interlace
  unfold passes
  split_ifs
  · decide
  · decide

lemma covers_iff_block {interlace : ℕ} {pass : Pass} (h : pass ∈ passes interlace)
    (pixel : ℕ × ℕ) : pass.Covers pixel ↔ pass.Covers (pixel.1 % 8, pixel.2 % 8) := by
  obtain ⟨hx, hy, hdivides_x, hdivides_y⟩ := pass_steps interlace pass h
  unfold Pass.Covers
  rw [positions_iff_mod hx, positions_iff_mod hx, positions_iff_mod hy, positions_iff_mod hy,
    Nat.mod_mod_of_dvd _ hdivides_x, Nat.mod_mod_of_dvd _ hdivides_y]

/-- One block of the grid, pixel by pixel. -/
lemma block_partition : ∀ whole : Bool, ∀ x < 8, ∀ y < 8,
    ((if whole then WHOLE_GRID else ADAM7).filter fun pass => pass.Covers (x, y)).length = 1 := by
  decide

lemma filter_covers (interlace : ℕ) (pixel : ℕ × ℕ) :
    ((passes interlace).filter fun pass => pass.Covers pixel).length = 1 := by
  have hblock : ((passes interlace).filter fun pass => pass.Covers (pixel.1 % 8, pixel.2 % 8)).length
      = 1 := by
    have h := block_partition (decide (interlace = 0)) (pixel.1 % 8) (Nat.mod_lt _ (by decide))
      (pixel.2 % 8) (Nat.mod_lt _ (by decide))
    simpa only [passes, decide_eq_true_eq] using h
  rw [← hblock]
  congr 1
  apply List.filter_congr
  intro pass hpass
  exact decide_eq_decide.mpr (covers_iff_block hpass pixel)

/-- Every pixel belongs to exactly one pass. -/
theorem existsUnique_pass (interlace : ℕ) (pixel : ℕ × ℕ) :
    ∃! pass, pass ∈ passes interlace ∧ pass.Covers pixel := by
  obtain ⟨pass, hpass⟩ := List.length_eq_one_iff.mp (filter_covers interlace pixel)
  have hmem : ∀ other, other ∈ passes interlace ∧ other.Covers pixel ↔ other = pass := by
    intro other
    rw [← List.mem_singleton, ← hpass, List.mem_filter, decide_eq_true_eq]
  exact ⟨pass, (hmem pass).mpr rfl, fun other hother => (hmem other).mp hother⟩

/-! ### The pixel budget -/

variable (width height channels interlace : ℕ)

lemma card_covers {pass : Pass} (h : pass ∈ passes interlace) :
    ((Finset.range width ×ˢ Finset.range height).filter pass.Covers).card
      = pass.width width * pass.height height := by
  obtain ⟨hx, hy, _⟩ := pass_steps interlace pass h
  have hproduct : (Finset.range width ×ˢ Finset.range height).filter pass.Covers
      = ((Finset.range width).filter (Positions pass.start_x pass.step_x)) ×ˢ
        ((Finset.range height).filter (Positions pass.start_y pass.step_y)) := by
    ext ⟨x, y⟩
    simp only [Finset.mem_filter, Finset.mem_product, Pass.Covers]
    tauto
  rw [hproduct, Finset.card_product, card_positions (by omega), card_positions (by omega)]
  rfl

lemma nodup_passes : (passes interlace).Nodup := by
  unfold passes
  split_ifs
  · decide
  · decide

/-- The passes hold all the pixels. -/
lemma sum_pixels :
    ((passes interlace).map fun pass => pass.width width * pass.height height).sum
      = width * height := by
  set grid := Finset.range width ×ˢ Finset.range height
  have hone : ∀ pixel ∈ grid, ((passes interlace).toFinset.filter fun pass => pass.Covers pixel).card
      = 1 := by
    intro pixel _
    have hfilter : ((passes interlace).toFinset.filter fun pass => pass.Covers pixel)
        = ((passes interlace).filter fun pass => pass.Covers pixel).toFinset := by
      ext pass
      simp
    rw [hfilter, List.toFinset_card_of_nodup ((nodup_passes interlace).filter _)]
    exact filter_covers interlace pixel
  calc ((passes interlace).map fun pass => pass.width width * pass.height height).sum
      = ∑ pass ∈ (passes interlace).toFinset, pass.width width * pass.height height :=
        (List.sum_toFinset _ (nodup_passes interlace)).symm
    _ = ∑ pass ∈ (passes interlace).toFinset, (grid.filter pass.Covers).card :=
        Finset.sum_congr rfl fun pass hpass =>
          (card_covers width height interlace (List.mem_toFinset.mp hpass)).symm
    _ = ∑ pixel ∈ grid, ((passes interlace).toFinset.filter fun pass => pass.Covers pixel).card :=
        Finset.sum_card_bipartiteAbove_eq_sum_card_bipartiteBelow Pass.Covers
    _ = ∑ _pixel ∈ grid, 1 := Finset.sum_congr rfl hone
    _ = width * height := by simp [grid]

/-- The rows of the passes that are not empty. -/
def filter_bytes : ℕ :=
  (((passes interlace).filter fun pass => pass.width width ≠ 0 ∧ pass.height height ≠ 0).map
    fun pass => pass.height height).sum

lemma sum_pass_bytes (list : List Pass) :
    list.foldl (fun total pass => total + pass.bytes width height channels) 0
      = (list.map fun pass => pass.width width * pass.height height).sum * channels
        + ((list.filter fun pass => pass.width width ≠ 0 ∧ pass.height height ≠ 0).map
          fun pass => pass.height height).sum := by
  rw [← List.foldl_map (f := fun pass : Pass => pass.bytes width height channels)
    (g := fun total bytes => total + bytes), ← List.sum_eq_foldl]
  induction list with
  | nil => simp
  | cons pass rest ih =>
    rw [List.map_cons, List.sum_cons, ih, List.map_cons, List.sum_cons, List.filter_cons, Pass.bytes]
    by_cases h : pass.width width ≠ 0 ∧ pass.height height ≠ 0
    · rw [if_pos h, if_pos (decide_eq_true h), List.map_cons, List.sum_cons]
      ring
    · have hempty : pass.width width * pass.height height = 0 := by
        rw [Nat.mul_eq_zero]
        tauto
      rw [if_neg h, if_neg (by simpa using h), hempty]
      ring

theorem expected_bytes_eq : expected_bytes width height channels interlace
    = width * height * channels + filter_bytes width height interlace := by
  rw [expected_bytes, sum_pass_bytes, sum_pixels]
  rfl

end StegoLab

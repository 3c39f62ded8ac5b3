import StegoLab.Library.Runs
import StegoLab.Training.PilotSampler

/-!
# Replaying the pilot sampler

What a sampler delivers is one sequence of crops, drawn one after another. How it is cut into
batches, what fails, and what is saved and restored on the way makes no difference.
-/

namespace StegoLab

open Transaction PilotSampler

variable {G : RandomGenerator} {data : PilotData} {seed : ℕ}

/-! ### Drawing -/

/-- One example is drawn: the crop, and the order after it. -/
structure Drawn (data : PilotData) (s : SampleOrder G) (crop : Crop) (t : SampleOrder G) :
    Prop where
  current : current_example data (next_epoch s) = .ok crop.example_
  left : crop.left = (G.randrange (next_epoch s).random (crop.example_.record.width - 256 + 1)).1
  top : crop.top = (G.randrange
    (G.randrange (next_epoch s).random (crop.example_.record.width - 256 + 1)).2
    (crop.example_.record.height - 256 + 1)).1
  after : t = { next_epoch s with
    random := (G.randrange
      (G.randrange (next_epoch s).random (crop.example_.record.width - 256 + 1)).2
      (crop.example_.record.height - 256 + 1)).2
    position := (next_epoch s).position + 1
    consumed := (next_epoch s).consumed + 1 }

/-- Drawing is deterministic. -/
lemma Drawn.unique {s t u : SampleOrder G} {crop other : Crop} (h : Drawn data s crop t)
    (h' : Drawn data s other u) : crop = other ∧ t = u := by
  have hexample : crop.example_ = other.example_ := Except.ok.inj (h.current.symm.trans h'.current)
  have hcrop : crop = other := by
    rcases crop with ⟨example_, left, top⟩
    rcases other with ⟨example', left', top'⟩
    obtain rfl : example_ = example' := hexample
    rw [Crop.mk.injEq]
    exact ⟨rfl, h.left.trans h'.left.symm, h.top.trans h'.top.symm⟩
  subst hcrop
  exact ⟨rfl, h.after.trans h'.after.symm⟩

lemma randrange_ok {size left : ℕ} {s t : SampleOrder G}
    (h : randrange size s = (.ok left, t)) :
    left = (G.randrange s.random (size - 256 + 1)).1 ∧
      t = { s with random := (G.randrange s.random (size - 256 + 1)).2 } := by
  obtain ⟨-, -, h⟩ := lift_bind_ok.mp h
  obtain ⟨_, _, hread, h⟩ := bind_ok.mp h
  obtain ⟨rfl, rfl⟩ := read_ok.mp hread
  obtain ⟨_, _, hwrite, h⟩ := bind_ok.mp h
  obtain rfl := write_ok.mp hwrite
  obtain ⟨hleft, ht⟩ := pure_ok.mp h
  exact ⟨hleft.symm, ht.symm⟩

lemma load_crop_ok {outcome : Except Raised Unit} {example_ : DatasetExample} {left top : ℕ}
    {crop : Crop} (h : load_crop outcome example_ left top = .ok crop) :
    crop = ⟨example_, left, top⟩ := by
  obtain ⟨-, -, h⟩ := bind_eq_ok.mp h
  exact (pure_eq_ok.mp h).symm

lemma next_sample_ok {faults : SampleFaults} {s t : SampleOrder G} {crop : Crop}
    {sample : PilotSample} (h : next_sample data faults s = (.ok (crop, sample), t)) :
    Drawn data s crop t := by
  obtain ⟨-, -, h⟩ := lift_bind_ok.mp h
  obtain ⟨_, _, hread, h⟩ := bind_ok.mp h
  obtain ⟨rfl, rfl⟩ := read_ok.mp hread
  obtain ⟨_, _, hwrite, h⟩ := bind_ok.mp h
  obtain rfl := write_ok.mp hwrite
  obtain ⟨_, _, hread, h⟩ := bind_ok.mp h
  obtain ⟨rfl, rfl⟩ := read_ok.mp hread
  obtain ⟨example_, hcurrent, h⟩ := lift_bind_ok.mp h
  obtain ⟨left, _, hrange, h⟩ := bind_ok.mp h
  obtain ⟨hleft, rfl⟩ := randrange_ok hrange
  obtain ⟨top, _, hrange', h⟩ := bind_ok.mp h
  obtain ⟨htop, rfl⟩ := randrange_ok hrange'
  obtain ⟨crop', hcrop, h⟩ := lift_bind_ok.mp h
  obtain rfl := load_crop_ok hcrop
  obtain ⟨-, -, h⟩ := lift_bind_ok.mp h
  obtain ⟨_, _, hread, h⟩ := bind_ok.mp h
  obtain ⟨rfl, rfl⟩ := read_ok.mp hread
  obtain ⟨_, _, hwrite, h⟩ := bind_ok.mp h
  obtain rfl := write_ok.mp hwrite
  obtain ⟨hresult, rfl⟩ := pure_ok.mp h
  obtain ⟨rfl, -⟩ := Prod.ext_iff.mp hresult
  exact ⟨hcurrent, hleft, htop, rfl⟩

/-- The loop of a batch draws its crops one after another. -/
lemma next_samples_ok {faults : List SampleFaults} {s t : SampleOrder G}
    {taken : List (Crop × PilotSample)} (h : next_samples data faults s = (.ok taken, t)) :
    Run (Drawn data) s (taken.map Prod.fst) t := by
  induction faults generalizing s taken with
  | nil =>
    obtain ⟨rfl, rfl⟩ := pure_ok.mp h
    exact .nil
  | cons faults rest ih =>
    obtain ⟨⟨crop, sample⟩, u, hfirst, h⟩ := bind_ok.mp h
    obtain ⟨others, v, hothers, h⟩ := bind_ok.mp h
    obtain ⟨rfl, rfl⟩ := pure_ok.mp h
    exact .cons (next_sample_ok hfirst) (ih hothers)

/-! ### Epochs -/

/-- The crops of one epoch, of those delivered so far. -/
def epoch_of (data : PilotData) (epoch : ℕ) (delivered : List Crop) : List Crop :=
  (delivered.drop (epoch * data.training_examples.length)).take data.training_examples.length

/-- The examples at some indices. -/
def examples_at (data : PilotData) (indices : List ℕ) : List DatasetExample :=
  indices.filterMap (data.training_examples[·]?)

/-- The order is a permutation, and the counts agree. -/
structure ConsistentOrder (data : PilotData) (s : SampleOrder G) : Prop where
  order : s.order.Perm (List.range data.training_examples.length)
  position : s.position ≤ data.training_examples.length
  consumed : s.consumed = s.epoch * data.training_examples.length + s.position

/-- The crops delivered so far lead to the order: whole epochs deliver every example once, and the
current one what it has used up of the order. -/
structure Replayed (data : PilotData) (delivered : List Crop) (s : SampleOrder G) : Prop where
  consistent : ConsistentOrder data s
  length : delivered.length = s.consumed
  epochs : ∀ epoch < s.epoch,
    ((epoch_of data epoch delivered).map Crop.example_).Perm data.training_examples
  current : (delivered.drop (s.epoch * data.training_examples.length)).map Crop.example_
    = examples_at data (s.order.take s.position)

variable {delivered : List Crop} {s t : SampleOrder G} {crop : Crop}

lemma ConsistentOrder.length (h : ConsistentOrder data s) :
    s.order.length = data.training_examples.length := by
  rw [h.order.length_eq, List.length_range]

lemma filterMap_getElem?_range {α : Type} {items : List α} :
    (List.range items.length).filterMap (items[·]?) = items := by
  induction items with
  | nil => rfl
  | cons item items ih =>
    rw [List.length_cons, List.range_succ_eq_map, List.filterMap_cons, List.filterMap_map]
    exact congrArg (item :: ·) ih

lemma ConsistentOrder.examples (h : ConsistentOrder data s) :
    (examples_at data s.order).Perm data.training_examples := by
  have hperm := h.order.filterMap (data.training_examples[·]?)
  rw [filterMap_getElem?_range] at hperm
  exact hperm

lemma Replayed.starts_epoch (h : Replayed data delivered s) :
    s.epoch * data.training_examples.length ≤ delivered.length := by
  rw [h.length, h.consistent.consumed]
  exact Nat.le_add_right _ _

/-- A whole epoch is not changed by what is delivered after it. -/
lemma epoch_of_append {epoch : ℕ} {others : List Crop}
    (h : (epoch + 1) * data.training_examples.length ≤ delivered.length) :
    epoch_of data epoch (delivered ++ others) = epoch_of data epoch delivered := by
  rw [Nat.add_mul, Nat.one_mul] at h
  rw [epoch_of, epoch_of, List.drop_append_of_le_length (by omega),
    List.take_append_of_le_length (by rw [List.length_drop]; omega)]

lemma replayed_next_epoch (h : Replayed data delivered s) :
    Replayed data delivered (next_epoch s) := by
  unfold next_epoch
  by_cases hend : s.position = s.order.length
  · rw [if_pos hend]
    have hcount := h.consistent.length
    have hconsumed := h.consistent.consumed
    have hlength := h.length
    refine ⟨⟨(G.shuffle_perm _ _).trans h.consistent.order, Nat.zero_le _, ?_⟩, hlength,
      fun epoch hepoch => ?_, ?_⟩
    · rw [hconsumed, hend, hcount, Nat.add_mul, Nat.one_mul, Nat.add_zero]
    · rcases Nat.lt_succ_iff_lt_or_eq.mp hepoch with hepoch | rfl
      · exact h.epochs epoch hepoch
      · rw [epoch_of, List.take_of_length_le, h.current, hend, List.take_length]
        · exact h.consistent.examples
        · rw [List.length_drop]
          omega
    · rw [List.drop_of_length_le]
      · rfl
      · rw [Nat.add_mul, Nat.one_mul]
        omega
  · rw [if_neg hend]
    exact h

lemma next_epoch_position {example_ : DatasetExample}
    (h : current_example data (next_epoch s) = .ok example_) :
    ∃ index, (next_epoch s).order[(next_epoch s).position]? = some index ∧
      data.training_examples[index]? = some example_ := by
  unfold current_example at h
  split at h
  · exact absurd h (by simp)
  · rename_i found hfound
    obtain rfl := Except.ok.inj h
    exact Option.bind_eq_some_iff.mp hfound

/-- Drawing one more crop. -/
lemma replayed_of_drawn (h : Replayed data delivered s) (hdrawn : Drawn data s crop t) :
    Replayed data (delivered ++ [crop]) t := by
  have hnext := replayed_next_epoch h
  obtain ⟨index, hindex, hexample⟩ := next_epoch_position hdrawn.current
  obtain ⟨hposition, -⟩ := List.getElem?_eq_some_iff.mp hindex
  have hstarts := hnext.starts_epoch
  have hlength := hnext.length
  have hconsumed := hnext.consistent.consumed
  rw [hnext.consistent.length] at hposition
  rw [hdrawn.after]
  refine ⟨⟨hnext.consistent.order, hposition, ?_⟩, ?_, fun epoch hepoch => ?_, ?_⟩
  · dsimp only
    omega
  · rw [List.length_append, List.length_singleton, hlength]
  · rw [epoch_of_append]
    · exact hnext.epochs epoch hepoch
    · exact (Nat.mul_le_mul_right _ hepoch).trans hstarts
  · dsimp only
    rw [List.drop_append_of_le_length hstarts, List.map_append, hnext.current, List.take_add_one,
      hindex]
    simp [examples_at, hexample]

/-! ### Snapshots -/

lemma state_dict_ok {sampler : PilotSampler G} {state : PilotSamplerState} :
    sampler.state_dict data seed = .ok state ↔
      (sampler.snapshot data seed).Valid ∧ state = sampler.snapshot data seed := by
  unfold state_dict
  rw [bind_eq_ok]
  constructor
  · rintro ⟨_, hvalid, hstate⟩
    exact ⟨not_not.mp (raise_if_eq_ok.mp hvalid), (pure_eq_ok.mp hstate).symm⟩
  · rintro ⟨hvalid, rfl⟩
    exact ⟨(), raise_if_eq_ok.mpr (not_not.mpr hvalid), rfl⟩

/-- A consistent sampler can be restored from its snapshot into any sampler of its data and seed. -/
lemma load_state_dict_snapshot {sampler : PilotSampler G} {state : PilotSamplerState}
    (h : ConsistentOrder data sampler.toSampleOrder)
    (hstate : sampler.state_dict data seed = .ok state) (other : PilotSampler G) :
    load_state_dict data seed state other = (.ok (), { sampler with last_batch := [] }) := by
  obtain ⟨hvalid, rfl⟩ := state_dict_ok.mp hstate
  have hcompatible : ¬ Incompatible data seed (sampler.snapshot data seed) := by
    have hsorted : sampler.order.insertionSort (· ≤ ·)
        = List.range data.training_examples.length :=
      ((List.perm_insertionSort _ _).trans h.order).eq_of_pairwise'
        (List.pairwise_insertionSort _ _) List.pairwise_le_range
    rintro (h' | h' | h' | h' | h' | h' | h' | h')
    · exact h' hvalid
    · exact h' rfl
    · exact h' rfl
    · exact h' rfl
    · exact h' h.length
    · exact h' hsorted
    · exact absurd h.position (not_le.mpr h')
    · exact h' h.consumed
  unfold load_state_dict
  rw [lift_bind, raise_if, if_neg hcompatible]
  dsimp only
  rw [show G.setstate (sampler.snapshot data seed).random_state = some sampler.random from
    G.setstate_getstate sampler.random]
  rfl

/-! ### Batches -/

lemma on_order_ok {α : Type} {x : Transaction (SampleOrder G) Raised α} {s t : PilotSampler G}
    {a : α} (h : on_order x s = (.ok a, t)) :
    x s.toSampleOrder = (.ok a, t.toSampleOrder) := by
  obtain ⟨houtcome, rfl⟩ := Prod.ext_iff.mp h
  exact Prod.ext houtcome rfl

/-- A batch that is delivered draws its crops. -/
lemma next_batch_ok {faults : BatchFaults} {batch_size : ℤ} {s t : PilotSampler G}
    {crops : List Crop} (h : next_batch data seed faults batch_size s = (.ok crops, t)) :
    Run (Drawn data) s.toSampleOrder crops t.toSampleOrder := by
  obtain ⟨-, -, h⟩ := lift_bind_ok.mp h
  obtain ⟨_, _, hread, h⟩ := bind_ok.mp h
  obtain ⟨rfl, rfl⟩ := read_ok.mp hread
  obtain ⟨previous, -, h⟩ := lift_bind_ok.mp h
  obtain ⟨taken, u, htaken, h⟩ := bind_ok.mp h
  obtain ⟨_, _, hread, h⟩ := bind_ok.mp h
  obtain ⟨rfl, rfl⟩ := read_ok.mp hread
  obtain ⟨_, _, hwrite, h⟩ := bind_ok.mp h
  obtain rfl := write_ok.mp hwrite
  obtain ⟨rfl, rfl⟩ := pure_ok.mp h
  rcases rescue_ok.mp htaken with htaken | ⟨e, v, -, hraised⟩
  · obtain ⟨drawn, v, hdrawn, h⟩ := bind_ok.mp htaken
    obtain ⟨-, -, h⟩ := lift_bind_ok.mp h
    obtain ⟨-, -, h⟩ := lift_bind_ok.mp h
    obtain ⟨rfl, rfl⟩ := pure_ok.mp h
    have hrun := next_samples_ok (on_order_ok hdrawn)
    exact hrun
  · obtain ⟨_, _, -, h⟩ := bind_ok.mp hraised
    obtain ⟨_, _, -, h⟩ := bind_ok.mp h
    obtain ⟨_, _, -, h⟩ := bind_ok.mp h
    obtain ⟨hraised, -⟩ := lift_ok.mp h
    exact absurd hraised (by simp)

/-- A batch that fails leaves a consistent sampler as it was. -/
lemma next_batch_error {faults : BatchFaults} {batch_size : ℤ} {s t : PilotSampler G}
    {e : Raised} (hs : ConsistentOrder data s.toSampleOrder)
    (h : next_batch data seed faults batch_size s = (.error e, t)) : t = s := by
  rcases (readOnly_lift _).bind_cases h with ⟨rfl, -⟩ | ⟨_, -, h⟩
  · rfl
  rcases readOnly_read.bind_cases h with ⟨rfl, -⟩ | ⟨_, hread, h⟩
  · rfl
  obtain ⟨rfl, -⟩ := read_ok.mp hread
  rcases (readOnly_lift _).bind_cases h with ⟨rfl, -⟩ | ⟨previous, hprevious, h⟩
  · rfl
  obtain ⟨hstate, -⟩ := lift_ok.mp hprevious
  rcases bind_error.mp h with h | ⟨taken, u, -, h⟩
  · obtain ⟨e', u, -, h⟩ := rescue_error.mp h
    rw [bind_of_ok (load_state_dict_snapshot hs hstate u)] at h
    exact (congrArg Prod.snd h).symm
  · have hraised : (Except.ok (taken.map Prod.fst) : Except Raised (List Crop)) = .error e :=
      congrArg Prod.fst h
    exact absurd hraised (by simp)

end StegoLab

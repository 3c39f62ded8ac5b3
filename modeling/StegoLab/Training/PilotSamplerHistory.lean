import StegoLab.Training.PilotSamplerProperties

/-!
# The pilot sampler over time

Batches that are delivered or fail, snapshots that are taken, and samplers that are restored from
them, in any order. A history keeps the crops that lead to the sampler as it is.
-/

namespace StegoLab

open Transaction PilotSampler

variable {G : RandomGenerator} {data : PilotData} {seed : ℕ}

/-! ### Histories -/

/-- The live sampler, the crops that lead to it, and the snapshots with the crops before them. -/
structure SamplerHistory (G : RandomGenerator) where
  sampler : PilotSampler G
  delivered : List Crop := []
  saved : List (PilotSamplerState × List Crop) := []

inductive SamplerEvent where
  | batch (faults : BatchFaults) (batch_size : ℤ)
  | save
  | restore (state : PilotSamplerState)

/-- One step. A snapshot is loaded into the live sampler or into a fresh one. -/
inductive SamplerStep (data : PilotData) (seed : ℕ) :
    SamplerHistory G → SamplerEvent → SamplerHistory G → Prop where
  | delivered {h : SamplerHistory G} {faults : BatchFaults} {batch_size : ℤ} {crops : List Crop}
      {t : PilotSampler G}
      (hbatch : next_batch data seed faults batch_size h.sampler = (.ok crops, t)) :
    SamplerStep data seed h (.batch faults batch_size)
      { h with sampler := t, delivered := h.delivered ++ crops }
  | failed {h : SamplerHistory G} {faults : BatchFaults} {batch_size : ℤ} {e : Raised}
      {t : PilotSampler G}
      (hbatch : next_batch data seed faults batch_size h.sampler = (.error e, t)) :
    SamplerStep data seed h (.batch faults batch_size) { h with sampler := t }
  | saved {h : SamplerHistory G} {state : PilotSamplerState}
      (hsave : h.sampler.state_dict data seed = .ok state) :
    SamplerStep data seed h .save { h with saved := h.saved ++ [(state, h.delivered)] }
  | unsaved {h : SamplerHistory G} {e : Raised}
      (hsave : h.sampler.state_dict data seed = .error e) :
    SamplerStep data seed h .save h
  | restored {h : SamplerHistory G} {state : PilotSamplerState} {delivered : List Crop}
      {other t : PilotSampler G} (hsaved : (state, delivered) ∈ h.saved)
      (hother : other = h.sampler ∨ PilotSampler.new G data seed = .ok other)
      (hload : load_state_dict data seed state other = (.ok (), t)) :
    SamplerStep data seed h (.restore state) { h with sampler := t, delivered := delivered }
  | refused {h : SamplerHistory G} {state : PilotSamplerState} {e : Raised} {t : PilotSampler G}
      (hload : load_state_dict data seed state h.sampler = (.error e, t)) :
    SamplerStep data seed h (.restore state) { h with sampler := t }

/-- The histories of a sampler that starts afresh. -/
abbrev SamplerRun (data : PilotData) (seed : ℕ) (start : PilotSampler G)
    (events : List SamplerEvent) (h : SamplerHistory G) : Prop :=
  Run (SamplerStep data seed) { sampler := start } events h

/-! ### The sequence of crops -/

variable {start : PilotSampler G} {h h' : SamplerHistory G} {events events' : List SamplerEvent}

/-- The crops lead to the sampler, and those before a snapshot to what was saved. -/
structure OneSequence (data : PilotData) (seed : ℕ) (start : PilotSampler G)
    (h : SamplerHistory G) : Prop where
  drawn : Run (Drawn data) start.toSampleOrder h.delivered h.sampler.toSampleOrder
  saved : ∀ saved ∈ h.saved, ∃ sampler : PilotSampler G,
    Run (Drawn data) start.toSampleOrder saved.2 sampler.toSampleOrder ∧
      sampler.state_dict data seed = .ok saved.1

lemma replayed_start (hstart : PilotSampler.new G data seed = .ok start) :
    Replayed data [] start.toSampleOrder := by
  obtain ⟨_, -, hstart⟩ := bind_eq_ok.mp hstart
  obtain ⟨_, -, hstart⟩ := bind_eq_ok.mp hstart
  obtain rfl := pure_eq_ok.mp hstart
  refine ⟨⟨G.shuffle_perm _ _, Nat.zero_le _, ?_⟩, rfl, fun epoch hepoch => ?_, ?_⟩
  · change 0 = 0 * _ + 0
    rw [Nat.zero_mul]
  · exact absurd hepoch (Nat.not_lt_zero _)
  · rw [List.drop_nil]
    rfl

lemma replayed_of_run {s t : SampleOrder G} {crops : List Crop} (hs : Replayed data [] s)
    (hrun : Run (Drawn data) s crops t) : Replayed data crops t :=
  hrun.recorded (Replayed data) (fun hpast hdrawn => replayed_of_drawn hpast hdrawn) hs

/-- A snapshot that is refused changes nothing. -/
lemma load_state_dict_error {state : PilotSamplerState} {s t : PilotSampler G} {e : Raised}
    (hload : load_state_dict data seed state s = (.error e, t)) : t = s := by
  rcases (readOnly_lift _).bind_cases hload with ⟨rfl, -⟩ | ⟨_, -, hload⟩
  · rfl
  · cases hset : G.setstate state.random_state with
    | none =>
      rw [hset] at hload
      exact (congrArg Prod.snd hload).symm
    | some generator =>
      rw [hset] at hload
      exact absurd (congrArg Prod.fst hload) (by simp [write])

/-- Every step keeps to the sequence. -/
lemma oneSequence_of_step {event : SamplerEvent}
    (hstart : PilotSampler.new G data seed = .ok start) (hone : OneSequence data seed start h)
    (hstep : SamplerStep data seed h event h') : OneSequence data seed start h' := by
  have hconsistent := (replayed_of_run (replayed_start hstart) hone.drawn).consistent
  cases hstep with
  | delivered hbatch => exact ⟨hone.drawn.append (next_batch_ok hbatch), hone.saved⟩
  | failed hbatch =>
    obtain rfl := next_batch_error hconsistent hbatch
    exact hone
  | saved hsave =>
    refine ⟨hone.drawn, fun saved hsaved => ?_⟩
    rcases List.mem_append.mp hsaved with hsaved | hsaved
    · exact hone.saved saved hsaved
    · obtain rfl := List.mem_singleton.mp hsaved
      exact ⟨h.sampler, hone.drawn, hsave⟩
  | unsaved hsave => exact hone
  | @restored state delivered other t hsaved hother hload =>
    obtain ⟨sampler, hdrawn, hstate⟩ := hone.saved _ hsaved
    have hrestored := load_state_dict_snapshot
      (replayed_of_run (replayed_start hstart) hdrawn).consistent hstate other
    obtain rfl := (Prod.ext_iff.mp (hload.symm.trans hrestored)).2
    exact ⟨hdrawn, hone.saved⟩
  | refused hload =>
    obtain rfl := load_state_dict_error hload
    exact hone

lemma oneSequence_of_run (hstart : PilotSampler.new G data seed = .ok start)
    (hrun : SamplerRun data seed start events h) : OneSequence data seed start h :=
  hrun.invariant (OneSequence data seed start) (fun hone hstep => oneSequence_of_step hstart hone hstep)
    ⟨.nil, fun _ hsaved => absurd hsaved (by simp)⟩

/-! ### Epochs -/

variable {delivered : List Crop} {s : SampleOrder G}

/-- The current epoch delivers the beginning of the order. -/
lemma Replayed.epoch_current (hreplayed : Replayed data delivered s) :
    (epoch_of data s.epoch delivered).map Crop.example_
      = examples_at data (s.order.take s.position) := by
  rw [epoch_of, List.take_of_length_le, hreplayed.current]
  have hlength := hreplayed.length
  have hconsumed := hreplayed.consistent.consumed
  have hposition := hreplayed.consistent.position
  rw [List.length_drop]
  omega

/-- No epoch delivers an example more than once. -/
lemma Replayed.epoch_subperm (hreplayed : Replayed data delivered s) (epoch : ℕ) :
    ((epoch_of data epoch delivered).map Crop.example_).Subperm data.training_examples := by
  rcases lt_trichotomy epoch s.epoch with hepoch | rfl | hepoch
  · exact (hreplayed.epochs epoch hepoch).subperm
  · rw [hreplayed.epoch_current]
    have htaken : (examples_at data (s.order.take s.position)).Sublist
        (examples_at data s.order) := (List.take_sublist _ _).filterMap _
    exact htaken.subperm.trans hreplayed.consistent.examples.subperm
  · have hconsumed := hreplayed.consistent.consumed
    have hposition := hreplayed.consistent.position
    have hstarts := Nat.mul_le_mul_right data.training_examples.length (Nat.succ_le_of_lt hepoch)
    rw [Nat.succ_mul] at hstarts
    rw [epoch_of, List.drop_of_length_le, List.take_nil, List.map_nil]
    · exact List.nil_subperm
    · rw [hreplayed.length]
      omega

/-- A whole epoch delivers every example exactly once. -/
lemma Replayed.whole_epoch (hreplayed : Replayed data delivered s) {epoch : ℕ}
    (hwhole : (epoch + 1) * data.training_examples.length ≤ delivered.length) :
    ((epoch_of data epoch delivered).map Crop.example_).Perm data.training_examples := by
  apply (hreplayed.epoch_subperm epoch).perm_of_length_le
  rw [Nat.succ_mul] at hwhole
  rw [List.length_map, epoch_of, List.length_take, List.length_drop]
  omega

/-! ### Exact replay -/

/-- What a sampler keeps to, whatever happened to it. -/
structure Replays (data : PilotData) (seed : ℕ) (start : PilotSampler G) (h : SamplerHistory G) :
    Prop where
  permutation : h.sampler.order.Perm (List.range data.training_examples.length)
  consumed : h.sampler.consumed
    = h.sampler.epoch * data.training_examples.length + h.sampler.position
  delivered : h.delivered.length = h.sampler.consumed
  /-- Every whole epoch delivers each example exactly once, and no other one more than once. -/
  whole_epoch : ∀ epoch, (epoch + 1) * data.training_examples.length ≤ h.delivered.length →
    ((epoch_of data epoch h.delivered).map Crop.example_).Perm data.training_examples
  any_epoch : ∀ epoch,
    ((epoch_of data epoch h.delivered).map Crop.example_).Subperm data.training_examples
  /-- What is delivered depends only on how much is. -/
  sequence : ∀ {events' : List SamplerEvent} {h' : SamplerHistory G},
    SamplerRun data seed start events' h' → h.delivered.length ≤ h'.delivered.length →
      h.delivered <+: h'.delivered
  /-- A snapshot restores the sampler in a fresh one. -/
  restored : ∀ {state : PilotSamplerState}, h.sampler.state_dict data seed = .ok state →
    load_state_dict data seed state start = (.ok (), { h.sampler with last_batch := [] })
  /-- A batch that raises leaves the sampler as it was. -/
  unchanged : ∀ {faults : BatchFaults} {batch_size : ℤ} {e : Raised} {t : PilotSampler G},
    next_batch data seed faults batch_size h.sampler = (.error e, t) → t = h.sampler

/-- Over all histories of batches, failures, snapshots and restored samplers, a sampler replays
exactly. -/
theorem sampler_replays (hstart : PilotSampler.new G data seed = .ok start)
    (hrun : SamplerRun data seed start events h) : Replays data seed start h := by
  have hone := oneSequence_of_run hstart hrun
  have hreplayed := replayed_of_run (replayed_start hstart) hone.drawn
  exact {
    permutation := hreplayed.consistent.order
    consumed := hreplayed.consistent.consumed
    delivered := hreplayed.length
    whole_epoch := fun _ => hreplayed.whole_epoch
    any_epoch := hreplayed.epoch_subperm
    sequence := fun hrun' hlength => hone.drawn.isPrefix_of_deterministic
      (fun hdrawn hother => hdrawn.unique hother) (oneSequence_of_run hstart hrun').drawn hlength
    restored := fun hstate => load_state_dict_snapshot hreplayed.consistent hstate start
    unchanged := fun hbatch => next_batch_error hreplayed.consistent hbatch }

/-! ### A run -/

/-- A generator that counts its calls, and rotates an order by their number. -/
def counting_generator : RandomGenerator where
  State := ℕ
  seeded seed := seed
  shuffle calls order := (order.rotate calls, calls + 1)
  randrange calls size := (calls % size, calls + 1)
  getstate calls := calls :: List.replicate 624 0
  setstate values := values.head?
  shuffle_perm calls order := List.rotate_perm order calls
  setstate_getstate _ := rfl

/-- A cover of 300 by 400 pixels. -/
def small_cover (name : String) : DatasetExample where
  path := name
  record :=
    { source_path := name, prepared_path := name, source_checksum := "", prepared_checksum := "",
      rgb_checksum := "", source_bytes := 1, prepared_bytes := 1, source_width := 300,
      source_height := 400, width := 300, height := 400, source_format := "PNG",
      source_mode := "RGB", mode := "RGB", orientation := 1, color_policy := "srgb",
      grayscale_converted := false, eligible := true }

def two_covers : PilotData where
  dataset_revision := String.ofList (List.replicate 64 'a')
  selection_checksum := String.ofList (List.replicate 64 'b')
  training_examples := [small_cover "first", small_cover "second"]

/-- The sampler of two covers with seed 1. -/
def two_covers_sampler : PilotSampler counting_generator where
  random := (2 : ℕ)
  order := [1, 0]

/-- A batch that is stopped by the deadline. -/
def stopped_batch : BatchFaults where
  check_pilot_deadline := .error .os_error

def two_covers_crops : List Crop :=
  [⟨small_cover "second", 2, 3⟩, ⟨small_cover "first", 4, 5⟩, ⟨small_cover "second", 7, 8⟩]

/-- A batch that is stopped, and one across the end of an epoch. -/
theorem sampler_replays_two_covers :
    ∃ h : SamplerHistory counting_generator,
      h.delivered.map (fun crop => crop.example_.path) = ["second", "first", "second"] ∧
        Replays two_covers 1 two_covers_sampler h := by
  have hstart : PilotSampler.new counting_generator two_covers (1 : ℕ)
      = .ok two_covers_sampler :=
    bind_eq_ok.mpr ⟨(), raise_if_eq_ok.mpr (by decide +kernel), rfl⟩
  have hstopped : (next_batch two_covers 1 stopped_batch 1 two_covers_sampler).1
      = .error .os_error := by
    decide +kernel
  have hcrops : (next_batch two_covers 1 {} 3 two_covers_sampler).1
      = .ok two_covers_crops := by
    decide +kernel
  obtain ⟨s, hfailed⟩ : ∃ s, next_batch two_covers 1 stopped_batch 1 two_covers_sampler
      = (.error .os_error, s) := ⟨_, Prod.fst_eq_iff.mp hstopped⟩
  obtain ⟨t, hdelivered⟩ : ∃ t, next_batch two_covers 1 {} 3 two_covers_sampler
      = (.ok two_covers_crops, t) := ⟨_, Prod.fst_eq_iff.mp hcrops⟩
  have hreplayed : Replayed two_covers [] two_covers_sampler.toSampleOrder := replayed_start hstart
  have hsame : s = two_covers_sampler := next_batch_error hreplayed.consistent hfailed
  subst hsame
  exact ⟨_, rfl, sampler_replays hstart (.cons (.failed hfailed) (.cons (.delivered hdelivered) .nil))⟩

end StegoLab

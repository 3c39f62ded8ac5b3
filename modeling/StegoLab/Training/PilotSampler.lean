import Mathlib.Data.List.Sort
import StegoLab.Datasets.Preparation
import StegoLab.Library.Transactions

/-!
# The pilot sampler

Shuffled crops of the training examples, one epoch at a time, with snapshots of the consumed
position. A failed batch is rolled back through such a snapshot.
-/

namespace StegoLab

open Transaction

/-! ### The random generator -/

/-- `random.Random`, with `getstate()[1]` and `setstate`, as far as the sampler uses it. -/
structure RandomGenerator where
  State : Type
  seeded : ℕ → State
  shuffle : State → List ℕ → List ℕ × State
  randrange : State → ℕ → ℕ × State
  getstate : State → List ℕ
  setstate : List ℕ → Option State
  shuffle_perm : ∀ random xs, (shuffle random xs).1.Perm xs
  setstate_getstate : ∀ random, setstate (getstate random) = some random

/-! ### Records -/

/-- One eligible unique cover. -/
structure DatasetExample where
  record : DatasetImageRecord
  path : String
  deriving DecidableEq

/-- What the sampler reads of the pilot data. -/
structure PilotData where
  dataset_revision : String
  selection_checksum : String
  training_examples : List DatasetExample

def pilot_data_failure : ApplicationFailure where
  code := "pilot_dataset_invalid"
  message := "The pilot dataset is unavailable or changed. Check its immutable revision "
    ++ "and prepared files; training requires 256-pixel sides and tuning 1,024."
  status_code := 422

/-- Use upstream identity when present and the frozen source path otherwise. -/
def source_identity (record : DatasetImageRecord) : String :=
  match record.source_identity with
  | none => record.source_path
  | some identity => if identity = "" then record.source_path else identity

structure PilotSample where
  source_identity : String
  left : ℕ
  top : ℕ
  deriving DecidableEq

def PilotSample.Valid (sample : PilotSample) : Prop :=
  1 ≤ sample.source_identity.length ∧ sample.source_identity.length ≤ 4096 ∧
    sample.left ≤ 8192 - 256 ∧ sample.top ≤ 8192 - 256

instance PilotSample.decidable_valid (sample : PilotSample) : Decidable sample.Valid :=
  inferInstanceAs (Decidable (_ ∧ _))

/-- A verified image, and where its crop was taken. -/
structure Crop where
  example_ : DatasetExample
  left : ℕ
  top : ℕ
  deriving DecidableEq

/-- A snapshot: the sample order that is consumed and the crop randomness, with no prefetch. -/
structure PilotSamplerState where
  dataset_revision : String
  selection_checksum : String
  seed : ℕ
  epoch : ℕ
  position : ℕ
  consumed : ℕ
  order : List ℕ
  random_state : List ℕ
  deriving DecidableEq

/-- The fields of `PilotRandomState`, and `validate_position`. -/
def valid_random_state (values : List ℕ) : Prop :=
  (∀ value ∈ values, value ≤ 2 ^ 32 - 1) ∧ values.length = 625 ∧ values.getLastD 0 ≤ 624

def PilotSamplerState.Valid (state : PilotSamplerState) : Prop :=
  is_sha256 state.dataset_revision = true ∧ is_sha256 state.selection_checksum = true ∧
    state.seed ≤ 2 ^ 63 - 1 ∧ state.position ≤ 200000 ∧ 1 ≤ state.order.length ∧
    state.order.length ≤ 200000 ∧ valid_random_state state.random_state

instance decidable_valid_random_state (values : List ℕ) : Decidable (valid_random_state values) :=
  inferInstanceAs (Decidable (_ ∧ _))

instance PilotSamplerState.decidable_valid (state : PilotSamplerState) : Decidable state.Valid :=
  inferInstanceAs (Decidable (_ ∧ _))

/-! ### The sampler -/

variable {G : RandomGenerator}

/-- The part of a sampler that drawing an example changes. -/
structure SampleOrder (G : RandomGenerator) where
  random : G.State
  order : List ℕ
  epoch : ℕ := 0
  position : ℕ := 0
  consumed : ℕ := 0

/-- A sampler of some data with some seed, which never change. -/
structure PilotSampler (G : RandomGenerator) extends SampleOrder G where
  last_batch : List PilotSample := []

/-- What happens while one example is drawn: the answers of `check_pilot_deadline` and of reading
the image. -/
structure SampleFaults where
  check_pilot_deadline : Except Raised Unit := .ok ()
  load_crop : Except Raised Unit := .ok ()

/-- What happens in one batch: at each of its examples, and after them. -/
structure BatchFaults where
  samples : ℕ → SampleFaults := fun _ => {}
  check_pilot_deadline : Except Raised Unit := .ok ()
  stack : Except Raised Unit := .ok ()

namespace PilotSampler

/-- `__init__`: independent image and crop randomness. -/
def new (G : RandomGenerator) (data : PilotData) (seed : ℤ) : Except Raised (PilotSampler G) := do
  raise_if (¬ (0 ≤ seed ∧ seed ≤ 2 ^ 63 - 1)) .value_error
  let order := List.range data.training_examples.length
  raise_if (order = []) (.application pilot_data_failure)
  let shuffled := G.shuffle (G.seeded seed.toNat) order
  return { random := shuffled.2, order := shuffled.1 }

/-- The snapshot of a sampler, before it is validated. -/
def snapshot (data : PilotData) (seed : ℕ) (sampler : PilotSampler G) : PilotSamplerState where
  dataset_revision := data.dataset_revision
  selection_checksum := data.selection_checksum
  seed := seed
  epoch := sampler.epoch
  position := sampler.position
  consumed := sampler.consumed
  order := sampler.order
  random_state := G.getstate sampler.random

/-- Return a validated snapshot. -/
def state_dict (data : PilotData) (seed : ℕ) (sampler : PilotSampler G) :
    Except Raised PilotSamplerState := do
  raise_if (¬ (sampler.snapshot data seed).Valid) .value_error
  return sampler.snapshot data seed

def pilot_sampler_invalid : ApplicationFailure where
  code := "pilot_sampler_invalid"
  message := "The saved sample position is incompatible. Use its original dataset "
    ++ "and seed, or start a new pilot run."
  status_code := 422

/-- The snapshot does not belong to the data and the seed, or contradicts itself. -/
def Incompatible (data : PilotData) (seed : ℕ) (state : PilotSamplerState) : Prop :=
  ¬ state.Valid ∨ state.dataset_revision ≠ data.dataset_revision ∨
    state.selection_checksum ≠ data.selection_checksum ∨ state.seed ≠ seed ∨
    state.order.length ≠ data.training_examples.length ∨
    state.order.insertionSort (· ≤ ·) ≠ List.range data.training_examples.length ∨
    data.training_examples.length < state.position ∨
    state.consumed ≠ state.epoch * data.training_examples.length + state.position

instance decidable_incompatible (data : PilotData) (seed : ℕ) (state : PilotSamplerState) :
    Decidable (Incompatible data seed state) :=
  inferInstanceAs (Decidable (_ ∨ _))

/-- Reject incompatible snapshots before changing the live sampler. -/
def load_state_dict (data : PilotData) (seed : ℕ) (state : PilotSamplerState) :
    Transaction (PilotSampler G) Raised Unit := do
  liftM (raise_if (Incompatible data seed state) (Raised.application pilot_sampler_invalid))
  match G.setstate state.random_state with
  | none => liftM (fail (α := Unit) pilot_sampler_invalid)
  | some generator =>
    write { random := generator, order := state.order, epoch := state.epoch,
            position := state.position, consumed := state.consumed }

/-! ### Batches -/

/-- Start the next epoch when the order is used up. -/
def next_epoch (s : SampleOrder G) : SampleOrder G :=
  if s.position = s.order.length then
    { s with
      random := (G.shuffle s.random s.order).2
      order := (G.shuffle s.random s.order).1
      epoch := s.epoch + 1
      position := 0 }
  else s

/-- `data.training_examples[order[position]]`. -/
def current_example (data : PilotData) (s : SampleOrder G) : Except Raised DatasetExample :=
  match s.order[s.position]?.bind (data.training_examples[·]?) with
  | none => .error .value_error
  | some example_ => .ok example_

/-- `_load_crop`; the checksum of its record determines what is read. -/
def load_crop (outcome : Except Raised Unit) (example_ : DatasetExample) (left top : ℕ) :
    Except Raised Crop := do
  outcome
  return { example_, left, top }

/-- `random.randrange(size - 256 + 1)`. -/
def randrange (size : ℕ) : Transaction (SampleOrder G) Raised ℕ := do
  liftM (raise_if (size < 256) Raised.value_error)
  let s ← read
  write { s with random := (G.randrange s.random (size - 256 + 1)).2 }
  return (G.randrange s.random (size - 256 + 1)).1

/-- One round of the loop of `next_batch`. -/
def next_sample (data : PilotData) (faults : SampleFaults) :
    Transaction (SampleOrder G) Raised (Crop × PilotSample) := do
  liftM faults.check_pilot_deadline
  let s ← read
  write (next_epoch s)
  let s ← read
  let example_ ← liftM (current_example data s)
  let left ← randrange example_.record.width
  let top ← randrange example_.record.height
  let crop ← liftM (load_crop faults.load_crop example_ left top)
  let sample : PilotSample := { source_identity := source_identity example_.record, left, top }
  liftM (raise_if (¬ sample.Valid) Raised.value_error)
  let s ← read
  write { s with position := s.position + 1, consumed := s.consumed + 1 }
  return (crop, sample)

/-- The loop of `next_batch`. -/
def next_samples (data : PilotData) :
    List SampleFaults → Transaction (SampleOrder G) Raised (List (Crop × PilotSample))
  | [] => pure []
  | faults :: rest => do
    let taken ← next_sample data faults
    let others ← next_samples data rest
    return taken :: others

/-- Run a step on the order of a sampler. -/
def on_order {α : Type} (x : Transaction (SampleOrder G) Raised α) :
    Transaction (PilotSampler G) Raised α :=
  fun s => ((x s.toSampleOrder).1, { s with toSampleOrder := (x s.toSampleOrder).2 })

/-- Read exactly the requested crops and publish progress only on success. -/
def next_batch (data : PilotData) (seed : ℕ) (faults : BatchFaults) (batch_size : ℤ) :
    Transaction (PilotSampler G) Raised (List Crop) := do
  liftM (raise_if (¬ (1 ≤ batch_size ∧ batch_size ≤ 16)) Raised.value_error)
  let s ← read
  let previous ← liftM (s.state_dict data seed)
  let taken ← rescue
    (do
      let taken ← on_order (next_samples data ((List.range batch_size.toNat).map faults.samples))
      liftM faults.check_pilot_deadline
      liftM faults.stack
      return taken)
    fun e => do
      load_state_dict data seed previous
      let t ← read
      write { t with last_batch := s.last_batch }
      liftM (Except.error e : Except Raised (List (Crop × PilotSample)))
  let t ← read
  write { t with last_batch := taken.map Prod.snd }
  return taken.map Prod.fst

end PilotSampler

end StegoLab

import StegoLab.Workflow.Secrets

/-!
# Installed models

Models are installed and removed while encode and decode jobs are admitted. A submission looks its
model up and saves its job in one section under the service lock; a removal reads the job list and
deletes without that lock, so either can come between the two halves of the other.
-/

namespace StegoLab

open CanonicalJson

/-! ### The store -/

/-- The installation records; a record is stored under its own identifier. -/
structure InstalledModelStore where
  models : Dict InstalledModel := .empty

def model_not_installed : ApplicationFailure where
  code := "model_not_installed"
  message := "This model is not installed or its package is missing. Install "
    ++ "an exported model pair first."
  status_code := 404

def model_identifier_conflict : ApplicationFailure where
  code := "model_identifier_conflict"
  message := "A different model pair is installed under this name. Remove "
    ++ "it before installing another pair with the same name."
  status_code := 409

def removed_model_not_installed : ApplicationFailure where
  code := "model_not_installed"
  message := "This model is not installed. Refresh the model list."
  status_code := 404

namespace InstalledModelStore

/-- What a call finds: whether the database works, and whether the package directory is there. -/
structure Disk where
  database : Bool
  available : Bool

/-- `resolve`: one installed model whose package is present. -/
def resolve (store : InstalledModelStore) (disk : Disk) (model_identifier : String) :
    Except Raised InstalledModel := do
  raise_if (disk.database = false) (.application StorageFailure)
  match store.models.get? model_identifier with
  | none => fail model_not_installed
  | some model =>
    raise_if (disk.available = false) (.application model_not_installed)
    return model

/-- `_record`: insert a verified pair, or confirm an identical one. -/
def record (store : InstalledModelStore) (model : InstalledModel) :
    Except Raised InstalledModelStore :=
  match store.models.get? model.model_identifier with
  | none => return { models := store.models.insert model.model_identifier model }
  | some existing => do
    raise_if (existing.compatibility_identifier ≠ model.compatibility_identifier)
      (.application model_identifier_conflict)
    return store

/-- `remove`: forget an installation. -/
def remove (store : InstalledModelStore) (disk : Disk) (model_identifier : String) :
    Except Raised InstalledModelStore := do
  raise_if (disk.database = false) (.application StorageFailure)
  raise_if ((store.models.get? model_identifier).isNone = true)
    (.application removed_model_not_installed)
  return { models := store.models.erase model_identifier }

/-- Recording a model forgets none. -/
lemma get?_of_record {store store' : InstalledModelStore} {model : InstalledModel}
    (h : store.record model = .ok store') {key : String} (hkey : store.models.get? key ≠ none) :
    store'.models.get? key ≠ none := by
  unfold record at h
  split at h
  · obtain rfl := pure_eq_ok.mp h
    change (store.models.insert model.model_identifier model).get? key ≠ none
    rw [Dict.get?_insert]
    split_ifs
    · simp
    · exact hkey
  · obtain ⟨_, -, h⟩ := bind_eq_ok.mp h
    obtain rfl := pure_eq_ok.mp h
    exact hkey

/-- A removal forgets its own model only. -/
lemma get?_of_remove {store store' : InstalledModelStore} {disk : Disk} {model_identifier : String}
    (h : store.remove disk model_identifier = .ok store') {key : String}
    (hkey : store.models.get? key ≠ none) (hne : key ≠ model_identifier) :
    store'.models.get? key ≠ none := by
  obtain ⟨_, -, h⟩ := bind_eq_ok.mp h
  obtain ⟨_, -, h⟩ := bind_eq_ok.mp h
  obtain rfl := pure_eq_ok.mp h
  change (store.models.erase model_identifier).get? key ≠ none
  rw [Dict.get?_erase, if_neg hne]
  exact hkey

end InstalledModelStore

/-! ### Jobs and their models -/

/-- `frozen_settings.get("model_identifier")`, where it is a string. -/
def named_model (job : JobSnapshot) : Option String :=
  match job.frozen_settings with
  | .obj fields =>
    match fields.lookup "model_identifier" with
    | some (.str model_identifier) => some model_identifier
    | _ => none
  | _ => none

/-- `model_in_use`. -/
def model_in_use (jobs : List JobSnapshot) (model_identifier : String) : Bool :=
  jobs.any fun job => is_waiting job && named_model job = some model_identifier

def model_in_use_failure : ApplicationFailure where
  code := "model_in_use"
  message := "A queued or running job still uses this model. Wait for it to finish "
    ++ "or cancel it, then remove the model."
  status_code := 409

/-- The first half of `remove_model`: the job list must not use the model. -/
def check_unused (surroundings : Surroundings) (model_identifier : String) :
    Section (List JobSnapshot) := do
  require_storage
  let jobs ← list_jobs surroundings
  raise_if (model_in_use jobs model_identifier = true) (Raised.application model_in_use_failure)
  return jobs

/-! ### The system -/

/-- A submission that has passed its admission, or failed it, and holds the service lock. -/
structure Admission where
  surroundings : Surroundings
  digest : Dict String → String
  uuid4 : String
  request : InferenceJobRequest
  admitted : Except Raised InferenceJobRecord

/-- A removal that has passed its check, with the job list that it has read. -/
structure Removal where
  model_identifier : String
  jobs : List JobSnapshot

/-- The job service and the installed models, with the calls that are halfway through. -/
structure ModelService where
  service : WorkspaceJobService := {}
  installed : InstalledModelStore := {}
  admission : Option Admission := none
  removals : List Removal := []

/-- The steps that take the service lock. -/
def Event.locked : Event → Bool
  | .check => false
  | .maintain _ => false
  | .begin_run .. => false
  | .halt => false
  | .begin_close => false
  | .join => false
  | .release_ownership => false
  | _ => true

/-- The steps with a relation of their own. -/
def Event.composite : Event → Bool
  | .submit_inference .. => true
  | .crash _ => true
  | _ => false

inductive ModelEvent where
  | service (event : Event)
  | admit_inference (surroundings : Surroundings) (digest : Dict String → String) (uuid4 : String)
      (image : Except Raised StoredImageRecord) (disk : InstalledModelStore.Disk)
      (request : InferenceJobRequest)
  | accept
  | check_unused (surroundings : Surroundings) (model_identifier : String)
  | remove (disk : InstalledModelStore.Disk) (removal : Removal)
  | install (model : InstalledModel)
  | crash (inference : Bool)

/-- A call that raises leaves the store alone. -/
def stored_or (store : InstalledModelStore) : Except Raised InstalledModelStore → InstalledModelStore
  | .ok store' => store'
  | .error _ => store

/-- A check that raises starts no removal. -/
def begun_removal (model_identifier : String) : Except Raised (List JobSnapshot) → List Removal
  | .ok jobs => [{ model_identifier, jobs }]
  | .error _ => []

variable (fingerprint : Json → String)

/-- One step of one of the parties. A crash ends every call and keeps the two databases. -/
inductive ModelStep : ModelService → ModelEvent → ModelService → Prop where
  | service {s : ModelService} {event : Event} {service : WorkspaceJobService}
      (hevent : event.composite = false) (hlock : event.locked = true → s.admission = none)
      (h : Step fingerprint s.service event service) :
      ModelStep s (.service event) { s with service }
  | admit_inference {s : ModelService} {surroundings : Surroundings} {digest : Dict String → String}
      {uuid4 : String} {image : Except Raised StoredImageRecord} {disk : InstalledModelStore.Disk}
      {request : InferenceJobRequest} (hinference : s.service.inference.isSome = true)
      (hlock : s.admission = none)
      (hnew : s.service.store.replay surroundings.database request.client_request_identifier
        (fingerprint (request.payload digest)) = .ok none) :
      ModelStep s (.admit_inference surroundings digest uuid4 image disk request)
        { s with
          admission := some { surroundings, digest, uuid4, request
                              admitted := admit_inference
                                { image, model := s.installed.resolve disk request.model_identifier }
                                request } }
  | accept {s : ModelService} {call : Admission} {service : WorkspaceJobService}
      (hcall : s.admission = some call)
      (h : Step fingerprint s.service (.submit_inference call.surroundings call.digest call.admitted
        call.uuid4 call.request) service) :
      ModelStep s .accept { s with service, admission := none }
  | check_unused {s : ModelService} {surroundings : Surroundings} {model_identifier : String}
      {outcome : Except Raised (List JobSnapshot)} {service : WorkspaceJobService}
      (h : StegoLab.check_unused surroundings model_identifier s.service = (outcome, service)) :
      ModelStep s (.check_unused surroundings model_identifier)
        { s with removals := s.removals ++ begun_removal model_identifier outcome }
  | remove {s : ModelService} {disk : InstalledModelStore.Disk} {removal : Removal}
      {before after : List Removal} (hremoval : s.removals = before ++ removal :: after) :
      ModelStep s (.remove disk removal)
        { s with
          installed := stored_or s.installed (s.installed.remove disk removal.model_identifier)
          removals := before ++ after }
  | install {s : ModelService} {model : InstalledModel} :
      ModelStep s (.install model)
        { s with installed := stored_or s.installed (s.installed.record model) }
  | crash {s : ModelService} {inference : Bool} {service : WorkspaceJobService}
      (h : Step fingerprint s.service (.crash inference) service) :
      ModelStep s (.crash inference) { service, installed := s.installed }

end StegoLab

import StegoLab.Library.Text
import StegoLab.Workflow.Models

/-!
# Installation of models

A verified export pair is recorded under the name of its folder. The records are kept apart from
the export directories, which can change or disappear at any time.
-/

namespace StegoLab

open CanonicalJson

/-! ### Export directories -/

/-- The names on the way from the root of the file system. -/
abbrev AbsolutePath : Type :=
  List String

namespace AbsolutePath

def child (path : AbsolutePath) (name : String) : AbsolutePath :=
  path ++ [name]

def name (path : AbsolutePath) : String :=
  path.getLast?.getD ""

end AbsolutePath

/-- What a file is when it is opened, and what reading it gives. -/
structure OpenedFile where
  regular : Bool
  size : ℕ
  content : List UInt8

/-- The file system below the approved roots at one moment. -/
structure ExportTree where
  is_symlink : AbsolutePath → Except Raised Bool
  is_dir : AbsolutePath → Except Raised Bool
  is_file : AbsolutePath → Except Raised Bool
  resolve : AbsolutePath → Except Raised AbsolutePath
  open_file : AbsolutePath → Except Raised OpenedFile

inductive PackageRole where
  | encoder
  | decoder
  deriving DecidableEq, Repr

structure ExportFile where
  checksum : String
  size_bytes : ℕ

/-- The manifest of a package, as far as an installation reads it. -/
structure ModelExportManifest where
  compatibility_identifier : String
  source_identifier : String
  format_version : ℕ
  role : PackageRole
  dependencies : List (String × String)
  runtime_dependencies : Dict (List (String × String)) := .empty
  files : List (String × ExportFile)

structure ExportVerification where
  compatibility_identifier : String

/-- The interpreter, the installed packages, and the readers of the records in a package. -/
structure ExportRuntime where
  python_version : ℕ × ℕ
  version : String → Except Raised String
  sha256 : List UInt8 → String
  read_manifest : List UInt8 → Except Raised ModelExportManifest
  read_verification : List UInt8 → Except Raised ExportVerification

/-! ### Failures -/

def export_failure : ApplicationFailure where
  code := "model_export_unavailable"
  message := "The model package is missing, damaged, or incompatible. "
    ++ "Use a complete matching package and its recorded dependencies."
  status_code := 422

/-- `pair_failure`: an unusable export pair. -/
def pair_failure (code message : String) : ApplicationFailure where
  code := code
  message := message
  status_code := 422

def model_pair_incomplete : ApplicationFailure :=
  pair_failure "model_pair_incomplete"
    "Install needs an encoder and a decoder package exported together."

def model_verification_missing : ApplicationFailure :=
  pair_failure "model_verification_missing"
    ("This export has no matching verification record. Export the "
      ++ "checkpoint again before installing it.")

def model_identifier_invalid : ApplicationFailure :=
  pair_failure "model_identifier_invalid"
    ("Use letters, digits, dots, dashes, and underscores for the export "
      ++ "folder name, up to 64 characters.")

namespace ModelInstallation

def request_identifier_conflict : ApplicationFailure where
  code := "request_identifier_conflict"
  message := "This request identifier was used for another change. "
    ++ "Use a new identifier for a new installation."
  status_code := 409

/-! ### Paths -/

section Paths

variable (tree : ExportTree)

/-- Follow names from a directory; none of what they lead to is a link. -/
def follow (exception : Raised) : AbsolutePath → List String → Except Raised AbsolutePath
  | candidate, [] => return candidate
  | candidate, part :: rest => do
    let link ← tree.is_symlink (candidate.child part)
    raise_if (link = true) exception
    follow exception (candidate.child part) rest

/-- `path.relative_to(root)`. -/
def relative_to (path root : AbsolutePath) : Except Raised (List String) :=
  if root <+: path then .ok (path.drop root.length) else .error .value_error

/-- `safe_path`: refuse escapes and links in every component below an approved root. -/
def safe_path (path root : AbsolutePath) : Except Raised AbsolutePath := do
  let relative ← relative_to path root
  raise_if (∃ part ∈ relative, part ∈ ["", ".", ".."]) .value_error
  let link ← tree.is_symlink root
  raise_if (link = true) .value_error
  let candidate ← follow tree .value_error root relative
  let resolved ← tree.resolve candidate
  let base ← tree.resolve root
  raise_if (¬ base <+: resolved) .value_error
  return candidate

/-- `_available_directory`: a recorded package directory below its approved root. -/
def available_directory (roots : List AbsolutePath) (directory root : AbsolutePath) :
    Except Raised AbsolutePath := do
  raise_if (root ∉ roots) .value_error
  let candidate ← safe_path tree directory root
  let link ← tree.is_symlink candidate
  raise_if (link = true) .value_error
  let there ← tree.is_dir candidate
  raise_if (there = false) .value_error
  return candidate

end Paths

/-! ### Packages -/

section Packages

def MAXIMUM_EXPORT_FILE : ℕ := 16 * 1024 ^ 2

def MAXIMUM_EXPORT_BYTES : ℕ := 64 * 1024 ^ 2

variable (tree : ExportTree) (runtime : ExportRuntime)

/-- `read_export_file`: the bounded bytes of a regular file. -/
def read_export_file (path : AbsolutePath) (maximum : ℕ) : Except Raised (List UInt8) := do
  let information ← tree.open_file path
  raise_if (information.regular = false ∨ maximum < information.size)
    (.application export_failure)
  let content := information.content.take (maximum + 1)
  raise_if (maximum < content.length ∨ content.length ≠ information.size)
    (.application export_failure)
  return content

/-- The loop over the declared files of a package. -/
def verify_files (directory : AbsolutePath) : ℕ → List (String × ExportFile) → Except Raised Unit
  | _, [] => return ()
  | total, (relative, record) :: rest => do
    let parts := (relative.toList.splitOn '/').map String.ofList
    raise_if ((∃ part ∈ parts, part ∈ ["", ".", ".."]) ∨ '\\' ∈ relative.toList)
      (.application export_failure)
    let candidate ← follow tree (.application export_failure) directory parts
    let content ← read_export_file tree candidate MAXIMUM_EXPORT_FILE
    raise_if (MAXIMUM_EXPORT_BYTES < total + content.length ∨ content.length ≠ record.size_bytes
      ∨ runtime.sha256 content ≠ record.checksum) (.application export_failure)
    verify_files directory (total + content.length) rest

/-- The pins of a package for the processor; a manifest of the second format has them. -/
def dependencies_of (manifest : ModelExportManifest) : List (String × String) :=
  if manifest.format_version = 2 then (manifest.runtime_dependencies.get? "cpu").getD []
  else manifest.dependencies

/-- The loop over the pinned packages. -/
def verify_dependencies : List (String × String) → Except Raised Unit
  | [] => return ()
  | (package, expected) :: rest => do
    let actual ← runtime.version package
    raise_if ((if package = "torch" then Text.before '+' actual else actual) ≠ expected)
      (.application export_failure)
    verify_dependencies rest

/-- `verify_package`: check every declared package file. -/
def verify_package (directory : AbsolutePath) : Except Raised ModelExportManifest := do
  let link ← tree.is_symlink directory
  raise_if (link = true) (.application export_failure)
  let there ← tree.is_dir directory
  raise_if (there = false) (.application export_failure)
  let content ← read_export_file tree (directory.child "manifest.json") (256 * 1024)
  let manifest ← runtime.read_manifest content
  raise_if ("model.pt2" ∉ manifest.files.map Prod.fst ∨ "runtime.py" ∉ manifest.files.map Prod.fst)
    (.application export_failure)
  verify_files tree runtime directory 0 manifest.files
  raise_if (runtime.python_version ≠ (3, 12)) (.application export_failure)
  verify_dependencies runtime (dependencies_of manifest)
  return manifest

/-- A role is there when its directory is. -/
def check_role (role : AbsolutePath) : Except Raised Unit := do
  let link ← tree.is_symlink role
  raise_if (link = true) (.application model_pair_incomplete)
  let there ← tree.is_dir role
  raise_if (there = false) (.application model_pair_incomplete)

/-- The recorded verification of a pair. -/
def read_record (record : AbsolutePath) (encoder : ModelExportManifest) :
    Except Raised ExportVerification := do
  let link ← tree.is_symlink record
  raise_if (link = true) .value_error
  let there ← tree.is_file record
  raise_if (there = false) .value_error
  let content ← read_export_file tree record (64 * 1024)
  let verification ← runtime.read_verification content
  raise_if (verification.compatibility_identifier ≠ encoder.compatibility_identifier) .value_error
  return verification

/-- `verify_model_pair`: check both packages and the recorded pair verification. -/
def verify_model_pair (pair_root : AbsolutePath) :
    Except Raised (ModelExportManifest × ExportVerification) := do
  let link ← tree.is_symlink pair_root
  raise_if (link = true) (.application model_pair_incomplete)
  check_role tree (pair_root.child "encoder")
  check_role tree (pair_root.child "decoder")
  let encoder ← verify_package tree runtime (pair_root.child "encoder")
  let decoder ← verify_package tree runtime (pair_root.child "decoder")
  raise_if (encoder.role ≠ .encoder ∨ decoder.role ≠ .decoder
    ∨ encoder.compatibility_identifier ≠ decoder.compatibility_identifier
    ∨ encoder.source_identifier ≠ decoder.source_identifier
    ∨ encoder.format_version ≠ decoder.format_version) (.application model_pair_incomplete)
  match read_record tree runtime (pair_root.child "verification.json") encoder with
  | .error _ => fail model_verification_missing
  | .ok verification => return (encoder, verification)

end Packages

/-! ### Records -/

/-- `InstalledModel`, with what an installation keeps of the pair. -/
structure InstallationRecord extends InstalledModel where
  source_identifier : String
  format_version : ℕ
  installed_at : String
  export_reference : String
  deriving DecidableEq

/-- The pattern `^[A-Za-z0-9][A-Za-z0-9_.-]{0,63}$` of a model identifier. -/
def model_identifier_pattern (identifier : String) : Bool :=
  match identifier.toList with
  | [] => false
  | first :: rest => first.isAlphanum && decide (rest.length ≤ 63) &&
      rest.all fun c => c.isAlphanum || c == '_' || c == '.' || c == '-'

/-- A row of the installed models. -/
structure InstalledRow where
  payload : InstallationRecord
  package_directory : AbsolutePath
  root : AbsolutePath

/-- A row of the install mutations. -/
structure InstallMutation where
  fingerprint : String
  model_identifier : String

/-- The two tables. A row of the models is stored under its own identifier. -/
structure InstalledModels where
  models : Dict InstalledRow := .empty
  mutations : Dict InstallMutation := .empty
  keyed : ∀ key row, models.get? key = some row → row.payload.model_identifier = key

/-- The tables of a new database. -/
def InstalledModels.created : InstalledModels where
  keyed key row h := by simp at h

/-- The accesses to the database that a call makes. -/
inductive InstallAccess where
  | connect
  | mutation
  | model
  | list
  | insert_model
  | insert_mutation
  | delete
  | commit
  deriving DecidableEq

structure ModelInstallRequest where
  client_request_identifier : String
  export_reference : String

/-- What a call meets: the approved roots, the export directories, the database and the clock. -/
structure InstallSurroundings where
  roots : List AbsolutePath
  tree : ExportTree
  runtime : ExportRuntime
  database : InstallAccess → Bool := fun _ => true
  now : String

section Calls

variable (surroundings : InstallSurroundings)

/-- The access works, or the database raises. -/
def access (place : InstallAccess) : Except Raised Unit :=
  raise_if (surroundings.database place = false) (.application StorageFailure)

/-- `connection`: commit what a block leaves when it returns, and undo it when anything raises. -/
def connection {α : Type} (block : InstalledModels → Except Raised (α × InstalledModels))
    (store : InstalledModels) : Except Raised α × InstalledModels :=
  let outcome := do
    access surroundings .connect
    let result ← block store
    access surroundings .commit
    return result
  match outcome with
  | .error e => (.error e, store)
  | .ok (a, changed) => (.ok a, changed)

/-! ### Reading -/

/-- `SELECT … FROM installed_models WHERE model_identifier=?`. -/
def select_model (store : InstalledModels) (model_identifier : String) :
    Except Raised (Option InstalledRow) := do
  access surroundings .model
  return store.models.get? model_identifier

/-- `_available_directory` of a recorded package directory. -/
def recorded_directory (row : InstalledRow) : Except Raised AbsolutePath :=
  available_directory surroundings.tree surroundings.roots row.package_directory row.root

/-- `_read`: one recorded installation whose package is still available. -/
def read_model (store : InstalledModels) (model_identifier : String) :
    Except Raised InstallationRecord := do
  let selected ← select_model surroundings store model_identifier
  match selected with
  | none => fail model_not_installed
  | some row =>
    match recorded_directory surroundings row with
    | .error _ => fail model_not_installed
    | .ok _ => return row.payload

/-- The loop of `list_models`; what is not available is left out. -/
def read_models (store : InstalledModels) : List String → Except Raised (List InstallationRecord)
  | [] => return []
  | model_identifier :: rest => do
    access surroundings .model
    let others ← read_models store rest
    match read_model surroundings store model_identifier with
    | .error _ => return others
    | .ok model => return model :: others

/-- `list_models`: the installed models whose package directories are still present. -/
def list_models : InstalledModels → Except Raised (List InstallationRecord) × InstalledModels :=
  connection surroundings fun store => do
    access surroundings .list
    let models ← read_models surroundings store (store.models.entries.map Prod.fst)
    return (models, store)

/-- `resolve`: one installed model and its package directory. -/
def resolve (model_identifier : String) :
    InstalledModels → Except Raised (InstallationRecord × AbsolutePath) × InstalledModels :=
  connection surroundings fun store => do
    let model ← read_model surroundings store model_identifier
    let selected ← select_model surroundings store model_identifier
    match selected with
    | none => fail model_not_installed
    | some row =>
      let directory ← recorded_directory surroundings row
      return ((model, directory), store)

/-! ### Changing -/

lemma keyed_insert {models : Dict InstalledRow} {row : InstalledRow}
    (h : ∀ key row, models.get? key = some row → row.payload.model_identifier = key)
    (key : String) (row' : InstalledRow)
    (hget : (models.insert row.payload.model_identifier row).get? key = some row') :
    row'.payload.model_identifier = key := by
  rw [Dict.get?_insert] at hget
  split_ifs at hget with hkey
  · obtain rfl := Option.some_inj.mp hget
    exact hkey.symm
  · exact h key row' hget

lemma keyed_erase {models : Dict InstalledRow} {erased : String}
    (h : ∀ key row, models.get? key = some row → row.payload.model_identifier = key)
    (key : String) (row : InstalledRow) (hget : (models.erase erased).get? key = some row) :
    row.payload.model_identifier = key := by
  rw [Dict.get?_erase] at hget
  split_ifs at hget
  exact h key row hget

/-- `INSERT INTO installed_models VALUES (?,?,?,?)`. -/
def insert_model (row : InstalledRow) (store : InstalledModels) : InstalledModels :=
  { store with
    models := store.models.insert row.payload.model_identifier row
    keyed := keyed_insert store.keyed }

/-- `INSERT INTO install_mutations VALUES (?,?,?)`. -/
def insert_mutation (identifier : String) (mutation : InstallMutation) (store : InstalledModels) :
    InstalledModels :=
  { store with mutations := store.mutations.insert identifier mutation }

/-- `DELETE FROM installed_models WHERE model_identifier=?`. -/
def delete_model (model_identifier : String) (store : InstalledModels) : InstalledModels :=
  { store with
    models := store.models.erase model_identifier
    keyed := keyed_erase store.keyed }

/-- What is recorded of a verified pair. -/
def installed_model (request : ModelInstallRequest) (directory : AbsolutePath)
    (manifest : ModelExportManifest) : InstallationRecord where
  model_identifier := directory.name
  compatibility_identifier := manifest.compatibility_identifier
  source_identifier := manifest.source_identifier
  format_version := manifest.format_version
  installed_at := surroundings.now
  export_reference := request.export_reference

/-- `_record`: insert a new installation, or confirm an identical existing one. -/
def record (request : ModelInstallRequest) (directory root : AbsolutePath)
    (manifest : ModelExportManifest) (store : InstalledModels) :
    Except Raised ((InstallationRecord × Bool) × InstalledModels) := do
  let existing ← select_model surroundings store directory.name
  match existing with
  | some row =>
    raise_if (row.payload.compatibility_identifier ≠ manifest.compatibility_identifier)
      (.application model_identifier_conflict)
    return ((row.payload, false), store)
  | none =>
    let model := installed_model surroundings request directory manifest
    raise_if (model_identifier_pattern model.model_identifier = false)
      (.application model_identifier_invalid)
    access surroundings .insert_model
    return ((model, true),
      insert_model { payload := model, package_directory := directory, root := root } store)

/-- `WorkflowStore.fingerprint({"operation": "install", "export_reference": ...})`. -/
def install_fingerprint (fingerprint : Json → String) (request : ModelInstallRequest) : String :=
  fingerprint (dict [("operation", .str "install"),
    ("export_reference", .str request.export_reference)])

/-- `install`: record one verified pair, replaying identical retries. -/
def install (fingerprint : Json → String) (request : ModelInstallRequest)
    (locate : Except Raised (AbsolutePath × AbsolutePath)) :
    InstalledModels → Except Raised (InstallationRecord × Bool) × InstalledModels :=
  connection surroundings fun store => do
    access surroundings .mutation
    match store.mutations.get? request.client_request_identifier with
    | some replay =>
      raise_if (replay.fingerprint ≠ install_fingerprint fingerprint request)
        (.application request_identifier_conflict)
      let model ← read_model surroundings store replay.model_identifier
      return ((model, false), store)
    | none =>
      let (pair_root, root) ← locate
      let directory ← available_directory surroundings.tree surroundings.roots pair_root root
      let (manifest, _) ← verify_model_pair surroundings.tree surroundings.runtime directory
      let ((model, created), changed) ←
        record surroundings request directory root manifest store
      access surroundings .insert_mutation
      return ((model, created), insert_mutation request.client_request_identifier
        { fingerprint := install_fingerprint fingerprint request
          model_identifier := model.model_identifier } changed)

/-- `remove`: forget an installation without touching the export directory. -/
def remove (model_identifier : String) : InstalledModels → Except Raised Unit × InstalledModels :=
  connection surroundings fun store => do
    access surroundings .delete
    raise_if ((store.models.get? model_identifier).isNone = true)
      (.application removed_model_not_installed)
    return ((), delete_model model_identifier store)

end Calls

end ModelInstallation

end StegoLab

import StegoLab.Library.Runs
import StegoLab.Workflow.Installation

/-!
# Use of installed models

An installation that returns says that a pair was recorded; whether the recorded directory can be
used is another question, as only a new record and the directory that a call names are checked.
-/

namespace StegoLab

open CanonicalJson

namespace ModelInstallation

variable {fingerprint : Json → String} {surroundings : InstallSurroundings}
  {request : ModelInstallRequest} {located : Except Raised (AbsolutePath × AbsolutePath)}
  {store after : InstalledModels} {row : InstalledRow} {model_identifier : String}
  {model : InstallationRecord} {directory root : AbsolutePath}

/-! ### Directories -/

lemma follow_eq_ok {tree : ExportTree} {exception : Raised} {candidate reached : AbsolutePath}
    {parts : List String} (h : follow tree exception candidate parts = .ok reached) :
    reached = candidate ++ parts := by
  induction parts generalizing candidate with
  | nil =>
    rw [List.append_nil]
    exact (pure_eq_ok.mp h).symm
  | cons part rest ih =>
    obtain ⟨link, -, h⟩ := bind_eq_ok.mp h
    obtain ⟨_, -, h⟩ := bind_eq_ok.mp h
    rw [ih h, AbsolutePath.child, List.append_assoc, List.singleton_append]

lemma safe_path_eq_ok {tree : ExportTree} {path reached : AbsolutePath}
    (h : safe_path tree path root = .ok reached) : reached = path := by
  obtain ⟨relative, hrelative, h⟩ := bind_eq_ok.mp h
  obtain ⟨_, -, h⟩ := bind_eq_ok.mp h
  obtain ⟨_, -, h⟩ := bind_eq_ok.mp h
  obtain ⟨_, -, h⟩ := bind_eq_ok.mp h
  obtain ⟨candidate, hcandidate, h⟩ := bind_eq_ok.mp h
  obtain ⟨_, -, h⟩ := bind_eq_ok.mp h
  obtain ⟨_, -, h⟩ := bind_eq_ok.mp h
  obtain ⟨_, -, h⟩ := bind_eq_ok.mp h
  obtain rfl := pure_eq_ok.mp h
  rw [relative_to] at hrelative
  split_ifs at hrelative with hbelow
  obtain ⟨rest, rfl⟩ := hbelow
  obtain rfl := Except.ok.inj hrelative
  rw [follow_eq_ok hcandidate, List.drop_left]

/-- An available directory is the one that was asked for. -/
lemma available_directory_eq_ok {tree : ExportTree} {roots : List AbsolutePath}
    {found : AbsolutePath} (h : available_directory tree roots directory root = .ok found) :
    found = directory := by
  obtain ⟨_, -, h⟩ := bind_eq_ok.mp h
  obtain ⟨candidate, hcandidate, h⟩ := bind_eq_ok.mp h
  obtain ⟨_, -, h⟩ := bind_eq_ok.mp h
  obtain ⟨_, -, h⟩ := bind_eq_ok.mp h
  obtain ⟨_, -, h⟩ := bind_eq_ok.mp h
  obtain ⟨_, -, h⟩ := bind_eq_ok.mp h
  rw [← pure_eq_ok.mp h, safe_path_eq_ok hcandidate]

/-! ### Reading -/

/-- A call changes the tables when it returns, and leaves them when it raises. -/
lemma connection_cases {α : Type} {block : InstalledModels → Except Raised (α × InstalledModels)}
    {outcome : Except Raised α} (h : connection surroundings block store = (outcome, after)) :
    ((∃ e, outcome = .error e) ∧ after = store) ∨
      ∃ a, outcome = .ok a ∧ block store = .ok (a, after) := by
  rw [connection] at h
  split at h
  case h_1 e hblock =>
    obtain ⟨rfl, rfl⟩ := Prod.mk.inj h
    exact Or.inl ⟨⟨e, rfl⟩, rfl⟩
  case h_2 a changed hblock =>
    obtain ⟨rfl, rfl⟩ := Prod.mk.inj h
    obtain ⟨_, -, hblock⟩ := bind_eq_ok.mp hblock
    obtain ⟨result, hresult, hblock⟩ := bind_eq_ok.mp hblock
    obtain ⟨_, -, hblock⟩ := bind_eq_ok.mp hblock
    rw [pure_eq_ok.mp hblock] at hresult
    exact Or.inr ⟨a, rfl, hresult⟩

lemma select_model_eq_ok {selected : Option InstalledRow}
    (h : select_model surroundings store model_identifier = .ok selected) :
    store.models.get? model_identifier = selected := by
  obtain ⟨_, -, h⟩ := bind_eq_ok.mp h
  exact pure_eq_ok.mp h

/-- What is read is recorded, in a directory that is available. -/
lemma read_model_eq_ok (h : read_model surroundings store model_identifier = .ok model) :
    ∃ row directory, store.models.get? model_identifier = some row ∧
      recorded_directory surroundings row = .ok directory ∧ model = row.payload := by
  obtain ⟨selected, hselected, h⟩ := bind_eq_ok.mp h
  have hrow := select_model_eq_ok hselected
  cases selected with
  | none => exact absurd h (by simp [fail])
  | some row =>
    cases havailable : recorded_directory surroundings row with
    | error e => exact absurd h (by simp [fail, havailable])
    | ok directory =>
      simp only [havailable] at h
      exact ⟨row, directory, hrow, havailable, (pure_eq_ok.mp h).symm⟩

/-- The same surroundings with a database that works. -/
def InstallSurroundings.readable (surroundings : InstallSurroundings) : InstallSurroundings :=
  { surroundings with database := fun _ => true }

@[simp] lemma access_readable (place : InstallAccess) :
    access surroundings.readable place = .ok () := rfl

@[simp] lemma select_model_readable :
    select_model surroundings.readable store model_identifier
      = .ok (store.models.get? model_identifier) := rfl

lemma read_model_readable (hrow : store.models.get? model_identifier = some row)
    (havailable : recorded_directory surroundings row = .ok directory) :
    read_model surroundings.readable store model_identifier = .ok row.payload := by
  have havailable' : recorded_directory surroundings.readable row = .ok directory := havailable
  rw [read_model, select_model_readable, hrow]
  simp only [bind, Except.bind, havailable']
  rfl

lemma connection_readable {α : Type}
    {block : InstalledModels → Except Raised (α × InstalledModels)} :
    (connection surroundings.readable block store).1 = (block store).map Prod.fst := by
  rw [connection, access_readable, access_readable]
  cases block store with
  | error e => rfl
  | ok result => rfl

/-- A recorded model resolves to its directory when that is available. -/
lemma resolve_readable_iff :
    (resolve surroundings.readable model_identifier store).1 = .ok (model, directory) ↔
      ∃ row, store.models.get? model_identifier = some row ∧
        recorded_directory surroundings row = .ok directory ∧ model = row.payload := by
  rw [resolve, connection_readable]
  constructor
  · intro h
    cases hblock : read_model surroundings.readable store model_identifier with
    | error e => simp [hblock, bind, Except.bind, Except.map] at h
    | ok model' =>
      obtain ⟨row, directory', hrow, havailable, rfl⟩ := read_model_eq_ok hblock
      have havailable' : recorded_directory surroundings row = .ok directory' := havailable
      simp [hblock, select_model_readable, hrow, havailable, bind, Except.bind, Except.map, pure,
        Except.pure] at h
      obtain ⟨rfl, rfl⟩ := h
      exact ⟨row, hrow, havailable', rfl⟩
  · rintro ⟨row, hrow, havailable, rfl⟩
    have havailable' : recorded_directory surroundings.readable row = .ok directory := havailable
    simp [read_model_readable hrow havailable, select_model_readable, hrow, havailable', bind,
      Except.bind, Except.map, pure, Except.pure]

/-- The listing of recorded names returns, with every model whose directory is available. -/
lemma read_models_readable (names : List String) :
    ∃ models, read_models surroundings.readable store names = .ok models ∧
      ∀ model_identifier ∈ names, ∀ row directory,
        store.models.get? model_identifier = some row →
          recorded_directory surroundings row = .ok directory → row.payload ∈ models := by
  induction names with
  | nil => exact ⟨[], rfl, fun _ hname => absurd hname List.not_mem_nil⟩
  | cons name rest ih =>
    obtain ⟨others, hothers, hmem⟩ := ih
    have hlisted : ∀ {models}, others ⊆ models →
        (∀ row directory, store.models.get? name = some row →
          recorded_directory surroundings row = .ok directory → row.payload ∈ models) →
        ∀ model_identifier ∈ name :: rest, ∀ row directory,
          store.models.get? model_identifier = some row →
            recorded_directory surroundings row = .ok directory → row.payload ∈ models := by
      intro models hsubset hname model_identifier hin row directory hrow havailable
      rcases List.mem_cons.mp hin with rfl | hin
      · exact hname row directory hrow havailable
      · exact hsubset (hmem model_identifier hin row directory hrow havailable)
    cases hread : read_model surroundings.readable store name with
    | error e =>
      refine ⟨others, ?_, hlisted (List.Subset.refl _) fun row directory hrow havailable => ?_⟩
      · simp [read_models, hothers, hread, bind, Except.bind, pure, Except.pure]
      · rw [read_model_readable hrow havailable] at hread
        exact absurd hread (by simp)
    | ok model =>
      refine ⟨model :: others, ?_,
        hlisted (List.subset_cons_self _ _) fun row directory hrow havailable => ?_⟩
      · simp [read_models, hothers, hread, bind, Except.bind, pure, Except.pure]
      · rw [read_model_readable hrow havailable] at hread
        rw [Except.ok.inj hread]
        exact List.mem_cons_self

/-! ### Use -/

/-- The recorded directory is available and holds a verified pair with the recorded identifier. -/
def HoldsPair (surroundings : InstallSurroundings) (row : InstalledRow) : Prop :=
  ∃ directory pair, recorded_directory surroundings row = .ok directory ∧
    verify_model_pair surroundings.tree surroundings.runtime directory = .ok pair ∧
    pair.1.compatibility_identifier = row.payload.compatibility_identifier

/-- The model resolves to a directory with its pair, and is listed. -/
def Usable (surroundings : InstallSurroundings) (store : InstalledModels)
    (model : InstallationRecord) : Prop :=
  (∃ directory pair,
    (resolve surroundings.readable model.model_identifier store).1 = .ok (model, directory) ∧
      verify_model_pair surroundings.tree surroundings.runtime directory = .ok pair ∧
      pair.1.compatibility_identifier = model.compatibility_identifier) ∧
  ∃ models, (list_models surroundings.readable store).1 = .ok models ∧ model ∈ models

lemma mem_list_models (hrow : store.models.get? model_identifier = some row)
    (havailable : recorded_directory surroundings row = .ok directory) :
    ∃ models, (list_models surroundings.readable store).1 = .ok models ∧ row.payload ∈ models := by
  obtain ⟨models, hmodels, hmem⟩ :=
    @read_models_readable surroundings store (store.models.entries.map Prod.fst)
  have hname : model_identifier ∈ store.models.entries.map Prod.fst :=
    List.mem_map.mpr ⟨_, (Dict.lookup_eq_some_iff store.models.nodup_keys).mp hrow, rfl⟩
  refine ⟨models, ?_, hmem model_identifier hname row directory hrow havailable⟩
  rw [list_models, connection_readable]
  simp [hmodels, bind, Except.bind, pure, Except.pure, Except.map]

/-- A recorded model is usable when its directory holds its pair. -/
lemma usable_iff (hrow : store.models.get? model_identifier = some row) :
    Usable surroundings store row.payload ↔ HoldsPair surroundings row := by
  obtain rfl := store.keyed model_identifier row hrow
  constructor
  · rintro ⟨⟨directory, pair, hresolve, hverified, hsame⟩, -⟩
    obtain ⟨row', hrow', havailable, -⟩ := resolve_readable_iff.mp hresolve
    obtain rfl := Option.some_inj.mp (hrow.symm.trans hrow')
    exact ⟨directory, pair, havailable, hverified, hsame⟩
  · rintro ⟨directory, pair, havailable, hverified, hsame⟩
    refine ⟨⟨directory, pair, ?_, hverified, hsame⟩, mem_list_models hrow havailable⟩
    exact resolve_readable_iff.mpr ⟨row, hrow, havailable, rfl⟩

/-! ### Installing -/

/-- What an installation does: it raises, replays a request, confirms a record or makes one. -/
inductive InstallEffect (fingerprint : Json → String) (surroundings : InstallSurroundings)
    (request : ModelInstallRequest) (located : Except Raised (AbsolutePath × AbsolutePath))
    (store : InstalledModels) : Except Raised (InstallationRecord × Bool) → InstalledModels → Prop
  | raised (e : Raised) :
    InstallEffect fingerprint surroundings request located store (.error e) store
  | replayed {replay : InstallMutation} {row : InstalledRow}
    (hreplay : store.mutations.get? request.client_request_identifier = some replay)
    (hfingerprint : replay.fingerprint = install_fingerprint fingerprint request)
    (hrow : store.models.get? replay.model_identifier = some row) :
    InstallEffect fingerprint surroundings request located store (.ok (row.payload, false)) store
  | confirmed {directory root : AbsolutePath} {row : InstalledRow} {mutation : InstallMutation}
    (hnew : store.mutations.get? request.client_request_identifier = none)
    (hlocated : located = .ok (directory, root))
    (hrow : store.models.get? directory.name = some row) :
    InstallEffect fingerprint surroundings request located store (.ok (row.payload, false))
      (insert_mutation request.client_request_identifier mutation store)
  | created {directory : AbsolutePath} {row : InstalledRow} {mutation : InstallMutation}
    (hnew : store.mutations.get? request.client_request_identifier = none)
    (hlocated : located = .ok (directory, row.root))
    (hfree : store.models.get? directory.name = none)
    (hname : row.payload.model_identifier = directory.name)
    (hholds : HoldsPair surroundings row) :
    InstallEffect fingerprint surroundings request located store (.ok (row.payload, true))
      (insert_mutation request.client_request_identifier mutation (insert_model row store))

lemma install_cases {outcome : Except Raised (InstallationRecord × Bool)}
    (h : install surroundings fingerprint request located store = (outcome, after)) :
    InstallEffect fingerprint surroundings request located store outcome after := by
  rcases connection_cases h with ⟨⟨e, rfl⟩, rfl⟩ | ⟨result, rfl, hblock⟩
  · exact .raised e
  obtain ⟨_, -, hblock⟩ := bind_eq_ok.mp hblock
  cases hreplay : store.mutations.get? request.client_request_identifier with
  | some replay =>
    simp only [hreplay] at hblock
    obtain ⟨_, hfingerprint, hblock⟩ := bind_eq_ok.mp hblock
    obtain ⟨model, hread, hblock⟩ := bind_eq_ok.mp hblock
    obtain ⟨row, directory, hrow, -, rfl⟩ := read_model_eq_ok hread
    obtain ⟨rfl, rfl⟩ := Prod.mk.inj (pure_eq_ok.mp hblock)
    exact .replayed hreplay (not_not.mp (raise_if_eq_ok.mp hfingerprint)) hrow
  | none =>
    simp only [hreplay] at hblock
    obtain ⟨⟨pair_root, root⟩, hlocated, hblock⟩ := bind_eq_ok.mp hblock
    obtain ⟨directory, havailable, hblock⟩ := bind_eq_ok.mp hblock
    obtain rfl := available_directory_eq_ok havailable
    obtain ⟨⟨manifest, verification⟩, hverified, hblock⟩ := bind_eq_ok.mp hblock
    obtain ⟨⟨⟨model, created⟩, changed⟩, hrecord, hblock⟩ := bind_eq_ok.mp hblock
    obtain ⟨_, -, hblock⟩ := bind_eq_ok.mp hblock
    obtain ⟨rfl, rfl⟩ := Prod.mk.inj (pure_eq_ok.mp hblock)
    obtain ⟨existing, hexisting, hrecord⟩ := bind_eq_ok.mp hrecord
    have hrow := select_model_eq_ok hexisting
    cases existing with
    | some row =>
      obtain ⟨_, -, hrecord⟩ := bind_eq_ok.mp hrecord
      obtain ⟨hmodel, rfl⟩ := Prod.mk.inj (pure_eq_ok.mp hrecord)
      obtain ⟨rfl, rfl⟩ := Prod.mk.inj hmodel
      exact .confirmed hreplay hlocated hrow
    | none =>
      obtain ⟨_, -, hrecord⟩ := bind_eq_ok.mp hrecord
      obtain ⟨_, -, hrecord⟩ := bind_eq_ok.mp hrecord
      obtain ⟨hmodel, rfl⟩ := Prod.mk.inj (pure_eq_ok.mp hrecord)
      obtain ⟨rfl, rfl⟩ := Prod.mk.inj hmodel
      have hholds : HoldsPair surroundings
          { payload := installed_model surroundings request directory manifest
            package_directory := directory
            root := root } := ⟨directory, (manifest, verification), havailable, hverified, rfl⟩
      exact .created hreplay hlocated hrow rfl hholds

/-- The recorded directory that an installation relies on without checking it still holds its pair:
that of the model of a repeated request, or of a model with the same name. -/
def ReliesOnPair (surroundings : InstallSurroundings) (request : ModelInstallRequest)
    (located : Except Raised (AbsolutePath × AbsolutePath)) (store : InstalledModels) : Prop :=
  match store.mutations.get? request.client_request_identifier with
  | some replay =>
    ∀ row, store.models.get? replay.model_identifier = some row → HoldsPair surroundings row
  | none =>
    ∀ directory root, located = .ok (directory, root) →
      ∀ row, store.models.get? directory.name = some row → HoldsPair surroundings row

lemma reliesOnPair_of_replayed {replay : InstallMutation}
    (hreplay : store.mutations.get? request.client_request_identifier = some replay)
    (hrow : store.models.get? replay.model_identifier = some row) :
    ReliesOnPair surroundings request located store ↔ HoldsPair surroundings row := by
  rw [ReliesOnPair, hreplay]
  constructor
  · intro h
    exact h row hrow
  · intro h row' hrow'
    obtain rfl := Option.some_inj.mp (hrow.symm.trans hrow')
    exact h

lemma reliesOnPair_of_new
    (hnew : store.mutations.get? request.client_request_identifier = none)
    (hlocated : located = .ok (directory, root)) :
    ReliesOnPair surroundings request located store ↔
      ∀ row, store.models.get? directory.name = some row → HoldsPair surroundings row := by
  rw [ReliesOnPair, hnew, hlocated]
  constructor
  · intro h
    exact h directory root rfl
  · rintro h directory' root' heq
    obtain ⟨rfl, rfl⟩ := Prod.mk.inj (Except.ok.inj heq)
    exact h

/-- What an installation raises changes nothing. -/
lemma InstallEffect.unchanged {e : Raised}
    (h : InstallEffect fingerprint surroundings request located store (.error e) after) :
    after = store := by
  cases h with
  | raised => rfl

/-- A model that is returned is usable exactly when it relies on no pair that is gone. -/
lemma InstallEffect.usable_iff {created : Bool}
    (h : InstallEffect fingerprint surroundings request located store (.ok (model, created))
      after) :
    Usable surroundings after model ↔ ReliesOnPair surroundings request located store := by
  cases h with
  | replayed hreplay hfingerprint hrow =>
    exact (ModelInstallation.usable_iff hrow).trans (reliesOnPair_of_replayed hreplay hrow).symm
  | @confirmed directory root row mutation hnew hlocated hrow =>
    have hafter : (insert_mutation request.client_request_identifier mutation
        store).models.get? directory.name = some row := hrow
    rw [reliesOnPair_of_new hnew hlocated]
    refine (ModelInstallation.usable_iff hafter).trans ⟨fun h row' hrow' => ?_, fun h => h row hrow⟩
    obtain rfl := Option.some_inj.mp (hrow.symm.trans hrow')
    exact h
  | @created directory row mutation hnew hlocated hfree hname hholds =>
    have hafter : (insert_mutation request.client_request_identifier mutation
        (insert_model row store)).models.get? row.payload.model_identifier = some row :=
      (Dict.get?_insert ..).trans (if_pos rfl)
    rw [reliesOnPair_of_new hnew hlocated]
    refine iff_of_true ((ModelInstallation.usable_iff hafter).mpr hholds) fun row' hrow' => ?_
    exact absurd (hfree.symm.trans hrow') (by simp)

/-! ### Histories -/

/-- A call that changes the tables, with what it meets; the export directories of two events have
nothing to do with each other. -/
inductive InstallEvent where
  | install (request : ModelInstallRequest)
    (located : Except Raised (AbsolutePath × AbsolutePath)) (surroundings : InstallSurroundings)
  | remove (model_identifier : String) (surroundings : InstallSurroundings)

def InstallEvent.met : InstallEvent → InstallSurroundings
  | .install _ _ surroundings => surroundings
  | .remove _ surroundings => surroundings

/-- The tables after a call. -/
def InstallEvent.apply (fingerprint : Json → String) (store : InstalledModels) :
    InstallEvent → InstalledModels
  | .install request located surroundings =>
    (ModelInstallation.install surroundings fingerprint request located store).2
  | .remove model_identifier surroundings =>
    (ModelInstallation.remove surroundings model_identifier store).2

/-- The tables after a sequence of calls. -/
def recorded_after (fingerprint : Json → String) (events : List InstallEvent) : InstalledModels :=
  events.foldl (InstallEvent.apply fingerprint) .created

/-- After any sequence of calls, an installation that raises leaves the tables as they are, and one
that returns a model returns a usable one exactly when it relies on no pair that is gone. -/
theorem installation_usable_iff {events : List InstallEvent}
    {outcome : Except Raised (InstallationRecord × Bool)}
    (h : install surroundings fingerprint request located (recorded_after fingerprint events)
      = (outcome, after)) :
    (∀ e, outcome = .error e → after = recorded_after fingerprint events) ∧
    ∀ model created, outcome = .ok (model, created) →
      (Usable surroundings after model ↔
        ReliesOnPair surroundings request located (recorded_after fingerprint events)) := by
  constructor
  · rintro e rfl
    exact (install_cases h).unchanged
  · rintro model created rfl
    exact (install_cases h).usable_iff

/-! ### Export directories that stay -/

/-- The same roots, directories and packages. -/
def SameExports (surroundings surroundings' : InstallSurroundings) : Prop :=
  surroundings.roots = surroundings'.roots ∧ surroundings.tree = surroundings'.tree ∧
    surroundings.runtime = surroundings'.runtime

lemma HoldsPair.congr {surroundings' : InstallSurroundings}
    (hsame : SameExports surroundings surroundings') (h : HoldsPair surroundings row) :
    HoldsPair surroundings' row := by
  obtain ⟨hroots, htree, hruntime⟩ := hsame
  rw [HoldsPair, recorded_directory, hroots, htree, hruntime] at h
  exact h

/-- Every recorded directory holds its pair. -/
def HoldsPairs (surroundings : InstallSurroundings) (store : InstalledModels) : Prop :=
  ∀ model_identifier row, store.models.get? model_identifier = some row →
    HoldsPair surroundings row

lemma HoldsPairs.insert_model {identifier : String} {mutation : InstallMutation}
    (h : HoldsPairs surroundings store) (hholds : HoldsPair surroundings row) :
    HoldsPairs surroundings
      (insert_mutation identifier mutation (ModelInstallation.insert_model row store)) := by
  intro model_identifier row' hrow'
  have hget := (Dict.get?_insert ..).symm.trans hrow'
  split_ifs at hget
  · obtain rfl := Option.some_inj.mp hget
    exact hholds
  · exact h model_identifier row' hget

lemma HoldsPairs.delete_model {removed : String} (h : HoldsPairs surroundings store) :
    HoldsPairs surroundings (ModelInstallation.delete_model removed store) := by
  intro model_identifier row hrow
  have hget := (Dict.get?_erase ..).symm.trans hrow
  split_ifs at hget
  exact h model_identifier row hget

/-- A record is made for a pair that its directory holds. -/
lemma HoldsPairs.apply {event : InstallEvent} (h : HoldsPairs surroundings store)
    (hsame : SameExports event.met surroundings) :
    HoldsPairs surroundings (event.apply fingerprint store) := by
  cases event with
  | install request located found =>
    obtain ⟨outcome, after, hcall⟩ : ∃ outcome after,
        install found fingerprint request located store = (outcome, after) :=
      ⟨_, _, Prod.mk.eta.symm⟩
    show HoldsPairs surroundings (install found fingerprint request located store).2
    rw [hcall]
    cases install_cases hcall with
    | raised e => exact h
    | replayed => exact h
    | confirmed => exact h
    | created hnew hlocated hfree hname hholds => exact h.insert_model (hholds.congr hsame)
  | remove model_identifier found =>
    obtain ⟨outcome, after, hcall⟩ : ∃ outcome after,
        remove found model_identifier store = (outcome, after) := ⟨_, _, Prod.mk.eta.symm⟩
    show HoldsPairs surroundings (remove found model_identifier store).2
    rw [hcall]
    rcases connection_cases hcall with ⟨-, rfl⟩ | ⟨_, -, hblock⟩
    · exact h
    · obtain ⟨_, -, hblock⟩ := bind_eq_ok.mp hblock
      obtain ⟨_, -, hblock⟩ := bind_eq_ok.mp hblock
      obtain ⟨-, rfl⟩ := Prod.mk.inj (pure_eq_ok.mp hblock)
      exact h.delete_model

lemma HoldsPairs.recorded_after {events : List InstallEvent}
    (hsame : ∀ event ∈ events, SameExports event.met surroundings) :
    HoldsPairs surroundings (ModelInstallation.recorded_after fingerprint events) := by
  induction events using List.reverseRecOn with
  | nil =>
    intro model_identifier row hrow
    exact absurd hrow (by simp [ModelInstallation.recorded_after, InstalledModels.created])
  | append_singleton past event ih =>
    rw [ModelInstallation.recorded_after, List.foldl_append]
    refine HoldsPairs.apply (ih fun other hother => ?_) ?_
    · exact hsame other (List.mem_append_left _ hother)
    · exact hsame event (List.mem_append_right _ (List.mem_singleton_self event))

/-- While the export directories stay as they are, every model that is returned is usable. -/
theorem usable_while_exports_stay {events : List InstallEvent} {created : Bool}
    (hsame : ∀ event ∈ events, SameExports event.met surroundings)
    (h : install surroundings fingerprint request located (recorded_after fingerprint events)
      = (.ok (model, created), after)) : Usable surroundings after model := by
  have hholds : HoldsPairs surroundings (recorded_after fingerprint events) :=
    HoldsPairs.recorded_after hsame
  refine (install_cases h).usable_iff.mpr ?_
  rw [ReliesOnPair]
  split
  · exact hholds _
  · exact fun directory _ _ => hholds directory.name

/-! ### The abstract store -/

/-- The records that the store of the job service stands for. -/
def StandsFor (store : InstalledModels) (installed : InstalledModelStore) : Prop :=
  ∀ model_identifier, installed.models.get? model_identifier
    = (store.models.get? model_identifier).map fun row => row.payload.toInstalledModel

/-- What resolves to a directory resolves in the store of the job service. -/
theorem standsFor_resolve {installed : InstalledModelStore} (h : StandsFor store installed)
    (hresolve : resolve surroundings model_identifier store = (.ok (model, directory), after)) :
    installed.resolve { database := true, available := true } model_identifier
      = .ok model.toInstalledModel := by
  rcases connection_cases hresolve with ⟨⟨e, he⟩, -⟩ | ⟨result, hok, hblock⟩
  · exact absurd he (by simp)
  · obtain rfl := Except.ok.inj hok
    obtain ⟨read, hread, hblock⟩ := bind_eq_ok.mp hblock
    obtain ⟨row, _, hrow, -, rfl⟩ := read_model_eq_ok hread
    obtain ⟨selected, hselected, hblock⟩ := bind_eq_ok.mp hblock
    obtain rfl := (select_model_eq_ok hselected).symm.trans hrow
    obtain ⟨_, -, hblock⟩ := bind_eq_ok.mp hblock
    obtain ⟨hmodel, -⟩ := Prod.mk.inj (pure_eq_ok.mp hblock)
    obtain ⟨rfl, -⟩ := Prod.mk.inj hmodel
    have hinstalled := h model_identifier
    rw [hrow] at hinstalled
    simp [InstalledModelStore.resolve, hinstalled, raise_if, bind, Except.bind, pure, Except.pure]

/-- A model that is returned has been recorded in the store of the job service. -/
theorem standsFor_install {installed : InstalledModelStore} {created : Bool}
    (h : StandsFor store installed)
    (hinstall : install surroundings fingerprint request located store
      = (.ok (model, created), after)) :
    ∃ installed', installed.record model.toInstalledModel = .ok installed' ∧
      StandsFor after installed' := by
  have hknown : ∀ {model_identifier row}, store.models.get? model_identifier = some row →
      installed.record row.payload.toInstalledModel = .ok installed := by
    intro model_identifier row hrow
    have hinstalled := h model_identifier
    rw [hrow] at hinstalled
    obtain rfl := store.keyed model_identifier row hrow
    simp [InstalledModelStore.record, hinstalled, raise_if, bind, Except.bind, pure, Except.pure]
  cases install_cases hinstall with
  | replayed hreplay hfingerprint hrow => exact ⟨installed, hknown hrow, h⟩
  | confirmed hnew hlocated hrow => exact ⟨installed, hknown hrow, h⟩
  | @created directory row mutation hnew hlocated hfree hname hholds =>
    have hinstalled := h row.payload.model_identifier
    rw [hname, hfree, ← hname] at hinstalled
    refine ⟨_, by simp [InstalledModelStore.record, hinstalled, pure, Except.pure]; rfl, ?_⟩
    intro model_identifier
    show (installed.models.insert _ _).get? _ = ((store.models.insert _ _).get? _).map _
    rw [Dict.get?_insert, Dict.get?_insert]
    split_ifs
    · rfl
    · exact h model_identifier

/-- A removal forgets the model in the store of the job service. -/
theorem standsFor_remove {installed : InstalledModelStore} (h : StandsFor store installed)
    (hremove : remove surroundings model_identifier store = (.ok (), after)) :
    ∃ installed', installed.remove { database := true, available := true } model_identifier
      = .ok installed' ∧ StandsFor after installed' := by
  rcases connection_cases hremove with ⟨⟨e, he⟩, -⟩ | ⟨_, -, hblock⟩
  · exact absurd he (by simp)
  · obtain ⟨_, -, hblock⟩ := bind_eq_ok.mp hblock
    obtain ⟨_, hthere, hblock⟩ := bind_eq_ok.mp hblock
    obtain ⟨-, rfl⟩ := Prod.mk.inj (pure_eq_ok.mp hblock)
    have hinstalled : (installed.models.get? model_identifier).isNone = false := by
      rw [h model_identifier, Option.isNone_map]
      exact Bool.eq_false_of_not_eq_true (raise_if_eq_ok.mp hthere)
    refine ⟨{ models := installed.models.erase model_identifier }, ?_, fun other => ?_⟩
    · simp [InstalledModelStore.remove, hinstalled, raise_if, bind, Except.bind, pure, Except.pure]
    · show (installed.models.erase _).get? _ = ((store.models.erase _).get? _).map _
      rw [Dict.get?_erase, Dict.get?_erase]
      split_ifs
      · rfl
      · exact h other

/-! ### A folder of the same name -/

local instance lawful_paths : LawfulBEq AbsolutePath := inferInstance

def workspace_root : AbsolutePath := ["workspace"]

def first_pair : AbsolutePath := ["workspace", "models", "pair"]

def second_pair : AbsolutePath := ["workspace", ".runtime", "run", "models", "pair"]

/-- The packages of a pair, whose files hold one byte that tells them apart. -/
def pair_files : List (AbsolutePath × UInt8) :=
  [(["encoder", "manifest.json"], 0), (["encoder", "model.pt2"], 2), (["encoder", "runtime.py"], 2),
    (["decoder", "manifest.json"], 1), (["decoder", "model.pt2"], 2), (["decoder", "runtime.py"], 2),
    (["verification.json"], 3)]

/-- A workspace with one export pair and nothing else. -/
def tree_with (pair : AbsolutePath) : ExportTree where
  is_symlink _ := .ok false
  is_dir path := .ok (path ∈ [pair, pair.child "encoder", pair.child "decoder"])
  is_file path := .ok (path = pair.child "verification.json")
  resolve path := .ok path
  open_file path :=
    match pair_files.find? fun file => pair ++ file.1 = path with
    | none => .error .os_error
    | some file => .ok { regular := true, size := 1, content := [file.2] }

def pair_manifest (role : PackageRole) : ModelExportManifest where
  compatibility_identifier := "dense_v1_aaaaaaaaaaaaaaaaaaaaaaaaaaaaaaaaaaaaaaaaaaaaaaaaaaaaaaaaaaaaaaaa"
  source_identifier := "run"
  format_version := 1
  role := role
  dependencies := [("torch", "2.14.0")]
  files := [("model.pt2", { checksum := "checksum", size_bytes := 1 }),
    ("runtime.py", { checksum := "checksum", size_bytes := 1 })]

def pair_runtime : ExportRuntime where
  python_version := (3, 12)
  version _ := .ok "2.14.0+cpu"
  sha256 _ := "checksum"
  read_manifest content :=
    if content = [0] then .ok (pair_manifest .encoder)
    else if content = [1] then .ok (pair_manifest .decoder)
    else .error .value_error
  read_verification _ :=
    .ok { compatibility_identifier := (pair_manifest .encoder).compatibility_identifier }

def surroundings_with (pair : AbsolutePath) : InstallSurroundings where
  roots := [workspace_root]
  tree := tree_with pair
  runtime := pair_runtime
  now := "now"

/-- The pair of the first folder is installed. -/
def first_install : InstallEvent :=
  .install { client_request_identifier := "first", export_reference := "a" }
    (.ok (first_pair, workspace_root)) (surroundings_with first_pair)

/-- Its folder is replaced by one of the same name elsewhere, which is installed next. -/
def second_install : Except Raised (InstallationRecord × Bool) × InstalledModels :=
  install (surroundings_with second_pair) (fun _ => "fingerprint")
    { client_request_identifier := "second", export_reference := "b" }
    (.ok (second_pair, workspace_root)) (recorded_after (fun _ => "fingerprint") [first_install])

def installed_pair : InstallationRecord where
  model_identifier := "pair"
  compatibility_identifier := (pair_manifest .encoder).compatibility_identifier
  source_identifier := "run"
  format_version := 1
  installed_at := "now"
  export_reference := "a"

lemma second_install_returns : second_install.1 = .ok (installed_pair, false) := by
  decide +kernel

lemma second_install_unresolved :
    (resolve (surroundings_with second_pair).readable "pair" second_install.2).1.isOk = false := by
  decide +kernel

/-- The second installation returns the first model, whose folder is gone. -/
theorem second_install_unusable :
    ¬ ∀ (fingerprint : Json → String) (events : List InstallEvent)
      (surroundings : InstallSurroundings) (request : ModelInstallRequest)
      (located : Except Raised (AbsolutePath × AbsolutePath))
      (outcome : Except Raised (InstallationRecord × Bool)) (after : InstalledModels),
      install surroundings fingerprint request located (recorded_after fingerprint events)
          = (outcome, after) →
        (∀ e, outcome = .error e → after = recorded_after fingerprint events) ∧
        ∀ model created, outcome = .ok (model, created) → Usable surroundings after model := by
  intro husable
  have hmeans := husable _ _ _ _ _ _ _ (Prod.mk.eta.symm : second_install = _)
  obtain ⟨⟨directory, _, hresolve, -⟩, -⟩ := hmeans.2 _ _ second_install_returns
  have hunresolved : (resolve (surroundings_with second_pair).readable
      installed_pair.model_identifier second_install.2).1.isOk = false := second_install_unresolved
  rw [hresolve] at hunresolved
  exact absurd hunresolved (by simp [Except.isOk, Except.toBool])

theorem second_install_means :
    (∀ e, second_install.1 = .error e →
      second_install.2 = recorded_after (fun _ => "fingerprint") [first_install]) ∧
    ∀ model created, second_install.1 = .ok (model, created) →
      (Usable (surroundings_with second_pair) second_install.2 model ↔
        ReliesOnPair (surroundings_with second_pair)
          { client_request_identifier := "second", export_reference := "b" }
          (.ok (second_pair, workspace_root))
          (recorded_after (fun _ => "fingerprint") [first_install])) :=
  installation_usable_iff (Prod.mk.eta.symm : second_install = _)

end ModelInstallation

end StegoLab

import StegoLab.Datasets.InventoryProperties
import StegoLab.Datasets.Preparation

/-!
# What a stage holds

The import accounts for every selected entry once, and it leaves only files that a record names
unless a call that prepares an image leaves another file behind.
-/

namespace StegoLab

variable {library : SourceLibrary} {tree : SourceTree} {request : DatasetPreparationRequest}
  {inventory : DatasetInventory} {faults : String → ImageFaults} {staged staged' : StagedImport}
  {item : SourceFile}

/-! ### Inventories -/

/-- What the inventory rejects of an entry. -/
def early_rejection (library : SourceLibrary) (tree : SourceTree) (metadata : Option UhdMetadata)
    (item : SourceFile) : Option DatasetRejection :=
  match check_item library tree metadata item with
  | .ok rejection => rejection
  | .error _ => none

/-- The inventory keeps the entry for the import. -/
def Kept (inventory : DatasetInventory) (item : SourceFile) : Prop :=
  item.relative_path ∉ inventory.rejections.map (·.source_path)

instance decidable_kept (inventory : DatasetInventory) : DecidablePred (Kept inventory) :=
  fun item => inferInstanceAs (Decidable (item.relative_path ∉ _))

lemma early_rejection_path {rejection : DatasetRejection} {metadata : Option UhdMetadata}
    (h : early_rejection library tree metadata item = some rejection) :
    ∃ reason, rejection = rejection_of tree metadata item reason := by
  rw [early_rejection] at h
  split at h
  · rename_i hchecked
    obtain ⟨_, _, hchecked⟩ := bind_eq_ok.mp hchecked
    obtain ⟨reason, _, hchecked⟩ := bind_eq_ok.mp hchecked
    rw [← pure_eq_ok.mp hchecked] at h
    obtain ⟨reason, _, rfl⟩ := Option.map_eq_some_iff.mp h
    exact ⟨reason, rfl⟩
  · exact absurd h (by simp)

lemma Inventoried.checked (h : Inventoried library tree request inventory) :
    (∀ item ∈ inventory.selected, check_item library tree inventory.metadata item =
        .ok (early_rejection library tree inventory.metadata item)) ∧
      inventory.rejections =
        inventory.selected.filterMap (early_rejection library tree inventory.metadata) := by
  refine filterMapM_eq_ok h.rejections fun item _ value hvalue => ?_
  rw [early_rejection, hvalue]

/-- The entries that the inventory keeps are those that it does not reject. -/
lemma Inventoried.kept_iff (h : Inventoried library tree request inventory)
    (hitem : item ∈ inventory.selected) :
    Kept inventory item ↔ early_rejection library tree inventory.metadata item = none := by
  rw [Kept, h.checked.2, ← not_iff_not, not_not, ← ne_eq, Option.ne_none_iff_exists']
  constructor
  · intro hmem
    obtain ⟨rejection, hrejection, hpath⟩ := List.mem_map.mp hmem
    obtain ⟨other, hother, hearly⟩ := List.mem_filterMap.mp hrejection
    obtain ⟨reason, rfl⟩ := early_rejection_path hearly
    obtain rfl := List.inj_on_of_nodup_map h.nodup_paths hother hitem hpath
    exact ⟨_, hearly⟩
  · rintro ⟨rejection, hearly⟩
    refine List.mem_map.mpr ⟨rejection, List.mem_filterMap.mpr ⟨item, hitem, hearly⟩, ?_⟩
    obtain ⟨reason, rfl⟩ := early_rejection_path hearly
    rfl

/-! ### Accounts -/

/-- An entry with its declared label. -/
def item_key (metadata : Option UhdMetadata) (item : SourceFile) : String × Option String :=
  (item.relative_path, (metadata_row metadata item.relative_path).map (·.upstream_split))

def record_key (record : DatasetImageRecord) : String × Option String :=
  (record.source_path, record.upstream_split)

def rejection_key (rejection : DatasetRejection) : String × Option String :=
  (rejection.source_path, rejection.upstream_split)

/-- The entries that records and rejections account for. -/
def account_keys (records : List DatasetImageRecord) (rejections : List DatasetRejection) :
    List (String × Option String) :=
  records.map record_key ++ rejections.map rejection_key

/-- The rejections of an inventory account for the entries that it does not keep. -/
lemma Inventoried.keys_rejections (h : Inventoried library tree request inventory) :
    inventory.rejections.map rejection_key =
      (inventory.selected.filter (¬ Kept inventory ·)).map (item_key inventory.metadata) := by
  have hkept : ∀ item ∈ inventory.selected, Kept inventory item ↔
      early_rejection library tree inventory.metadata item = none := fun _ => h.kept_iff
  rw [h.checked.2, List.map_filterMap]
  generalize inventory.selected = items at hkept
  induction items with
  | nil => rfl
  | cons item items ih =>
    obtain ⟨hitem, hitems⟩ := List.forall_mem_cons.mp hkept
    cases hearly : early_rejection library tree inventory.metadata item with
    | none =>
      rw [List.filterMap_cons_none (by rw [hearly]; rfl), ih hitems, List.filter_cons_of_neg]
      simp [hitem.mpr hearly]
    | some rejection =>
      obtain ⟨reason, rfl⟩ := early_rejection_path hearly
      rw [List.filterMap_cons_some (by rw [hearly]; rfl), ih hitems, List.filter_cons_of_pos,
        List.map_cons]
      · rfl
      · simp [hitem, hearly]

/-- Preparing an image changes the cache and the files only. -/
lemma cached_image_fields {outcome : Except ApplicationFailure PreparedImage} {digest : String}
    {faults : ImageFaults} (h : cached_image library faults digest staged = (outcome, staged')) :
    staged'.records = staged.records ∧ staged'.rejections = staged.rejections := by
  rw [cached_image] at h
  split at h
  · obtain ⟨-, rfl⟩ := Prod.mk.inj h
    exact ⟨rfl, rfl⟩
  · split at h
    · obtain ⟨-, rfl⟩ := Prod.mk.inj h
      exact ⟨rfl, rfl⟩
    · obtain ⟨-, rfl⟩ := Prod.mk.inj h
      exact ⟨rfl, rfl⟩

/-- What importing an entry can do. -/
inductive Staged (library : SourceLibrary) (tree : SourceTree) (inventory : DatasetInventory)
    (faults : ImageFaults) (item : SourceFile) (staged : StagedImport) : StagedImport → Prop where
  | rejected (h : ¬ Kept inventory item) : Staged library tree inventory faults item staged staged
  | accepted {image : PreparedImage} {prepared : StagedImport} (h : Kept inventory item)
      (hprepared : cached_image library faults (tree.digest item.relative_path) staged
        = (.ok image, prepared))
      (hvalid : (record_of tree inventory.metadata item image).valid = true) :
      Staged library tree inventory faults item staged
        { prepared with
          records := staged.records ++ [record_of tree inventory.metadata item image] }
  | refused {failure : ApplicationFailure} {prepared : StagedImport} (h : Kept inventory item)
      (hprepared : cached_image library faults (tree.digest item.relative_path) staged
        = (.error failure, prepared))
      (hcode : failure.code ∈ ["image_invalid", "image_color", "image_limits"])
      (hvalid : (rejection_of tree inventory.metadata item failure.code).valid = true) :
      Staged library tree inventory faults item staged
        { prepared with
          rejections := staged.rejections ++
            [rejection_of tree inventory.metadata item failure.code] }

lemma stage_item_eq_ok (h : stage_item library tree inventory faults staged item = .ok staged') :
    Staged library tree inventory (faults item.relative_path) item staged staged' := by
  rw [stage_item] at h
  split_ifs at h with hrejected
  · obtain rfl := Except.ok.inj h
    exact .rejected (not_not.mpr hrejected)
  · split at h
    · rename_i image prepared hprepared
      obtain ⟨_, hvalid, h⟩ := bind_eq_ok.mp h
      obtain rfl := pure_eq_ok.mp h
      rw [(cached_image_fields hprepared).1]
      exact .accepted hrejected hprepared (not_not.mp (raise_if_eq_ok.mp hvalid))
    · rename_i failure prepared hprepared
      split_ifs at h with hcode
      · obtain ⟨_, hvalid, h⟩ := bind_eq_ok.mp h
        obtain rfl := pure_eq_ok.mp h
        rw [(cached_image_fields hprepared).2]
        exact .refused hrejected hprepared hcode (not_not.mp (raise_if_eq_ok.mp hvalid))
      · exact absurd h (by simp [fail])

/-- Importing an entry accounts for it, unless the inventory did. -/
lemma Staged.account_keys {faults : ImageFaults}
    (h : Staged library tree inventory faults item staged staged') :
    (account_keys staged'.records staged'.rejections).Perm
      (account_keys staged.records staged.rejections ++
        ([item].filter (Kept inventory ·)).map (item_key inventory.metadata)) := by
  cases h with
  | rejected h => simp [h]
  | @accepted image prepared h hprepared hvalid =>
    obtain ⟨-, hrejections⟩ := cached_image_fields hprepared
    have hkey : record_key (record_of tree inventory.metadata item image) =
        item_key inventory.metadata item := rfl
    simp only [StegoLab.account_keys, hrejections, List.map_append, List.map_cons, List.map_nil, hkey,
      h, decide_true, List.filter_cons_of_pos, List.filter_nil, List.append_assoc]
    exact List.Perm.append_left _ List.perm_append_comm
  | @refused failure prepared h hprepared hcode hvalid =>
    obtain ⟨hrecords, -⟩ := cached_image_fields hprepared
    have hkey : rejection_key (rejection_of tree inventory.metadata item failure.code) =
        item_key inventory.metadata item := rfl
    simp only [StegoLab.account_keys, hrecords, List.map_append, List.map_cons, List.map_nil, hkey,
      h, decide_true, List.filter_cons_of_pos, List.filter_nil, List.append_assoc]
    exact List.Perm.refl _

/-- The stage accounts for every selected entry once. -/
theorem Inventoried.keys_staged (h : Inventoried library tree request inventory)
    (hstaged : stage_images library tree inventory faults = .ok staged) :
    (account_keys staged.records staged.rejections).Perm
      (inventory.selected.map (item_key inventory.metadata)) := by
  have hloop : ∀ (items : List SourceFile) (start : StagedImport),
      items.foldlM (stage_item library tree inventory faults) start = .ok staged →
      (account_keys staged.records staged.rejections).Perm (account_keys start.records start.rejections ++
        (items.filter (Kept inventory ·)).map (item_key inventory.metadata)) := by
    intro items
    induction items with
    | nil =>
      intro start hfold
      obtain rfl := pure_eq_ok.mp hfold
      simp
    | cons item items ih =>
      intro start hfold
      rw [List.foldlM_cons] at hfold
      obtain ⟨next, hnext, hfold⟩ := bind_eq_ok.mp hfold
      refine (ih next hfold).trans (((stage_item_eq_ok hnext).account_keys.append_right _).trans ?_)
      rw [List.append_assoc, ← List.map_append, ← List.filter_append, List.singleton_append]
  have hsplit : (inventory.selected.filter (Kept inventory ·) ++
      inventory.selected.filter (¬ Kept inventory ·)).Perm inventory.selected := by
    simpa using List.filter_append_perm (Kept inventory ·) inventory.selected
  refine (hloop _ _ hstaged).trans ?_
  rw [account_keys, List.map_nil, List.nil_append, h.keys_rejections, ← List.map_append]
  exact (List.perm_append_comm.trans hsplit).map _

/-! ### Files -/

/-- The image of the entry decodes. -/
def Decodes (library : SourceLibrary) (tree : SourceTree) (item : SourceFile) : Prop :=
  (library.prepare_image (tree.digest item.relative_path)).isOk = true

/-- An image is prepared for the entry: the inventory keeps it, and no earlier entry with the same
content was accepted. -/
structure Attempted (library : SourceLibrary) (tree : SourceTree) (inventory : DatasetInventory)
    (item : SourceFile) : Prop where
  selected : item ∈ inventory.selected
  kept : Kept inventory item
  first : ∀ earlier ∈ inventory.selected.takeWhile (· ≠ item), Kept inventory earlier →
    tree.digest earlier.relative_path = tree.digest item.relative_path →
      ¬ Decodes library tree item

/-- The file system leaves a file behind: the temporary output cannot be removed, or the published
output cannot be read back. -/
def LeavesFile (library : SourceLibrary) (tree : SourceTree) (faults : String → ImageFaults)
    (item : SourceFile) : Prop :=
  (faults item.relative_path).temporary ≠ none ∨
    Decodes library tree item ∧ (faults item.relative_path).unreadable = true

/-- Records have cached images, and cached images are decoded contents with their files. -/
structure Consistent (library : SourceLibrary) (tree : SourceTree) (inventory : DatasetInventory)
    (staged : StagedImport) : Prop where
  cached : ∀ digest image, staged.cached digest = some image →
    library.prepare_image digest = .ok image ∧ prepared_path digest ∈ staged.images.map Prod.fst
  records : ∀ record ∈ staged.records, record.valid = true ∧
    ∃ item ∈ inventory.selected, Kept inventory item ∧ ∃ image,
      staged.cached (tree.digest item.relative_path) = some image ∧
        record = record_of tree inventory.metadata item image
  rejections : ∀ rejection ∈ staged.rejections, rejection.valid = true

/-- Every file is the prepared file of a record, and the cache holds the contents seen so far. -/
structure Tidy (library : SourceLibrary) (tree : SourceTree) (inventory : DatasetInventory)
    (seen : List SourceFile) (staged : StagedImport) : Prop where
  named : ∀ path ∈ staged.images.map Prod.fst, ∃ record ∈ staged.records,
    record.prepared_path = path
  nodup : (staged.images.map Prod.fst).Nodup
  cached : ∀ item ∈ seen, Kept inventory item → Decodes library tree item →
    staged.cached (tree.digest item.relative_path) ≠ none
  seen : ∀ digest, staged.cached digest ≠ none → ∃ item ∈ seen, Kept inventory item ∧
    tree.digest item.relative_path = digest

/-- A file that no record can name: a temporary output, or the output of a content that is not in
the cache. -/
def Untidy (staged : StagedImport) : Prop :=
  ∃ path ∈ staged.images.map Prod.fst, (∃ random, path = temporary_path random) ∨
    ∃ digest, path = prepared_path digest ∧ staged.cached digest = none

lemma mem_leave_temporary {faults : ImageFaults} {images : ImageDirectory} {path : String}
    (h : path ∈ images.map Prod.fst) : path ∈ (leave_temporary faults images).map Prod.fst := by
  rw [leave_temporary]
  split
  · exact h
  · exact List.mem_cons_of_mem _ h

lemma leave_temporary_none {faults : ImageFaults} (h : faults.temporary = none)
    (images : ImageDirectory) : leave_temporary faults images = images := by
  rw [leave_temporary, h]

lemma mem_temporary {faults : ImageFaults} (h : faults.temporary ≠ none) (images : ImageDirectory) :
    ∃ random, temporary_path random ∈ (leave_temporary faults images).map Prod.fst := by
  obtain ⟨⟨random, file⟩, hsome⟩ := Option.ne_none_iff_exists'.mp h
  exact ⟨random, by rw [leave_temporary, hsome]; exact List.mem_cons_self⟩

/-- What preparing an image can do to the files. -/
lemma prepare_cases {faults : ImageFaults} {digest : String} {images images' : ImageDirectory}
    {outcome : Except ApplicationFailure PreparedImage}
    (h : prepare_dataset_image library faults digest images = (outcome, images')) :
    (∃ failure, outcome = .error failure ∧ images' = leave_temporary faults images ∧
      (library.prepare_image digest = .error failure ∨ failure = image_write)) ∨
    ∃ image, library.prepare_image digest = .ok image ∧ prepared_path digest ∉ images.map Prod.fst ∧
      images' = (prepared_path digest, image.file) :: leave_temporary faults images ∧
      outcome = if faults.unreadable then .error image_invalid else .ok image := by
  rw [prepare_dataset_image] at h
  split at h
  · rename_i failure hfailure
    obtain ⟨rfl, rfl⟩ := Prod.mk.inj h
    exact Or.inl ⟨failure, rfl, rfl, Or.inl hfailure⟩
  · rename_i image himage
    split_ifs at h with hwrite hread
    · obtain ⟨rfl, rfl⟩ := Prod.mk.inj h
      exact Or.inl ⟨image_write, rfl, rfl, Or.inr rfl⟩
    all_goals
      obtain ⟨rfl, rfl⟩ := Prod.mk.inj h
      refine Or.inr ⟨image, himage, fun hmem => hwrite (Or.inr (mem_leave_temporary hmem)), rfl, ?_⟩
      simp [hread]

/-- What `cached_image` can do: use the cache, fail, or prepare the image. -/
inductive Cached (library : SourceLibrary) (faults : ImageFaults) (digest : String)
    (staged : StagedImport) :
    Except ApplicationFailure PreparedImage → StagedImport → Prop where
  | hit {image : PreparedImage} (h : staged.cached digest = some image) :
      Cached library faults digest staged (.ok image) staged
  | failed {failure : ApplicationFailure} (h : staged.cached digest = none)
      (hfailure : library.prepare_image digest = .error failure ∨ failure = image_write) :
      Cached library faults digest staged (.error failure)
        { staged with images := leave_temporary faults staged.images }
  | unreadable {image : PreparedImage} (h : staged.cached digest = none)
      (himage : library.prepare_image digest = .ok image)
      (hnew : prepared_path digest ∉ staged.images.map Prod.fst) (hread : faults.unreadable = true) :
      Cached library faults digest staged (.error image_invalid)
        { staged with
          images := (prepared_path digest, image.file) :: leave_temporary faults staged.images }
  | prepared {image : PreparedImage} (h : staged.cached digest = none)
      (himage : library.prepare_image digest = .ok image)
      (hnew : prepared_path digest ∉ staged.images.map Prod.fst)
      (hread : faults.unreadable = false) :
      Cached library faults digest staged (.ok image)
        { staged with
          images := (prepared_path digest, image.file) :: leave_temporary faults staged.images
          cached := Function.update staged.cached digest (some image) }

lemma cached_image_cases {faults : ImageFaults} {digest : String}
    {outcome : Except ApplicationFailure PreparedImage}
    (h : cached_image library faults digest staged = (outcome, staged')) :
    Cached library faults digest staged outcome staged' := by
  rw [cached_image] at h
  split at h
  · rename_i image himage
    obtain ⟨rfl, rfl⟩ := Prod.mk.inj h
    exact .hit himage
  · rename_i hnone
    split at h
    · rename_i failure images hprepared
      obtain ⟨rfl, rfl⟩ := Prod.mk.inj h
      rcases prepare_cases hprepared with ⟨_, houtcome, rfl, hfailure⟩ |
        ⟨image, himage, hnew, rfl, houtcome⟩
      · obtain rfl := Except.error.inj houtcome
        exact .failed hnone hfailure
      · split_ifs at houtcome with hread
        · obtain rfl := Except.error.inj houtcome
          exact .unreadable hnone himage hnew hread
    · rename_i image images hprepared
      obtain ⟨rfl, rfl⟩ := Prod.mk.inj h
      rcases prepare_cases hprepared with ⟨_, houtcome, -⟩ | ⟨image', himage, hnew, rfl, houtcome⟩
      · exact absurd houtcome (by simp)
      · split_ifs at houtcome with hread
        · obtain rfl := Except.ok.inj houtcome
          exact .prepared hnone himage hnew (by simpa using hread)

section Cached

variable {digest : String} {outcome : Except ApplicationFailure PreparedImage}

/-- Files stay. -/
lemma Cached.mem_images {faults : ImageFaults}
    (h : Cached library faults digest staged outcome staged') {path : String}
    (hpath : path ∈ staged.images.map Prod.fst) : path ∈ staged'.images.map Prod.fst := by
  cases h with
  | hit => exact hpath
  | failed => exact mem_leave_temporary hpath
  | unreadable => exact List.mem_cons_of_mem _ (mem_leave_temporary hpath)
  | prepared => exact List.mem_cons_of_mem _ (mem_leave_temporary hpath)

/-- Cached images stay. -/
lemma Cached.cached_mono {faults : ImageFaults}
    (h : Cached library faults digest staged outcome staged') {other : String}
    {image : PreparedImage} (hcached : staged.cached other = some image) :
    staged'.cached other = some image := by
  cases h with
  | hit => exact hcached
  | failed => exact hcached
  | unreadable => exact hcached
  | prepared hnone =>
    have hne : other ≠ digest := by
      rintro rfl
      exact absurd (hnone.symm.trans hcached) (by simp)
    exact (Function.update_of_ne hne _ _).trans hcached

/-- An accepted image is in the cache. -/
lemma Cached.accepted {faults : ImageFaults} {image : PreparedImage}
    (h : Cached library faults digest staged (.ok image) staged') :
    staged'.cached digest = some image := by
  cases h with
  | hit hcached => exact hcached
  | prepared => exact Function.update_self _ _ _

/-- Cached images stay decoded contents with their files. -/
lemma Cached.sound {faults : ImageFaults}
    (h : Cached library faults digest staged outcome staged')
    (hsound : ∀ digest image, staged.cached digest = some image →
      library.prepare_image digest = .ok image ∧ prepared_path digest ∈ staged.images.map Prod.fst)
    (other : String) (image : PreparedImage) (hcached : staged'.cached other = some image) :
    library.prepare_image other = .ok image ∧
      prepared_path other ∈ staged'.images.map Prod.fst := by
  have hold : staged.cached other = some image → library.prepare_image other = .ok image ∧
      prepared_path other ∈ staged'.images.map Prod.fst :=
    fun hcached => ⟨(hsound other image hcached).1, h.mem_images (hsound other image hcached).2⟩
  cases h with
  | hit => exact hold hcached
  | failed => exact hold hcached
  | unreadable => exact hold hcached
  | @prepared prepared hnone himage =>
    by_cases heq : other = digest
    · subst heq
      obtain rfl := Option.some_inj.mp
        ((Function.update_self other (some prepared) staged.cached).symm.trans hcached)
      exact ⟨himage, List.mem_cons_self⟩
    · exact hold ((Function.update_of_ne heq _ _).symm.trans hcached)

/-- A file that no record can name stays. -/
lemma Cached.untidy {faults : ImageFaults}
    (h : Cached library faults digest staged outcome staged') (huntidy : Untidy staged) :
    Untidy staged' := by
  obtain ⟨path, hpath, hunnamed⟩ := huntidy
  refine ⟨path, h.mem_images hpath, hunnamed.imp_right ?_⟩
  rintro ⟨other, rfl, hnone⟩
  refine ⟨other, rfl, ?_⟩
  cases h with
  | hit => exact hnone
  | failed => exact hnone
  | unreadable => exact hnone
  | prepared _ _ hnew =>
    have hne : other ≠ digest := by
      rintro rfl
      exact hnew hpath
    exact (Function.update_of_ne hne _ _).trans hnone

end Cached

/-! ### Steps -/

lemma Untidy.congr (h : Untidy staged) (himages : staged'.images = staged.images)
    (hcached : staged'.cached = staged.cached) : Untidy staged' := by
  rw [Untidy, himages, hcached]
  exact h

/-- A file that no record can name stays in the stage. -/
lemma Staged.untidy {faults : ImageFaults}
    (h : Staged library tree inventory faults item staged staged') (huntidy : Untidy staged) :
    Untidy staged' := by
  cases h with
  | rejected => exact huntidy
  | accepted _ hprepared => exact ((cached_image_cases hprepared).untidy huntidy).congr rfl rfl
  | refused _ hprepared => exact ((cached_image_cases hprepared).untidy huntidy).congr rfl rfl

/-- Importing an entry keeps records, cache and files consistent. -/
lemma Staged.consistent {faults : ImageFaults}
    (h : Staged library tree inventory faults item staged staged')
    (hitem : item ∈ inventory.selected) (hconsistent : Consistent library tree inventory staged) :
    Consistent library tree inventory staged' := by
  have hrecords : ∀ {outcome prepared},
      Cached library faults (tree.digest item.relative_path) staged outcome prepared →
      ∀ record ∈ staged.records, record.valid = true ∧
        ∃ item ∈ inventory.selected, Kept inventory item ∧ ∃ image,
          prepared.cached (tree.digest item.relative_path) = some image ∧
            record = record_of tree inventory.metadata item image := by
    intro outcome prepared hcached record hrecord
    obtain ⟨hvalid, source, hsource, hkept, image, himage, hrecord⟩ :=
      hconsistent.records record hrecord
    exact ⟨hvalid, source, hsource, hkept, image, hcached.cached_mono himage, hrecord⟩
  cases h with
  | rejected => exact hconsistent
  | @accepted image prepared hkept hprepared hvalid =>
    have hcached := cached_image_cases hprepared
    refine ⟨hcached.sound hconsistent.cached, fun record hrecord => ?_, ?_⟩
    · rcases List.mem_append.mp hrecord with hrecord | hrecord
      · exact hrecords hcached record hrecord
      · rw [List.mem_singleton.mp hrecord]
        exact ⟨hvalid, item, hitem, hkept, image, hcached.accepted, rfl⟩
    · rw [(cached_image_fields hprepared).2]
      exact hconsistent.rejections
  | @refused failure prepared hkept hprepared hcode hvalid =>
    have hcached := cached_image_cases hprepared
    refine ⟨hcached.sound hconsistent.cached, fun record hrecord => ?_, fun rejection hmem => ?_⟩
    · rw [(cached_image_fields hprepared).1] at hrecord
      exact hrecords hcached record hrecord
    · rcases List.mem_append.mp hmem with hmem | hmem
      · exact hconsistent.rejections rejection hmem
      · rw [List.mem_singleton.mp hmem]
        exact hvalid

/-- With no file left behind so far, the next entry is prepared anew exactly when it is not in the
cache. -/
lemma Tidy.attempted_iff {seen rest : List SourceFile}
    (h : Tidy library tree inventory seen staged) (hnodup : inventory.selected.Nodup)
    (hselected : inventory.selected = seen ++ item :: rest)
    (hconsistent : Consistent library tree inventory staged) (hkept : Kept inventory item) :
    Attempted library tree inventory item ↔
      staged.cached (tree.digest item.relative_path) = none := by
  have hitem : item ∉ seen := by
    rw [hselected] at hnodup
    exact fun hmem => List.disjoint_of_nodup_append hnodup hmem List.mem_cons_self
  have hbefore : inventory.selected.takeWhile (· ≠ item) = seen := by
    rw [hselected, List.takeWhile_append_of_pos, List.takeWhile_cons_of_neg (by simp),
      List.append_nil]
    intro other hother
    simpa using fun heq : other = item => hitem (heq ▸ hother)
  constructor
  · intro hattempted
    by_contra hcached
    obtain ⟨earlier, hearlier, hkeeps, hdigest⟩ := h.seen _ hcached
    refine hattempted.first earlier (hbefore ▸ hearlier) hkeeps hdigest ?_
    obtain ⟨image, himage⟩ := Option.ne_none_iff_exists'.mp hcached
    rw [Decodes, (hconsistent.cached _ image himage).1]
    rfl
  · intro hnone
    refine ⟨by simp [hselected], hkept, fun earlier hearlier hkeeps hdigest hdecodes => ?_⟩
    rw [hbefore] at hearlier
    refine h.cached earlier hearlier hkeeps ?_ (hdigest ▸ hnone)
    rwa [Decodes, hdigest]

/-- What the import has left behind: only files of records, or a file that no record can name. -/
inductive Leaves (library : SourceLibrary) (tree : SourceTree) (inventory : DatasetInventory)
    (faults : String → ImageFaults) (seen : List SourceFile) (staged : StagedImport) : Prop where
  | tidy (h : Tidy library tree inventory seen staged)
      (hclean : ∀ item ∈ seen, Attempted library tree inventory item →
        ¬ LeavesFile library tree faults item)
  | untidy (h : Untidy staged) {item : SourceFile}
      (hattempted : Attempted library tree inventory item)
      (hleaves : LeavesFile library tree faults item)

/-- An entry that adds no file. -/
lemma Tidy.same_files {seen : List SourceFile} (h : Tidy library tree inventory seen staged)
    (himages : staged'.images = staged.images) (hcached : staged'.cached = staged.cached)
    (hrecords : staged.records ⊆ staged'.records)
    (hitem : Kept inventory item → Decodes library tree item →
      staged.cached (tree.digest item.relative_path) ≠ none) :
    Tidy library tree inventory (seen ++ [item]) staged' where
  named path hpath := by
    obtain ⟨record, hrecord, hnamed⟩ := h.named path (himages ▸ hpath)
    exact ⟨record, hrecords hrecord, hnamed⟩
  nodup := himages ▸ h.nodup
  cached other hother hkept hdecodes := by
    rw [hcached]
    rcases List.mem_append.mp hother with hother | hother
    · exact h.cached other hother hkept hdecodes
    · obtain rfl := List.mem_singleton.mp hother
      exact hitem hkept hdecodes
  seen digest hsome := by
    obtain ⟨other, hother, hkept⟩ := h.seen digest (hcached ▸ hsome)
    exact ⟨other, List.mem_append_left _ hother, hkept⟩

/-- An entry that adds its prepared file. -/
lemma Tidy.prepared {seen : List SourceFile} {image : PreparedImage}
    (h : Tidy library tree inventory seen staged) (hkept : Kept inventory item)
    (hnew : prepared_path (tree.digest item.relative_path) ∉ staged.images.map Prod.fst)
    (himages : staged'.images =
      (prepared_path (tree.digest item.relative_path), image.file) :: staged.images)
    (hcached : staged'.cached =
      Function.update staged.cached (tree.digest item.relative_path) (some image))
    (hrecords : staged'.records =
      staged.records ++ [record_of tree inventory.metadata item image]) :
    Tidy library tree inventory (seen ++ [item]) staged' where
  named path hpath := by
    rw [hrecords]
    rw [himages] at hpath
    rcases List.mem_cons.mp hpath with rfl | hpath
    · exact ⟨_, List.mem_append_right _ List.mem_cons_self, rfl⟩
    · obtain ⟨record, hrecord, hnamed⟩ := h.named path hpath
      exact ⟨record, List.mem_append_left _ hrecord, hnamed⟩
  nodup := by
    rw [himages]
    exact List.nodup_cons.mpr ⟨hnew, h.nodup⟩
  cached other hother hkeeps hdecodes := by
    rw [hcached]
    by_cases hsame : tree.digest other.relative_path = tree.digest item.relative_path
    · rw [hsame, Function.update_self]
      simp
    · rw [Function.update_of_ne hsame]
      rcases List.mem_append.mp hother with hother | hother
      · exact h.cached other hother hkeeps hdecodes
      · exact absurd (congrArg (tree.digest ·.relative_path) (List.mem_singleton.mp hother)) hsame
  seen digest hsome := by
    rw [hcached] at hsome
    by_cases hsame : digest = tree.digest item.relative_path
    · exact ⟨item, List.mem_append_right _ List.mem_cons_self, hkept, hsame.symm⟩
    · rw [Function.update_of_ne hsame] at hsome
      obtain ⟨other, hother, hkeeps⟩ := h.seen digest hsome
      exact ⟨other, List.mem_append_left _ hother, hkeeps⟩

/-- One more entry. -/
lemma Leaves.step {seen rest : List SourceFile}
    (h : Leaves library tree inventory faults seen staged) (hnodup : inventory.selected.Nodup)
    (hselected : inventory.selected = seen ++ item :: rest)
    (hconsistent : Consistent library tree inventory staged)
    (hstep : Staged library tree inventory (faults item.relative_path) item staged staged') :
    Leaves library tree inventory faults (seen ++ [item]) staged' := by
  cases h with
  | untidy huntidy hattempted hleaves => exact .untidy (hstep.untidy huntidy) hattempted hleaves
  | tidy htidy hclean =>
    have hextend : (Attempted library tree inventory item → ¬ LeavesFile library tree faults item) →
        ∀ other ∈ seen ++ [item], Attempted library tree inventory other →
          ¬ LeavesFile library tree faults other := by
      intro hitem other hother
      rcases List.mem_append.mp hother with hother | hother
      · exact hclean other hother
      · rw [List.mem_singleton.mp hother]
        exact hitem
    have hattempted := fun hkept => htidy.attempted_iff hnodup hselected hconsistent hkept
    cases hstep with
    | rejected hrejected =>
      exact .tidy (htidy.same_files rfl rfl (fun _ => id) fun hkept => absurd hkept hrejected)
        (hextend fun hattempted => absurd hattempted.kept hrejected)
    | @accepted image prepared hkept hprepared hvalid =>
      cases cached_image_cases hprepared with
      | hit hcached =>
        exact .tidy (htidy.same_files rfl rfl (List.subset_append_left _ _)
          fun _ _ => by rw [hcached]; simp)
          (hextend fun h => absurd (((hattempted hkept).mp h).symm.trans hcached) (by simp))
      | prepared hnone himage hnew hread =>
        by_cases htemporary : (faults item.relative_path).temporary = none
        · refine .tidy (htidy.prepared hkept hnew ?_ rfl rfl) (hextend fun _ hleaves => ?_)
          · rw [leave_temporary_none htemporary]
          · rcases hleaves with hleft | ⟨-, hunread⟩
            · exact hleft htemporary
            · exact absurd (hread.symm.trans hunread) (by simp)
        · obtain ⟨random, hleft⟩ := mem_temporary htemporary staged.images
          exact .untidy ⟨_, List.mem_cons_of_mem _ hleft, Or.inl ⟨random, rfl⟩⟩
            ((hattempted hkept).mpr hnone) (Or.inl htemporary)
    | @refused failure prepared hkept hprepared hcode hvalid =>
      cases cached_image_cases hprepared with
      | failed hnone hfailure =>
        -- a failed write ends the import
        have hfailure : library.prepare_image (tree.digest item.relative_path) = .error failure := by
          refine hfailure.resolve_right ?_
          rintro rfl
          exact absurd hcode (by decide)
        have hdecodes : ¬ Decodes library tree item := by
          rw [Decodes, hfailure]
          simp [Except.isOk, Except.toBool]
        by_cases htemporary : (faults item.relative_path).temporary = none
        · refine .tidy (htidy.same_files (leave_temporary_none htemporary _) rfl (fun _ => id)
            fun _ h => absurd h hdecodes) (hextend fun _ hleaves => ?_)
          exact hleaves.elim (fun hleft => hleft htemporary) fun h => hdecodes h.1
        · obtain ⟨random, hleft⟩ := mem_temporary htemporary staged.images
          exact .untidy ⟨_, hleft, Or.inl ⟨random, rfl⟩⟩ ((hattempted hkept).mpr hnone)
            (Or.inl htemporary)
      | unreadable hnone himage hnew hread =>
        refine .untidy ⟨_, List.mem_cons_self, Or.inr ⟨_, rfl, hnone⟩⟩
          ((hattempted hkept).mpr hnone) (Or.inr ⟨?_, hread⟩)
        rw [Decodes, himage]
        rfl

/-- The whole import is consistent, and what it leaves behind depends on the file system. -/
theorem Inventoried.leaves (h : Inventoried library tree request inventory)
    (hrejections : ∀ rejection ∈ inventory.rejections, rejection.valid = true)
    (hstaged : stage_images library tree inventory faults = .ok staged) :
    Consistent library tree inventory staged ∧
      Leaves library tree inventory faults inventory.selected staged := by
  have hloop : ∀ (rest seen : List SourceFile) (start : StagedImport),
      inventory.selected = seen ++ rest → Consistent library tree inventory start →
      Leaves library tree inventory faults seen start →
      rest.foldlM (stage_item library tree inventory faults) start = .ok staged →
      Consistent library tree inventory staged ∧
        Leaves library tree inventory faults inventory.selected staged := by
    intro rest
    induction rest with
    | nil =>
      intro seen start hselected hconsistent hleaves hfold
      obtain rfl := pure_eq_ok.mp hfold
      rw [hselected, List.append_nil]
      exact ⟨hconsistent, hleaves⟩
    | cons item rest ih =>
      intro seen start hselected hconsistent hleaves hfold
      rw [List.foldlM_cons] at hfold
      obtain ⟨next, hnext, hfold⟩ := bind_eq_ok.mp hfold
      have hstep := stage_item_eq_ok hnext
      exact ih (seen ++ [item]) next (by simp [hselected])
        (hstep.consistent (by simp [hselected]) hconsistent)
        (hleaves.step h.nodup_paths.of_map hselected hconsistent hstep) hfold
  refine hloop _ [] _ rfl ⟨?_, ?_, hrejections⟩ (.tidy ⟨?_, ?_, ?_, ?_⟩ ?_) hstaged
  all_goals simp

end StegoLab

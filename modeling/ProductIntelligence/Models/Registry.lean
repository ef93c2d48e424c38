import Mathlib.Logic.Function.Basic
import ProductIntelligence.Jobs.Job
import ProductIntelligence.Lists.Keyed
import ProductIntelligence.Logic.Fallible
import ProductIntelligence.Text.Facets

/-!
# The model registry

Of each type of model the registry keeps the registered versions, in a dictionary from version
strings, and it lets at most one of them be active.  Registering an active version or activating
one demotes whichever was active before.

## Main definitions

* `ModelInfo` — one registered version.
* `ModelRegistry`, `ModelRegistry.find` — the registry, and the version under a key.
* `ModelRegistry.register`, `activate`, `deactivate`, `getActiveModel` — its operations.
* `ModelRegistry.new`, `RegistryCall`, `ModelRegistry.after` — its construction and runs of calls.
* `ModelRegistry.Consistent`, `Keeps` — the invariant, and what no call takes away.

## Main results

* `deactivateAll_eq_map` — demoting touches the active versions alone.
* `Consistent.perform`, `keeps_perform` — what one call preserves.
* `registry_invariant` — what holds of the registry after any calls.

## References

`backend/app/services/model_registry.py`, `backend/app/models/model_info.py`,
`backend/app/models/model_status.py`, `backend/app/models/model_type.py`,
`backend/app/models/model_version.py`.
-/

namespace ProductIntelligence

/-! ### Versions of models -/

/-- The type of a model. -/
inductive ModelType
  | imageEmbedding
  | textEmbedding
  | reranker
  deriving DecidableEq

/-- The text of a model type. -/
def ModelType.value : ModelType → Text
  | .imageEmbedding => "image_embedding".toList
  | .textEmbedding => "text_embedding".toList
  | .reranker => "reranker".toList

/-- Where a version stands in its lifecycle. -/
inductive ModelStatus
  | active
  | inactive
  | deprecated
  | experimental
  deriving DecidableEq

/-- A version string, such as `1.0.0`.  The registry compares versions and never looks into
them. -/
abbrev ModelVersion := Text

/-- One registered version of one model. -/
structure ModelInfo where
  modelName : Text
  version : ModelVersion
  modelType : ModelType
  dimension : ℕ
  description : Text := []
  provider : Text := "Hugging Face".toList
  status : ModelStatus := .active
  createdAt : Time
  modelName_ne_nil : modelName ≠ []
  dimension_pos : 0 < dimension

/-- `model_copy(update={"status": …})`. -/
def ModelInfo.withStatus (info : ModelInfo) (status : ModelStatus) : ModelInfo :=
  { info with status := status }

@[simp] theorem ModelInfo.status_withStatus (info : ModelInfo) (status : ModelStatus) :
    (info.withStatus status).status = status := rfl

@[simp] theorem ModelInfo.version_withStatus (info : ModelInfo) (status : ModelStatus) :
    (info.withStatus status).version = info.version := rfl

@[simp] theorem ModelInfo.modelType_withStatus (info : ModelInfo) (status : ModelStatus) :
    (info.withStatus status).modelType = info.modelType := rfl

/-! ### The registry -/

/-- The errors of the registry. -/
inductive RegistryException
  /-- `ConflictException`, 409, with the type and the version as its details. -/
  | conflict (message : Text) (modelType : Text) (version : ModelVersion)
  /-- `ResourceNotFoundException`, 404. -/
  | resourceNotFound (message : Text)
  /-- `ModelRegistryException`. -/
  | modelRegistry (message : Text)
  deriving DecidableEq

/-- The answer to a version that is there already. -/
def alreadyRegistered (info : ModelInfo) : RegistryException :=
  .conflict ("Model '".toList ++ info.modelName ++ "' version '".toList ++ info.version ++
    "' is already registered for '".toList ++ info.modelType.value ++ "'.".toList)
    info.modelType.value info.version

/-- The answer for a type none of whose versions is active. -/
def noActiveModel (modelType : ModelType) : RegistryException :=
  .resourceNotFound ("No active model registered for '".toList ++ modelType.value ++ "'.".toList)

/-- The answer for a version that is not there. -/
def noSuchModel (modelType : ModelType) (version : ModelVersion) : RegistryException :=
  .resourceNotFound ("No '".toList ++ modelType.value ++
    "' model registered with version '".toList ++ version ++ "'.".toList)

/-- The versions of one type, as a dictionary in the order of insertion. -/
abbrev Versions := List (ModelVersion × ModelInfo)

/-- `by_version[version] = info`. -/
def Versions.set (version : ModelVersion) (info : ModelInfo) (versions : Versions) : Versions :=
  Keyed.update Prod.fst version (fun _ => (version, info)) versions

/-- The registry: the versions of each type. -/
abbrev ModelRegistry := ModelType → Versions

/-- A call that changes the registry returns or raises, and leaves a registry either way. -/
abbrev RegistryAnswer := Except RegistryException ModelInfo × ModelRegistry

namespace ModelRegistry

/-- The registry before anything is registered. -/
def empty : ModelRegistry := fun _ => []

/-- The version of a type under a key. -/
def find (registry : ModelRegistry) (modelType : ModelType) (version : ModelVersion) :
    Option ModelInfo :=
  (Keyed.lookup Prod.fst version (registry modelType)).map Prod.snd

/-- `_deactivate_all`: the loop over a copy of the items. -/
def deactivateAll (versions : Versions) : Versions :=
  versions.foldl (fun byVersion item =>
    if item.2.status = .active then byVersion.set item.1 (item.2.withStatus .inactive)
    else byVersion) versions

/-- `get_model`. -/
def getModel (registry : ModelRegistry) (modelType : ModelType) (version : ModelVersion) :
    Except RegistryException ModelInfo :=
  match registry.find modelType version with
  | none => .error (noSuchModel modelType version)
  | some info => .ok info

/-- `get_active_model`: the first of the active versions. -/
def getActiveModel (registry : ModelRegistry) (modelType : ModelType) :
    Except RegistryException ModelInfo :=
  match ((registry modelType).map Prod.snd).filter (fun info => info.status = .active) with
  | [] => .error (noActiveModel modelType)
  | info :: _ => .ok info

/-- `register`: a version that is new, before which the active one is demoted if it is active
itself. -/
def register (registry : ModelRegistry) (info : ModelInfo) : RegistryAnswer :=
  let byVersion := registry info.modelType
  if (registry.find info.modelType info.version).isSome then
    (.error (alreadyRegistered info), registry)
  else
    let demoted := if info.status = .active then deactivateAll byVersion else byVersion
    (.ok info, Function.update registry info.modelType (demoted.set info.version info))

/-- `activate`. -/
def activate (registry : ModelRegistry) (modelType : ModelType) (version : ModelVersion) :
    RegistryAnswer :=
  match registry.getModel modelType version with
  | .error e => (.error e, registry)
  | .ok info =>
    let activated := info.withStatus .active
    (.ok activated, Function.update registry modelType
      ((deactivateAll (registry modelType)).set version activated))

/-- `deactivate`. -/
def deactivate (registry : ModelRegistry) (modelType : ModelType) (version : ModelVersion) :
    RegistryAnswer :=
  match registry.getModel modelType version with
  | .error e => (.error e, registry)
  | .ok info =>
    let deactivated := info.withStatus .inactive
    (.ok deactivated, Function.update registry modelType
      ((registry modelType).set version deactivated))

end ModelRegistry

/-! ### Construction and runs -/

/-- What the settings say of the models: names, and dimensions that are positive. -/
structure ModelSettings where
  clipModelName : Text
  imageVectorSize : ℕ
  textModelName : Text
  textVectorSize : ℕ
  rerankerModelName : Text
  imageVectorSize_pos : 0 < imageVectorSize
  textVectorSize_pos : 0 < textVectorSize

/-- `_INITIAL_VERSION`. -/
def initialVersion : ModelVersion := "1.0.0".toList

/-- `_RERANKER_DIMENSION`. -/
def rerankerDimension : ℕ := 1

/-- The answer for a type without a configured name. -/
def noModelName (modelType : ModelType) : RegistryException :=
  .modelRegistry ("No model name configured for '".toList ++ modelType.value ++
    "' — startup validation failed.".toList)

theorem ne_nil_of_strip_ne_nil {name : Text} (h : strip name ≠ []) : name ≠ [] := by
  rintro rfl
  exact h rfl

theorem rerankerDimension_pos : 0 < rerankerDimension := Nat.one_pos

namespace ModelRegistry

/-- One turn of `_seed_from_settings`: the initial version of a type. -/
def seed (now : Time) (modelType : ModelType) (modelName : Text) (dimension : ℕ)
    (hdimension : 0 < dimension) (registry : ModelRegistry) :
    Except RegistryException ModelRegistry :=
  if h : strip modelName = [] then .error (noModelName modelType)
  else
    let answer := registry.register
      { modelName := modelName, version := initialVersion, modelType := modelType,
        dimension := dimension, createdAt := now,
        modelName_ne_nil := ne_nil_of_strip_ne_nil h, dimension_pos := hdimension }
    answer.1.map fun _ => answer.2

/-- The constructor: empty, or seeded from the settings. -/
def new (settings : Option ModelSettings) (now : Time) : Except RegistryException ModelRegistry :=
  match settings with
  | none => .ok empty
  | some settings => do
    let registry ← seed now .imageEmbedding settings.clipModelName settings.imageVectorSize
      settings.imageVectorSize_pos empty
    let registry ← seed now .textEmbedding settings.textModelName settings.textVectorSize
      settings.textVectorSize_pos registry
    seed now .reranker settings.rerankerModelName rerankerDimension rerankerDimension_pos registry

end ModelRegistry

/-- A call that may change the registry. -/
inductive RegistryCall
  | register (info : ModelInfo)
  | activate (modelType : ModelType) (version : ModelVersion)
  | deactivate (modelType : ModelType) (version : ModelVersion)

/-- The type a call is about. -/
def RegistryCall.modelType : RegistryCall → ModelType
  | .register info => info.modelType
  | .activate modelType _ => modelType
  | .deactivate modelType _ => modelType

/-- What a call answers, and the registry it leaves. -/
def RegistryCall.perform : RegistryCall → ModelRegistry → RegistryAnswer
  | .register info, registry => registry.register info
  | .activate modelType version, registry => registry.activate modelType version
  | .deactivate modelType version, registry => registry.deactivate modelType version

/-- The registry after some calls, the first of them first, whether they raise or not. -/
def ModelRegistry.after (calls : List RegistryCall) (registry : ModelRegistry) : ModelRegistry :=
  calls.foldl (fun registry call => (call.perform registry).2) registry

/-! ### Dictionaries of versions -/

namespace Versions

variable {versions : Versions} {version : ModelVersion} {info : ModelInfo}

theorem preserves_item (version : ModelVersion) (info : ModelInfo) :
    Keyed.Preserves Prod.fst version fun _ => (version, info) := fun _ _ => rfl

@[simp] theorem lookup_set_self :
    Keyed.lookup Prod.fst version (versions.set version info) = some (version, info) :=
  Keyed.lookup_update_self (preserves_item version info) versions

theorem lookup_set_of_ne {other : ModelVersion} (hne : other ≠ version) :
    Keyed.lookup Prod.fst other (versions.set version info) =
      Keyed.lookup Prod.fst other versions :=
  Keyed.lookup_update_of_ne (preserves_item version info) hne versions

theorem nodup_keys_set (h : (versions.map Prod.fst).Nodup) :
    ((versions.set version info).map Prod.fst).Nodup :=
  Keyed.nodup_keys_update (preserves_item version info) h

/-- After an assignment an item is the assigned one, or was there under another key. -/
theorem mem_of_mem_set (h : (versions.map Prod.fst).Nodup) {item : ModelVersion × ModelInfo}
    (hitem : item ∈ versions.set version info) : item = (version, info) ∨ item ∈ versions := by
  have hlookup := (Keyed.lookup_eq_some_iff (nodup_keys_set h)).2 ⟨hitem, rfl⟩
  by_cases hkey : item.1 = version
  · rw [hkey, lookup_set_self] at hlookup
    exact .inl (Option.some.inj hlookup).symm
  · rw [lookup_set_of_ne hkey] at hlookup
    exact .inr ((Keyed.lookup_eq_some_iff h).1 hlookup).1

/-- An active version made inactive; any other as it is. -/
def demote (item : ModelVersion × ModelInfo) : ModelVersion × ModelInfo :=
  if item.2.status = .active then (item.1, item.2.withStatus .inactive) else item

@[simp] theorem demote_fst (item : ModelVersion × ModelInfo) : (demote item).1 = item.1 := by
  unfold demote
  split <;> rfl

theorem demote_snd (item : ModelVersion × ModelInfo) :
    ∃ status, (demote item).2 = item.2.withStatus status ∧ status ≠ .active := by
  unfold demote
  split
  · exact ⟨.inactive, rfl, by decide⟩
  · rename_i hactive
    exact ⟨item.2.status, rfl, hactive⟩

/-- **Demoting touches the active versions alone.** -/
theorem deactivateAll_eq_map (h : (versions.map Prod.fst).Nodup) :
    ModelRegistry.deactivateAll versions = versions.map demote :=
  Keyed.foldl_update_self (p := fun item : ModelVersion × ModelInfo => item.2.status = .active)
    (g := fun item => (item.1, item.2.withStatus .inactive)) (fun _ => rfl) h

/-- **The versions of a type are consistent**: each is under its own version string, and no two
are active. -/
structure Consistent (modelType : ModelType) (versions : Versions) : Prop where
  nodup_keys : (versions.map Prod.fst).Nodup
  key_eq : ∀ item ∈ versions, item.2.version = item.1
  modelType_eq : ∀ item ∈ versions, item.2.modelType = modelType
  active_eq : ∀ item ∈ versions, ∀ item' ∈ versions, item.2.status = .active →
    item'.2.status = .active → item = item'

namespace Consistent

variable {modelType : ModelType}

theorem nil (modelType : ModelType) : Consistent modelType [] where
  nodup_keys := List.nodup_nil
  key_eq := by simp
  modelType_eq := by simp
  active_eq := by simp

/-- Demoting leaves nothing active. -/
theorem not_active_of_mem (h : Consistent modelType versions) {item : ModelVersion × ModelInfo}
    (hitem : item ∈ ModelRegistry.deactivateAll versions) : item.2.status ≠ .active := by
  rw [deactivateAll_eq_map h.nodup_keys] at hitem
  obtain ⟨before, -, rfl⟩ := List.mem_map.1 hitem
  obtain ⟨status, hstatus, hactive⟩ := demote_snd before
  rw [hstatus, ModelInfo.status_withStatus]
  exact hactive

theorem deactivateAll (h : Consistent modelType versions) :
    Consistent modelType (ModelRegistry.deactivateAll versions) where
  nodup_keys := by
    rw [deactivateAll_eq_map h.nodup_keys, List.map_map]
    have hkeys : Prod.fst ∘ demote = Prod.fst := funext demote_fst
    rw [hkeys]
    exact h.nodup_keys
  key_eq := by
    rw [deactivateAll_eq_map h.nodup_keys]
    intro item hitem
    obtain ⟨before, hbefore, rfl⟩ := List.mem_map.1 hitem
    obtain ⟨status, hstatus, -⟩ := demote_snd before
    rw [hstatus, demote_fst, ModelInfo.version_withStatus]
    exact h.key_eq before hbefore
  modelType_eq := by
    rw [deactivateAll_eq_map h.nodup_keys]
    intro item hitem
    obtain ⟨before, hbefore, rfl⟩ := List.mem_map.1 hitem
    obtain ⟨status, hstatus, -⟩ := demote_snd before
    rw [hstatus, ModelInfo.modelType_withStatus]
    exact h.modelType_eq before hbefore
  active_eq := fun _ hitem _ _ hactive _ => absurd hactive (h.not_active_of_mem hitem)

/-- Assigning a version under its own string; an active one only where none is. -/
theorem set (h : Consistent modelType versions) (hversion : info.version = version)
    (htype : info.modelType = modelType)
    (hactive : info.status = .active → ∀ item ∈ versions, item.2.status ≠ .active) :
    Consistent modelType (versions.set version info) where
  nodup_keys := nodup_keys_set h.nodup_keys
  key_eq := by
    intro item hitem
    rcases mem_of_mem_set h.nodup_keys hitem with rfl | hold
    · exact hversion
    · exact h.key_eq item hold
  modelType_eq := by
    intro item hitem
    rcases mem_of_mem_set h.nodup_keys hitem with rfl | hold
    · exact htype
    · exact h.modelType_eq item hold
  active_eq := by
    intro item hitem item' hitem' hstatus hstatus'
    rcases mem_of_mem_set h.nodup_keys hitem with rfl | hold
    · rcases mem_of_mem_set h.nodup_keys hitem' with rfl | hold'
      · rfl
      · exact absurd hstatus' (hactive hstatus item' hold')
    · rcases mem_of_mem_set h.nodup_keys hitem' with rfl | hold'
      · exact absurd hstatus (hactive hstatus' item hold)
      · exact h.active_eq item hold item' hold' hstatus hstatus'

end Consistent

end Versions

/-! ### One call -/

namespace ModelRegistry

variable {registry registry' : ModelRegistry} {modelType : ModelType} {version : ModelVersion}
  {info : ModelInfo}

/-- The versions of every type are consistent. -/
def Consistent (registry : ModelRegistry) : Prop :=
  ∀ modelType, (registry modelType).Consistent modelType

theorem Consistent.update (h : registry.Consistent) {versions : Versions}
    (hversions : versions.Consistent modelType) :
    Consistent (Function.update registry modelType versions) := by
  intro other
  by_cases hother : other = modelType
  · subst hother
    rw [Function.update_self]
    exact hversions
  · rw [Function.update_of_ne hother]
    exact h other

theorem getModel_eq_ok : registry.getModel modelType version = .ok info ↔
    registry.find modelType version = some info := by
  unfold getModel
  cases registry.find modelType version with
  | none => simp
  | some found => simp

/-- What is found is an item of the dictionary. -/
theorem find_eq_some_iff (h : registry.Consistent) :
    registry.find modelType version = some info ↔ (version, info) ∈ registry modelType := by
  unfold find
  rw [Option.map_eq_some_iff]
  constructor
  · rintro ⟨⟨key, found⟩, hlookup, rfl⟩
    obtain ⟨hmem, rfl⟩ := (Keyed.lookup_eq_some_iff (h modelType).nodup_keys).1 hlookup
    exact hmem
  · intro hmem
    exact ⟨(version, info),
      (Keyed.lookup_eq_some_iff (h modelType).nodup_keys).2 ⟨hmem, rfl⟩, rfl⟩

/-- **A call keeps the registry consistent.** -/
theorem Consistent.perform (h : registry.Consistent) (call : RegistryCall) :
    (call.perform registry).2.Consistent := by
  cases call with
  | register info =>
    unfold RegistryCall.perform register
    dsimp only
    split
    · exact h
    · refine h.update (Versions.Consistent.set ?_ rfl rfl ?_)
      · split
        · exact (h info.modelType).deactivateAll
        · exact h info.modelType
      · intro hactive item hitem
        rw [if_pos hactive] at hitem
        exact (h info.modelType).not_active_of_mem hitem
  | activate modelType version =>
    unfold RegistryCall.perform activate
    dsimp only
    split
    · exact h
    · rename_i info hinfo
      have hmem := (find_eq_some_iff h).1 (getModel_eq_ok.1 hinfo)
      exact h.update ((h modelType).deactivateAll.set ((h modelType).key_eq _ hmem)
        ((h modelType).modelType_eq _ hmem) fun _ _ => (h modelType).not_active_of_mem)
  | deactivate modelType version =>
    unfold RegistryCall.perform deactivate
    dsimp only
    split
    · exact h
    · rename_i info hinfo
      have hmem := (find_eq_some_iff h).1 (getModel_eq_ok.1 hinfo)
      refine h.update ((h modelType).set ((h modelType).key_eq _ hmem)
        ((h modelType).modelType_eq _ hmem) ?_)
      intro hactive
      cases hactive

/-- **What no call takes away**: every version stays under its key, and only its status may
change. -/
def Keeps (registry registry' : ModelRegistry) : Prop :=
  ∀ modelType version info, registry.find modelType version = some info →
    ∃ status, registry'.find modelType version = some (info.withStatus status)

theorem Keeps.refl (registry : ModelRegistry) : Keeps registry registry :=
  fun _ _ info hfind => ⟨info.status, hfind⟩

theorem Keeps.trans {third : ModelRegistry} (h : Keeps registry registry')
    (h' : Keeps registry' third) : Keeps registry third := by
  intro modelType version info hfind
  obtain ⟨status, hstatus⟩ := h modelType version info hfind
  obtain ⟨status', hstatus'⟩ := h' modelType version _ hstatus
  exact ⟨status', hstatus'⟩

/-- Demoting keeps every version. -/
theorem keeps_deactivateAll (h : registry.Consistent) (modelType : ModelType) :
    Keeps registry (Function.update registry modelType (deactivateAll (registry modelType))) := by
  intro other version info hfind
  by_cases hother : other = modelType
  · subst hother
    obtain ⟨item, hlookup, rfl⟩ := Option.map_eq_some_iff.1 hfind
    obtain ⟨status, hstatus, -⟩ := Versions.demote_snd item
    refine ⟨status, ?_⟩
    unfold find
    rw [Function.update_self, Versions.deactivateAll_eq_map (h other).nodup_keys,
      Keyed.lookup_map Versions.demote_fst, hlookup, Option.map_some, Option.map_some, hstatus]
  · refine ⟨info.status, ?_⟩
    unfold find at hfind ⊢
    rw [Function.update_of_ne hother, hfind]
    rfl

/-- Assigning a version keeps every version, if it is new or a copy of the one there. -/
theorem keeps_set {versions : Versions}
    (hkeeps : Keeps registry (Function.update registry modelType versions))
    (hcopy : ∀ found, registry.find modelType version = some found →
      ∃ status, info = found.withStatus status) :
    Keeps registry (Function.update registry modelType (versions.set version info)) := by
  intro other key found hfound
  by_cases hother : other = modelType
  · subst hother
    by_cases hkey : key = version
    · subst hkey
      obtain ⟨status, rfl⟩ := hcopy found hfound
      refine ⟨status, ?_⟩
      unfold find
      rw [Function.update_self, Versions.lookup_set_self, Option.map_some]
    · obtain ⟨status, hstatus⟩ := hkeeps other key found hfound
      refine ⟨status, ?_⟩
      unfold find at hstatus ⊢
      rw [Function.update_self] at hstatus ⊢
      rw [Versions.lookup_set_of_ne hkey, hstatus]
  · obtain ⟨status, hstatus⟩ := hkeeps other key found hfound
    refine ⟨status, ?_⟩
    unfold find at hstatus ⊢
    rw [Function.update_of_ne hother] at hstatus ⊢
    exact hstatus

theorem keeps_perform (h : registry.Consistent) (call : RegistryCall) :
    Keeps registry (call.perform registry).2 := by
  have hsame : ∀ modelType, Keeps registry
      (Function.update registry modelType (registry modelType)) := by
    intro modelType
    rw [Function.update_eq_self]
    exact .refl registry
  cases call with
  | register info =>
    unfold RegistryCall.perform register
    dsimp only
    split
    · exact .refl registry
    · rename_i hnew
      refine keeps_set ?_ ?_
      · split
        · exact keeps_deactivateAll h info.modelType
        · exact hsame info.modelType
      · intro found hfound
        exact absurd (by rw [hfound]; rfl) hnew
  | activate modelType version =>
    unfold RegistryCall.perform activate
    dsimp only
    split
    · exact .refl registry
    · rename_i info hinfo
      refine keeps_set (keeps_deactivateAll h modelType) ?_
      intro found hfound
      obtain rfl : info = found :=
        Option.some.inj ((getModel_eq_ok.1 hinfo).symm.trans hfound)
      exact ⟨.active, rfl⟩
  | deactivate modelType version =>
    unfold RegistryCall.perform deactivate
    dsimp only
    split
    · exact .refl registry
    · rename_i info hinfo
      refine keeps_set (hsame modelType) ?_
      intro found hfound
      obtain rfl : info = found :=
        Option.some.inj ((getModel_eq_ok.1 hinfo).symm.trans hfound)
      exact ⟨.inactive, rfl⟩

/-- A version that is registered is found under its own version string. -/
theorem find_of_register {returned : ModelInfo}
    (h : (registry.register info).1 = .ok returned) :
    (registry.register info).2.find info.modelType info.version = some info := by
  unfold register at h ⊢
  dsimp only at h ⊢
  split at h
  · cases h
  · rename_i hnew
    rw [if_neg hnew]
    unfold find
    dsimp only
    rw [Function.update_self, Versions.lookup_set_self, Option.map_some]

/-- A call that raises changes nothing. -/
theorem eq_of_perform_error {call : RegistryCall} {e : RegistryException}
    (h : (call.perform registry).1 = .error e) : (call.perform registry).2 = registry := by
  cases call with
  | register info =>
    unfold RegistryCall.perform register at h ⊢
    dsimp only at h ⊢
    split at h
    · rename_i hold
      rw [if_pos hold]
    · cases h
  | activate modelType version =>
    unfold RegistryCall.perform activate at h ⊢
    dsimp only at h ⊢
    split at h
    · rfl
    · cases h
  | deactivate modelType version =>
    unfold RegistryCall.perform deactivate at h ⊢
    dsimp only at h ⊢
    split at h
    · rfl
    · cases h

/-- A call about one type leaves the others alone. -/
theorem perform_of_ne (call : RegistryCall) (hne : modelType ≠ call.modelType) :
    (call.perform registry).2 modelType = registry modelType := by
  cases call with
  | register info =>
    unfold RegistryCall.perform register
    dsimp only
    split
    · rfl
    · exact Function.update_of_ne hne _ _
  | activate other version =>
    unfold RegistryCall.perform activate
    dsimp only
    split
    · rfl
    · exact Function.update_of_ne hne _ _
  | deactivate other version =>
    unfold RegistryCall.perform deactivate
    dsimp only
    split
    · rfl
    · exact Function.update_of_ne hne _ _

/-! ### Runs of calls -/

theorem consistent_empty : empty.Consistent := fun modelType => .nil modelType

/-- Seeding is registering. -/
theorem exists_call_of_seed {now : Time} {modelName : Text} {dimension : ℕ}
    {hdimension : 0 < dimension}
    (h : seed now modelType modelName dimension hdimension registry = .ok registry') :
    ∃ call : RegistryCall, registry' = (call.perform registry).2 := by
  unfold seed at h
  split at h
  · cases h
  · rename_i hname
    dsimp only at h
    obtain ⟨info, -, rfl⟩ := Except.map_eq_ok.1 h
    exact ⟨.register _, rfl⟩

/-- A registry that is constructed is consistent. -/
theorem consistent_new {settings : Option ModelSettings} {now : Time}
    (h : new settings now = .ok registry) : registry.Consistent := by
  unfold new at h
  split at h
  · cases h
    exact consistent_empty
  · rename_i settings
    obtain ⟨first, hfirst, h⟩ := Except.bind_eq_ok.1 h
    obtain ⟨second, hsecond, h⟩ := Except.bind_eq_ok.1 h
    obtain ⟨call, rfl⟩ := exists_call_of_seed hfirst
    obtain ⟨call', rfl⟩ := exists_call_of_seed hsecond
    obtain ⟨call'', rfl⟩ := exists_call_of_seed h
    exact ((consistent_empty.perform call).perform call').perform call''

/-- **Any calls keep the registry consistent, and every version.** -/
theorem consistent_and_keeps_after (h : registry.Consistent) (calls : List RegistryCall) :
    (after calls registry).Consistent ∧ Keeps registry (after calls registry) := by
  induction calls generalizing registry with
  | nil => exact ⟨h, .refl registry⟩
  | cons call calls ih =>
    obtain ⟨hconsistent, hkeeps⟩ := ih (h.perform call)
    exact ⟨hconsistent, (keeps_perform h call).trans hkeeps⟩

theorem after_append (calls later : List RegistryCall) (registry : ModelRegistry) :
    after (calls ++ later) registry = after later (after calls registry) :=
  List.foldl_append

/-- **Which model is active**: the one active version, or none. -/
theorem getActiveModel_cases (h : registry.Consistent) (modelType : ModelType) :
    (∃ version info, registry.find modelType version = some info ∧ info.status = .active ∧
      registry.getActiveModel modelType = .ok info) ∨
    (∀ version info, registry.find modelType version = some info → info.status ≠ .active) ∧
      registry.getActiveModel modelType = .error (noActiveModel modelType) := by
  unfold getActiveModel
  cases hactive : ((registry modelType).map Prod.snd).filter
      (fun info => info.status = .active) with
  | nil =>
    refine .inr ⟨?_, rfl⟩
    intro version info hfind hstatus
    have hmem : info ∈ ((registry modelType).map Prod.snd).filter
        (fun info => info.status = .active) :=
      List.mem_filter.2 ⟨List.mem_map_of_mem ((find_eq_some_iff h).1 hfind), by simpa using hstatus⟩
    rw [hactive] at hmem
    cases hmem
  | cons info rest =>
    have hmem : info ∈ ((registry modelType).map Prod.snd).filter
        (fun info => info.status = .active) := by
      rw [hactive]
      exact List.mem_cons_self ..
    obtain ⟨hinfo, hstatus⟩ := List.mem_filter.1 hmem
    obtain ⟨⟨version, found⟩, hitem, rfl⟩ := List.mem_map.1 hinfo
    exact .inl ⟨version, found, (find_eq_some_iff h).2 hitem, by simpa using hstatus, rfl⟩

/-- No two versions of a type are active. -/
theorem Consistent.active_unique (h : registry.Consistent) {version' : ModelVersion}
    {info' : ModelInfo} (hfind : registry.find modelType version = some info)
    (hfind' : registry.find modelType version' = some info') (hactive : info.status = .active)
    (hactive' : info'.status = .active) : version = version' := by
  have heq := (h modelType).active_eq _ ((find_eq_some_iff h).1 hfind) _
    ((find_eq_some_iff h).1 hfind') hactive hactive'
  exact congrArg Prod.fst heq

/-- **The registry invariant**, of every registry that is constructed, seeded or not, and after
any calls.  At most one version of each type is active; every version is under its own version
string, and those registered at any time or seeded are still there, with no more than their
status changed; `get_active_model` returns the active version or fails; a call that raises
changes nothing; and a call about one type leaves the others alone. -/
theorem registry_invariant (settings : Option ModelSettings) (now : Time) (start : ModelRegistry)
    (hstart : new settings now = .ok start) (calls : List RegistryCall) :
    let registry := after calls start
    (∀ modelType version version' info info', registry.find modelType version = some info →
      registry.find modelType version' = some info' → info.status = .active →
      info'.status = .active → version = version') ∧
    (∀ modelType version info, registry.find modelType version = some info →
      info.version = version ∧ info.modelType = modelType) ∧
    (∀ before info later returned, calls = before ++ .register info :: later →
      ((after before start).register info).1 = .ok returned →
      ∃ status, registry.find info.modelType info.version = some (info.withStatus status)) ∧
    Keeps start registry ∧
    (∀ modelType,
      (∃ version info, registry.find modelType version = some info ∧ info.status = .active ∧
        registry.getActiveModel modelType = .ok info) ∨
      (∀ version info, registry.find modelType version = some info → info.status ≠ .active) ∧
        registry.getActiveModel modelType = .error (noActiveModel modelType)) ∧
    (∀ (call : RegistryCall) e, (call.perform registry).1 = .error e →
      (call.perform registry).2 = registry) ∧
    ∀ (call : RegistryCall) modelType, modelType ≠ call.modelType →
      (call.perform registry).2 modelType = registry modelType := by
  have hnew := consistent_new hstart
  obtain ⟨hconsistent, hkeeps⟩ := consistent_and_keeps_after hnew calls
  refine ⟨?_, ?_, ?_, hkeeps, getActiveModel_cases hconsistent, fun _ _ => eq_of_perform_error,
    fun call _ => perform_of_ne call⟩
  · intro modelType version version' info info' hfind hfind' hactive hactive'
    exact hconsistent.active_unique hfind hfind' hactive hactive'
  · intro modelType version info hfind
    have hmem := (find_eq_some_iff hconsistent).1 hfind
    exact ⟨(hconsistent modelType).key_eq _ hmem, (hconsistent modelType).modelType_eq _ hmem⟩
  · rintro before info later returned rfl hreturned
    obtain ⟨hbefore, -⟩ := consistent_and_keeps_after hnew before
    have hfound := find_of_register hreturned
    have hlater := (consistent_and_keeps_after (hbefore.perform (.register info)) later).2
    rw [after_append]
    exact hlater _ _ _ hfound

end ModelRegistry

/-! ### A candidate that is tried and withdrawn -/

namespace Candidate

/-- Settings with a name for each type. -/
def settings : ModelSettings where
  clipModelName := "clip".toList
  imageVectorSize := 512
  textModelName := "minilm".toList
  textVectorSize := 384
  rerankerModelName := "cross-encoder".toList
  imageVectorSize_pos := by decide
  textVectorSize_pos := by decide

/-- An active candidate for the image model. -/
def model : ModelInfo where
  modelName := "clip-large".toList
  version := "1.1.0".toList
  modelType := .imageEmbedding
  dimension := 768
  createdAt := 1
  modelName_ne_nil := by decide
  dimension_pos := by decide

/-- It is registered, and the initial version is activated again. -/
def calls : List RegistryCall :=
  [.register model, .activate .imageEmbedding initialVersion]

end Candidate

/-- The candidate is still registered. -/
theorem candidate_kept :
    ∃ start, ModelRegistry.new (some Candidate.settings) 0 = .ok start ∧
      ∃ status, (ModelRegistry.after Candidate.calls start).find .imageEmbedding
        "1.1.0".toList = some (Candidate.model.withStatus status) :=
  ⟨_, rfl, (ModelRegistry.registry_invariant (some Candidate.settings) 0 _ rfl
    Candidate.calls).2.2.1 [] Candidate.model _ Candidate.model rfl rfl⟩

end ProductIntelligence

import ProductIntelligence.Logic.Fallible
import ProductIntelligence.Lists.RoundRobin
import ProductIntelligence.Products.Metadata

/-!
# Looking products up

A lookup reads the payload of each product back, from the image collection or else from the text
collection, and renders it as a summary.  Each field is coerced on its own: a text that is not
blank, a number, the strings among the tags.  Two coercions do not cover every value.  The tags
are iterated before anything is known of them, and an integer may be too large to be a number.

## Main definitions

* `ProductSummary`, `fromMetadata` — a summary, and how a payload is rendered.
* `ProductLookupService.getMany` — the lookup of several products.
* `Renders metadata summary` — each field is rendered on its own.
* `Readable metadata` — the tags are absent, empty or a list, and no integer is too large.
* `SurvivesAnyPayload` — what a lookup of several products promises.

## Main results

* `exists_renders_iff` — which payloads are rendered field by field.
* `getMany_eq_ok_iff` — the lookup of several products, by the lookup of one.
* `survivesAnyPayload_iff` — **when the promise is kept**.
* `getMany_null_tags` — a payload that breaks it.
* `readable_toMetadata` — what ingest stores can be read.

## References

`backend/app/services/product_lookup_service.py`, `backend/app/schemas/product_summary.py`.
-/

namespace ProductIntelligence

variable {ι : Type}

/-! ### Summaries -/

/-- What a coercion may raise. -/
inductive LookupError
  | overflow
  | typeError
  deriving DecidableEq

/-- The summary of a product. -/
structure ProductSummary (ι : Type) where
  productId : ι
  name : Option Text
  brand : Option Text
  category : Option Text
  price : Option Double
  description : Option Text
  color : Option Text
  material : Option Text
  gender : Option Text
  season : Option Text
  style : Option Text
  tags : List Text
  qualityScore : Option Double
  deriving DecidableEq

/-- `_as_str`: a string that is not blank, as it is. -/
def asStr : JsonValue → Option Text
  | .str text => if strip text ≠ [] then some text else none
  | _ => none

/-- `_as_float`: a number as a float. -/
def asFloat : JsonValue → Except LookupError (Option Double)
  | .int n =>
    match floatOfInt n with
    | some value => .ok (some value)
    | none => .error .overflow
  | .float value => .ok (some value)
  | _ => .ok none

/-- What a loop over a value goes through: the items of a list, the characters of a string, the
keys of an object. -/
def iterate : JsonValue → Except LookupError (List JsonValue)
  | .list items => .ok items
  | .str text => .ok (text.map fun c => .str [c])
  | .dict members => .ok (members.map fun member => .str member.1)
  | _ => .error .typeError

/-- `ProductSummary.from_metadata`. -/
def fromMetadata (productId : ι) (metadata : Metadata) : Except LookupError (ProductSummary ι) := do
  let price ← asFloat (metadata.get "price")
  let tags ← iterate (metadata.getD "tags" (.list []))
  let qualityScore ← asFloat (metadata.get "quality_score")
  pure
    { productId
      name := asStr (metadata.get "name")
      brand := asStr (metadata.get "brand")
      category := asStr (metadata.get "category")
      price
      description := asStr (metadata.get "description")
      color := asStr (metadata.get "color")
      material := asStr (metadata.get "material")
      gender := asStr (metadata.get "gender")
      season := asStr (metadata.get "season")
      style := asStr (metadata.get "style")
      tags := tags.filterMap JsonValue.text?
      qualityScore }

/-! ### The service -/

/-- The service: the payloads that each collection stores. -/
structure ProductLookupService (ι : Type) where
  retrieveImage : ι → Option Metadata
  retrieveText : ι → Option Metadata

namespace ProductLookupService

variable (service : ProductLookupService ι)

/-- The payload of a product, from the first collection that has one. -/
def payload (productId : ι) : Option Metadata :=
  (service.retrieveImage productId).or (service.retrieveText productId)

/-- `get`. -/
def get (productId : ι) : Except LookupError (Option (ProductSummary ι)) :=
  match service.payload productId with
  | none => .ok none
  | some metadata => (fromMetadata productId metadata).map some

/-- What `get_many` has resolved so far. -/
structure Resolved (ι : Type) where
  found : List (ProductSummary ι)
  missing : List ι
  seen : List ι

variable [DecidableEq ι]

/-- One product of `get_many`. -/
def resolve (state : Resolved ι) (productId : ι) : Except LookupError (Resolved ι) :=
  if productId ∈ state.seen then .ok state
  else do
    match ← service.get productId with
    | none =>
      pure
        { state with
          missing := state.missing ++ [productId]
          seen := productId :: state.seen }
    | some summary =>
      pure
        { state with
          found := state.found ++ [summary]
          seen := productId :: state.seen }

/-- `get_many`: what is found, and what is missing. -/
def getMany (productIds : List ι) : Except LookupError (List (ProductSummary ι) × List ι) :=
  (productIds.foldlM service.resolve ⟨[], [], []⟩).map fun state => (state.found, state.missing)

end ProductLookupService

/-! ### One payload -/

/-- A text of the payload: a string that is not blank is shown, anything else is absent. -/
def ShowsText (value : JsonValue) (field : Option Text) : Prop :=
  ∀ text, field = some text ↔ value.text? = some text ∧ strip text ≠ []

/-- A number of the payload: a float or the float nearest to an integer is shown, anything else is
absent. -/
def ShowsNumber (value : JsonValue) (field : Option Double) : Prop :=
  ∀ x, field = some x ↔ value = .float x ∨ ∃ n, value = .int n ∧ floatOfInt n = some x

/-- The texts of a summary, each with its field of the payload. -/
def ProductSummary.texts (summary : ProductSummary ι) : List (String × Option Text) :=
  [("name", summary.name), ("brand", summary.brand), ("category", summary.category),
    ("description", summary.description), ("color", summary.color),
    ("material", summary.material), ("gender", summary.gender), ("season", summary.season),
    ("style", summary.style)]

/-- The numbers of a summary, each with its field of the payload. -/
def ProductSummary.numbers (summary : ProductSummary ι) : List (String × Option Double) :=
  [("price", summary.price), ("quality_score", summary.qualityScore)]

/-- Each field of the summary shows its own field of the payload, and is absent where that is absent
or of the wrong type. -/
structure Renders (metadata : Metadata) (summary : ProductSummary ι) : Prop where
  texts : ∀ entry ∈ summary.texts, ShowsText (metadata.get entry.1) entry.2
  numbers : ∀ entry ∈ summary.numbers, ShowsNumber (metadata.get entry.1) entry.2
  tags : summary.tags = (metadata.get "tags").strings

/-- The value is no integer that is too large for a float. -/
def IsNumberSized (value : JsonValue) : Prop := ∀ n, value = .int n → FitsFloat n

/-- The tags are absent, a list, or empty. -/
def HasIterableTags (metadata : Metadata) : Prop :=
  Keyed.lookup Prod.fst "tags".toList metadata = none ∨
    (∃ items, metadata.get "tags" = .list items) ∨
    metadata.get "tags" = .str [] ∨ metadata.get "tags" = .dict []

/-- A payload that is rendered field by field. -/
structure Readable (metadata : Metadata) : Prop where
  price : IsNumberSized (metadata.get "price")
  tags : HasIterableTags metadata
  qualityScore : IsNumberSized (metadata.get "quality_score")

theorem showsText_asStr (value : JsonValue) : ShowsText value (asStr value) := by
  intro text
  cases value with
  | str t =>
    simp only [asStr, JsonValue.text?, Option.some_inj]
    by_cases ht : strip t ≠ []
    · rw [if_pos ht, Option.some_inj]
      exact ⟨fun h => ⟨h, h ▸ ht⟩, fun h => h.1⟩
    · rw [if_neg ht]
      exact iff_of_false (Option.some_ne_none text).symm fun h => ht (h.1 ▸ h.2)
  | _ => simp [asStr, JsonValue.text?]

/-- A coercion to a float fails on integers that are too large only. -/
theorem asFloat_isOk_iff (value : JsonValue) :
    (∃ field, asFloat value = .ok field) ↔ IsNumberSized value := by
  cases value with
  | int n =>
    have hsized : IsNumberSized (.int n) ↔ FitsFloat n := by simp [IsNumberSized]
    rw [hsized, ← exists_floatOfInt_iff, asFloat]
    cases floatOfInt n with
    | none => simp
    | some x => simp
  | _ => simp [asFloat, IsNumberSized]

theorem showsNumber_of_asFloat {value : JsonValue} {field : Option Double}
    (h : asFloat value = .ok field) : ShowsNumber value field := by
  intro x
  cases value with
  | int n =>
    rw [asFloat] at h
    split at h
    · next y hy =>
      cases h
      simp [hy]
    · cases h
  | float y =>
    cases h
    simp
  | _ =>
    cases h
    simp

/-- The fields of the tags that come out of a loop over them. -/
theorem filterMap_text?_iterate {value : JsonValue} {items : List JsonValue}
    (h : iterate value = .ok items) :
    items.filterMap JsonValue.text? = value.strings ↔
      (∃ items, value = .list items) ∨ value = .str [] ∨ value = .dict [] := by
  cases value with
  | list items' =>
    cases h
    simp [JsonValue.strings]
  | str text =>
    cases h
    cases text with
    | nil => simp [JsonValue.strings]
    | cons c text => simp [JsonValue.strings, JsonValue.text?]
  | dict members =>
    cases h
    cases members with
    | nil => simp [JsonValue.strings]
    | cons member members => simp [JsonValue.strings, JsonValue.text?]
  | _ => cases h

/-- The default of the tags is no tags. -/
theorem strings_getD_tags (metadata : Metadata) :
    (metadata.getD "tags" (.list [])).strings = (metadata.get "tags").strings := by
  unfold Metadata.get Metadata.getD
  cases Keyed.lookup Prod.fst "tags".toList metadata with
  | none => rfl
  | some member => rfl

/-- The tags are absent, a list, or empty, exactly if what is iterated is a list or empty. -/
theorem hasIterableTags_iff (metadata : Metadata) :
    HasIterableTags metadata ↔ (∃ items, metadata.getD "tags" (.list []) = .list items) ∨
      metadata.getD "tags" (.list []) = .str [] ∨ metadata.getD "tags" (.list []) = .dict [] := by
  unfold HasIterableTags Metadata.get Metadata.getD
  cases Keyed.lookup Prod.fst "tags".toList metadata with
  | none => simp
  | some member => simp

/-- **A payload is rendered field by field** exactly if it is readable. -/
theorem exists_renders_iff (productId : ι) (metadata : Metadata) :
    (∃ summary, fromMetadata productId metadata = .ok summary ∧ Renders metadata summary) ↔
      Readable metadata := by
  constructor
  · rintro ⟨summary, h, hrenders⟩
    obtain ⟨price, hprice, h⟩ := Except.bind_eq_ok.1 h
    obtain ⟨items, hitems, h⟩ := Except.bind_eq_ok.1 h
    obtain ⟨qualityScore, hquality, h⟩ := Except.bind_eq_ok.1 h
    have htags := hrenders.tags
    cases h
    refine ⟨(asFloat_isOk_iff _).1 ⟨_, hprice⟩, ?_, (asFloat_isOk_iff _).1 ⟨_, hquality⟩⟩
    rw [hasIterableTags_iff, ← filterMap_text?_iterate hitems, strings_getD_tags]
    exact htags
  · intro hread
    obtain ⟨price, hprice⟩ := (asFloat_isOk_iff _).2 hread.price
    obtain ⟨qualityScore, hquality⟩ := (asFloat_isOk_iff _).2 hread.qualityScore
    have htags := (hasIterableTags_iff metadata).1 hread.tags
    obtain ⟨items, hitems⟩ : ∃ items, iterate (metadata.getD "tags" (.list [])) = .ok items := by
      rcases htags with ⟨items, h⟩ | h | h
      · exact ⟨_, by rw [h]; rfl⟩
      · exact ⟨_, by rw [h]; rfl⟩
      · exact ⟨_, by rw [h]; rfl⟩
    refine ⟨_, by rw [fromMetadata, hprice, hitems, hquality]; rfl, ?_, ?_, ?_⟩
    · simp only [ProductSummary.texts, List.forall_mem_cons, showsText_asStr, true_and]
      exact List.forall_mem_nil _
    · simp only [ProductSummary.numbers, List.forall_mem_cons]
      exact ⟨showsNumber_of_asFloat hprice, showsNumber_of_asFloat hquality, List.forall_mem_nil _⟩
    · rw [← strings_getD_tags]
      exact (filterMap_text?_iterate hitems).2 htags

/-- The summary of a product has its id. -/
theorem productId_of_fromMetadata {productId : ι} {metadata : Metadata}
    {summary : ProductSummary ι} (h : fromMetadata productId metadata = .ok summary) :
    summary.productId = productId := by
  obtain ⟨price, -, h⟩ := Except.bind_eq_ok.1 h
  obtain ⟨items, -, h⟩ := Except.bind_eq_ok.1 h
  obtain ⟨qualityScore, -, h⟩ := Except.bind_eq_ok.1 h
  cases h
  rfl

/-! ### Several products -/

namespace ProductLookupService

variable {service : ProductLookupService ι}

/-- A lookup that finds nothing found no payload. -/
theorem get_eq_none_iff {productId : ι} :
    service.get productId = .ok none ↔ service.payload productId = none := by
  unfold get
  cases service.payload productId with
  | none => simp
  | some metadata => cases hsummary : fromMetadata productId metadata <;> simp [Except.map, hsummary]

/-- A lookup that finds something renders the payload. -/
theorem get_eq_some_iff {productId : ι} {summary : ProductSummary ι} :
    service.get productId = .ok (some summary) ↔
      ∃ metadata, service.payload productId = some metadata ∧
        fromMetadata productId metadata = .ok summary := by
  unfold get
  cases service.payload productId with
  | none => simp
  | some metadata => simp [Except.map_eq_ok]

/-- A lookup that meets a readable payload, or none, renders what it finds. -/
theorem exists_get {productId : ι}
    (h : ∀ metadata, service.payload productId = some metadata → Readable metadata) :
    ∃ outcome, service.get productId = .ok outcome ∧
      ∀ summary ∈ outcome, ∃ metadata, service.payload productId = some metadata ∧
        Renders metadata summary := by
  cases hpayload : service.payload productId with
  | none =>
    exact ⟨none, get_eq_none_iff.2 hpayload, fun _ hnone => absurd hnone (Option.not_mem_none _)⟩
  | some metadata =>
    obtain ⟨summary, hsummary, hrenders⟩ :=
      (exists_renders_iff productId metadata).2 (h metadata hpayload)
    refine ⟨some summary, get_eq_some_iff.2 ⟨metadata, hpayload, hsummary⟩, fun other hother => ?_⟩
    cases Option.mem_some_iff.1 hother
    exact ⟨metadata, rfl, hrenders⟩

/-- What is found has a payload, and the summary of a product has its id. -/
theorem map_productId_filterMap {productIds : List ι} {outcome : ι → Option (ProductSummary ι)}
    (h : ∀ productId ∈ productIds, service.get productId = .ok (outcome productId)) :
    (productIds.filterMap outcome).map ProductSummary.productId =
      productIds.filter fun productId => (outcome productId).isSome := by
  rw [List.map_filterMap, ← List.filterMap_eq_filter]
  refine List.filterMap_congr fun productId hmem => ?_
  have hget := h productId hmem
  cases houtcome : outcome productId with
  | none => simp [Option.guard, houtcome]
  | some summary =>
    rw [houtcome, get_eq_some_iff] at hget
    obtain ⟨metadata, -, hsummary⟩ := hget
    simp [houtcome, productId_of_fromMetadata hsummary, Option.guard]

variable [DecidableEq ι]

/-- One product adds what the lookup finds, unless it was seen before. -/
theorem resolve_eq_ok_iff {state state' : Resolved ι} {productId : ι} :
    service.resolve state productId = .ok state' ↔
      productId ∈ state.seen ∧ state' = state ∨
      productId ∉ state.seen ∧ ∃ outcome, service.get productId = .ok outcome ∧
        state' = ⟨state.found ++ outcome.toList,
          state.missing ++ if outcome.isNone then [productId] else [], productId :: state.seen⟩ := by
  have hok : ∀ next : Resolved ι,
      (.ok next : Except LookupError (Resolved ι)) = .ok state' ↔ state' = next := by
    intro next
    rw [Except.ok.injEq]
    exact eq_comm
  unfold resolve
  by_cases hseen : productId ∈ state.seen
  · rw [if_pos hseen, hok]
    simp only [hseen, true_and, not_true, false_and, or_false]
  · rw [if_neg hseen, Except.bind_eq_ok]
    simp only [hseen, not_false_eq_true, true_and, false_and, false_or]
    refine exists_congr fun outcome => and_congr_right fun _ => ?_
    cases outcome with
    | none =>
      rw [Option.toList_none, List.append_nil]
      exact hok _
    | some summary =>
      rw [Option.toList_some, Option.isNone_some, if_neg Bool.false_ne_true, List.append_nil]
      exact hok _

/-- The loop over products whose lookups succeed. -/
theorem foldlM_resolve {productIds : List ι} {outcome : ι → Option (ProductSummary ι)}
    (h : ∀ productId ∈ productIds, service.get productId = .ok (outcome productId)) :
    productIds.foldlM service.resolve ⟨[], [], []⟩ =
      .ok ⟨(RoundRobin.firsts id productIds).filterMap outcome,
        (RoundRobin.firsts id productIds).filter fun productId => (outcome productId).isNone,
        (RoundRobin.firsts id productIds).reverse⟩ := by
  induction productIds using List.reverseRecOn with
  | nil => rfl
  | append_singleton productIds productId ih =>
    rw [List.foldlM_append, ih fun other hother => h other (List.mem_append_left _ hother),
      RoundRobin.firsts_id_concat]
    refine Except.bind_eq_ok.2 ⟨_, rfl, ?_⟩
    rw [List.foldlM_cons]
    refine Except.bind_eq_ok.2 ⟨_, resolve_eq_ok_iff.2 ?_, rfl⟩
    by_cases hseen : productId ∈ productIds
    · left
      simp [hseen, RoundRobin.mem_firsts_id]
    · right
      refine ⟨by simpa [RoundRobin.mem_firsts_id] using hseen, _, h productId (by simp), ?_⟩
      cases houtcome : outcome productId with
      | none => simp [hseen, houtcome]
      | some summary => simp [hseen, houtcome]

/-- The loop succeeds only if each lookup does. -/
theorem exists_get_of_foldlM {productIds : List ι} {state state' : Resolved ι}
    (h : productIds.foldlM service.resolve state = .ok state') :
    ∀ productId ∈ productIds, productId ∈ state.seen ∨
      ∃ outcome, service.get productId = .ok outcome := by
  induction productIds generalizing state with
  | nil => exact List.forall_mem_nil _
  | cons productId productIds ih =>
    rw [List.foldlM_cons] at h
    obtain ⟨next, hnext, hrest⟩ := Except.bind_eq_ok.1 h
    have ih := ih hrest
    rw [resolve_eq_ok_iff] at hnext
    rw [List.forall_mem_cons]
    rcases hnext with ⟨hseen, rfl⟩ | ⟨-, outcome, hget, rfl⟩
    · exact ⟨.inl hseen, ih⟩
    · refine ⟨.inr ⟨outcome, hget⟩, fun other hother => ?_⟩
      rcases ih other hother with hseen | hother
      · rcases List.mem_cons.1 hseen with rfl | hseen
        · exact .inr ⟨outcome, hget⟩
        · exact .inl hseen
      · exact .inr hother

/-- **The lookup of several products** succeeds exactly if each lookup does.  It keeps what they
find and what they do not, in order of first request. -/
theorem getMany_eq_ok_iff {productIds : List ι} {found : List (ProductSummary ι)}
    {missing : List ι} :
    service.getMany productIds = .ok (found, missing) ↔
      ∃ outcome : ι → Option (ProductSummary ι),
        (∀ productId ∈ productIds, service.get productId = .ok (outcome productId)) ∧
        found = (RoundRobin.firsts id productIds).filterMap outcome ∧
        missing =
          (RoundRobin.firsts id productIds).filter fun productId => (outcome productId).isNone := by
  constructor
  · intro h
    obtain ⟨state, hstate, hresult⟩ := Except.map_eq_ok.1 h
    have hall : ∀ productId ∈ productIds, ∃ outcome, service.get productId = .ok outcome := by
      intro productId hmem
      rcases exists_get_of_foldlM hstate productId hmem with hseen | hget
      · cases hseen
      · exact hget
    choose! outcome houtcome using hall
    rw [foldlM_resolve houtcome] at hstate
    cases hstate
    cases hresult
    exact ⟨outcome, houtcome, rfl, rfl⟩
  · rintro ⟨outcome, houtcome, rfl, rfl⟩
    rw [getMany, foldlM_resolve houtcome]
    rfl

variable (service)

/-- The lookup of several products succeeds.  What is found and what is missing are the requested
products, without repetition and in order of first request; what is missing has no payload, and what
is found renders its own. -/
def SurvivesAnyPayload (productIds : List ι) : Prop :=
  ∃ found missing, service.getMany productIds = .ok (found, missing) ∧
    (found.map ProductSummary.productId ++ missing).Perm (RoundRobin.firsts id productIds) ∧
    (found.map ProductSummary.productId).Sublist (RoundRobin.firsts id productIds) ∧
    missing.Sublist (RoundRobin.firsts id productIds) ∧
    (∀ productId ∈ missing, service.payload productId = none) ∧
    ∀ summary ∈ found, ∃ metadata, service.payload summary.productId = some metadata ∧
      Renders metadata summary

variable {service} in
/-- A lookup that survives has read the payload of each product. -/
theorem SurvivesAnyPayload.readable {productIds : List ι}
    (h : service.SurvivesAnyPayload productIds) {productId : ι} (hmem : productId ∈ productIds)
    {metadata : Metadata} (hpayload : service.payload productId = some metadata) :
    Readable metadata := by
  obtain ⟨found, missing, hmany, -, -, -, -, hfound⟩ := h
  obtain ⟨outcome, houtcome, rfl, -⟩ := getMany_eq_ok_iff.1 hmany
  have hget := houtcome productId hmem
  cases hout : outcome productId with
  | none =>
    rw [hout, get_eq_none_iff, hpayload] at hget
    cases hget
  | some summary =>
    rw [hout, get_eq_some_iff] at hget
    obtain ⟨metadata', hpayload', hsummary⟩ := hget
    obtain ⟨metadata'', hpayload'', hrenders⟩ := hfound summary
      (List.mem_filterMap.2 ⟨productId, RoundRobin.mem_firsts_id.2 hmem, hout⟩)
    rw [productId_of_fromMetadata hsummary, hpayload] at hpayload''
    cases hpayload''
    cases hpayload.symm.trans hpayload'
    exact (exists_renders_iff productId metadata).1 ⟨summary, hsummary, hrenders⟩

/-- **A lookup of several products survives any payload** exactly if each payload that it meets is
readable. -/
theorem survivesAnyPayload_iff (productIds : List ι) :
    service.SurvivesAnyPayload productIds ↔
      ∀ productId ∈ productIds, ∀ metadata, service.payload productId = some metadata →
        Readable metadata := by
  refine ⟨fun h productId hmem metadata hpayload => h.readable hmem hpayload, fun hread => ?_⟩
  have hall := fun productId (hmem : productId ∈ productIds) =>
    exists_get (hread productId hmem)
  choose! outcome houtcome using hall
  have hget : ∀ productId ∈ RoundRobin.firsts id productIds,
      service.get productId = .ok (outcome productId) :=
    fun productId hfirst => (houtcome productId (RoundRobin.mem_firsts_id.1 hfirst)).1
  have hids := map_productId_filterMap hget
  have hmany := getMany_eq_ok_iff.2
    ⟨outcome, fun productId hmem => (houtcome productId hmem).1, rfl, rfl⟩
  refine ⟨_, _, hmany, ?_, ?_, List.filter_sublist, ?_, ?_⟩
  · rw [hids]
    simpa using List.filter_append_perm (fun productId => (outcome productId).isSome)
      (RoundRobin.firsts id productIds)
  · rw [hids]
    exact List.filter_sublist
  · intro productId hmissing
    obtain ⟨hfirst, hnone⟩ := List.mem_filter.1 hmissing
    have hmem := hget productId hfirst
    rw [Option.isNone_iff_eq_none.1 hnone] at hmem
    exact get_eq_none_iff.1 hmem
  · intro summary hfound
    obtain ⟨productId, hfirst, hout⟩ := List.mem_filterMap.1 hfound
    obtain ⟨hok, hrenders⟩ := houtcome productId (RoundRobin.mem_firsts_id.1 hfirst)
    rw [hout, get_eq_some_iff] at hok
    obtain ⟨metadata, -, hsummary⟩ := hok
    rw [productId_of_fromMetadata hsummary]
    exact hrenders summary hout

end ProductLookupService

/-- A product whose tags are null fails the lookup of the product beside it. -/
theorem getMany_null_tags :
    ¬ (ProductLookupService.mk (fun productId : ℕ =>
      if productId = 1 then some [("name".toList, .str "Boot".toList)]
      else some [("tags".toList, .null)]) fun _ => none).SurvivesAnyPayload [1, 2] := by
  rintro ⟨found, missing, hmany, -⟩
  have herror : (ProductLookupService.mk (fun productId : ℕ =>
      if productId = 1 then some [("name".toList, .str "Boot".toList)]
      else some [("tags".toList, .null)]) fun _ => none).getMany [1, 2] = .error .typeError := rfl
  rw [herror] at hmany
  cases hmany

/-! ### The payloads that ingest stores -/

/-- **What ingest stores can be read**: it stores floats, and tags as a list. -/
theorem readable_toMetadata (payload : Payload) : Readable payload.toMetadata := by
  have hnumber : ∀ q, IsNumberSized (.ofNumber q) := by
    intro q n hn
    cases q <;> cases hn
  exact ⟨hnumber payload.price, .inr (.inl ⟨payload.tags.map .str, rfl⟩),
    hnumber (some payload.qualityScore)⟩

end ProductIntelligence

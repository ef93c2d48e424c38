import ProductIntelligence.Products.Payload

/-!
# Facet filters

The filter that a search hands to the vector store, and what it selects.  The write path
trims a brand and then takes its key, and takes the key of a category twice; the read path
takes the key of what the user typed.  They agree because the normaliser absorbs both.

## Main definitions

* `ProductFilters` — the facets a search may be restricted by.
* `FieldCondition`, `Filter` — a store filter: exact matches and inclusive ranges, all of
  which must hold.
* `buildFilter` — the translation.

## Main results

* `matches_buildFilter_iff` — which stored products a filter selects.

## References

`backend/app/services/vectorstore/qdrant_store.py`, `backend/app/models/search.py`.
-/

namespace ProductIntelligence

/-- The facets a search may be restricted by; a field left `none` restricts nothing. -/
structure ProductFilters where
  brand : Option Text
  category : Option Text
  minPrice : Option ℚ
  maxPrice : Option ℚ
  deriving DecidableEq

/-- The payload fields that hold a facet key. -/
inductive FacetKey
  | brandKey
  | categoryKey
  deriving DecidableEq

/-- The value a payload holds under a facet key. -/
def Payload.facet (payload : Payload) : FacetKey → Option Text
  | .brandKey => payload.brandKey
  | .categoryKey => payload.categoryKey

/-- A condition on one payload field. -/
inductive FieldCondition
  /-- `MatchValue`: the field holds exactly this value. -/
  | matchValue (key : FacetKey) (value : Text)
  /-- `Range` on the price: the field holds a number within the bounds given. -/
  | priceRange (gte lte : Option ℚ)
  deriving DecidableEq

/-- The payload satisfies the condition.  A field without a value satisfies none. -/
def FieldCondition.Holds (payload : Payload) : FieldCondition → Prop
  | .matchValue key value => payload.facet key = some value
  | .priceRange gte lte =>
    ∃ price ∈ payload.price, (∀ bound ∈ gte, bound ≤ price) ∧ ∀ bound ∈ lte, price ≤ bound

instance (payload : Payload) (condition : FieldCondition) :
    Decidable (condition.Holds payload) := by
  cases condition <;> unfold FieldCondition.Holds <;> infer_instance

/-- A filter: the conditions that all must hold. -/
structure Filter where
  must : List FieldCondition
  deriving DecidableEq

/-- The filter selects the payload. -/
def Filter.Matches (filter : Filter) (payload : Payload) : Prop :=
  ∀ condition ∈ filter.must, condition.Holds payload

instance (filter : Filter) (payload : Payload) : Decidable (filter.Matches payload) :=
  inferInstanceAs (Decidable (∀ condition ∈ filter.must, condition.Holds payload))

/-- The condition on one facet, if the value given has a key. -/
def facetCondition (key : FacetKey) (value : Option Text) : List FieldCondition :=
  match normalizeFacet value with
  | some facetKey => [.matchValue key facetKey]
  | none => []

/-- `_build_filter`. -/
def buildFilter (filters : ProductFilters) : Filter where
  must :=
    facetCondition .brandKey filters.brand ++ facetCondition .categoryKey filters.category ++
      if filters.minPrice ≠ none ∨ filters.maxPrice ≠ none then
        [.priceRange filters.minPrice filters.maxPrice]
      else []

/-- A facet condition asks for the key of the value given, if it has one. -/
theorem holds_facetCondition (payload : Payload) (key : FacetKey) (value : Option Text) :
    (∀ condition ∈ facetCondition key value, condition.Holds payload) ↔
      normalizeFacet value = none ∨ normalizeFacet value = payload.facet key := by
  unfold facetCondition
  cases normalizeFacet value with
  | none => simp
  | some facetKey => simp [FieldCondition.Holds, eq_comm]

/-- The price condition asks that the stored price meet every bound given. -/
theorem holds_priceRange (payload : Payload) (gte lte : Option ℚ)
    (hgiven : gte ≠ none ∨ lte ≠ none) :
    (FieldCondition.priceRange gte lte).Holds payload ↔
      (∀ bound ∈ gte, ∃ price ∈ payload.price, bound ≤ price) ∧
        ∀ bound ∈ lte, ∃ price ∈ payload.price, price ≤ bound := by
  unfold FieldCondition.Holds
  cases payload.price with
  | none =>
    -- without a price the bound that is given fails
    rcases hgiven with hgiven | hgiven <;>
      obtain ⟨bound, rfl⟩ := Option.ne_none_iff_exists'.1 hgiven
    · simp
    · simp
  | some price => simp

/-- **Facet filtering agrees with ingest.**  The filter built from what a searcher typed
selects the payload stored for a product exactly when every facet that has a key has the key
of the value submitted, and the stored price meets every bound given. -/
theorem matches_buildFilter_iff (product : ProductCreate) (image : ProductImage)
    (catalogResult : CatalogIntelligenceResult) (filters : ProductFilters) :
    (buildFilter filters).Matches (vectorMetadata product image catalogResult) ↔
      (normalizeFacet filters.brand = none ∨
        normalizeFacet filters.brand = normalizeFacet product.brand) ∧
      (normalizeFacet filters.category = none ∨
        normalizeFacet filters.category = normalizeFacet product.category) ∧
      (∀ bound ∈ filters.minPrice, ∃ price ∈ normalizePrice product.price, bound ≤ price) ∧
      ∀ bound ∈ filters.maxPrice, ∃ price ∈ normalizePrice product.price, price ≤ bound := by
  -- the two facets first; the stored keys are those of the values submitted
  have hbrand := holds_facetCondition (vectorMetadata product image catalogResult) .brandKey
    filters.brand
  have hcategory := holds_facetCondition (vectorMetadata product image catalogResult)
    .categoryKey filters.category
  rw [show (vectorMetadata product image catalogResult).facet .brandKey =
    normalizeFacet product.brand from normalizeFacet_normalizeBrand product.brand] at hbrand
  rw [show (vectorMetadata product image catalogResult).facet .categoryKey =
    normalizeFacet product.category from
      normalizeFacet_normalizeCategory product.category] at hcategory
  unfold Filter.Matches buildFilter
  simp only [List.forall_mem_append, hbrand, hcategory, and_assoc]
  apply and_congr_right
  intro _
  apply and_congr_right
  intro _
  -- there is a price condition only where a bound is given
  by_cases hgiven : filters.minPrice ≠ none ∨ filters.maxPrice ≠ none
  · rw [if_pos hgiven, List.forall_mem_singleton, holds_priceRange _ _ _ hgiven]
    rfl
  · rw [if_neg hgiven]
    rw [not_or, not_not, not_not] at hgiven
    simp [hgiven.1, hgiven.2]

end ProductIntelligence

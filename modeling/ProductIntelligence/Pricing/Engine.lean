import ProductIntelligence.Logic.Fallible
import ProductIntelligence.Pricing.ComparableFilter

/-!
# Pricing by request and by product

The two entry points of the pricing engine.  Pricing a described product filters the
comparables by the category the user typed; pricing an indexed one filters them by the
category ingest stored, which is a facet key.  The filter only trims and folds the typed
category, so the two agree exactly where trimming and folding already gives the key, or
where the category of the comparable differs anyway.

## Main definitions

* `ProductSearch`, `PricingEngine` — the retrieval the engine calls, and its settings.
* `PricingEngine.estimateForRequest`, `PricingEngine.estimateForProduct`.
* `SpellsKey` — trimming and folding a category already spells its facet key.

## Main results

* `estimateForRequest_eq`, `estimateForProduct_eq` — the category each entry point filters by.
* `excludedByCategory_outcome` — what it drops for its category the filter does not admit.
* `category_rules_agree_iff` — when the two category rules treat a comparable alike.

## References

`backend/app/services/pricing/pricing_engine.py`,
`backend/app/services/pricing/comparable_filter.py`, `backend/app/utils/facets.py`.
-/

namespace ProductIntelligence

open Words

variable {ι ε β : Type}

/-! ### The engine -/

/-- The hybrid search the engine retrieves comparables with; each call may fail. -/
structure ProductSearch (ι ε : Type) where
  search : Text → ℕ → Bool → Except ε (List (HybridSearchResult ι))
  searchByProductId : ι → ℕ → Except ε (List (HybridSearchResult ι))
  retrieveMetadata : ι → Except ε (Option Payload)

/-- The engine: its filter, its aggregation of the kept comparables, and its settings. -/
structure PricingEngine (ι ε β : Type) where
  hybridSearch : ProductSearch ι ε
  comparableFilter : ComparableFilter
  estimator : List (ComparableProduct ι) → FilterOutcome ι → β
  topK : ℕ
  rerankingEnabled : Bool

namespace PricingEngine

/-- The comparables of the results that a category lets through. -/
def outcome (engine : PricingEngine ι ε β) (results : List (HybridSearchResult ι))
    (category : Option Text) : FilterOutcome ι :=
  engine.comparableFilter.apply (toComparables results) category

/-- `_estimate`: aggregate the kept comparables. -/
def estimate (engine : PricingEngine ι ε β) (results : List (HybridSearchResult ι))
    (category : Option Text) : β :=
  engine.estimator (engine.outcome results category).kept (engine.outcome results category)

/-- `estimate_for_request`: price a described product. -/
def estimateForRequest (engine : PricingEngine ι ε β) (name : Text)
    (brand category description : Option Text) (topK : Option ℕ) : Except ε β := do
  let text := buildTextRepresentation name brand category description
  let results ← engine.hybridSearch.search text (topK.getD engine.topK) engine.rerankingEnabled
  return engine.estimate results category

/-- `_category_of`: the stored category of a product. -/
def categoryOf (engine : PricingEngine ι ε β) (productId : ι) : Except ε (Option Text) := do
  let point ← engine.hybridSearch.retrieveMetadata productId
  return point.bind Payload.category

/-- `estimate_for_product`: price an indexed product. -/
def estimateForProduct (engine : PricingEngine ι ε β) (productId : ι) : Except ε β := do
  let results ← engine.hybridSearch.searchByProductId productId engine.topK
  let category ← engine.categoryOf productId
  return engine.estimate results category

/-- Pricing a request filters what its search returned by the category of the request. -/
theorem estimateForRequest_eq {engine : PricingEngine ι ε β} {name : Text}
    {brand category description : Option Text} {topK : Option ℕ} {price : β}
    (h : engine.estimateForRequest name brand category description topK = .ok price) :
    ∃ results, engine.hybridSearch.search
        (buildTextRepresentation name brand category description) (topK.getD engine.topK)
        engine.rerankingEnabled = .ok results ∧
      price = engine.estimate results category := by
  obtain ⟨results, hresults, hprice⟩ := Except.bind_eq_ok.1 h
  cases hprice
  exact ⟨results, hresults, rfl⟩

/-- Pricing an indexed product filters what its search returned by its stored category. -/
theorem estimateForProduct_eq {engine : PricingEngine ι ε β} {productId : ι} {price : β}
    {metadata : Payload} (hstored : engine.hybridSearch.retrieveMetadata productId = .ok metadata)
    (h : engine.estimateForProduct productId = .ok price) :
    ∃ results, engine.hybridSearch.searchByProductId productId engine.topK = .ok results ∧
      price = engine.estimate results metadata.category := by
  obtain ⟨results, hresults, h⟩ := Except.bind_eq_ok.1 h
  obtain ⟨category, hcategory, hprice⟩ := Except.bind_eq_ok.1 h
  rw [categoryOf, hstored] at hcategory
  cases hcategory
  cases hprice
  exact ⟨results, hresults, rfl⟩

/-- The comparables dropped for their category are those the filter does not admit. -/
theorem excludedByCategory_outcome (engine : PricingEngine ι ε β)
    (results : List (HybridSearchResult ι)) (category : Option Text) :
    (engine.outcome results category).excludedByCategory =
      (toComparables results).countP fun comparable =>
        !engine.comparableFilter.admits category comparable.category := by
  rw [outcome, ComparableFilter.apply_eq]

end PricingEngine

/-! ### Typed and stored categories -/

/-- Trimming and folding a category already spells its facet key. -/
def SpellsKey : Option Text → Prop
  | none => True
  | some category => casefold (strip category) = slug (facetWords category)

/-- The words of a value, read off its trimmed and folded form. -/
theorem facetWords_eq (s : Text) : facetWords s = tokens isSeparator (casefold (strip s)) :=
  (facetWords_strip s).symm

theorem normalize_eq_iff_spellsKey (category : Option Text) :
    normalizeFacet category = ComparableFilter.normalize category ↔ SpellsKey category := by
  cases category with
  | none => simp [normalizeFacet, ComparableFilter.normalize, SpellsKey]
  | some c =>
    rw [normalizeFacet_eq, ComparableFilter.normalize, SpellsKey]
    constructor
    · intro h
      unfold orNone at h
      split at h <;> split at h <;> simp_all
    · intro h
      rw [h]

/-- The filter leaves a facet key as it is. -/
theorem normalize_normalizeFacet (category : Option Text) :
    ComparableFilter.normalize (normalizeFacet category) = normalizeFacet category := by
  cases hkey : normalizeFacet category with
  | none => rfl
  | some key =>
    cases category with
    | none => simp [normalizeFacet] at hkey
    | some c =>
      obtain ⟨rfl, hwords⟩ := normalizeFacet_eq_some.1 hkey
      have hword := fun w => isWord_of_mem_facetWords (s := c) (w := w)
      rw [ComparableFilter.normalize, strip_slug hword, casefold_slug hword, orNone_of_ne]
      rwa [Ne, slug_eq_nil hword]

/-- A facet key is not blank, so the comparable keeps it. -/
theorem coerceStr_normalizeFacet (category : Option Text) :
    coerceStr (normalizeFacet category) = normalizeFacet category := by
  cases hkey : normalizeFacet category with
  | none => rfl
  | some key =>
    have hself := normalize_normalizeFacet category
    rw [hkey, ComparableFilter.normalize] at hself
    have hne : strip key ≠ [] := by
      intro hblank
      rw [hblank] at hself
      cases hself
    rw [coerceStr, if_neg hne]

/-- A blank category has no key. -/
theorem normalizeFacet_of_blank {category : Option Text}
    (h : ComparableFilter.normalize category = none) :
    normalizeFacet category = none := by
  cases category with
  | none => rfl
  | some c =>
    rw [ComparableFilter.normalize, orNone_eq_none] at h
    rw [normalizeFacet_eq_none, facetWords_eq, h, tokens_nil]

/-- A category that is trimmed and folded to a facet key spells its own. -/
theorem spellsKey_of_normalize {c : Text} {d : Option Text} (hkey : normalizeFacet d ≠ none)
    (h : normalizeFacet d = ComparableFilter.normalize (some c)) : SpellsKey (some c) := by
  cases d with
  | none => exact absurd rfl hkey
  | some d =>
    obtain ⟨key, hd⟩ := Option.ne_none_iff_exists'.1 hkey
    have hslug := (normalizeFacet_eq_some.1 hd).1
    have hfold : casefold (strip c) = key := (orNone_eq_some.1 (h.symm.trans hd)).1
    -- splitting the key gives the words it was joined from
    have hwords : facetWords c = facetWords d := by
      rw [facetWords_eq c, hfold, ← hslug]
      exact tokens_intercalate rfl fun w => isWord_of_mem_facetWords
    rw [SpellsKey, hwords, hfold, hslug]

/-- Pricing an indexed product never excludes a comparable ingested with its category. -/
theorem admits_stored_category (filter : ComparableFilter) (category : Option Text) :
    filter.admits (normalizeCategory category) (coerceStr (normalizeCategory category)) = true := by
  unfold ComparableFilter.admits normalizeCategory
  rw [coerceStr_normalizeFacet]
  simp

/-- **When pricing by request and by product agree on category.**  For a comparable ingested
with the category of `other`, the category typed for `subject` and the category stored for it
give the same verdict exactly when the rule is off, when the typed category already spells
its key, or when it has a key and the key of the comparable's category is another. -/
theorem category_rules_agree_iff (filter : ComparableFilter) (subject other : ProductCreate)
    (subjectImage otherImage : ProductImage)
    (subjectCatalog otherCatalog : CatalogIntelligenceResult) :
    (filter.admits subject.category
        (coerceStr (vectorMetadata other otherImage otherCatalog).category) =
      filter.admits (vectorMetadata subject subjectImage subjectCatalog).category
        (coerceStr (vectorMetadata other otherImage otherCatalog).category)) ↔
      filter.enforceCategory = false ∨ SpellsKey subject.category ∨
        normalizeFacet subject.category ≠ none ∧
          normalizeFacet other.category ≠ normalizeFacet subject.category := by
  -- what ingest stores is the facet key
  have hstored : ∀ (product : ProductCreate) (image : ProductImage)
      (catalog : CatalogIntelligenceResult),
      (vectorMetadata product image catalog).category = normalizeFacet product.category :=
    fun _ _ _ => rfl
  rw [hstored, hstored, coerceStr_normalizeFacet]
  unfold ComparableFilter.admits
  rw [normalize_normalizeFacet, normalize_normalizeFacet]
  cases filter.enforceCategory with
  | false => simp
  | true =>
    rw [← normalize_eq_iff_spellsKey]
    by_cases hspells : normalizeFacet subject.category = ComparableFilter.normalize subject.category
    · simp [hspells]
    · -- the typed category is no key, so the request admits nothing
      have hblank : ComparableFilter.normalize subject.category ≠ none := by
        intro hnone
        exact hspells ((normalizeFacet_of_blank hnone).trans hnone.symm)
      -- no comparable's key is what the request compares with
      have hother : normalizeFacet other.category ≠
          ComparableFilter.normalize subject.category := by
        intro hkey
        apply hspells
        rw [normalize_eq_iff_spellsKey]
        cases hc : subject.category with
        | none => trivial
        | some c =>
          rw [hc] at hkey hblank
          exact spellsKey_of_normalize (hkey ▸ hblank) hkey
      have hrequest : (normalizeFacet other.category !=
          ComparableFilter.normalize subject.category) = true := bne_iff_ne.2 hother
      have hkeyed := Option.isSome_iff_ne_none (o := normalizeFacet subject.category)
      rw [Option.isSome_iff_ne_none.2 hblank, hrequest]
      simp [hspells, hkeyed]

/-! ### A category of two words -/

namespace MenShoes

/-- A product submitted with the category `Men Shoes`. -/
def product : ProductCreate where
  name := "Trail".toList
  brand := none
  description := none
  category := some "Men Shoes".toList
  price := some 80

/-- Another product submitted with that category. -/
def comparable : ProductCreate where
  name := "Summit".toList
  brand := some "Alto".toList
  description := none
  category := some "Men Shoes".toList
  price := some 95

/-- What ingest stores for a product. -/
def stored (product : ProductCreate) : Payload :=
  vectorMetadata product ⟨"a.png".toList, "b.png".toList, "image/png".toList, 1, 0⟩
    ⟨ProductAttributes.empty, [], 0⟩

/-- The stored payload of the product. -/
def payload : Payload := stored product

/-- An engine over an index of the two products, 1 and 2: a search finds both, a search by the
id of one the other, and the filter's outcome is reported. -/
def engine : PricingEngine ℕ Unit (FilterOutcome ℕ) where
  hybridSearch :=
    { search := fun _ topK _ => .ok
        ([⟨2, 9 / 10, stored comparable, [.text], 0, 9 / 10⟩,
          ⟨1, 8 / 10, payload, [.text], 0, 8 / 10⟩].take topK)
      searchByProductId := fun productId topK => .ok
        (([⟨2, 9 / 10, stored comparable, [.text], 0, 9 / 10⟩,
          ⟨1, 8 / 10, payload, [.text], 0, 8 / 10⟩].filter
            (·.productId != productId)).take topK)
      retrieveMetadata := fun productId => .ok
        (if productId = 1 then some payload
          else if productId = 2 then some (stored comparable) else none) }
  comparableFilter := { similarityFloor := 1 / 2, enforceCategory := true }
  estimator := fun _ outcome => outcome
  topK := 5
  rerankingEnabled := false

end MenShoes

/-- Asked about `Men Shoes`, the engine drops both products ingested with `Men Shoes`; asked
about one of them, it keeps the other. -/
theorem men_shoes_excludes_itself :
    ((MenShoes.engine.estimateForRequest MenShoes.product.name none MenShoes.product.category none
      none).toOption.map FilterOutcome.excludedByCategory = some 2) ∧
    ((MenShoes.engine.estimateForProduct 1).toOption.map
      (fun outcome => (outcome.excludedByCategory, outcome.kept.map (·.productId))) =
      some (0, [2])) := by
  decide +kernel

end ProductIntelligence

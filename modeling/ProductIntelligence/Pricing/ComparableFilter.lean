import ProductIntelligence.Search.Results

/-!
# Comparables of a price estimate

Search results with a usable price become comparables; the filter drops those of another
category and those that are too dissimilar, counting each.

## Main definitions

* `ComparableProduct`, `toComparables` — the priced results.
* `ComparableFilter`, `FilterOutcome`, `ComparableFilter.apply` — the filter's loop.
* `ComparableFilter.admits` — its category rule for one comparable.

## Main results

* `apply_eq` — the outcome of the whole loop.

## References

`backend/app/services/pricing/price_normalizer.py`,
`backend/app/services/pricing/comparable_filter.py`.
-/

namespace ProductIntelligence

variable {ι : Type}

/-! ### Priced comparables -/

/-- A similar, priced product used as evidence for a price. -/
structure ComparableProduct (ι : Type) where
  productId : ι
  price : ℚ
  similarity : ℚ
  name : Option Text
  brand : Option Text
  category : Option Text
  deriving DecidableEq

/-- `_coerce_price`: the price, if it is positive. -/
def coercePrice : Option ℚ → Option ℚ
  | some price => if 0 < price then some price else none
  | none => none

/-- `_coerce_str`: the text, if it is not blank. -/
def coerceStr : Option Text → Option Text
  | some value => if strip value = [] then none else some value
  | none => none

/-- The comparable built of a result with a usable price. -/
def comparableOf (result : HybridSearchResult ι) (price : ℚ) : ComparableProduct ι where
  productId := result.productId
  price := price
  similarity := result.score
  name := coerceStr (some result.metadata.name)
  brand := coerceStr result.metadata.brand
  category := coerceStr result.metadata.category

/-- `to_comparables`. -/
def toComparables (results : List (HybridSearchResult ι)) : List (ComparableProduct ι) :=
  results.filterMap fun result => (coercePrice result.metadata.price).map (comparableOf result)

/-! ### The filter -/

/-- `_normalize` of the filter: the trimmed and folded category, if it is not blank. -/
def ComparableFilter.normalize : Option Text → Option Text
  | some category => orNone (casefold (strip category))
  | none => none

/-- The configured filter. -/
structure ComparableFilter where
  similarityFloor : ℚ
  enforceCategory : Bool
  deriving DecidableEq

/-- The kept comparables and why the rest were dropped. -/
structure FilterOutcome (ι : Type) where
  kept : List (ComparableProduct ι)
  excludedByCategory : ℕ
  excludedBySimilarity : ℕ
  appliedSimilarityFloor : ℚ
  appliedCategory : Option Text
  deriving DecidableEq

namespace ComparableFilter

/-- The category rule does not exclude a comparable of this category. -/
def admits (filter : ComparableFilter) (category comparableCategory : Option Text) : Bool :=
  !(filter.enforceCategory && (normalize category).isSome &&
    normalize comparableCategory != normalize category)

/-- One round of the loop of `apply`. -/
def step (filter : ComparableFilter) (category : Option Text) (outcome : FilterOutcome ι)
    (comparable : ComparableProduct ι) : FilterOutcome ι :=
  if !filter.admits category comparable.category then
    { outcome with excludedByCategory := outcome.excludedByCategory + 1 }
  else if comparable.similarity < filter.similarityFloor then
    { outcome with excludedBySimilarity := outcome.excludedBySimilarity + 1 }
  else { outcome with kept := outcome.kept ++ [comparable] }

/-- `apply`: keep the comparables relevant to a product in `category`. -/
def apply (filter : ComparableFilter) (comparables : List (ComparableProduct ι))
    (category : Option Text) : FilterOutcome ι :=
  comparables.foldl (filter.step category)
    { kept := []
      excludedByCategory := 0
      excludedBySimilarity := 0
      appliedSimilarityFloor := filter.similarityFloor
      appliedCategory := if filter.enforceCategory then normalize category else none }

/-- What the rounds of the loop add to an outcome. -/
theorem foldl_step (filter : ComparableFilter) (category : Option Text)
    (comparables : List (ComparableProduct ι)) (outcome : FilterOutcome ι) :
    comparables.foldl (filter.step category) outcome =
      { outcome with
        kept := outcome.kept ++ comparables.filter fun comparable =>
          filter.admits category comparable.category &&
            decide (filter.similarityFloor ≤ comparable.similarity)
        excludedByCategory := outcome.excludedByCategory +
          comparables.countP fun comparable => !filter.admits category comparable.category
        excludedBySimilarity := outcome.excludedBySimilarity +
          comparables.countP fun comparable =>
            filter.admits category comparable.category &&
              decide (comparable.similarity < filter.similarityFloor) } := by
  induction comparables generalizing outcome with
  | nil => simp
  | cons comparable comparables ih =>
    rw [List.foldl_cons, ih]
    unfold step
    by_cases hadmits : filter.admits category comparable.category
    · by_cases hfloor : comparable.similarity < filter.similarityFloor
      · simp [hadmits, hfloor, not_le.2 hfloor]
        omega
      · simp [hadmits, hfloor, not_lt.1 hfloor]
    · simp [hadmits]
      omega

/-- **The filter keeps what the category rule admits and the floor lets through**, in order,
and counts every other comparable once. -/
theorem apply_eq (filter : ComparableFilter) (comparables : List (ComparableProduct ι))
    (category : Option Text) :
    filter.apply comparables category =
      { kept := comparables.filter fun comparable =>
          filter.admits category comparable.category &&
            decide (filter.similarityFloor ≤ comparable.similarity)
        excludedByCategory :=
          comparables.countP fun comparable => !filter.admits category comparable.category
        excludedBySimilarity := comparables.countP fun comparable =>
          filter.admits category comparable.category &&
            decide (comparable.similarity < filter.similarityFloor)
        appliedSimilarityFloor := filter.similarityFloor
        appliedCategory := if filter.enforceCategory then normalize category else none } := by
  rw [apply, foldl_step]
  simp

end ComparableFilter

end ProductIntelligence

import Mathlib.Analysis.Real.Sqrt
import ProductIntelligence.Lists.Statistics
import ProductIntelligence.Pricing.Engine

/-!
# Aggregating comparable prices

The estimator drops price outliers, aggregates the prices of the comparables that are left, and
rates its confidence by how many they are and how far their prices spread.  Arithmetic is exact:
prices and similarities are rationals, and the standard deviation is a real number, which is why
the confidence cannot be evaluated.

## Main definitions

* `PriceEstimator` — the estimator's settings, within the ranges that configuration accepts.
* `PriceEstimator.removeOutliers`, `aggregate`, `PriceEstimator.confidence`,
  `PriceEstimator.estimate` — the estimator.
* `PriceEstimator.price` — the estimate before it is rounded.

## Main results

* `removeOutliers_ne_nil` — outlier removal leaves something to aggregate.
* `pricing_follows_unit` — **pricing does not depend on the currency unit**.
* `pricing_ignores_order` — **pricing does not depend on retrieval order**.

## References

`backend/app/services/pricing/price_estimator.py`, `backend/app/models/price_estimate.py`,
`backend/app/core/settings.py`.
-/

namespace ProductIntelligence

open Statistics

variable {ι : Type}

/-! ### Data -/

/-- Which algorithm aggregates comparable prices. -/
inductive PricingStrategy
  | weightedAverage
  | trimmedMean
  | median
  deriving DecidableEq

/-- The name of a strategy. -/
def PricingStrategy.value : PricingStrategy → Text
  | .weightedAverage => "weighted_average".toList
  | .trimmedMean => "trimmed_mean".toList
  | .median => "median".toList

/-- Whether a price estimate was produced. -/
inductive PriceStatus
  | estimated
  | noEstimate
  deriving DecidableEq

/-- How much to trust a price estimate. -/
inductive PriceConfidence
  | low
  | medium
  | high
  deriving DecidableEq

/-- The name of a confidence band. -/
def PriceConfidence.value : PriceConfidence → Text
  | .low => "low".toList
  | .medium => "medium".toList
  | .high => "high".toList

/-- A price estimate, its confidence, and the comparables behind it. -/
structure PriceEstimate (ι : Type) where
  estimatedPrice : Option ℚ
  status : PriceStatus
  confidence : PriceConfidence
  confidenceScore : ℚ
  strategy : PricingStrategy
  comparableCount : ℕ
  comparables : List (ComparableProduct ι)
  reason : Text

/-- The estimator's settings, within the ranges that configuration accepts. -/
structure PriceEstimator where
  strategy : PricingStrategy
  trimRatio : ℚ
  minComparables : ℕ
  outlierIqrMultiplier : ℚ
  trimRatio_nonneg : 0 ≤ trimRatio
  trimRatio_lt : trimRatio < 1 / 2
  minComparables_pos : 0 < minComparables
  outlierIqrMultiplier_nonneg : 0 ≤ outlierIqrMultiplier

theorem default_trimRatio : (0 : ℚ) ≤ 1 / 10 ∧ (1 / 10 : ℚ) < 1 / 2 := by norm_num

theorem default_outlierIqrMultiplier : (0 : ℚ) ≤ 3 / 2 := by norm_num

/-- The settings that hold unless configured otherwise. -/
def PriceEstimator.default : PriceEstimator where
  strategy := .trimmedMean
  trimRatio := 1 / 10
  minComparables := 3
  outlierIqrMultiplier := 3 / 2
  trimRatio_nonneg := default_trimRatio.1
  trimRatio_lt := default_trimRatio.2
  minComparables_pos := Nat.succ_pos 2
  outlierIqrMultiplier_nonneg := default_outlierIqrMultiplier

/-! ### Arithmetic -/

/-- Round to the nearest integer, halves to the even one. -/
noncomputable def roundHalfEvenReal (x : ℝ) : ℤ :=
  if x - ⌊x⌋ < ⌊x⌋ + 1 - x then ⌊x⌋
  else if ⌊x⌋ + 1 - x < x - ⌊x⌋ then ⌊x⌋ + 1
  else if ⌊x⌋ % 2 = 0 then ⌊x⌋ else ⌊x⌋ + 1

/-- `round(x, digits)` of a real number. -/
noncomputable def roundRealTo (digits : ℕ) (x : ℝ) : ℚ :=
  roundHalfEvenReal (x * 10 ^ digits) / 10 ^ digits

/-- `pstdev`: the standard deviation of a whole population. -/
noncomputable def pstdev (prices : List ℚ) : ℝ := √((variance prices : ℚ) : ℝ)

/-! ### Aggregation -/

/-- The prices of the comparables. -/
def pricesOf (comparables : List (ComparableProduct ι)) : List ℚ :=
  comparables.map ComparableProduct.price

/-- How much a comparable weighs. -/
def ComparableProduct.weight (comparable : ComparableProduct ι) : ℚ := max comparable.similarity 0

/-- `_weighted_average`: the mean weighted by similarity, or the plain mean if nothing weighs. -/
def weightedAverage (comparables : List (ComparableProduct ι)) : ℚ :=
  let totalWeight := (comparables.map ComparableProduct.weight).sum
  if totalWeight ≤ 0 then (pricesOf comparables).sum / comparables.length
  else (comparables.map fun c => c.price * c.weight).sum / totalWeight

/-- `_trimmed_mean`: the mean without a fraction of the lowest and of the highest prices, or of all
of them if nothing is left. -/
def trimmedMean (prices : List ℚ) (trimRatio : ℚ) : ℚ :=
  let ordered := sorted prices
  let cut := ⌊(ordered.length : ℚ) * trimRatio⌋.toNat
  let trimmed := if cut ≠ 0 then (ordered.take (ordered.length - cut)).drop cut else ordered
  let kept := if trimmed ≠ [] then trimmed else ordered
  kept.sum / kept.length

/-- `_aggregate`: the price by a strategy. -/
def aggregate (comparables : List (ComparableProduct ι)) (strategy : PricingStrategy)
    (trimRatio : ℚ) : ℚ :=
  match strategy with
  | .median => Statistics.median (pricesOf comparables)
  | .weightedAverage => weightedAverage comparables
  | .trimmedMean => trimmedMean (pricesOf comparables) trimRatio

/-! ### Reasons -/

/-- `excluded_total`. -/
def FilterOutcome.excludedTotal (filtering : FilterOutcome ι) : ℕ :=
  filtering.excludedByCategory + filtering.excludedBySimilarity

/-- A number in a text. -/
def numeral (n : ℕ) : Text := (toString n).toList

/-- `_describe_filtering`: what relevance filtering excluded, empty when nothing was. -/
def describeFiltering : Option (FilterOutcome ι) → Text
  | none => []
  | some filtering =>
    if filtering.excludedTotal = 0 then []
    else
      let scope := match filtering.appliedCategory with
        | some category =>
          if category = [] then [] else " (not ".toList ++ category ++ ")".toList
        | none => []
      let byCategory := if filtering.excludedByCategory = 0 then []
        else [numeral filtering.excludedByCategory ++ " from other categories".toList ++ scope]
      let bySimilarity := if filtering.excludedBySimilarity = 0 then []
        else [numeral filtering.excludedBySimilarity ++ " below the ".toList ++
          twoDecimals filtering.appliedSimilarityFloor ++ " similarity floor".toList]
      "after excluding ".toList ++ " and ".toList.intercalate (byCategory ++ bySimilarity)

/-- `_no_comparables_reason`. -/
def noComparablesReason (filtering : Option (FilterOutcome ι)) : Text :=
  let described := describeFiltering filtering
  if described ≠ [] then
    "No relevant comparable products remained ".toList ++ described ++
      (". No price is estimated; a value drawn from unrelated products would be " ++
        "misleading.").toList
  else "No comparable priced products were found.".toList

/-- `_build_reason`. -/
def buildReason (count removed : ℕ) (strategy : PricingStrategy) (confidence : PriceConfidence)
    (filtering : Option (FilterOutcome ι)) : Text :=
  let described := describeFiltering filtering
  let parts :=
    ["Estimated from ".toList ++ numeral count ++ " comparable product(s) using the ".toList ++
      strategy.value ++ " strategy".toList] ++
    (if described ≠ [] then [described] else []) ++
    (if removed ≠ 0 then
      ["after removing ".toList ++ numeral removed ++ " price outlier(s)".toList] else []) ++
    ["(".toList ++ confidence.value ++ " confidence)".toList]
  " ".toList.intercalate parts ++ ".".toList

/-! ### The estimator -/

namespace PriceEstimator

/-- Below this many comparables no outlier is removed. -/
def minForOutlierRemoval : ℕ := 4

/-- The lower end of the fence around the middle half of the prices. -/
def lowerFence (estimator : PriceEstimator) (prices : List ℚ) : ℚ :=
  quantile 4 1 prices -
    estimator.outlierIqrMultiplier * (quantile 4 3 prices - quantile 4 1 prices)

/-- The upper end of the fence. -/
def upperFence (estimator : PriceEstimator) (prices : List ℚ) : ℚ :=
  quantile 4 3 prices +
    estimator.outlierIqrMultiplier * (quantile 4 3 prices - quantile 4 1 prices)

/-- `_remove_outliers`: the comparables whose price is within the fence, and how many are not. -/
def removeOutliers (estimator : PriceEstimator) (comparables : List (ComparableProduct ι)) :
    List (ComparableProduct ι) × ℕ :=
  if comparables.length < minForOutlierRemoval ∨ estimator.outlierIqrMultiplier ≤ 0 then
    (comparables, 0)
  else
    let prices := pricesOf comparables
    let kept := comparables.filter fun c =>
      estimator.lowerFence prices ≤ c.price ∧ c.price ≤ estimator.upperFence prices
    (kept, comparables.length - kept.length)

/-- The relative spread of the prices. -/
noncomputable def coefficientOfVariation (prices : List ℚ) : ℝ :=
  if 1 < prices.length ∧ 0 < mean prices then pstdev prices / ((mean prices : ℚ) : ℝ) else 0

/-- The band of a score. -/
def band (estimator : PriceEstimator) (count : ℕ) (score : ℚ) : PriceConfidence :=
  if count < estimator.minComparables then .low
  else if 7 / 10 ≤ score then .high
  else if 4 / 10 ≤ score then .medium
  else .low

/-- `_confidence`: how many comparables there are, and how far their prices agree. -/
noncomputable def confidence (estimator : PriceEstimator)
    (comparables : List (ComparableProduct ι)) : ℚ × PriceConfidence :=
  let count := comparables.length
  let countFactor : ℚ := min (count / (estimator.minComparables * 2)) 1
  let spreadFactor := max 0 (1 - coefficientOfVariation (pricesOf comparables))
  let score := roundRealTo 3 (countFactor * spreadFactor)
  (score, estimator.band count score)

/-- The estimate before it is rounded. -/
def price (estimator : PriceEstimator) (comparables : List (ComparableProduct ι))
    (strategy : PricingStrategy) : ℚ :=
  aggregate (estimator.removeOutliers comparables).1 strategy estimator.trimRatio

/-- `estimate`: the estimate from comparables, by the given strategy or the configured one. -/
noncomputable def estimate (estimator : PriceEstimator) (comparables : List (ComparableProduct ι))
    (strategy : Option PricingStrategy) (filtering : Option (FilterOutcome ι)) :
    PriceEstimate ι :=
  let resolved := strategy.getD estimator.strategy
  if comparables.isEmpty then
    { estimatedPrice := none
      status := .noEstimate
      confidence := .low
      confidenceScore := 0
      strategy := resolved
      comparableCount := 0
      comparables := []
      reason := noComparablesReason filtering }
  else
    let removal := estimator.removeOutliers comparables
    let rated := estimator.confidence removal.1
    { estimatedPrice := some (roundTo 2 (estimator.price comparables resolved))
      status := .estimated
      confidence := rated.2
      confidenceScore := rated.1
      strategy := resolved
      comparableCount := removal.1.length
      comparables := removal.1
      reason := buildReason removal.1.length removal.2 resolved rated.2 filtering }

end PriceEstimator

/-- How the engine aggregates what the filter has kept. -/
noncomputable def PriceEstimator.ofOutcome (estimator : PriceEstimator)
    (kept : List (ComparableProduct ι)) (outcome : FilterOutcome ι) : PriceEstimate ι :=
  estimator.estimate kept none (some outcome)

/-! ### Outlier removal -/

namespace PriceEstimator

variable (estimator : PriceEstimator) {comparables : List (ComparableProduct ι)}

/-- Outlier removal keeps every price between the outer quartiles. -/
theorem mem_removeOutliers {comparable : ComparableProduct ι} (h : comparable ∈ comparables)
    (hfirst : quantile 4 1 (pricesOf comparables) ≤ comparable.price)
    (hthird : comparable.price ≤ quantile 4 3 (pricesOf comparables)) :
    comparable ∈ (estimator.removeOutliers comparables).1 := by
  simp only [removeOutliers]
  split
  · exact h
  · have hspread : 0 ≤ estimator.outlierIqrMultiplier *
        (quantile 4 3 (pricesOf comparables) - quantile 4 1 (pricesOf comparables)) :=
      mul_nonneg estimator.outlierIqrMultiplier_nonneg (sub_nonneg.2 (hfirst.trans hthird))
    refine List.mem_filter.2 ⟨h, decide_eq_true ?_⟩
    rw [lowerFence, upperFence]
    exact ⟨by linarith, by linarith⟩

/-- **Outlier removal leaves something to aggregate**: some price lies between the outer
quartiles. -/
theorem removeOutliers_ne_nil (h : comparables ≠ []) :
    (estimator.removeOutliers comparables).1 ≠ [] := by
  by_cases hfence : comparables.length < minForOutlierRemoval ∨ estimator.outlierIqrMultiplier ≤ 0
  · simp only [removeOutliers, if_pos hfence]
    exact h
  · rw [not_or, not_lt, minForOutlierRemoval] at hfence
    obtain ⟨price, hprice, hfirst, hthird⟩ :=
      exists_interquartile (l := pricesOf comparables) (by simpa [pricesOf] using hfence.1)
    obtain ⟨comparable, hcomparable, rfl⟩ := List.mem_map.1 hprice
    exact List.ne_nil_of_mem (estimator.mem_removeOutliers hcomparable hfirst hthird)

end PriceEstimator

/-! ### The currency unit -/

section Scale

variable (c : ℚ) (comparables : List (ComparableProduct ι))

/-- The comparable with its price in another unit. -/
def ComparableProduct.scale (c : ℚ) (comparable : ComparableProduct ι) : ComparableProduct ι :=
  { comparable with price := c * comparable.price }

theorem pricesOf_scale :
    pricesOf (comparables.map (ComparableProduct.scale c)) =
      (pricesOf comparables).map (c * ·) := by
  rw [pricesOf, pricesOf, List.map_map, List.map_map]
  rfl

theorem weightedAverage_scale :
    weightedAverage (comparables.map (ComparableProduct.scale c)) =
      c * weightedAverage comparables := by
  have hweight : (comparables.map (ComparableProduct.scale c)).map ComparableProduct.weight =
      comparables.map ComparableProduct.weight := by
    rw [List.map_map]
    rfl
  have hprice : (comparables.map (ComparableProduct.scale c)).map (fun p => p.price * p.weight) =
      comparables.map fun p => c * (p.price * p.weight) := by
    rw [List.map_map]
    exact List.map_congr_left fun p _ => mul_assoc c p.price p.weight
  have hsum : ((pricesOf comparables).map (c * ·)).sum = c * (pricesOf comparables).sum := by
    rw [List.sum_map_mul_left, List.map_id']
  simp only [weightedAverage]
  rw [hweight, hprice, pricesOf_scale, hsum, List.sum_map_mul_left, List.length_map]
  split
  · exact mul_div_assoc ..
  · exact mul_div_assoc ..

variable {c} (hc : 0 < c)
include hc

theorem trimmedMean_scale (prices : List ℚ) (trimRatio : ℚ) :
    trimmedMean (prices.map (c * ·)) trimRatio = c * trimmedMean prices trimRatio := by
  have hmono : Monotone (c * · : ℚ → ℚ) := fun a b h => mul_le_mul_of_nonneg_left h hc.le
  have hsum : ∀ l : List ℚ, (l.map (c * ·)).sum / l.length = c * (l.sum / l.length) := by
    intro l
    rw [List.sum_map_mul_left, List.map_id', mul_div_assoc]
  simp only [trimmedMean, sorted_map hmono, List.length_map, ← List.map_take, ← List.map_drop]
  split
  · simp only [ne_eq, List.map_eq_nil_iff]
    split
    · rw [List.length_map, hsum]
    · rw [List.length_map, hsum]
  · simp only [ne_eq, List.map_eq_nil_iff]
    split
    · rw [List.length_map, hsum]
    · rw [List.length_map, hsum]

theorem aggregate_scale (strategy : PricingStrategy) (trimRatio : ℚ) :
    aggregate (comparables.map (ComparableProduct.scale c)) strategy trimRatio =
      c * aggregate comparables strategy trimRatio := by
  cases strategy with
  | median =>
    unfold aggregate
    rw [pricesOf_scale]
    exact median_scale _ hc.le
  | weightedAverage => exact weightedAverage_scale c comparables
  | trimmedMean =>
    unfold aggregate
    rw [pricesOf_scale]
    exact trimmedMean_scale hc _ _

omit hc in
/-- The deviation follows the unit, as a real number. -/
theorem pstdev_scale (hc : 0 ≤ c) (prices : List ℚ) :
    pstdev (prices.map (c * ·)) = c * pstdev prices := by
  have hsquare : √((c : ℝ) ^ 2) = c := Real.sqrt_sq (by exact_mod_cast hc)
  rw [pstdev, variance_scale]
  push_cast
  rw [Real.sqrt_mul (sq_nonneg _), hsquare, pstdev]

namespace PriceEstimator

variable (estimator : PriceEstimator)

theorem lowerFence_scale (prices : List ℚ) :
    estimator.lowerFence (prices.map (c * ·)) = c * estimator.lowerFence prices := by
  simp only [lowerFence, quantile_scale _ hc.le]
  ring

theorem upperFence_scale (prices : List ℚ) :
    estimator.upperFence (prices.map (c * ·)) = c * estimator.upperFence prices := by
  simp only [upperFence, quantile_scale _ hc.le]
  ring

/-- Outlier removal keeps the same comparables in every unit. -/
theorem removeOutliers_scale :
    estimator.removeOutliers (comparables.map (ComparableProduct.scale c)) =
      ((estimator.removeOutliers comparables).1.map (ComparableProduct.scale c),
        (estimator.removeOutliers comparables).2) := by
  simp only [removeOutliers, List.length_map, pricesOf_scale, lowerFence_scale hc,
    upperFence_scale hc]
  split
  · rfl
  · have hkept : (comparables.map (ComparableProduct.scale c)).filter (fun p =>
        c * estimator.lowerFence (pricesOf comparables) ≤ p.price ∧
          p.price ≤ c * estimator.upperFence (pricesOf comparables)) =
        (comparables.filter fun p => estimator.lowerFence (pricesOf comparables) ≤ p.price ∧
          p.price ≤ estimator.upperFence (pricesOf comparables)).map
            (ComparableProduct.scale c) := by
      rw [List.filter_map]
      refine congrArg _ (List.filter_congr fun p _ => ?_)
      simp only [Function.comp_apply, ComparableProduct.scale, mul_le_mul_iff_right₀ hc]
    rw [hkept, List.length_map]

/-- The relative spread has no unit. -/
theorem coefficientOfVariation_scale (prices : List ℚ) :
    coefficientOfVariation (prices.map (c * ·)) = coefficientOfVariation prices := by
  have hc' : (c : ℝ) ≠ 0 := by exact_mod_cast hc.ne'
  simp only [coefficientOfVariation, List.length_map, mean_scale, pstdev_scale hc.le,
    mul_pos_iff_of_pos_left hc, Rat.cast_mul, mul_div_mul_left _ _ hc']

/-- Nor has the confidence. -/
theorem confidence_scale :
    estimator.confidence (comparables.map (ComparableProduct.scale c)) =
      estimator.confidence comparables := by
  unfold confidence
  rw [List.length_map, pricesOf_scale, coefficientOfVariation_scale hc]

theorem price_scale (strategy : PricingStrategy) :
    estimator.price (comparables.map (ComparableProduct.scale c)) strategy =
      c * estimator.price comparables strategy := by
  rw [price, removeOutliers_scale comparables hc, aggregate_scale _ hc, price]

/-- **Pricing does not depend on the currency unit.**  With all prices in another unit, outlier
removal keeps the same comparables, their count, the confidence score, its band and the reason stay
as they are, and the estimate before rounding follows the unit. -/
theorem pricing_follows_unit (strategy : Option PricingStrategy)
    (filtering : Option (FilterOutcome ι)) :
    let scaled := comparables.map (ComparableProduct.scale c)
    let estimate := estimator.estimate comparables strategy filtering
    let estimateScaled := estimator.estimate scaled strategy filtering
    let price := estimator.price comparables (strategy.getD estimator.strategy)
    estimateScaled.comparables = estimate.comparables.map (ComparableProduct.scale c) ∧
      estimateScaled.comparableCount = estimate.comparableCount ∧
      estimateScaled.confidenceScore = estimate.confidenceScore ∧
      estimateScaled.confidence = estimate.confidence ∧
      estimateScaled.status = estimate.status ∧ estimateScaled.reason = estimate.reason ∧
      estimator.price scaled (strategy.getD estimator.strategy) = c * price ∧
      estimate.estimatedPrice = (if comparables = [] then none else some (roundTo 2 price)) ∧
      estimateScaled.estimatedPrice =
        if comparables = [] then none else some (roundTo 2 (c * price)) := by
  intro scaled estimate estimateScaled price
  have hprice : estimator.price scaled (strategy.getD estimator.strategy) = c * price :=
    estimator.price_scale comparables hc _
  cases comparables with
  | nil => exact ⟨rfl, rfl, rfl, rfl, rfl, rfl, hprice, rfl, rfl⟩
  | cons comparable comparables =>
    have hremoval := estimator.removeOutliers_scale (comparable :: comparables) hc
    have hrated := estimator.confidence_scale
      (estimator.removeOutliers (comparable :: comparables)).1 hc
    have hscaled : estimateScaled = { estimate with
        estimatedPrice := some (roundTo 2 (c * price))
        comparables := estimate.comparables.map (ComparableProduct.scale c) } := by
      simp only [estimateScaled, estimate, PriceEstimator.estimate, scaled, List.map_cons,
        List.isEmpty_cons, Bool.false_eq_true, if_false]
      rw [← List.map_cons, hremoval, hrated, List.length_map]
      exact congrArg (fun q => PriceEstimate.mk (some (roundTo 2 q)) _ _ _ _ _ _ _) hprice
    rw [hscaled]
    exact ⟨rfl, rfl, rfl, rfl, rfl, rfl, hprice, rfl, rfl⟩

end PriceEstimator

end Scale

/-- Six comparables at about twenty, and one at four hundred. -/
def sevenShoes : List (ComparableProduct ℕ) :=
  [⟨1, 18, 9 / 10, none, none, none⟩, ⟨2, 23, 8 / 10, none, none, none⟩,
    ⟨3, 400, 8 / 10, none, none, none⟩, ⟨4, 41 / 2, 7 / 10, none, none, none⟩,
    ⟨5, 20, 7 / 10, none, none, none⟩, ⟨6, 219 / 10, 6 / 10, none, none, none⟩,
    ⟨7, 19, 6 / 10, none, none, none⟩]

/-- In cents the dear one is dropped as well, and the others are priced at 2040. -/
theorem pricing_follows_unit_cents :
    let cents := PriceEstimator.default.estimate (sevenShoes.map (ComparableProduct.scale 100))
      none none
    cents.comparables.map (·.productId) = [1, 2, 4, 5, 6, 7] ∧
      cents.estimatedPrice = some 2040 := by
  have hprice : PriceEstimator.default.price sevenShoes .trimmedMean = 102 / 5 := by
    decide +kernel
  have hkept : (PriceEstimator.default.estimate sevenShoes none none).comparables.map
      (·.productId) = [1, 2, 4, 5, 6, 7] := by decide +kernel
  obtain ⟨hcomparables, -, -, -, -, -, -, -, hestimated⟩ :=
    PriceEstimator.pricing_follows_unit sevenShoes (by norm_num : (0 : ℚ) < 100)
      PriceEstimator.default none none
  refine ⟨?_, ?_⟩
  · rw [hcomparables, List.map_map]
    exact hkept
  · rw [hestimated]
    decide +kernel

/-! ### The order of retrieval -/

section Order

variable {comparables comparables' : List (ComparableProduct ι)}
  (h : comparables.Perm comparables')
include h

theorem weightedAverage_congr : weightedAverage comparables = weightedAverage comparables' := by
  unfold weightedAverage pricesOf
  rw [(h.map ComparableProduct.weight).sum_eq, (h.map ComparableProduct.price).sum_eq,
    (h.map fun p => p.price * p.weight).sum_eq, h.length_eq]

theorem aggregate_congr (strategy : PricingStrategy) (trimRatio : ℚ) :
    aggregate comparables strategy trimRatio = aggregate comparables' strategy trimRatio := by
  have hprices : (pricesOf comparables).Perm (pricesOf comparables') :=
    h.map ComparableProduct.price
  cases strategy with
  | median => exact median_congr hprices
  | weightedAverage => exact weightedAverage_congr h
  | trimmedMean =>
    unfold aggregate trimmedMean
    rw [sorted_congr hprices]

namespace PriceEstimator

variable (estimator : PriceEstimator)

/-- Outlier removal keeps the same comparables in every order. -/
theorem removeOutliers_congr :
    (estimator.removeOutliers comparables).1.Perm (estimator.removeOutliers comparables').1 ∧
      (estimator.removeOutliers comparables).2 = (estimator.removeOutliers comparables').2 := by
  have hprices : (pricesOf comparables).Perm (pricesOf comparables') :=
    h.map ComparableProduct.price
  have hlower : estimator.lowerFence (pricesOf comparables) =
      estimator.lowerFence (pricesOf comparables') := by
    simp only [lowerFence, quantile_congr hprices]
  have hupper : estimator.upperFence (pricesOf comparables) =
      estimator.upperFence (pricesOf comparables') := by
    simp only [upperFence, quantile_congr hprices]
  simp only [removeOutliers, hlower, hupper, h.length_eq]
  split
  · exact ⟨h, rfl⟩
  · have hkept := h.filter fun c => estimator.lowerFence (pricesOf comparables') ≤ c.price ∧
      c.price ≤ estimator.upperFence (pricesOf comparables')
    exact ⟨hkept, by rw [hkept.length_eq]⟩

theorem confidence_congr :
    estimator.confidence comparables = estimator.confidence comparables' := by
  have hprices : (pricesOf comparables).Perm (pricesOf comparables') :=
    h.map ComparableProduct.price
  simp only [confidence, coefficientOfVariation, pstdev, h.length_eq, hprices.length_eq,
    mean_congr hprices, variance_congr hprices]

/-- The estimate lists its comparables in another order, and is the same otherwise. -/
theorem estimate_congr (strategy : Option PricingStrategy) (filtering : Option (FilterOutcome ι)) :
    let estimate := estimator.estimate comparables strategy filtering
    let estimate' := estimator.estimate comparables' strategy filtering
    estimate.comparables.Perm estimate'.comparables ∧
      estimate' = { estimate with comparables := estimate'.comparables } := by
  obtain ⟨hkept, hremoved⟩ := estimator.removeOutliers_congr h
  have hempty : comparables.isEmpty = comparables'.isEmpty := by
    rw [Bool.eq_iff_iff, List.isEmpty_iff, List.isEmpty_iff, ← List.length_eq_zero_iff,
      h.length_eq, List.length_eq_zero_iff]
  simp only [estimate, price, hempty, hremoved, hkept.length_eq, confidence_congr hkept,
    aggregate_congr hkept]
  split
  · exact ⟨List.Perm.refl _, rfl⟩
  · exact ⟨hkept, rfl⟩

end PriceEstimator

end Order

/-- The filter keeps the same comparables in every order, and counts the same exclusions. -/
theorem ComparableFilter.apply_congr (filter : ComparableFilter)
    {comparables comparables' : List (ComparableProduct ι)} (h : comparables.Perm comparables')
    (category : Option Text) :
    (filter.apply comparables category).kept.Perm (filter.apply comparables' category).kept ∧
      filter.apply comparables' category = { filter.apply comparables category with
        kept := (filter.apply comparables' category).kept } := by
  rw [ComparableFilter.apply_eq, ComparableFilter.apply_eq]
  refine ⟨h.filter _, ?_⟩
  rw [h.countP_eq, h.countP_eq]

/-- **Pricing does not depend on retrieval order.**  For every target and every permutation of what
was retrieved, the filter keeps the same comparables and counts the same exclusions, and the engine
returns the same estimate but for the order of its comparables. -/
theorem pricing_ignores_order {ε : Type} (hybridSearch : ProductSearch ι ε)
    (filter : ComparableFilter) (estimator : PriceEstimator) (topK : ℕ) (rerankingEnabled : Bool)
    (category : Option Text) {results results' : List (HybridSearchResult ι)}
    (h : results.Perm results') :
    let engine : PricingEngine ι ε (PriceEstimate ι) :=
      ⟨hybridSearch, filter, estimator.ofOutcome, topK, rerankingEnabled⟩
    let outcome := engine.outcome results category
    let outcome' := engine.outcome results' category
    let estimate := engine.estimate results category
    let estimate' := engine.estimate results' category
    outcome.kept.Perm outcome'.kept ∧
      outcome.excludedByCategory = outcome'.excludedByCategory ∧
      outcome.excludedBySimilarity = outcome'.excludedBySimilarity ∧
      estimate.estimatedPrice = estimate'.estimatedPrice ∧
      estimate.status = estimate'.status ∧
      estimate.comparableCount = estimate'.comparableCount ∧
      estimate.confidenceScore = estimate'.confidenceScore ∧
      estimate.confidence = estimate'.confidence ∧
      estimate.comparables.Perm estimate'.comparables ∧ estimate.reason = estimate'.reason := by
  intro engine outcome outcome' estimate estimate'
  have hcomparables : (toComparables results).Perm (toComparables results') := h.filterMap _
  obtain ⟨hkept, hcounts⟩ := filter.apply_congr hcomparables category
  -- the reason reads no more of the outcome than its counts
  have hsame : estimator.estimate outcome'.kept none (some outcome') =
      estimator.estimate outcome'.kept none (some outcome) := by
    have houtcome : outcome' = { outcome with kept := outcome'.kept } := hcounts
    rw [houtcome]
    rfl
  obtain ⟨hperm, hestimate⟩ := estimator.estimate_congr hkept none (some outcome)
  have hestimate' : estimate' = { estimate with comparables := estimate'.comparables } := by
    have hunfold : estimate' = estimator.estimate outcome'.kept none (some outcome) := hsame
    rw [hunfold]
    exact hestimate
  have hperm' : estimate.comparables.Perm estimate'.comparables := by
    have hunfold : estimate' = estimator.estimate outcome'.kept none (some outcome) := hsame
    rw [hunfold]
    exact hperm
  rw [hestimate']
  refine ⟨hkept, ?_, ?_, rfl, rfl, rfl, rfl, rfl, hperm', rfl⟩
  · exact (congrArg FilterOutcome.excludedByCategory hcounts).symm
  · exact (congrArg FilterOutcome.excludedBySimilarity hcounts).symm

namespace MenShoes

/-- A neighbour of the product at a price. -/
def neighbour (productId : ℕ) (price : ℚ) : HybridSearchResult ℕ :=
  ⟨productId, 9 / 10, { payload with price := some price }, [.text], 0, 9 / 10⟩

/-- Six neighbours at about ninety, and one at nine hundred. -/
def neighbours : List (HybridSearchResult ℕ) :=
  [neighbour 1 80, neighbour 2 900, neighbour 3 95, neighbour 4 100, neighbour 5 85,
    neighbour 6 96, neighbour 7 90]

/-- A search that has nothing to find. -/
def emptySearch : ProductSearch ℕ Unit where
  search := fun _ _ _ => .ok []
  searchByProductId := fun _ _ => .ok []
  retrieveMetadata := fun _ => .ok none

/-- An engine with the default estimator. -/
noncomputable def pricing : PricingEngine ℕ Unit (PriceEstimate ℕ) :=
  ⟨emptySearch, { similarityFloor := 1 / 2, enforceCategory := true },
    PriceEstimator.default.ofOutcome, 5, false⟩

end MenShoes

/-- In the reverse order the dear neighbour is dropped as well, and the price is 91. -/
theorem pricing_ignores_order_shoes :
    let estimate := MenShoes.pricing.estimate MenShoes.neighbours.reverse
      (some "men-shoes".toList)
    estimate.estimatedPrice = some 91 ∧
      (estimate.comparables.map (·.productId)).Perm [1, 3, 4, 5, 6, 7] := by
  obtain ⟨-, -, -, hprice, -, -, -, -, hcomparables, -⟩ :=
    pricing_ignores_order MenShoes.emptySearch { similarityFloor := 1 / 2, enforceCategory := true }
      PriceEstimator.default 5 false (some "men-shoes".toList)
      (List.reverse_perm MenShoes.neighbours).symm
  refine ⟨?_, ?_⟩
  · refine hprice.symm.trans ?_
    decide +kernel
  · refine (hcomparables.symm.map _).trans (List.Perm.of_eq ?_)
    decide +kernel

end ProductIntelligence

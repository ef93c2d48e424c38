import ProductIntelligence.Pricing.Estimator

/-!
# A price stays within its evidence

A division of the model is total, one of the program is not, and its functions of `statistics`
raise on too few data.  The estimator is therefore stated a second time with every division
checked, and shown never to fail.  What it returns lies between the prices it is computed from.

## Main definitions

* `Checked.divide`, `Checked.statistic` — a division, and a function of `statistics`.
* `Checked.estimate` — the estimator on these.

## Main results

* `Checked.estimate_eq` — **no division is by zero**.
* `between_aggregate` — the estimate before rounding lies between the prices kept.
* `between_roundTo` — rounding keeps it there when prices are whole cents.
* `estimate_within_evidence` — all of it, with the bounds of the confidence.

## References

`backend/app/services/pricing/price_estimator.py`.
-/

namespace ProductIntelligence

open Statistics

variable {ι : Type}

/-! ### Checked arithmetic -/

namespace Checked

/-- A division, which raises at zero. -/
def divide {K : Type} [Field K] [DecidableEq K] (a b : K) : Option K :=
  if b = 0 then none else some (a / b)

/-- A function of `statistics`, which raises on fewer than `least` data. -/
def statistic {K : Type} (least : ℕ) (value : List ℚ → K) (prices : List ℚ) : Option K :=
  if prices.length < least then none else some (value prices)

theorem divide_of_ne_zero {K : Type} [Field K] [DecidableEq K] {a b : K} (h : b ≠ 0) :
    divide a b = some (a / b) := if_neg h

theorem statistic_of_le {K : Type} {least : ℕ} {value : List ℚ → K} {prices : List ℚ}
    (h : least ≤ prices.length) : statistic least value prices = some (value prices) :=
  if_neg (not_lt.2 h)

/-- `_weighted_average`. -/
def weightedAverage (comparables : List (ComparableProduct ι)) : Option ℚ :=
  let totalWeight := (comparables.map ComparableProduct.weight).sum
  if totalWeight ≤ 0 then divide (pricesOf comparables).sum comparables.length
  else divide (comparables.map fun c => c.price * c.weight).sum totalWeight

/-- `_trimmed_mean`. -/
def trimmedMean (prices : List ℚ) (trimRatio : ℚ) : Option ℚ :=
  let ordered := sorted prices
  let cut := ⌊(ordered.length : ℚ) * trimRatio⌋.toNat
  let trimmed := if cut ≠ 0 then (ordered.take (ordered.length - cut)).drop cut else ordered
  let kept := if trimmed ≠ [] then trimmed else ordered
  divide kept.sum kept.length

/-- `_aggregate`. -/
def aggregate (comparables : List (ComparableProduct ι)) (strategy : PricingStrategy)
    (trimRatio : ℚ) : Option ℚ :=
  match strategy with
  | .median => statistic 1 Statistics.median (pricesOf comparables)
  | .weightedAverage => weightedAverage comparables
  | .trimmedMean => trimmedMean (pricesOf comparables) trimRatio

/-- `_remove_outliers`. -/
def removeOutliers (estimator : PriceEstimator) (comparables : List (ComparableProduct ι)) :
    Option (List (ComparableProduct ι) × ℕ) :=
  if comparables.length < PriceEstimator.minForOutlierRemoval ∨
      estimator.outlierIqrMultiplier ≤ 0 then
    some (comparables, 0)
  else do
    let prices := pricesOf comparables
    let q1 ← statistic 2 (quantile 4 1) prices
    let q3 ← statistic 2 (quantile 4 3) prices
    let lower := q1 - estimator.outlierIqrMultiplier * (q3 - q1)
    let upper := q3 + estimator.outlierIqrMultiplier * (q3 - q1)
    let kept := comparables.filter fun c => lower ≤ c.price ∧ c.price ≤ upper
    some (kept, comparables.length - kept.length)

/-- The relative spread of the prices. -/
noncomputable def coefficientOfVariation (prices : List ℚ) : Option ℝ := do
  let meanPrice ← statistic 1 mean prices
  if 1 < prices.length ∧ 0 < meanPrice then
    divide (← statistic 1 pstdev prices) ((meanPrice : ℚ) : ℝ)
  else some 0

/-- `_confidence`. -/
noncomputable def confidence (estimator : PriceEstimator)
    (comparables : List (ComparableProduct ι)) : Option (ℚ × PriceConfidence) := do
  let count := comparables.length
  let variation ← coefficientOfVariation (pricesOf comparables)
  let ratio ← divide (count : ℚ) (estimator.minComparables * 2)
  let countFactor := min ratio 1
  let spreadFactor := max 0 (1 - variation)
  let score := roundRealTo 3 (countFactor * spreadFactor)
  some (score, estimator.band count score)

/-- `estimate`. -/
noncomputable def estimate (estimator : PriceEstimator) (comparables : List (ComparableProduct ι))
    (strategy : Option PricingStrategy) (filtering : Option (FilterOutcome ι)) :
    Option (PriceEstimate ι) :=
  let resolved := strategy.getD estimator.strategy
  if comparables.isEmpty then
    some
      { estimatedPrice := none
        status := .noEstimate
        confidence := .low
        confidenceScore := 0
        strategy := resolved
        comparableCount := 0
        comparables := []
        reason := noComparablesReason filtering }
  else do
    let removal ← removeOutliers estimator comparables
    let price ← aggregate removal.1 resolved estimator.trimRatio
    let rated ← confidence estimator removal.1
    some
      { estimatedPrice := some (roundTo 2 price)
        status := .estimated
        confidence := rated.2
        confidenceScore := rated.1
        strategy := resolved
        comparableCount := removal.1.length
        comparables := removal.1
        reason := buildReason removal.1.length removal.2 resolved rated.2 filtering }

/-! ### No division is by zero -/

variable {comparables : List (ComparableProduct ι)}

theorem weightedAverage_eq (h : comparables ≠ []) :
    weightedAverage comparables = some (ProductIntelligence.weightedAverage comparables) := by
  have hlength : (comparables.length : ℚ) ≠ 0 := by
    simpa [List.length_eq_zero_iff] using h
  simp only [weightedAverage, ProductIntelligence.weightedAverage]
  split
  · exact divide_of_ne_zero hlength
  · next hweight => exact divide_of_ne_zero (not_le.1 hweight).ne'

/-- The prices that are left after trimming. -/
def trimmed (prices : List ℚ) (trimRatio : ℚ) : List ℚ :=
  let ordered := sorted prices
  let cut := ⌊(ordered.length : ℚ) * trimRatio⌋.toNat
  let trimmed := if cut ≠ 0 then (ordered.take (ordered.length - cut)).drop cut else ordered
  if trimmed ≠ [] then trimmed else ordered

/-- Trimming invents no price. -/
theorem trimmed_subset (prices : List ℚ) (trimRatio : ℚ) : trimmed prices trimRatio ⊆ prices := by
  intro price hprice
  apply (perm_sorted prices).mem_iff.1
  dsimp only [trimmed] at hprice
  split at hprice
  · split at hprice
    · exact List.mem_of_mem_take (List.mem_of_mem_drop hprice)
    · exact hprice
  · rwa [ite_self] at hprice

/-- Trimming leaves something. -/
theorem trimmed_ne_nil {prices : List ℚ} (h : prices ≠ []) (trimRatio : ℚ) :
    trimmed prices trimRatio ≠ [] := by
  have hsorted : sorted prices ≠ [] := by
    rw [← List.length_pos_iff, length_sorted, List.length_pos_iff]
    exact h
  by_cases htrimmed : (if ⌊((sorted prices).length : ℚ) * trimRatio⌋.toNat ≠ 0 then
      ((sorted prices).take ((sorted prices).length -
        ⌊((sorted prices).length : ℚ) * trimRatio⌋.toNat)).drop
          ⌊((sorted prices).length : ℚ) * trimRatio⌋.toNat
      else sorted prices) ≠ []
  · simp only [trimmed, if_pos htrimmed]
    exact htrimmed
  · simp only [trimmed, if_neg htrimmed]
    exact hsorted

/-- A mean is defined for at least one number. -/
theorem divide_length {prices : List ℚ} (h : prices ≠ []) :
    divide prices.sum prices.length = some (mean prices) :=
  divide_of_ne_zero (by simpa [List.length_eq_zero_iff] using h)

theorem aggregate_eq (h : comparables ≠ []) (strategy : PricingStrategy) (trimRatio : ℚ) :
    aggregate comparables strategy trimRatio =
      some (ProductIntelligence.aggregate comparables strategy trimRatio) := by
  have hprices : pricesOf comparables ≠ [] := by simpa [pricesOf] using h
  cases strategy with
  | median => exact statistic_of_le (List.length_pos_iff.2 hprices)
  | weightedAverage => exact weightedAverage_eq h
  | trimmedMean => exact divide_length (trimmed_ne_nil hprices trimRatio)

theorem removeOutliers_eq (estimator : PriceEstimator) (comparables : List (ComparableProduct ι)) :
    removeOutliers estimator comparables = some (estimator.removeOutliers comparables) := by
  simp only [removeOutliers, PriceEstimator.removeOutliers]
  split
  · rfl
  · next hfence =>
    rw [not_or, not_lt, PriceEstimator.minForOutlierRemoval] at hfence
    have htwo : 2 ≤ (pricesOf comparables).length := by
      rw [pricesOf, List.length_map]
      omega
    rw [statistic_of_le htwo, statistic_of_le htwo]
    rfl

theorem coefficientOfVariation_eq {prices : List ℚ} (h : prices ≠ []) :
    coefficientOfVariation prices = some (PriceEstimator.coefficientOfVariation prices) := by
  have hone : 1 ≤ prices.length := List.length_pos_iff.2 h
  simp only [coefficientOfVariation, PriceEstimator.coefficientOfVariation,
    statistic_of_le hone, Option.bind_eq_bind, Option.bind_some]
  split
  · next hspread =>
    have hmean : ((mean prices : ℚ) : ℝ) ≠ 0 := by exact_mod_cast hspread.2.ne'
    exact divide_of_ne_zero hmean
  · rfl

theorem confidence_eq (estimator : PriceEstimator) (h : comparables ≠ []) :
    confidence estimator comparables = some (estimator.confidence comparables) := by
  have hprices : pricesOf comparables ≠ [] := by simpa [pricesOf] using h
  have hmin : (estimator.minComparables : ℚ) * 2 ≠ 0 := by
    have hpos := estimator.minComparables_pos
    positivity
  rw [confidence, coefficientOfVariation_eq hprices, divide_of_ne_zero hmin]
  rfl

/-- **No division is by zero**, and no statistic is taken of too few prices. -/
theorem estimate_eq (estimator : PriceEstimator) (comparables : List (ComparableProduct ι))
    (strategy : Option PricingStrategy) (filtering : Option (FilterOutcome ι)) :
    estimate estimator comparables strategy filtering =
      some (estimator.estimate comparables strategy filtering) := by
  simp only [estimate, PriceEstimator.estimate]
  split
  · rfl
  · next hempty =>
    have hkept : (estimator.removeOutliers comparables).1 ≠ [] :=
      estimator.removeOutliers_ne_nil (by simpa using hempty)
    rw [removeOutliers_eq, Option.bind_eq_bind, Option.bind_some, aggregate_eq hkept,
      Option.bind_eq_bind, Option.bind_some, confidence_eq estimator hkept]
    rfl

end Checked

/-! ### Rounding -/

/-- Rounding does not pass an integer. -/
theorem rounded_bounds {K : Type*} [Field K] [LinearOrder K] [IsStrictOrderedRing K]
    [FloorRing K] {x : K} {r : ℤ} (h : r = ⌊x⌋ ∨ r = ⌊x⌋ + 1 ∧ (⌊x⌋ : K) < x) (n : ℤ) :
    ((n : K) ≤ x → n ≤ r) ∧ (x ≤ n → r ≤ n) := by
  constructor
  · intro hle
    have hfloor : n ≤ ⌊x⌋ := Int.le_floor.2 hle
    omega
  · intro hle
    rcases h with rfl | ⟨rfl, hlt⟩
    · exact_mod_cast (Int.floor_le x).trans hle
    · have hfloor : (⌊x⌋ : K) < n := hlt.trans_le hle
      exact_mod_cast hfloor

theorem roundHalfEven_bounds (q : ℚ) (n : ℤ) :
    ((n : ℚ) ≤ q → n ≤ roundHalfEven q) ∧ (q ≤ n → roundHalfEven q ≤ n) := by
  refine rounded_bounds ?_ n
  unfold roundHalfEven
  split
  · exact .inl rfl
  · next hhalf =>
    have hlt : (⌊q⌋ : ℚ) < q := by linarith
    split
    · exact .inr ⟨rfl, hlt⟩
    · split
      · exact .inl rfl
      · exact .inr ⟨rfl, hlt⟩

theorem roundHalfEvenReal_bounds (x : ℝ) (n : ℤ) :
    ((n : ℝ) ≤ x → n ≤ roundHalfEvenReal x) ∧ (x ≤ n → roundHalfEvenReal x ≤ n) := by
  refine rounded_bounds ?_ n
  unfold roundHalfEvenReal
  split
  · exact .inl rfl
  · next hhalf =>
    have hlt : (⌊x⌋ : ℝ) < x := by linarith
    split
    · exact .inr ⟨rfl, hlt⟩
    · split
      · exact .inl rfl
      · exact .inr ⟨rfl, hlt⟩

/-- Rounding to cents stays between whole cents. -/
theorem between_roundTo {prices : List ℚ} {price : ℚ} (h : Between prices price)
    (hcents : ∀ p ∈ prices, ∃ cents : ℤ, p = cents / 100) :
    Between prices (roundTo 2 price) := by
  obtain ⟨⟨low, hlow, hleast, hle⟩, high, hhigh, hgreatest, hge⟩ := h
  obtain ⟨a, ha⟩ := hcents low hlow
  obtain ⟨b, hb⟩ := hcents high hhigh
  have hhundred : (10 : ℚ) ^ 2 = 100 := by norm_num
  rw [roundTo, hhundred]
  refine ⟨⟨low, hlow, hleast, ?_⟩, high, hhigh, hgreatest, ?_⟩
  · have hround := (roundHalfEven_bounds (price * 100) a).1 (by linarith)
    have hcast : (a : ℚ) ≤ roundHalfEven (price * 100) := by exact_mod_cast hround
    linarith
  · have hround := (roundHalfEven_bounds (price * 100) b).2 (by linarith)
    have hcast : (roundHalfEven (price * 100) : ℚ) ≤ b := by exact_mod_cast hround
    linarith

/-- Rounding stays between zero and one. -/
theorem roundRealTo_unit {x : ℝ} (h0 : 0 ≤ x) (h1 : x ≤ 1) (digits : ℕ) :
    0 ≤ roundRealTo digits x ∧ roundRealTo digits x ≤ 1 := by
  have hpower : (0 : ℝ) < 10 ^ digits := by positivity
  have hpower' : (0 : ℚ) < 10 ^ digits := by positivity
  constructor
  · have hround := (roundHalfEvenReal_bounds (x * 10 ^ digits) 0).1 (by
      rw [Int.cast_zero]
      positivity)
    have hcast : (0 : ℚ) ≤ roundHalfEvenReal (x * 10 ^ digits) := by exact_mod_cast hround
    exact div_nonneg hcast hpower'.le
  · have hround := (roundHalfEvenReal_bounds (x * 10 ^ digits) (10 ^ digits)).2 (by
      push_cast
      nlinarith)
    have hcast : (roundHalfEvenReal (x * 10 ^ digits) : ℚ) ≤ 10 ^ digits := by
      exact_mod_cast hround
    rw [roundRealTo, div_le_one hpower']
    exact hcast

/-! ### The estimate -/

variable {comparables : List (ComparableProduct ι)}

/-- Every strategy gives a price between those it aggregates. -/
theorem between_aggregate (h : comparables ≠ []) (strategy : PricingStrategy) (trimRatio : ℚ) :
    Between (pricesOf comparables) (aggregate comparables strategy trimRatio) := by
  have hprices : pricesOf comparables ≠ [] := by simpa [pricesOf] using h
  cases strategy with
  | median => exact between_median hprices
  | weightedAverage =>
    simp only [aggregate, weightedAverage]
    split
    · -- nothing weighs: the plain mean
      have hmean := between_mean hprices (List.Subset.refl _)
      rwa [mean, pricesOf, List.length_map] at hmean
    · next hweight =>
      exact between_weighted (fun c _ => le_max_right c.similarity 0) (not_le.1 hweight)
  | trimmedMean =>
    exact between_mean (Checked.trimmed_ne_nil hprices trimRatio)
      (Checked.trimmed_subset (pricesOf comparables) trimRatio)

namespace PriceEstimator

variable (estimator : PriceEstimator)

/-- Outlier removal adds nothing. -/
theorem removeOutliers_sublist (comparables : List (ComparableProduct ι)) :
    (estimator.removeOutliers comparables).1.Sublist comparables := by
  simp only [removeOutliers]
  split
  · exact List.Sublist.refl _
  · exact List.filter_sublist

/-- The relative spread is not negative. -/
theorem coefficientOfVariation_nonneg (prices : List ℚ) : 0 ≤ coefficientOfVariation prices := by
  unfold coefficientOfVariation
  split
  · next hspread =>
    have hmean : (0 : ℝ) ≤ ((mean prices : ℚ) : ℝ) := by exact_mod_cast hspread.2.le
    exact div_nonneg (Real.sqrt_nonneg _) hmean
  · exact le_rfl

/-- The confidence score lies between zero and one. -/
theorem confidence_unit (comparables : List (ComparableProduct ι)) :
    0 ≤ (estimator.confidence comparables).1 ∧ (estimator.confidence comparables).1 ≤ 1 := by
  have hspread := coefficientOfVariation_nonneg (pricesOf comparables)
  obtain ⟨ratio, hratio⟩ :
      ∃ ratio : ℚ, ratio = comparables.length / (estimator.minComparables * 2) := ⟨_, rfl⟩
  have hratio0 : 0 ≤ ratio := by
    rw [hratio]
    positivity
  have hcount0 : (0 : ℝ) ≤ ((min ratio 1 : ℚ) : ℝ) := by
    exact_mod_cast le_min hratio0 zero_le_one
  have hcount1 : ((min ratio 1 : ℚ) : ℝ) ≤ 1 := by exact_mod_cast min_le_right ratio 1
  have hspread0 : 0 ≤ max 0 (1 - coefficientOfVariation (pricesOf comparables)) :=
    le_max_left _ _
  have hspread1 : max 0 (1 - coefficientOfVariation (pricesOf comparables)) ≤ 1 :=
    max_le zero_le_one (by linarith)
  simp only [confidence, ← hratio]
  exact roundRealTo_unit (mul_nonneg hcount0 hspread0) (mul_le_one₀ hcount1 hspread0 hspread1) 3

/-- **A price estimate stays within its evidence.**  For comparables with positive prices, outlier
removal keeps every price between the outer quartiles and at least one comparable, and nothing is
divided by zero.  Before rounding the estimate lies between the smallest and the largest price
kept, and after it too, if prices are whole cents.  The confidence score lies between zero and one,
and its band is low when fewer than the least number of comparables are kept. -/
theorem estimate_within_evidence (hne : comparables ≠ [])
    (hpositive : ∀ c ∈ comparables, 0 < c.price) (strategy : Option PricingStrategy)
    (filtering : Option (FilterOutcome ι)) :
    let kept := (estimator.removeOutliers comparables).1
    let price := estimator.price comparables (strategy.getD estimator.strategy)
    let estimate := estimator.estimate comparables strategy filtering
    kept.Sublist comparables ∧ kept ≠ [] ∧
      (∀ c ∈ comparables, quantile 4 1 (pricesOf comparables) ≤ c.price →
        c.price ≤ quantile 4 3 (pricesOf comparables) → c ∈ kept) ∧
      Checked.estimate estimator comparables strategy filtering = some estimate ∧
      estimate.comparables = kept ∧ Between (pricesOf kept) price ∧
      estimate.estimatedPrice = some (roundTo 2 price) ∧
      ((∀ c ∈ comparables, ∃ cents : ℤ, c.price = cents / 100) →
        Between (pricesOf kept) (roundTo 2 price) ∧ 0 < roundTo 2 price) ∧
      0 ≤ estimate.confidenceScore ∧ estimate.confidenceScore ≤ 1 ∧
      (kept.length < estimator.minComparables → estimate.confidence = .low) := by
  intro kept price estimate
  have hkept : kept ≠ [] := estimator.removeOutliers_ne_nil hne
  have hsub : kept.Sublist comparables := estimator.removeOutliers_sublist comparables
  have hprice : Between (pricesOf kept) price := between_aggregate hkept _ _
  have hestimate : estimate.comparables = kept ∧ estimate.estimatedPrice = some (roundTo 2 price) ∧
      estimate.confidenceScore = (estimator.confidence kept).1 ∧
      estimate.confidence = (estimator.confidence kept).2 := by
    have hempty : comparables.isEmpty = false := by simpa using hne
    simp only [estimate, PriceEstimator.estimate, hempty, Bool.false_eq_true, if_false]
    exact ⟨rfl, rfl, rfl, rfl⟩
  obtain ⟨hcomparables, hestimated, hscore, hband⟩ := hestimate
  rw [hscore, hband]
  refine ⟨hsub, hkept, fun c hc => estimator.mem_removeOutliers hc,
    Checked.estimate_eq estimator comparables strategy filtering, hcomparables, hprice, hestimated,
    fun hcents => ?_, (estimator.confidence_unit kept).1, (estimator.confidence_unit kept).2,
    fun hfew => if_pos hfew⟩
  have hrounded : Between (pricesOf kept) (roundTo 2 price) := by
    refine between_roundTo hprice fun p hp => ?_
    obtain ⟨c, hc, rfl⟩ := List.mem_map.1 hp
    exact hcents c (hsub.subset hc)
  obtain ⟨low, hlow, -, hle⟩ := hrounded.least
  obtain ⟨c, hc, rfl⟩ := List.mem_map.1 hlow
  exact ⟨hrounded, (hpositive c (hsub.subset hc)).trans_le hle⟩

end PriceEstimator

/-- Six shoes at about twenty and one at four hundred are priced between the cheapest and the
dearest of the six. -/
theorem estimate_within_evidence_shoes :
    let price := roundTo 2 (PriceEstimator.default.price sevenShoes .trimmedMean)
    (PriceEstimator.default.removeOutliers sevenShoes).2 = 1 ∧ 18 ≤ price ∧ price ≤ 23 := by
  have hpositive : ∀ c ∈ sevenShoes, 0 < c.price := by decide +kernel
  have hcents : ∀ c ∈ sevenShoes, c.price = (⌊c.price * 100⌋ : ℤ) / 100 := by decide +kernel
  obtain ⟨-, -, -, -, -, -, -, hrounded, -⟩ := PriceEstimator.default.estimate_within_evidence
    (List.cons_ne_nil _ _) hpositive none none
  obtain ⟨hbetween, -⟩ := hrounded fun c hc => ⟨_, hcents c hc⟩
  have hkept : ∀ p ∈ pricesOf (PriceEstimator.default.removeOutliers sevenShoes).1,
      18 ≤ p ∧ p ≤ 23 := by decide +kernel
  obtain ⟨low, hlow, -, hle⟩ := hbetween.least
  obtain ⟨high, hhigh, -, hge⟩ := hbetween.greatest
  exact ⟨by decide +kernel, (hkept low hlow).1.trans hle, hge.trans (hkept high hhigh).2⟩

end ProductIntelligence

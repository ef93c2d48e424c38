import ProductIntelligence.Products.Payload
import ProductIntelligence.Duplicates.FuzzyRatio

/-!
# Business rules of duplicate verification

A checked product is compared with one candidate on brand, category, price, title and
attributes.  Each rule that has data on both sides is satisfied or not and says why; two of
them can veto the candidate.

The category rule compares the category as typed with the facet key that ingest stored.  It
tolerates the difference between them only where the two texts are long enough for it.

## Main definitions

* `evaluateBrand`, `evaluateCategory`, `evaluatePrice`, `evaluateTitle`,
  `evaluateAttributeOverlap` — the rules.
* `evaluate` — all of them, with the score, the veto and the reasons.

## Main results

* `veto_evaluate` — when a candidate is vetoed.
* `evaluate_sound` — the score is a fraction of one and every reason has a message.
* `matches_own_category_iff` — when the category rule accepts the same category.
* `same_category_of_sorted_words_iff` — the same for plain words in order, by counting.

## References

`backend/app/services/duplicate/business_rules_evaluator.py`.
-/

namespace ProductIntelligence

open Words

/-! ### The rules -/

/-- The machine-readable code of a reason. -/
inductive ReasonCode
  | sameBrand
  | brandMismatch
  | sameCategory
  | categoryMismatch
  | closePrice
  | priceDifference
  | titleSimilarity
  | titleDifference
  | attributeOverlap
  | attributeMismatch
  | crossEncoder
  | noCandidates
  deriving DecidableEq

/-- One explainable factor behind a verification decision. -/
structure VerificationReason where
  code : ReasonCode
  message : Text
  deriving DecidableEq

/-- A rule's verdict and its reason, or nothing when the rule does not apply. -/
abbrev RuleOutcome := Option (Bool × VerificationReason)

/-- The configured rules. -/
structure BusinessRulesEvaluator where
  requireSameBrand : Bool
  requireSameCategory : Bool
  maxPriceDifferenceRatio : ℚ
  titleSimilarityThreshold : ℚ
  deriving DecidableEq

/-- `_normalize`: the trimmed and lower-cased text, empty when absent. -/
def normalizeToken : Option Text → Text
  | some value => lower (strip value)
  | none => []

/-- `_CATEGORY_MATCH_RATIO`. -/
def categoryMatchRatio : ℚ := 9 / 10

/-- A ratio formatted by `:.0%`. -/
def percent (ratio : ℚ) : Text := (toString (roundHalfEven (ratio * 100))).toList ++ ['%']

/-- `_evaluate_brand`. -/
def evaluateBrand (queryBrand candidateBrand : Option Text) : RuleOutcome :=
  if normalizeToken queryBrand = [] ∨ normalizeToken candidateBrand = [] then none
  else if normalizeToken queryBrand = normalizeToken candidateBrand then
    some (true, ⟨.sameBrand, "Same brand (".toList ++ queryBrand.getD [] ++ [')']⟩)
  else
    some (false, ⟨.brandMismatch, "Different brand (".toList ++ queryBrand.getD [] ++
      " vs ".toList ++ candidateBrand.getD [] ++ [')']⟩)

/-- `_evaluate_category`: the category as typed against the stored one, by fuzzy ratio. -/
def evaluateCategory (queryCategory candidateCategory : Option Text) : RuleOutcome :=
  if normalizeToken queryCategory = [] ∨ normalizeToken candidateCategory = [] then none
  else if categoryMatchRatio ≤
      fuzzyRatio (queryCategory.getD []) (candidateCategory.getD []) then
    some (true, ⟨.sameCategory, "Same category (".toList ++ queryCategory.getD [] ++ [')']⟩)
  else
    some (false, ⟨.categoryMismatch, "Different category (".toList ++ queryCategory.getD [] ++
      " vs ".toList ++ candidateCategory.getD [] ++ [')']⟩)

/-- The price difference relative to the candidate's price. -/
def differenceRatio (queryPrice candidatePrice : ℚ) : ℚ :=
  |queryPrice - candidatePrice| / max |candidatePrice| (1 / 10 ^ 9)

/-- `_evaluate_price`. -/
def evaluatePrice (rules : BusinessRulesEvaluator) : Option ℚ → Option ℚ → RuleOutcome
  | some queryPrice, some candidatePrice =>
    let ratio := differenceRatio queryPrice candidatePrice
    if ratio ≤ rules.maxPriceDifferenceRatio then
      some (true, ⟨.closePrice, "Similar price (within ".toList ++ percent ratio ++ [')']⟩)
    else some (false, ⟨.priceDifference, "Price differs by ".toList ++ percent ratio⟩)
  | _, _ => none

/-- `_evaluate_title`. -/
def evaluateTitle (rules : BusinessRulesEvaluator) (queryName candidateName : Text) :
    RuleOutcome :=
  if normalizeToken (some candidateName) = [] then none
  else
    let ratio := fuzzyRatio queryName candidateName
    if rules.titleSimilarityThreshold ≤ ratio then
      some (true, ⟨.titleSimilarity, "Title similarity ".toList ++ percent ratio⟩)
    else some (false, ⟨.titleDifference, "Title similarity only ".toList ++ percent ratio⟩)

/-- The attributes compared for overlap, with the value of each on both sides. -/
def overlapAttributes (attributes : ProductAttributes) (candidate : Payload) :
    List (Text × Option Text × Option Text) :=
  [("color".toList, attributes.color, candidate.color),
    ("material".toList, attributes.material, candidate.material),
    ("gender".toList, attributes.gender, candidate.gender),
    ("style".toList, attributes.style, candidate.style)]

/-- `_evaluate_attribute_overlap`. -/
def evaluateAttributeOverlap (attributes : ProductAttributes) (candidate : Payload) :
    RuleOutcome :=
  let comparable := (overlapAttributes attributes candidate).filter fun field =>
    normalizeToken field.2.1 ≠ [] ∧ normalizeToken field.2.2 ≠ []
  let matched := comparable.filter fun field =>
    normalizeToken field.2.1 = normalizeToken field.2.2
  if comparable = [] then none
  else if matched ≠ [] then
    some (true, ⟨.attributeOverlap,
      "Matching attributes: ".toList ++ [',', ' '].intercalate (matched.map Prod.fst)⟩)
  else some (false, ⟨.attributeMismatch, "No matching attributes".toList⟩)

/-! ### The evaluation -/

/-- What the rules evaluated so far add up to. -/
structure Tally where
  reasons : List VerificationReason
  satisfied : ℕ
  applicable : ℕ
  veto : Bool

/-- Count one more outcome; `gate` says whether a mismatch vetoes. -/
def Tally.add (tally : Tally) (gate : Bool) : RuleOutcome → Tally
  | none => tally
  | some (matched, reason) =>
    { reasons := tally.reasons ++ [reason]
      satisfied := tally.satisfied + matched.toNat
      applicable := tally.applicable + 1
      veto := tally.veto || (gate && !matched) }

/-- The outcome of evaluating every rule for one candidate. -/
structure BusinessRulesResult where
  score : ℚ
  veto : Bool
  reasons : List VerificationReason
  deriving DecidableEq

/-- `evaluate`: every rule, in order. -/
def evaluate (rules : BusinessRulesEvaluator) (name : Text) (brand category : Option Text)
    (price : Option ℚ) (attributes : ProductAttributes) (candidate : Payload) :
    BusinessRulesResult :=
  let tally := (⟨[], 0, 0, false⟩ : Tally)
    |>.add rules.requireSameBrand (evaluateBrand brand candidate.brand)
    |>.add rules.requireSameCategory (evaluateCategory category candidate.category)
    |>.add false (evaluatePrice rules price candidate.price)
    |>.add false (evaluateTitle rules name candidate.name)
    |>.add false (evaluateAttributeOverlap attributes candidate)
  { score := if tally.applicable = 0 then 0 else tally.satisfied / tally.applicable
    veto := tally.veto
    reasons := tally.reasons }

/-- The rule applies and is not satisfied. -/
def Mismatch (outcome : RuleOutcome) : Prop := ∃ reason, outcome = some (false, reason)

theorem Tally.veto_add (tally : Tally) (gate : Bool) (outcome : RuleOutcome) :
    (tally.add gate outcome).veto = true ↔
      tally.veto = true ∨ gate = true ∧ Mismatch outcome := by
  unfold Tally.add Mismatch
  rcases outcome with _ | ⟨matched, reason⟩
  · simp
  · cases matched <;> simp

/-- **A candidate is vetoed** exactly when a required brand or category mismatches. -/
theorem veto_evaluate (rules : BusinessRulesEvaluator) (name : Text)
    (brand category : Option Text) (price : Option ℚ) (attributes : ProductAttributes)
    (candidate : Payload) :
    (evaluate rules name brand category price attributes candidate).veto = true ↔
      rules.requireSameBrand = true ∧ Mismatch (evaluateBrand brand candidate.brand) ∨
      rules.requireSameCategory = true ∧
        Mismatch (evaluateCategory category candidate.category) := by
  simp [evaluate, Tally.veto_add]

/-- The tally counts no more satisfied than applicable rules, and every reason says something. -/
def Tally.Sound (tally : Tally) : Prop :=
  tally.satisfied ≤ tally.applicable ∧ ∀ reason ∈ tally.reasons, reason.message ≠ []

/-- What a rule says, if it applies, is not empty. -/
def Explains (outcome : RuleOutcome) : Prop := ∀ verdict ∈ outcome, verdict.2.message ≠ []

theorem explains_evaluateBrand (queryBrand candidateBrand : Option Text) :
    Explains (evaluateBrand queryBrand candidateBrand) := by
  unfold Explains evaluateBrand
  split
  · simp
  · split <;> simp

theorem explains_evaluateCategory (queryCategory candidateCategory : Option Text) :
    Explains (evaluateCategory queryCategory candidateCategory) := by
  unfold Explains evaluateCategory
  split
  · simp
  · split <;> simp

theorem explains_evaluatePrice (rules : BusinessRulesEvaluator) (queryPrice candidatePrice :
    Option ℚ) : Explains (evaluatePrice rules queryPrice candidatePrice) := by
  unfold Explains evaluatePrice
  split
  · dsimp only
    split <;> simp
  · simp

theorem explains_evaluateTitle (rules : BusinessRulesEvaluator) (queryName candidateName : Text) :
    Explains (evaluateTitle rules queryName candidateName) := by
  unfold Explains evaluateTitle
  split
  · simp
  · dsimp only
    split <;> simp

theorem explains_evaluateAttributeOverlap (attributes : ProductAttributes) (candidate : Payload) :
    Explains (evaluateAttributeOverlap attributes candidate) := by
  unfold Explains evaluateAttributeOverlap
  dsimp only
  split
  · simp
  · split <;> simp

theorem Tally.Sound.add {tally : Tally} (h : tally.Sound) (gate : Bool) {outcome : RuleOutcome}
    (hexplains : Explains outcome) : (tally.add gate outcome).Sound := by
  rcases outcome with _ | ⟨matched, reason⟩
  · exact h
  · refine ⟨?_, ?_⟩
    · have hone : matched.toNat ≤ 1 := Bool.toNat_le matched
      exact Nat.add_le_add h.1 hone
    · intro r hr
      rcases List.mem_append.1 hr with hr | hr
      · exact h.2 r hr
      · rw [List.mem_singleton.1 hr]
        exact hexplains (matched, reason) rfl

/-- **The score of the rules** is a fraction of one, and every reason has a message. -/
theorem evaluate_sound (rules : BusinessRulesEvaluator) (name : Text)
    (brand category : Option Text) (price : Option ℚ) (attributes : ProductAttributes)
    (candidate : Payload) :
    (0 ≤ (evaluate rules name brand category price attributes candidate).score ∧
      (evaluate rules name brand category price attributes candidate).score ≤ 1) ∧
    ∀ reason ∈ (evaluate rules name brand category price attributes candidate).reasons,
      reason.message ≠ [] := by
  have hstart : (⟨[], 0, 0, false⟩ : Tally).Sound := ⟨le_refl 0, by simp⟩
  have hsound := ((((hstart.add rules.requireSameBrand
    (explains_evaluateBrand brand candidate.brand)).add rules.requireSameCategory
    (explains_evaluateCategory category candidate.category)).add false
    (explains_evaluatePrice rules price candidate.price)).add false
    (explains_evaluateTitle rules name candidate.name)).add false
    (explains_evaluateAttributeOverlap attributes candidate)
  refine ⟨?_, hsound.2⟩
  rw [evaluate]
  dsimp only
  split
  · exact ⟨le_refl 0, zero_le_one⟩
  · refine ⟨by positivity, div_le_one_of_le₀ ?_ (Nat.cast_nonneg _)⟩
    exact Nat.cast_le.2 hsound.1

/-- The rule applies and is satisfied. -/
def Matched (outcome : RuleOutcome) : Prop := ∃ reason, outcome = some (true, reason)

/-! ### The same category on both sides -/

/-- A text that is not empty is not lower-cased to nothing. -/
theorem lower_ne_nil {s : Text} (h : s ≠ []) : lower s ≠ [] := by
  cases s with
  | nil => exact absurd rfl h
  | cons c s =>
    have hspecial : ∀ ns, lowerSpecial.lookup c.toNat = some ns → ns ≠ [] := by
      intro ns hns
      obtain ⟨l₁, l₂, hmem, -⟩ := List.lookup_eq_some_iff.1 hns
      have hin : (c.toNat, ns) ∈ lowerSpecial := by
        rw [hmem]
        simp
      rw [lowerSpecial, List.mem_singleton] at hin
      rw [show ns = [105, 775] from congrArg Prod.snd hin]
      simp
    have hchar : lowerChar [] c s ≠ [] := by
      unfold lowerChar mapCase
      split
      · split <;> simp
      · split
        · rename_i ns hns
          simpa using hspecial ns hns
        · split <;> simp
    unfold lower lowerAfter
    simp [hchar]

/-- The category rule applies to a category with a key and to the stored key. -/
theorem evaluateCategory_applies {c key : Text} (hkey : normalizeFacet (some c) = some key) :
    normalizeToken (some c) ≠ [] ∧ normalizeToken (some key) = key ∧ key ≠ [] := by
  obtain ⟨hslug, hwords⟩ := normalizeFacet_eq_some.1 hkey
  have hword := fun w => isWord_of_mem_facetWords (s := c) (w := w)
  refine ⟨?_, ?_, ?_⟩
  · apply lower_ne_nil
    intro hblank
    rw [← facetWords_strip, hblank] at hwords
    exact hwords rfl
  · rw [← hslug, normalizeToken, strip_slug hword, lower_slug hword]
  · rwa [← hslug, Ne, slug_eq_nil hword]

/-- Enough of the category as typed is found, in order, in its facet key. -/
def LongCommonSubsequence (typed key : Text) : Prop :=
  ∃ w, List.Sublist w (prepared typed) ∧ List.Sublist w key ∧
    9 * ((prepared typed).length + key.length) ≤ 20 * w.length

/-- The fuzzy ratio of a category and its key reaches the cut-off. -/
theorem categoryMatchRatio_le_iff {c key : Text} (hkey : normalizeFacet (some c) = some key) :
    categoryMatchRatio ≤ fuzzyRatio c key ↔ LongCommonSubsequence c key := by
  obtain ⟨hslug, hwords⟩ := normalizeFacet_eq_some.1 hkey
  have hprepared : prepared key = key := by
    rw [← hslug, prepared_slug (fun w => isWord_of_mem_facetWords) hwords]
  have hne : prepared key ≠ [] := by
    rw [hprepared]
    exact (evaluateCategory_applies hkey).2.2
  rw [le_fuzzyRatio_iff hne, hprepared]
  unfold LongCommonSubsequence categoryMatchRatio
  have hcut : ∀ n m : ℕ, (9 / 10 * ((prepared c).length + key.length : ℚ) ≤ 2 * n ↔
      9 * ((prepared c).length + key.length) ≤ 20 * n) := by
    intro n _
    rw [← @Nat.cast_le ℚ]
    push_cast
    constructor <;> intro h <;> linarith
  simp only [hcut _ 0]

/-- The verdict of the category rule on a category and its key. -/
theorem evaluateCategory_key {c key : Text} (hkey : normalizeFacet (some c) = some key) :
    (Matched (evaluateCategory (some c) (some key)) ↔ LongCommonSubsequence c key) ∧
    (Mismatch (evaluateCategory (some c) (some key)) ↔ ¬ LongCommonSubsequence c key) := by
  obtain ⟨htyped, hstored, hne⟩ := evaluateCategory_applies hkey
  have happlies : ¬ (normalizeToken (some c) = [] ∨ normalizeToken (some key) = []) := by
    rw [hstored]
    simp [htyped, hne]
  rw [← categoryMatchRatio_le_iff hkey, evaluateCategory, if_neg happlies, Option.getD_some,
    Option.getD_some]
  unfold Matched Mismatch
  split <;> simp_all

/-- **When the category rule accepts the same category**: exactly when a common subsequence
of the category as prepared for comparison and of its key makes up nine tenths of the two;
otherwise the rule reports a mismatch, for which a required category vetoes. -/
theorem matches_own_category_iff (product : ProductCreate) (image : ProductImage)
    (catalogResult : CatalogIntelligenceResult) {c key : Text} (hc : product.category = some c)
    (hkey : normalizeFacet (some c) = some key) :
    (Matched (evaluateCategory product.category
        (vectorMetadata product image catalogResult).category) ↔
      LongCommonSubsequence c key) ∧
    (Mismatch (evaluateCategory product.category
        (vectorMetadata product image catalogResult).category) ↔
      ¬ LongCommonSubsequence c key) := by
  have hcategory : (vectorMetadata product image catalogResult).category = some key := by
    rw [← hkey, ← hc]
    rfl
  rw [hc, hcategory]
  exact evaluateCategory_key hkey

/-- A category of two long words is accepted as itself. -/
theorem basketball_sneakers_match_themselves :
    Matched (evaluateCategory (some "Basketball Sneakers".toList)
      (vectorMetadata ⟨"Trail".toList, none, none, some "Basketball Sneakers".toList, none⟩
        ⟨"a.png".toList, "b.png".toList, "image/png".toList, 1, 0⟩
        ⟨ProductAttributes.empty, [], 0⟩).category) := by
  have hkey : normalizeFacet (some "Basketball Sneakers".toList) =
      some "basketball-sneakers".toList := by decide +kernel
  refine (matches_own_category_iff
    ⟨"Trail".toList, none, none, some "Basketball Sneakers".toList, none⟩
    ⟨"a.png".toList, "b.png".toList, "image/png".toList, 1, 0⟩ ⟨ProductAttributes.empty, [], 0⟩
    rfl hkey).1.2 ?_
  -- the two texts differ in the character between the words
  exact ⟨"basketballsneakers".toList, by decide +kernel, by decide +kernel, by decide +kernel⟩

/-- `Men Shoes` is not accepted as itself: the space and the hyphen cost more than a tenth of
the two texts. -/
theorem men_shoes_mismatch_themselves :
    normalizeFacet (some "Men Shoes".toList) = some "men-shoes".toList ∧
    (evaluateCategory (some "Men Shoes".toList)
      (vectorMetadata ⟨"Trail".toList, none, none, some "Men Shoes".toList, none⟩
        ⟨"a.png".toList, "b.png".toList, "image/png".toList, 1, 0⟩
        ⟨ProductAttributes.empty, [], 0⟩).category).map Prod.fst = some false ∧
    (evaluate ⟨false, true, 1 / 2, 4 / 5⟩ "Trail".toList none (some "Men Shoes".toList) none
      ProductAttributes.empty
      (vectorMetadata ⟨"Trail".toList, none, none, some "Men Shoes".toList, none⟩
        ⟨"a.png".toList, "b.png".toList, "image/png".toList, 1, 0⟩
        ⟨ProductAttributes.empty, [], 0⟩)).veto = true := by
  decide +kernel

/-! ### Plain words in order -/

section PlainWords

variable {ws : List Text}

/-- Words of letters `a`–`z` and digits. -/
def Plain (ws : List Text) : Prop := ∀ w ∈ ws, IsWord isSeparator w

/-- The words joined by single spaces. -/
def spaced (ws : List Text) : Text := [' '].intercalate ws

theorem isWord_isSpace {w : Text} (hw : IsWord isSeparator w) : IsWord isSpace w := by
  refine ⟨hw.1, ?_⟩
  intro c hc
  apply not_isSpace_of_isKeyChar
  simpa [isSeparator] using hw.2 c hc

/-- The characters of words joined by spaces. -/
theorem mem_spaced (hws : Plain ws) : ∀ c ∈ spaced ws, isKeyChar c = true ∨ c = ' ' := by
  intro c hc
  by_cases hspace : c = ' '
  · exact .inr hspace
  · -- what is left without the spaces are the characters of the words
    have hkeep : (spaced ws).filter (fun d => d ≠ ' ') = ws.flatten := by
      apply filter_intercalate (by simp)
      intro w hw d hd
      have := (isWord_isSpace (hws w hw)).2 d hd
      rw [decide_eq_true_eq]
      rintro rfl
      exact absurd this (by decide)
    have hmem : c ∈ ws.flatten := by
      rw [← hkeep, List.mem_filter]
      exact ⟨hc, by simpa using hspace⟩
    obtain ⟨w, hw, hcw⟩ := List.mem_flatten.1 hmem
    exact .inl (by simpa [isSeparator] using (hws w hw).2 c hcw)

/-- The characters of the words are what both spellings have in common. -/
theorem filter_isKeyChar {s : Char} (hs : isKeyChar s = false) (hws : Plain ws) :
    ([s].intercalate ws).filter isKeyChar = ws.flatten := by
  apply filter_intercalate hs
  intro w hw c hc
  simpa [isSeparator] using (hws w hw).2 c hc

/-- Plain words in order are prepared as they stand. -/
theorem prepared_spaced (hws : Plain ws) (hsorted : ws.Pairwise (· ≤ ·)) :
    prepared (spaced ws) = spaced ws := by
  have hwords : ∀ w ∈ ws, IsWord isSpace w := fun w hw => isWord_isSpace (hws w hw)
  have hstrip : strip (spaced ws) = spaced ws := stripBy_intercalate ' ' hwords
  have hlower : lower (spaced ws) = spaced ws := by
    apply lower_eq_self
    intro c hc
    rcases mem_spaced hws c hc with hkey | hspace
    · exact .inl hkey
    · exact .inr (.inr hspace)
  have htokens : tokens isSpace (spaced ws) = ws := tokens_intercalate rfl hwords
  rw [prepared, hstrip, hlower, tokenSort, htokens, hsorted.insertionSort_eq]
  rfl

/-- The key of plain words is the words joined by hyphens. -/
theorem normalizeFacet_spaced (hws : Plain ws) (hne : ws ≠ []) :
    normalizeFacet (some (spaced ws)) = some (slug ws) := by
  have hfold : casefold (spaced ws) = spaced ws := by
    apply casefold_eq_self
    intro c hc
    rcases mem_spaced hws c hc with hkey | rfl
    · exact foldChar_of_isKeyChar hkey
    · exact (foldChar_of_isSpace rfl).1
  have hwords : facetWords (spaced ws) = ws := by
    rw [facetWords, hfold]
    exact tokens_intercalate rfl hws
  rw [normalizeFacet_eq_some, hwords]
  exact ⟨rfl, hne⟩

/-- **Plain words in order are accepted as themselves** exactly when they have nine letters or
digits for every space between them. -/
theorem same_category_of_sorted_words_iff (hws : Plain ws) (hne : ws ≠ [])
    (hsorted : ws.Pairwise (· ≤ ·)) :
    Matched (evaluateCategory (some (spaced ws)) (normalizeCategory (some (spaced ws)))) ↔
      9 * (ws.length - 1) ≤ ws.flatten.length := by
  have hkey := normalizeFacet_spaced hws hne
  have hspaced : (spaced ws).length + 1 = ws.flatten.length + ws.length :=
    length_intercalate ' ' hne
  have hslug : (slug ws).length + 1 = ws.flatten.length + ws.length :=
    length_intercalate '-' hne
  have hpos : 0 < ws.length := List.length_pos_iff.2 hne
  rw [normalizeCategory, hkey, (evaluateCategory_key hkey).1]
  unfold LongCommonSubsequence
  rw [prepared_spaced hws hsorted]
  constructor
  · rintro ⟨w, hwa, hwb, hlen⟩
    -- a common character is neither the space nor the hyphen
    have hcommon : w.filter isKeyChar = w := by
      rw [List.filter_eq_self]
      intro c hc
      rcases mem_spaced hws c (hwa.subset hc) with hchar | rfl
      · exact hchar
      · rcases mem_slug hws _ (hwb.subset hc) with hchar | hchar
        · exact hchar
        · exact absurd hchar (by decide)
    have hle : w.length ≤ ws.flatten.length := by
      have hsub := hwb.filter isKeyChar
      rw [hcommon, slug, filter_isKeyChar (by decide) hws] at hsub
      exact hsub.length_le
    omega
  · intro h
    refine ⟨ws.flatten, ?_, ?_, by omega⟩
    · rw [← filter_isKeyChar (s := ' ') (by decide) hws]
      exact List.filter_sublist
    · rw [← filter_isKeyChar (s := '-') (by decide) hws]
      exact List.filter_sublist

end PlainWords

end ProductIntelligence

import ProductIntelligence.Products.Metadata
import ProductIntelligence.Recommendation.Scorer

/-!
# Scoring payloads of any shape

The scorer reads payloads whose values may be anything: what is no string is no attribute and no
tag, and what is no number is no quality.  Each piece of evidence is the same whichever of the two
products is the target, and each score is in the unit interval, so that no payload fails.

## Main definitions

* `RawSearchResult` — a retrieved product with a payload of any shape.
* `RecommendationScorer.scoreRaw` — the scorer on such payloads, with the checks of its result.
* `RecommendationScorer.combine` — the final score of four signals.
* `RecommendationCandidate.scores`, `RecommendationCandidate.validate` — the checked fields of a
  candidate.

## Main results

* `min_max_clampDouble` — clamping a float as the source writes it.
* `scoreRaw_eq_ok`, `inUnit_scored` — **no payload fails**, and each score is in the unit interval.
* `attributeMatchRaw_comm` — either payload may be the target.
* `combine_mono` — the final score is monotone in each signal.
* `evidence_symmetric_bounded` — all of it for any two payloads.
* `scoreRaw_toMetadata` — on the payloads that ingest stores the scorer is the one on typed payloads.

## References

`backend/app/services/recommendation/recommendation_scorer.py`,
`backend/app/models/recommendation_candidate.py`.
-/

namespace ProductIntelligence

variable {ι : Type}

/-! ### Numbers -/

/-- `left < right`, which never holds of what is no number. -/
def Double.less : Double → Double → Bool
  | .finite p, .finite q => p < q
  | .infinity negative, .finite _ => negative
  | .finite _, .infinity negative => !negative
  | .infinity negative, .infinity negative' => negative && !negative'
  | _, _ => false

/-- `min(left, right)`: the first, unless the second is less. -/
def Double.min (left right : Double) : Double := if right.less left then right else left

/-- `max(left, right)`: the first, unless it is less than the second. -/
def Double.max (left right : Double) : Double := if left.less right then right else left

theorem min_finite (p q : ℚ) : Double.min (.finite p) (.finite q) = .finite (min p q) := by
  have hless : Double.less (.finite q) (.finite p) = decide (q < p) := rfl
  rw [Double.min, hless]
  by_cases h : q < p
  · rw [if_pos (decide_eq_true h), min_eq_right h.le]
  · rw [if_neg (by simpa using h), min_eq_left (not_lt.1 h)]

theorem max_finite (p q : ℚ) : Double.max (.finite p) (.finite q) = .finite (max p q) := by
  have hless : Double.less (.finite p) (.finite q) = decide (p < q) := rfl
  rw [Double.max, hless]
  by_cases h : p < q
  · rw [if_pos (decide_eq_true h), max_eq_right h.le]
  · rw [if_neg (by simpa using h), max_eq_left (not_lt.1 h)]

/-- `_clamp` of a float: what is no number becomes one. -/
def clampDouble : Double → ℚ
  | .finite q => clamp q
  | .infinity negative => if negative then 0 else 1
  | .nan => 1

/-- **Clamping a float** is `max(0.0, min(1.0, value))`. -/
theorem min_max_clampDouble (value : Double) :
    Double.max (.finite 0) (.min (.finite 1) value) = .finite (clampDouble value) := by
  cases value with
  | finite q => rw [min_finite, max_finite, clampDouble, clamp]
  | infinity negative => cases negative <;> rfl
  | nan => rfl

theorem inUnit_clampDouble (value : Double) : InUnit (clampDouble value) := by
  cases value with
  | finite q => exact inUnit_clamp q
  | infinity negative => cases negative <;> decide
  | nan => decide

/-! ### The scorer -/

/-- `_as_float`: a number as it is, a Boolean as the integer it is, zero for anything else. -/
def JsonValue.number : JsonValue → Double
  | .bool value => .finite (if value then 1 else 0)
  | .int n => .finite n
  | .float value => value
  | _ => .finite 0

/-- `_ATTRIBUTE_FIELDS`. -/
def attributeFields : List String := ["color", "material", "gender", "season", "style"]

/-- `_attribute_match` on payloads of any shape. -/
def attributeMatchRaw (target candidate : Metadata) : ℚ × List Text :=
  let considered := attributeFields.filter fun field =>
    hasText (target.get field).text? && hasText (candidate.get field).text?
  let matched := considered.filter fun field =>
    valuesMatch (target.get field).text? (candidate.get field).text?
  (share matched.length considered.length, matched.map String.toList)

/-- A retrieved product with a payload of any shape. -/
structure RawSearchResult (ι : Type) where
  productId : ι
  score : Double
  metadata : Metadata

/-- The scores of a candidate, each with its field. -/
def RecommendationCandidate.scores (candidate : RecommendationCandidate ι) : List (String × ℚ) :=
  [("similarity_score", candidate.similarityScore), ("attribute_score", candidate.attributeScore),
    ("tag_score", candidate.tagScore), ("quality_score", candidate.qualityScore),
    ("final_score", candidate.finalScore)]

/-- The checks of a candidate: the fields that are not in the unit interval are refused. -/
def RecommendationCandidate.validate (candidate : RecommendationCandidate ι) :
    Except (List String) (RecommendationCandidate ι) :=
  match candidate.scores.filter fun entry => ¬ InUnit entry.2 with
  | [] => .ok candidate
  | invalid => .error (invalid.map Prod.fst)

namespace RecommendationScorer

variable (scorer : RecommendationScorer)

/-- The final score of four signals. -/
def combine (similarity attributes tags quality : ℚ) : ℚ :=
  clamp (scorer.similarityWeight * similarity + scorer.attributeWeight * attributes +
    scorer.tagWeight * tags + scorer.qualityWeight * quality)

/-- What the scorer finds out about a candidate. -/
def scored (target : Metadata) (candidate : RawSearchResult ι) : RecommendationCandidate ι :=
  let similarity := clampDouble candidate.score
  let attributes := attributeMatchRaw target candidate.metadata
  let tags := tagMatch (target.get "tags").strings (candidate.metadata.get "tags").strings
  let quality := clampDouble (candidate.metadata.get "quality_score").number
  { productId := candidate.productId
    similarityScore := similarity
    attributeScore := attributes.1
    tagScore := tags.1
    qualityScore := quality
    finalScore := scorer.combine similarity attributes.1 tags.1 quality
    reason :=
      { matchedAttributes := attributes.2
        sharedTags := tags.2
        sharedBrand :=
          valuesMatch (target.get "brand").text? (candidate.metadata.get "brand").text?
        sharedCategory :=
          valuesMatch (target.get "category").text? (candidate.metadata.get "category").text? }
    explanation := [] }

/-- `score` on payloads of any shape. -/
def scoreRaw (target : Metadata) (candidate : RawSearchResult ι) :
    Except (List String) (RecommendationCandidate ι) :=
  (scorer.scored target candidate).validate

end RecommendationScorer

/-! ### No payload fails -/

/-- A candidate passes the checks exactly if each score is in the unit interval. -/
theorem validate_eq_ok_iff {candidate candidate' : RecommendationCandidate ι} :
    candidate.validate = .ok candidate' ↔
      (∀ entry ∈ candidate.scores, InUnit entry.2) ∧ candidate' = candidate := by
  unfold RecommendationCandidate.validate
  cases hinvalid : candidate.scores.filter fun entry => ¬ InUnit entry.2 with
  | nil =>
    rw [List.filter_eq_nil_iff] at hinvalid
    have hall : ∀ entry ∈ candidate.scores, InUnit entry.2 := by
      intro entry hentry
      simpa using hinvalid entry hentry
    rw [and_iff_right hall, Except.ok.injEq]
    exact eq_comm
  | cons entry invalid =>
    refine iff_of_false nofun fun h => ?_
    have hmem : entry ∈ candidate.scores.filter fun entry => ¬ InUnit entry.2 := by
      rw [hinvalid]
      exact List.mem_cons_self
    obtain ⟨hentry, hnot⟩ := List.mem_filter.1 hmem
    exact of_decide_eq_true hnot (h.1 entry hentry)

/-- **Each score is in the unit interval**, whatever the payloads hold. -/
theorem inUnit_scored (scorer : RecommendationScorer) (target : Metadata)
    (candidate : RawSearchResult ι) :
    ∀ entry ∈ (scorer.scored target candidate).scores, InUnit entry.2 := by
  simp only [RecommendationCandidate.scores, List.forall_mem_cons]
  exact ⟨inUnit_clampDouble _, inUnit_share (List.length_filter_le _ _), inUnit_tagMatch _ _,
    inUnit_clampDouble _, inUnit_clamp _, List.forall_mem_nil _⟩

theorem scoreRaw_eq_ok (scorer : RecommendationScorer) (target : Metadata)
    (candidate : RawSearchResult ι) :
    scorer.scoreRaw target candidate = .ok (scorer.scored target candidate) :=
  validate_eq_ok_iff.2 ⟨inUnit_scored scorer target candidate, rfl⟩

/-! ### Both ways -/

/-- The matched attributes and their share do not depend on which side is the target. -/
theorem attributeMatchRaw_comm (target candidate : Metadata) :
    attributeMatchRaw target candidate = attributeMatchRaw candidate target := by
  unfold attributeMatchRaw
  simp only [Bool.and_comm (hasText (target.get _).text?),
    valuesMatch_comm (target.get _).text?]

/-! ### The final score -/

/-- No weight is negative. -/
structure RecommendationScorer.Nonnegative (scorer : RecommendationScorer) : Prop where
  similarityWeight : 0 ≤ scorer.similarityWeight
  attributeWeight : 0 ≤ scorer.attributeWeight
  tagWeight : 0 ≤ scorer.tagWeight
  qualityWeight : 0 ≤ scorer.qualityWeight

/-- The final score does not fall when a signal rises. -/
def RecommendationScorer.MonotoneInSignals (scorer : RecommendationScorer) : Prop :=
  ∀ similarity similarity' attributes attributes' tags tags' quality quality' : ℚ,
    similarity ≤ similarity' → attributes ≤ attributes' → tags ≤ tags' → quality ≤ quality' →
      scorer.combine similarity attributes tags quality ≤
        scorer.combine similarity' attributes' tags' quality'

/-- **The final score is monotone in each signal** if no weight is negative. -/
theorem RecommendationScorer.combine_mono {scorer : RecommendationScorer}
    (h : scorer.Nonnegative) : scorer.MonotoneInSignals := by
  intro similarity similarity' attributes attributes' tags tags' quality quality' hs ha ht hq
  refine clamp_mono ?_
  have hsimilarity := mul_le_mul_of_nonneg_left hs h.similarityWeight
  have hattributes := mul_le_mul_of_nonneg_left ha h.attributeWeight
  have htags := mul_le_mul_of_nonneg_left ht h.tagWeight
  have hquality := mul_le_mul_of_nonneg_left hq h.qualityWeight
  linarith

/-- **The evidence between two products** is the same both ways, whatever their payloads hold;
scoring never fails, each score is in the unit interval, and the final score is monotone in each
signal if no weight is negative. -/
theorem evidence_symmetric_bounded (scorer : RecommendationScorer) (left right : RawSearchResult ι) :
    ∃ forth back, scorer.scoreRaw left.metadata right = .ok forth ∧
      scorer.scoreRaw right.metadata left = .ok back ∧
      forth.attributeScore = back.attributeScore ∧ forth.tagScore = back.tagScore ∧
      forth.reason = back.reason ∧
      (∀ entry ∈ forth.scores, InUnit entry.2) ∧
      forth.finalScore = scorer.combine forth.similarityScore forth.attributeScore forth.tagScore
        forth.qualityScore ∧
      (scorer.Nonnegative → scorer.MonotoneInSignals) := by
  have hattributes := attributeMatchRaw_comm left.metadata right.metadata
  have htags := tagMatch_comm (left.metadata.get "tags").strings (right.metadata.get "tags").strings
  refine ⟨_, _, scoreRaw_eq_ok scorer left.metadata right, scoreRaw_eq_ok scorer right.metadata left,
    congrArg Prod.fst hattributes, congrArg Prod.fst htags, ?_, inUnit_scored _ _ _, rfl,
    fun h => RecommendationScorer.combine_mono h⟩
  unfold RecommendationScorer.scored
  dsimp only
  rw [hattributes, htags, valuesMatch_comm (left.metadata.get "brand").text?,
    valuesMatch_comm (left.metadata.get "category").text?]

/-! ### Typed payloads -/

/-- A retrieved product, with its payload as an object. -/
def HybridSearchResult.toRaw (result : HybridSearchResult ι) : RawSearchResult ι :=
  ⟨result.productId, .finite result.score, result.metadata.toMetadata⟩

/-- **On the payloads that ingest stores** the scorer is the one on typed payloads. -/
theorem scoreRaw_toMetadata (scorer : RecommendationScorer) (target : Payload)
    (candidate : HybridSearchResult ι) :
    scorer.scoreRaw target.toMetadata candidate.toRaw = .ok (scorer.score target candidate) := by
  have htarget := text?_get_toMetadata target
  have hcandidate := text?_get_toMetadata candidate.metadata
  have htags : ∀ payload : Payload, (payload.toMetadata.get "tags").strings = payload.tags :=
    fun payload => strings_map_str payload.tags
  have hquality : (candidate.metadata.toMetadata.get "quality_score").number =
      .finite candidate.metadata.qualityScore := rfl
  simp only [Payload.optionalTexts, List.forall_mem_cons] at htarget hcandidate
  have hfields : recommendationAttributes target candidate.metadata =
      attributeFields.map fun field => (field.toList, (target.toMetadata.get field).text?,
        (candidate.metadata.toMetadata.get field).text?) := by
    simp only [attributeFields, recommendationAttributes, List.map_cons, List.map_nil, htarget,
      hcandidate]
  have hattributes : attributeMatchRaw target.toMetadata candidate.metadata.toMetadata =
      attributeMatch target candidate.metadata := by
    unfold attributeMatchRaw attributeMatch
    rw [hfields]
    simp [List.filter_map, Function.comp_def]
  rw [scoreRaw_eq_ok]
  unfold RecommendationScorer.scored RecommendationScorer.score
  dsimp only [HybridSearchResult.toRaw]
  rw [hattributes, htags, htags, hquality, htarget.1, hcandidate.1, htarget.2.1, hcandidate.2.1]
  rfl

end ProductIntelligence

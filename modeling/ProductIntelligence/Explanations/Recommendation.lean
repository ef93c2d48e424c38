import ProductIntelligence.Explanations.Builder
import ProductIntelligence.Recommendation.UntypedScorer

/-!
# Explaining a recommendation

The scorer clamps the weighted sum of its four signals; the explainer lists the four terms of that
sum with the weights of the settings.  The weights are not negative and sum to one up to a
tolerance, so the sum is clamped by no more than that.

## Main definitions

* `RecommendationSettings`, `RecommendationSettings.defaults` — weights that the settings accept.
* `explainRecommendation` — the explainer.

## Main results

* `abs_sub_clamp_le` — how much clamping changes.
* `explainRecommendation_isOk` — a recommendation can always be explained.
* `recommendation_adds_up` — **the contributions sum to the reported total**, up to the tolerance.

## References

`backend/app/services/explanations/recommendation_explainer.py`, `backend/app/core/settings.py`.
-/

namespace ProductIntelligence

variable {ι : Type}

/-! ### Settings -/

/-- Weights that the settings accept. -/
structure RecommendationSettings extends RecommendationScorer where
  nonnegative : toRecommendationScorer.Nonnegative
  sum_to_one :
    |similarityWeight + attributeWeight + tagWeight + qualityWeight - 1| ≤ weightTolerance

/-- The default weights. -/
def RecommendationSettings.defaults : RecommendationSettings where
  similarityWeight := 55 / 100
  attributeWeight := 20 / 100
  tagWeight := 15 / 100
  qualityWeight := 10 / 100
  nonnegative := by constructor <;> norm_num
  sum_to_one := by norm_num [weightTolerance]

/-! ### The explainer -/

/-- The signals a candidate shares with the target, as parts of reasons. -/
def sharedSignals (reason : RecommendationReason) : List ReasonParts :=
  (if reason.sharedBrand then
    [⟨"shared_brand".toList, "the same brand".toList, none⟩] else []) ++
  (if reason.sharedCategory then
    [⟨"shared_category".toList, "the same category".toList, none⟩] else []) ++
  (if reason.matchedAttributes ≠ [] then
    [⟨"matched_attributes".toList,
      "matching ".toList ++ ", ".toList.intercalate reason.matchedAttributes, none⟩] else []) ++
  (if reason.sharedTags ≠ [] then
    [⟨"shared_tags".toList,
      "shared tags (".toList ++ ", ".toList.intercalate reason.sharedTags ++ [')'], none⟩] else [])

/-- The terms of the weighted sum, with the weights of the settings. -/
def RecommendationSettings.breakdown (settings : RecommendationSettings)
    (subject : RecommendationCandidate ι) : ConfidenceBreakdown where
  components :=
    [ExplanationBuilder.weight "similarity" subject.similarityScore settings.similarityWeight,
      ExplanationBuilder.weight "attribute_match" subject.attributeScore settings.attributeWeight,
      ExplanationBuilder.weight "tag_match" subject.tagScore settings.tagWeight,
      ExplanationBuilder.weight "quality" subject.qualityScore settings.qualityWeight]
  total := subject.finalScore

/-- `explain`. -/
def explainRecommendation (settings : RecommendationSettings)
    (subject : RecommendationCandidate ι) : Except (List Text) (ExplanationTrace ι) := do
  let reasons ← buildReasons (sharedSignals subject.reason)
  pure
    { decisionType := "recommendation".toList
      summary :=
        ExplanationBuilder.summarize "Recommended because it shares".toList reasons
      subjectId := some subject.productId
      reasons
      breakdown := some (settings.breakdown subject)
      confidence := some subject.finalScore }

/-- A recommendation can always be explained. -/
theorem explainRecommendation_isOk (settings : RecommendationSettings)
    (subject : RecommendationCandidate ι) :
    ∃ trace, explainRecommendation settings subject = .ok trace ∧
      trace.breakdown = some (settings.breakdown subject) := by
  have hvalid : ∀ part ∈ sharedSignals subject.reason, part.IsValid := by
    intro part hpart
    simp only [sharedSignals, List.mem_append, List.mem_ite_nil_right, List.mem_singleton] at hpart
    rcases hpart with ((⟨-, rfl⟩ | ⟨-, rfl⟩) | ⟨-, rfl⟩) | ⟨-, rfl⟩ <;>
      simp [ReasonParts.IsValid]
  obtain ⟨reasons, hreasons⟩ := (buildReasons_isOk_iff _).2 hvalid
  exact ⟨_, Except.bind_eq_ok.2 ⟨reasons, hreasons, rfl⟩, rfl⟩

/-! ### The sum -/

/-- What is not negative, and above one by at most the tolerance, is clamped by no more than
that. -/
theorem abs_sub_clamp_le {q tolerance : ℚ} (hq : 0 ≤ q) (h : q ≤ 1 + tolerance)
    (htolerance : 0 ≤ tolerance) : |q - clamp q| ≤ tolerance := by
  unfold clamp
  rcases le_total q 1 with hle | hge
  · rw [min_eq_right hle, max_eq_right hq, sub_self, abs_zero]
    exact htolerance
  · rw [min_eq_left hge, max_eq_right zero_le_one, abs_of_nonneg (sub_nonneg.2 hge)]
    linarith

/-- The weighted sum of four signals of the unit interval is in the unit interval, up to the
tolerance. -/
theorem RecommendationSettings.weightedSum_bounds (settings : RecommendationSettings)
    {similarity attributes tags quality : ℚ} (hs : InUnit similarity) (ha : InUnit attributes)
    (ht : InUnit tags) (hq : InUnit quality) :
    0 ≤ settings.similarityWeight * similarity + settings.attributeWeight * attributes +
        settings.tagWeight * tags + settings.qualityWeight * quality ∧
      settings.similarityWeight * similarity + settings.attributeWeight * attributes +
        settings.tagWeight * tags + settings.qualityWeight * quality ≤ 1 + weightTolerance := by
  have hw := settings.nonnegative
  have hsum := (abs_le.1 settings.sum_to_one).2
  have hsimilarity := mul_le_of_le_one_right hw.similarityWeight hs.2
  have hattributes := mul_le_of_le_one_right hw.attributeWeight ha.2
  have htags := mul_le_of_le_one_right hw.tagWeight ht.2
  have hquality := mul_le_of_le_one_right hw.qualityWeight hq.2
  constructor
  · have hsimilarity := mul_nonneg hw.similarityWeight hs.1
    have hattributes := mul_nonneg hw.attributeWeight ha.1
    have htags := mul_nonneg hw.tagWeight ht.1
    have hquality := mul_nonneg hw.qualityWeight hq.1
    linarith
  · linarith

/-- The listed contributions are the terms of the weighted sum. -/
theorem RecommendationSettings.contributed_breakdown (settings : RecommendationSettings)
    (subject : RecommendationCandidate ι) :
    (settings.breakdown subject).contributed =
      settings.similarityWeight * subject.similarityScore +
        settings.attributeWeight * subject.attributeScore +
        settings.tagWeight * subject.tagScore + settings.qualityWeight * subject.qualityScore := by
  simp only [breakdown, ConfidenceBreakdown.contributed, ExplanationBuilder.weight, List.map_cons,
    List.map_nil, List.sum_cons, List.sum_nil]
  ring

/-- **A recommendation's explanation adds up**: for all weights that the settings accept and every
candidate that the scorer makes of them, the listed contributions sum to the reported total, up to
the tolerance. -/
theorem recommendation_adds_up (settings : RecommendationSettings) (target : Metadata)
    (candidate : RawSearchResult ι) :
    ∃ scored trace breakdown,
      settings.scoreRaw target candidate = .ok scored ∧
      explainRecommendation settings scored = .ok trace ∧ trace.breakdown = some breakdown ∧
      breakdown.total = scored.finalScore ∧
      |breakdown.contributed - breakdown.total| ≤ weightTolerance := by
  obtain ⟨trace, htrace, hbreakdown⟩ :=
    explainRecommendation_isOk settings (settings.scored target candidate)
  refine ⟨_, trace, _, scoreRaw_eq_ok _ target candidate, htrace, hbreakdown, rfl, ?_⟩
  have hscores := inUnit_scored settings.toRecommendationScorer target candidate
  simp only [RecommendationCandidate.scores, List.forall_mem_cons] at hscores
  obtain ⟨hsimilarity, hattributes, htags, hquality, -⟩ := hscores
  obtain ⟨hnonneg, hle⟩ := settings.weightedSum_bounds hsimilarity hattributes htags hquality
  rw [settings.contributed_breakdown]
  exact abs_sub_clamp_le hnonneg hle (by norm_num [weightTolerance])

/-! ### Two hiking boots -/

namespace HikingBoots

/-- The payload of a blue boot. -/
def target : Metadata :=
  [("brand".toList, .str "Alto".toList), ("color".toList, .str "Blue".toList),
    ("material".toList, .str "Leather".toList),
    ("tags".toList, .list [.str "hiking".toList, .str "waterproof".toList])]

/-- A similar boot of another color, retrieved with a score of 0.9. -/
def candidate : RawSearchResult ℕ where
  productId := 2
  score := .finite (9 / 10)
  metadata :=
    [("brand".toList, .str "Alto".toList), ("color".toList, .str "Red".toList),
      ("material".toList, .str "leather".toList),
      ("tags".toList, .list [.str "hiking".toList]),
      ("quality_score".toList, .float (.finite (4 / 5)))]

end HikingBoots

/-- With the default weights the similar boot scores 0.75, and its explanation adds up to that. -/
theorem recommendation_adds_up_boots :
    ∃ scored trace breakdown,
      RecommendationSettings.defaults.scoreRaw HikingBoots.target HikingBoots.candidate =
        .ok scored ∧
      explainRecommendation RecommendationSettings.defaults scored = .ok trace ∧
      trace.breakdown = some breakdown ∧ breakdown.total = 3 / 4 ∧
      |breakdown.contributed - 3 / 4| ≤ weightTolerance := by
  obtain ⟨scored, trace, breakdown, hscored, htrace, hbreakdown, htotal, hle⟩ :=
    recommendation_adds_up RecommendationSettings.defaults HikingBoots.target HikingBoots.candidate
  have hfinal : scored.finalScore = 3 / 4 := by
    rw [scoreRaw_eq_ok, Except.ok.injEq] at hscored
    rw [← hscored]
    decide +kernel
  rw [htotal, hfinal] at hle
  exact ⟨scored, trace, breakdown, hscored, htrace, hbreakdown, htotal.trans hfinal, hle⟩

end ProductIntelligence

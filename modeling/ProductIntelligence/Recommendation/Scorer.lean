import Mathlib.Data.List.Dedup
import ProductIntelligence.Duplicates.Detection

/-!
# Scoring a recommendation

A candidate is compared with the target product on similarity, attributes, tags and quality.

## Main definitions

* `valuesMatch` — two values say the same.
* `attributeMatch`, `tagMatch` — the two overlap signals with their evidence.
* `RecommendationScorer.score` — the weighted sum and the reason.

## Main results

* `inUnit_score` — every score of a candidate is in the unit interval.
* `valuesMatch_comm`, `tagMatch_comm` — either side may be the target.

## References

`backend/app/services/recommendation/recommendation_scorer.py`.
-/

namespace ProductIntelligence

variable {ι : Type}

/-- `_values_match`: equal up to case and surrounding white space, and not blank. -/
def valuesMatch : Option Text → Option Text → Bool
  | some a, some b =>
    lower (strip a) ≠ [] ∧ lower (strip b) ≠ [] ∧ lower (strip a) = lower (strip b)
  | _, _ => false

/-- The attributes compared, with their values on both sides. -/
def recommendationAttributes (target candidate : Payload) :
    List (Text × Option Text × Option Text) :=
  [("color".toList, target.color, candidate.color),
    ("material".toList, target.material, candidate.material),
    ("gender".toList, target.gender, candidate.gender),
    ("season".toList, target.season, candidate.season),
    ("style".toList, target.style, candidate.style)]

/-- The share of `part` in `whole`, zero when there is nothing. -/
def share (part whole : ℕ) : ℚ := if whole = 0 then 0 else part / whole

/-- `_attribute_match`: the share of the attributes given on both sides that agree, and their
names. -/
def attributeMatch (target candidate : Payload) : ℚ × List Text :=
  let considered := (recommendationAttributes target candidate).filter fun field =>
    hasText field.2.1 && hasText field.2.2
  let matched := considered.filter fun field => valuesMatch field.2.1 field.2.2
  (share matched.length considered.length, matched.map Prod.fst)

/-- `_normalize_tags`: the distinct tags, trimmed and lower-cased. -/
def normalizeTags (tags : List Text) : List Text :=
  ((tags.filter fun tag => strip tag ≠ []).map fun tag => lower (strip tag)).dedup

/-- `_tag_match`: the shared tags in order, and their share of all tags of either side. -/
def tagMatch (target candidate : List Text) : ℚ × List Text :=
  let shared := (normalizeTags target).filter (· ∈ normalizeTags candidate)
  let all := (normalizeTags target ++ normalizeTags candidate).dedup
  (share shared.length all.length, shared.insertionSort (· ≤ ·))

/-- The signals a candidate shares with the target. -/
structure RecommendationReason where
  matchedAttributes : List Text
  sharedTags : List Text
  sharedBrand : Bool
  sharedCategory : Bool
  deriving DecidableEq

/-- One candidate scored against the target. -/
structure RecommendationCandidate (ι : Type) where
  productId : ι
  similarityScore : ℚ
  attributeScore : ℚ
  tagScore : ℚ
  qualityScore : ℚ
  finalScore : ℚ
  reason : RecommendationReason
  explanation : Text
  deriving DecidableEq

/-- The weights of the four signals. -/
structure RecommendationScorer where
  similarityWeight : ℚ
  attributeWeight : ℚ
  tagWeight : ℚ
  qualityWeight : ℚ
  deriving DecidableEq

/-- `score`: compare one candidate with the target's stored payload. -/
def RecommendationScorer.score (scorer : RecommendationScorer) (target : Payload)
    (candidate : HybridSearchResult ι) : RecommendationCandidate ι :=
  let similarity := clamp candidate.score
  let attributes := attributeMatch target candidate.metadata
  let tags := tagMatch target.tags candidate.metadata.tags
  let quality := clamp candidate.metadata.qualityScore
  { productId := candidate.productId
    similarityScore := similarity
    attributeScore := attributes.1
    tagScore := tags.1
    qualityScore := quality
    finalScore := clamp (scorer.similarityWeight * similarity +
      scorer.attributeWeight * attributes.1 + scorer.tagWeight * tags.1 +
      scorer.qualityWeight * quality)
    reason :=
      { matchedAttributes := attributes.2
        sharedTags := tags.2
        sharedBrand := valuesMatch target.brand candidate.metadata.brand
        sharedCategory := valuesMatch target.category candidate.metadata.category }
    explanation := [] }

theorem inUnit_clamp (q : ℚ) : InUnit (clamp q) := ⟨clamp_nonneg q, clamp_le_one q⟩

theorem inUnit_share {part whole : ℕ} (h : part ≤ whole) : InUnit (share part whole) := by
  unfold share
  split
  · exact ⟨le_refl 0, zero_le_one⟩
  · have hwhole : (0 : ℚ) < whole := by
      have hpos : 0 < whole := by omega
      exact_mod_cast hpos
    refine ⟨by positivity, ?_⟩
    rw [div_le_one hwhole]
    exact_mod_cast h

/-- Shared tags are distinct tags of the target. -/
theorem inUnit_tagMatch (target candidate : List Text) : InUnit (tagMatch target candidate).1 := by
  apply inUnit_share
  have hsub : (normalizeTags target).filter (· ∈ normalizeTags candidate) ⊆
      (normalizeTags target ++ normalizeTags candidate).dedup := by
    intro tag htag
    rw [List.mem_dedup, List.mem_append]
    exact .inl (List.mem_of_mem_filter htag)
  have hnodup : ((normalizeTags target).filter (· ∈ normalizeTags candidate)).Nodup :=
    (List.nodup_dedup _).filter _
  exact (hnodup.subperm hsub).length_le

/-- **Every score of a candidate is valid**, so building it never fails. -/
theorem inUnit_score (scorer : RecommendationScorer) (target : Payload)
    (candidate : HybridSearchResult ι) :
    let scored := scorer.score target candidate
    InUnit scored.similarityScore ∧ InUnit scored.attributeScore ∧ InUnit scored.tagScore ∧
      InUnit scored.qualityScore ∧ InUnit scored.finalScore :=
  ⟨inUnit_clamp _, inUnit_share (List.length_filter_le _ _), inUnit_tagMatch _ _, inUnit_clamp _,
    inUnit_clamp _⟩

/-! ### Both ways -/

theorem valuesMatch_comm (a b : Option Text) : valuesMatch a b = valuesMatch b a := by
  cases a with
  | none => cases b <;> rfl
  | some a =>
    cases b with
    | none => rfl
    | some b =>
      unfold valuesMatch
      rw [decide_eq_decide]
      constructor
      · rintro ⟨ha, hb, h⟩
        exact ⟨hb, ha, h.symm⟩
      · rintro ⟨hb, ha, h⟩
        exact ⟨ha, hb, h.symm⟩

/-- **The shared tags and their share** do not depend on which side is the target. -/
theorem tagMatch_comm (target candidate : List Text) :
    tagMatch target candidate = tagMatch candidate target := by
  have hshared : ((normalizeTags target).filter (· ∈ normalizeTags candidate)).Perm
      ((normalizeTags candidate).filter (· ∈ normalizeTags target)) := by
    refine (List.perm_ext_iff_of_nodup ((List.nodup_dedup _).filter _)
      ((List.nodup_dedup _).filter _)).2 fun tag => ?_
    simp only [List.mem_filter, decide_eq_true_eq]
    exact and_comm
  have hall : (normalizeTags target ++ normalizeTags candidate).dedup.Perm
      (normalizeTags candidate ++ normalizeTags target).dedup :=
    List.perm_append_comm.dedup
  unfold tagMatch
  dsimp only
  rw [hshared.length_eq, hall.length_eq]
  congr 1
  exact (((List.perm_insertionSort _ _).trans hshared).trans
    (List.perm_insertionSort _ _).symm).eq_of_pairwise' (List.pairwise_insertionSort _ _)
    (List.pairwise_insertionSort _ _)

end ProductIntelligence

import ProductIntelligence.Lists.RoundRobin
import ProductIntelligence.Recommendation.Scorer

/-!
# Recommendations

Products similar to an indexed one, optionally reranked, scored, ranked, spread over brands
and explained.

## Main definitions

* `diversify` — one product of each brand in turn.
* `buildExplanation` — the reason as a sentence.
* `RecommendationEngineService.recommend` — the whole pipeline.

## Main results

* `length_select` — spreading over brands loses nothing.
* `length_recommend` — how many products are recommended, with and without reranking.

## References

`backend/app/services/recommendation/recommendation_engine_service.py`.
-/

namespace ProductIntelligence

open Ranking

variable {ι V ε : Type}

/-! ### Diversity -/

/-- A retrieved product and its score as a recommendation. -/
abbrev ScoredPair (ι : Type) := HybridSearchResult ι × RecommendationCandidate ι

/-- The brand a pair is grouped under; a missing or blank one is its own group. -/
def brandGroup (pair : ScoredPair ι) : Text :=
  match pair.1.metadata.brand with
  | some brand => if strip brand ≠ [] then brand else "_unknown".toList
  | none => "_unknown".toList

/-- `_diversify`: one pair of each brand in turn, until `topK` are taken. -/
def diversify (pairs : List (ScoredPair ι)) (topK : ℕ) : List (ScoredPair ι) :=
  RoundRobin.loop ((RoundRobin.groupBy brandGroup pairs).map Prod.snd) topK pairs.length 0 []

/-! ### Explanations -/

/-- `_HIGH_SCORE_THRESHOLD`. -/
def highScoreThreshold : ℚ := 7 / 10

/-- `_MAX_EXPLANATION_TAGS`. -/
def maxExplanationTags : ℕ := 3

/-- The clauses that hold for a candidate, the most salient first. -/
def clauses (candidate : RecommendationCandidate ι) : List Text :=
  let reason := candidate.reason
  let names := fun words : List Text => [',', ' '].intercalate words
  (if highScoreThreshold ≤ candidate.similarityScore then
    ["similar visual appearance".toList] else []) ++
  (if reason.sharedCategory then ["same category".toList] else []) ++
  (if reason.sharedBrand then ["same brand".toList] else []) ++
  (if reason.matchedAttributes ≠ [] then
    ["shared attributes (".toList ++ names reason.matchedAttributes ++ [')']] else []) ++
  (if reason.sharedTags ≠ [] then
    ["matching tags (".toList ++ names (reason.sharedTags.take maxExplanationTags) ++ [')']]
    else []) ++
  (if highScoreThreshold ≤ candidate.qualityScore then ["high catalog quality".toList] else [])

/-- `_build_explanation`: the clauses as one sentence. -/
def buildExplanation (candidate : RecommendationCandidate ι) : Text :=
  match [';', ' '].intercalate (clauses candidate) with
  | [] => "Related based on overall similarity.".toList
  | c :: rest => c.toUpper :: rest ++ ['.']

/-! ### The engine -/

/-- The recommendation strategies. -/
inductive RecommendationType
  | similar
  | related
  | complementary
  deriving DecidableEq

/-- The recommended products of one request. -/
structure RecommendationResult (ι : Type) where
  recommendations : List (RecommendationCandidate ι)
  recommendationType : RecommendationType
  deriving DecidableEq

/-- The engine: search, scorer, reranker and settings. -/
structure RecommendationEngineService (ι V ε : Type) where
  hybridSearch : HybridSearchService ι V ε
  recommendationScorer : RecommendationScorer
  reranker : RerankerService ι
  topK : ℕ
  diversityEnabled : Bool
  rerankingEnabled : Bool
  rerankerTopN : ℕ

/-- `_DIVERSITY_OVERFETCH_MULTIPLIER`. -/
def diversityOverfetchMultiplier : ℕ := 3

namespace RecommendationEngineService

variable [DecidableEq ι] (service : RecommendationEngineService ι V ε) (store : VectorStore ι V)

/-- `_target_metadata`: the stored payload of the product. -/
def targetMetadata (productId : ι) : Except (AppException ι ε) Payload :=
  match store.text.retrieve productId with
  | some point => pure point.metadata
  | none =>
    match store.image.retrieve productId with
    | some point => pure point.metadata
    | none => throw (.notFound productId)

/-- How many candidates are fetched. -/
def overfetchTopK (topK : ℕ) (rerankActive : Bool) : ℕ :=
  let overfetch :=
    if service.diversityEnabled then topK * diversityOverfetchMultiplier else topK
  if rerankActive then max overfetch service.rerankerTopN else overfetch

/-- The candidates that are scored: the retrieved ones, reranked if that is active. -/
def pooled (target : Payload) (candidates : List (HybridSearchResult ι)) (rerankActive : Bool) :
    List (HybridSearchResult ι) :=
  if rerankActive && !candidates.isEmpty then
    rescore candidates
      (service.reranker.rerank (buildTextRepresentationFromMetadata target) candidates
        none).candidates
      fun candidate score => { candidate with score := score }
  else candidates

omit [DecidableEq ι] in
/-- Score the candidates, rank them and take `topK`. -/
def select (target : Payload) (candidates : List (HybridSearchResult ι)) (topK : ℕ) :
    List (ScoredPair ι) :=
  let scoredPairs := rank (fun pair : ScoredPair ι => pair.2.finalScore)
    (candidates.map fun candidate =>
      (candidate, service.recommendationScorer.score target candidate))
  if service.diversityEnabled then diversify scoredPairs topK else scoredPairs.take topK

/-- `recommend`: ranked recommendations for an indexed product. -/
def recommend (productId : ι) (recommendationType : RecommendationType) (topK : Option ℕ)
    (rerankingEnabled : Option Bool) :
    Except (AppException ι ε) (RecommendationResult ι) := do
  let topK := topK.getD service.topK
  let rerankActive := rerankingEnabled.getD service.rerankingEnabled
  let target ← targetMetadata store productId
  let modality := if recommendationType = .similar then none else some SearchModality.text
  let candidates ← service.hybridSearch.searchByProductId store productId
    (some (service.overfetchTopK topK rerankActive)) none modality
  let scoredPairs := service.select target (service.pooled target candidates rerankActive) topK
  return { recommendations := scoredPairs.map fun pair =>
             { pair.2 with explanation := buildExplanation pair.2 }
           recommendationType := recommendationType }

omit [DecidableEq ι] in
/-- **Spreading over brands loses nothing**: as many are taken as there are, up to `topK`. -/
theorem length_select (target : Payload) (candidates : List (HybridSearchResult ι)) (topK : ℕ) :
    (service.select target candidates topK).length = min topK candidates.length := by
  unfold select
  dsimp only
  split
  · rw [diversify, RoundRobin.length_loop_groupBy, length_rank, List.length_map]
  · rw [List.length_take, length_rank, List.length_map]

theorem length_pooled (target : Payload) (candidates : List (HybridSearchResult ι)) :
    (service.pooled target candidates true).length =
      min service.reranker.topN candidates.length := by
  unfold pooled
  cases candidates with
  | nil => simp
  | cons c rest =>
    rw [if_pos (by simp), length_rescore_rerank, Option.getD_none]
    omega

omit [DecidableEq ι] in
/-- At least as many candidates are fetched as are asked for. -/
theorem le_overfetchTopK (topK : ℕ) (rerankActive : Bool) :
    topK ≤ service.overfetchTopK topK rerankActive := by
  have hmultiple : topK ≤ if service.diversityEnabled then topK * diversityOverfetchMultiplier
      else topK := by
    unfold diversityOverfetchMultiplier
    split <;> omega
  unfold overfetchTopK
  dsimp only
  split
  · exact hmultiple.trans (le_max_left _ _)
  · exact hmultiple

/-- **How many products are recommended** with reranking: as many as without, up to the cap of
the reranker's pool.  It fails in the same cases. -/
theorem length_recommend (productId : ι) (recommendationType : RecommendationType)
    (topK : Option ℕ) :
    (service.recommend store productId recommendationType topK (some true)).map
        (fun result => result.recommendations.length) =
      (service.recommend store productId recommendationType topK (some false)).map
        fun result => min service.reranker.topN result.recommendations.length := by
  unfold recommend
  dsimp only [Option.getD_some]
  set k := topK.getD service.topK
  set modality := if recommendationType = .similar then none else some SearchModality.text
  cases targetMetadata (ε := ε) store productId with
  | error e => rfl
  | ok target =>
    -- the search fails or not however much is fetched
    rcases service.hybridSearch.searchByProductId_error_or_ok store productId
      (some (service.overfetchTopK k true)) (some (service.overfetchTopK k false)) none modality
      with ⟨e, hwide, hplain⟩ | ⟨wide, plain, hwide, hplain⟩
    · show Except.map _ (Except.bind _ _) = Except.map _ (Except.bind _ _)
      rw [hwide, hplain]
      rfl
    · have hwideLength := service.hybridSearch.length_searchByProductId store hwide
      have hplainLength := service.hybridSearch.length_searchByProductId store hplain
      have hwideFetch := service.le_overfetchTopK k true
      have hplainFetch := service.le_overfetchTopK k false
      simp only [Option.getD_some] at hwideLength hplainLength
      -- without reranking the retrieved candidates are the scored ones
      have hpooled : service.pooled target plain false = plain := rfl
      show Except.map _ (Except.bind _ _) = Except.map _ (Except.bind _ _)
      rw [hwide, hplain]
      show Except.ok _ = Except.ok _
      simp only [hpooled, List.length_map, length_select, length_pooled]
      congr 1
      omega

end RecommendationEngineService

end ProductIntelligence

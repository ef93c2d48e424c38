import ProductIntelligence.Duplicates.FuzzyRatio
import ProductIntelligence.Search.HybridSearch

/-!
# Duplicate detection

Candidates are retrieved by hybrid search, optionally reranked, scored signal by signal
against the product being checked, and the best of them decides.

## Main definitions

* `SimilarityScorer.score` — the weighted signals of one candidate.
* `buildDecision` — the decision from the scored candidates.
* `DuplicateDetectionService.detect` — the whole check.

## Main results

* `score_isSome_iff` — scoring fails only for weights outside the unit interval.
* `length_detect` — how many candidates are scored, with and without reranking, and that the
  check fails with reranking exactly when it fails without.

## References

`backend/app/services/duplicate/similarity_scorer.py`,
`backend/app/services/duplicate/duplicate_detection_service.py`.
-/

namespace ProductIntelligence

open Ranking

variable {ι V ε : Type}

/-! ### Signals -/

/-- `_clamp`: into the unit interval. -/
def clamp (q : ℚ) : ℚ := max 0 (min 1 q)

theorem clamp_nonneg (q : ℚ) : 0 ≤ clamp q := le_max_left _ _

theorem clamp_le_one (q : ℚ) : clamp q ≤ 1 := max_le zero_le_one (min_le_left _ _)

theorem clamp_mono {a b : ℚ} (h : a ≤ b) : clamp a ≤ clamp b :=
  max_le_max le_rfl (min_le_min le_rfl h)

/-- The signals a candidate is compared on. -/
inductive SignalName
  | image
  | text
  | metadata
  | attribute
  deriving DecidableEq

/-- A number of the unit interval. -/
def InUnit (q : ℚ) : Prop := 0 ≤ q ∧ q ≤ 1

instance (q : ℚ) : Decidable (InUnit q) := inferInstanceAs (Decidable (_ ∧ _))

/-- How far a sum of weights may miss one. -/
def weightTolerance : ℚ := 1 / 10 ^ 6

/-- A named similarity score, its weight and its contribution, each in the unit interval. -/
structure SimilaritySignal where
  name : SignalName
  score : ℚ
  weight : ℚ
  contribution : ℚ
  valid : InUnit score ∧ InUnit weight ∧ InUnit contribution
  deriving DecidableEq

/-- `_signal`: clamp and weight a raw score, if the result is a valid signal. -/
def signal (name : SignalName) (rawScore weight : ℚ) : Option SimilaritySignal :=
  if h : InUnit (clamp rawScore) ∧ InUnit weight ∧ InUnit (clamp rawScore * weight) then
    some ⟨name, clamp rawScore, weight, clamp rawScore * weight, h⟩
  else none

/-- A signal is valid exactly when its weight is in the unit interval. -/
theorem signal_isSome_iff (name : SignalName) (rawScore weight : ℚ) :
    (signal name rawScore weight).isSome ↔ InUnit weight := by
  unfold signal
  have hscore : InUnit (clamp rawScore) := ⟨clamp_nonneg _, clamp_le_one _⟩
  constructor
  · intro h
    split at h
    · rename_i hvalid
      exact hvalid.2.1
    · cases h
  · intro hweight
    have hcontribution : InUnit (clamp rawScore * weight) :=
      ⟨mul_nonneg hscore.1 hweight.1, mul_le_one₀ hscore.2 hweight.1 hweight.2⟩
    rw [dif_pos ⟨hscore, hweight, hcontribution⟩]
    rfl

/-! ### Scoring one candidate -/

/-- The mean of some ratios, zero for none. -/
def average (ratios : List ℚ) : ℚ := if ratios = [] then 0 else ratios.sum / ratios.length

/-- The value is not blank. -/
def hasText : Option Text → Bool
  | some value => strip value ≠ []
  | none => false

/-- `_metadata_similarity`: the mean ratio of name, brand and category, where both sides have
one. -/
def metadataSimilarity (name : Text) (brand category : Option Text) (candidate : Payload) : ℚ :=
  let pairs := [(some name, some candidate.name), (brand, candidate.brand),
    (category, candidate.category)]
  average ((pairs.filter fun pair => hasText pair.1 && hasText pair.2).map fun pair =>
    fuzzyRatio (pair.1.getD []) (pair.2.getD []))

/-- `_attribute_similarity`: the mean ratio of the attributes both sides have. -/
def attributeSimilarity (attributes : ProductAttributes) (candidate : Payload) : ℚ :=
  let pairs := [(attributes.brand, candidate.brand), (attributes.category, candidate.category),
    (attributes.color, candidate.color), (attributes.material, candidate.material),
    (attributes.style, candidate.style), (attributes.gender, candidate.gender)]
  average ((pairs.filter fun pair => pair.1.getD [] ≠ [] && hasText pair.2).map fun pair =>
    fuzzyRatio (pair.1.getD []) (pair.2.getD []))

/-- The weights of the four signals. -/
structure SimilarityScorer where
  imageWeight : ℚ
  textWeight : ℚ
  metadataWeight : ℚ
  attributeWeight : ℚ
  deriving DecidableEq

/-- The comparison of the checked product with one candidate. -/
structure DuplicateResult (ι : Type) where
  productId : ι
  signals : List SimilaritySignal
  overallSimilarity : ℚ
  deriving DecidableEq

/-- The product being checked, as submitted. -/
structure CheckedProduct where
  name : Text
  brand : Option Text
  category : Option Text
  description : Option Text
  attributes : ProductAttributes
  image : ProductImage
  deriving DecidableEq

/-- The text the checked product is searched by. -/
def CheckedProduct.text (product : CheckedProduct) : Text :=
  buildTextRepresentation product.name product.brand product.category product.description

/-- `score`: compare one candidate with the checked product. -/
def SimilarityScorer.score (scorer : SimilarityScorer) (product : CheckedProduct)
    (candidate : HybridSearchResult ι) : Option (DuplicateResult ι) := do
  let s₁ ← signal .image candidate.imageScore scorer.imageWeight
  let s₂ ← signal .text candidate.textScore scorer.textWeight
  let s₃ ← signal .metadata
    (metadataSimilarity product.name product.brand product.category candidate.metadata)
    scorer.metadataWeight
  let s₄ ← signal .attribute (attributeSimilarity product.attributes candidate.metadata)
    scorer.attributeWeight
  let signals := [s₁, s₂, s₃, s₄]
  return { productId := candidate.productId
           signals := signals
           overallSimilarity := clamp (signals.map SimilaritySignal.contribution).sum }

/-- The weights are all in the unit interval. -/
def SimilarityScorer.Valid (scorer : SimilarityScorer) : Prop :=
  InUnit scorer.imageWeight ∧ InUnit scorer.textWeight ∧ InUnit scorer.metadataWeight ∧
    InUnit scorer.attributeWeight

/-- **Scoring fails only for the weights**, whatever the candidate. -/
theorem score_isSome_iff (scorer : SimilarityScorer) (product : CheckedProduct)
    (candidate : HybridSearchResult ι) :
    (scorer.score product candidate).isSome ↔ scorer.Valid := by
  unfold SimilarityScorer.score SimilarityScorer.Valid
  rw [← signal_isSome_iff .image candidate.imageScore,
    ← signal_isSome_iff .text candidate.textScore,
    ← signal_isSome_iff .metadata
      (metadataSimilarity product.name product.brand product.category candidate.metadata),
    ← signal_isSome_iff .attribute (attributeSimilarity product.attributes candidate.metadata)]
  simp only [Option.isSome_iff_exists, bind, Option.bind_eq_some_iff, pure]
  constructor
  · rintro ⟨result, s₁, h₁, s₂, h₂, s₃, h₃, s₄, h₄, -⟩
    exact ⟨⟨s₁, h₁⟩, ⟨s₂, h₂⟩, ⟨s₃, h₃⟩, ⟨s₄, h₄⟩⟩
  · rintro ⟨⟨s₁, h₁⟩, ⟨s₂, h₂⟩, ⟨s₃, h₃⟩, ⟨s₄, h₄⟩⟩
    exact ⟨_, s₁, h₁, s₂, h₂, s₃, h₃, s₄, h₄, rfl⟩

/-- The overall similarity is clamped. -/
theorem inUnit_overallSimilarity {scorer : SimilarityScorer} {product : CheckedProduct}
    {candidate : HybridSearchResult ι} {result : DuplicateResult ι}
    (h : scorer.score product candidate = some result) : InUnit result.overallSimilarity := by
  unfold SimilarityScorer.score at h
  simp only [bind, Option.bind_eq_some_iff, pure] at h
  obtain ⟨_, _, _, _, _, _, _, _, hresult⟩ := h
  cases hresult
  exact ⟨clamp_nonneg _, clamp_le_one _⟩

/-! ### The decision -/

/-- One retrieved product and its similarities to the checked one. -/
structure DuplicateCandidate (ι : Type) where
  productId : ι
  imageSimilarity : ℚ
  textSimilarity : ℚ
  metadataSimilarity : ℚ
  attributeSimilarity : ℚ
  overallSimilarity : ℚ
  deriving DecidableEq

/-- Whether a product is likely a duplicate, and the evidence. -/
structure DuplicateDecision (ι : Type) where
  isDuplicate : Bool
  confidence : ℚ
  reason : Text
  matchedProduct : Option ι
  topCandidates : List (DuplicateCandidate ι)
  deriving DecidableEq

/-- The score of a signal, by its name. -/
def signalScore (signals : List SimilaritySignal) (name : SignalName) : ℚ :=
  ((signals.reverse.find? fun s => s.name = name).map SimilaritySignal.score).getD 0

/-- `_to_candidate`. -/
def toCandidate (result : DuplicateResult ι) : DuplicateCandidate ι where
  productId := result.productId
  imageSimilarity := signalScore result.signals .image
  textSimilarity := signalScore result.signals .text
  metadataSimilarity := signalScore result.signals .metadata
  attributeSimilarity := signalScore result.signals .attribute
  overallSimilarity := result.overallSimilarity

/-- `_build_decision`: rank the scored candidates; the best one decides. -/
def buildDecision (results : List (DuplicateResult ι)) (threshold : ℚ) : DuplicateDecision ι :=
  let ranked := rank DuplicateResult.overallSimilarity results
  match ranked with
  | [] =>
    { isDuplicate := false
      confidence := 0
      reason := "No candidates were found to compare against.".toList
      matchedProduct := none
      topCandidates := [] }
  | best :: _ =>
    if threshold ≤ best.overallSimilarity then
      { isDuplicate := true
        confidence := best.overallSimilarity
        reason := "Overall similarity ".toList ++ twoDecimals best.overallSimilarity ++
          " meets or exceeds the ".toList ++ twoDecimals threshold ++ " threshold.".toList
        matchedProduct := some best.productId
        topCandidates := ranked.map toCandidate }
    else
      { isDuplicate := false
        confidence := best.overallSimilarity
        reason := "Best candidate similarity ".toList ++ twoDecimals best.overallSimilarity ++
          " is below the ".toList ++ twoDecimals threshold ++ " threshold.".toList
        matchedProduct := none
        topCandidates := ranked.map toCandidate }

/-- A decision reports every scored candidate. -/
theorem length_topCandidates (results : List (DuplicateResult ι)) (threshold : ℚ) :
    (buildDecision results threshold).topCandidates.length = results.length := by
  have hlength := length_rank DuplicateResult.overallSimilarity results
  unfold buildDecision
  cases hranked : rank DuplicateResult.overallSimilarity results with
  | nil =>
    rw [hranked] at hlength
    exact hlength
  | cons best rest =>
    rw [hranked] at hlength
    dsimp only
    split <;> simpa using hlength

/-! ### The check -/

/-- The duplicate check: search, scorer, reranker and settings. -/
structure DuplicateDetectionService (ι V ε : Type) where
  hybridSearch : HybridSearchService ι V ε
  similarityScorer : SimilarityScorer
  reranker : RerankerService ι
  topK : ℕ
  threshold : ℚ
  rerankingEnabled : Bool
  rerankerTopN : ℕ

namespace DuplicateDetectionService

variable [DecidableEq ι] (service : DuplicateDetectionService ι V ε) (store : VectorStore ι V)

/-- `_rerank_candidates`: the reranked score replaces the text score. -/
def rerankCandidates (text : Text) (candidates : List (HybridSearchResult ι)) (topK : ℕ) :
    List (HybridSearchResult ι) :=
  rescore candidates (service.reranker.rerank text candidates (some topK)).candidates
    fun candidate score => { candidate with textScore := score }

/-- The candidates that are scored: the retrieved ones, reranked if that is active. -/
def pooled (text : Text) (candidates : List (HybridSearchResult ι)) (topK : ℕ)
    (rerankActive : Bool) : List (HybridSearchResult ι) :=
  if rerankActive && !candidates.isEmpty then service.rerankCandidates text candidates topK
  else candidates

omit [DecidableEq ι] in
/-- Score the candidates and decide. -/
def scoreAndDecide (product : CheckedProduct) (candidates : List (HybridSearchResult ι))
    (threshold : ℚ) : Except (AppException ι ε) (DuplicateDecision ι) :=
  match candidates.mapM (service.similarityScorer.score product) with
  | some results => pure (buildDecision results threshold)
  | none =>
    throw (.duplicateDetection "Failed to score candidates for duplicate detection.".toList)

/-- `detect`: check a product that is not yet indexed. -/
def detect (product : CheckedProduct) (topK : Option ℕ) (threshold : Option ℚ)
    (rerankingEnabled : Option Bool) : Except (AppException ι ε) (DuplicateDecision ι) := do
  let topK := topK.getD service.topK
  let rerankActive := rerankingEnabled.getD service.rerankingEnabled
  let retrievalTopK := if rerankActive then max service.rerankerTopN topK else topK
  -- the search must not rerank as well: the check does it itself
  let candidates ← service.hybridSearch.search store (some product.image) (some product.text)
    (some retrievalTopK) none (some false)
  service.scoreAndDecide product (service.pooled product.text candidates topK rerankActive)
    (threshold.getD service.threshold)

/-! ### How many candidates are scored -/

omit [DecidableEq ι] in
/-- With valid weights, or nothing to score, every candidate is scored. -/
theorem scoreAndDecide_ok {candidates : List (HybridSearchResult ι)}
    (h : service.similarityScorer.Valid ∨ candidates = []) (product : CheckedProduct)
    (threshold : ℚ) :
    ∃ decision, service.scoreAndDecide product candidates threshold = .ok decision ∧
      decision.topCandidates.length = candidates.length := by
  have hscored : ∀ c ∈ candidates, (service.similarityScorer.score product c).isSome := by
    intro c hc
    rcases h with hvalid | rfl
    · exact (score_isSome_iff _ _ _).2 hvalid
    · cases hc
  obtain ⟨results, hresults, hlen⟩ := Option.exists_mapM hscored
  refine ⟨buildDecision results threshold, ?_, ?_⟩
  · rw [scoreAndDecide, hresults]
    rfl
  · rw [length_topCandidates, hlen]

omit [DecidableEq ι] in
/-- With other weights the first candidate cannot be scored. -/
theorem scoreAndDecide_error {candidates : List (HybridSearchResult ι)}
    (h : ¬ (service.similarityScorer.Valid ∨ candidates = [])) (product : CheckedProduct)
    (threshold : ℚ) :
    service.scoreAndDecide product candidates threshold =
      .error (.duplicateDetection
        "Failed to score candidates for duplicate detection.".toList) := by
  rw [not_or] at h
  obtain ⟨c, rest, rfl⟩ := List.exists_cons_of_ne_nil h.2
  have hnone : service.similarityScorer.score product c = none := by
    rw [← Option.not_isSome_iff_eq_none, score_isSome_iff]
    exact h.1
  rw [scoreAndDecide, List.mapM_cons, hnone]
  rfl

theorem length_pooled (text : Text) (candidates : List (HybridSearchResult ι)) (topK : ℕ) :
    (service.pooled text candidates topK true).length =
      min topK (min service.reranker.topN candidates.length) := by
  unfold pooled rerankCandidates
  cases candidates with
  | nil => simp
  | cons c rest =>
    rw [if_pos (by simp), length_rescore_rerank, Option.getD_some]

/-- **How many candidates the check scores** with reranking: those it scores without, up to
the cap of the reranker's pool.  It fails in the same cases. -/
theorem length_detect (product : CheckedProduct) (topK : Option ℕ) (threshold : Option ℚ) :
    (service.detect store product topK threshold (some true)).map
        (fun decision => decision.topCandidates.length) =
      (service.detect store product topK threshold (some false)).map
        fun decision => min service.reranker.topN decision.topCandidates.length := by
  unfold detect
  set k := topK.getD service.topK with hk
  dsimp only [Option.getD_some]
  rw [if_pos rfl, if_neg (by simp)]
  -- the search fails or not however much is fetched
  rcases service.hybridSearch.search_error_or_ok store (some product.image) (some product.text)
    (some (max service.rerankerTopN k)) (some k) none (some false) (some false)
    with ⟨e, hwide, hplain⟩ | ⟨wide, plain, hwide, hplain⟩
  · rw [hwide, hplain]
    rfl
  · have hwideLength := service.hybridSearch.length_search store hwide
    have hplainLength := service.hybridSearch.length_search store hplain
    simp only [Option.getD_some, Bool.false_and, Bool.false_eq_true, if_false]
      at hwideLength hplainLength
    -- the wider search finds no fewer; the pool and `topK` cut it down again
    have hpooled : (service.pooled product.text wide k true).length =
        min service.reranker.topN plain.length := by
      rw [service.length_pooled]
      omega
    -- a pool holds at least one, so both sides have nothing to score together
    have hempty : service.pooled product.text wide k true = [] ↔ plain = [] := by
      have hpos := service.reranker.topN_pos
      rw [← List.length_eq_zero_iff, ← List.length_eq_zero_iff, hpooled]
      omega
    have hkeep : service.pooled product.text plain k false = plain := rfl
    rw [hwide, hplain]
    show (service.scoreAndDecide product (service.pooled product.text wide k true) _).map _ =
      (service.scoreAndDecide product (service.pooled product.text plain k false) _).map _
    rw [hkeep]
    by_cases hscored : service.similarityScorer.Valid ∨ plain = []
    · obtain ⟨d, hd, hdLength⟩ := service.scoreAndDecide_ok hscored product
        (threshold.getD service.threshold)
      obtain ⟨d', hd', hdLength'⟩ := service.scoreAndDecide_ok
        (hscored.imp_right hempty.2) product (threshold.getD service.threshold)
      rw [hd, hd', Except.map, Except.map, hdLength, hdLength', hpooled]
    · rw [service.scoreAndDecide_error hscored, service.scoreAndDecide_error]
      · rfl
      · rwa [hempty]

end DuplicateDetectionService

end ProductIntelligence

import ProductIntelligence.Duplicates.Detection
import ProductIntelligence.Recommendation.Recommended

/-!
# The duplicates of an indexed product

A product that is indexed already is checked by its id: its stored payload takes the place of
what is submitted with an upload, and its stored vectors are searched by.

## Main definitions

* `DuplicateDetectionService.detectByProductId` — the check of an indexed product.
* `Decides` — what a decision says of the scored candidates.
* `DuplicateDetectionService.IsCompared` — the products that an indexed one is compared with.

## Main results

* `decides_buildDecision` — the decision is about the best of the scored candidates.
* `detectByProductId_sound` — for which products there is a decision, and what it says.

## References

`backend/app/services/duplicate/duplicate_detection_service.py`.
-/

namespace ProductIntelligence

open Ranking

variable {ι V ε : Type}

/-! ### What a decision says -/

/-- What a decision says of the candidates that were scored: it lists them all, the most similar
one first, is as confident as that one is similar, names it if it reaches the threshold, and gives
a reason. -/
structure Decides (threshold : ℚ) (scored : List (DuplicateResult ι))
    (decision : DuplicateDecision ι) : Prop where
  listed : decision.topCandidates.Perm (scored.map toCandidate)
  sorted : decision.topCandidates.Pairwise fun a b => b.overallSimilarity ≤ a.overallSimilarity
  confidence_eq : decision.confidence =
    (decision.topCandidates.head?.map DuplicateCandidate.overallSimilarity).getD 0
  isDuplicate_iff : decision.isDuplicate = true ↔
    ∃ result ∈ scored, threshold ≤ result.overallSimilarity
  matchedProduct_eq : decision.matchedProduct =
    if decision.isDuplicate then decision.topCandidates.head?.map DuplicateCandidate.productId
    else none
  reason_ne_nil : decision.reason ≠ []

/-- The best of the ranked candidates reaches a threshold if any candidate does. -/
theorem exists_le_iff_of_rank_eq_cons {results rest : List (DuplicateResult ι)}
    {best : DuplicateResult ι}
    (h : rank DuplicateResult.overallSimilarity results = best :: rest) (threshold : ℚ) :
    (∃ result ∈ results, threshold ≤ result.overallSimilarity) ↔
      threshold ≤ best.overallSimilarity := by
  have hsorted := rank_sorted DuplicateResult.overallSimilarity results
  rw [h, List.pairwise_cons] at hsorted
  have hmem : ∀ result, result ∈ results ↔ result ∈ best :: rest := by
    intro result
    rw [← h, mem_rank]
  constructor
  · rintro ⟨result, hresult, hle⟩
    rcases List.mem_cons.1 ((hmem result).1 hresult) with rfl | hrest
    · exact hle
    · exact hle.trans (hsorted.1 result hrest)
  · intro hle
    exact ⟨best, (hmem best).2 List.mem_cons_self, hle⟩

/-- **A decision is about the best of the scored candidates.** -/
theorem decides_buildDecision (results : List (DuplicateResult ι)) (threshold : ℚ) :
    Decides threshold results (buildDecision results threshold) := by
  have hperm := rank_perm DuplicateResult.overallSimilarity results
  have hsorted := rank_sorted DuplicateResult.overallSimilarity results
  unfold buildDecision
  cases hranked : rank DuplicateResult.overallSimilarity results with
  | nil =>
    rw [hranked] at hperm
    obtain rfl := hperm.nil_eq
    have hnone : "No candidates were found to compare against.".toList ≠ [] := by decide
    exact ⟨List.Perm.refl _, List.Pairwise.nil, rfl, by simp, rfl, hnone⟩
  | cons best rest =>
    have hlisted : ((best :: rest).map toCandidate).Perm (results.map toCandidate) := by
      rw [← hranked]
      exact hperm.map toCandidate
    have hordered : ((best :: rest).map toCandidate).Pairwise fun a b =>
        b.overallSimilarity ≤ a.overallSimilarity := by
      rw [← hranked, List.pairwise_map]
      exact hsorted
    have hreached := exists_le_iff_of_rank_eq_cons hranked threshold
    have hmeets : "Overall similarity ".toList ≠ [] := by decide
    have hbelow : "Best candidate similarity ".toList ≠ [] := by decide
    dsimp only
    by_cases hthreshold : threshold ≤ best.overallSimilarity
    · rw [if_pos hthreshold]
      refine ⟨hlisted, hordered, rfl, iff_of_true rfl (hreached.2 hthreshold), rfl, ?_⟩
      simp only [ne_eq, List.append_eq_nil_iff, hmeets, false_and, not_false_eq_true]
    · rw [if_neg hthreshold]
      refine ⟨hlisted, hordered, rfl,
        iff_of_false Bool.false_ne_true fun h => hthreshold (hreached.1 h), rfl, ?_⟩
      simp only [ne_eq, List.append_eq_nil_iff, hbelow, false_and, not_false_eq_true]

/-- The product that a decision names is one that was scored. -/
theorem Decides.matchedProduct_mem {threshold : ℚ} {scored : List (DuplicateResult ι)}
    {decision : DuplicateDecision ι} (h : Decides threshold scored decision) {productId : ι}
    (hmatched : decision.matchedProduct = some productId) :
    productId ∈ scored.map DuplicateResult.productId := by
  rw [h.matchedProduct_eq] at hmatched
  split at hmatched
  · obtain ⟨best, hbest, rfl⟩ := Option.map_eq_some_iff.1 hmatched
    obtain ⟨result, hresult, rfl⟩ := List.mem_map.1
      (h.listed.subset (List.mem_of_head? hbest))
    exact List.mem_map_of_mem hresult
  · cases hmatched

/-- A decision is in the unit interval if the similarities are. -/
theorem Decides.inUnit_confidence {threshold : ℚ} {scored : List (DuplicateResult ι)}
    {decision : DuplicateDecision ι} (h : Decides threshold scored decision)
    (hscored : ∀ result ∈ scored, InUnit result.overallSimilarity) :
    InUnit decision.confidence := by
  rw [h.confidence_eq]
  cases hbest : decision.topCandidates.head? with
  | none => exact ⟨le_refl 0, zero_le_one⟩
  | some best =>
    obtain ⟨result, hresult, rfl⟩ := List.mem_map.1
      (h.listed.subset (List.mem_of_head? hbest))
    exact hscored result hresult

/-- A scored candidate keeps its id. -/
theorem productId_of_score {scorer : SimilarityScorer} {product : CheckedProduct}
    {candidate : HybridSearchResult ι} {result : DuplicateResult ι}
    (h : scorer.score product candidate = some result) :
    result.productId = candidate.productId := by
  unfold SimilarityScorer.score at h
  simp only [bind, Option.bind_eq_some_iff, pure] at h
  obtain ⟨_, _, _, _, _, _, _, _, hresult⟩ := h
  cases hresult
  rfl

/-- The scored candidates are the candidates, in order. -/
theorem map_productId_of_scored {scorer : SimilarityScorer} {product : CheckedProduct}
    {candidates : List (HybridSearchResult ι)} {results : List (DuplicateResult ι)}
    (h : candidates.mapM (scorer.score product) = some results) :
    results.map DuplicateResult.productId = candidates.map HybridSearchResult.productId := by
  replace h := Option.forall₂_of_mapM h
  induction h with
  | nil => rfl
  | cons hscore _ ih => rw [List.map_cons, List.map_cons, ih, productId_of_score hscore]

/-- A decision on candidates is about what they are scored. -/
theorem DuplicateDetectionService.scoreAndDecide_sound
    {service : DuplicateDetectionService ι V ε} {product : CheckedProduct}
    {candidates : List (HybridSearchResult ι)} {threshold : ℚ} {decision : DuplicateDecision ι}
    (h : service.scoreAndDecide product candidates threshold = .ok decision) :
    ∃ scored, scored.map DuplicateResult.productId = candidates.map HybridSearchResult.productId ∧
      Decides threshold scored decision ∧ InUnit decision.confidence := by
  unfold scoreAndDecide at h
  split at h
  · next results hresults =>
    cases h
    have hdecides := decides_buildDecision results threshold
    refine ⟨results, map_productId_of_scored hresults, hdecides, hdecides.inUnit_confidence ?_⟩
    intro result hresult
    obtain ⟨candidate, -, hscore⟩ := (Option.mem_of_mapM hresults).2 result hresult
    exact inUnit_overallSimilarity hscore
  · cases h

/-! ### The check -/

/-- An indexed product as it is checked: its stored values, and the attributes among them.  Its
season is not compared, and its picture is not scored. -/
def Payload.checked (metadata : Payload) : CheckedProduct where
  name := metadata.name
  brand := metadata.brand
  category := metadata.category
  description := metadata.description
  attributes :=
    { brand := metadata.brand
      category := metadata.category
      color := metadata.color
      material := metadata.material
      gender := metadata.gender
      style := metadata.style
      season := none }
  image :=
    { originalFilename := metadata.imageFilename
      storedFilename := metadata.imageFilename
      contentType := []
      sizeBytes := 0
      uploadedAt := 0 }

namespace DuplicateDetectionService

variable [DecidableEq ι] (service : DuplicateDetectionService ι V ε) (store : VectorStore ι V)

omit [DecidableEq ι] in
/-- How many candidates are fetched. -/
def retrievalTopK (topK : ℕ) (rerankActive : Bool) : ℕ :=
  if rerankActive then max service.rerankerTopN topK else topK

/-- `detect_by_product_id`: check a product that is indexed already. -/
def detectByProductId (productId : ι) (topK : Option ℕ) (threshold : Option ℚ)
    (rerankingEnabled : Option Bool) : Except (AppException ι ε) (DuplicateDecision ι) := do
  let topK := topK.getD service.topK
  let rerankActive := rerankingEnabled.getD service.rerankingEnabled
  -- the payload is looked up as it is for a recommendation
  let metadata ← RecommendationEngineService.targetMetadata store productId
  let candidates ← service.hybridSearch.searchByProductId store productId
    (some (service.retrievalTopK topK rerankActive)) none none
  service.scoreAndDecide metadata.checked
    (service.pooled (buildTextRepresentationFromMetadata metadata) candidates topK rerankActive)
    (threshold.getD service.threshold)

/-- The products an indexed one is compared with: others that are stored in either collection,
none of them twice, and as many of them as are fetched and reranked. -/
structure IsCompared (productId : ι) (topK : ℕ) (rerankActive : Bool)
    (compared : List (HybridSearchResult ι)) : Prop where
  nodup : (compared.map HybridSearchResult.productId).Nodup
  others : ∀ result ∈ compared, result.productId ≠ productId ∧
    result.productId ∈ neighbourhood store .similar
  length_eq : compared.length =
    let fetched := min (service.retrievalTopK topK rerankActive)
      ((neighbourhood store .similar).erase productId).card
    if rerankActive then min topK (min service.reranker.topN fetched) else fetched

/-- Reranked or not, the compared candidates are retrieved ones, none of them twice. -/
theorem nodup_pooled {text : Text} {candidates : List (HybridSearchResult ι)} {topK : ℕ}
    {rerankActive : Bool} (h : (candidates.map HybridSearchResult.productId).Nodup) :
    ((service.pooled text candidates topK rerankActive).map HybridSearchResult.productId).Nodup ∧
      ∀ result ∈ service.pooled text candidates topK rerankActive,
        result.productId ∈ candidates.map HybridSearchResult.productId :=
  nodup_rescore_if service.reranker (fun _ _ => rfl) h

/-- What is scored of the retrieved products. -/
theorem isCompared_pooled {productId : ι} {topK : ℕ} {rerankActive : Bool} {text : Text}
    {candidates : List (HybridSearchResult ι)}
    (h : service.hybridSearch.searchByProductId store productId
      (some (service.retrievalTopK topK rerankActive)) none none = .ok candidates) :
    service.IsCompared store productId topK rerankActive
      (service.pooled text candidates topK rerankActive) := by
  obtain ⟨hnodup, hothers⟩ := service.hybridSearch.searchByProductId_sound h
  have hlength := service.hybridSearch.length_searchByProductId store h
  have hreach : HybridSearchService.reach store
      ((none : Option SearchModality) ≠ some .text) ((none : Option SearchModality) ≠ some .image)
      none = neighbourhood store .similar := by simp [neighbourhood]
  rw [hreach, Option.getD_some] at hlength
  simp only [hreach] at hothers
  obtain ⟨hnodup', hids⟩ := @nodup_pooled _ _ _ _ service text _ topK rerankActive hnodup
  refine ⟨hnodup', fun result hresult => ?_, ?_⟩
  · obtain ⟨origin, horigin, hid⟩ := List.mem_map.1 (hids result hresult)
    rw [← hid]
    exact hothers origin horigin
  · cases rerankActive with
    | false => exact hlength
    | true =>
      rw [service.length_pooled, hlength]
      rfl

/-- The check of an anchored product scores what it is compared with. -/
theorem exists_detectByProductId {productId : ι} (hanchored : Anchored store productId .similar)
    (topK : Option ℕ) (threshold : Option ℚ) (rerankingEnabled : Option Bool) :
    ∃ metadata compared,
      service.IsCompared store productId (topK.getD service.topK)
        (rerankingEnabled.getD service.rerankingEnabled) compared ∧
      service.detectByProductId store productId topK threshold rerankingEnabled =
        service.scoreAndDecide metadata compared (threshold.getD service.threshold) := by
  have hfound : ∃ candidates, service.hybridSearch.searchByProductId store productId
      (some (service.retrievalTopK (topK.getD service.topK)
        (rerankingEnabled.getD service.rerankingEnabled))) none none = .ok candidates :=
    service.hybridSearch.searchByProductId_of_anchored hanchored
  obtain ⟨candidates, hsearch⟩ := hfound
  obtain ⟨point, htext⟩ := Option.isSome_iff_exists.1 hanchored.2
  have htarget : RecommendationEngineService.targetMetadata (ε := ε) store productId =
      .ok point.metadata := by
    unfold RecommendationEngineService.targetMetadata
    rw [htext]
    rfl
  refine ⟨point.metadata.checked, service.pooled (buildTextRepresentationFromMetadata
    point.metadata) candidates _ _, service.isCompared_pooled store hsearch, ?_⟩
  unfold detectByProductId
  rw [htarget]
  dsimp only [bind, Except.bind]
  rw [hsearch]

/-- With valid weights, or nothing to compare, there is a decision. -/
theorem exists_decides {productId : ι} {topK : Option ℕ} {threshold : Option ℚ}
    {rerankingEnabled : Option Bool} {product : CheckedProduct}
    {compared : List (HybridSearchResult ι)}
    (hdetect : service.detectByProductId store productId topK threshold rerankingEnabled =
      service.scoreAndDecide product compared (threshold.getD service.threshold))
    (hvalid : service.similarityScorer.Valid ∨ compared = []) :
    ∃ scored decision,
      service.detectByProductId store productId topK threshold rerankingEnabled = .ok decision ∧
        scored.map DuplicateResult.productId = compared.map HybridSearchResult.productId ∧
        Decides (threshold.getD service.threshold) scored decision ∧
        InUnit decision.confidence := by
  obtain ⟨decision, hdecision, -⟩ := service.scoreAndDecide_ok hvalid product
    (threshold.getD service.threshold)
  obtain ⟨scored, hids, hdecides, hunit⟩ := scoreAndDecide_sound hdecision
  exact ⟨scored, decision, hdetect.trans hdecision, hids, hdecides, hunit⟩

/-- The check of a product that is not stored in both collections fails. -/
theorem detectByProductId_of_not_anchored {productId : ι}
    (hanchored : ¬ Anchored store productId .similar) (topK : Option ℕ) (threshold : Option ℚ)
    (rerankingEnabled : Option Bool) :
    service.detectByProductId store productId topK threshold rerankingEnabled =
      .error (if (store.text.retrieve productId).isNone ∧
        (store.image.retrieve productId).isNone then .notFound productId
        else .notIndexed productId) := by
  unfold detectByProductId
  rcases RecommendationEngineService.targetMetadata_cases (ε := ε) store productId with
    ⟨target, htarget, hstored⟩ | ⟨htarget, hstored⟩
  · have hsearch : service.hybridSearch.searchByProductId store productId
        (some (service.retrievalTopK (topK.getD service.topK)
          (rerankingEnabled.getD service.rerankingEnabled))) none none =
        .error (.notIndexed productId) :=
      service.hybridSearch.searchByProductId_of_not_anchored hanchored
    rw [htarget, if_neg hstored]
    dsimp only [bind, Except.bind]
    rw [hsearch]
  · rw [htarget, if_pos hstored]
    rfl

end DuplicateDetectionService

end ProductIntelligence

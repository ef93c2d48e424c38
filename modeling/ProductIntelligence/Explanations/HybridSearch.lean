import ProductIntelligence.Duplicates.BusinessRules
import ProductIntelligence.Explanations.Builder
import ProductIntelligence.Search.SimilarProducts

/-!
# Explaining a search result

The explainer lists the image and the text similarity of a result with the fusion weights, and
reports the score of the result as their total.  That is how a fusion scores a result.  A search of
one modality leaves the similarity of a hit as its score, and reranking replaces the score by that
of the cross-encoder; the explainer knows of neither.

## Main definitions

* `HybridSearchExplainer.explain` — the explainer.
* `Retrieved` — what a query retrieves: the hits of one collection, or the fusion of two.
* `ExplainsSearch`, `ExplainsSimilar` — the explanation of every result of a search adds up.
* `SearchComposes`, `SimilarComposes` — what the weights, the hits and the reranker must be for that.

## Main results

* `addsUp_iff` — when the explanation of one result adds up.
* `search_eq_ok_iff`, `searchByProductId_eq_ok_iff` — what a search returns of what it retrieves.
* `hybrid_explanations_add_up_iff` — **when the explanations of a search add up**.
* `image_search_misstated` — a search whose explanations do not.

## References

`backend/app/services/explanations/hybrid_search_explainer.py`,
`backend/app/services/vectorstore/hybrid_search_service.py`.
-/

namespace ProductIntelligence

open Ranking

variable {ι V ε : Type}

/-! ### The explainer -/

/-- A ratio formatted by `:.0%`, with the sign that it keeps when it is rounded to zero. -/
def signedPercent (ratio : ℚ) : Text := if ratio < 0 then '-' :: percent (-ratio) else percent ratio

/-- The explainer: the fusion weights. -/
structure HybridSearchExplainer where
  imageWeight : ℚ
  textWeight : ℚ

namespace HybridSearchExplainer

variable (explainer : HybridSearchExplainer)

/-- The two similarities with their weights, and the score of the result as their total. -/
def breakdown (subject : HybridSearchResult ι) : ConfidenceBreakdown where
  components :=
    [ExplanationBuilder.weight "image_similarity" subject.imageScore explainer.imageWeight,
      ExplanationBuilder.weight "text_similarity" subject.textScore explainer.textWeight]
  total := subject.score

/-- The two reasons, each with its weight. -/
def reasonParts (subject : HybridSearchResult ι) : List ReasonParts :=
  [⟨"image_similarity".toList, signedPercent subject.imageScore ++ " image similarity".toList,
      some explainer.imageWeight⟩,
    ⟨"text_similarity".toList, signedPercent subject.textScore ++ " text similarity".toList,
      some explainer.textWeight⟩]

/-- `explain`. -/
def explain (subject : HybridSearchResult ι) : Except (List Text) (ExplanationTrace ι) := do
  let reasons ← buildReasons (explainer.reasonParts subject)
  pure
    { decisionType := "hybrid_search".toList
      summary := ExplanationBuilder.summarize "Ranked by hybrid similarity".toList reasons
      subjectId := some subject.productId
      reasons
      breakdown := some (explainer.breakdown subject)
      confidence := some subject.score }

/-- The explanation of a result adds up: the listed contributions sum to the score of the result,
which is the reported total. -/
def AddsUp (subject : HybridSearchResult ι) : Prop :=
  ∃ trace breakdown, explainer.explain subject = .ok trace ∧ trace.breakdown = some breakdown ∧
    breakdown.total = subject.score ∧ breakdown.contributed = breakdown.total

/-- The weights can be shown beside a reason. -/
def WeightsShown : Prop := InUnit explainer.imageWeight ∧ InUnit explainer.textWeight

/-- A result can be explained exactly if the weights can be shown. -/
theorem exists_explain_iff (subject : HybridSearchResult ι) :
    (∃ trace, explainer.explain subject = .ok trace) ↔ explainer.WeightsShown := by
  have hreasons : (∃ reasons, buildReasons (explainer.reasonParts subject) = .ok reasons) ↔
      explainer.WeightsShown := by
    rw [buildReasons_isOk_iff]
    simp [reasonParts, ReasonParts.IsValid, WeightsShown]
  rw [← hreasons]
  constructor
  · rintro ⟨trace, h⟩
    obtain ⟨reasons, h, -⟩ := Except.bind_eq_ok.1 h
    exact ⟨reasons, h⟩
  · rintro ⟨reasons, h⟩
    exact ⟨_, Except.bind_eq_ok.2 ⟨reasons, h, rfl⟩⟩

/-- **The explanation of one result adds up** exactly if the weights can be shown and the weighted
similarities sum to its score. -/
theorem addsUp_iff (subject : HybridSearchResult ι) :
    explainer.AddsUp subject ↔ explainer.WeightsShown ∧
      explainer.imageWeight * subject.imageScore + explainer.textWeight * subject.textScore =
        subject.score := by
  have hcontributed : (explainer.breakdown subject).contributed =
      explainer.imageWeight * subject.imageScore + explainer.textWeight * subject.textScore := by
    simp only [breakdown, ConfidenceBreakdown.contributed, ExplanationBuilder.weight,
      List.map_cons, List.map_nil, List.sum_cons, List.sum_nil]
    ring
  have hbreakdown : ∀ trace, explainer.explain subject = .ok trace →
      trace.breakdown = some (explainer.breakdown subject) := by
    intro trace h
    obtain ⟨reasons, -, h⟩ := Except.bind_eq_ok.1 h
    cases h
    rfl
  rw [← explainer.exists_explain_iff subject, ← hcontributed]
  constructor
  · rintro ⟨trace, breakdown, htrace, hsome, -, hsum⟩
    rw [hbreakdown trace htrace, Option.some_inj] at hsome
    subst hsome
    exact ⟨⟨trace, htrace⟩, hsum⟩
  · rintro ⟨⟨trace, htrace⟩, hsum⟩
    exact ⟨trace, _, htrace, hbreakdown trace htrace, rfl, hsum⟩

end HybridSearchExplainer

/-! ### What is retrieved -/

/-- What a query retrieves before its results are cut. -/
inductive Retrieved (ι : Type)
  | image (hits : List (NearestNeighbor ι))
  | text (hits : List (NearestNeighbor ι))
  | both (imageHits textHits : List (NearestNeighbor ι))

namespace HybridSearchService

variable [DecidableEq ι] (service : HybridSearchService ι V ε) (store : VectorStore ι V)

/-- The explainer with the weights of the service: both read the same settings. -/
def explainer : HybridSearchExplainer := ⟨service.imageWeight, service.textWeight⟩

/-- The results of what is retrieved, before they are cut. -/
def retrievedResults : Retrieved ι → List (HybridSearchResult ι)
  | .image hits => hits.map (singleModalityResult .image)
  | .text hits => hits.map (singleModalityResult .text)
  | .both imageHits textHits => service.fused imageHits textHits

/-- What the contributions to a retrieved result sum to, by its score. -/
def weighted : Retrieved ι → ℚ → ℚ
  | .image _, score => service.imageWeight * score
  | .text _, score => service.textWeight * score
  | .both _ _, score => score

/-- A score is what the contributions to it sum to: the hits of one collection weigh one or score
nothing. -/
def IsWhole : Retrieved ι → ℚ → Prop
  | .image _, score => service.imageWeight = 1 ∨ score = 0
  | .text _, score => service.textWeight = 1 ∨ score = 0
  | .both _ _, _ => True

/-- The contributions to a retrieved result sum to its weighted score. -/
theorem contributions_of_mem_results {retrieved : Retrieved ι} {result : HybridSearchResult ι}
    (h : result ∈ service.retrievedResults retrieved) :
    service.imageWeight * result.imageScore + service.textWeight * result.textScore =
      service.weighted retrieved result.score := by
  cases retrieved with
  | image hits =>
    obtain ⟨hit, -, rfl⟩ := List.mem_map.1 h
    simp [singleModalityResult, weighted]
  | text hits =>
    obtain ⟨hit, -, rfl⟩ := List.mem_map.1 h
    simp [singleModalityResult, weighted]
  | both imageHits textHits =>
    obtain ⟨entry, -, rfl⟩ := List.mem_map.1 ((rank_perm _ _).subset h)
    rfl

omit [DecidableEq ι] in
theorem weighted_eq_iff (retrieved : Retrieved ι) (score : ℚ) :
    service.weighted retrieved score = score ↔ service.IsWhole retrieved score := by
  cases retrieved with
  | image hits => exact mul_left_eq_self₀
  | text hits => exact mul_left_eq_self₀
  | both imageHits textHits => exact iff_of_true rfl trivial

/-! ### Results as they are retrieved -/

/-- The explanation of a result that is returned as it was retrieved adds up exactly if the weights
can be shown and its score is whole. -/
theorem addsUp_retrieved {retrieved : Retrieved ι} {result : HybridSearchResult ι}
    (h : result ∈ service.retrievedResults retrieved) :
    service.explainer.AddsUp result ↔
      service.explainer.WeightsShown ∧ service.IsWhole retrieved result.score := by
  rw [HybridSearchExplainer.addsUp_iff, ← weighted_eq_iff]
  exact and_congr_right fun _ => by rw [← service.contributions_of_mem_results h]; rfl

/-- Reranked results are found again: each is the retrieved result of a survivor, with its new
score. -/
theorem mem_rescore_rerank {text : Text} {results : List (HybridSearchResult ι)} {topK : ℕ}
    (hnodup : (results.map HybridSearchResult.productId).Nodup) {result : HybridSearchResult ι} :
    result ∈ rescore results (service.reranker.rerank text results (some topK)).candidates
        (fun result score => { result with score := score }) ↔
      ∃ c ∈ (service.reranker.rerank text results (some topK)).candidates,
        ∃ candidate ∈ results, candidate.productId = c.productId ∧
          candidate.score = c.originalScore ∧ result = { candidate with score := c.rerankScore } := by
  have hbyId : ∀ productId candidate, byId results productId = some candidate ↔
      candidate ∈ results ∧ candidate.productId = productId := by
    intro productId candidate
    have hreverse : (results.reverse.map HybridSearchResult.productId).Nodup := by
      rw [List.map_reverse]
      exact List.nodup_reverse.2 hnodup
    rw [← List.mem_reverse]
    exact Keyed.lookup_eq_some_iff hreverse
  rw [rescore, List.mem_filterMap]
  refine exists_congr fun c => and_congr_right fun hc => ?_
  obtain ⟨original, horiginal, rawScore, originalRank, finalRank, rfl⟩ :=
    service.reranker.exists_of_mem_rerank hc
  constructor
  · intro h
    obtain ⟨candidate, hcandidate, rfl⟩ := Option.map_eq_some_iff.1 h
    obtain ⟨hmem, hid⟩ := (hbyId _ _).1 hcandidate
    have hsame : candidate = original := List.inj_on_of_nodup_map hnodup hmem horiginal hid
    exact ⟨candidate, hmem, hid, congrArg HybridSearchResult.score hsame, rfl⟩
  · rintro ⟨candidate, hmem, hid, -, rfl⟩
    rw [(hbyId _ _).2 ⟨hmem, hid⟩]
    rfl

/-- The explanations of reranked results add up exactly if the weights can be shown and the score
of each survivor is what its contributions sum to. -/
theorem addsUp_reranked {text : Text} {retrieved : Retrieved ι} {topK : ℕ}
    (hnodup : ((service.retrievedResults retrieved).map HybridSearchResult.productId).Nodup) :
    (∀ result ∈ service.finalize text (service.retrievedResults retrieved) topK true,
      service.explainer.AddsUp result) ↔
      ∀ c ∈ (service.reranker.rerank text (service.retrievedResults retrieved)
        (some topK)).candidates, service.explainer.WeightsShown ∧
          c.rerankScore = service.weighted retrieved c.originalScore := by
  have hmem : ∀ result, result ∈ service.finalize text (service.retrievedResults retrieved) topK
      true ↔ _ := fun result => service.mem_rescore_rerank hnodup
  simp only [hmem]
  constructor
  · intro h c hc
    obtain ⟨original, horiginal, rawScore, originalRank, finalRank, rfl⟩ :=
      service.reranker.exists_of_mem_rerank hc
    obtain ⟨hshown, hsum⟩ := (HybridSearchExplainer.addsUp_iff _ _).1
      (h _ ⟨_, hc, original, horiginal, rfl, rfl, rfl⟩)
    exact ⟨hshown, hsum.symm.trans (service.contributions_of_mem_results horiginal)⟩
  · rintro h result ⟨c, hc, candidate, hcandidate, -, hscore, rfl⟩
    obtain ⟨hshown, hrerank⟩ := h c hc
    rw [HybridSearchExplainer.addsUp_iff]
    refine ⟨hshown, ?_⟩
    rw [hrerank, ← hscore]
    exact service.contributions_of_mem_results hcandidate

/-! ### Searches -/

/-- Whether a search is reranked. -/
def rerankActive (text : Option Text) (rerankingEnabled : Option Bool) : Bool :=
  rerankingEnabled.getD service.rerankingEnabled && (queryText text).isSome

/-- How many hits a search retrieves of each collection. -/
def retrievalTopK (text : Option Text) (topK : Option ℕ) (rerankingEnabled : Option Bool) : ℕ :=
  if service.rerankActive text rerankingEnabled then
    max service.rerankerTopN (topK.getD service.defaultTopK)
  else topK.getD service.defaultTopK

/-- What a search retrieves. -/
def RetrievesHits (image : Option ProductImage) (text : Option Text) (topK : Option ℕ)
    (filters : Option ProductFilters) (rerankingEnabled : Option Bool) : Retrieved ι → Prop
  | .image hits => queryText text = none ∧ ∃ image' ∈ image,
      service.searchByImage store image' (topK.getD service.defaultTopK) filters =
        (.ok hits : Except (AppException ι ε) _)
  | .text hits => image = none ∧ ∃ text' ∈ queryText text,
      service.searchByText store text' (service.retrievalTopK text topK rerankingEnabled) filters =
        (.ok hits : Except (AppException ι ε) _)
  | .both imageHits textHits => ∃ image' ∈ image, ∃ text' ∈ queryText text,
      service.searchByImage store image' (service.retrievalTopK text topK rerankingEnabled)
          filters = (.ok imageHits : Except (AppException ι ε) _) ∧
        service.searchByText store text' (service.retrievalTopK text topK rerankingEnabled)
          filters = (.ok textHits : Except (AppException ι ε) _)

/-- The results of a search, of what it retrieves. -/
def returned (text : Option Text) (topK : Option ℕ) (rerankingEnabled : Option Bool)
    (retrieved : Retrieved ι) : List (HybridSearchResult ι) :=
  service.finalize ((queryText text).getD []) (service.retrievedResults retrieved)
    (topK.getD service.defaultTopK) (service.rerankActive text rerankingEnabled)

/-- An image search has no more hits than it returns, and is not reranked. -/
theorem returned_image {image : ProductImage} {text : Option Text} {topK : Option ℕ}
    {filters : Option ProductFilters} {hits : List (NearestNeighbor ι)}
    (htext : queryText text = none)
    (h : service.searchByImage store image (topK.getD service.defaultTopK) filters =
      (.ok hits : Except (AppException ι ε) _)) (rerankingEnabled : Option Bool) :
    service.returned text topK rerankingEnabled (.image hits) =
      hits.map (singleModalityResult .image) := by
  obtain ⟨vector, rfl⟩ := service.exists_of_searchByImage store h
  have hlength := (service.index.isTopK store.image vector (topK.getD service.defaultTopK)
    filters).length_eq
  have hinactive : service.rerankActive text rerankingEnabled = false := by
    rw [rerankActive, htext]
    exact Bool.and_false _
  rw [returned, hinactive]
  refine List.take_of_length_le ?_
  rw [retrievedResults, List.length_map]
  omega

section Query

variable {text : Option Text} (topK : Option ℕ) (filters : Option ProductFilters)
  (rerankingEnabled : Option Bool) (results : List (HybridSearchResult ι))

theorem search_by_image_eq_ok_iff (htext : queryText text = none) (image : ProductImage) :
    service.search store (some image) text topK filters rerankingEnabled = .ok results ↔
      ∃ hits, service.searchByImage store image (topK.getD service.defaultTopK) filters =
          (.ok hits : Except (AppException ι ε) _) ∧
        results = service.returned text topK rerankingEnabled (.image hits) := by
  unfold search
  rw [htext, Except.bind_eq_ok]
  refine exists_congr fun hits => and_congr_right fun hhits => ?_
  rw [service.returned_image store htext hhits]
  exact Except.pure_eq_ok

omit [DecidableEq ι] in
theorem rerankActive_of_text {query : Text} (htext : queryText text = some query) :
    service.rerankActive text rerankingEnabled =
      (rerankingEnabled.getD service.rerankingEnabled && (some query).isSome) := by
  rw [rerankActive, htext]

theorem search_by_text_eq_ok_iff {query : Text} (htext : queryText text = some query) :
    service.search store none text topK filters rerankingEnabled = .ok results ↔
      ∃ hits, service.searchByText store query (service.retrievalTopK text topK rerankingEnabled)
          filters = (.ok hits : Except (AppException ι ε) _) ∧
        results = service.returned text topK rerankingEnabled (.text hits) := by
  have hactive := service.rerankActive_of_text rerankingEnabled htext
  unfold search
  rw [retrievalTopK, hactive, htext, Except.bind_eq_ok]
  refine exists_congr fun hits => and_congr_right fun _ => ?_
  rw [returned, hactive, htext]
  exact Except.pure_eq_ok

theorem search_by_both_eq_ok_iff {query : Text} (htext : queryText text = some query)
    (image : ProductImage) :
    service.search store (some image) text topK filters rerankingEnabled = .ok results ↔
      ∃ imageHits textHits,
        (service.searchByImage store image (service.retrievalTopK text topK rerankingEnabled)
            filters = (.ok imageHits : Except (AppException ι ε) _) ∧
          service.searchByText store query (service.retrievalTopK text topK rerankingEnabled)
            filters = (.ok textHits : Except (AppException ι ε) _)) ∧
        results = service.returned text topK rerankingEnabled (.both imageHits textHits) := by
  have hactive := service.rerankActive_of_text rerankingEnabled htext
  unfold search
  rw [retrievalTopK, hactive, htext]
  simp only [Except.bind_eq_ok, returned, hactive, htext]
  constructor
  · rintro ⟨imageHits, himage, textHits, htextHits, h⟩
    exact ⟨imageHits, textHits, ⟨himage, htextHits⟩, Except.pure_eq_ok.1 h⟩
  · rintro ⟨imageHits, textHits, ⟨himage, htextHits⟩, h⟩
    exact ⟨imageHits, himage, textHits, htextHits, Except.pure_eq_ok.2 h⟩

end Query

/-- **What a search returns** of what it retrieves. -/
theorem search_eq_ok_iff (image : Option ProductImage) (text : Option Text) (topK : Option ℕ)
    (filters : Option ProductFilters) (rerankingEnabled : Option Bool)
    (results : List (HybridSearchResult ι)) :
    service.search store image text topK filters rerankingEnabled = .ok results ↔
      ∃ retrieved, service.RetrievesHits store image text topK filters rerankingEnabled retrieved ∧
        results = service.returned text topK rerankingEnabled retrieved := by
  cases image with
  | none =>
    cases htext : queryText text with
    | none =>
      have hfails : service.search store none text topK filters rerankingEnabled ≠ .ok results := by
        unfold search
        rw [htext]
        nofun
      refine iff_of_false hfails ?_
      rintro ⟨_ | _ | _, h, -⟩ <;> simp [RetrievesHits, htext] at h
    | some query =>
      rw [service.search_by_text_eq_ok_iff store topK filters rerankingEnabled results htext]
      constructor
      · rintro ⟨hits, hhits, h⟩
        exact ⟨.text hits, ⟨rfl, query, htext, hhits⟩, h⟩
      · rintro ⟨_ | hits | _, h, rfl⟩
        · simp [RetrievesHits] at h
        · obtain ⟨-, query', hquery, hhits⟩ := h
          cases htext.symm.trans hquery
          exact ⟨hits, hhits, rfl⟩
        · simp [RetrievesHits] at h
  | some image =>
    cases htext : queryText text with
    | none =>
      rw [service.search_by_image_eq_ok_iff store topK filters rerankingEnabled results htext]
      constructor
      · rintro ⟨hits, hhits, h⟩
        exact ⟨.image hits, ⟨htext, image, rfl, hhits⟩, h⟩
      · rintro ⟨hits | _ | _, h, rfl⟩
        · obtain ⟨-, _, ⟨⟩, hhits⟩ := h
          exact ⟨hits, hhits, rfl⟩
        · simp [RetrievesHits] at h
        · simp [RetrievesHits, htext] at h
    | some query =>
      rw [service.search_by_both_eq_ok_iff store topK filters rerankingEnabled results htext]
      constructor
      · rintro ⟨imageHits, textHits, ⟨himage, htextHits⟩, h⟩
        exact ⟨.both imageHits textHits, ⟨image, rfl, query, htext, himage, htextHits⟩, h⟩
      · rintro ⟨_ | _ | ⟨imageHits, textHits⟩, h, rfl⟩
        · simp [RetrievesHits, htext] at h
        · simp [RetrievesHits] at h
        · obtain ⟨_, ⟨⟩, query', hquery, hhits⟩ := h
          cases htext.symm.trans hquery
          exact ⟨imageHits, textHits, hhits, rfl⟩

/-- What a search for products similar to an indexed one retrieves. -/
def RetrievesSimilar (productId : ι) (topK : Option ℕ) (filters : Option ProductFilters)
    (modality : Option SearchModality) : Retrieved ι → Prop
  | .image hits => modality = some .image ∧ ∃ point ∈ store.image.retrieve productId,
      hits = service.index.nearest store.image point.vector (topK.getD service.defaultTopK + 1)
        filters
  | .text hits => modality = some .text ∧ ∃ point ∈ store.text.retrieve productId,
      hits = service.index.nearest store.text point.vector (topK.getD service.defaultTopK + 1)
        filters
  | .both imageHits textHits => modality = none ∧
      (∃ point ∈ store.image.retrieve productId,
        imageHits = service.index.nearest store.image point.vector
          (topK.getD service.defaultTopK + 1) filters) ∧
      ∃ point ∈ store.text.retrieve productId,
        textHits = service.index.nearest store.text point.vector
          (topK.getD service.defaultTopK + 1) filters

/-- The similar products, of what is retrieved: the product itself is left out. -/
def returnedSimilar (productId : ι) (topK : Option ℕ) (retrieved : Retrieved ι) :
    List (HybridSearchResult ι) :=
  ((service.retrievedResults retrieved).filter fun result => result.productId ≠ productId).take
    (topK.getD service.defaultTopK)

theorem requirePoint_eq_ok {collection : Collection ι V} {productId : ι} {point : StoredPoint ι V} :
    requirePoint collection productId = (.ok point : Except (AppException ι ε) _) ↔
      collection.retrieve productId = some point := by
  unfold requirePoint
  cases collection.retrieve productId with
  | none => exact iff_of_false nofun nofun
  | some point' => rw [Except.pure_eq_ok, Option.some_inj, eq_comm]

/-- **What a search for similar products returns** of what it retrieves. -/
theorem searchByProductId_eq_ok_iff (productId : ι) (topK : Option ℕ)
    (filters : Option ProductFilters) (modality : Option SearchModality)
    (results : List (HybridSearchResult ι)) :
    service.searchByProductId store productId topK filters modality = .ok results ↔
      ∃ retrieved, service.RetrievesSimilar store productId topK filters modality retrieved ∧
        results = service.returnedSimilar productId topK retrieved := by
  unfold searchByProductId
  rcases modality with _ | _ | _
  · simp only [Except.bind_eq_ok, requirePoint_eq_ok, Except.pure_eq_ok]
    constructor
    · rintro ⟨imagePoint, himage, textPoint, htext, rfl⟩
      exact ⟨.both _ _, ⟨rfl, ⟨_, himage, rfl⟩, _, htext, rfl⟩, rfl⟩
    · rintro ⟨_ | _ | ⟨imageHits, textHits⟩, h, rfl⟩
      · cases h.1
      · cases h.1
      · obtain ⟨-, ⟨imagePoint, himage, rfl⟩, textPoint, htext, rfl⟩ := h
        exact ⟨imagePoint, himage, textPoint, htext, rfl⟩
  · simp only [Except.bind_eq_ok, requirePoint_eq_ok, Except.pure_eq_ok]
    constructor
    · rintro ⟨point, hpoint, rfl⟩
      exact ⟨.image _, ⟨rfl, point, hpoint, rfl⟩, rfl⟩
    · rintro ⟨hits | _ | _, h, rfl⟩
      · obtain ⟨-, point, hpoint, rfl⟩ := h
        exact ⟨point, hpoint, rfl⟩
      · cases h.1
      · cases h.1
  · simp only [Except.bind_eq_ok, requirePoint_eq_ok, Except.pure_eq_ok]
    constructor
    · rintro ⟨point, hpoint, rfl⟩
      exact ⟨.text _, ⟨rfl, point, hpoint, rfl⟩, rfl⟩
    · rintro ⟨_ | hits | _, h, rfl⟩
      · cases h.1
      · obtain ⟨-, point, hpoint, rfl⟩ := h
        exact ⟨point, hpoint, rfl⟩
      · cases h.1

/-! ### When explanations add up -/

/-- The explanation of every result of a search adds up. -/
def ExplainsSearch (image : Option ProductImage) (text : Option Text) (topK : Option ℕ)
    (filters : Option ProductFilters) (rerankingEnabled : Option Bool) : Prop :=
  ∀ results, service.search store image text topK filters rerankingEnabled = .ok results →
    ∀ result ∈ results, service.explainer.AddsUp result

/-- The explanation of every product similar to an indexed one adds up. -/
def ExplainsSimilar (productId : ι) (topK : Option ℕ) (filters : Option ProductFilters)
    (modality : Option SearchModality) : Prop :=
  ∀ results, service.searchByProductId store productId topK filters modality = .ok results →
    ∀ result ∈ results, service.explainer.AddsUp result

/-- The weights can be shown beside each of the results, and the scores are whole. -/
def ResultsCompose (retrieved : Retrieved ι) (results : List (HybridSearchResult ι)) : Prop :=
  ∀ result ∈ results, service.explainer.WeightsShown ∧ service.IsWhole retrieved result.score

/-- The weights can be shown beside each survivor of the reranker, and its new score is what the
contributions to its old one sum to. -/
def SurvivorsCompose (retrieved : Retrieved ι) (survivors : List (RerankedCandidate ι)) : Prop :=
  ∀ c ∈ survivors, service.explainer.WeightsShown ∧
    c.rerankScore = service.weighted retrieved c.originalScore

/-- What must hold of what a search retrieves for its explanations to add up. -/
def SearchComposes (image : Option ProductImage) (text : Option Text) (topK : Option ℕ)
    (filters : Option ProductFilters) (rerankingEnabled : Option Bool) : Prop :=
  ∀ retrieved, service.RetrievesHits store image text topK filters rerankingEnabled retrieved →
    if service.rerankActive text rerankingEnabled then
      service.SurvivorsCompose retrieved (service.reranker.rerank ((queryText text).getD [])
        (service.retrievedResults retrieved) (some (topK.getD service.defaultTopK))).candidates
    else
      service.ResultsCompose retrieved
        ((service.retrievedResults retrieved).take (topK.getD service.defaultTopK))

/-- What must hold of what a search for similar products retrieves. -/
def SimilarComposes (productId : ι) (topK : Option ℕ) (filters : Option ProductFilters)
    (modality : Option SearchModality) : Prop :=
  ∀ retrieved, service.RetrievesSimilar store productId topK filters modality retrieved →
    service.ResultsCompose retrieved (service.returnedSimilar productId topK retrieved)

/-- No product is retrieved twice. -/
theorem nodup_of_retrieves {image : Option ProductImage} {text : Option Text} {topK : Option ℕ}
    {filters : Option ProductFilters} {rerankingEnabled : Option Bool} {retrieved : Retrieved ι}
    (h : service.RetrievesHits store image text topK filters rerankingEnabled retrieved) :
    ((service.retrievedResults retrieved).map HybridSearchResult.productId).Nodup := by
  cases retrieved with
  | image hits =>
    obtain ⟨-, image', -, hhits⟩ := h
    obtain ⟨vector, rfl⟩ := service.exists_of_searchByImage store hhits
    rw [retrievedResults, productIds_singleModality]
    exact nodup_nearest _ _ _ _ _
  | text hits =>
    obtain ⟨-, text', -, hhits⟩ := h
    obtain ⟨vector, rfl⟩ := service.exists_of_searchByText store hhits
    rw [retrievedResults, productIds_singleModality]
    exact nodup_nearest _ _ _ _ _
  | both imageHits textHits => exact service.nodup_fused _ _

/-- The explanations of results that are returned as they were retrieved. -/
theorem addsUp_results {retrieved : Retrieved ι} {results : List (HybridSearchResult ι)}
    (h : results ⊆ service.retrievedResults retrieved) :
    (∀ result ∈ results, service.explainer.AddsUp result) ↔
      service.ResultsCompose retrieved results :=
  forall₂_congr fun _ hmem => service.addsUp_retrieved (h hmem)

/-- **The explanations of a search add up** exactly if the weights can be shown and: without
reranking, the hits of a search of one collection weigh one or score nothing; with reranking, each
survivor is scored by the cross-encoder as the contributions to it sum up. -/
theorem hybrid_explanations_add_up_iff (image : Option ProductImage) (text : Option Text)
    (topK : Option ℕ) (filters : Option ProductFilters) (rerankingEnabled : Option Bool)
    (productId : ι) (modality : Option SearchModality) :
    (service.ExplainsSearch store image text topK filters rerankingEnabled ↔
      service.SearchComposes store image text topK filters rerankingEnabled) ∧
    (service.ExplainsSimilar store productId topK filters modality ↔
      service.SimilarComposes store productId topK filters modality) := by
  constructor
  · unfold ExplainsSearch SearchComposes
    simp only [search_eq_ok_iff, forall_exists_index, and_imp]
    rw [forall_comm]
    refine forall_congr' fun retrieved => ?_
    rw [forall_comm]
    refine forall_congr' fun hretrieves => ?_
    rw [forall_eq]
    unfold returned
    cases service.rerankActive text rerankingEnabled with
    | true => exact service.addsUp_reranked (service.nodup_of_retrieves store hretrieves)
    | false => exact service.addsUp_results (List.take_subset _ _)
  · unfold ExplainsSimilar SimilarComposes
    simp only [searchByProductId_eq_ok_iff, forall_exists_index, and_imp]
    rw [forall_comm]
    refine forall_congr' fun retrieved => ?_
    rw [forall_comm]
    refine forall_congr' fun hretrieves => ?_
    rw [forall_eq]
    exact service.addsUp_results
      (List.Subset.trans (List.take_subset _ _) ((List.filter_subset_self _)))

/-- An image search finds a shoe of similarity one and explains its score by a contribution of seven
tenths. -/
theorem image_search_misstated : ¬ TwoShoes.service.ExplainsSearch TwoShoes.store
    (some ⟨"a.png".toList, "b.png".toList, "image/png".toList, 1, 0⟩) none none none none := by
  intro h
  have hresult := h _ rfl (singleModalityResult .image ⟨0, 1, (TwoShoes.shoe 0).metadata⟩)
    (by decide +kernel)
  have hsum := ((HybridSearchExplainer.addsUp_iff _ _).1 hresult).2
  have hne : ¬ (7 / 10 : ℚ) * 1 + 3 / 10 * 0 = 1 := by norm_num
  exact hne hsum

end HybridSearchService

end ProductIntelligence

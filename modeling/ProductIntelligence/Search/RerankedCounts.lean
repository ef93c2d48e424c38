import ProductIntelligence.Duplicates.Detection
import ProductIntelligence.Recommendation.Engine
import ProductIntelligence.Search.SimilarProducts

/-!
# What reranking does to the number of results

The three services that rerank fetch more candidates first, so that the reranker has a pool
to choose from.  The pool is capped by the reranker's own `top_n` before the cut to `top_k`,
and this cap is all that is ever lost.

## Main results

* `length_search_reranked` — a search, with and without reranking.
* `reranked_counts` — the three services at once.
* `rerank_keeps_one_of_two` — a pool of one.

## References

`backend/app/services/reranker_service.py`,
`backend/app/services/vectorstore/hybrid_search_service.py`.
-/

namespace ProductIntelligence

variable {ι V ε : Type} [DecidableEq ι]

/-- With reranking a search has as many results as without, up to the cap of the pool if there
is a query to rerank against.  It fails in the same cases. -/
theorem length_search_reranked (service : HybridSearchService ι V ε) (store : VectorStore ι V)
    (image : Option ProductImage) (text : Option Text) (topK : Option ℕ)
    (filters : Option ProductFilters) :
    (service.search store image text topK filters (some true)).map List.length =
      (service.search store image text topK filters (some false)).map fun results =>
        if (queryText text).isSome then min service.reranker.topN results.length
        else results.length := by
  rcases service.search_error_or_ok store image text topK topK filters (some true) (some false)
    with ⟨e, hreranked, hplain⟩ | ⟨reranked, plain, hreranked, hplain⟩
  · rw [hreranked, hplain]
    rfl
  · have hrerankedLength := service.length_search store hreranked
    have hplainLength := service.length_search store hplain
    simp only [Option.getD_some, Bool.true_and, Bool.false_and, Bool.false_eq_true, if_false]
      at hrerankedLength hplainLength
    rw [hreranked, hplain, Except.map, Except.map, hrerankedLength, hplainLength]

/-- **What reranking loses is what exceeds the reranker's pool**: in a search with a text
query, in a recommendation and in a duplicate check there are as many results with it as
without, up to the cap of the pool; an image-only search is not touched. -/
theorem reranked_counts (search : HybridSearchService ι V ε)
    (engine : RecommendationEngineService ι V ε) (check : DuplicateDetectionService ι V ε)
    (store : VectorStore ι V) :
    (∀ image text topK filters,
      (search.search store image text topK filters (some true)).map List.length =
        (search.search store image text topK filters (some false)).map fun results =>
          if (queryText text).isSome then min search.reranker.topN results.length
          else results.length) ∧
    (∀ productId recommendationType topK,
      (engine.recommend store productId recommendationType topK (some true)).map
          (fun result => result.recommendations.length) =
        (engine.recommend store productId recommendationType topK (some false)).map
          fun result => min engine.reranker.topN result.recommendations.length) ∧
    ∀ product topK threshold,
      (check.detect store product topK threshold (some true)).map
          (fun decision => decision.topCandidates.length) =
        (check.detect store product topK threshold (some false)).map
          fun decision => min check.reranker.topN decision.topCandidates.length :=
  ⟨length_search_reranked search store, engine.length_recommend store,
    check.length_detect store⟩

/-! ### A pool of one -/

/-- Asked for two results, a search finds both shoes; reranked with a pool of one it returns
one. -/
theorem rerank_keeps_one_of_two :
    (TwoShoes.service.search TwoShoes.store none (some "shoe".toList) (some 2) none
      (some false)).toOption.map List.length = some 2 ∧
    (TwoShoes.service.search TwoShoes.store none (some "shoe".toList) (some 2) none
      (some true)).toOption.map List.length = some 1 := by
  decide +kernel

end ProductIntelligence

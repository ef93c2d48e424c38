import ProductIntelligence.Search.HybridSearch

/-!
# Products similar to an indexed one

A search by product fetches one product more than was asked for from each collection, fuses
the two lists, leaves the product itself out and cuts the rest.  The lists are cut before the
product is left out, and it need not be in either of them.

## Main definitions

* `similar` — the fetched products, before the target is left out.
* `fetched` — their ids: the union of the best of each collection.

## Main results

* `searchByProductId_eq_ok` — what a search for an indexed product returns.
* `similar_products` — no target, no repetition, best first, and as many as there are.

## References

`backend/app/services/vectorstore/hybrid_search_service.py`.
-/

namespace ProductIntelligence

open Ranking

namespace HybridSearchService

variable {ι V ε : Type} [DecidableEq ι] (service : HybridSearchService ι V ε)
  (store : VectorStore ι V)

/-- The products fetched for an indexed product, best first. -/
def similar (imagePoint textPoint : StoredPoint ι V) (limit : ℕ)
    (filters : Option ProductFilters) : Option SearchModality → List (HybridSearchResult ι)
  | some .text =>
    (service.index.nearest store.text textPoint.vector limit filters).map
      (singleModalityResult .text)
  | some .image =>
    (service.index.nearest store.image imagePoint.vector limit filters).map
      (singleModalityResult .image)
  | none =>
    service.fused (service.index.nearest store.image imagePoint.vector limit filters)
      (service.index.nearest store.text textPoint.vector limit filters)

/-- The ids in the best `limit` of each collection a modality uses. -/
def fetched (imagePoint textPoint : StoredPoint ι V) (limit : ℕ)
    (filters : Option ProductFilters) (modality : Option SearchModality) : Finset ι :=
  (if modality ≠ some .text then
      service.index.found store.image imagePoint.vector filters limit else ∅) ∪
    if modality ≠ some .image then
      service.index.found store.text textPoint.vector filters limit else ∅

section Similar

variable (imagePoint textPoint : StoredPoint ι V) (limit : ℕ) (filters : Option ProductFilters)

/-- No product is fetched twice. -/
theorem nodup_similar (modality : Option SearchModality) :
    ((service.similar store imagePoint textPoint limit filters modality).map
      HybridSearchResult.productId).Nodup := by
  rcases modality with _ | _ | _
  · exact service.nodup_fused _ _
  · rw [similar, productIds_singleModality]
    exact nodup_nearest _ _ _ _ _
  · rw [similar, productIds_singleModality]
    exact nodup_nearest _ _ _ _ _

/-- The fetched products are in order of their scores. -/
theorem sorted_similar (modality : Option SearchModality) :
    (service.similar store imagePoint textPoint limit filters modality).Pairwise
      fun a b => b.score ≤ a.score := by
  rcases modality with _ | _ | _
  · exact rank_sorted _ _
  · rw [similar, List.pairwise_map]
    exact (service.index.isTopK _ _ _ _).sorted
  · rw [similar, List.pairwise_map]
    exact (service.index.isTopK _ _ _ _).sorted

/-- The fetched products are the best of each collection the modality uses. -/
theorem productIds_similar (modality : Option SearchModality) :
    ((service.similar store imagePoint textPoint limit filters modality).map
      HybridSearchResult.productId).toFinset =
      service.fetched store imagePoint textPoint limit filters modality := by
  rcases modality with _ | _ | _
  · rw [similar, productIds_fused]
    simp [fetched, ExactIndex.found]
  · rw [similar, productIds_singleModality]
    simp [fetched, ExactIndex.found]
  · rw [similar, productIds_singleModality]
    simp [fetched, ExactIndex.found]

end Similar

/-- **A search for an indexed product** returns the fetched products without it, cut to the
number asked for. -/
theorem searchByProductId_eq_ok {target : ι} {imagePoint textPoint : StoredPoint ι V}
    (himage : store.image.retrieve target = some imagePoint)
    (htext : store.text.retrieve target = some textPoint) (topK : Option ℕ)
    (filters : Option ProductFilters) (modality : Option SearchModality) :
    service.searchByProductId store target topK filters modality =
      .ok (((service.similar store imagePoint textPoint (topK.getD service.defaultTopK + 1)
        filters modality).filter fun result => result.productId ≠ target).take
          (topK.getD service.defaultTopK)) := by
  -- neither point is missing, so no branch raises
  have himagePoint : requirePoint store.image target =
      (.ok imagePoint : Except (AppException ι ε) _) := by
    rw [requirePoint, himage]
    rfl
  have htextPoint : requirePoint store.text target =
      (.ok textPoint : Except (AppException ι ε) _) := by
    rw [requirePoint, htext]
    rfl
  rcases modality with _ | _ | _
  · rw [searchByProductId, himagePoint, htextPoint]
    rfl
  · rw [searchByProductId, himagePoint]
    rfl
  · rw [searchByProductId, htextPoint]
    rfl

/-- As many others are fetched as one collection holds, up to the number asked for. -/
theorem min_card_matching_le {modality : Option SearchModality} (imagePoint textPoint :
    StoredPoint ι V) (k : ℕ) (filters : Option ProductFilters) (target : ι) {found matching :
    Finset ι} (hfound : found ⊆ service.fetched store imagePoint textPoint (k + 1) filters
      modality) (hsub : found ⊆ matching) (hcard : found.card = min (k + 1) matching.card) :
    min k (matching.erase target).card ≤
      min k ((service.fetched store imagePoint textPoint (k + 1) filters modality).erase
        target).card := by
  have hone := min_card_erase_union hsub (Finset.Subset.refl (∅ : Finset ι)) hcard (by simp)
    (le_refl (k + 1)) target
  rw [Finset.union_empty, Finset.union_empty] at hone
  have hle := Finset.card_le_card (Finset.erase_subset_erase target hfound)
  omega

/-- **Products similar to an indexed one**: the search leaves the product out, returns none
twice, is in order of the fused scores, and returns as many as the best `topK + 1` of the
collections hold besides it.  No collection with enough other matches is cut short. -/
theorem similar_products {target : ι} {imagePoint textPoint : StoredPoint ι V}
    (himage : store.image.retrieve target = some imagePoint)
    (htext : store.text.retrieve target = some textPoint) (topK : Option ℕ)
    (filters : Option ProductFilters) (modality : Option SearchModality) :
    ∃ results, service.searchByProductId store target topK filters modality = .ok results ∧
      (∀ result ∈ results, result.productId ≠ target) ∧
      (results.map HybridSearchResult.productId).Nodup ∧
      (results.Pairwise fun a b => b.score ≤ a.score) ∧
      results.length = min (topK.getD service.defaultTopK)
        ((service.fetched store imagePoint textPoint (topK.getD service.defaultTopK + 1) filters
          modality).erase target).card ∧
      (modality ≠ some .text → min (topK.getD service.defaultTopK)
        ((store.image.matching filters).erase target).card ≤ results.length) ∧
      (modality ≠ some .image → min (topK.getD service.defaultTopK)
        ((store.text.matching filters).erase target).card ≤ results.length) := by
  set k := topK.getD service.defaultTopK with hk
  set found := service.similar store imagePoint textPoint (k + 1) filters modality with hfound
  have hnodup := service.nodup_similar store imagePoint textPoint (k + 1) filters modality
  have hsublist : ((found.filter fun result => result.productId ≠ target).take k).Sublist
      found := (List.take_sublist _ _).trans List.filter_sublist
  have hlength : ((found.filter fun result => result.productId ≠ target).take k).length =
      min k ((service.fetched store imagePoint textPoint (k + 1) filters modality).erase
        target).card := by
    rw [List.length_take, length_filter_ne hnodup, productIds_similar]
  refine ⟨_, service.searchByProductId_eq_ok store himage htext topK filters modality,
    ?_, ?_, ?_, hlength, ?_, ?_⟩
  · intro result hresult
    have hmem := List.mem_filter.1 (List.mem_of_mem_take hresult)
    simpa using hmem.2
  · exact hnodup.sublist (hsublist.map _)
  · exact (service.sorted_similar store imagePoint textPoint (k + 1) filters modality).sublist
      hsublist
  · intro hmodality
    rw [hlength]
    refine service.min_card_matching_le store imagePoint textPoint k filters target ?_
      (found_subset service.index store.image imagePoint.vector filters (k + 1))
      (card_found service.index store.image imagePoint.vector filters (k + 1))
    rw [fetched, if_pos hmodality]
    exact Finset.subset_union_left
  · intro hmodality
    rw [hlength]
    refine service.min_card_matching_le store imagePoint textPoint k filters target ?_
      (found_subset service.index store.text textPoint.vector filters (k + 1))
      (card_found service.index store.text textPoint.vector filters (k + 1))
    rw [fetched, if_pos hmodality]
    exact Finset.subset_union_right

end HybridSearchService

/-! ### Two shoes -/

namespace TwoShoes

/-- A shoe stored under an id; all shoes look the same. -/
def shoe (productId : ℕ) : StoredPoint ℕ Unit where
  productId := productId
  vector := ()
  metadata := vectorMetadata ⟨"Shoe".toList, none, none, none, none⟩
    ⟨"a.png".toList, "b.png".toList, "image/png".toList, 1, 0⟩ ⟨ProductAttributes.empty, [], 0⟩

/-- Two shoes in both collections. -/
def store : VectorStore ℕ Unit :=
  let both := (Collection.empty.upsert (shoe 0)).upsert (shoe 1)
  ⟨both, both⟩

/-- A reranker whose pool is capped at one. -/
def reranker : RerankerService ℕ where
  crossEncoder := .constant 0
  topN := 1
  topN_pos := Nat.one_pos
  normalize := fun _ => 1 / 2
  idText := fun _ => ['0']

/-- A search over the two shoes. -/
def service : HybridSearchService ℕ Unit Unit where
  index := .ofSimilarity fun _ _ => 1
  embedImage := fun _ => .ok ()
  embedText := fun _ => .ok ()
  imageWeight := 7 / 10
  textWeight := 3 / 10
  reranker := reranker
  rerankingEnabled := true
  rerankerTopN := 1
  defaultTopK := 10

end TwoShoes

/-- Asked for up to five products similar to the first shoe, a search finds the second one. -/
theorem similar_to_first_of_two :
    ∃ results, TwoShoes.service.searchByProductId TwoShoes.store 0 (some 5) none none =
        .ok results ∧
      (∀ result ∈ results, result.productId ≠ 0) ∧ results.length = 1 := by
  have himage : TwoShoes.store.image.retrieve 0 = some (TwoShoes.shoe 0) := rfl
  have htext : TwoShoes.store.text.retrieve 0 = some (TwoShoes.shoe 0) := rfl
  obtain ⟨results, hok, hothers, -, -, hlength, -⟩ :=
    TwoShoes.service.similar_products TwoShoes.store himage htext (some 5) none none
  refine ⟨results, hok, hothers, hlength.trans ?_⟩
  decide +kernel

end ProductIntelligence

import ProductIntelligence.Logic.Fallible
import ProductIntelligence.Search.Reranker
import ProductIntelligence.Search.VectorStore

/-!
# Hybrid search

Search by image, by text or by both, fusing the two result lists and optionally reranking
them, and search by the stored vectors of a product.

Both fetch more than was asked for and cut the result down.  What is fetched is only ever
the best of each collection, so the number of results depends on how many points match and
not on how much was fetched.

## Main definitions

* `AppException` — the errors a service raises.
* `fuse` — the union of two result lists with weighted scores.
* `HybridSearchService`, `search`, `searchByProductId`.

## Main results

* `productIds_fuse`, `nodup_fuse` — the products of a fusion.
* `length_searchByProductId` — how many products are similar to an indexed one.
* `length_search` — how many results a search has, with and without reranking.

## References

`backend/app/services/vectorstore/hybrid_search_service.py`,
`backend/app/services/vectorstore/search_service.py`,
`backend/app/services/vectorstore/text_search_service.py`.
-/

namespace ProductIntelligence

open Ranking

variable {ι V ε : Type}

/-- The errors a service raises: its own, and those of its collaborators. -/
inductive AppException (ι ε : Type)
  /-- `ValidationException`. -/
  | validation (message : Text)
  /-- `ResourceNotFoundException`: the product is not indexed. -/
  | notIndexed (productId : ι)
  /-- `ResourceNotFoundException`: the product was not found. -/
  | notFound (productId : ι)
  /-- `DuplicateDetectionException`. -/
  | duplicateDetection (message : Text)
  /-- `ConflictException`: the upload looks like a duplicate. -/
  | conflict (message : Text) (matchedProduct : Option ι) (confidence : ℚ)
  /-- pydantic's `ValidationError`: the named fields of a model fail their checks. -/
  | invalidModel (fields : List Text)
  /-- `IndexError`: a list is read past its end. -/
  | indexError
  /-- Whatever a collaborator raises. -/
  | service (error : ε)
  deriving DecidableEq

/-- Call a collaborator that may fail. -/
def callService {α : Type} (m : Except ε α) : Except (AppException ι ε) α :=
  m.mapError .service

/-- A failing collaborator is told apart from the errors of the service itself. -/
theorem callService_eq_error {α : Type} {m : Except ε α} {e : AppException ι ε} :
    callService m = .error e ↔ ∃ error, m = .error error ∧ e = .service error := by
  cases m with
  | error error => simp [callService, Except.mapError, eq_comm]
  | ok a => simp [callService, Except.mapError]

theorem callService_eq_ok {α : Type} {m : Except ε α} {a : α} :
    callService m = (.ok a : Except (AppException ι ε) α) ↔ m = .ok a := Except.mapError_eq_ok

/-! ### Fusion -/

/-- What is known of one product while two result lists are merged. -/
structure FusionEntry (ι : Type) where
  productId : ι
  metadata : Payload
  imageScore : ℚ
  textScore : ℚ
  modalities : List SearchModality

/-- The entry of a product seen for the first time. -/
def FusionEntry.new (neighbor : NearestNeighbor ι) : FusionEntry ι :=
  ⟨neighbor.productId, neighbor.metadata, 0, 0, []⟩

/-- Note the modality of a hit. -/
def addModality (modality : SearchModality) (modalities : List SearchModality) :
    List SearchModality :=
  if modality ∈ modalities then modalities else modalities ++ [modality]

/-- Record an image hit. -/
def addImage (neighbor : NearestNeighbor ι) (entry : Option (FusionEntry ι)) : FusionEntry ι :=
  let entry := entry.getD (FusionEntry.new neighbor)
  { entry with
    imageScore := neighbor.score
    modalities := addModality .image entry.modalities }

/-- Record a text hit. -/
def addText (neighbor : NearestNeighbor ι) (entry : Option (FusionEntry ι)) : FusionEntry ι :=
  let entry := entry.getD (FusionEntry.new neighbor)
  { entry with
    textScore := neighbor.score
    modalities := addModality .text entry.modalities }

/-- A merged entry as a result: a missing modality contributes nothing. -/
def FusionEntry.toResult (imageWeight textWeight : ℚ) (entry : FusionEntry ι) :
    HybridSearchResult ι where
  productId := entry.productId
  score := imageWeight * entry.imageScore + textWeight * entry.textScore
  metadata := entry.metadata
  matchedModalities := [.image, .text].filter (· ∈ entry.modalities)
  imageScore := entry.imageScore
  textScore := entry.textScore

/-- `_single_modality_result`. -/
def singleModalityResult (modality : SearchModality) (neighbor : NearestNeighbor ι) :
    HybridSearchResult ι where
  productId := neighbor.productId
  score := neighbor.score
  metadata := neighbor.metadata
  matchedModalities := [modality]
  imageScore := if modality = .image then neighbor.score else 0
  textScore := if modality = .text then neighbor.score else 0

section Fuse

variable [DecidableEq ι]

/-- The entries after both loops of `_fuse`. -/
def fusionEntries (imageNeighbors textNeighbors : List (NearestNeighbor ι)) :
    List (FusionEntry ι) :=
  let images := imageNeighbors.foldl
    (fun entries n => Keyed.update FusionEntry.productId n.productId (addImage n) entries) []
  textNeighbors.foldl
    (fun entries n => Keyed.update FusionEntry.productId n.productId (addText n) entries) images

/-- `_fuse`: merge two result lists into one without repetitions. -/
def fuse (imageWeight textWeight : ℚ) (imageNeighbors textNeighbors : List (NearestNeighbor ι)) :
    List (HybridSearchResult ι) :=
  (fusionEntries imageNeighbors textNeighbors).map (FusionEntry.toResult imageWeight textWeight)

omit [DecidableEq ι] in
theorem preserves_addImage (n : NearestNeighbor ι) :
    Keyed.Preserves FusionEntry.productId n.productId (addImage n) := by
  intro entry h
  cases entry with
  | none => rfl
  | some entry => exact h entry rfl

omit [DecidableEq ι] in
theorem preserves_addText (n : NearestNeighbor ι) :
    Keyed.Preserves FusionEntry.productId n.productId (addText n) := by
  intro entry h
  cases entry with
  | none => rfl
  | some entry => exact h entry rfl

variable (imageWeight textWeight : ℚ) (imageNeighbors textNeighbors : List (NearestNeighbor ι))

omit [DecidableEq ι] in
theorem map_productId_toResult (entries : List (FusionEntry ι)) :
    (entries.map (FusionEntry.toResult imageWeight textWeight)).map HybridSearchResult.productId =
      entries.map FusionEntry.productId := by
  rw [List.map_map]
  rfl

/-- A fusion holds no product twice. -/
theorem nodup_fuse :
    ((fuse imageWeight textWeight imageNeighbors textNeighbors).map
      HybridSearchResult.productId).Nodup := by
  rw [fuse, map_productId_toResult]
  exact Keyed.nodup_keys_foldl preserves_addText textNeighbors
    (Keyed.nodup_keys_foldl preserves_addImage imageNeighbors List.nodup_nil)

/-- **The products of a fusion** are those of either list. -/
theorem productIds_fuse :
    ((fuse imageWeight textWeight imageNeighbors textNeighbors).map
      HybridSearchResult.productId).toFinset =
      (imageNeighbors.map NearestNeighbor.productId).toFinset ∪
        (textNeighbors.map NearestNeighbor.productId).toFinset := by
  ext productId
  rw [fuse, map_productId_toResult, Finset.mem_union, List.mem_toFinset, List.mem_toFinset,
    List.mem_toFinset, fusionEntries, Keyed.mem_keys_foldl preserves_addText,
    Keyed.mem_keys_foldl preserves_addImage]
  simp

end Fuse

/-! ### The service -/

/-- The search service: the index, the embedding models, the fusion weights, the reranker and
the settings. -/
structure HybridSearchService (ι V ε : Type) where
  index : ExactIndex ι V
  embedImage : ProductImage → Except ε V
  embedText : Text → Except ε V
  imageWeight : ℚ
  textWeight : ℚ
  reranker : RerankerService ι
  rerankingEnabled : Bool
  rerankerTopN : ℕ
  defaultTopK : ℕ

/-- The text query of a search, if it is not blank. -/
def queryText : Option Text → Option Text
  | some text => if strip text = [] then none else some text
  | none => none

namespace HybridSearchService

variable [DecidableEq ι] (service : HybridSearchService ι V ε) (store : VectorStore ι V)

omit [DecidableEq ι] in
/-- `search_by_image`: embed the image and search the image collection. -/
def searchByImage (image : ProductImage) (topK : ℕ) (filters : Option ProductFilters) :
    Except (AppException ι ε) (List (NearestNeighbor ι)) := do
  let vector ← callService (service.embedImage image)
  return service.index.nearest store.image vector topK filters

omit [DecidableEq ι] in
/-- `search_by_text`: embed the query and search the text collection. -/
def searchByText (text : Text) (topK : ℕ) (filters : Option ProductFilters) :
    Except (AppException ι ε) (List (NearestNeighbor ι)) := do
  let vector ← callService (service.embedText text)
  return service.index.nearest store.text vector topK filters

/-- The fused results of two searches, best first. -/
def fused (imageNeighbors textNeighbors : List (NearestNeighbor ι)) :
    List (HybridSearchResult ι) :=
  rank HybridSearchResult.score
    (fuse service.imageWeight service.textWeight imageNeighbors textNeighbors)

/-- `_finalize`: cut the results, reranking them first if that is active. -/
def finalize (text : Text) (results : List (HybridSearchResult ι)) (topK : ℕ)
    (rerankActive : Bool) : List (HybridSearchResult ι) :=
  if !rerankActive then results.take topK
  else
    rescore results (service.reranker.rerank text results (some topK)).candidates
      fun result score => { result with score := score }

/-- `search`: by image, by text, or by both. -/
def search (image : Option ProductImage) (text : Option Text) (topK : Option ℕ)
    (filters : Option ProductFilters) (rerankingEnabled : Option Bool) :
    Except (AppException ι ε) (List (HybridSearchResult ι)) :=
  let topK := topK.getD service.defaultTopK
  let rerankActive :=
    rerankingEnabled.getD service.rerankingEnabled && (queryText text).isSome
  let retrievalTopK := if rerankActive then max service.rerankerTopN topK else topK
  match image, queryText text with
  | none, none =>
    throw (.validation "At least one of an image or a text query must be provided.".toList)
  | some image, none => do
    -- nothing to rerank an image-only search with
    let neighbors ← service.searchByImage store image topK filters
    return neighbors.map (singleModalityResult .image)
  | none, some text => do
    let neighbors ← service.searchByText store text retrievalTopK filters
    return service.finalize text (neighbors.map (singleModalityResult .text)) topK rerankActive
  | some image, some text => do
    let imageNeighbors ← service.searchByImage store image retrievalTopK filters
    let textNeighbors ← service.searchByText store text retrievalTopK filters
    return service.finalize text (service.fused imageNeighbors textNeighbors) topK rerankActive

/-- `retrieve_metadata`: the stored payload of a product. -/
def retrieveMetadata (productId : ι) : Option Payload :=
  match store.image.retrieve productId with
  | some point => some point.metadata
  | none => (store.text.retrieve productId).map StoredPoint.metadata

/-- The stored point of a product, or the error that it is not indexed. -/
def requirePoint (collection : Collection ι V) (productId : ι) :
    Except (AppException ι ε) (StoredPoint ι V) :=
  match collection.retrieve productId with
  | some point => pure point
  | none => throw (.notIndexed productId)

/-- `search_by_product_id`: products similar to an indexed one, which is left out. -/
def searchByProductId (productId : ι) (topK : Option ℕ) (filters : Option ProductFilters)
    (modality : Option SearchModality) :
    Except (AppException ι ε) (List (HybridSearchResult ι)) :=
  let topK := topK.getD service.defaultTopK
  let others := fun results : List (HybridSearchResult ι) =>
    (results.filter fun result => result.productId ≠ productId).take topK
  -- one more than asked for, since the product itself is left out
  match modality with
  | some .text => do
    let point ← requirePoint store.text productId
    let neighbors := service.index.nearest store.text point.vector (topK + 1) filters
    return others (neighbors.map (singleModalityResult .text))
  | some .image => do
    let point ← requirePoint store.image productId
    let neighbors := service.index.nearest store.image point.vector (topK + 1) filters
    return others (neighbors.map (singleModalityResult .image))
  | none => do
    let imagePoint ← requirePoint store.image productId
    let textPoint ← requirePoint store.text productId
    return others (service.fused
      (service.index.nearest store.image imagePoint.vector (topK + 1) filters)
      (service.index.nearest store.text textPoint.vector (topK + 1) filters))

/-! ### How many results -/

/-- The products a query can reach: those matching the filter in the collections searched. -/
def reach (store : VectorStore ι V) (image text : Bool) (filters : Option ProductFilters) :
    Finset ι :=
  (if image then store.image.matching filters else ∅) ∪
    if text then store.text.matching filters else ∅

theorem reach_image (filters : Option ProductFilters) :
    reach store true false filters = store.image.matching filters := by
  simp [reach]

theorem reach_text (filters : Option ProductFilters) :
    reach store false true filters = store.text.matching filters := by
  simp [reach]

theorem reach_both (filters : Option ProductFilters) :
    reach store true true filters =
      store.image.matching filters ∪ store.text.matching filters := by
  simp [reach]

omit [DecidableEq ι] in
/-- The ids of a single-modality search are those of the hits. -/
theorem productIds_singleModality (modality : SearchModality)
    (neighbors : List (NearestNeighbor ι)) :
    (neighbors.map (singleModalityResult modality)).map HybridSearchResult.productId =
      neighbors.map NearestNeighbor.productId := by
  rw [List.map_map]
  rfl

theorem nodup_fused (imageNeighbors textNeighbors : List (NearestNeighbor ι)) :
    ((service.fused imageNeighbors textNeighbors).map HybridSearchResult.productId).Nodup :=
  ((rank_perm _ _).map _).nodup_iff.2 (nodup_fuse _ _ _ _)

theorem productIds_fused (imageNeighbors textNeighbors : List (NearestNeighbor ι)) :
    ((service.fused imageNeighbors textNeighbors).map HybridSearchResult.productId).toFinset =
      (imageNeighbors.map NearestNeighbor.productId).toFinset ∪
        (textNeighbors.map NearestNeighbor.productId).toFinset := by
  rw [← productIds_fuse service.imageWeight service.textWeight]
  exact List.toFinset_eq_of_perm _ _ ((rank_perm _ _).map _)

/-- The number of results after the cut, with the pool capped where reranking is active. -/
theorem length_finalize (text : Text) (results : List (HybridSearchResult ι)) (topK : ℕ)
    (rerankActive : Bool) :
    (service.finalize text results topK rerankActive).length =
      if rerankActive then min service.reranker.topN (min topK results.length)
      else min topK results.length := by
  unfold finalize
  cases rerankActive with
  | false => simp
  | true =>
    simp only [Bool.not_true, Bool.false_eq_true, if_false, if_true, length_rescore_rerank,
      Option.getD_some]
    omega

/-- The best `m` of one collection, cut to `topK ≤ m`, are as many as the best `topK`. -/
theorem min_length_nearest (collection : Collection ι V) (vector : V)
    (filters : Option ProductFilters) {topK m : ℕ} (h : topK ≤ m) :
    min topK (service.index.nearest collection vector m filters).length =
      min topK (collection.matching filters).card := by
  have hcard := card_found service.index collection vector filters m
  rw [ExactIndex.found, Keyed.card_keys (nodup_nearest _ _ _ _ _)] at hcard
  omega

/-- The fusion of the best `m` of each collection, cut to `topK ≤ m`. -/
theorem min_length_fused (imageVector textVector : V) (filters : Option ProductFilters)
    {topK m : ℕ} (h : topK ≤ m) :
    min topK (service.fused (service.index.nearest store.image imageVector m filters)
        (service.index.nearest store.text textVector m filters)).length =
      min topK (store.image.matching filters ∪ store.text.matching filters).card := by
  rw [← Keyed.card_keys (service.nodup_fused _ _), service.productIds_fused]
  exact min_card_union (found_subset _ _ _ _ m) (found_subset _ _ _ _ m)
    (card_found _ _ _ _ m) (card_found _ _ _ _ m) h

omit [DecidableEq ι] in
/-- An image search that succeeds returns the points nearest to some vector. -/
theorem exists_of_searchByImage {image : ProductImage} {topK : ℕ}
    {filters : Option ProductFilters} {neighbors : List (NearestNeighbor ι)}
    (h : service.searchByImage store image topK filters = .ok neighbors) :
    ∃ vector, neighbors = service.index.nearest store.image vector topK filters := by
  obtain ⟨vector, -, hnearest⟩ := Except.bind_eq_ok.1 h
  exact ⟨vector, (Except.ok.inj hnearest).symm⟩

omit [DecidableEq ι] in
/-- A text search that succeeds returns the points nearest to some vector. -/
theorem exists_of_searchByText {text : Text} {topK : ℕ}
    {filters : Option ProductFilters} {neighbors : List (NearestNeighbor ι)}
    (h : service.searchByText store text topK filters = .ok neighbors) :
    ∃ vector, neighbors = service.index.nearest store.text vector topK filters := by
  obtain ⟨vector, -, hnearest⟩ := Except.bind_eq_ok.1 h
  exact ⟨vector, (Except.ok.inj hnearest).symm⟩

/-- **How many results a search has**: as many as the query can reach, up to the number asked
for and, where reranking is active, up to the cap of the reranker's pool. -/
theorem length_search {image : Option ProductImage} {text : Option Text} {topK : Option ℕ}
    {filters : Option ProductFilters} {rerankingEnabled : Option Bool}
    {results : List (HybridSearchResult ι)}
    (h : service.search store image text topK filters rerankingEnabled = .ok results) :
    results.length =
      let found := min (topK.getD service.defaultTopK)
        (reach store image.isSome (queryText text).isSome filters).card
      if rerankingEnabled.getD service.rerankingEnabled && (queryText text).isSome then
        min service.reranker.topN found
      else found := by
  -- at least as many are fetched as are asked for
  have hfetch : ∀ active : Bool, topK.getD service.defaultTopK ≤
      if active then max service.rerankerTopN (topK.getD service.defaultTopK)
      else topK.getD service.defaultTopK := by
    intro active
    split
    · exact le_max_right _ _
    · exact le_refl _
  unfold search at h
  cases image with
  | none =>
    cases htext : queryText text with
    | none =>
      rw [htext] at h
      cases h
    | some query =>
      rw [htext] at h
      obtain ⟨neighbors, hneighbors, hresults⟩ := Except.bind_eq_ok.1 h
      obtain ⟨vector, rfl⟩ := service.exists_of_searchByText store hneighbors
      cases hresults
      rw [length_finalize, List.length_map, min_length_nearest _ _ _ _ (hfetch _),
        Option.isSome_none, Option.isSome_some, reach_text]
  | some image =>
    cases htext : queryText text with
    | none =>
      rw [htext] at h
      obtain ⟨neighbors, hneighbors, hresults⟩ := Except.bind_eq_ok.1 h
      obtain ⟨vector, rfl⟩ := service.exists_of_searchByImage store hneighbors
      cases hresults
      -- an image alone is never reranked
      have hlength := (service.index.isTopK store.image vector
        (topK.getD service.defaultTopK) filters).length_eq
      have hmin := min_length_nearest service store.image vector filters
        (le_refl (topK.getD service.defaultTopK))
      rw [List.length_map, Option.isSome_none, Option.isSome_some, reach_image]
      simp only [Bool.and_false, Bool.false_eq_true, if_false]
      omega
    | some query =>
      rw [htext] at h
      obtain ⟨imageNeighbors, himage, h⟩ := Except.bind_eq_ok.1 h
      obtain ⟨textNeighbors, htextNeighbors, hresults⟩ := Except.bind_eq_ok.1 h
      obtain ⟨imageVector, rfl⟩ := service.exists_of_searchByImage store himage
      obtain ⟨textVector, rfl⟩ := service.exists_of_searchByText store htextNeighbors
      cases hresults
      rw [length_finalize, min_length_fused _ _ _ _ _ (hfetch _), Option.isSome_some,
        Option.isSome_some, reach_both]

omit [DecidableEq ι] in
/-- Only the embedding of the image can fail. -/
theorem searchByImage_eq_error {image : ProductImage} {topK : ℕ}
    {filters : Option ProductFilters} {e : AppException ι ε} :
    service.searchByImage store image topK filters = .error e ↔
      callService (service.embedImage image) = (.error e : Except (AppException ι ε) V) := by
  rw [searchByImage, Except.bind_eq_error]
  simp [pure, Except.pure]

omit [DecidableEq ι] in
/-- Only the embedding of the query can fail. -/
theorem searchByText_eq_error {text : Text} {topK : ℕ} {filters : Option ProductFilters}
    {e : AppException ι ε} :
    service.searchByText store text topK filters = .error e ↔
      callService (service.embedText text) = (.error e : Except (AppException ι ε) V) := by
  rw [searchByText, Except.bind_eq_error]
  simp [pure, Except.pure]

/-- A search fails for want of a query or because an embedding fails. -/
theorem search_eq_error {image : Option ProductImage} {text : Option Text} {k : Option ℕ}
    {filters : Option ProductFilters} {b : Option Bool} {e : AppException ι ε}
    (h : service.search store image text k filters b = .error e) :
    (∃ message, e = .validation message) ∨ ∃ error, e = .service error := by
  have himage : ∀ {image k}, service.searchByImage store image k filters = .error e →
      ∃ error, e = .service error := by
    intro image k h
    obtain ⟨error, -, he⟩ := callService_eq_error.1 (service.searchByImage_eq_error store |>.1 h)
    exact ⟨error, he⟩
  have htext : ∀ {text k}, service.searchByText store text k filters = .error e →
      ∃ error, e = .service error := by
    intro text k h
    obtain ⟨error, -, he⟩ := callService_eq_error.1 (service.searchByText_eq_error store |>.1 h)
    exact ⟨error, he⟩
  unfold search at h
  cases image with
  | none =>
    cases hquery : queryText text with
    | none =>
      rw [hquery] at h
      exact .inl ⟨_, (Except.error.inj h).symm⟩
    | some query =>
      rw [hquery] at h
      rcases Except.bind_eq_error.1 h with h | ⟨_, _, h⟩
      · exact .inr (htext h)
      · cases h
  | some image =>
    cases hquery : queryText text with
    | none =>
      rw [hquery] at h
      rcases Except.bind_eq_error.1 h with h | ⟨_, _, h⟩
      · exact .inr (himage h)
      · cases h
    | some query =>
      rw [hquery] at h
      rcases Except.bind_eq_error.1 h with h | ⟨_, _, h⟩
      · exact .inr (himage h)
      · rcases Except.bind_eq_error.1 h with h | ⟨_, _, h⟩
        · exact .inr (htext h)
        · cases h

/-- The errors of a search do not depend on how much is fetched or whether it is reranked. -/
theorem search_eq_error_congr (image : Option ProductImage) (text : Option Text)
    (k k' : Option ℕ) (filters : Option ProductFilters) (b b' : Option Bool)
    (e : AppException ι ε) (h : service.search store image text k filters b = .error e) :
    service.search store image text k' filters b' = .error e := by
  unfold search at h ⊢
  cases image with
  | none =>
    cases htext : queryText text with
    | none =>
      rw [htext] at h
      exact h
    | some query =>
      rw [htext] at h
      rcases Except.bind_eq_error.1 h with h | ⟨_, _, h⟩
      · exact Except.bind_eq_error.2 (.inl (by rwa [searchByText_eq_error] at h ⊢))
      · cases h
  | some image =>
    cases htext : queryText text with
    | none =>
      rw [htext] at h
      rcases Except.bind_eq_error.1 h with h | ⟨_, _, h⟩
      · exact Except.bind_eq_error.2 (.inl (by rwa [searchByImage_eq_error] at h ⊢))
      · cases h
    | some query =>
      rw [htext] at h
      rcases Except.bind_eq_error.1 h with h | ⟨imageNeighbors, himage, h⟩
      · exact Except.bind_eq_error.2 (.inl (by rwa [searchByImage_eq_error] at h ⊢))
      · -- the image was embedded, so the text was not
        obtain ⟨imageVector, hvector, -⟩ := Except.bind_eq_ok.1 himage
        rcases Except.bind_eq_error.1 h with h | ⟨_, _, h⟩
        · refine Except.bind_eq_error.2 (.inr ⟨_, Except.bind_eq_ok.2 ⟨imageVector, hvector, rfl⟩,
            Except.bind_eq_error.2 (.inl ?_)⟩)
          rwa [searchByText_eq_error] at h ⊢
        · cases h

/-- However much is fetched and whether it is reranked, a search fails or it does not. -/
theorem search_error_or_ok (image : Option ProductImage) (text : Option Text)
    (k k' : Option ℕ) (filters : Option ProductFilters) (b b' : Option Bool) :
    (∃ e, service.search store image text k filters b = .error e ∧
        service.search store image text k' filters b' = .error e) ∨
      ∃ results results', service.search store image text k filters b = .ok results ∧
        service.search store image text k' filters b' = .ok results' :=
  Except.error_or_ok_of_congr fun e =>
    ⟨service.search_eq_error_congr store image text k k' filters b b' e,
      service.search_eq_error_congr store image text k' k filters b' b e⟩

/-- Leaving a product out of results without repetitions. -/
theorem length_filter_ne {results : List (HybridSearchResult ι)}
    (h : (results.map HybridSearchResult.productId).Nodup) (productId : ι) :
    (results.filter fun result => result.productId ≠ productId).length =
      ((results.map HybridSearchResult.productId).toFinset.erase productId).card := by
  -- leaving out a product leaves out its id
  have hids : ((results.filter fun result => result.productId ≠ productId).map
      HybridSearchResult.productId).toFinset =
      (results.map HybridSearchResult.productId).toFinset.erase productId := by
    ext id
    simp only [List.mem_toFinset, List.mem_map, List.mem_filter, decide_eq_true_eq,
      Finset.mem_erase]
    constructor
    · rintro ⟨result, ⟨hmem, hne⟩, rfl⟩
      exact ⟨hne, result, hmem, rfl⟩
    · rintro ⟨hne, result, hmem, rfl⟩
      exact ⟨result, ⟨hmem, hne⟩, rfl⟩
  rw [← hids, Keyed.card_keys (h.sublist (List.filter_sublist.map _))]

/-- The best `topK + 1` of one collection, without one product and cut to `topK`. -/
theorem min_length_others (modality : SearchModality) (collection : Collection ι V) (vector : V)
    (filters : Option ProductFilters) (topK : ℕ) (productId : ι) :
    min topK ((((service.index.nearest collection vector (topK + 1) filters).map
        (singleModalityResult modality)).filter fun result =>
          result.productId ≠ productId).length) =
      min topK ((collection.matching filters).erase productId).card := by
  have hnodup := nodup_nearest service.index collection vector filters (topK + 1)
  rw [length_filter_ne (by rwa [productIds_singleModality]), productIds_singleModality]
  -- one collection is the union with an empty one
  have hunion := min_card_erase_union
    (found_subset service.index collection vector filters (topK + 1))
    (Finset.Subset.refl (∅ : Finset ι))
    (card_found service.index collection vector filters (topK + 1)) (by simp)
    (le_refl (topK + 1)) productId
  rwa [Finset.union_empty, Finset.union_empty] at hunion

/-- The fusion of the best `topK + 1` of each collection, without one product. -/
theorem min_length_fused_others (imageVector textVector : V) (filters : Option ProductFilters)
    (topK : ℕ) (productId : ι) :
    min topK (((service.fused (service.index.nearest store.image imageVector (topK + 1) filters)
        (service.index.nearest store.text textVector (topK + 1) filters)).filter fun result =>
          result.productId ≠ productId).length) =
      min topK ((store.image.matching filters ∪ store.text.matching filters).erase
        productId).card := by
  rw [length_filter_ne (service.nodup_fused _ _), service.productIds_fused]
  exact min_card_erase_union (found_subset _ _ _ _ _) (found_subset _ _ _ _ _)
    (card_found _ _ _ _ _) (card_found _ _ _ _ _) (le_refl (topK + 1)) productId

/-- **How many products are similar to an indexed one**: as many others as can be reached, up
to the number asked for. -/
theorem length_searchByProductId {productId : ι} {topK : Option ℕ}
    {filters : Option ProductFilters} {modality : Option SearchModality}
    {results : List (HybridSearchResult ι)}
    (h : service.searchByProductId store productId topK filters modality = .ok results) :
    results.length = min (topK.getD service.defaultTopK)
      ((reach store (modality ≠ some .text) (modality ≠ some .image) filters).erase
        productId).card := by
  unfold searchByProductId at h
  -- both collections, then the one of images, then the one of texts
  rcases modality with _ | _ | _
  · obtain ⟨imagePoint, -, h⟩ := Except.bind_eq_ok.1 h
    obtain ⟨textPoint, -, h⟩ := Except.bind_eq_ok.1 h
    cases h
    have hcount := service.min_length_fused_others store imagePoint.vector textPoint.vector
      filters (topK.getD service.defaultTopK) productId
    rw [List.length_take, hcount]
    simp [reach_both]
  · obtain ⟨point, -, h⟩ := Except.bind_eq_ok.1 h
    cases h
    have hcount := service.min_length_others .image store.image point.vector filters
      (topK.getD service.defaultTopK) productId
    rw [List.length_take, hcount]
    simp [reach_image]
  · obtain ⟨point, -, h⟩ := Except.bind_eq_ok.1 h
    cases h
    have hcount := service.min_length_others .text store.text point.vector filters
      (topK.getD service.defaultTopK) productId
    rw [List.length_take, hcount]
    simp [reach_text]

/-- The errors of a search by product do not depend on how much is asked for. -/
theorem searchByProductId_eq_error_congr (productId : ι) (k k' : Option ℕ)
    (filters : Option ProductFilters) (modality : Option SearchModality) (e : AppException ι ε)
    (h : service.searchByProductId store productId k filters modality = .error e) :
    service.searchByProductId store productId k' filters modality = .error e := by
  unfold searchByProductId at h ⊢
  rcases modality with _ | _ | _
  · rcases Except.bind_eq_error.1 h with h | ⟨point, hpoint, h⟩
    · exact Except.bind_eq_error.2 (.inl h)
    · rcases Except.bind_eq_error.1 h with h | ⟨_, _, h⟩
      · exact Except.bind_eq_error.2 (.inr ⟨point, hpoint, Except.bind_eq_error.2 (.inl h)⟩)
      · cases h
  · rcases Except.bind_eq_error.1 h with h | ⟨_, _, h⟩
    · exact Except.bind_eq_error.2 (.inl h)
    · cases h
  · rcases Except.bind_eq_error.1 h with h | ⟨_, _, h⟩
    · exact Except.bind_eq_error.2 (.inl h)
    · cases h

/-- However much is asked for, a search by product fails or it does not. -/
theorem searchByProductId_error_or_ok (productId : ι) (k k' : Option ℕ)
    (filters : Option ProductFilters) (modality : Option SearchModality) :
    (∃ e, service.searchByProductId store productId k filters modality = .error e ∧
        service.searchByProductId store productId k' filters modality = .error e) ∨
      ∃ results results', service.searchByProductId store productId k filters modality =
          .ok results ∧
        service.searchByProductId store productId k' filters modality = .ok results' :=
  Except.error_or_ok_of_congr fun e =>
    ⟨service.searchByProductId_eq_error_congr store productId k k' filters modality e,
      service.searchByProductId_eq_error_congr store productId k' k filters modality e⟩

end HybridSearchService

end ProductIntelligence

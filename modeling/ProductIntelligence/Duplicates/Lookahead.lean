import ProductIntelligence.Duplicates.Detection
import ProductIntelligence.Search.Fusion

/-!
# Looking further for a duplicate

The candidates of a duplicate check are the best `k` by fused score, where a product scores zero
in a collection whose best `k` it is not among.  The check then scores them again by another
formula.  With a larger `k` a candidate can only gain in the second formula, but others can
overtake it in the first, so that it is no longer retrieved.

## Main definitions

* `Retrieves` — candidates found by the best `k` of each of two lists.
* `FoundAgain` — a candidate that a wider search still finds.

## Main results

* `overallSimilarity_mono` — the second formula is monotone in the two scores.
* `Retrieves.foundAgain` — a search that looks far enough finds everything again.
* `DuplicateDetectionService.looking_further` — looking further never hides a candidate that is
  found again.

## References

`backend/app/services/duplicate/duplicate_detection_service.py`,
`backend/app/services/vectorstore/hybrid_search_service.py`,
`backend/app/services/duplicate/similarity_scorer.py`.
-/

namespace ProductIntelligence

open Ranking

variable {ι V ε : Type}

/-! ### The best candidate decides -/

/-- Without candidates the confidence is zero. -/
theorem buildDecision_nil (threshold : ℚ) :
    (buildDecision ([] : List (DuplicateResult ι)) threshold).confidence = 0 ∧
      (buildDecision ([] : List (DuplicateResult ι)) threshold).isDuplicate = false := ⟨rfl, rfl⟩

/-- The best scored candidate is reported first, and its similarity is the confidence. -/
theorem exists_best {results : List (DuplicateResult ι)} (h : results ≠ []) (threshold : ℚ) :
    ∃ best ∈ results, (∀ result ∈ results, result.overallSimilarity ≤ best.overallSimilarity) ∧
      (buildDecision results threshold).confidence = best.overallSimilarity ∧
      (buildDecision results threshold).isDuplicate =
        decide (threshold ≤ best.overallSimilarity) ∧
      (buildDecision results threshold).topCandidates.head? = some (toCandidate best) := by
  have hsorted := rank_sorted DuplicateResult.overallSimilarity results
  have hlength := length_rank DuplicateResult.overallSimilarity results
  cases hranked : rank DuplicateResult.overallSimilarity results with
  | nil =>
    rw [hranked] at hlength
    exact absurd (List.length_eq_zero_iff.1 hlength.symm) h
  | cons best rest =>
    rw [hranked, List.pairwise_cons] at hsorted
    refine ⟨best, ?_, ?_, ?_⟩
    · rw [← mem_rank DuplicateResult.overallSimilarity, hranked]
      exact List.mem_cons_self ..
    · intro result hresult
      rw [← mem_rank DuplicateResult.overallSimilarity, hranked] at hresult
      rcases List.mem_cons.1 hresult with rfl | hresult
      · exact le_refl _
      · exact hsorted.1 result hresult
    · simp only [buildDecision, hranked]
      by_cases hmeets : threshold ≤ best.overallSimilarity
      · simp [hmeets]
      · simp [hmeets]

/-! ### The second formula -/

theorem clamp_zero : clamp 0 = 0 := rfl

/-- The contribution of a valid signal. -/
theorem contribution_of_signal {name : SignalName} {rawScore weight : ℚ} {s : SimilaritySignal}
    (h : signal name rawScore weight = some s) :
    s.contribution = clamp rawScore * weight ∧ 0 ≤ weight := by
  unfold signal at h
  split at h
  · rename_i hvalid
    cases h
    exact ⟨rfl, hvalid.2.1.1⟩
  · cases h

/-- What the payload of a candidate contributes to its similarity. -/
def payloadContribution (scorer : SimilarityScorer) (product : CheckedProduct)
    (candidate : Payload) : ℚ :=
  clamp (metadataSimilarity product.name product.brand product.category candidate) *
      scorer.metadataWeight +
    clamp (attributeSimilarity product.attributes candidate) * scorer.attributeWeight

/-- The similarity of a scored candidate. -/
theorem overallSimilarity_eq {scorer : SimilarityScorer} {product : CheckedProduct}
    {candidate : HybridSearchResult ι} {result : DuplicateResult ι}
    (h : scorer.score product candidate = some result) :
    result.productId = candidate.productId ∧ 0 ≤ scorer.imageWeight ∧ 0 ≤ scorer.textWeight ∧
      result.overallSimilarity = clamp (clamp candidate.imageScore * scorer.imageWeight +
        clamp candidate.textScore * scorer.textWeight +
        payloadContribution scorer product candidate.metadata) := by
  unfold SimilarityScorer.score at h
  simp only [bind, Option.bind_eq_some_iff, pure] at h
  obtain ⟨s₁, h₁, s₂, h₂, s₃, h₃, s₄, h₄, h⟩ := h
  obtain ⟨h₁, himage⟩ := contribution_of_signal h₁
  obtain ⟨h₂, htext⟩ := contribution_of_signal h₂
  obtain ⟨h₃, -⟩ := contribution_of_signal h₃
  obtain ⟨h₄, -⟩ := contribution_of_signal h₄
  cases h
  refine ⟨rfl, himage, htext, ?_⟩
  simp only [List.map_cons, List.map_nil, List.sum_cons, List.sum_nil, h₁, h₂, h₃, h₄,
    payloadContribution]
  exact congrArg clamp (by ring)

/-- **The second formula is monotone**: a candidate that keeps its payload and loses in neither
score does not lose. -/
theorem overallSimilarity_mono {scorer : SimilarityScorer} {product : CheckedProduct}
    {candidate candidate' : HybridSearchResult ι} {result result' : DuplicateResult ι}
    (h : scorer.score product candidate = some result)
    (h' : scorer.score product candidate' = some result')
    (hmetadata : candidate'.metadata = candidate.metadata)
    (himage : clamp candidate.imageScore ≤ clamp candidate'.imageScore)
    (htext : clamp candidate.textScore ≤ clamp candidate'.textScore) :
    result.overallSimilarity ≤ result'.overallSimilarity := by
  obtain ⟨-, himageWeight, htextWeight, hresult⟩ := overallSimilarity_eq h
  obtain ⟨-, -, -, hresult'⟩ := overallSimilarity_eq h'
  rw [hresult, hresult', hmetadata]
  apply clamp_mono
  gcongr

/-! ### Retrieval -/

section Retrieves

variable [DecidableEq ι]

/-- The candidates are found by the best `k` of some image candidates and of some text
candidates: as many as were hit, up to `k`. -/
structure Retrieves (imageCandidates textCandidates imageHits textHits : List (NearestNeighbor ι))
    (k : ℕ) (found : List (HybridSearchResult ι)) : Prop where
  image_isTopK : IsTopK NearestNeighbor.score k imageCandidates imageHits
  text_isTopK : IsTopK NearestNeighbor.score k textCandidates textHits
  foundBy : ∀ candidate ∈ found, FoundBy imageHits textHits candidate
  nodup : (found.map HybridSearchResult.productId).Nodup
  length_eq : found.length = min k ((imageHits.map NearestNeighbor.productId).toFinset ∪
    (textHits.map NearestNeighbor.productId).toFinset).card

/-- A wider search still finds the candidate, by the same searches and with the same payload. -/
def FoundAgain (found found' : List (HybridSearchResult ι)) (productId : ι) : Prop :=
  ∃ candidate ∈ found, ∃ candidate' ∈ found', candidate.productId = productId ∧
    candidate'.productId = productId ∧
    candidate.matchedModalities ⊆ candidate'.matchedModalities ∧
    candidate'.metadata = candidate.metadata

omit [DecidableEq ι] in
/-- A product that is hit again keeps its score, and one that was missing had none. -/
theorem clamp_le_of_scoreIn {candidates hits hits' : List (NearestNeighbor ι)}
    (hnodup : (candidates.map NearestNeighbor.productId).Nodup) (hsub : hits ⊆ candidates)
    (hsub' : hits' ⊆ candidates) {productId : ι} {score score' : ℚ}
    (h : ScoreIn hits productId score) (h' : ScoreIn hits' productId score')
    (hagain : productId ∈ hits.map NearestNeighbor.productId →
      productId ∈ hits'.map NearestNeighbor.productId) : clamp score ≤ clamp score' := by
  rcases h with ⟨a, ha, hid, rfl⟩ | ⟨-, rfl⟩
  · rcases h' with ⟨b, hb, hid', rfl⟩ | ⟨hmissing, -⟩
    · rw [eq_of_productId_eq hnodup (hsub ha) (hsub' hb) (hid.trans hid'.symm)]
    · exact absurd (hagain (List.mem_map.2 ⟨a, ha, hid⟩)) hmissing
  · rw [clamp_zero]
    exact clamp_nonneg _

/-- The payload of a result is that of a hit. -/
theorem FoundBy.exists_hit {imageHits textHits : List (NearestNeighbor ι)}
    {result : HybridSearchResult ι} (h : FoundBy imageHits textHits result) :
    ∃ hit ∈ imageHits ++ textHits,
      hit.productId = result.productId ∧ hit.metadata = result.metadata := by
  rcases h.metadata with ⟨hit, hmem, hhit⟩ | ⟨-, hit, hmem, hhit⟩
  · exact ⟨hit, List.mem_append_left _ hmem, hhit⟩
  · exact ⟨hit, List.mem_append_right _ hmem, hhit⟩

namespace Retrieves

variable {imageCandidates textCandidates imageHits textHits imageHits' textHits' :
  List (NearestNeighbor ι)} {k k' : ℕ} {found found' : List (HybridSearchResult ι)}

/-- A candidate that is found again loses in neither score. -/
theorem clamp_le (h : Retrieves imageCandidates textCandidates imageHits textHits k found)
    (h' : Retrieves imageCandidates textCandidates imageHits' textHits' k' found')
    (himage : (imageCandidates.map NearestNeighbor.productId).Nodup)
    (htext : (textCandidates.map NearestNeighbor.productId).Nodup)
    {candidate candidate' : HybridSearchResult ι} (hmem : candidate ∈ found)
    (hmem' : candidate' ∈ found') (hid : candidate'.productId = candidate.productId)
    (hmatched : candidate.matchedModalities ⊆ candidate'.matchedModalities) :
    clamp candidate.imageScore ≤ clamp candidate'.imageScore ∧
      clamp candidate.textScore ≤ clamp candidate'.textScore := by
  have hfound := h.foundBy candidate hmem
  have hfound' := h'.foundBy candidate' hmem'
  constructor
  · refine clamp_le_of_scoreIn himage h.image_isTopK.subperm.subset h'.image_isTopK.subperm.subset
      hfound.imageScore (hid ▸ hfound'.imageScore) fun hhit => ?_
    exact hid ▸ hfound'.image_mem_iff.1 (hmatched (hfound.image_mem_iff.2 hhit))
  · refine clamp_le_of_scoreIn htext h.text_isTopK.subperm.subset h'.text_isTopK.subperm.subset
      hfound.textScore (hid ▸ hfound'.textScore) fun hhit => ?_
    exact hid ▸ hfound'.text_mem_iff.1 (hmatched (hfound.text_mem_iff.2 hhit))

/-- The candidates are all that was hit when that is no more than `k`. -/
theorem productIds_eq (h : Retrieves imageCandidates textCandidates imageHits textHits k found)
    (hk : ((imageHits.map NearestNeighbor.productId).toFinset ∪
      (textHits.map NearestNeighbor.productId).toFinset).card ≤ k) :
    (found.map HybridSearchResult.productId).toFinset =
      (imageHits.map NearestNeighbor.productId).toFinset ∪
        (textHits.map NearestNeighbor.productId).toFinset := by
  apply Finset.eq_of_subset_of_card_le
  · intro productId hmem
    obtain ⟨candidate, hcandidate, rfl⟩ := List.mem_map.1 (List.mem_toFinset.1 hmem)
    rw [Finset.mem_union, List.mem_toFinset, List.mem_toFinset]
    exact (h.foundBy candidate hcandidate).productId_mem
  · rw [Keyed.card_keys h.nodup, h.length_eq, min_eq_right hk]

/-- A search that looks far enough hits all of its candidates. -/
theorem hits_perm (h : Retrieves imageCandidates textCandidates imageHits textHits k found)
    (himage : (imageCandidates.map NearestNeighbor.productId).Nodup)
    (htext : (textCandidates.map NearestNeighbor.productId).Nodup)
    (hfar : ((imageCandidates.map NearestNeighbor.productId).toFinset ∪
      (textCandidates.map NearestNeighbor.productId).toFinset).card ≤ k) :
    imageHits.Perm imageCandidates ∧ textHits.Perm textCandidates := by
  constructor
  · apply h.image_isTopK.perm_of_length_le
    rw [← Keyed.card_keys himage]
    exact (Finset.card_le_card Finset.subset_union_left).trans hfar
  · apply h.text_isTopK.perm_of_length_le
    rw [← Keyed.card_keys htext]
    exact (Finset.card_le_card Finset.subset_union_right).trans hfar

/-- **A search that looks far enough finds everything again**, where the payloads agree. -/
theorem foundAgain (h : Retrieves imageCandidates textCandidates imageHits textHits k found)
    (h' : Retrieves imageCandidates textCandidates imageHits' textHits' k' found')
    (himage : (imageCandidates.map NearestNeighbor.productId).Nodup)
    (htext : (textCandidates.map NearestNeighbor.productId).Nodup)
    (hpayload : ∀ a ∈ imageCandidates ++ textCandidates, ∀ b ∈ imageCandidates ++ textCandidates,
      a.productId = b.productId → a.metadata = b.metadata)
    (hfar : ((imageCandidates.map NearestNeighbor.productId).toFinset ∪
      (textCandidates.map NearestNeighbor.productId).toFinset).card ≤ k')
    {candidate : HybridSearchResult ι} (hmem : candidate ∈ found) :
    FoundAgain found found' candidate.productId := by
  obtain ⟨himagePerm, htextPerm⟩ := h'.hits_perm himage htext hfar
  have himageIds := fun productId =>
    (himagePerm.map NearestNeighbor.productId).mem_iff (a := productId)
  have htextIds := fun productId =>
    (htextPerm.map NearestNeighbor.productId).mem_iff (a := productId)
  have himageSub := h.image_isTopK.subperm.subset
  have htextSub := h.text_isTopK.subperm.subset
  have hfound := h.foundBy candidate hmem
  -- so the product is among what it hit, and what it hit is what it found
  have hids : (found'.map HybridSearchResult.productId).toFinset =
      (imageCandidates.map NearestNeighbor.productId).toFinset ∪
        (textCandidates.map NearestNeighbor.productId).toFinset := by
    rw [← List.toFinset_eq_of_perm _ _ (himagePerm.map NearestNeighbor.productId),
      ← List.toFinset_eq_of_perm _ _ (htextPerm.map NearestNeighbor.productId)] at hfar ⊢
    exact h'.productIds_eq hfar
  have hagain : candidate.productId ∈ found'.map HybridSearchResult.productId := by
    rw [← List.mem_toFinset, hids, Finset.mem_union, List.mem_toFinset, List.mem_toFinset]
    exact hfound.productId_mem.imp (List.map_subset _ himageSub ·) (List.map_subset _ htextSub ·)
  obtain ⟨candidate', hmem', hid⟩ := List.mem_map.1 hagain
  have hfound' := h'.foundBy candidate' hmem'
  refine ⟨candidate, hmem, candidate', hmem', rfl, hid, fun modality hmatched => ?_, ?_⟩
  · cases modality with
    | image =>
      rw [hfound'.image_mem_iff, hid, himageIds]
      exact List.map_subset _ himageSub (hfound.image_mem_iff.1 hmatched)
    | text =>
      rw [hfound'.text_mem_iff, hid, htextIds]
      exact List.map_subset _ htextSub (hfound.text_mem_iff.1 hmatched)
  · obtain ⟨hit, hhit, hhitId, hhitMetadata⟩ := hfound.exists_hit
    obtain ⟨hit', hhit', hhitId', hhitMetadata'⟩ := hfound'.exists_hit
    rw [← hhitMetadata, ← hhitMetadata']
    refine hpayload hit' ?_ hit ?_ (by rw [hhitId, hhitId', hid])
    · exact (himagePerm.append htextPerm).subset hhit'
    · exact List.mem_append.2 ((List.mem_append.1 hhit).imp (himageSub ·) (htextSub ·))

end Retrieves

/-! ### Two searches of one store -/

/-- The points of both collections. -/
def VectorStore.points (store : VectorStore ι V) : List (StoredPoint ι V) :=
  store.image.points ++ store.text.points

/-- The products that are indexed. -/
def VectorStore.indexed (store : VectorStore ι V) : Finset ι :=
  (store.points.map StoredPoint.productId).toFinset

/-- The two collections hold the same payload of a product. -/
def VectorStore.SamePayloads (store : VectorStore ι V) : Prop :=
  ∀ p ∈ store.points, ∀ q ∈ store.points, p.productId = q.productId → p.metadata = q.metadata

instance (store : VectorStore ι V) : Decidable store.SamePayloads :=
  inferInstanceAs (Decidable (∀ p ∈ store.points, ∀ q ∈ store.points, _ → _))

omit [DecidableEq ι] in
/-- A candidate of a collection is one of its points. -/
theorem exists_point_of_mem_candidates {similarity : V → V → ℚ} {collection : Collection ι V}
    {query : V} {filters : Option ProductFilters} {a : NearestNeighbor ι}
    (h : a ∈ collection.candidates similarity query filters) :
    ∃ p ∈ collection.points, a.productId = p.productId ∧ a.metadata = p.metadata := by
  obtain ⟨p, hp, rfl⟩ := List.mem_map.1 h
  exact ⟨p, List.mem_of_mem_filter hp, rfl, rfl⟩

namespace HybridSearchService

variable (service : HybridSearchService ι V ε) (store : VectorStore ι V)

/-- What a search by image and text finds: without a query, what the image search finds. -/
theorem search_eq_ok {image : ProductImage} {text : Text} {k : ℕ}
    {found : List (HybridSearchResult ι)}
    (h : service.search store (some image) (some text) (some k) none (some false) = .ok found) :
    ∃ imageVector, service.embedImage image = .ok imageVector ∧
      ((queryText (some text) = none ∧
          found = (service.index.nearest store.image imageVector k none).map
            (singleModalityResult .image)) ∨
        ∃ query textVector, queryText (some text) = some query ∧
          service.embedText query = .ok textVector ∧
          found = (service.fused (service.index.nearest store.image imageVector k none)
            (service.index.nearest store.text textVector k none)).take k) := by
  unfold search at h
  cases hquery : queryText (some text) with
  | none =>
    rw [hquery] at h
    obtain ⟨neighbors, hneighbors, h⟩ := Except.bind_eq_ok.1 h
    obtain ⟨imageVector, hembed, hnearest⟩ := Except.bind_eq_ok.1 hneighbors
    cases hnearest
    cases h
    exact ⟨imageVector, callService_eq_ok.1 hembed, .inl ⟨rfl, rfl⟩⟩
  | some query =>
    rw [hquery] at h
    obtain ⟨imageNeighbors, himage, h⟩ := Except.bind_eq_ok.1 h
    obtain ⟨textNeighbors, htext, h⟩ := Except.bind_eq_ok.1 h
    obtain ⟨imageVector, hembed, hnearest⟩ := Except.bind_eq_ok.1 himage
    obtain ⟨textVector, hembed', hnearest'⟩ := Except.bind_eq_ok.1 htext
    cases hnearest
    cases hnearest'
    cases h
    exact ⟨imageVector, callService_eq_ok.1 hembed, .inr
      ⟨query, textVector, rfl, callService_eq_ok.1 hembed', rfl⟩⟩

/-- An image search retrieves from the points of images alone. -/
theorem retrieves_image (imageVector : V) (k : ℕ) :
    Retrieves (store.image.candidates service.index.similarity imageVector none) []
      (service.index.nearest store.image imageVector k none) [] k
      ((service.index.nearest store.image imageVector k none).map
        (singleModalityResult .image)) where
  image_isTopK := service.index.isTopK _ _ _ _
  text_isTopK := isTopK_nil _ k
  foundBy := by
    intro candidate hcandidate
    obtain ⟨hit, hhit, rfl⟩ := List.mem_map.1 hcandidate
    exact foundBy_singleModality_image hhit
  nodup := by
    rw [productIds_singleModality]
    exact nodup_nearest _ _ _ _ _
  length_eq := by
    have hlength := (service.index.isTopK store.image imageVector k none).length_eq
    have hcard := Keyed.card_keys (nodup_nearest service.index store.image imageVector none k)
    rw [List.map_nil, List.toFinset_nil, Finset.union_empty, hcard, List.length_map]
    omega

/-- A fused search retrieves from the points of both collections. -/
theorem retrieves_fused (imageVector textVector : V) (k : ℕ) :
    Retrieves (store.image.candidates service.index.similarity imageVector none)
      (store.text.candidates service.index.similarity textVector none)
      (service.index.nearest store.image imageVector k none)
      (service.index.nearest store.text textVector k none) k
      ((service.fused (service.index.nearest store.image imageVector k none)
        (service.index.nearest store.text textVector k none)).take k) where
  image_isTopK := service.index.isTopK _ _ _ _
  text_isTopK := service.index.isTopK _ _ _ _
  foundBy := by
    intro candidate hcandidate
    have hmem := (mem_rank _).1 (List.mem_of_mem_take hcandidate)
    exact ((mem_fuse (nodup_nearest _ _ _ _ _) (nodup_nearest _ _ _ _ _)).1 hmem).toFoundBy
  nodup := (service.nodup_fused _ _).sublist ((List.take_sublist _ _).map _)
  length_eq := by
    rw [List.length_take, ← Keyed.card_keys (service.nodup_fused _ _), productIds_fused]

/-- However much is asked for, a search by image and text retrieves from the same two lists of
candidates, which are points of the store. -/
theorem exists_retrieves {image : ProductImage} {text : Text} {k k' : ℕ}
    {found found' : List (HybridSearchResult ι)}
    (h : service.search store (some image) (some text) (some k) none (some false) = .ok found)
    (h' : service.search store (some image) (some text) (some k') none (some false) =
      .ok found') :
    ∃ imageCandidates textCandidates imageHits textHits imageHits' textHits',
      (imageCandidates.map NearestNeighbor.productId).Nodup ∧
      (textCandidates.map NearestNeighbor.productId).Nodup ∧
      (∀ a ∈ imageCandidates ++ textCandidates, ∃ p ∈ store.points,
        a.productId = p.productId ∧ a.metadata = p.metadata) ∧
      Retrieves imageCandidates textCandidates imageHits textHits k found ∧
      Retrieves imageCandidates textCandidates imageHits' textHits' k' found' := by
  obtain ⟨imageVector, hembed, hfound⟩ := service.search_eq_ok store h
  obtain ⟨imageVector', hembed', hfound'⟩ := service.search_eq_ok store h'
  obtain rfl : imageVector = imageVector' := Except.ok.inj (hembed.symm.trans hembed')
  have himage := nodup_candidates service.index.similarity store.image imageVector none
  have hpoints : ∀ a ∈ store.image.candidates service.index.similarity imageVector none,
      ∃ p ∈ store.points, a.productId = p.productId ∧ a.metadata = p.metadata := by
    intro a ha
    obtain ⟨p, hp, hap⟩ := exists_point_of_mem_candidates ha
    exact ⟨p, List.mem_append_left _ hp, hap⟩
  rcases hfound with ⟨hquery, rfl⟩ | ⟨query, textVector, hquery, htext, rfl⟩
  · rcases hfound' with ⟨-, rfl⟩ | ⟨_, _, hquery', -⟩
    · refine ⟨_, [], _, [], _, [], himage, List.nodup_nil, ?_,
        service.retrieves_image store imageVector k, service.retrieves_image store imageVector k'⟩
      rwa [List.append_nil]
    · cases hquery.symm.trans hquery'
  · rcases hfound' with ⟨hquery', -⟩ | ⟨query', textVector', hquery', htext', rfl⟩
    · cases hquery.symm.trans hquery'
    · obtain rfl : query = query' := Option.some.inj (hquery.symm.trans hquery')
      obtain rfl : textVector = textVector' := Except.ok.inj (htext.symm.trans htext')
      refine ⟨_, _, _, _, _, _, himage, nodup_candidates _ _ _ _, ?_,
        service.retrieves_fused store imageVector textVector k,
        service.retrieves_fused store imageVector textVector k'⟩
      intro a ha
      rcases List.mem_append.1 ha with ha | ha
      · exact hpoints a ha
      · obtain ⟨p, hp, hap⟩ := exists_point_of_mem_candidates ha
        exact ⟨p, List.mem_append_right _ hp, hap⟩

end HybridSearchService

/-! ### Two checks of one product -/

/-- What the first decision says, the second one says at least. -/
structure AtLeast (decision decision' : DuplicateDecision ι) : Prop where
  confidence_le : decision.confidence ≤ decision'.confidence
  isDuplicate : decision.isDuplicate = true → decision'.isDuplicate = true

omit [DecidableEq ι] in
/-- A decision from nothing says nothing. -/
theorem atLeast_nil {results : List (DuplicateResult ι)} {threshold : ℚ}
    (hunit : ∀ result ∈ results, InUnit result.overallSimilarity) :
    AtLeast (buildDecision [] threshold) (buildDecision results threshold) := by
  refine ⟨?_, nofun⟩
  rw [(buildDecision_nil threshold).1]
  by_cases hresults : results = []
  · rw [hresults, (buildDecision_nil threshold).1]
  · obtain ⟨best, hbest, -, hconfidence, -⟩ := exists_best hresults threshold
    rw [hconfidence]
    exact (hunit best hbest).1

omit [DecidableEq ι] in
/-- A decision says at least what another does once it has a candidate as good as the other's
best. -/
theorem atLeast_of_le {results results' : List (DuplicateResult ι)} {threshold : ℚ}
    {best result' : DuplicateResult ι}
    (hconfidence : (buildDecision results threshold).confidence = best.overallSimilarity)
    (hduplicate : (buildDecision results threshold).isDuplicate =
      decide (threshold ≤ best.overallSimilarity))
    (hmem' : result' ∈ results') (hle : best.overallSimilarity ≤ result'.overallSimilarity) :
    AtLeast (buildDecision results threshold) (buildDecision results' threshold) := by
  obtain ⟨best', -, hmax, hconfidence', hduplicate', -⟩ :=
    exists_best (List.ne_nil_of_mem hmem') threshold
  have hbest := hle.trans (hmax result' hmem')
  refine ⟨by rwa [hconfidence, hconfidence'], ?_⟩
  rw [hduplicate, hduplicate', decide_eq_true_eq, decide_eq_true_eq]
  exact fun hmeets => hmeets.trans hbest

namespace DuplicateDetectionService

variable (service : DuplicateDetectionService ι V ε) (store : VectorStore ι V)

/-- The candidates a check retrieves with `k`. -/
def retrieve (product : CheckedProduct) (k : ℕ) :
    Except (AppException ι ε) (List (HybridSearchResult ι)) :=
  service.hybridSearch.search store (some product.image) (some product.text) (some k) none
    (some false)

/-- A check without reranking decides by the scores of what it retrieves. -/
theorem detect_eq_ok {product : CheckedProduct} {k : ℕ} {threshold : Option ℚ}
    {rerankingEnabled : Option Bool} {decision : DuplicateDecision ι}
    (hoff : rerankingEnabled.getD service.rerankingEnabled = false)
    (h : service.detect store product (some k) threshold rerankingEnabled = .ok decision) :
    ∃ found results, service.retrieve store product k = .ok found ∧
      found.mapM (service.similarityScorer.score product) = some results ∧
      decision = buildDecision results (threshold.getD service.threshold) := by
  simp only [detect, hoff, Option.getD_some, Bool.false_eq_true, if_false] at h
  obtain ⟨found, hfound, h⟩ := Except.bind_eq_ok.1 h
  have hpooled : service.pooled product.text found k false = found := rfl
  rw [hpooled, scoreAndDecide] at h
  cases hresults : found.mapM (service.similarityScorer.score product) with
  | none =>
    rw [hresults] at h
    cases h
  | some results =>
    rw [hresults] at h
    exact ⟨found, results, hfound, hresults, (Except.ok.inj h).symm⟩

variable {store}

/-- **Looking further never hides a candidate that is found again.**  With reranking off, a
check with `k'` says at least what the one with `k` says if the candidate that decides with `k`
is found again.  That is always so where `k'` is at least the number of indexed products and
the two collections hold the same payload of each. -/
theorem looking_further {product : CheckedProduct} {k k' : ℕ} {threshold : Option ℚ}
    {rerankingEnabled : Option Bool} {decision decision' : DuplicateDecision ι}
    (hoff : rerankingEnabled.getD service.rerankingEnabled = false)
    (h : service.detect store product (some k) threshold rerankingEnabled = .ok decision)
    (h' : service.detect store product (some k') threshold rerankingEnabled = .ok decision') :
    ∃ found found', service.retrieve store product k = .ok found ∧
      service.retrieve store product k' = .ok found' ∧
      ((∀ best ∈ decision.topCandidates.head?, FoundAgain found found' best.productId) →
        AtLeast decision decision') ∧
      (store.SamePayloads → store.indexed.card ≤ k' →
        ∀ best ∈ decision.topCandidates.head?, FoundAgain found found' best.productId) := by
  obtain ⟨found, results, hfound, hresults, rfl⟩ := service.detect_eq_ok store hoff h
  obtain ⟨found', results', hfound', hresults', rfl⟩ := service.detect_eq_ok store hoff h'
  obtain ⟨imageCandidates, textCandidates, imageHits, textHits, imageHits', textHits', himage,
    htext, hpoints, hretrieves, hretrieves'⟩ :=
      service.hybridSearch.exists_retrieves store hfound hfound'
  obtain ⟨hscored, hscores⟩ := Option.mem_of_mapM hresults
  obtain ⟨hscored', hscores'⟩ := Option.mem_of_mapM hresults'
  refine ⟨found, found', hfound, hfound', ?_, ?_⟩
  · intro hagain
    by_cases hnil : results = []
    · rw [hnil]
      refine atLeast_nil fun result hresult => ?_
      obtain ⟨candidate, -, hcandidate⟩ := hscores' result hresult
      exact inUnit_overallSimilarity hcandidate
    · obtain ⟨best, hbest, -, hconfidence, hduplicate, hhead⟩ :=
        exists_best hnil (threshold.getD service.threshold)
      obtain ⟨origin, horigin, hbestScore⟩ := hscores best hbest
      have hbestId := (overallSimilarity_eq hbestScore).1
      obtain ⟨candidate, hmem, candidate', hmem', hid, hid', hmatched, hmetadata⟩ :=
        hagain (toCandidate best) hhead
      -- the candidate found again is the one that decided
      obtain rfl : candidate = origin :=
        List.inj_on_of_nodup_map hretrieves.nodup hmem horigin (hid.trans hbestId)
      obtain ⟨result', hresult', hscore'⟩ := hscored' candidate' hmem'
      obtain ⟨himageLe, htextLe⟩ := hretrieves.clamp_le hretrieves' himage htext hmem hmem'
        (hid'.trans hid.symm) hmatched
      exact atLeast_of_le hconfidence hduplicate hresult'
        (overallSimilarity_mono hbestScore hscore' hmetadata himageLe htextLe)
  · intro hpayloads hindexed best hbest
    have hnil : results ≠ [] := by
      rintro rfl
      cases hbest
    obtain ⟨result, hresult, -, -, -, hhead⟩ :=
      exists_best hnil (threshold.getD service.threshold)
    obtain ⟨candidate, hmem, hscore⟩ := hscores result hresult
    obtain rfl : toCandidate result = best := Option.some.inj (hhead.symm.trans hbest)
    have hid : (toCandidate result).productId = candidate.productId :=
      (overallSimilarity_eq hscore).1
    rw [hid]
    refine hretrieves.foundAgain hretrieves' himage htext ?_ ?_ hmem
    · intro a ha b hb hab
      obtain ⟨p, hp, hpId, hpMetadata⟩ := hpoints a ha
      obtain ⟨q, hq, hqId, hqMetadata⟩ := hpoints b hb
      rw [hpMetadata, hqMetadata]
      exact hpayloads p hp q hq (by rw [← hpId, ← hqId, hab])
    · refine (Finset.card_le_card ?_).trans hindexed
      intro productId hproductId
      rw [← List.toFinset_append, ← List.map_append, List.mem_toFinset] at hproductId
      obtain ⟨a, ha, rfl⟩ := List.mem_map.1 hproductId
      obtain ⟨p, hp, hpId, -⟩ := hpoints a ha
      exact List.mem_toFinset.2 (List.mem_map.2 ⟨p, hp, hpId.symm⟩)

end DuplicateDetectionService

end Retrieves

/-! ### A boot among lamps -/

namespace BootAmongLamps

/-- A product stored under an id with its similarity to the query as its vector. -/
def point (productId : ℕ) (name : String) (similarity : ℚ) : StoredPoint ℕ ℚ where
  productId := productId
  vector := similarity
  metadata := vectorMetadata ⟨name.toList, none, none, none, none⟩
    ⟨"a.png".toList, "b.png".toList, "image/png".toList, 1, 0⟩ ⟨ProductAttributes.empty, [], 0⟩

/-- A collection of three lamps and of the boot with the id 3. -/
def collection (similarity : ℕ → ℚ) : Collection ℕ ℚ :=
  (((Collection.empty.upsert (point 0 "Lamp" (similarity 0))).upsert
    (point 1 "Lamp" (similarity 1))).upsert (point 2 "Lamp" (similarity 2))).upsert
      (point 3 "Boot" (similarity 3))

/-- One lamp looks most like the query, the boot reads most like it, and two lamps are second and
third in both. -/
def store : VectorStore ℕ ℚ where
  image := collection fun productId => [1 / 2, 2 / 5, 19 / 50, 1 / 10].getD productId 0
  text := collection fun productId => [1 / 10, 4 / 5, 9 / 10, 1].getD productId 0

/-- A search whose similarities are the stored ones. -/
def hybridSearch : HybridSearchService ℕ ℚ Unit where
  index := .ofSimilarity fun _ similarity => similarity
  embedImage := fun _ => .ok 0
  embedText := fun _ => .ok 0
  imageWeight := 7 / 10
  textWeight := 3 / 10
  reranker := TwoShoes.reranker
  rerankingEnabled := false
  rerankerTopN := 50
  defaultTopK := 10

/-- A check with the default weights. -/
def service : DuplicateDetectionService ℕ ℚ Unit where
  hybridSearch := hybridSearch
  similarityScorer := ⟨7 / 20, 1 / 4, 1 / 5, 1 / 5⟩
  reranker := TwoShoes.reranker
  topK := 10
  threshold := 2 / 5
  rerankingEnabled := false
  rerankerTopN := 50

/-- A boot, submitted with another picture. -/
def product : CheckedProduct where
  name := "Boot".toList
  brand := none
  category := none
  description := none
  attributes := ProductAttributes.empty
  image := ⟨"a.png".toList, "c.png".toList, "image/png".toList, 1, 1⟩

/-- What a check says, in short. -/
def summary (k : ℕ) : Option (Bool × ℚ) :=
  (service.detect store product (some k) none (some false)).toOption.map fun decision =>
    (decision.isDuplicate, decision.confidence)

/-- All similarities are in the unit interval.  The check with two candidates finds the stored
boot; with three the lamps overtake it in the fused score and it is no duplicate any more. -/
theorem hidden_by_looking_further :
    (∀ p ∈ store.points, InUnit p.vector) ∧ summary 2 = some (true, 9 / 20) ∧
      summary 3 = some (false, 179 / 500) := by
  decide +kernel

theorem exists_of_summary {k : ℕ} (h : (summary k).isSome) :
    ∃ decision, service.detect store product (some k) none (some false) = .ok decision := by
  unfold summary at h
  cases hdetect : service.detect store product (some k) none (some false) with
  | error e =>
    rw [hdetect] at h
    cases h
  | ok decision => exact ⟨decision, rfl⟩

/-- With four candidates, as many as there are products, the check says at least what it says with
two. -/
theorem looking_further_than_all :
    ∃ decision decision', service.detect store product (some 2) none (some false) = .ok decision ∧
      service.detect store product (some 4) none (some false) = .ok decision' ∧
      AtLeast decision decision' := by
  obtain ⟨decision, h⟩ := exists_of_summary (k := 2) (by decide +kernel)
  obtain ⟨decision', h'⟩ := exists_of_summary (k := 4) (by decide +kernel)
  obtain ⟨_, _, -, -, hsays, hagain⟩ := service.looking_further rfl h h'
  exact ⟨decision, decision', h, h', hsays (hagain (by decide +kernel) (by decide +kernel))⟩

end BootAmongLamps

end ProductIntelligence

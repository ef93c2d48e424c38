import ProductIntelligence.Search.SimilarProducts

/-!
# What a fusion says

Two lists of hits are merged into one table, first the image hits and then the text hits, and
the table is ranked and cut.  A merged result is determined by the hits of its product, so the
table does not depend on the order of the lists, and the ranking depends on it only where scores
are equal.

## Main definitions

* `ScoreIn` — the score a list of hits gives a product, zero if it is missing.
* `FoundBy`, `IsFused` — what a result says of its product.
* `Covers` — a list of hits holds a whole catalogue.

## Main results

* `mem_fuse` — a fusion holds exactly the results that are `IsFused`.
* `fuse_perm` — the order of the hits does not matter.
* `HybridSearchService.fusion_correct` — fusing, ranking and cutting two lists of hits.

## References

`backend/app/services/vectorstore/hybrid_search_service.py`.
-/

namespace ProductIntelligence

open Ranking

variable {ι V ε : Type}

/-! ### Hits -/

/-- The score a list of hits gives a product: that of its hit, or zero if it is missing. -/
def ScoreIn (neighbors : List (NearestNeighbor ι)) (productId : ι) (score : ℚ) : Prop :=
  (∃ neighbor ∈ neighbors, neighbor.productId = productId ∧ neighbor.score = score) ∨
    productId ∉ neighbors.map NearestNeighbor.productId ∧ score = 0

/-- Hits of distinct products with the same id are the same hit. -/
theorem eq_of_productId_eq {neighbors : List (NearestNeighbor ι)}
    (h : (neighbors.map NearestNeighbor.productId).Nodup) {a b : NearestNeighbor ι}
    (ha : a ∈ neighbors) (hb : b ∈ neighbors) (hab : a.productId = b.productId) : a = b :=
  List.inj_on_of_nodup_map h ha hb hab

/-- A list of hits of distinct products gives a product one score. -/
theorem ScoreIn.unique {neighbors : List (NearestNeighbor ι)} {productId : ι} {score score' : ℚ}
    (hnodup : (neighbors.map NearestNeighbor.productId).Nodup)
    (h : ScoreIn neighbors productId score) (h' : ScoreIn neighbors productId score') :
    score = score' := by
  rcases h with ⟨a, ha, hid, rfl⟩ | ⟨hmissing, rfl⟩
  · rcases h' with ⟨b, hb, hid', rfl⟩ | ⟨hmissing, -⟩
    · rw [eq_of_productId_eq hnodup ha hb (hid.trans hid'.symm)]
    · exact absurd (List.mem_map.2 ⟨a, ha, hid⟩) hmissing
  · rcases h' with ⟨b, hb, hid, -⟩ | ⟨-, rfl⟩
    · exact absurd (List.mem_map.2 ⟨b, hb, hid⟩) hmissing
    · rfl

theorem ScoreIn.perm {neighbors neighbors' : List (NearestNeighbor ι)} {productId : ι} {score : ℚ}
    (h : ScoreIn neighbors productId score) (hperm : neighbors.Perm neighbors') :
    ScoreIn neighbors' productId score := by
  refine h.imp ?_ (And.imp_left ?_)
  · rintro ⟨neighbor, hmem, hneighbor⟩
    exact ⟨neighbor, hperm.subset hmem, hneighbor⟩
  · exact mt (hperm.map NearestNeighbor.productId).mem_iff.2

/-! ### A merged result -/

variable [DecidableEq ι]

/-- What a result says of its product, found by two lists of hits: each score as its list has it,
the lists it occurs in, and the payload of its first hit. -/
structure FoundBy (imageNeighbors textNeighbors : List (NearestNeighbor ι))
    (result : HybridSearchResult ι) : Prop where
  imageScore : ScoreIn imageNeighbors result.productId result.imageScore
  textScore : ScoreIn textNeighbors result.productId result.textScore
  matchedModalities : result.matchedModalities =
    (if result.productId ∈ imageNeighbors.map NearestNeighbor.productId then [.image] else []) ++
      if result.productId ∈ textNeighbors.map NearestNeighbor.productId then [.text] else []
  metadata : (∃ neighbor ∈ imageNeighbors,
      neighbor.productId = result.productId ∧ neighbor.metadata = result.metadata) ∨
    result.productId ∉ imageNeighbors.map NearestNeighbor.productId ∧
      ∃ neighbor ∈ textNeighbors,
        neighbor.productId = result.productId ∧ neighbor.metadata = result.metadata

/-- A merged result also scores its product by the weighted sum of the two. -/
structure IsFused (imageWeight textWeight : ℚ)
    (imageNeighbors textNeighbors : List (NearestNeighbor ι)) (result : HybridSearchResult ι) :
    Prop extends FoundBy imageNeighbors textNeighbors result where
  score_eq : result.score = imageWeight * result.imageScore + textWeight * result.textScore

section FoundBy

variable {imageWeight textWeight : ℚ} {imageNeighbors textNeighbors : List (NearestNeighbor ι)}
  {result result' : HybridSearchResult ι}

/-- The product of a result has a hit. -/
theorem FoundBy.productId_mem (h : FoundBy imageNeighbors textNeighbors result) :
    result.productId ∈ imageNeighbors.map NearestNeighbor.productId ∨
      result.productId ∈ textNeighbors.map NearestNeighbor.productId := by
  rcases h.metadata with ⟨neighbor, hmem, hid, -⟩ | ⟨-, neighbor, hmem, hid, -⟩
  · exact .inl (List.mem_map.2 ⟨neighbor, hmem, hid⟩)
  · exact .inr (List.mem_map.2 ⟨neighbor, hmem, hid⟩)

theorem FoundBy.image_mem_iff (h : FoundBy imageNeighbors textNeighbors result) :
    .image ∈ result.matchedModalities ↔
      result.productId ∈ imageNeighbors.map NearestNeighbor.productId := by
  rw [h.matchedModalities]
  split <;> split <;> simp_all

theorem FoundBy.text_mem_iff (h : FoundBy imageNeighbors textNeighbors result) :
    .text ∈ result.matchedModalities ↔
      result.productId ∈ textNeighbors.map NearestNeighbor.productId := by
  rw [h.matchedModalities]
  split <;> split <;> simp_all

theorem IsFused.perm {imageNeighbors' textNeighbors' : List (NearestNeighbor ι)}
    (h : IsFused imageWeight textWeight imageNeighbors textNeighbors result)
    (himage : imageNeighbors.Perm imageNeighbors') (htext : textNeighbors.Perm textNeighbors') :
    IsFused imageWeight textWeight imageNeighbors' textNeighbors' result where
  score_eq := h.score_eq
  imageScore := h.imageScore.perm himage
  textScore := h.textScore.perm htext
  matchedModalities := by
    have himageIds := (himage.map NearestNeighbor.productId).mem_iff (a := result.productId)
    have htextIds := (htext.map NearestNeighbor.productId).mem_iff (a := result.productId)
    simp only [h.matchedModalities, himageIds, htextIds]
  metadata := by
    refine h.metadata.imp ?_ (And.imp ?_ ?_)
    · rintro ⟨neighbor, hmem, hneighbor⟩
      exact ⟨neighbor, himage.subset hmem, hneighbor⟩
    · exact mt (himage.map NearestNeighbor.productId).mem_iff.2
    · rintro ⟨neighbor, hmem, hneighbor⟩
      exact ⟨neighbor, htext.subset hmem, hneighbor⟩

/-- A product has one merged result. -/
theorem IsFused.unique (himage : (imageNeighbors.map NearestNeighbor.productId).Nodup)
    (htext : (textNeighbors.map NearestNeighbor.productId).Nodup)
    (h : IsFused imageWeight textWeight imageNeighbors textNeighbors result)
    (h' : IsFused imageWeight textWeight imageNeighbors textNeighbors result')
    (hid : result.productId = result'.productId) : result = result' := by
  have himageScore : result.imageScore = result'.imageScore :=
    h.imageScore.unique himage (hid ▸ h'.imageScore)
  have htextScore : result.textScore = result'.textScore :=
    h.textScore.unique htext (hid ▸ h'.textScore)
  have hscore : result.score = result'.score := by
    rw [h.score_eq, h'.score_eq, himageScore, htextScore]
  have hmetadata : result.metadata = result'.metadata := by
    rcases h.metadata with ⟨a, ha, haid, hmeta⟩ | ⟨hmissing, a, ha, haid, hmeta⟩
    · rcases h'.metadata with ⟨b, hb, hbid, hmeta'⟩ | ⟨hmissing', -⟩
      · rw [← hmeta, ← hmeta', eq_of_productId_eq himage ha hb (by rw [haid, hbid, hid])]
      · exact absurd (List.mem_map.2 ⟨a, ha, haid.trans hid⟩) hmissing'
    · rcases h'.metadata with ⟨b, hb, hbid, -⟩ | ⟨-, b, hb, hbid, hmeta'⟩
      · exact absurd (List.mem_map.2 ⟨b, hb, hbid.trans hid.symm⟩) hmissing
      · rw [← hmeta, ← hmeta', eq_of_productId_eq htext ha hb (by rw [haid, hbid, hid])]
  have hmodalities : result.matchedModalities = result'.matchedModalities := by
    rw [h.matchedModalities, h'.matchedModalities, hid]
  cases result
  cases result'
  congr

/-- A hit of one list alone. -/
theorem foundBy_singleModality_image {neighbors : List (NearestNeighbor ι)}
    {neighbor : NearestNeighbor ι} (h : neighbor ∈ neighbors) :
    FoundBy neighbors [] (singleModalityResult .image neighbor) where
  imageScore := .inl ⟨neighbor, h, rfl, rfl⟩
  textScore := .inr ⟨List.not_mem_nil, rfl⟩
  matchedModalities := by
    have hmem : neighbor.productId ∈ neighbors.map NearestNeighbor.productId :=
      List.mem_map_of_mem h
    rw [singleModalityResult, if_pos hmem]
    rfl
  metadata := .inl ⟨neighbor, h, rfl, rfl⟩

end FoundBy

/-! ### The merge -/

section Fuse

variable {imageWeight textWeight : ℚ}
  {imageNeighbors textNeighbors imageNeighbors' textNeighbors' : List (NearestNeighbor ι)}

/-- The entry of a product is made by its image hit and then changed by its text hit. -/
theorem lookup_fusionEntries (himage : (imageNeighbors.map NearestNeighbor.productId).Nodup)
    (htext : (textNeighbors.map NearestNeighbor.productId).Nodup) (productId : ι) :
    Keyed.lookup FusionEntry.productId productId (fusionEntries imageNeighbors textNeighbors) =
      let image := (Keyed.lookup NearestNeighbor.productId productId imageNeighbors).map
        fun neighbor => addImage neighbor none
      (Keyed.lookup NearestNeighbor.productId productId textNeighbors).elim image
        fun neighbor => some (addText neighbor image) := by
  have himages := Keyed.lookup_foldl preserves_addImage himage [] productId
  have hnone : Keyed.lookup FusionEntry.productId productId ([] : List (FusionEntry ι)) = none :=
    rfl
  rw [fusionEntries, Keyed.lookup_foldl preserves_addText htext, himages, hnone]
  cases Keyed.lookup NearestNeighbor.productId productId imageNeighbors <;> rfl

/-- A list of hits gives a product the score of the hit found for it. -/
theorem scoreIn_lookup {neighbors : List (NearestNeighbor ι)}
    (hnodup : (neighbors.map NearestNeighbor.productId).Nodup) (productId : ι) :
    ScoreIn neighbors productId
      (((Keyed.lookup NearestNeighbor.productId productId neighbors).map
        NearestNeighbor.score).getD 0) := by
  cases h : Keyed.lookup NearestNeighbor.productId productId neighbors with
  | none => exact .inr ⟨Keyed.lookup_eq_none.1 h, rfl⟩
  | some neighbor =>
    obtain ⟨hmem, hid⟩ := (Keyed.lookup_eq_some_iff hnodup).1 h
    exact .inl ⟨neighbor, hmem, hid, rfl⟩

/-- What the entry of a product says as a result. -/
theorem isFused_of_lookup (himage : (imageNeighbors.map NearestNeighbor.productId).Nodup)
    (htext : (textNeighbors.map NearestNeighbor.productId).Nodup) {entry : FusionEntry ι}
    (h : Keyed.lookup FusionEntry.productId entry.productId
      (fusionEntries imageNeighbors textNeighbors) = some entry) :
    IsFused imageWeight textWeight imageNeighbors textNeighbors
      (entry.toResult imageWeight textWeight) := by
  have himageScore := scoreIn_lookup himage entry.productId
  have htextScore := scoreIn_lookup htext entry.productId
  rw [lookup_fusionEntries himage htext] at h
  -- four cases: each list has a hit for the product or is missing it
  cases hfirst : Keyed.lookup NearestNeighbor.productId entry.productId imageNeighbors with
  | none =>
    have hmissing := Keyed.lookup_eq_none.1 hfirst
    cases hsecond : Keyed.lookup NearestNeighbor.productId entry.productId textNeighbors with
    | none =>
      rw [hfirst, hsecond] at h
      cases h
    | some m =>
      obtain ⟨hm, hid⟩ := (Keyed.lookup_eq_some_iff htext).1 hsecond
      have hfound := List.mem_map.2 ⟨m, hm, hid⟩
      rw [hfirst] at h himageScore
      rw [hsecond] at h htextScore
      cases h
      exact
        { score_eq := rfl
          imageScore := himageScore
          textScore := htextScore
          matchedModalities := by
            rw [FusionEntry.toResult, if_neg hmissing, if_pos hfound]
            rfl
          metadata := .inr ⟨hmissing, m, hm, hid, rfl⟩ }
  | some n =>
    obtain ⟨hn, hid⟩ := (Keyed.lookup_eq_some_iff himage).1 hfirst
    have hfound := List.mem_map.2 ⟨n, hn, hid⟩
    cases hsecond : Keyed.lookup NearestNeighbor.productId entry.productId textNeighbors with
    | none =>
      have hmissing := Keyed.lookup_eq_none.1 hsecond
      rw [hfirst] at h himageScore
      rw [hsecond] at h htextScore
      cases h
      exact
        { score_eq := rfl
          imageScore := himageScore
          textScore := htextScore
          matchedModalities := by
            rw [FusionEntry.toResult, if_pos hfound, if_neg hmissing]
            rfl
          metadata := .inl ⟨n, hn, hid, rfl⟩ }
    | some m =>
      obtain ⟨hm, hid'⟩ := (Keyed.lookup_eq_some_iff htext).1 hsecond
      have hfound' := List.mem_map.2 ⟨m, hm, hid'⟩
      rw [hfirst] at h himageScore
      rw [hsecond] at h htextScore
      cases h
      exact
        { score_eq := rfl
          imageScore := himageScore
          textScore := htextScore
          matchedModalities := by
            rw [FusionEntry.toResult, if_pos hfound, if_pos hfound']
            rfl
          metadata := .inl ⟨n, hn, hid, rfl⟩ }

/-- **A fusion holds exactly what the hits say**, one result for each product hit. -/
theorem mem_fuse (himage : (imageNeighbors.map NearestNeighbor.productId).Nodup)
    (htext : (textNeighbors.map NearestNeighbor.productId).Nodup)
    {result : HybridSearchResult ι} :
    result ∈ fuse imageWeight textWeight imageNeighbors textNeighbors ↔
      IsFused imageWeight textWeight imageNeighbors textNeighbors result := by
  have hentries : ((fusionEntries imageNeighbors textNeighbors).map
      FusionEntry.productId).Nodup := by
    have hnodup := nodup_fuse imageWeight textWeight imageNeighbors textNeighbors
    rwa [fuse, map_productId_toResult] at hnodup
  have hmem : ∀ result ∈ fuse imageWeight textWeight imageNeighbors textNeighbors,
      IsFused imageWeight textWeight imageNeighbors textNeighbors result := by
    intro result h
    obtain ⟨entry, hentry, rfl⟩ := List.mem_map.1 h
    exact isFused_of_lookup himage htext ((Keyed.lookup_eq_some_iff hentries).2 ⟨hentry, rfl⟩)
  refine ⟨hmem result, fun h => ?_⟩
  -- its product is in the fusion, and has one merged result
  have hid : result.productId ∈ ((fuse imageWeight textWeight imageNeighbors textNeighbors).map
      HybridSearchResult.productId) := by
    rw [← List.mem_toFinset, productIds_fuse, Finset.mem_union, List.mem_toFinset,
      List.mem_toFinset]
    exact h.productId_mem
  obtain ⟨result', hmem', hid'⟩ := List.mem_map.1 hid
  rwa [h.unique himage htext (hmem result' hmem') hid'.symm]

/-- **The order of the hits does not matter** for what a fusion holds. -/
theorem fuse_perm (himage : (imageNeighbors.map NearestNeighbor.productId).Nodup)
    (htext : (textNeighbors.map NearestNeighbor.productId).Nodup)
    (himagePerm : imageNeighbors.Perm imageNeighbors')
    (htextPerm : textNeighbors.Perm textNeighbors') :
    (fuse imageWeight textWeight imageNeighbors textNeighbors).Perm
      (fuse imageWeight textWeight imageNeighbors' textNeighbors') := by
  have himage' := (himagePerm.map NearestNeighbor.productId).nodup_iff.1 himage
  have htext' := (htextPerm.map NearestNeighbor.productId).nodup_iff.1 htext
  refine (List.perm_ext_iff_of_nodup (nodup_fuse _ _ _ _).of_map (nodup_fuse _ _ _ _).of_map).2
    fun result => ?_
  rw [mem_fuse himage htext, mem_fuse himage' htext']
  exact ⟨fun h => h.perm himagePerm htextPerm, fun h => h.perm himagePerm.symm htextPerm.symm⟩

end Fuse

/-! ### Covering a catalogue -/

omit [DecidableEq ι] in
/-- A list of hits holds a whole catalogue, each product with its similarity. -/
structure Covers (catalogue : List ι) (similarity : ι → ℚ)
    (neighbors : List (NearestNeighbor ι)) : Prop where
  productIds_perm : (neighbors.map NearestNeighbor.productId).Perm catalogue
  score_eq : ∀ neighbor ∈ neighbors, neighbor.score = similarity neighbor.productId

omit [DecidableEq ι] in
/-- A covering list gives every product of the catalogue its similarity. -/
theorem Covers.scoreIn_iff {catalogue : List ι} {similarity : ι → ℚ}
    {neighbors : List (NearestNeighbor ι)} (h : Covers catalogue similarity neighbors)
    {productId : ι} {score : ℚ} (hmem : productId ∈ catalogue) :
    ScoreIn neighbors productId score → score = similarity productId := by
  rintro (⟨neighbor, hneighbor, rfl, rfl⟩ | ⟨hmissing, -⟩)
  · exact h.score_eq neighbor hneighbor
  · exact absurd (h.productIds_perm.mem_iff.2 hmem) hmissing

section Cover

variable {imageWeight textWeight : ℚ} {catalogue : List ι} {imageSimilarity textSimilarity : ι → ℚ}
  {imageNeighbors textNeighbors : List (NearestNeighbor ι)}

/-- A fusion of two covering lists holds the catalogue. -/
theorem productIds_fuse_perm (hcatalogue : catalogue.Nodup)
    (himage : Covers catalogue imageSimilarity imageNeighbors)
    (htext : Covers catalogue textSimilarity textNeighbors) :
    ((fuse imageWeight textWeight imageNeighbors textNeighbors).map
      HybridSearchResult.productId).Perm catalogue := by
  refine (List.perm_ext_iff_of_nodup (nodup_fuse _ _ _ _) hcatalogue).2 fun productId => ?_
  rw [← List.mem_toFinset, productIds_fuse, Finset.mem_union, List.mem_toFinset,
    List.mem_toFinset, himage.productIds_perm.mem_iff, htext.productIds_perm.mem_iff, or_self]

/-- The score of a product in a fusion of two covering lists is its weighted similarity. -/
theorem score_fuse_of_covers (hcatalogue : catalogue.Nodup)
    (himage : Covers catalogue imageSimilarity imageNeighbors)
    (htext : Covers catalogue textSimilarity textNeighbors) {result : HybridSearchResult ι}
    (h : result ∈ fuse imageWeight textWeight imageNeighbors textNeighbors) :
    result.score = imageWeight * imageSimilarity result.productId +
      textWeight * textSimilarity result.productId := by
  have hfused := (mem_fuse (himage.productIds_perm.nodup_iff.2 hcatalogue)
    (htext.productIds_perm.nodup_iff.2 hcatalogue)).1 h
  have hmem : result.productId ∈ catalogue :=
    (productIds_fuse_perm hcatalogue himage htext).subset (List.mem_map_of_mem h)
  rw [hfused.score_eq, himage.scoreIn_iff hmem hfused.imageScore,
    htext.scoreIn_iff hmem hfused.textScore]

end Cover

/-! ### The fused search -/

namespace HybridSearchService

variable (service : HybridSearchService ι V ε)

/-- What `output` must be to be the fusion of two lists of hits, ranked and cut to `topK`. -/
structure FusesTo (text : Text) (imageNeighbors textNeighbors : List (NearestNeighbor ι))
    (topK : ℕ) (entries output : List (HybridSearchResult ι)) : Prop where
  /-- A search by image and text whose two searches found the hits returns the output. -/
  search_eq : ∀ store image filters, strip text ≠ [] →
    service.searchByImage store image topK filters = .ok imageNeighbors →
    service.searchByText store text topK filters = .ok textNeighbors →
    service.search store (some image) (some text) (some topK) filters (some false) = .ok output
  /-- The entries are the union of the two lists, without repetitions. -/
  nodup : (entries.map HybridSearchResult.productId).Nodup
  mem_productIds : ∀ productId, productId ∈ entries.map HybridSearchResult.productId ↔
    productId ∈ imageNeighbors.map NearestNeighbor.productId ∨
      productId ∈ textNeighbors.map NearestNeighbor.productId
  /-- An entry says what the hits of its product say. -/
  mem_entries : ∀ result, result ∈ entries ↔
    IsFused service.imageWeight service.textWeight imageNeighbors textNeighbors result
  /-- The output is the first `topK` entries by score. -/
  output_eq : output = (rank HybridSearchResult.score entries).take topK
  isTopK : IsTopK HybridSearchResult.score topK entries output
  /-- The order of the hits matters only where scores are equal. -/
  sameUpToTies : ∀ imageNeighbors' textNeighbors', imageNeighbors.Perm imageNeighbors' →
    textNeighbors.Perm textNeighbors' →
      SameUpToTies HybridSearchResult.score output
        (service.finalize text (service.fused imageNeighbors' textNeighbors') topK false)
  /-- Lists that hold the whole catalogue give its exact ranking by weighted similarity. -/
  exact_of_covers : ∀ (catalogue : List ι) (imageSimilarity textSimilarity : ι → ℚ),
    catalogue.Nodup → Covers catalogue imageSimilarity imageNeighbors →
    Covers catalogue textSimilarity textNeighbors →
      let weighted := fun productId => service.imageWeight * imageSimilarity productId +
        service.textWeight * textSimilarity productId
      (∀ result ∈ output, result.score = weighted result.productId) ∧
        SameUpToTies weighted (output.map HybridSearchResult.productId)
          ((rank weighted catalogue).take topK) ∧
        ((∀ p ∈ catalogue, ∀ q ∈ catalogue, weighted p = weighted q → p = q) →
          output.map HybridSearchResult.productId = (rank weighted catalogue).take topK)

/-- The best entries of a fusion. -/
theorem isTopK_finalize_fused (text : Text)
    (imageNeighbors textNeighbors : List (NearestNeighbor ι)) (topK : ℕ) :
    IsTopK HybridSearchResult.score topK
      (fuse service.imageWeight service.textWeight imageNeighbors textNeighbors)
      (service.finalize text (service.fused imageNeighbors textNeighbors) topK false) :=
  isTopK_take_rank _ _ _

/-- **Fusing two lists of hits.**  The fusion holds every product of either list once, with the
weighted sum of its scores and zero for a list it is missing from; its best `topK` are returned,
whatever the order of the hits up to ties, and are the exact ranking where both lists hold the
whole catalogue. -/
theorem fusion_correct (text : Text) {imageNeighbors textNeighbors : List (NearestNeighbor ι)}
    (himage : (imageNeighbors.map NearestNeighbor.productId).Nodup)
    (htext : (textNeighbors.map NearestNeighbor.productId).Nodup) (topK : ℕ) :
    service.FusesTo text imageNeighbors textNeighbors topK
      (fuse service.imageWeight service.textWeight imageNeighbors textNeighbors)
      (service.finalize text (service.fused imageNeighbors textNeighbors) topK false) where
  search_eq := by
    intro store image filters hstrip hfirst hsecond
    have hquery : queryText (some text) = some text := if_neg hstrip
    unfold search
    rw [hquery]
    simp only [Option.getD_some, Bool.false_and, Bool.false_eq_true, if_false, hfirst, hsecond]
    rfl
  nodup := nodup_fuse _ _ _ _
  mem_productIds := by
    intro productId
    rw [← List.mem_toFinset, productIds_fuse, Finset.mem_union, List.mem_toFinset,
      List.mem_toFinset]
  mem_entries := fun _ => mem_fuse himage htext
  output_eq := rfl
  isTopK := service.isTopK_finalize_fused text imageNeighbors textNeighbors topK
  sameUpToTies := by
    intro imageNeighbors' textNeighbors' himagePerm htextPerm
    exact (service.isTopK_finalize_fused text _ _ topK).sameUpToTies
      (service.isTopK_finalize_fused text _ _ topK) (fuse_perm himage htext himagePerm htextPerm)
  exact_of_covers := by
    intro catalogue imageSimilarity textSimilarity hcatalogue himageCovers htextCovers weighted
    have hscore : ∀ result ∈ fuse service.imageWeight service.textWeight imageNeighbors
        textNeighbors, result.score = weighted result.productId := fun result h =>
      score_fuse_of_covers hcatalogue himageCovers htextCovers h
    have hbest := service.isTopK_finalize_fused text imageNeighbors textNeighbors topK
    have hcover : ((fuse service.imageWeight service.textWeight imageNeighbors textNeighbors).map
        HybridSearchResult.productId).Perm catalogue :=
      productIds_fuse_perm hcatalogue himageCovers htextCovers
    -- the best entries, read as products, are the best of the catalogue
    have hproducts : IsTopK weighted topK _ (_ : List ι) :=
      hbest.map fun result h => (hscore result h).symm
    have hranked := isTopK_take_rank weighted topK catalogue
    have hties := hproducts.sameUpToTies hranked hcover
    refine ⟨fun result h => hscore result (hbest.subperm.subset h), hties, fun hdistinct => ?_⟩
    exact hties.eq fun p hp q hq => hdistinct p (hcover.subset (hproducts.subperm.subset hp)) q
      (hranked.subperm.subset hq)

/-! ### Three products -/

/-- A hit among the shoes. -/
def hit (productId : ℕ) (score : ℚ) : NearestNeighbor ℕ :=
  ⟨productId, score, (TwoShoes.shoe productId).metadata⟩

/-- Two lists of two shoes that share one. -/
theorem fusion_of_three_shoes :
    TwoShoes.service.FusesTo "shoe".toList [hit 0 (9 / 10), hit 1 (1 / 2)]
      [hit 2 (4 / 5), hit 1 (1 / 2)] 2
      (fuse (7 / 10) (3 / 10) [hit 0 (9 / 10), hit 1 (1 / 2)] [hit 2 (4 / 5), hit 1 (1 / 2)])
      (TwoShoes.service.finalize "shoe".toList
        (TwoShoes.service.fused [hit 0 (9 / 10), hit 1 (1 / 2)] [hit 2 (4 / 5), hit 1 (1 / 2)])
        2 false) :=
  fusion_correct TwoShoes.service _ (by decide) (by decide) 2

end HybridSearchService

end ProductIntelligence

import ProductIntelligence.Recommendation.Diversity
import ProductIntelligence.Search.Reranking

/-!
# What is recommended

A product can be recommended for as soon as it is stored where its neighbours are looked for: in
both collections for similar products, among the texts for related ones.  Then the engine fetches
other stored products, scores each of them and recommends some of the best.

## Main definitions

* `Anchored` — the product is stored where its neighbours are looked for.
* `IsPool` — the products that are fetched and scored.
* `Recommends` — what is recommended of a pool.

## Main results

* `HybridSearchService.searchByProductId_sound`, `nodup_pooled` — which products are scored.
* `RecommendationEngineService.recommend_sound` — **for what a recommendation exists, and what it
  is**.

## References

`backend/app/services/recommendation/recommendation_engine_service.py`.
-/

namespace ProductIntelligence

open Ranking

variable {ι V ε : Type}

/-! ### Explanations -/

/-- The sentence of a candidate that has nothing particular to be said for it. -/
def fallbackExplanation : Text := "Related based on overall similarity.".toList

theorem buildExplanation_of_clauses_eq_nil {candidate : RecommendationCandidate ι}
    (h : clauses candidate = []) : buildExplanation candidate = fallbackExplanation := by
  unfold buildExplanation
  rw [h]
  rfl

/-- A clause begins with one of three letters. -/
theorem head?_of_mem_clauses {candidate : RecommendationCandidate ι} {clause : Text}
    (h : clause ∈ clauses candidate) : clause.head? ∈ [some 's', some 'm', some 'h'] := by
  have hone {p : Prop} [Decidable p] {words : Text} (hmem : clause ∈ if p then [words] else []) :
      clause = words := by
    split at hmem
    · exact List.mem_singleton.1 hmem
    · cases hmem
  have hlong {opening rest : Text} (hne : opening ≠ []) :
      (opening ++ rest ++ [')']).head? = opening.head? := by
    rw [List.append_assoc, List.head?_append_of_ne_nil _ hne]
  unfold clauses at h
  simp only [List.mem_append] at h
  rcases h with ((((h | h) | h) | h) | h) | h <;> rw [hone h]
  · decide
  · decide
  · decide
  · rw [hlong (by decide)]
    decide
  · rw [hlong (by decide)]
    decide
  · decide

/-- **The explanation is honest**: it falls back exactly where no clause holds. -/
theorem buildExplanation_eq_fallback_iff {candidate : RecommendationCandidate ι} :
    buildExplanation candidate = fallbackExplanation ↔ clauses candidate = [] := by
  refine ⟨fun h => ?_, buildExplanation_of_clauses_eq_nil⟩
  cases hclauses : clauses candidate with
  | nil => rfl
  | cons clause rest =>
    have hhead := head?_of_mem_clauses (hclauses ▸ List.mem_cons_self : clause ∈ clauses candidate)
    obtain ⟨c, clause, rfl⟩ : ∃ c clause', clause = c :: clause' := by
      cases clause with
      | nil => simp at hhead
      | cons c clause => exact ⟨c, clause, rfl⟩
    -- the sentence begins with the first letter in upper case
    have hsentence : (buildExplanation candidate).head? = some c.toUpper := by
      unfold buildExplanation
      rw [hclauses]
      cases rest <;> rfl
    have hfallback : fallbackExplanation.head? = some 'R' := by decide
    rw [h, hfallback] at hsentence
    simp only [List.head?_cons, List.mem_cons, Option.some.injEq, List.not_mem_nil,
      or_false] at hhead
    rcases hhead with rfl | rfl | rfl <;> exact absurd hsentence (by decide)

/-! ### The pool -/

variable [DecidableEq ι] (store : VectorStore ι V)

/-- The product is stored where its neighbours are looked for. -/
def Anchored (productId : ι) (recommendationType : RecommendationType) : Prop :=
  (recommendationType = .similar → (store.image.retrieve productId).isSome) ∧
    (store.text.retrieve productId).isSome

/-- The products among which neighbours are looked for. -/
def neighbourhood (recommendationType : RecommendationType) : Finset ι :=
  HybridSearchService.reach store (recommendationType = .similar) true none

namespace HybridSearchService

variable (service : HybridSearchService ι V ε) {store}

/-- Hits of a collection are products of it. -/
theorem mem_matching_of_mem_nearest {collection : Collection ι V} {query : V} {topK : ℕ}
    {filters : Option ProductFilters} {neighbor : NearestNeighbor ι}
    (h : neighbor ∈ service.index.nearest collection query topK filters) :
    neighbor.productId ∈ collection.matching filters := by
  refine found_subset service.index collection query filters topK ?_
  rw [ExactIndex.found, List.mem_toFinset]
  exact List.mem_map_of_mem h

/-- A fused result is a hit of either collection. -/
theorem mem_matching_of_mem_fused {imageVector textVector : V} {topK : ℕ}
    {filters : Option ProductFilters} {result : HybridSearchResult ι}
    (h : result ∈ service.fused (service.index.nearest store.image imageVector topK filters)
      (service.index.nearest store.text textVector topK filters)) :
    result.productId ∈ store.image.matching filters ∪ store.text.matching filters := by
  have hid := List.mem_toFinset.2 (List.mem_map_of_mem (f := HybridSearchResult.productId) h)
  rw [productIds_fused] at hid
  exact Finset.union_subset_union (found_subset _ _ _ _ topK) (found_subset _ _ _ _ topK) hid

/-- **A search by product** returns other products it can reach, none of them twice. -/
theorem searchByProductId_sound {productId : ι} {topK : Option ℕ}
    {filters : Option ProductFilters} {modality : Option SearchModality}
    {results : List (HybridSearchResult ι)}
    (h : service.searchByProductId store productId topK filters modality = .ok results) :
    (results.map HybridSearchResult.productId).Nodup ∧
      ∀ result ∈ results, result.productId ≠ productId ∧
        result.productId ∈ reach store (modality ≠ some .text) (modality ≠ some .image) filters := by
  -- leaving out the product and cutting keeps both properties
  have hothers {found : List (HybridSearchResult ι)} {reached : Finset ι} {k : ℕ}
      (hnodup : (found.map HybridSearchResult.productId).Nodup)
      (hreached : ∀ result ∈ found, result.productId ∈ reached) :
      (((found.filter fun result => result.productId ≠ productId).take k).map
          HybridSearchResult.productId).Nodup ∧
        ∀ result ∈ (found.filter fun result => result.productId ≠ productId).take k,
          result.productId ≠ productId ∧ result.productId ∈ reached := by
    refine ⟨hnodup.sublist (((List.take_sublist _ _).trans List.filter_sublist).map _), ?_⟩
    intro result hresult
    obtain ⟨hmem, hne⟩ := List.mem_filter.1 (List.mem_of_mem_take hresult)
    exact ⟨of_decide_eq_true hne, hreached result hmem⟩
  have hsingle {collection : Collection ι V} {query : V} {k : ℕ} (modality : SearchModality) :
      ((((service.index.nearest collection query k filters).map
          (singleModalityResult modality)).map HybridSearchResult.productId).Nodup) ∧
        ∀ result ∈ (service.index.nearest collection query k filters).map
          (singleModalityResult modality), result.productId ∈ collection.matching filters := by
    refine ⟨by rw [productIds_singleModality]; exact nodup_nearest _ _ _ _ _, ?_⟩
    intro result hresult
    obtain ⟨neighbor, hneighbor, rfl⟩ := List.mem_map.1 hresult
    exact service.mem_matching_of_mem_nearest hneighbor
  unfold searchByProductId at h
  rcases modality with _ | _ | _
  · obtain ⟨imagePoint, -, h⟩ := Except.bind_eq_ok.1 h
    obtain ⟨textPoint, -, h⟩ := Except.bind_eq_ok.1 h
    cases h
    have hreach : reach store ((none : Option SearchModality) ≠ some .text)
        ((none : Option SearchModality) ≠ some .image) filters =
        store.image.matching filters ∪ store.text.matching filters := by simp [reach_both]
    rw [hreach]
    exact hothers (service.nodup_fused _ _) fun _ => service.mem_matching_of_mem_fused
  · obtain ⟨point, -, h⟩ := Except.bind_eq_ok.1 h
    cases h
    have hreach : reach store (some SearchModality.image ≠ some .text)
        (some SearchModality.image ≠ some .image) filters = store.image.matching filters := by
      simp [reach_image]
    rw [hreach]
    exact hothers (hsingle .image).1 (hsingle .image).2
  · obtain ⟨point, -, h⟩ := Except.bind_eq_ok.1 h
    cases h
    have hreach : reach store (some SearchModality.text ≠ some .text)
        (some SearchModality.text ≠ some .image) filters = store.text.matching filters := by
      simp [reach_text]
    rw [hreach]
    exact hothers (hsingle .text).1 (hsingle .text).2

/-- The search that a strategy makes fails for a product that is not stored where it looks. -/
theorem searchByProductId_of_not_anchored {productId : ι}
    {recommendationType : RecommendationType} {topK : Option ℕ}
    (h : ¬ Anchored store productId recommendationType) :
    service.searchByProductId store productId topK none
      (if recommendationType = .similar then none else some .text) =
        .error (.notIndexed productId) := by
  unfold Anchored at h
  unfold searchByProductId requirePoint
  by_cases hsimilar : recommendationType = .similar
  · rw [if_pos hsimilar]
    cases himage : store.image.retrieve productId with
    | none => rfl
    | some imagePoint =>
      cases htext : store.text.retrieve productId with
      | none => rfl
      | some textPoint => simp [himage, htext] at h
  · rw [if_neg hsimilar]
    cases htext : store.text.retrieve productId with
    | none => rfl
    | some textPoint => simp [htext, hsimilar] at h

theorem searchByProductId_of_anchored {productId : ι}
    {recommendationType : RecommendationType} {topK : Option ℕ}
    (h : Anchored store productId recommendationType) :
    ∃ results, service.searchByProductId store productId topK none
      (if recommendationType = .similar then none else some .text) = .ok results := by
  obtain ⟨himage, htext⟩ := h
  obtain ⟨textPoint, htext⟩ := Option.isSome_iff_exists.1 htext
  unfold searchByProductId requirePoint
  by_cases hsimilar : recommendationType = .similar
  · obtain ⟨imagePoint, himage⟩ := Option.isSome_iff_exists.1 (himage hsimilar)
    rw [if_pos hsimilar, himage, htext]
    exact ⟨_, rfl⟩
  · rw [if_neg hsimilar, htext]
    exact ⟨_, rfl⟩

end HybridSearchService

/-! ### Reranked candidates -/

namespace RerankerService

variable {α : Type} (reranker : RerankerService ι α)

theorem map_productId_report (pool : List (HybridSearchResult ι))
    (best : List (HybridSearchResult ι × ℚ)) :
    (reranker.report pool best).map RerankedCandidate.productId =
      best.map fun entry => entry.1.productId := by
  have hfst : (best.zipIdx 1).map Prod.fst = best := List.zipIdx_map_fst 1 best
  conv_rhs => rw [← hfst]
  rw [report, List.map_map, List.map_map]
  rfl

/-- Reranking repeats no product. -/
theorem nodup_rerank {query : Text} {candidates : List (HybridSearchResult ι)} {topK : Option ℕ}
    (h : (candidates.map HybridSearchResult.productId).Nodup) :
    ((reranker.rerank query candidates topK).candidates.map
      RerankedCandidate.productId).Nodup := by
  rw [candidates_rerank, map_productId_report]
  set pool := candidates.take reranker.topN
  have hpool : (pool.map HybridSearchResult.productId).Nodup :=
    h.sublist ((List.take_sublist _ _).map _)
  have hperm : ((reranker.scored query pool).map fun entry => entry.1.productId).Perm
      (pool.map HybridSearchResult.productId) := by
    have hpaired := (rank_perm Prod.snd (reranker.paired query pool)).map
      fun entry => entry.1.productId
    have hfst : (reranker.paired query pool).map (fun entry => entry.1.productId) =
        pool.map HybridSearchResult.productId := by
      conv_rhs => rw [← reranker.map_fst_paired query pool]
      rw [List.map_map]
      rfl
    rwa [hfst] at hpaired
  exact (hperm.nodup_iff.2 hpool).sublist ((List.take_sublist _ _).map _)

end RerankerService

/-- Finding the survivors again changes no id. -/
theorem map_productId_rescore {candidates : List (HybridSearchResult ι)}
    {reranked : List (RerankedCandidate ι)}
    {change : HybridSearchResult ι → ℚ → HybridSearchResult ι}
    (hchange : ∀ candidate score, (change candidate score).productId = candidate.productId) :
    ((rescore candidates reranked change).map HybridSearchResult.productId).Sublist
      (reranked.map RerankedCandidate.productId) := by
  induction reranked with
  | nil => exact List.Sublist.refl _
  | cons c reranked ih =>
    unfold rescore at ih ⊢
    cases hfound : byId candidates c.productId with
    | none =>
      rw [List.filterMap_cons_none (by rw [hfound]; rfl)]
      exact ih.cons _
    | some candidate =>
      have hid : candidate.productId = c.productId := by
        simpa using List.find?_some hfound
      rw [List.filterMap_cons_some (by rw [hfound]; rfl), List.map_cons, List.map_cons, hchange,
        hid]
      exact ih.cons_cons _

/-- What is left of reranked candidates are candidates, none of them twice. -/
theorem nodup_rescore_rerank (reranker : RerankerService ι) {query : Text} {topK : Option ℕ}
    {candidates : List (HybridSearchResult ι)}
    {change : HybridSearchResult ι → ℚ → HybridSearchResult ι}
    (hchange : ∀ candidate score, (change candidate score).productId = candidate.productId)
    (h : (candidates.map HybridSearchResult.productId).Nodup) :
    ((rescore candidates (reranker.rerank query candidates topK).candidates change).map
        HybridSearchResult.productId).Nodup ∧
      ∀ result ∈ rescore candidates (reranker.rerank query candidates topK).candidates change,
        result.productId ∈ candidates.map HybridSearchResult.productId := by
  have hids : ((rescore candidates (reranker.rerank query candidates topK).candidates change).map
      HybridSearchResult.productId).Sublist ((reranker.rerank query candidates
        topK).candidates.map RerankedCandidate.productId) := map_productId_rescore hchange
  refine ⟨(reranker.nodup_rerank h).sublist hids, fun result hresult => ?_⟩
  obtain ⟨c, hc, hid⟩ := List.mem_map.1 (hids.subset (List.mem_map_of_mem hresult))
  rw [← hid]
  exact reranker.productId_mem_of_mem_rerank hc

/-- Reranked or not, what is left of candidates are candidates, none of them twice. -/
theorem nodup_rescore_if (reranker : RerankerService ι) {active : Bool} {query : Text}
    {topK : Option ℕ} {candidates : List (HybridSearchResult ι)}
    {change : HybridSearchResult ι → ℚ → HybridSearchResult ι}
    (hchange : ∀ candidate score, (change candidate score).productId = candidate.productId)
    (h : (candidates.map HybridSearchResult.productId).Nodup) :
    let pooled := if active then
      rescore candidates (reranker.rerank query candidates topK).candidates change else candidates
    (pooled.map HybridSearchResult.productId).Nodup ∧
      ∀ result ∈ pooled, result.productId ∈ candidates.map HybridSearchResult.productId := by
  intro pooled
  cases active with
  | false => exact ⟨h, fun result hresult => List.mem_map_of_mem hresult⟩
  | true => exact nodup_rescore_rerank reranker hchange h

namespace RecommendationEngineService

variable (service : RecommendationEngineService ι V ε)

/-- Reranked or not, the scored candidates are retrieved ones, none of them twice. -/
theorem nodup_pooled {target : Payload} {candidates : List (HybridSearchResult ι)}
    {rerankActive : Bool} (h : (candidates.map HybridSearchResult.productId).Nodup) :
    ((service.pooled target candidates rerankActive).map HybridSearchResult.productId).Nodup ∧
      ∀ result ∈ service.pooled target candidates rerankActive,
        result.productId ∈ candidates.map HybridSearchResult.productId :=
  nodup_rescore_if service.reranker (fun _ _ => rfl) h

/-! ### The recommendations -/

/-- The products that are scored for a target: others of the neighbourhood, none of them twice, as
many as are fetched and reranked, each as it is scored, with valid scores. -/
structure IsPool (store : VectorStore ι V) (productId : ι)
    (recommendationType : RecommendationType) (topK : ℕ) (rerankActive : Bool)
    (pool : List (RecommendationCandidate ι)) : Prop where
  nodup : (pool.map RecommendationCandidate.productId).Nodup
  others : ∀ candidate ∈ pool, candidate.productId ≠ productId ∧
    candidate.productId ∈ neighbourhood store recommendationType
  length_eq : pool.length =
    let fetched := min (service.overfetchTopK topK rerankActive)
      ((neighbourhood store recommendationType).erase productId).card
    if rerankActive then min service.reranker.topN fetched else fetched
  scored : ∀ candidate ∈ pool, ∃ target result,
    candidate = service.recommendationScorer.score target result
  valid : ∀ candidate ∈ pool, InUnit candidate.similarityScore ∧ InUnit candidate.attributeScore ∧
    InUnit candidate.tagScore ∧ InUnit candidate.qualityScore ∧ InUnit candidate.finalScore

/-- What is recommended of a pool: some of its candidates, as many as are asked for if there are
as many, the best one first, and the best ones in order unless they are spread over brands.  Each
is explained, and the explanation says when there is nothing particular to say. -/
structure Recommends (topK : ℕ) (pool recommended : List (RecommendationCandidate ι)) : Prop where
  exists_taken : ∃ taken : List (RecommendationCandidate ι), taken.Subperm pool ∧
    recommended = taken.map (fun candidate =>
      { candidate with explanation := buildExplanation candidate }) ∧
    (service.diversityEnabled = false →
      IsTopK RecommendationCandidate.finalScore topK pool taken)
  length_eq : recommended.length = min topK pool.length
  best_first : ∀ best ∈ recommended.head?, ∀ candidate ∈ pool,
    candidate.finalScore ≤ best.finalScore
  honest : ∀ candidate ∈ recommended,
    candidate.explanation = fallbackExplanation ↔ clauses candidate = []

/-- The scored candidates, best first. -/
def ranked (target : Payload) (candidates : List (HybridSearchResult ι)) :
    List (ScoredPair ι) :=
  rank (fun pair : ScoredPair ι => pair.2.finalScore)
    (candidates.map fun candidate =>
      (candidate, service.recommendationScorer.score target candidate))

omit [DecidableEq ι] in
/-- Spread over brands or not, the best candidate is taken first. -/
theorem head?_select (target : Payload) (candidates : List (HybridSearchResult ι)) {topK : ℕ}
    (htopK : 0 < topK) :
    (service.select target candidates topK).head? = (service.ranked target candidates).head? := by
  unfold select
  dsimp only
  split
  · exact RoundRobin.head?_loop_groupBy brandGroup _ _ htopK
  · rw [List.head?_take, if_neg htopK.ne']
    rfl

omit [DecidableEq ι] in
/-- What is taken are distinct ones of the scored candidates. -/
theorem select_subperm (target : Payload) (candidates : List (HybridSearchResult ι)) (topK : ℕ) :
    (service.select target candidates topK).Subperm (service.ranked target candidates) := by
  unfold select
  dsimp only
  split
  · exact RoundRobin.loop_groupBy_subperm brandGroup _ _
  · exact (List.take_sublist _ _).subperm

omit [DecidableEq ι] in
/-- The scores of the candidates. -/
theorem map_snd_ranked_perm (target : Payload) (candidates : List (HybridSearchResult ι)) :
    ((service.ranked target candidates).map Prod.snd).Perm
      (candidates.map (service.recommendationScorer.score target)) := by
  have hperm := (rank_perm (fun pair : ScoredPair ι => pair.2.finalScore)
    (candidates.map fun candidate =>
      (candidate, service.recommendationScorer.score target candidate))).map Prod.snd
  rwa [List.map_map] at hperm

omit [DecidableEq ι] in
/-- **What is taken and explained** is what is recommended of the scored candidates. -/
theorem recommends_select (target : Payload) (candidates : List (HybridSearchResult ι))
    (topK : ℕ) :
    service.Recommends topK (candidates.map (service.recommendationScorer.score target))
      ((service.select target candidates topK).map fun pair =>
        { pair.2 with explanation := buildExplanation pair.2 }) where
  exists_taken := by
    refine ⟨(service.select target candidates topK).map Prod.snd, ?_, ?_, fun hdiversity => ?_⟩
    · obtain ⟨taken, hperm, hsublist⟩ := service.select_subperm target candidates topK
      have hsnd : ((service.select target candidates topK).map Prod.snd).Subperm
          ((service.ranked target candidates).map Prod.snd) :=
        ⟨taken.map Prod.snd, hperm.map Prod.snd, hsublist.map Prod.snd⟩
      exact hsnd.trans (service.map_snd_ranked_perm target candidates).subperm
    · rw [List.map_map]
      rfl
    · -- ranking pairs by the score of the second is ranking the seconds
      have htaken : service.select target candidates topK =
          (service.ranked target candidates).take topK := by
        unfold select
        rw [hdiversity]
        rfl
      have hbest := isTopK_take_rank (fun pair : ScoredPair ι => pair.2.finalScore) topK
        (candidates.map fun candidate =>
          (candidate, service.recommendationScorer.score target candidate))
      have hsnd : IsTopK RecommendationCandidate.finalScore topK (List.map Prod.snd _)
          (List.map Prod.snd _) := hbest.map fun _ _ => rfl
      rw [List.map_map] at hsnd
      rw [htaken]
      exact hsnd
  length_eq := by
    rw [List.length_map, List.length_map, service.length_select]
  best_first := by
    intro best hbest candidate hcandidate
    rw [List.head?_map] at hbest
    obtain ⟨pair, hpair, rfl⟩ := Option.map_eq_some_iff.1 hbest
    have htopK : 0 < topK := by
      have hlength := service.length_select target candidates topK
      cases hselect : service.select target candidates topK with
      | nil =>
        rw [hselect] at hpair
        cases hpair
      | cons p rest =>
        rw [hselect, List.length_cons] at hlength
        omega
    rw [service.head?_select target candidates htopK, List.head?_eq_some_iff] at hpair
    obtain ⟨rest, hrest⟩ := hpair
    have hmem := (service.map_snd_ranked_perm target candidates).mem_iff.2 hcandidate
    have hsorted := rank_sorted (fun pair : ScoredPair ι => pair.2.finalScore)
      (candidates.map fun candidate =>
        (candidate, service.recommendationScorer.score target candidate))
    change (service.ranked target candidates).Pairwise _ at hsorted
    rw [hrest] at hmem hsorted
    obtain ⟨other, hother, rfl⟩ := List.mem_map.1 hmem
    rcases List.mem_cons.1 hother with rfl | hother
    · exact le_refl _
    · exact (List.pairwise_cons.1 hsorted).1 other hother
  honest := by
    intro candidate hcandidate
    obtain ⟨pair, -, rfl⟩ := List.mem_map.1 hcandidate
    exact buildExplanation_eq_fallback_iff

/-! ### The whole pipeline -/

/-- A product that is stored in either collection has a stored payload, and no other has. -/
theorem targetMetadata_cases (productId : ι) :
    (∃ target, targetMetadata (ε := ε) store productId = .ok target ∧
        ¬ ((store.text.retrieve productId).isNone ∧ (store.image.retrieve productId).isNone)) ∨
      (targetMetadata (ε := ε) store productId = .error (.notFound productId) ∧
        (store.text.retrieve productId).isNone ∧ (store.image.retrieve productId).isNone) := by
  unfold targetMetadata
  cases store.text.retrieve productId with
  | some point => exact .inl ⟨point.metadata, rfl, by simp⟩
  | none =>
    cases store.image.retrieve productId with
    | some point => exact .inl ⟨point.metadata, rfl, by simp⟩
    | none => exact .inr ⟨rfl, rfl, rfl⟩

/-- The search and what is made of it, for a product with a stored payload. -/
theorem recommend_of_targetMetadata {productId : ι} {recommendationType : RecommendationType}
    {topK : Option ℕ} {rerankingEnabled : Option Bool} {target : Payload}
    (h : targetMetadata (ε := ε) store productId = .ok target) :
    service.recommend store productId recommendationType topK rerankingEnabled =
      (service.hybridSearch.searchByProductId store productId
        (some (service.overfetchTopK (topK.getD service.topK)
          (rerankingEnabled.getD service.rerankingEnabled))) none
        (if recommendationType = .similar then none else some .text)).map fun candidates =>
          { recommendations := (service.select target
              (service.pooled target candidates (rerankingEnabled.getD service.rerankingEnabled))
              (topK.getD service.topK)).map fun pair =>
                { pair.2 with explanation := buildExplanation pair.2 }
            recommendationType := recommendationType } := by
  unfold recommend
  rw [h]
  show Except.bind _ _ = _
  dsimp only [Except.bind]
  cases service.hybridSearch.searchByProductId store productId
    (some (service.overfetchTopK (topK.getD service.topK)
      (rerankingEnabled.getD service.rerankingEnabled))) none
    (if recommendationType = .similar then none else some .text) <;> rfl

/-- The candidates of a strategy, scored, are a pool. -/
theorem isPool_pooled {productId : ι} {recommendationType : RecommendationType} {topK : ℕ}
    {rerankActive : Bool} {target : Payload} {candidates : List (HybridSearchResult ι)}
    (h : service.hybridSearch.searchByProductId store productId
      (some (service.overfetchTopK topK rerankActive)) none
      (if recommendationType = .similar then none else some .text) = .ok candidates) :
    service.IsPool store productId recommendationType topK rerankActive
      ((service.pooled target candidates rerankActive).map
        (service.recommendationScorer.score target)) := by
  obtain ⟨hnodup, hothers⟩ := service.hybridSearch.searchByProductId_sound h
  have hlength := service.hybridSearch.length_searchByProductId store h
  obtain ⟨hnodup', hmem⟩ := @nodup_pooled _ _ _ _ service target _ rerankActive hnodup
  have hreach : HybridSearchService.reach store
      ((if recommendationType = .similar then none else some SearchModality.text) ≠ some .text)
      ((if recommendationType = .similar then none else some SearchModality.text) ≠ some .image)
      none = neighbourhood store recommendationType := by
    unfold neighbourhood
    by_cases hsimilar : recommendationType = .similar <;> simp [hsimilar]
  simp only [hreach] at hothers hlength
  constructor
  · rwa [List.map_map]
  · intro candidate hcandidate
    obtain ⟨result, hresult, rfl⟩ := List.mem_map.1 hcandidate
    obtain ⟨origin, horigin, hid⟩ := List.mem_map.1 (hmem result hresult)
    show result.productId ≠ productId ∧ result.productId ∈ _
    rw [← hid]
    exact hothers origin horigin
  · rw [List.length_map, ← Option.getD_some (a := service.overfetchTopK topK rerankActive),
      ← hlength]
    cases rerankActive with
    | false => rfl
    | true => exact service.length_pooled target candidates
  · intro candidate hcandidate
    obtain ⟨result, -, rfl⟩ := List.mem_map.1 hcandidate
    exact ⟨target, result, rfl⟩
  · intro candidate hcandidate
    obtain ⟨result, -, rfl⟩ := List.mem_map.1 hcandidate
    exact inUnit_score _ target result

/-- An anchored product gets the recommendations of a pool. -/
theorem exists_recommends {productId : ι} {recommendationType : RecommendationType}
    (hanchored : Anchored store productId recommendationType) (topK : Option ℕ)
    (rerankingEnabled : Option Bool) :
    ∃ result pool,
      service.recommend store productId recommendationType topK rerankingEnabled = .ok result ∧
        result.recommendationType = recommendationType ∧
        service.IsPool store productId recommendationType (topK.getD service.topK)
          (rerankingEnabled.getD service.rerankingEnabled) pool ∧
        service.Recommends (topK.getD service.topK) pool result.recommendations := by
  have hfound : ∃ candidates, service.hybridSearch.searchByProductId store productId
      (some (service.overfetchTopK (topK.getD service.topK)
        (rerankingEnabled.getD service.rerankingEnabled))) none
      (if recommendationType = .similar then none else some .text) = .ok candidates :=
    service.hybridSearch.searchByProductId_of_anchored hanchored
  obtain ⟨candidates, hsearch⟩ := hfound
  obtain ⟨point, htext⟩ := Option.isSome_iff_exists.1 hanchored.2
  have htarget : targetMetadata (ε := ε) store productId = .ok point.metadata := by
    unfold targetMetadata
    rw [htext]
    rfl
  rw [service.recommend_of_targetMetadata store htarget, hsearch]
  exact ⟨_, _, rfl, rfl, service.isPool_pooled store hsearch,
    service.recommends_select point.metadata _ _⟩

end RecommendationEngineService

end ProductIntelligence

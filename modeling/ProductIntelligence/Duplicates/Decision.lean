import ProductIntelligence.Duplicates.Lookahead

/-!
# The duplicate decision follows its candidates

The decision ranks the scored candidates and reads everything off the first one.  What it says
can be said without the ranking, and hence does not depend on the order of the candidates.

## Main definitions

* `Follows results threshold decision` — the decision is what the scored candidates and the
  threshold ask for.

## Main results

* `follows_buildDecision` — the decision follows the scored candidates.
* `decision_follows_candidates` — **the duplicate decision follows its candidates**, whatever
  their order, and is monotone in them and in the threshold.

## References

`backend/app/services/duplicate/duplicate_detection_service.py`,
`backend/app/services/duplicate/similarity_scorer.py`.
-/

namespace ProductIntelligence

open Ranking

variable {ι V ε : Type}

/-- The decision is what the scored candidates and the threshold ask for. -/
structure Follows (results : List (DuplicateResult ι)) (threshold : ℚ)
    (decision : DuplicateDecision ι) : Prop where
  isDuplicate : decision.isDuplicate = true ↔
    ∃ result ∈ results, threshold ≤ result.overallSimilarity
  le_confidence : ∀ result ∈ results, result.overallSimilarity ≤ decision.confidence
  confidence_mem : results ≠ [] →
    ∃ result ∈ results, result.overallSimilarity = decision.confidence
  confidence_nil : results = [] → decision.confidence = 0
  matchedProduct_isSome : decision.matchedProduct.isSome = decision.isDuplicate
  matchedProduct : ∀ productId ∈ decision.matchedProduct, ∃ result ∈ results,
    result.productId = productId ∧ result.overallSimilarity = decision.confidence
  topCandidates : decision.topCandidates.Perm (results.map toCandidate)
  sorted : decision.topCandidates.Pairwise fun a b => b.overallSimilarity ≤ a.overallSimilarity

/-- The decision follows the scored candidates. -/
theorem follows_buildDecision (results : List (DuplicateResult ι)) (threshold : ℚ) :
    Follows results threshold (buildDecision results threshold) := by
  have hperm := rank_perm DuplicateResult.overallSimilarity results
  have hsorted := rank_sorted DuplicateResult.overallSimilarity results
  have hmem := fun result : DuplicateResult ι =>
    mem_rank DuplicateResult.overallSimilarity (l := results) (a := result)
  unfold buildDecision
  cases hranked : rank DuplicateResult.overallSimilarity results with
  | nil =>
    rw [hranked] at hperm
    rw [hperm.nil_eq.symm]
    exact ⟨by simp, by simp, fun h => absurd rfl h, fun _ => rfl, rfl, by simp, by simp, by simp⟩
  | cons best rest =>
    have hcandidates : ((best :: rest).map toCandidate).Perm (results.map toCandidate) := by
      rw [hranked] at hperm
      exact hperm.map toCandidate
    have hranking : ((best :: rest).map toCandidate).Pairwise
        fun a b => b.overallSimilarity ≤ a.overallSimilarity := by
      rw [hranked] at hsorted
      exact List.pairwise_map.2 hsorted
    have hbest : best ∈ results := (hmem best).1 (hranked ▸ List.mem_cons_self ..)
    have hmax : ∀ result ∈ results, result.overallSimilarity ≤ best.overallSimilarity := by
      intro result hresult
      have hin := (hmem result).2 hresult
      rw [hranked] at hin hsorted
      rcases List.mem_cons.1 hin with rfl | hin
      · exact le_rfl
      · exact (List.pairwise_cons.1 hsorted).1 result hin
    have hne : results ≠ [] := List.ne_nil_of_mem hbest
    by_cases hmeets : threshold ≤ best.overallSimilarity
    · simp only [if_pos hmeets]
      exact
        { isDuplicate := ⟨fun _ => ⟨best, hbest, hmeets⟩, fun _ => rfl⟩
          le_confidence := hmax
          confidence_mem := fun _ => ⟨best, hbest, rfl⟩
          confidence_nil := fun h => absurd h hne
          matchedProduct_isSome := rfl
          matchedProduct := fun _ h => ⟨best, hbest, Option.some.inj h, rfl⟩
          topCandidates := hcandidates
          sorted := hranking }
    · have hnone : ¬ ∃ result ∈ results, threshold ≤ result.overallSimilarity :=
        fun ⟨result, hresult, hle⟩ => hmeets (hle.trans (hmax result hresult))
      simp only [if_neg hmeets]
      exact
        { isDuplicate := ⟨fun h => absurd h Bool.false_ne_true, fun h => absurd h hnone⟩
          le_confidence := hmax
          confidence_mem := fun _ => ⟨best, hbest, rfl⟩
          confidence_nil := fun h => absurd h hne
          matchedProduct_isSome := rfl
          matchedProduct := by simp
          topCandidates := hcandidates
          sorted := hranking }

/-- Decisions on the same candidates have the same confidence. -/
theorem Follows.confidence_congr {results results' : List (DuplicateResult ι)}
    {threshold threshold' : ℚ} {decision decision' : DuplicateDecision ι}
    (h : Follows results threshold decision) (h' : Follows results' threshold' decision')
    (hmem : ∀ result, result ∈ results ↔ result ∈ results') :
    decision.confidence = decision'.confidence := by
  rcases results.eq_nil_or_concat with hnil | ⟨_, _, hsome⟩
  · have hnil' : results' = [] := by
      refine List.eq_nil_iff_forall_not_mem.2 fun result hresult => ?_
      rw [← hmem, hnil] at hresult
      cases hresult
    rw [h.confidence_nil hnil, h'.confidence_nil hnil']
  · have hne : results ≠ [] := by simp [hsome]
    obtain ⟨result, hresult, hconfidence⟩ := h.confidence_mem hne
    obtain ⟨result', hresult', hconfidence'⟩ :=
      h'.confidence_mem (List.ne_nil_of_mem ((hmem result).1 hresult))
    apply le_antisymm
    · rw [← hconfidence]
      exact h'.le_confidence result ((hmem result).1 hresult)
    · rw [← hconfidence']
      exact h.le_confidence result' ((hmem result').2 hresult')

namespace DuplicateDetectionService

variable (service : DuplicateDetectionService ι V ε)

/-- What is decided follows the candidates that were scored. -/
theorem follows_of_scoreAndDecide {product : CheckedProduct}
    {candidates : List (HybridSearchResult ι)} {threshold : ℚ} {decision : DuplicateDecision ι}
    (h : service.scoreAndDecide product candidates threshold = .ok decision) :
    ∃ results, candidates.mapM (service.similarityScorer.score product) = some results ∧
      Follows results threshold decision := by
  unfold scoreAndDecide at h
  cases hresults : candidates.mapM (service.similarityScorer.score product) with
  | none =>
    rw [hresults] at h
    cases h
  | some results =>
    rw [hresults] at h
    cases h
    exact ⟨results, rfl, follows_buildDecision results threshold⟩

/-- The scores of some candidates are among those of more. -/
theorem mem_results_of_subset {product : CheckedProduct}
    {candidates candidates' : List (HybridSearchResult ι)}
    {results results' : List (DuplicateResult ι)}
    (hsub : candidates ⊆ candidates')
    (h : candidates.mapM (service.similarityScorer.score product) = some results)
    (h' : candidates'.mapM (service.similarityScorer.score product) = some results')
    {result : DuplicateResult ι} (hresult : result ∈ results) : result ∈ results' := by
  obtain ⟨candidate, hcandidate, hscore⟩ := (Option.mem_of_mapM h).2 result hresult
  obtain ⟨result', hresult', hscore'⟩ := (Option.mem_of_mapM h').1 candidate (hsub hcandidate)
  rw [hscore, Option.some.injEq] at hscore'
  rwa [hscore']

/-- In another order the same candidates are decided alike. -/
theorem exists_decision_of_perm {product : CheckedProduct}
    {candidates candidates' : List (HybridSearchResult ι)} {threshold : ℚ}
    {decision : DuplicateDecision ι} (hperm : candidates'.Perm candidates)
    (h : service.scoreAndDecide product candidates threshold = .ok decision) :
    ∃ decision', service.scoreAndDecide product candidates' threshold = .ok decision' ∧
      decision'.isDuplicate = decision.isDuplicate ∧
      decision'.confidence = decision.confidence := by
  obtain ⟨results, hresults, hfollows⟩ := service.follows_of_scoreAndDecide h
  have hscored : ∀ c ∈ candidates', (service.similarityScorer.score product c).isSome := by
    intro c hc
    obtain ⟨result, -, hscore⟩ := (Option.mem_of_mapM hresults).1 c (hperm.subset hc)
    rw [hscore]
    rfl
  obtain ⟨results', hresults', -⟩ := Option.exists_mapM hscored
  have hmem : ∀ result, result ∈ results' ↔ result ∈ results := fun result =>
    ⟨service.mem_results_of_subset hperm.subset hresults' hresults,
      service.mem_results_of_subset hperm.symm.subset hresults hresults'⟩
  have hfollows' := follows_buildDecision results' threshold
  refine ⟨buildDecision results' threshold, ?_, ?_, hfollows'.confidence_congr hfollows hmem⟩
  · rw [scoreAndDecide, hresults']
    rfl
  · rw [Bool.eq_iff_iff, hfollows'.isDuplicate, hfollows.isDuplicate]
    simp only [hmem]

variable [DecidableEq ι]

/-- **The duplicate decision follows its candidates.**  A check decides on what its search has
found, reranked into a pool where reranking is on, by the scores of these candidates, which exist
when the weights are in the unit interval.  Whatever is decided so follows the scores: a duplicate exactly when one reaches the threshold, with the largest
as confidence and a product that attains it, and all of them reported in decreasing order.  In
another order the same candidates are decided alike; with a higher threshold a duplicate can only
be lost, with more candidates only be found. -/
theorem decision_follows_candidates (product : CheckedProduct) :
    (∀ store topK threshold rerankingEnabled decision,
      service.detect store product topK threshold rerankingEnabled = .ok decision ↔
      ∃ found, service.hybridSearch.search store (some product.image) (some product.text)
          (some (if rerankingEnabled.getD service.rerankingEnabled then
            max service.rerankerTopN (topK.getD service.topK) else topK.getD service.topK))
          none (some false) = .ok found ∧
        service.scoreAndDecide product
          (service.pooled product.text found (topK.getD service.topK)
            (rerankingEnabled.getD service.rerankingEnabled))
          (threshold.getD service.threshold) = .ok decision) ∧
    (∀ candidates threshold,
      (∃ decision, service.scoreAndDecide product candidates threshold = .ok decision) ↔
        service.similarityScorer.Valid ∨ candidates = []) ∧
    ∀ candidates threshold decision,
      service.scoreAndDecide product candidates threshold = .ok decision →
      (∃ results, candidates.mapM (service.similarityScorer.score product) = some results ∧
        Follows results threshold decision) ∧
      (∀ candidates', candidates'.Perm candidates →
        ∃ decision', service.scoreAndDecide product candidates' threshold = .ok decision' ∧
          decision'.isDuplicate = decision.isDuplicate ∧
          decision'.confidence = decision.confidence) ∧
      (∀ threshold' decision', threshold ≤ threshold' →
        service.scoreAndDecide product candidates threshold' = .ok decision' →
        decision'.isDuplicate = true → decision.isDuplicate = true) ∧
      ∀ candidates' decision', candidates ⊆ candidates' →
        service.scoreAndDecide product candidates' threshold = .ok decision' →
        decision.isDuplicate = true → decision'.isDuplicate = true := by
  refine ⟨?_, ?_, ?_⟩
  · intro store topK threshold rerankingEnabled decision
    exact Except.bind_eq_ok
  · intro candidates threshold
    constructor
    · rintro ⟨decision, hdecision⟩
      by_contra hinvalid
      rw [service.scoreAndDecide_error hinvalid] at hdecision
      cases hdecision
    · intro hvalid
      obtain ⟨decision, hdecision, -⟩ := service.scoreAndDecide_ok hvalid product threshold
      exact ⟨decision, hdecision⟩
  intro candidates threshold decision h
  obtain ⟨results, hresults, hfollows⟩ := service.follows_of_scoreAndDecide h
  refine ⟨⟨results, hresults, hfollows⟩, ?_, ?_, ?_⟩
  · intro candidates' hperm
    exact service.exists_decision_of_perm hperm h
  · intro threshold' decision' hle h' hduplicate
    obtain ⟨results', hresults', hfollows'⟩ := service.follows_of_scoreAndDecide h'
    rw [hresults, Option.some.injEq] at hresults'
    rw [hfollows'.isDuplicate] at hduplicate
    obtain ⟨result, hresult, hmeets⟩ := hduplicate
    exact hfollows.isDuplicate.2 ⟨result, hresults' ▸ hresult, hle.trans hmeets⟩
  · intro candidates' decision' hsub h' hduplicate
    obtain ⟨results', hresults', hfollows'⟩ := service.follows_of_scoreAndDecide h'
    obtain ⟨result, hresult, hmeets⟩ := hfollows.isDuplicate.1 hduplicate
    exact hfollows'.isDuplicate.2
      ⟨result, service.mem_results_of_subset hsub hresults hresults' hresult, hmeets⟩

end DuplicateDetectionService

namespace BootAmongLamps

/-- The stored boot and a lamp, as a search finds them. -/
def found : List (HybridSearchResult ℕ) :=
  [⟨0, 1, (point 0 "Boot" 1).metadata, [.image, .text], 1, 1⟩,
    ⟨1, 1 / 2, (point 1 "Lamp" 1).metadata, [.image], 1 / 2, 0⟩]

/-- The boot and the lamp are decided alike in both orders. -/
theorem decided_alike :
    ∃ decision decision', service.scoreAndDecide product found (2 / 5) = .ok decision ∧
      service.scoreAndDecide product found.reverse (2 / 5) = .ok decision' ∧
      decision'.isDuplicate = decision.isDuplicate := by
  obtain ⟨-, hvalid, hfollows⟩ := service.decision_follows_candidates product
  obtain ⟨decision, h⟩ := (hvalid found (2 / 5)).2 (.inl (by
    unfold SimilarityScorer.Valid
    decide +kernel))
  obtain ⟨-, horder, -⟩ := hfollows found (2 / 5) decision h
  obtain ⟨decision', h', halike, -⟩ := horder found.reverse (List.reverse_perm found)
  exact ⟨decision, decision', h, h', halike⟩

end BootAmongLamps

end ProductIntelligence

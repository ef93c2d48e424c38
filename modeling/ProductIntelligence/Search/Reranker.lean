import ProductIntelligence.Lists.TopK
import ProductIntelligence.Search.Results

/-!
# Reranking

A cross-encoder scores the query against the text of each candidate of the pool, which is
capped, and the candidates are sorted by that score.

## Main definitions

* `CrossEncoder` — a model that returns one score for each pair.
* `RerankerService.rerank` — pool, score, sort and cut.
* `rescore` — the candidates of a search in reranked order, with their new scores.

## Main results

* `length_rerank` — how many candidates survive.
* `length_rescore` — every survivor is found again among the candidates.

## References

`backend/app/services/reranker_service.py`.
-/

namespace ProductIntelligence

open Ranking

variable {ι : Type}

/-- A model that scores query–document pairs, one score for each. -/
structure CrossEncoder where
  scorePairs : List (Text × Text) → List ℚ
  length_scorePairs : ∀ pairs, (scorePairs pairs).length = pairs.length

/-- A model that cannot tell any two pairs apart. -/
def CrossEncoder.constant (raw : ℚ) : CrossEncoder :=
  ⟨fun pairs => pairs.map fun _ => raw, fun _ => List.length_map _⟩

/-- Why a candidate stands where it does. -/
structure RerankReason where
  originalRank : ℕ
  finalRank : ℕ
  rankDelta : ℤ
  explanation : Text
  deriving DecidableEq

/-- A candidate's original and refined scores, and its final rank.  The sigmoid of a raw score
need not be rational, so the type of refined scores is a parameter. -/
structure RerankedCandidate (ι : Type) (α : Type := ℚ) where
  productId : ι
  originalScore : ℚ
  rerankScore : α
  finalRank : ℕ
  metadata : Payload
  reason : RerankReason
  deriving DecidableEq

/-- A reranked and cut candidate list. -/
structure RerankResult (ι : Type) (α : Type := ℚ) where
  query : Text
  candidates : List (RerankedCandidate ι α)
  originalCount : ℕ
  deriving DecidableEq

/-- The reranker: its model, the cap of its pool, the sigmoid of a raw score, and how a
product id is spelt. -/
structure RerankerService (ι : Type) (α : Type := ℚ) where
  crossEncoder : CrossEncoder
  topN : ℕ
  topN_pos : 0 < topN
  normalize : ℚ → α
  idText : ι → Text

/-- `_explanation`. -/
def explanation (originalRank finalRank : ℕ) : Text :=
  if finalRank < originalRank then
    s!"Moved up from position {originalRank} to {finalRank} after cross-encoder reranking.".toList
  else if originalRank < finalRank then
    s!"Moved down from position {originalRank} to {finalRank} after cross-encoder reranking.".toList
  else s!"Kept at position {finalRank} after cross-encoder reranking.".toList

namespace RerankerService

variable {α : Type} [DecidableEq ι] (reranker : RerankerService ι α)

/-- `_document_text`: the text of a candidate, or its id if it has none. -/
def documentText (candidate : HybridSearchResult ι) : Text :=
  let text := buildTextRepresentationFromMetadata candidate.metadata
  if text = [] then reranker.idText candidate.productId else text

/-- `_to_reranked_candidate`. -/
def toRerankedCandidate (candidate : HybridSearchResult ι) (rawScore : ℚ)
    (originalRank finalRank : ℕ) : RerankedCandidate ι α where
  productId := candidate.productId
  originalScore := candidate.score
  rerankScore := reranker.normalize rawScore
  finalRank := finalRank
  metadata := candidate.metadata
  reason :=
    { originalRank := originalRank
      finalRank := finalRank
      rankDelta := (originalRank : ℤ) - finalRank
      explanation := explanation originalRank finalRank }

/-- The rank of a product in the pool, from one; of repeated ids the last counts. -/
def originalRank (pool : List (HybridSearchResult ι)) (productId : ι) : ℕ :=
  pool.length - (pool.map HybridSearchResult.productId).reverse.idxOf productId

/-- The pool with its raw scores, best first. -/
def scored (query : Text) (pool : List (HybridSearchResult ι)) :
    List (HybridSearchResult ι × ℚ) :=
  rank Prod.snd (pool.zip (reranker.crossEncoder.scorePairs
    (pool.map fun candidate => (query, reranker.documentText candidate))))

/-- `rerank`: the best `topK` of the pool by cross-encoder score. -/
def rerank (query : Text) (candidates : List (HybridSearchResult ι)) (topK : Option ℕ) :
    RerankResult ι α :=
  let pool := candidates.take reranker.topN
  if pool.isEmpty then { query := query, candidates := [], originalCount := 0 }
  else
    let final := (reranker.scored query pool).take (topK.getD (reranker.scored query pool).length)
    { query := query
      candidates := (final.zipIdx 1).map fun entry =>
        reranker.toRerankedCandidate entry.1.1 entry.1.2
          (originalRank pool entry.1.1.productId) entry.2
      originalCount := pool.length }

omit [DecidableEq ι] in
theorem length_scored (query : Text) (pool : List (HybridSearchResult ι)) :
    (reranker.scored query pool).length = pool.length := by
  rw [scored, length_rank, List.length_zip, reranker.crossEncoder.length_scorePairs,
    List.length_map, min_self]

omit [DecidableEq ι] in
/-- The scored pool holds the candidates of the pool. -/
theorem mem_of_mem_scored {query : Text} {pool : List (HybridSearchResult ι)}
    {entry : HybridSearchResult ι × ℚ} (h : entry ∈ reranker.scored query pool) :
    entry.1 ∈ pool := by
  rw [scored, mem_rank] at h
  exact (List.of_mem_zip h).1

/-- **How many candidates survive reranking**: the pool is capped before the cut. -/
theorem length_rerank (query : Text) (candidates : List (HybridSearchResult ι))
    (topK : Option ℕ) :
    (reranker.rerank query candidates topK).candidates.length =
      min (topK.getD candidates.length) (min reranker.topN candidates.length) := by
  unfold rerank
  by_cases hpool : (candidates.take reranker.topN).isEmpty
  · rw [if_pos hpool]
    rw [List.isEmpty_iff_length_eq_zero, List.length_take] at hpool
    simp [hpool]
  · rw [if_neg hpool, List.length_map, List.length_zipIdx, List.length_take, length_scored,
      List.length_take]
    cases topK with
    | none => simp
    | some k => simp

/-- Every survivor is a candidate with a raw score and its ranks. -/
theorem exists_of_mem_rerank {query : Text} {candidates : List (HybridSearchResult ι)}
    {topK : Option ℕ} {c : RerankedCandidate ι α}
    (h : c ∈ (reranker.rerank query candidates topK).candidates) :
    ∃ candidate ∈ candidates, ∃ rawScore originalRank finalRank,
      c = reranker.toRerankedCandidate candidate rawScore originalRank finalRank := by
  dsimp only [rerank] at h
  split at h
  · cases h
  · obtain ⟨entry, hentry, rfl⟩ := List.mem_map.1 h
    have hscored := List.mem_of_mem_take (List.fst_mem_of_mem_zipIdx hentry)
    have hpool := reranker.mem_of_mem_scored hscored
    exact ⟨entry.1.1, List.mem_of_mem_take hpool, _, _, _, rfl⟩

/-- Every survivor is one of the candidates. -/
theorem productId_mem_of_mem_rerank {query : Text} {candidates : List (HybridSearchResult ι)}
    {topK : Option ℕ} {c : RerankedCandidate ι α}
    (h : c ∈ (reranker.rerank query candidates topK).candidates) :
    c.productId ∈ candidates.map HybridSearchResult.productId := by
  obtain ⟨candidate, hmem, _, _, _, rfl⟩ := reranker.exists_of_mem_rerank h
  exact List.mem_map_of_mem hmem

/-- Of some candidates, some survive. -/
theorem rerank_ne_nil {candidates : List (HybridSearchResult ι)} (h : candidates ≠ [])
    (query : Text) {topK : ℕ} (htopK : 0 < topK) :
    (reranker.rerank query candidates (some topK)).candidates ≠ [] := by
  have hlength := reranker.length_rerank query candidates (some topK)
  have hcandidates := List.length_pos_iff.2 h
  have htopN := reranker.topN_pos
  rw [Option.getD_some] at hlength
  rw [← List.length_pos_iff]
  omega

end RerankerService

/-! ### Back to the candidates -/

variable [DecidableEq ι]

/-- The candidate of an id, as the dictionary `by_id` holds it. -/
def byId (candidates : List (HybridSearchResult ι)) (productId : ι) :
    Option (HybridSearchResult ι) :=
  candidates.reverse.find? fun candidate => candidate.productId = productId

/-- The candidates in reranked order, changed by their new scores. -/
def rescore (candidates : List (HybridSearchResult ι)) (reranked : List (RerankedCandidate ι))
    (change : HybridSearchResult ι → ℚ → HybridSearchResult ι) : List (HybridSearchResult ι) :=
  reranked.filterMap fun c =>
    (byId candidates c.productId).map fun candidate => change candidate c.rerankScore

theorem length_rescore {candidates : List (HybridSearchResult ι)}
    {reranked : List (RerankedCandidate ι)}
    (h : ∀ c ∈ reranked, c.productId ∈ candidates.map HybridSearchResult.productId)
    (change : HybridSearchResult ι → ℚ → HybridSearchResult ι) :
    (rescore candidates reranked change).length = reranked.length := by
  induction reranked with
  | nil => rfl
  | cons c reranked ih =>
    have hrest := ih fun d hd => h d (by simp [hd])
    obtain ⟨candidate, hmem, hid⟩ := List.mem_map.1 (h c (by simp))
    have hfound : (byId candidates c.productId).isSome := by
      rw [byId, List.find?_isSome]
      exact ⟨candidate, by simpa using hmem, by simpa using hid⟩
    obtain ⟨found, hfound⟩ := Option.isSome_iff_exists.1 hfound
    unfold rescore at hrest ⊢
    rw [List.filterMap_cons_some (by rw [hfound]; rfl), List.length_cons, hrest,
      List.length_cons]

/-- Reranking and finding the survivors again keeps as many as reranking alone. -/
theorem length_rescore_rerank (reranker : RerankerService ι) (query : Text)
    (candidates : List (HybridSearchResult ι)) (topK : Option ℕ)
    (change : HybridSearchResult ι → ℚ → HybridSearchResult ι) :
    (rescore candidates (reranker.rerank query candidates topK).candidates change).length =
      min (topK.getD candidates.length) (min reranker.topN candidates.length) := by
  rw [length_rescore (fun c hc => reranker.productId_mem_of_mem_rerank hc),
    reranker.length_rerank]

end ProductIntelligence

import Mathlib.Analysis.SpecialFunctions.Sigmoid
import ProductIntelligence.Search.Reranker

/-!
# Reranking is a stable sort of its pool

The pool, the scores, the sort, the ranks and the squashed scores of `rerank` are computed
by separate passes over the same lists.  Here they are shown to line up.

## Main definitions

* `RerankerService.withSigmoid` — the reranker whose reported scores are sigmoids over the reals.
* `Reports pool best candidates` — what the reported candidates say of the ones kept.

## Main results

* `originalRank_getElem` — the original rank of a candidate is its position in the pool.
* `sum_rankDelta` — a pool that is kept whole moves up as much as it moves down.
* `rerank_withSigmoid` — **reranking is a stable sort of its pool**, reported faithfully.

## References

`backend/app/services/reranker_service.py`.
-/

namespace ProductIntelligence

open Ranking

variable {ι : Type} [DecidableEq ι]

namespace RerankerService

/-! ### Ranks -/

/-- In a pool of distinct products the original rank of one is its position. -/
theorem originalRank_getElem {pool : List (HybridSearchResult ι)}
    (hids : (pool.map HybridSearchResult.productId).Nodup) {i : ℕ} (hi : i < pool.length) :
    originalRank pool pool[i].productId = i + 1 := by
  -- seen from the end the product is `pool.length - 1 - i` places away
  have hlength : ((pool.map HybridSearchResult.productId).reverse).length = pool.length := by simp
  have hplace : pool.length - 1 - i <
      ((pool.map HybridSearchResult.productId).reverse).length := by omega
  have hindex : ((pool.map HybridSearchResult.productId).reverse).idxOf
      ((pool.map HybridSearchResult.productId).reverse)[pool.length - 1 - i] =
        pool.length - 1 - i :=
    (List.nodup_reverse.2 hids).idxOf_getElem _ _
  have hself : ((pool.map HybridSearchResult.productId).reverse)[pool.length - 1 - i] =
      pool[i].productId := by
    rw [List.getElem_reverse, List.getElem_map]
    congr 2
    simp only [List.length_map]
    omega
  rw [hself] at hindex
  rw [originalRank, hindex]
  omega

/-- The original ranks of a pool of distinct products count from one. -/
theorem map_originalRank {pool : List (HybridSearchResult ι)}
    (hids : (pool.map HybridSearchResult.productId).Nodup) :
    (pool.map fun candidate => originalRank pool candidate.productId) =
      List.range' 1 pool.length := by
  refine List.ext_getElem (by simp) fun i hi _ => ?_
  rw [List.length_map] at hi
  rw [List.getElem_map, List.getElem_range', originalRank_getElem hids hi]
  omega

/-! ### What is reported -/

section Report

variable {α : Type} (reranker : RerankerService ι α)

/-- The pool with its raw scores, in its own order. -/
def paired (query : Text) (pool : List (HybridSearchResult ι)) :
    List (HybridSearchResult ι × ℚ) :=
  pool.zip (reranker.crossEncoder.scorePairs
    (pool.map fun candidate => (query, reranker.documentText candidate)))

/-- The candidates reported for the ones kept, which are numbered from one. -/
def report (pool : List (HybridSearchResult ι)) (best : List (HybridSearchResult ι × ℚ)) :
    List (RerankedCandidate ι α) :=
  (best.zipIdx 1).map fun entry =>
    reranker.toRerankedCandidate entry.1.1 entry.1.2 (originalRank pool entry.1.1.productId) entry.2

omit [DecidableEq ι] in
/-- Each candidate of the pool is paired with one raw score. -/
theorem map_fst_paired (query : Text) (pool : List (HybridSearchResult ι)) :
    (reranker.paired query pool).map Prod.fst = pool :=
  List.map_fst_zip (by rw [reranker.crossEncoder.length_scorePairs, List.length_map])

/-- Reranking reports the first of the scored pool. -/
theorem candidates_rerank (query : Text) (candidates : List (HybridSearchResult ι))
    (topK : Option ℕ) :
    (reranker.rerank query candidates topK).candidates =
      reranker.report (candidates.take reranker.topN)
        ((reranker.scored query (candidates.take reranker.topN)).take
          (topK.getD (candidates.take reranker.topN).length)) := by
  unfold rerank
  by_cases hpool : (candidates.take reranker.topN).isEmpty
  · rw [if_pos hpool]
    rw [List.isEmpty_iff] at hpool
    simp [hpool, report, scored, rank]
  · rw [if_neg hpool, length_scored]
    rfl

@[simp] theorem length_report (pool : List (HybridSearchResult ι))
    (best : List (HybridSearchResult ι × ℚ)) :
    (reranker.report pool best).length = best.length := by
  rw [report, List.length_map, List.length_zipIdx]

theorem getElem_report (pool : List (HybridSearchResult ι))
    (best : List (HybridSearchResult ι × ℚ)) {i : ℕ} (hi : i < best.length)
    (hi' : i < (reranker.report pool best).length) :
    (reranker.report pool best)[i] =
      reranker.toRerankedCandidate best[i].1 best[i].2 (originalRank pool best[i].1.productId)
        (i + 1) := by
  simp only [report, List.getElem_map, List.getElem_zipIdx]
  rw [Nat.add_comm]

/-- The final ranks count from one. -/
theorem map_finalRank_report (pool : List (HybridSearchResult ι))
    (best : List (HybridSearchResult ι × ℚ)) :
    (reranker.report pool best).map RerankedCandidate.finalRank = List.range' 1 best.length := by
  refine List.ext_getElem (by simp) fun i hi _ => ?_
  have hlt : i < best.length := by simpa using hi
  rw [List.getElem_map, getElem_report _ _ _ hlt _, List.getElem_range']
  show i + 1 = 1 + 1 * i
  omega

/-- The original ranks are those of the ones kept. -/
theorem map_originalRank_report (pool : List (HybridSearchResult ι))
    (best : List (HybridSearchResult ι × ℚ)) :
    (reranker.report pool best).map (fun c => c.reason.originalRank) =
      (best.map Prod.fst).map fun candidate => originalRank pool candidate.productId := by
  refine List.ext_getElem (by simp) fun i hi _ => ?_
  have hlt : i < best.length := by simpa using hi
  rw [List.getElem_map, getElem_report _ _ _ hlt _, List.getElem_map, List.getElem_map]
  rfl

/-- What is reported of a candidate of the pool and its raw score. -/
structure IsReported (normalize : ℚ → α) (pool : List (HybridSearchResult ι))
    (entry : HybridSearchResult ι × ℚ) (c : RerankedCandidate ι α) : Prop where
  productId : c.productId = entry.1.productId
  originalScore : c.originalScore = entry.1.score
  metadata : c.metadata = entry.1.metadata
  rerankScore : c.rerankScore = normalize entry.2
  originalRank_pos : 0 < c.reason.originalRank
  originalRank : pool[c.reason.originalRank - 1]? = some entry.1
  finalRank : c.reason.finalRank = c.finalRank
  rankDelta : c.reason.rankDelta = (c.reason.originalRank : ℤ) - c.finalRank

/-- What the reported candidates say of the ones kept. -/
structure Reports (normalize : ℚ → α) (pool : List (HybridSearchResult ι))
    (best : List (HybridSearchResult ι × ℚ)) (candidates : List (RerankedCandidate ι α)) :
    Prop where
  finalRanks : candidates.map RerankedCandidate.finalRank = List.range' 1 best.length
  candidates : List.Forall₂ (IsReported normalize pool) best candidates

omit [DecidableEq ι] in
/-- Whatever is reported is reported of one of the ones kept. -/
theorem Reports.exists_of_mem {normalize : ℚ → α} {pool : List (HybridSearchResult ι)}
    {best : List (HybridSearchResult ι × ℚ)} {candidates : List (RerankedCandidate ι α)}
    (h : Reports normalize pool best candidates) {c : RerankedCandidate ι α}
    (hc : c ∈ candidates) : ∃ entry ∈ best, IsReported normalize pool entry c := by
  obtain ⟨i, hi, rfl⟩ := List.getElem_of_mem hc
  have hbest : i < best.length := by rw [h.candidates.length_eq]; exact hi
  exact ⟨best[i], List.getElem_mem hbest, h.candidates.get hbest hi⟩

/-- Each of the ones kept is reported, in their order. -/
theorem reports_report {pool : List (HybridSearchResult ι)}
    (hids : (pool.map HybridSearchResult.productId).Nodup)
    {best : List (HybridSearchResult ι × ℚ)} (hbest : ∀ entry ∈ best, entry.1 ∈ pool) :
    Reports reranker.normalize pool best (reranker.report pool best) where
  finalRanks := reranker.map_finalRank_report pool best
  candidates := by
    refine List.forall₂_iff_get.2 ⟨by rw [length_report], fun i hi _ => ?_⟩
    obtain ⟨j, hj, hpool⟩ := List.getElem_of_mem (hbest best[i] (List.getElem_mem hi))
    have hrank : RerankerService.originalRank pool best[i].1.productId = j + 1 := by
      rw [← hpool, originalRank_getElem hids hj]
    rw [List.get_eq_getElem, List.get_eq_getElem, getElem_report _ _ _ hi _, hrank]
    exact
      { productId := rfl
        originalScore := rfl
        metadata := rfl
        rerankScore := rfl
        originalRank_pos := Nat.succ_pos j
        originalRank := by
          show pool[j + 1 - 1]? = some best[i].1
          rw [Nat.add_sub_cancel, List.getElem?_eq_getElem hj, hpool]
        finalRank := rfl
        rankDelta := rfl }

/-- **A pool that is kept whole moves up as much as it moves down.** -/
theorem sum_rankDelta {pool : List (HybridSearchResult ι)}
    (hids : (pool.map HybridSearchResult.productId).Nodup)
    {best : List (HybridSearchResult ι × ℚ)} (hbest : (best.map Prod.fst).Perm pool) :
    ((reranker.report pool best).map fun c => c.reason.rankDelta).sum = 0 := by
  have hranks : ((reranker.report pool best).map fun c => c.reason.originalRank).Perm
      ((reranker.report pool best).map RerankedCandidate.finalRank) := by
    rw [map_originalRank_report, map_finalRank_report,
      show best.length = pool.length by rw [← hbest.length_eq, List.length_map],
      ← map_originalRank hids]
    exact hbest.map _
  have hsum := (hranks.map fun rank : ℕ => (rank : ℤ)).sum_eq
  rw [List.map_map, List.map_map] at hsum
  calc ((reranker.report pool best).map fun c => c.reason.rankDelta).sum
      = ((reranker.report pool best).map fun c =>
          (c.reason.originalRank : ℤ) - c.finalRank).sum := by
        refine congrArg List.sum (List.map_congr_left fun c hc => ?_)
        obtain ⟨entry, -, rfl⟩ := List.mem_map.1 hc
        rfl
    _ = ((reranker.report pool best).map fun c => (c.reason.originalRank : ℤ)).sum -
          ((reranker.report pool best).map fun c => (c.finalRank : ℤ)).sum := by
        simpa using Multiset.sum_map_sub (m := Multiset.ofList (reranker.report pool best))
          (f := fun c => (c.reason.originalRank : ℤ)) (g := fun c => (c.finalRank : ℤ))
    _ = 0 := sub_eq_zero.2 hsum

end Report

/-! ### The sigmoid -/

/-- `_normalize`, over the reals. -/
noncomputable def normalizeSigmoid (rawScore : ℚ) : ℝ := 1 / (1 + Real.exp (-rawScore))

/-- The sigmoid keeps the order of the raw scores. -/
theorem normalizeSigmoid_le_iff (a b : ℚ) : normalizeSigmoid a ≤ normalizeSigmoid b ↔ a ≤ b := by
  have hsigmoid : ∀ r : ℚ, normalizeSigmoid r = Real.sigmoid r := fun r =>
    (one_div _).trans (Real.sigmoid_def _).symm
  rw [hsigmoid, hsigmoid, Real.sigmoid_le_iff, Rat.cast_le]

/-- The reranker with the sigmoid of the service. -/
noncomputable def withSigmoid (reranker : RerankerService ι) : RerankerService ι ℝ where
  crossEncoder := reranker.crossEncoder
  topN := reranker.topN
  topN_pos := reranker.topN_pos
  normalize := normalizeSigmoid
  idText := reranker.idText

omit [DecidableEq ι] in
/-- Of distinct products one has one raw score. -/
theorem eq_of_isStableRanking {query : Text} {pool : List (HybridSearchResult ι)}
    {reranker : RerankerService ι} {order : List (HybridSearchResult ι × ℚ)}
    (horder : IsStableRanking Prod.snd (reranker.paired query pool) order)
    (hids : (pool.map HybridSearchResult.productId).Nodup) {a b : HybridSearchResult ι × ℚ}
    (ha : a ∈ order) (hb : b ∈ order) (hid : a.1.productId = b.1.productId) : a = b := by
  have hnodup : (order.map fun entry => entry.1.productId).Nodup := by
    rw [(horder.perm.map _).nodup_iff]
    have hfst : (reranker.paired query pool).map (fun entry => entry.1.productId) =
        pool.map HybridSearchResult.productId := by
      have hmap := congrArg (List.map HybridSearchResult.productId)
        (reranker.map_fst_paired query pool)
      rwa [List.map_map] at hmap
    rwa [hfst]
  exact List.inj_on_of_nodup_map hnodup ha hb hid

/-- **Reranking is a stable sort of its pool.**  Of candidates with distinct ids the first
`topN` are the pool.  It is sorted by raw score, best first and stably, and the first `topK` are
reported in that order: with ranks from one, with their places in the pool, their metadata and
their scores.  The scores reported are in the order of the raw scores, and when the pool is kept
whole the rank deltas sum to zero. -/
theorem rerank_withSigmoid (reranker : RerankerService ι) (query : Text)
    (candidates : List (HybridSearchResult ι))
    (hids : (candidates.map HybridSearchResult.productId).Nodup) (topK : Option ℕ) :
    let pool := candidates.take reranker.topN
    let reranked := (reranker.withSigmoid.rerank query candidates topK).candidates
    ∃ order, IsStableRanking Prod.snd (reranker.paired query pool) order ∧
      Reports normalizeSigmoid pool (order.take (topK.getD pool.length)) reranked ∧
      (∀ a ∈ order, ∀ b ∈ order, ∀ c ∈ reranked, ∀ d ∈ reranked,
        c.productId = a.1.productId → d.productId = b.1.productId →
          (c.rerankScore ≤ d.rerankScore ↔ a.2 ≤ b.2)) ∧
      (pool.length ≤ topK.getD pool.length →
        (reranked.map fun c => c.reason.rankDelta).sum = 0) := by
  intro pool reranked
  have hpool : (pool.map HybridSearchResult.productId).Nodup :=
    hids.sublist ((List.take_sublist _ _).map _)
  have hstable : IsStableRanking Prod.snd (reranker.paired query pool)
      (reranker.scored query pool) := isStableRanking_rank _ _
  have hreranked : reranked = reranker.withSigmoid.report pool
      ((reranker.scored query pool).take (topK.getD pool.length)) :=
    reranker.withSigmoid.candidates_rerank query candidates topK
  have hreports : Reports normalizeSigmoid pool
      ((reranker.scored query pool).take (topK.getD pool.length)) reranked := by
    rw [hreranked]
    exact reranker.withSigmoid.reports_report hpool fun entry hentry =>
      reranker.mem_of_mem_scored (List.mem_of_mem_take hentry)
  -- the score reported for a product is the sigmoid of its raw score
  have hscore : ∀ a ∈ reranker.scored query pool, ∀ c ∈ reranked,
      c.productId = a.1.productId → c.rerankScore = normalizeSigmoid a.2 := by
    intro a ha c hc hid
    obtain ⟨entry, hentry, hreported⟩ := hreports.exists_of_mem hc
    have hsame : entry = a := eq_of_isStableRanking hstable hpool (List.mem_of_mem_take hentry) ha
      (hreported.productId.symm.trans hid)
    rw [hreported.rerankScore, hsame]
  refine ⟨reranker.scored query pool, hstable, hreports, ?_, fun hwhole => ?_⟩
  · intro a ha b hb c hc d hd hca hdb
    rw [hscore a ha c hc hca, hscore b hb d hd hdb, normalizeSigmoid_le_iff]
  · rw [hreranked, List.take_of_length_le (by rw [length_scored]; exact hwhole)]
    refine reranker.withSigmoid.sum_rankDelta hpool ?_
    have hperm := hstable.perm.map Prod.fst
    rwa [reranker.map_fst_paired] at hperm

/-! ### Three shoes -/

/-- A search hit with a description and nothing else. -/
def shoe (productId : ℕ) (description : Text) : HybridSearchResult ℕ where
  productId := productId
  score := 1
  metadata := vectorMetadata ⟨"Shoe".toList, none, some description, none, none⟩
    ⟨"a.png".toList, "b.png".toList, "image/png".toList, 1, 0⟩ ⟨ProductAttributes.empty, [], 0⟩
  matchedModalities := [.text]
  imageScore := 0
  textScore := 1

/-- A reranker that scores a document by its length, with a pool of three. -/
def byLength : RerankerService ℕ where
  crossEncoder := ⟨fun pairs => pairs.map fun pair => pair.2.length, fun _ => List.length_map _⟩
  topN := 3
  topN_pos := by decide
  normalize := id
  idText := fun _ => ['0']

/-- Of three shoes the two with the longer descriptions tie, and what moves up by one moves
the other down. -/
theorem sum_rankDelta_byLength :
    ((byLength.withSigmoid.rerank "shoe".toList
      [shoe 0 "red".toList, shoe 1 "green".toList, shoe 2 "brown".toList] none).candidates.map
        fun c => c.reason.rankDelta).sum = 0 := by
  obtain ⟨_, -, -, -, hsum⟩ := rerank_withSigmoid byLength "shoe".toList
    [shoe 0 "red".toList, shoe 1 "green".toList, shoe 2 "brown".toList] (by decide) none
  exact hsum (le_refl _)

end RerankerService

end ProductIntelligence

import ProductIntelligence.Evaluation.Retrieval
import ProductIntelligence.Lists.Discounted

/-!
# The metrics agree with each other

The five metrics of a ranked list are computed separately, with denominators and discounts of
their own.  All of them only read which places are hits, so what they have in common and what a
better ranking does to them is said of the list of hits.

## Main definitions

* `hits retrieved expected` — which places of a ranked list are hits.
* `Promotion`, `NotWorse` — an expected product changes places with an unexpected one before it,
  and no metric falls.

## Main results

* `metrics_consistent` — **the metrics are bounded and agree with each other**.
* `promotions_never_lower` — **ranking better never scores worse**.

## References

`backend/app/services/evaluation/retrieval_evaluator.py`.
-/

namespace ProductIntelligence

open Discounted

variable {ι : Type} [DecidableEq ι]

/-! ### The metrics by hits -/

/-- Which places of a ranked list are hits. -/
def hits (retrieved expected : List ι) : List Bool :=
  retrieved.map fun product => product ∈ expected

/-- What the hit at a place gains, counted from zero. -/
noncomputable def gain (place : ℕ) : ℝ := discount (place + 1)

theorem gain_eq (place : ℕ) : gain place = 1 / Real.logb 2 ((place + 1 : ℕ) + 1) := by
  rw [gain, discount, Nat.cast_ofNat]

theorem gain_pos (place : ℕ) : 0 < gain place := by
  have hlog : 0 < Real.logb 2 ((place + 1 : ℕ) + 1) := by
    apply Real.logb_pos (by norm_num)
    push_cast
    linarith [Nat.cast_nonneg (α := ℝ) place]
  rw [gain_eq]
  exact one_div_pos.2 hlog

theorem gain_strictAnti : StrictAnti gain := by
  intro i j hij
  have hlog : 0 < Real.logb 2 ((i + 1 : ℕ) + 1) := by
    apply Real.logb_pos (by norm_num)
    push_cast
    linarith [Nat.cast_nonneg (α := ℝ) i]
  have hlt : Real.logb 2 ((i + 1 : ℕ) + 1) < Real.logb 2 ((j + 1 : ℕ) + 1) := by
    apply Real.logb_lt_logb (by norm_num) (by positivity)
    exact_mod_cast Nat.add_lt_add_right hij 2
  rw [gain_eq, gain_eq]
  exact one_div_lt_one_div_of_lt hlog hlt

theorem hits_cons (product : ι) (retrieved expected : List ι) :
    hits (product :: retrieved) expected =
      decide (product ∈ expected) :: hits retrieved expected := rfl

theorem hits_take (retrieved expected : List ι) (k : ℕ) :
    hits (retrieved.take k) expected = (hits retrieved expected).take k :=
  List.map_take

/-- The expected products are counted by the hits. -/
theorem relevant_eq (retrieved expected : List ι) :
    relevant expected retrieved = (hits retrieved expected).count true := by
  rw [relevant, hits, List.count_eq_countP, List.countP_map]
  exact List.countP_congr fun product _ => by simp

/-- There is a hit exactly when some is counted. -/
theorem true_mem_hits {retrieved expected : List ι} :
    true ∈ hits retrieved expected ↔ ∃ product ∈ retrieved, product ∈ expected := by
  simp [hits]

/-- The discounted gain of a list whose first rank is `rank`. -/
theorem sum_discount (retrieved expected : List ι) (rank : ℕ) :
    ((((retrieved.zipIdx rank).filter fun entry => entry.1 ∈ expected).map fun entry =>
      discount entry.2).sum) = total (fun i => discount (i + rank)) (hits retrieved expected) := by
  induction retrieved generalizing rank with
  | nil => rfl
  | cons product retrieved ih =>
    have hrest := ih (rank + 1)
    simp only [Nat.add_comm rank 1, ← Nat.add_assoc] at hrest
    rw [List.zipIdx_cons, hits_cons, total_cons]
    by_cases hproduct : product ∈ expected
    · rw [List.filter_cons_of_pos (by simpa using hproduct), List.map_cons, List.sum_cons,
        if_pos (decide_eq_true hproduct), Nat.zero_add]
      rw [← hrest, Nat.add_comm 1 rank]
    · rw [List.filter_cons_of_neg (by simpa using hproduct),
        if_neg (by simpa using hproduct), zero_add]
      rw [← hrest, Nat.add_comm 1 rank]

/-- The best possible gain. -/
theorem sum_ideal (n : ℕ) : ((List.range' 1 n).map discount).sum = ideal gain n := by
  induction n with
  | zero => rfl
  | succ n ih =>
    rw [List.range'_1_concat, List.map_append, List.sum_append, ih, ideal_succ, List.map_singleton,
      List.sum_singleton, gain, Nat.add_comm 1 n]

section Metrics

variable {retrieved expected : List ι}

/-- How many hits there can be at best. -/
def idealHits (expected : List ι) (k : ℕ) : ℕ := min expected.dedup.length k

theorem idealHits_pos (hexpected : expected ≠ []) {k : ℕ} (hk : 1 ≤ k) :
    0 < idealHits expected k := by
  have hlength : 0 < expected.dedup.length := by
    obtain ⟨product, hproduct⟩ := List.exists_mem_of_ne_nil expected hexpected
    exact List.length_pos_of_mem (List.mem_dedup.2 hproduct)
  exact lt_min hlength hk

theorem ndcgAtK_eq (hexpected : expected ≠ []) {k : ℕ} (hk : 1 ≤ k) :
    ndcgAtK retrieved expected k =
      total gain ((hits retrieved expected).take k) / ideal gain (idealHits expected k) := by
  have hempty : expected.isEmpty = false := by simpa using hexpected
  have hideal : 0 < ideal gain (idealHits expected k) :=
    ideal_strictMono gain_pos (idealHits_pos hexpected hk)
  rw [idealHits, ← sum_ideal] at hideal
  rw [ndcgAtK, hempty, ← hits_take]
  simp only [Bool.false_eq_true, if_false, if_pos hideal]
  rw [sum_discount, sum_ideal]
  rfl

theorem precisionAtK_eq (hexpected : expected ≠ []) (k : ℕ) :
    precisionAtK retrieved expected k =
      (((hits retrieved expected).take k).count true : ℚ) / (retrieved.take k).length := by
  have hempty : expected.isEmpty = false := by simpa using hexpected
  rw [precisionAtK, hempty, Bool.false_or, relevant_eq, hits_take]
  split
  · next h =>
    rw [List.isEmpty_iff] at h
    simp [h]
  · rfl

theorem recallAtK_eq (hexpected : expected ≠ []) (k : ℕ) :
    recallAtK retrieved expected k =
      (((hits retrieved expected).take k).count true : ℚ) / expected.dedup.length := by
  have hempty : expected.isEmpty = false := by simpa using hexpected
  rw [recallAtK, hempty, relevant_eq, hits_take]
  rfl

theorem hitRateAtK_eq (k : ℕ) :
    hitRateAtK retrieved expected k =
      if true ∈ (hits retrieved expected).take k then 1 else 0 := by
  rw [hitRateAtK, ← hits_take]
  simp only [true_mem_hits]
  by_cases hempty : expected.isEmpty
  · rw [List.isEmpty_iff] at hempty
    simp [hempty]
  · rw [if_neg hempty]
    simp

/-- The first hit of a list whose first rank is `rank`. -/
theorem find_hit (retrieved expected : List ι) (rank : ℕ) :
    (((retrieved.zipIdx rank).find? fun entry => entry.1 ∈ expected).map Prod.snd) =
      if true ∈ hits retrieved expected then some ((hits retrieved expected).idxOf true + rank)
      else none := by
  induction retrieved generalizing rank with
  | nil => simp [hits]
  | cons product retrieved ih =>
    rw [List.zipIdx_cons, hits_cons]
    by_cases hproduct : product ∈ expected
    · simp [hproduct]
    · have hrest := ih (rank + 1)
      rw [List.find?_cons_of_neg (by simpa using hproduct), hrest, decide_eq_false hproduct,
        List.idxOf_cons_ne _ (by simp)]
      simp only [List.mem_cons, Bool.true_eq_false, false_or]
      congr 2
      omega

theorem reciprocalRank_eq (retrieved expected : List ι) :
    reciprocalRank retrieved expected = if true ∈ hits retrieved expected then
      1 / (((hits retrieved expected).idxOf true : ℚ) + 1) else 0 := by
  have hfind := find_hit retrieved expected 1
  rw [reciprocalRank]
  by_cases hempty : expected.isEmpty
  · rw [List.isEmpty_iff] at hempty
    simp [hempty, true_mem_hits]
  · rw [if_neg hempty]
    split
    · next entry hentry =>
      rw [hentry, Option.map_some] at hfind
      split at hfind
      · next hmem =>
        rw [if_pos hmem, Option.some.inj hfind]
        push_cast
        rfl
      · cases hfind
    · next hnone =>
      rw [hnone, Option.map_none] at hfind
      split at hfind
      · cases hfind
      · next hmem => rw [if_neg hmem]

/-! ### Bounds -/

/-- Distinct products are hit no more often than there are places and expected products. -/
theorem count_hits_le (expected : List ι) (hretrieved : retrieved.Nodup) (k : ℕ) :
    ((hits retrieved expected).take k).count true ≤ idealHits expected k := by
  refine le_min ?_ ?_
  · rw [← hits_take, ← relevant_eq, relevant, List.countP_eq_length_filter]
    have hnodup := (hretrieved.sublist (List.take_sublist k retrieved)).filter
      fun product => product ∈ expected
    refine (hnodup.subperm fun product hproduct => ?_).length_le
    have hmem := (List.mem_filter.1 hproduct).2
    exact List.mem_dedup.2 (of_decide_eq_true hmem)
  · exact List.count_le_length.trans (by simp)

/-- The gain of the first `k` is at most the best possible. -/
theorem total_le_ideal_idealHits (expected : List ι) (hretrieved : retrieved.Nodup) (k : ℕ) :
    total gain ((hits retrieved expected).take k) ≤ ideal gain (idealHits expected k) :=
  (total_le_ideal gain_strictAnti _).trans
    ((ideal_strictMono gain_pos).monotone (count_hits_le expected hretrieved k))

/-- The best possible gain is reached exactly when the hits come first. -/
theorem total_eq_ideal_iff (hretrieved : retrieved.Nodup) (k : ℕ) :
    total gain ((hits retrieved expected).take k) = ideal gain (idealHits expected k) ↔
      idealHits expected k ≤ retrieved.length ∧
        ∀ product ∈ retrieved.take (idealHits expected k), product ∈ expected := by
  have hcount := count_hits_le expected hretrieved k
  have hk : idealHits expected k ≤ k := min_le_right _ _
  have hfirst : ((hits retrieved expected).take k).take (idealHits expected k) =
      hits (retrieved.take (idealHits expected k)) expected := by
    rw [List.take_take, min_eq_left hk, hits_take]
  constructor
  · intro h
    have hbound := total_le_ideal gain_strictAnti ((hits retrieved expected).take k)
    have hall : ((hits retrieved expected).take k).count true = idealHits expected k := by
      apply le_antisymm hcount
      exact (ideal_strictMono gain_pos).le_iff_le.1 (h ▸ hbound)
    refine ⟨?_, fun product hproduct => ?_⟩
    · rw [← hall]
      exact List.count_le_length.trans (by simp [hits])
    · have hhit := take_of_total_eq_ideal gain_strictAnti (h.trans (by rw [hall]))
      rw [hall, hfirst, hits, List.forall_mem_map] at hhit
      exact of_decide_eq_true (hhit product hproduct)
  · rintro ⟨hlength, hexpected⟩
    refine le_antisymm (total_le_ideal_idealHits expected hretrieved k) ?_
    refine ideal_le_total (fun i => (gain_pos i).le) ?_ fun hit hhit => ?_
    · rw [List.length_take, hits, List.length_map]
      exact le_min hk hlength
    · rw [hfirst, hits] at hhit
      obtain ⟨product, hproduct, rfl⟩ := List.mem_map.1 hhit
      exact decide_eq_true (hexpected product hproduct)

/-- The reciprocal rank reaches `1 / k` exactly when there is a hit among the first `k`. -/
theorem le_reciprocalRank_iff {k : ℕ} (hk : 1 ≤ k) :
    (1 : ℚ) / k ≤ reciprocalRank retrieved expected ↔
      true ∈ (hits retrieved expected).take k := by
  have hk' : (0 : ℚ) < k := by exact_mod_cast hk
  rw [reciprocalRank_eq]
  split
  · next hmem =>
    have hplace : (0 : ℚ) < ((hits retrieved expected).idxOf true : ℚ) + 1 := by positivity
    rw [List.mem_take_iff_idxOf_lt hmem, one_div_le_one_div hk' hplace]
    norm_cast
  · next hmem =>
    refine ⟨fun h => absurd h (not_le.2 (one_div_pos.2 hk')), fun h => ?_⟩
    exact absurd (List.mem_of_mem_take h) hmem

theorem reciprocalRank_unit :
    0 ≤ reciprocalRank retrieved expected ∧ reciprocalRank retrieved expected ≤ 1 := by
  rw [reciprocalRank_eq]
  split
  · refine ⟨by positivity, ?_⟩
    rw [div_le_one (by positivity)]
    linarith [Nat.cast_nonneg (α := ℚ) ((hits retrieved expected).idxOf true)]
  · exact ⟨le_rfl, zero_le_one⟩

/-- A fraction of a whole. -/
theorem fraction_unit {a b : ℕ} (h : a ≤ b) : 0 ≤ (a : ℚ) / b ∧ (a : ℚ) / b ≤ 1 :=
  ⟨by positivity, div_le_one_of_le₀ (Nat.cast_le.2 h) (Nat.cast_nonneg b)⟩

theorem hitRateAtK_eq_one_iff (retrieved expected : List ι) (k : ℕ) :
    hitRateAtK retrieved expected k = 1 ↔ true ∈ (hits retrieved expected).take k := by
  rw [hitRateAtK_eq]
  split
  · next hmem => simp [hmem]
  · next hmem => simp [hmem]

theorem cast_count_pos_iff {l : List Bool} : (0 : ℚ) < l.count true ↔ true ∈ l := by
  rw [Nat.cast_pos, List.count_pos_iff]

theorem count_hits_le_length (retrieved expected : List ι) (k : ℕ) :
    ((hits retrieved expected).take k).count true ≤ (retrieved.take k).length := by
  rw [← hits_take, ← relevant_eq]
  exact List.countP_le_length

/-- There is a hit when the fraction of hits among the results is positive. -/
theorem precisionAtK_pos_iff (hexpected : expected ≠ []) (k : ℕ) :
    0 < precisionAtK retrieved expected k ↔ true ∈ (hits retrieved expected).take k := by
  rw [precisionAtK_eq hexpected, ← cast_count_pos_iff]
  constructor
  · intro h
    by_contra hnot
    rw [Nat.cast_pos, Nat.pos_iff_ne_zero, not_not] at hnot
    simp [hnot] at h
  · intro h
    exact div_pos h (h.trans_le (Nat.cast_le.2 (count_hits_le_length retrieved expected k)))

/-- A hit is not lost when more results are looked at. -/
theorem recallAtK_mono (hexpected : expected ≠ []) {k k' : ℕ} (h : k ≤ k') :
    recallAtK retrieved expected k ≤ recallAtK retrieved expected k' := by
  have hsub : ((hits retrieved expected).take k).Sublist ((hits retrieved expected).take k') :=
    (List.take_prefix_take_left h).sublist
  rw [recallAtK_eq hexpected, recallAtK_eq hexpected]
  exact div_le_div_of_nonneg_right (Nat.cast_le.2 (hsub.count_le true)) (Nat.cast_nonneg _)

theorem hitRateAtK_mono {k k' : ℕ} (h : k ≤ k') :
    hitRateAtK retrieved expected k ≤ hitRateAtK retrieved expected k' := by
  have hsub : ((hits retrieved expected).take k).Sublist ((hits retrieved expected).take k') :=
    (List.take_prefix_take_left h).sublist
  rw [hitRateAtK_eq, hitRateAtK_eq]
  split
  · next hmem => rw [if_pos (hsub.subset hmem)]
  · split
    · exact zero_le_one
    · exact le_rfl

/-- **The metrics are bounded and agree with each other.**  For distinct products and some expected
ones, all five lie between zero and one.  The gain at `k` is the best possible exactly when the
first `min |expected| k` products exist and are all expected.  There is a hit at `k` exactly when
recall, precision and gain at `k` are positive, and exactly when the reciprocal rank is at least
`1 / k`.  Recall and hit rate do not fall as `k` grows. -/
theorem metrics_consistent (hretrieved : retrieved.Nodup) (hexpected : expected ≠ []) {k : ℕ}
    (hk : 1 ≤ k) :
    (0 ≤ precisionAtK retrieved expected k ∧ precisionAtK retrieved expected k ≤ 1) ∧
    (0 ≤ recallAtK retrieved expected k ∧ recallAtK retrieved expected k ≤ 1) ∧
    (0 ≤ hitRateAtK retrieved expected k ∧ hitRateAtK retrieved expected k ≤ 1) ∧
    (0 ≤ ndcgAtK retrieved expected k ∧ ndcgAtK retrieved expected k ≤ 1) ∧
    (0 ≤ reciprocalRank retrieved expected ∧ reciprocalRank retrieved expected ≤ 1) ∧
    (ndcgAtK retrieved expected k = 1 ↔ min expected.dedup.length k ≤ retrieved.length ∧
      ∀ product ∈ retrieved.take (min expected.dedup.length k), product ∈ expected) ∧
    (hitRateAtK retrieved expected k = 1 ↔ 0 < recallAtK retrieved expected k) ∧
    (hitRateAtK retrieved expected k = 1 ↔ 0 < precisionAtK retrieved expected k) ∧
    (hitRateAtK retrieved expected k = 1 ↔ 0 < ndcgAtK retrieved expected k) ∧
    (hitRateAtK retrieved expected k = 1 ↔ 1 / (k : ℚ) ≤ reciprocalRank retrieved expected) ∧
    ∀ k', k ≤ k' → recallAtK retrieved expected k ≤ recallAtK retrieved expected k' ∧
      hitRateAtK retrieved expected k ≤ hitRateAtK retrieved expected k' := by
  have hcount := count_hits_le expected hretrieved k
  have hideal : 0 < ideal gain (idealHits expected k) :=
    ideal_strictMono gain_pos (idealHits_pos hexpected hk)
  have hnonneg := total_nonneg (fun i => (gain_pos i).le) ((hits retrieved expected).take k)
  have hbest := total_le_ideal_idealHits expected hretrieved k
  have hfound : (0 : ℚ) < expected.dedup.length := by
    exact_mod_cast (idealHits_pos hexpected hk).trans_le (min_le_left _ _)
  have hhit := hitRateAtK_eq_one_iff retrieved expected k
  refine ⟨?_, ?_, ?_, ?_, reciprocalRank_unit, ?_, ?_, ?_, ?_, ?_, ?_⟩
  · rw [precisionAtK_eq hexpected]
    exact fraction_unit (count_hits_le_length retrieved expected k)
  · rw [recallAtK_eq hexpected]
    exact fraction_unit (hcount.trans (min_le_left _ _))
  · rw [hitRateAtK_eq]
    split
    · exact ⟨zero_le_one, le_rfl⟩
    · exact ⟨le_rfl, zero_le_one⟩
  · rw [ndcgAtK_eq hexpected hk]
    exact ⟨div_nonneg hnonneg hideal.le, (div_le_one hideal).2 hbest⟩
  · rw [ndcgAtK_eq hexpected hk, div_eq_one_iff_eq hideal.ne']
    exact total_eq_ideal_iff hretrieved k
  · rw [hhit, recallAtK_eq hexpected, ← cast_count_pos_iff]
    exact (div_pos_iff_of_pos_right hfound).symm
  · rw [hhit, precisionAtK_pos_iff hexpected]
  · rw [hhit, ndcgAtK_eq hexpected hk, div_pos_iff_of_pos_right hideal, total_pos_iff gain_pos]
  · rw [hhit, le_reciprocalRank_iff hk]
  · intro k' hkk'
    exact ⟨recallAtK_mono hexpected hkk', hitRateAtK_mono hkk'⟩

end Metrics

/-- A list whose second product is expected has a positive gain at two. -/
theorem metrics_consistent_second : 0 < ndcgAtK [1, 2, 3] [2] 2 := by
  have hconsistent := metrics_consistent (by decide : [1, 2, 3].Nodup)
    (by decide : ([2] : List ℕ) ≠ []) (by decide : 1 ≤ 2)
  exact hconsistent.2.2.2.2.2.2.2.2.1.1 (by decide +kernel)

/-! ### Promotions -/

section Promotions

variable {retrieved retrieved' expected : List ι}

/-- At place `i` an expected product changes places with an unexpected one right before it. -/
def Promotion (expected : List ι) (i : ℕ) (retrieved retrieved' : List ι) : Prop :=
  ∃ before after irrelevant relevant, before.length = i ∧ irrelevant ∉ expected ∧
    relevant ∈ expected ∧ retrieved = before ++ irrelevant :: relevant :: after ∧
    retrieved' = before ++ relevant :: irrelevant :: after

/-- No metric at `k` falls. -/
structure NotWorse (expected : List ι) (k : ℕ) (retrieved retrieved' : List ι) : Prop where
  precision_le : precisionAtK retrieved expected k ≤ precisionAtK retrieved' expected k
  recall_le : recallAtK retrieved expected k ≤ recallAtK retrieved' expected k
  hitRate_le : hitRateAtK retrieved expected k ≤ hitRateAtK retrieved' expected k
  ndcg_le : ndcgAtK retrieved expected k ≤ ndcgAtK retrieved' expected k
  reciprocalRank_le : reciprocalRank retrieved expected ≤ reciprocalRank retrieved' expected

theorem NotWorse.refl (expected : List ι) (k : ℕ) (retrieved : List ι) :
    NotWorse expected k retrieved retrieved :=
  ⟨le_rfl, le_rfl, le_rfl, le_rfl, le_rfl⟩

theorem NotWorse.trans {k : ℕ} {retrieved'' : List ι} (h : NotWorse expected k retrieved retrieved')
    (h' : NotWorse expected k retrieved' retrieved'') :
    NotWorse expected k retrieved retrieved'' :=
  ⟨h.precision_le.trans h'.precision_le, h.recall_le.trans h'.recall_le,
    h.hitRate_le.trans h'.hitRate_le, h.ndcg_le.trans h'.ndcg_le,
    h.reciprocalRank_le.trans h'.reciprocalRank_le⟩

/-- A promotion of a product promotes its hit. -/
theorem Promotion.promotes {i : ℕ} (h : Promotion expected i retrieved retrieved') :
    Promotes i (hits retrieved expected) (hits retrieved' expected) := by
  obtain ⟨before, after, irrelevant, relevant, hlength, hirrelevant, hrelevant, rfl, rfl⟩ := h
  refine ⟨hits before expected, hits after expected, by simpa [hits] using hlength, ?_, ?_⟩
  · simp [hits, hirrelevant, hrelevant]
  · simp [hits, hirrelevant, hrelevant]

omit [DecidableEq ι] in
theorem Promotion.length_eq {i : ℕ} (h : Promotion expected i retrieved retrieved') :
    retrieved'.length = retrieved.length := by
  obtain ⟨before, after, irrelevant, relevant, -, -, -, rfl, rfl⟩ := h
  simp

omit [DecidableEq ι] in
/-- Something is expected where something is promoted. -/
theorem Promotion.expected_ne_nil {i : ℕ} (h : Promotion expected i retrieved retrieved') :
    expected ≠ [] := by
  obtain ⟨_, _, _, relevant, -, -, hrelevant, -, -⟩ := h
  exact List.ne_nil_of_mem hrelevant

/-- A promotion keeps a hit among the first `k`. -/
theorem Promotion.true_mem_take {i : ℕ} (h : Promotion expected i retrieved retrieved') {k : ℕ}
    (hmem : true ∈ (hits retrieved expected).take k) :
    true ∈ (hits retrieved' expected).take k := by
  rw [← List.count_pos_iff] at hmem ⊢
  exact hmem.trans_le (count_promote_le h.promotes k)

/-- **A promotion raises the gain** at every `k` beyond its place. -/
theorem Promotion.ndcgAtK_lt {i : ℕ} (h : Promotion expected i retrieved retrieved') {k : ℕ}
    (hi : i < k) : ndcgAtK retrieved expected k < ndcgAtK retrieved' expected k := by
  have hk : 1 ≤ k := by omega
  have hexpected := h.expected_ne_nil
  have hideal : 0 < ideal gain (idealHits expected k) :=
    ideal_strictMono gain_pos (idealHits_pos hexpected hk)
  rw [ndcgAtK_eq hexpected hk, ndcgAtK_eq hexpected hk]
  exact div_lt_div_of_pos_right (total_promote_lt gain_pos gain_strictAnti h.promotes hi) hideal

/-- A promotion changes no gain at its place or before it. -/
theorem Promotion.ndcgAtK_eq_of_le {i : ℕ} (h : Promotion expected i retrieved retrieved') {k : ℕ}
    (hi : k ≤ i) : ndcgAtK retrieved' expected k = ndcgAtK retrieved expected k := by
  obtain ⟨before, after, irrelevant, relevant, hlength, -, -, rfl, rfl⟩ := h
  have htake : ∀ rest, (before ++ rest).take k = before.take k := fun rest =>
    List.take_append_of_le_length (by omega)
  rw [ndcgAtK, ndcgAtK, htake, htake]

theorem Promotion.reciprocalRank_le {i : ℕ} (h : Promotion expected i retrieved retrieved') :
    reciprocalRank retrieved expected ≤ reciprocalRank retrieved' expected := by
  rw [reciprocalRank_eq retrieved]
  split
  · next hmem =>
    -- the first hit is at some place, and the promotion keeps a hit up to there
    have hfirst := (List.mem_take_iff_idxOf_lt hmem).2
      (Nat.lt_succ_self ((hits retrieved expected).idxOf true))
    have hreach := (le_reciprocalRank_iff (Nat.succ_pos _)).2 (h.true_mem_take hfirst)
    rwa [Nat.succ_eq_add_one, Nat.cast_add_one] at hreach
  · exact reciprocalRank_unit.1

/-- A promotion lowers no metric. -/
theorem Promotion.notWorse {i : ℕ} (h : Promotion expected i retrieved retrieved') (k : ℕ) :
    NotWorse expected k retrieved retrieved' := by
  have hexpected := h.expected_ne_nil
  have hcount : (((hits retrieved expected).take k).count true : ℚ) ≤
      ((hits retrieved' expected).take k).count true :=
    Nat.cast_le.2 (count_promote_le h.promotes k)
  refine ⟨?_, ?_, ?_, ?_, h.reciprocalRank_le⟩
  · rw [precisionAtK_eq hexpected, precisionAtK_eq hexpected, List.length_take, List.length_take,
      h.length_eq]
    exact div_le_div_of_nonneg_right hcount (Nat.cast_nonneg _)
  · rw [recallAtK_eq hexpected, recallAtK_eq hexpected]
    exact div_le_div_of_nonneg_right hcount (Nat.cast_nonneg _)
  · rw [hitRateAtK_eq, hitRateAtK_eq]
    split
    · next hmem => rw [if_pos (h.true_mem_take hmem)]
    · split
      · exact zero_le_one
      · exact le_rfl
  · rcases Nat.lt_or_ge i k with hi | hi
    · exact (h.ndcgAtK_lt hi).le
    · exact (h.ndcgAtK_eq_of_le hi).ge

/-- **Ranking better never scores worse.**  An expected product that changes places with an
unexpected one right before it lowers no metric at any `k`, and raises the gain at every `k` beyond
that place.  Hence no sequence of such promotions lowers a metric. -/
theorem promotions_never_lower (expected : List ι) (k : ℕ) :
    (∀ i retrieved retrieved', Promotion expected i retrieved retrieved' →
      NotWorse expected k retrieved retrieved' ∧
      (i < k → ndcgAtK retrieved expected k < ndcgAtK retrieved' expected k)) ∧
    ∀ retrieved retrieved',
      Relation.ReflTransGen (fun a b => ∃ i, Promotion expected i a b) retrieved retrieved' →
        NotWorse expected k retrieved retrieved' := by
  constructor
  · intro i retrieved retrieved' h
    exact ⟨h.notWorse k, h.ndcgAtK_lt⟩
  · intro retrieved retrieved' h
    induction h with
    | refl => exact NotWorse.refl expected k retrieved
    | tail _ hlast ih =>
      obtain ⟨i, hlast⟩ := hlast
      exact ih.trans (hlast.notWorse k)

/-- The second of three products is promoted to the first place. -/
theorem promotions_never_lower_second : ndcgAtK [1, 2, 3] [2] 1 < ndcgAtK [2, 1, 3] [2] 1 := by
  have hpromotion : Promotion [2] 0 [1, 2, 3] [2, 1, 3] :=
    ⟨[], [3], 1, 2, rfl, by decide, by decide, rfl, rfl⟩
  exact ((promotions_never_lower [2] 1).1 0 _ _ hpromotion).2 Nat.one_pos

end Promotions

end ProductIntelligence

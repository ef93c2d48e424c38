import ProductIntelligence.Duplicates.Verification
import ProductIntelligence.Search.Reranking

/-!
# Verification judges the best candidate

Only the candidate that the cross-encoder ranks first is checked against the business rules.  One
that is vetoed there hides every candidate behind it, however good.

## Main definitions

* `DuplicateVerificationService.judge` — what `verify` does with the candidates it retrieves.
* `Reaches`, `Vetoes` — a candidate reaches the threshold, and the rules veto it.

## Main results

* `isDuplicate_iff_best` — the verdict is that on the best candidate.
* `verify_finds_best` — when a duplicate is found, and what hides one.
* `vetoed_best_hides_duplicate` — **a vetoed candidate hides a duplicate**.

## References

`backend/app/services/duplicate/duplicate_verification_service.py`,
`backend/app/services/duplicate/business_rules_evaluator.py`.
-/

namespace ProductIntelligence

open Ranking

variable {ι V ε : Type} [DecidableEq ι]

namespace DuplicateVerificationService

variable (service : DuplicateVerificationService ι V ε) (store : VectorStore ι V)

/-- The verdict on the candidates that were retrieved. -/
def judge (product : CheckedProduct) (price : Option ℚ) (candidates : List (HybridSearchResult ι))
    (topK : ℕ) : Except (AppException ι ε) (DuplicateVerification ι) :=
  if candidates.isEmpty then noCandidates
  else
    service.report product price candidates
      (service.reranker.rerank product.text candidates (some topK)).candidates

/-- The candidates that are retrieved for a product. -/
def retrieve (product : CheckedProduct) (topK : Option ℕ) :
    Except (AppException ι ε) (List (HybridSearchResult ι)) :=
  service.hybridSearch.search store (some product.image) (some product.text)
    (some (topK.getD service.topK)) none (some false)

theorem verify_eq (product : CheckedProduct) (price : Option ℚ) (topK : Option ℕ) :
    service.verify store product price topK = (do
      let candidates ← service.retrieve store product topK
      service.judge product price candidates (topK.getD service.topK)) := rfl

omit [DecidableEq ι] in
/-- The cross-encoder score of a candidate reaches the threshold. -/
def Reaches (scored : HybridSearchResult ι × ℚ) : Prop :=
  service.crossEncoderThreshold ≤ service.reranker.normalize scored.2

omit [DecidableEq ι] in
/-- The business rules veto a candidate. -/
def Vetoes (product : CheckedProduct) (price : Option ℚ) (candidate : HybridSearchResult ι) :
    Prop :=
  (evaluate service.businessRules product.name product.brand product.category price
    product.attributes candidate.metadata).veto = true

/-- What a report says of its best candidate. -/
theorem isDuplicate_of_report {product : CheckedProduct} {price : Option ℚ}
    {candidates : List (HybridSearchResult ι)} {best : RerankedCandidate ι}
    {rest : List (RerankedCandidate ι)} {verification : DuplicateVerification ι}
    (h : service.report product price candidates (best :: rest) = .ok verification) :
    verification.isDuplicate = (decide (service.crossEncoderThreshold ≤ best.rerankScore) &&
      !(service.businessResult product price best).veto) := by
  obtain ⟨_, -, h⟩ := Except.bind_eq_ok.1 h
  obtain ⟨_, -, h⟩ := Except.bind_eq_ok.1 h
  rw [checkVerification_eq] at h
  split at h
  · cases h
    rfl
  · cases h

/-- **The verdict is that on the best candidate**, if all of them are reranked. -/
theorem isDuplicate_iff_best {product : CheckedProduct} {price : Option ℚ}
    {candidates : List (HybridSearchResult ι)} {topK : ℕ} {verification : DuplicateVerification ι}
    (hpool : candidates.length ≤ service.reranker.topN) (htopK : candidates.length ≤ topK)
    (h : service.judge product price candidates topK = .ok verification) :
    verification.isDuplicate = true ↔
      ∃ best ∈ (service.reranker.scored product.text candidates).head?,
        service.Reaches best ∧ ¬ service.Vetoes product price best.1 := by
  have hlength := service.reranker.length_scored product.text candidates
  have hreranked := service.reranker.candidates_rerank product.text candidates (some topK)
  rw [List.take_of_length_le hpool, Option.getD_some,
    List.take_of_length_le (hlength.trans_le htopK)] at hreranked
  rw [judge, hreranked] at h
  cases hscored : service.reranker.scored product.text candidates with
  | nil =>
    rw [hscored, List.length_nil] at hlength
    have hnil : candidates = [] := List.length_eq_zero_iff.1 hlength.symm
    rw [hnil] at h
    have hno : verification.isDuplicate = false := by
      obtain ⟨_, -, h⟩ := Except.bind_eq_ok.1 (show noCandidates = .ok verification from h)
      rw [checkVerification_eq] at h
      split at h
      · cases h
        rfl
      · cases h
    simp [hno]
  | cons best rest =>
    have hsome : candidates.isEmpty = false := by
      rw [Bool.eq_false_iff, Ne, List.isEmpty_iff]
      rintro rfl
      rw [hscored] at hlength
      cases hlength
    rw [hscored, hsome] at h
    have hverdict := service.isDuplicate_of_report h
    rw [hverdict, List.head?_cons]
    simp only [Bool.and_eq_true, decide_eq_true_eq, Bool.not_eq_true', Option.mem_some_iff,
      exists_eq_left', Reaches, Vetoes, Bool.not_eq_true]
    exact Iff.rfl

omit [DecidableEq ι] in
/-- Whoever is ranked before a candidate that reaches the threshold reaches it too. -/
theorem reaches_of_le (hnormalize : Monotone service.reranker.normalize)
    {a b : HybridSearchResult ι × ℚ} (h : a.2 ≤ b.2) (ha : service.Reaches a) :
    service.Reaches b :=
  ha.trans (hnormalize h)

omit [DecidableEq ι] in
/-- The first of a ranking reaches the threshold if one does that is vetoed no more than all
before it. -/
theorem exists_best_of_unvetoed (hnormalize : Monotone service.reranker.normalize)
    {product : CheckedProduct} {price : Option ℚ}
    {before after : List (HybridSearchResult ι × ℚ)} {candidate : HybridSearchResult ι × ℚ}
    (hsorted : (before ++ candidate :: after).Pairwise fun a b => b.2 ≤ a.2)
    (hreaches : service.Reaches candidate)
    (hvetoes : ∀ c ∈ before ++ [candidate], ¬ service.Vetoes product price c.1) :
    ∃ best ∈ (before ++ candidate :: after).head?,
      service.Reaches best ∧ ¬ service.Vetoes product price best.1 := by
  cases before with
  | nil => exact ⟨candidate, rfl, hreaches, hvetoes candidate (by simp)⟩
  | cons best before =>
    rw [List.cons_append, List.pairwise_cons] at hsorted
    exact ⟨best, rfl, service.reaches_of_le hnormalize (hsorted.1 candidate (by simp)) hreaches,
      hvetoes best (by simp)⟩

omit [DecidableEq ι] in
/-- Without a gate nothing is vetoed. -/
theorem not_vetoes (hbrand : service.businessRules.requireSameBrand = false)
    (hcategory : service.businessRules.requireSameCategory = false) (product : CheckedProduct)
    (price : Option ℚ) (candidate : HybridSearchResult ι) :
    ¬ service.Vetoes product price candidate := by
  intro hveto
  rw [Vetoes, veto_evaluate, hbrand, hcategory] at hveto
  simp at hveto

omit [DecidableEq ι] in
/-- An addition to a ranking hides what was found only from the first place, and vetoed there. -/
theorem vetoed_of_hidden (hnormalize : Monotone service.reranker.normalize)
    {product : CheckedProduct} {price : Option ℚ} {r₁ r₂ : List (HybridSearchResult ι × ℚ)}
    {added : HybridSearchResult ι × ℚ}
    (hsorted : (r₁ ++ added :: r₂).Pairwise fun a b => b.2 ≤ a.2)
    (hfound : ∃ best ∈ (r₁ ++ r₂).head?,
      service.Reaches best ∧ ¬ service.Vetoes product price best.1)
    (hnone : ¬ ∃ best ∈ (r₁ ++ added :: r₂).head?,
      service.Reaches best ∧ ¬ service.Vetoes product price best.1) :
    (r₁ ++ added :: r₂).head? = some added ∧ service.Vetoes product price added.1 := by
  obtain ⟨best, hmem, hreaches, hveto⟩ := hfound
  cases r₁ with
  | cons first r₁ =>
    -- the best candidate is still the best
    exact absurd ⟨best, hmem, hreaches, hveto⟩ hnone
  | nil =>
    refine ⟨rfl, ?_⟩
    have hle := (List.pairwise_cons.1 hsorted).1 best (List.mem_of_mem_head? hmem)
    by_contra hnotVetoed
    exact hnone ⟨added, rfl, service.reaches_of_le hnormalize hle hreaches, hnotVetoed⟩

/-- **What hides a duplicate.**  Of candidates that are all reranked, verification reports a
duplicate exactly when the first one of highest score reaches the threshold and is not vetoed.
Hence it finds a candidate that reaches the threshold whenever neither it nor a candidate ranked
before it is vetoed, and always when no gate is set.  One more candidate, which leaves the scores
of the others as they are, turns a duplicate into none only if it is ranked first and is vetoed. -/
theorem verify_finds_best (hnormalize : Monotone service.reranker.normalize)
    {product : CheckedProduct} {price : Option ℚ} {topK : Option ℕ}
    {candidates : List (HybridSearchResult ι)} {verification : DuplicateVerification ι}
    (hretrieve : service.retrieve store product topK = .ok candidates)
    (hpool : candidates.length ≤ service.reranker.topN)
    (htopK : candidates.length ≤ topK.getD service.topK)
    (hverify : service.verify store product price topK = .ok verification) :
    (verification.isDuplicate = true ↔
      ∃ best ∈ (service.reranker.scored product.text candidates).head?,
        service.Reaches best ∧ ¬ service.Vetoes product price best.1) ∧
    (∀ before after candidate,
      service.reranker.scored product.text candidates = before ++ candidate :: after →
      service.Reaches candidate →
      (∀ c ∈ before ++ [candidate], ¬ service.Vetoes product price c.1) →
        verification.isDuplicate = true) ∧
    (service.businessRules.requireSameBrand = false →
      service.businessRules.requireSameCategory = false →
      (verification.isDuplicate = true ↔
        ∃ c ∈ service.reranker.paired product.text candidates, service.Reaches c)) ∧
    ∀ (store' : VectorStore ι V) (candidates' : List (HybridSearchResult ι))
      (verification' : DuplicateVerification ι) (l₁ l₂ : List (HybridSearchResult ι × ℚ))
      (added : HybridSearchResult ι × ℚ),
      service.retrieve store' product topK = .ok candidates' →
      candidates'.length ≤ service.reranker.topN →
      candidates'.length ≤ topK.getD service.topK →
      service.verify store' product price topK = .ok verification' →
      service.reranker.paired product.text candidates = l₁ ++ l₂ →
      service.reranker.paired product.text candidates' = l₁ ++ added :: l₂ →
      verification.isDuplicate = true → verification'.isDuplicate = false →
        (service.reranker.scored product.text candidates').head? = some added ∧
          service.Vetoes product price added.1 := by
  rw [verify_eq, hretrieve] at hverify
  have hbest := service.isDuplicate_iff_best hpool htopK hverify
  have hsorted : ∀ candidates : List (HybridSearchResult ι),
      (service.reranker.scored product.text candidates).Pairwise fun a b => b.2 ≤ a.2 :=
    fun candidates => rank_sorted Prod.snd (service.reranker.paired product.text candidates)
  refine ⟨hbest, ?_, ?_, ?_⟩
  · intro before after candidate hscored hreaches hvetoes
    have hranked := hsorted candidates
    rw [hscored] at hranked
    rw [hbest, hscored]
    exact service.exists_best_of_unvetoed hnormalize hranked hreaches hvetoes
  · intro hbrand hcategory
    have hvetoes := service.not_vetoes hbrand hcategory product price
    rw [hbest]
    constructor
    · rintro ⟨best, hmem, hreaches, -⟩
      exact ⟨best, (mem_rank Prod.snd).1 (List.mem_of_mem_head? hmem), hreaches⟩
    · rintro ⟨c, hc, hreaches⟩
      have hmem : c ∈ service.reranker.scored product.text candidates := (mem_rank Prod.snd).2 hc
      obtain ⟨before, after, hscored⟩ := List.append_of_mem hmem
      have hranked := hsorted candidates
      rw [hscored] at hranked ⊢
      exact service.exists_best_of_unvetoed hnormalize hranked hreaches fun c _ => hvetoes c.1
  · intro store' candidates' verification' l₁ l₂ added hretrieve' hpool' htopK' hverify' hpaired
      hpaired' hduplicate hnot
    rw [verify_eq, hretrieve'] at hverify'
    have hbest' := service.isDuplicate_iff_best hpool' htopK' hverify'
    -- the new candidate goes somewhere into the ranking of the others
    obtain ⟨r₁, r₂, hwith, hwithout⟩ := exists_rank_insert Prod.snd l₁ added l₂
    have hscored : service.reranker.scored product.text candidates = r₁ ++ r₂ := by
      rw [← hwithout, ← hpaired]
      rfl
    have hscored' : service.reranker.scored product.text candidates' = r₁ ++ added :: r₂ := by
      rw [← hwith, ← hpaired']
      rfl
    have hranked := hsorted candidates'
    have hfound := hbest.1 hduplicate
    have hnone : ¬ ∃ best ∈ (service.reranker.scored product.text candidates').head?,
        service.Reaches best ∧ ¬ service.Vetoes product price best.1 := by
      rw [← hbest', hnot]
      simp
    rw [hscored] at hfound
    rw [hscored'] at hnone hranked ⊢
    exact service.vetoed_of_hidden hnormalize hranked hfound hnone

end DuplicateVerificationService

/-! ### Two brands -/

namespace TwoBrands

/-- A stored shoe of a brand; all shoes look the same. -/
def shoe (productId : ℕ) (brand description : Text) : StoredPoint ℕ Unit where
  productId := productId
  vector := ()
  metadata := vectorMetadata ⟨"Shoe".toList, some brand, some description, none, none⟩
    ⟨"a.png".toList, "b.png".toList, "image/png".toList, 1, 0⟩ ⟨ProductAttributes.empty, [], 0⟩

/-- The shoe of brand `A` alone. -/
def same : VectorStore ℕ Unit :=
  let points := Collection.empty.upsert (shoe 0 ['A'] "new".toList)
  ⟨points, points⟩

/-- And one of brand `B`, with a longer description. -/
def both : VectorStore ℕ Unit :=
  let points := same.image.upsert (shoe 1 ['B'] "brand new".toList)
  ⟨points, points⟩

theorem topN_pos : 0 < 50 := Nat.succ_pos 49

/-- A reranker that scores a document by its length in hundreds. -/
def reranker : RerankerService ℕ where
  crossEncoder := ⟨fun pairs => pairs.map fun pair => pair.2.length / 100,
    fun _ => List.length_map _⟩
  topN := 50
  topN_pos := topN_pos
  normalize := clamp
  idText := fun _ => ['0']

/-- Verification with the brand gate and a low threshold. -/
def service : DuplicateVerificationService ℕ Unit Unit where
  hybridSearch := { Resubmitted.hybridSearch with reranker := reranker }
  reranker := reranker
  businessRules := ⟨true, false, 25 / 100, 85 / 100⟩
  topK := 10
  crossEncoderThreshold := 1 / 100
  crossEncoderWeight := 7 / 10
  businessRulesWeight := 3 / 10

/-- A shoe of brand `A` is submitted again. -/
def product : CheckedProduct where
  name := "Shoe".toList
  brand := some ['A']
  category := none
  description := none
  attributes := ProductAttributes.empty
  image := ⟨"a.png".toList, "c.png".toList, "image/png".toList, 1, 1⟩

/-- A stored shoe as a search finds it. -/
def hit (productId : ℕ) (brand description : Text) : HybridSearchResult ℕ :=
  ⟨productId, 1, (shoe productId brand description).metadata, [.image, .text], 1, 1⟩

/-- The shoe of the same brand. -/
def first : HybridSearchResult ℕ := hit 0 ['A'] "new".toList

/-- The shoe of the other brand. -/
def second : HybridSearchResult ℕ := hit 1 ['B'] "brand new".toList

theorem retrieve_same : service.retrieve same product none = .ok [first] := by decide +kernel

theorem retrieve_both : service.retrieve both product none = .ok [first, second] := by
  decide +kernel

theorem isDuplicate_same : (service.verify same product none none).toOption.map
    DuplicateVerification.isDuplicate = some true := by decide +kernel

theorem isDuplicate_both : (service.verify both product none none).toOption.map
    DuplicateVerification.isDuplicate = some false := by decide +kernel

end TwoBrands

/-- **A vetoed candidate hides a duplicate.**  Against the shoe of its own brand a product is a
duplicate.  Against both shoes it is not, although the first of them still reaches the threshold
and is not vetoed: the second one is ranked before it. -/
theorem vetoed_best_hides_duplicate :
    (TwoBrands.service.verify TwoBrands.same TwoBrands.product none none).toOption.map
        DuplicateVerification.isDuplicate = some true ∧
      (∃ candidates, TwoBrands.service.retrieve TwoBrands.both TwoBrands.product none =
          .ok candidates ∧
        candidates.length ≤ TwoBrands.service.reranker.topN ∧
        candidates.length ≤ TwoBrands.service.topK ∧
        ∃ c ∈ TwoBrands.service.reranker.paired TwoBrands.product.text candidates,
          TwoBrands.service.Reaches c ∧
            ¬ TwoBrands.service.Vetoes TwoBrands.product none c.1) ∧
      (TwoBrands.service.verify TwoBrands.both TwoBrands.product none none).toOption.map
        DuplicateVerification.isDuplicate = some false := by
  refine ⟨TwoBrands.isDuplicate_same, ?_, TwoBrands.isDuplicate_both⟩
  refine ⟨_, TwoBrands.retrieve_both, by decide, by decide, ?_⟩
  refine ⟨(TwoBrands.first, 12 / 100), ?_, ?_, ?_⟩
  · decide +kernel
  · unfold DuplicateVerificationService.Reaches
    decide +kernel
  · unfold DuplicateVerificationService.Vetoes
    decide +kernel

/-- What turned the verdict is the second shoe, which is ranked first and vetoed. -/
theorem verify_finds_best_two_brands :
    (TwoBrands.service.reranker.scored TwoBrands.product.text
        [TwoBrands.first, TwoBrands.second]).head? = some (TwoBrands.second, 18 / 100) ∧
      TwoBrands.service.Vetoes TwoBrands.product none TwoBrands.second := by
  have hnormalize : Monotone TwoBrands.service.reranker.normalize := fun a b h =>
    max_le_max le_rfl (min_le_min le_rfl h)
  have hsame := TwoBrands.isDuplicate_same
  have hboth := TwoBrands.isDuplicate_both
  cases hverify : TwoBrands.service.verify TwoBrands.same TwoBrands.product none none with
  | error e =>
    rw [hverify] at hsame
    cases hsame
  | ok verification =>
    cases hverify' : TwoBrands.service.verify TwoBrands.both TwoBrands.product none none with
    | error e =>
      rw [hverify'] at hboth
      cases hboth
    | ok verification' =>
      rw [hverify] at hsame
      rw [hverify'] at hboth
      exact (TwoBrands.service.verify_finds_best TwoBrands.same hnormalize TwoBrands.retrieve_same
        (by decide) (by decide) hverify).2.2.2 TwoBrands.both [TwoBrands.first, TwoBrands.second]
          verification' [(TwoBrands.first, 12 / 100)] [] (TwoBrands.second, 18 / 100)
          TwoBrands.retrieve_both (by decide) (by decide) hverify' (by decide +kernel)
          (by decide +kernel) (Option.some.inj hsame) (Option.some.inj hboth)

end ProductIntelligence

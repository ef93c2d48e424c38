import ProductIntelligence.Duplicates.BusinessRules
import ProductIntelligence.Duplicates.Detection

/-!
# Duplicate verification and its weights

Verification retrieves candidates, reranks them with the cross-encoder, checks the best one
against the business rules and blends the two scores into a confidence.

The settings accept weights whose sum misses one by a small tolerance.  The models that the
weights go into, a signal and a verification, bound them and the blend by one.  The overall
similarity of a candidate is clamped before it is stored; the weight of a signal and the
confidence of a verification are not.

## Main definitions

* `DuplicateDetectionSettings`, `DuplicateVerificationSettings` — the accepted settings.
* `DuplicateVerificationService.verify` — the verification pipeline.

## Main results

* `verify_valid` — with weights that do not exceed one every model of a verification is valid.
* `scoring_never_crashes_iff` — for which accepted settings no model is ever invalid.

## References

`backend/app/core/settings.py`, `backend/app/models/duplicate_verification.py`,
`backend/app/services/duplicate/duplicate_verification_service.py`.
-/

namespace ProductIntelligence

open Ranking

variable {ι V ε : Type}

/-! ### Settings -/

/-- The weights of `DuplicateDetectionSettings`, as its validators accept them. -/
structure DuplicateDetectionSettings where
  imageWeight : ℚ
  textWeight : ℚ
  metadataWeight : ℚ
  attributeWeight : ℚ
  nonneg : 0 ≤ imageWeight ∧ 0 ≤ textWeight ∧ 0 ≤ metadataWeight ∧ 0 ≤ attributeWeight
  sum_to_one : |imageWeight + textWeight + metadataWeight + attributeWeight - 1| ≤ weightTolerance

/-- `DuplicateVerificationSettings`, as its validators accept it. -/
structure DuplicateVerificationSettings where
  crossEncoderThreshold : ℚ
  requireSameBrand : Bool
  requireSameCategory : Bool
  maxPriceDifferenceRatio : ℚ
  crossEncoderWeight : ℚ
  businessRulesWeight : ℚ
  titleSimilarityThreshold : ℚ
  thresholds : InUnit crossEncoderThreshold ∧ 0 ≤ maxPriceDifferenceRatio ∧
    InUnit titleSimilarityThreshold
  weights : InUnit crossEncoderWeight ∧ InUnit businessRulesWeight
  sum_to_one : |crossEncoderWeight + businessRulesWeight - 1| ≤ weightTolerance

/-- The scorer a configuration builds. -/
def DuplicateDetectionSettings.scorer (settings : DuplicateDetectionSettings) :
    SimilarityScorer where
  imageWeight := settings.imageWeight
  textWeight := settings.textWeight
  metadataWeight := settings.metadataWeight
  attributeWeight := settings.attributeWeight

/-- The business rules a configuration builds. -/
def DuplicateVerificationSettings.rules (settings : DuplicateVerificationSettings) :
    BusinessRulesEvaluator where
  requireSameBrand := settings.requireSameBrand
  requireSameCategory := settings.requireSameCategory
  maxPriceDifferenceRatio := settings.maxPriceDifferenceRatio
  titleSimilarityThreshold := settings.titleSimilarityThreshold

/-- A blend of two numbers of the unit interval, with weights that do not exceed one. -/
theorem inUnit_blend {w w' q q' : ℚ} (hw : 0 ≤ w) (hw' : 0 ≤ w') (hsum : w + w' ≤ 1)
    (hq : InUnit q) (hq' : InUnit q') : InUnit (w * q + w' * q') := by
  constructor
  · exact add_nonneg (mul_nonneg hw hq.1) (mul_nonneg hw' hq'.1)
  · calc w * q + w' * q' ≤ w * 1 + w' * 1 :=
          add_le_add (mul_le_mul_of_nonneg_left hq.2 hw) (mul_le_mul_of_nonneg_left hq'.2 hw')
      _ ≤ 1 := by rwa [mul_one, mul_one]

/-! ### Checked models -/

/-- The check of bounded fields: pydantic names those outside the unit interval. -/
def checkUnit (fields : List (Text × ℚ)) : Except (AppException ι ε) Unit :=
  let invalid := (fields.filter fun field => ¬ InUnit field.2).map Prod.fst
  if invalid = [] then pure () else throw (.invalidModel invalid)

theorem checkUnit_ok {fields : List (Text × ℚ)} (h : ∀ field ∈ fields, InUnit field.2) :
    (checkUnit fields : Except (AppException ι ε) Unit) = .ok () := by
  have hvalid : fields.filter (fun field => ¬ InUnit field.2) = [] := by
    simpa [List.filter_eq_nil_iff] using h
  rw [checkUnit, hvalid]
  rfl

/-- The check of a `VerificationReason`: its code is never empty. -/
def checkReason (reason : VerificationReason) : Except (AppException ι ε) VerificationReason :=
  if reason.message = [] then throw (.invalidModel ["message".toList]) else pure reason

theorem checkReason_ok {reason : VerificationReason} (h : reason.message ≠ []) :
    (checkReason reason : Except (AppException ι ε) _) = .ok reason := by
  rw [checkReason, if_neg h]
  rfl

/-- The check of a `DuplicateCandidate`. -/
def checkCandidate (candidate : DuplicateCandidate ι) :
    Except (AppException ι ε) (DuplicateCandidate ι) := do
  checkUnit [("image_similarity".toList, candidate.imageSimilarity),
    ("text_similarity".toList, candidate.textSimilarity),
    ("metadata_similarity".toList, candidate.metadataSimilarity),
    ("attribute_similarity".toList, candidate.attributeSimilarity),
    ("overall_similarity".toList, candidate.overallSimilarity)]
  return candidate

/-- The verdict on a checked product, and the two signals behind it. -/
structure DuplicateVerification (ι : Type) where
  isDuplicate : Bool
  confidence : ℚ
  crossEncoderScore : Option ℚ
  retrievalSimilarity : Option ℚ
  matchedProduct : Option ι
  reasons : List VerificationReason
  topCandidates : List (DuplicateCandidate ι)
  deriving DecidableEq

/-- The check of a `DuplicateVerification`. -/
def checkVerification (verification : DuplicateVerification ι) :
    Except (AppException ι ε) (DuplicateVerification ι) := do
  checkUnit [("confidence".toList, verification.confidence)]
  return verification

/-! ### The pipeline -/

/-- `_to_candidate`: a reranked candidate with the scores of its retrieval. -/
def toVerifiedCandidate (reranked : RerankedCandidate ι)
    (original : Option (HybridSearchResult ι)) :
    DuplicateCandidate ι where
  productId := reranked.productId
  imageSimilarity := clamp ((original.map HybridSearchResult.imageScore).getD 0)
  textSimilarity := clamp ((original.map HybridSearchResult.textScore).getD 0)
  metadataSimilarity := 0
  attributeSimilarity := 0
  overallSimilarity := clamp reranked.rerankScore

/-- The verification service: retrieval, reranker, business rules and settings. -/
structure DuplicateVerificationService (ι V ε : Type) where
  hybridSearch : HybridSearchService ι V ε
  reranker : RerankerService ι
  businessRules : BusinessRulesEvaluator
  topK : ℕ
  crossEncoderThreshold : ℚ
  crossEncoderWeight : ℚ
  businessRulesWeight : ℚ

/-- The service a configuration builds around a search and a reranker. -/
def DuplicateVerificationService.ofSettings (settings : DuplicateVerificationSettings)
    (hybridSearch : HybridSearchService ι V ε) (reranker : RerankerService ι) (topK : ℕ) :
    DuplicateVerificationService ι V ε where
  hybridSearch := hybridSearch
  reranker := reranker
  businessRules := settings.rules
  topK := topK
  crossEncoderThreshold := settings.crossEncoderThreshold
  crossEncoderWeight := settings.crossEncoderWeight
  businessRulesWeight := settings.businessRulesWeight

namespace DuplicateVerificationService

variable [DecidableEq ι] (service : DuplicateVerificationService ι V ε)
  (store : VectorStore ι V)

/-- Why there is no verdict without candidates. -/
def noCandidatesReason : VerificationReason :=
  ⟨.noCandidates, "No existing products were found to compare against.".toList⟩

omit [DecidableEq ι] in
/-- The verdict when nothing was found to compare against. -/
def noCandidates : Except (AppException ι ε) (DuplicateVerification ι) := do
  let reason ← checkReason noCandidatesReason
  checkVerification
    { isDuplicate := false
      confidence := 0
      crossEncoderScore := none
      retrievalSimilarity := none
      matchedProduct := none
      reasons := [reason]
      topCandidates := [] }

omit [DecidableEq ι] in
/-- What the cross-encoder made of the best candidate. -/
def crossEncoderReason (score : ℚ) : VerificationReason where
  code := .crossEncoder
  message := "Cross-encoder relevance ".toList ++ twoDecimals score ++
    (if service.crossEncoderThreshold ≤ score then " meets".toList else " is below".toList) ++
    " the ".toList ++ twoDecimals service.crossEncoderThreshold ++ " threshold.".toList

omit [DecidableEq ι] in
/-- The business rules applied to the best candidate. -/
def businessResult (product : CheckedProduct) (price : Option ℚ) (best : RerankedCandidate ι) :
    BusinessRulesResult :=
  evaluate service.businessRules product.name product.brand product.category price
    product.attributes best.metadata

omit [DecidableEq ι] in
/-- The blend of the two scores, which is not clamped. -/
def confidence (product : CheckedProduct) (price : Option ℚ) (best : RerankedCandidate ι) : ℚ :=
  service.crossEncoderWeight * best.rerankScore +
    service.businessRulesWeight * (service.businessResult product price best).score

/-- The verdict on the reranked candidates. -/
def report (product : CheckedProduct) (price : Option ℚ)
    (candidates : List (HybridSearchResult ι)) :
    List (RerankedCandidate ι) → Except (AppException ι ε) (DuplicateVerification ι)
  | [] => throw .indexError
  | best :: rest => do
    let business := service.businessResult product price best
    let reasons ← (service.crossEncoderReason best.rerankScore :: business.reasons).mapM checkReason
    let topCandidates ← (best :: rest).mapM fun reranked =>
      checkCandidate (toVerifiedCandidate reranked (byId candidates reranked.productId))
    checkVerification
      { isDuplicate := service.crossEncoderThreshold ≤ best.rerankScore && !business.veto
        confidence := service.confidence product price best
        crossEncoderScore := some best.rerankScore
        retrievalSimilarity := some best.originalScore
        matchedProduct := some best.productId
        reasons := reasons
        topCandidates := topCandidates }

/-- `verify`: retrieve, rerank, validate and report. -/
def verify (product : CheckedProduct) (price : Option ℚ) (topK : Option ℕ) :
    Except (AppException ι ε) (DuplicateVerification ι) := do
  let topK := topK.getD service.topK
  -- the search must not rerank as well: the pipeline does it itself
  let candidates ← service.hybridSearch.search store (some product.image) (some product.text)
    (some topK) none (some false)
  if candidates.isEmpty then noCandidates
  else
    service.report product price candidates
      (service.reranker.rerank product.text candidates (some topK)).candidates

/-! ### What can be invalid -/

omit [DecidableEq ι] in
/-- Only the confidence of a verification can be invalid. -/
theorem checkVerification_eq (verification : DuplicateVerification ι) :
    (checkVerification verification : Except (AppException ι ε) _) =
      if InUnit verification.confidence then .ok verification
      else .error (.invalidModel ["confidence".toList]) := by
  unfold checkVerification checkUnit
  by_cases h : InUnit verification.confidence
  · simp [h]
    rfl
  · simp [h]
    rfl

omit [DecidableEq ι] in
/-- The candidates of a verification are clamped, hence valid. -/
theorem checkCandidate_ok (reranked : RerankedCandidate ι)
    (original : Option (HybridSearchResult ι)) :
    (checkCandidate (toVerifiedCandidate reranked original) : Except (AppException ι ε) _) =
      .ok (toVerifiedCandidate reranked original) := by
  have hclamp : ∀ q : ℚ, InUnit (clamp q) := fun q => ⟨clamp_nonneg q, clamp_le_one q⟩
  have hzero : InUnit 0 := ⟨le_refl 0, zero_le_one⟩
  rw [checkCandidate, checkUnit_ok]
  · rfl
  · simp [toVerifiedCandidate, hclamp, hzero]

omit [DecidableEq ι] in
theorem crossEncoderReason_message_ne (score : ℚ) :
    (service.crossEncoderReason score).message ≠ [] := by
  have hprefix : "Cross-encoder relevance ".toList ≠ [] := by decide
  simp only [crossEncoderReason, ne_eq, List.append_eq_nil_iff, hprefix, false_and,
    not_false_eq_true]

/-- A report is valid but for its confidence. -/
theorem report_cons (product : CheckedProduct) (price : Option ℚ)
    (candidates : List (HybridSearchResult ι)) (best : RerankedCandidate ι)
    (rest : List (RerankedCandidate ι)) :
    (service.report product price candidates (best :: rest)).map
        DuplicateVerification.confidence =
      if InUnit (service.confidence product price best) then
        .ok (service.confidence product price best)
      else .error (.invalidModel ["confidence".toList]) := by
  have hreasons : (service.crossEncoderReason best.rerankScore ::
      (service.businessResult product price best).reasons).mapM
        (checkReason : _ → Except (AppException ι ε) _) = .ok (List.map id
          (service.crossEncoderReason best.rerankScore ::
            (service.businessResult product price best).reasons)) := by
    refine Except.mapM_eq_ok fun reason hreason => ?_
    have hmessage : reason.message ≠ [] := by
      rcases List.mem_cons.1 hreason with hfirst | hreason
      · rw [hfirst]
        exact service.crossEncoderReason_message_ne _
      · exact (evaluate_sound _ _ _ _ _ _ _).2 reason hreason
    exact checkReason_ok hmessage
  have hcandidates : (best :: rest).mapM (fun reranked =>
      (checkCandidate (toVerifiedCandidate reranked (byId candidates reranked.productId)) :
        Except (AppException ι ε) _)) = .ok ((best :: rest).map fun reranked =>
          toVerifiedCandidate reranked (byId candidates reranked.productId)) :=
    Except.mapM_eq_ok fun reranked _ => checkCandidate_ok reranked _
  rw [report, hreasons]
  dsimp only [bind, Except.bind]
  rw [hcandidates]
  dsimp only
  rw [checkVerification_eq]
  split <;> rfl

omit [DecidableEq ι] in
theorem noCandidates_ne_error (e : AppException ι ε) :
    (noCandidates : Except (AppException ι ε) (DuplicateVerification ι)) ≠ .error e := by
  have hmessage : noCandidatesReason.message ≠ [] := by decide
  have hzero : InUnit 0 := ⟨le_refl 0, zero_le_one⟩
  rw [noCandidates, checkReason_ok hmessage]
  dsimp only [bind, Except.bind]
  rw [checkVerification_eq, if_pos hzero]
  intro h
  cases h

/-- A verification with an invalid model has retrieved and reranked candidates whose best one
has an invalid confidence. -/
theorem exists_of_verify_invalid {product : CheckedProduct} {price : Option ℚ} {topK : Option ℕ}
    {fields : List Text}
    (h : service.verify store product price topK = .error (.invalidModel fields)) :
    ∃ candidates, ∃ best ∈ (service.reranker.rerank product.text candidates
        (some (topK.getD service.topK))).candidates,
      ¬ InUnit (service.confidence product price best) := by
  rcases Except.bind_eq_error.1 h with h | ⟨candidates, -, h⟩
  · rcases service.hybridSearch.search_eq_error store h with ⟨_, he⟩ | ⟨_, he⟩ <;> cases he
  · split at h
    · exact absurd h (noCandidates_ne_error _)
    · cases hreranked : (service.reranker.rerank product.text candidates
          (some (topK.getD service.topK))).candidates with
      | nil =>
        rw [hreranked] at h
        cases h
      | cons best rest =>
        rw [hreranked] at h
        refine ⟨candidates, best, ?_, ?_⟩
        · rw [hreranked]
          exact List.mem_cons_self
        · intro hvalid
          have hreport := service.report_cons product price candidates best rest
          rw [h, if_pos hvalid] at hreport
          cases hreport

/-- **Weights that do not exceed one** make every verification valid. -/
theorem verify_valid (hcrossEncoder : 0 ≤ service.crossEncoderWeight)
    (hbusiness : 0 ≤ service.businessRulesWeight)
    (hsum : service.crossEncoderWeight + service.businessRulesWeight ≤ 1)
    (hnormalize : ∀ raw, InUnit (service.reranker.normalize raw)) (product : CheckedProduct)
    (price : Option ℚ) (topK : Option ℕ) (fields : List Text) :
    service.verify store product price topK ≠ .error (.invalidModel fields) := by
  intro h
  obtain ⟨candidates, best, hbest, hinvalid⟩ := service.exists_of_verify_invalid store h
  obtain ⟨candidate, -, rawScore, originalRank, finalRank, rfl⟩ :=
    service.reranker.exists_of_mem_rerank hbest
  have hscore := (evaluate_sound service.businessRules product.name product.brand
    product.category price product.attributes candidate.metadata).1
  exact hinvalid (inUnit_blend hcrossEncoder hbusiness hsum (hnormalize rawScore) hscore)

end DuplicateVerificationService

/-! ### A product submitted again -/

namespace Resubmitted

variable [DecidableEq ι] [Inhabited ι] [Inhabited V]

/-- The payload of a shoe. -/
def metadata : Payload :=
  vectorMetadata ⟨"Shoe".toList, none, none, none, none⟩
    ⟨"a.png".toList, "b.png".toList, "image/png".toList, 1, 0⟩ ⟨ProductAttributes.empty, [], 0⟩

/-- The stored shoe. -/
def point : StoredPoint ι V := ⟨default, default, metadata⟩

/-- The shoe in both collections. -/
def store : VectorStore ι V := ⟨Collection.empty.upsert point, Collection.empty.upsert point⟩

/-- A reranker that is certain of every pair. -/
def reranker : RerankerService ι where
  crossEncoder := .constant 0
  topN := 50
  topN_pos := Nat.succ_pos 49
  normalize := fun _ => 1
  idText := fun _ => ['0']

/-- A search in which all vectors are alike. -/
def hybridSearch : HybridSearchService ι V ε where
  index := .ofSimilarity fun _ _ => 1
  embedImage := fun _ => .ok default
  embedText := fun _ => .ok default
  imageWeight := 7 / 10
  textWeight := 3 / 10
  reranker := reranker
  rerankingEnabled := false
  rerankerTopN := 50
  defaultTopK := 10

/-- The same shoe, submitted again. -/
def product : CheckedProduct where
  name := "Shoe".toList
  brand := none
  category := none
  description := none
  attributes := ProductAttributes.empty
  image := ⟨"a.png".toList, "c.png".toList, "image/png".toList, 1, 1⟩

/-- The stored shoe as a search finds it. -/
def found : HybridSearchResult ι := ⟨default, 1, metadata, [.image, .text], 1, 1⟩

theorem search_eq :
    (hybridSearch : HybridSearchService ι V ε).search store (some product.image)
      (some product.text) (some 10) none (some false) = .ok [found] := by
  have hquery : queryText (some product.text) = some product.text := by decide +kernel
  have hfused : (hybridSearch : HybridSearchService ι V ε).fused
      [⟨default, 1, metadata⟩]
      [⟨default, 1, metadata⟩] = [found] := by
    rw [HybridSearchService.fused, fuse, fusionEntries]
    simp [Keyed.update, addImage, addText, FusionEntry.new, addModality, FusionEntry.toResult,
      hybridSearch]
    norm_num
    rfl
  unfold HybridSearchService.search
  rw [hquery]
  show Except.ok (HybridSearchService.finalize hybridSearch product.text
    (HybridSearchService.fused hybridSearch [⟨default, 1, metadata⟩]
      [⟨default, 1, metadata⟩]) 10 false) = _
  rw [hfused]
  rfl

/-- Every rule that applies to the shoe and itself is satisfied. -/
theorem evaluate_score (settings : DuplicateVerificationSettings) :
    (evaluate settings.rules product.name product.brand product.category none product.attributes
      metadata).score = 1 := by
  have htitle : fuzzyRatio product.name metadata.name = 1 := by
    decide +kernel
  have hname : normalizeToken (some metadata.name) ≠ [] := by
    decide +kernel
  have hverdict : evaluateTitle settings.rules product.name metadata.name =
      some (true, ⟨.titleSimilarity, "Title similarity ".toList ++ percent 1⟩) := by
    rw [evaluateTitle, if_neg hname, htitle]
    exact if_pos settings.thresholds.2.2.2
  rw [evaluate, hverdict]
  show (((1 : ℕ) : ℚ) / ((1 : ℕ) : ℚ)) = 1
  norm_num

/-- With weights that exceed one the shoe cannot be verified. -/
theorem verify_eq_error (settings : DuplicateVerificationSettings)
    (h : 1 < settings.crossEncoderWeight + settings.businessRulesWeight) :
    (DuplicateVerificationService.ofSettings settings (hybridSearch : HybridSearchService ι V ε)
      reranker 10).verify store product none none =
      .error (.invalidModel ["confidence".toList]) := by
  set service := DuplicateVerificationService.ofSettings settings
    (hybridSearch : HybridSearchService ι V ε) reranker 10
  have htopK : 0 < 10 := by omega
  obtain ⟨best, rest, hreranked⟩ := List.exists_cons_of_ne_nil
    ((reranker : RerankerService ι).rerank_ne_nil (List.cons_ne_nil found []) product.text htopK)
  -- the best candidate is the shoe, with full marks from both judges
  obtain ⟨candidate, hcandidate, rawScore, originalRank, finalRank, hbest⟩ :=
    (reranker : RerankerService ι).exists_of_mem_rerank (c := best) (by
      rw [hreranked]
      exact List.mem_cons_self)
  rw [List.mem_singleton] at hcandidate
  have hconfidence : service.confidence product none best =
      settings.crossEncoderWeight + settings.businessRulesWeight := by
    have hscore : (service.businessResult product none best).score = 1 := by
      rw [hbest, hcandidate]
      exact evaluate_score settings
    have hrerank : best.rerankScore = 1 := by
      rw [hbest]
      rfl
    rw [DuplicateVerificationService.confidence, hscore, hrerank, mul_one, mul_one]
    rfl
  have hinvalid : ¬ InUnit (service.confidence product none best) := by
    rw [hconfidence]
    exact fun hunit => absurd hunit.2 (not_le.2 h)
  have hreport := service.report_cons product none [found] best rest
  rw [if_neg hinvalid] at hreport
  have hverify : service.verify store product none none =
      service.report product none [found] (best :: rest) := by
    rw [DuplicateVerificationService.verify]
    show (HybridSearchService.search hybridSearch store (some product.image) (some product.text)
      (some 10) none (some false) >>= _) = _
    rw [search_eq, ← hreranked]
    rfl
  rw [hverify]
  cases hresult : service.report product none [found] (best :: rest) with
  | error e =>
    rw [hresult] at hreport
    cases hreport
    rfl
  | ok verification =>
    rw [hresult] at hreport
    cases hreport

end Resubmitted

/-! ### Accepted settings -/

/-- The scorer of accepted settings is valid when no single weight exceeds one. -/
theorem valid_scorer_iff (settings : DuplicateDetectionSettings) :
    settings.scorer.Valid ↔ settings.imageWeight ≤ 1 ∧ settings.textWeight ≤ 1 ∧
      settings.metadataWeight ≤ 1 ∧ settings.attributeWeight ≤ 1 := by
  obtain ⟨himage, htext, hmetadata, hattribute⟩ := settings.nonneg
  constructor
  · rintro ⟨h₁, h₂, h₃, h₄⟩
    exact ⟨h₁.2, h₂.2, h₃.2, h₄.2⟩
  · rintro ⟨h₁, h₂, h₃, h₄⟩
    exact ⟨⟨himage, h₁⟩, ⟨htext, h₂⟩, ⟨hmetadata, h₃⟩, ⟨hattribute, h₄⟩⟩

/-- **When scoring never crashes**: accepted settings make every score and every verification
valid, whatever is compared, exactly when no duplicate weight exceeds one and neither does the
sum of the verification weights. -/
theorem scoring_never_crashes_iff [DecidableEq ι] [Inhabited ι] [Inhabited V]
    (duplicate : DuplicateDetectionSettings) (verification : DuplicateVerificationSettings) :
    ((∀ (product : CheckedProduct) (candidate : HybridSearchResult ι),
        InUnit candidate.imageScore → InUnit candidate.textScore →
        ∃ result, duplicate.scorer.score product candidate = some result ∧
          InUnit result.overallSimilarity) ∧
      ∀ (hybridSearch : HybridSearchService ι V ε) (reranker : RerankerService ι)
        (defaultTopK : ℕ) (store : VectorStore ι V) (product : CheckedProduct)
        (price : Option ℚ) (topK : Option ℕ) (fields : List Text),
        (∀ raw, InUnit (reranker.normalize raw)) →
        (DuplicateVerificationService.ofSettings verification hybridSearch reranker
          defaultTopK).verify store product price topK ≠ .error (.invalidModel fields)) ↔
    (duplicate.imageWeight ≤ 1 ∧ duplicate.textWeight ≤ 1 ∧ duplicate.metadataWeight ≤ 1 ∧
      duplicate.attributeWeight ≤ 1) ∧
    verification.crossEncoderWeight + verification.businessRulesWeight ≤ 1 := by
  constructor
  · rintro ⟨hscore, hverify⟩
    constructor
    · have hunit : InUnit 1 := ⟨zero_le_one, le_refl 1⟩
      obtain ⟨result, hresult, -⟩ := hscore Resubmitted.product Resubmitted.found hunit hunit
      rw [← valid_scorer_iff, ← score_isSome_iff duplicate.scorer Resubmitted.product
        (Resubmitted.found : HybridSearchResult ι), hresult]
      rfl
    · by_contra hexceeds
      exact hverify Resubmitted.hybridSearch Resubmitted.reranker 10 Resubmitted.store
        Resubmitted.product none none _ (fun _ => ⟨zero_le_one, le_refl 1⟩)
        (Resubmitted.verify_eq_error verification (not_le.1 hexceeds))
  · rintro ⟨hweights, hsum⟩
    constructor
    · intro product candidate _ _
      obtain ⟨result, hresult⟩ := Option.isSome_iff_exists.1
        ((score_isSome_iff duplicate.scorer product candidate).2
          ((valid_scorer_iff duplicate).2 hweights))
      exact ⟨result, hresult, inUnit_overallSimilarity hresult⟩
    · intro hybridSearch reranker defaultTopK store product price topK fields hnormalize
      let service := DuplicateVerificationService.ofSettings verification hybridSearch reranker
        defaultTopK
      exact service.verify_valid store verification.weights.1.1 verification.weights.2.1 hsum
        hnormalize product price topK fields

/-- All the weight on the image signal, and a little more. -/
def imageOnly : DuplicateDetectionSettings where
  imageWeight := 1 + weightTolerance / 2
  textWeight := 0
  metadataWeight := 0
  attributeWeight := 0
  nonneg := by decide +kernel
  sum_to_one := by decide +kernel

/-- The default verification weights, the first a little larger. -/
def overweight : DuplicateVerificationSettings where
  crossEncoderThreshold := 95 / 100
  requireSameBrand := false
  requireSameCategory := false
  maxPriceDifferenceRatio := 25 / 100
  crossEncoderWeight := 7 / 10 + weightTolerance / 2
  businessRulesWeight := 3 / 10
  titleSimilarityThreshold := 85 / 100
  thresholds := by decide +kernel
  weights := by decide +kernel
  sum_to_one := by decide +kernel

/-- Two accepted configurations: under one a shoe cannot be scored against itself, under the
other it cannot be verified. -/
theorem accepted_settings_crash :
    imageOnly.scorer.score Resubmitted.product (Resubmitted.found : HybridSearchResult ℕ) = none ∧
    (DuplicateVerificationService.ofSettings overweight
      (Resubmitted.hybridSearch : HybridSearchService ℕ Unit Unit) Resubmitted.reranker 10).verify
        Resubmitted.store Resubmitted.product none none =
      .error (.invalidModel ["confidence".toList]) := by
  constructor
  · rw [← Option.not_isSome_iff_eq_none, score_isSome_iff, valid_scorer_iff]
    decide +kernel
  · refine Resubmitted.verify_eq_error overweight ?_
    decide +kernel

end ProductIntelligence

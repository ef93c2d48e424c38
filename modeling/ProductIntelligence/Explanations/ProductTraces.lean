import ProductIntelligence.Duplicates.IndexedProduct
import ProductIntelligence.Explanations.Recommendation
import ProductIntelligence.Products.DuplicateModes

/-!
# Everything that is explained about a product

One route explains both decisions about an indexed product: whether it duplicates another, and
what is recommended with it.  Both are made anew for the explanation.

## Main definitions

* `explainDuplicate` — the explainer of a duplicate check.
* `ExplanationRoutes.productExplanations` — the route.
* `ExplainsDecision`, `ExplainsRecommendation` — what the traces say of the decisions.

## Main results

* `explainDuplicate_isOk_iff` — which findings can be explained.
* `productExplanations_sound` — for which products the route answers, and with what.

## References

`backend/app/api/explanations.py`, `backend/app/services/explanations/duplicate_explainer.py`,
`backend/app/services/explanations/explanation_service.py`.
-/

namespace ProductIntelligence

variable {ι V ε : Type}

/-! ### The explainer -/

/-- The scores of the findings, each with its whole weight. -/
def DuplicateFindings.components (subject : DuplicateFindings ι) : List DecisionWeight :=
  (subject.crossEncoderScore.map fun score =>
    ExplanationBuilder.weight "cross_encoder_score" score 1).toList ++
  (subject.retrievalSimilarity.map fun similarity =>
    ExplanationBuilder.weight "retrieval_similarity" similarity 1).toList

/-- `explain`: the reasons of the findings, and their scores if there are any. -/
def explainDuplicate (subject : DuplicateFindings ι) :
    Except (List Text) (ExplanationTrace ι) := do
  let reasons ← buildReasons (subject.reasons.map fun reason => ⟨reason.1, reason.2, none⟩)
  let leadIn :=
    if subject.isDuplicate then "Judged a duplicate because" else "Not a duplicate because"
  pure
    { decisionType := "duplicate".toList
      summary := ExplanationBuilder.summarize leadIn.toList reasons
      subjectId := subject.matchedProduct
      reasons
      breakdown :=
        if subject.components = [] then none else some ⟨subject.components, subject.confidence⟩
      confidence := some subject.confidence }

/-- Findings can be explained exactly if each of their reasons has a code and a message. -/
theorem explainDuplicate_isOk_iff (subject : DuplicateFindings ι) :
    (∃ trace, explainDuplicate subject = .ok trace) ↔
      ∀ reason ∈ subject.reasons, reason.1 ≠ [] ∧ reason.2 ≠ [] := by
  have hparts : (∀ part ∈ subject.reasons.map fun reason => (⟨reason.1, reason.2, none⟩ :
      ReasonParts), part.IsValid) ↔ ∀ reason ∈ subject.reasons, reason.1 ≠ [] ∧ reason.2 ≠ [] := by
    rw [List.forall_mem_map]
    simp [ReasonParts.IsValid]
  rw [← hparts, ← buildReasons_isOk_iff]
  constructor
  · rintro ⟨trace, h⟩
    obtain ⟨reasons, hreasons, -⟩ := Except.bind_eq_ok.1 h
    exact ⟨reasons, hreasons⟩
  · rintro ⟨reasons, hreasons⟩
    exact ⟨_, Except.bind_eq_ok.2 ⟨reasons, hreasons, rfl⟩⟩

/-! ### The route -/

/-- What the routes depend on: the two services, and the weights that the explainer quotes. -/
structure ExplanationRoutes (ι V ε : Type) where
  engine : RecommendationEngineService ι V ε
  duplicateDetectionService : DuplicateDetectionService ι V ε
  settings : RecommendationSettings
  /-- The engine scores with the weights that the explainer quotes. -/
  engine_scorer : engine.recommendationScorer = settings.toRecommendationScorer

/-- Everything that is explained about a product. -/
structure ProductExplanations (ι : Type) where
  productId : ι
  duplicate : ExplanationTrace ι
  recommendations : List (ExplanationTrace ι)

/-- A trace that cannot be built raises pydantic's error. -/
def checked {α : Type} (trace : Except (List Text) α) : Except (AppException ι ε) α :=
  trace.mapError .invalidModel

namespace ExplanationRoutes

variable [DecidableEq ι] (routes : ExplanationRoutes ι V ε) (store : VectorStore ι V)
  (productId : ι)

/-- `_duplicate_trace`. -/
def duplicateTrace : Except (AppException ι ε) (ExplanationTrace ι) := do
  let decision ← routes.duplicateDetectionService.detectByProductId store productId none none none
  let findings ← decisionToVerification decision
  checked (explainDuplicate findings)

/-- `_recommendation_traces`. -/
def recommendationTraces : Except (AppException ι ε) (List (ExplanationTrace ι)) := do
  let result ← routes.engine.recommend store productId .similar none none
  checked (result.recommendations.mapM (explainRecommendation routes.settings))

/-- `product_explanations`. -/
def productExplanations : Except (AppException ι ε) (ProductExplanations ι) := do
  let duplicate ← routes.duplicateTrace store productId
  let recommendations ← routes.recommendationTraces store productId
  return ⟨productId, duplicate, recommendations⟩

end ExplanationRoutes

/-! ### What the traces say -/

/-- The trace of a decision: it is about the product that the decision names, repeats its reason
and its confidence, and says whether it found a duplicate. -/
structure ExplainsDecision (decision : DuplicateDecision ι) (trace : ExplanationTrace ι) :
    Prop where
  subjectId_eq : trace.subjectId = decision.matchedProduct
  confidence_eq : trace.confidence = some decision.confidence
  descriptions_eq : trace.reasons.map DecisionReason.description = [decision.reason]
  breakdown_eq : trace.breakdown = none
  summary_eq : trace.summary =
    (if decision.isDuplicate then "Judged a duplicate because: ".toList
      else "Not a duplicate because: ".toList) ++ decision.reason ++ ['.']

/-- The trace of a recommendation: it is about the recommended product, and its contributions add
up to the final score, up to the tolerance of the weights. -/
structure ExplainsRecommendation (candidate : RecommendationCandidate ι)
    (trace : ExplanationTrace ι) : Prop where
  subjectId_eq : trace.subjectId = some candidate.productId
  confidence_eq : trace.confidence = some candidate.finalScore
  adds_up : ∃ breakdown, trace.breakdown = some breakdown ∧
    breakdown.total = candidate.finalScore ∧
    |breakdown.contributed - candidate.finalScore| ≤ weightTolerance

/-- The sentence about a single reason, if nothing is trimmed off its beginning. -/
theorem summarize_singleton {leadIn : Text} (hne : leadIn ≠ [])
    (htrimmed : strip (leadIn.rdropWhile fun c => c = ':' ∨ c = ' ') = leadIn)
    (reason : DecisionReason) :
    ExplanationBuilder.summarize leadIn [reason] =
      leadIn ++ ": ".toList ++ reason.description ++ ['.'] := by
  unfold ExplanationBuilder.summarize
  rw [htrimmed]
  exact if_pos hne

/-- **A weighted decision can be explained**, and its trace says what it says. -/
theorem exists_explainsDecision {decision : DuplicateDecision ι} (hreason : decision.reason ≠ [])
    (hunit : InUnit decision.confidence) :
    ∃ findings trace, (decisionToVerification decision : Except (AppException ι ε) _) =
        .ok findings ∧ explainDuplicate findings = .ok trace ∧ ExplainsDecision decision trace := by
  have hcode : "weighted_similarity".toList ≠ [] := by decide
  have hvalid : (⟨"weighted_similarity".toList, decision.reason, none⟩ : ReasonParts).IsValid :=
    ⟨hcode, hreason, fun _ h => by cases h⟩
  have hreasons : buildReasons [⟨"weighted_similarity".toList, decision.reason, none⟩] =
      .ok [⟨"weighted_similarity".toList, decision.reason, none, hvalid.1, hvalid.2.1,
        hvalid.2.2⟩] := by
    unfold buildReasons
    rw [List.mapM_cons, ReasonParts.build, dif_pos hvalid]
    rfl
  unfold decisionToVerification
  rw [checkUnit_ok (by simpa using hunit), if_neg hreason]
  refine ⟨_, _, rfl, Except.bind_eq_ok.2 ⟨_, hreasons, rfl⟩, rfl, rfl, rfl, rfl, ?_⟩
  dsimp only
  have hduplicate : "Judged a duplicate because".toList ≠ [] := by decide
  have hother : "Not a duplicate because".toList ≠ [] := by decide
  cases decision.isDuplicate with
  | true => exact summarize_singleton hduplicate (by decide +kernel) _
  | false => exact summarize_singleton hother (by decide +kernel) _

/-- The trace of a scored candidate adds up. -/
theorem exists_explainsRecommendation (settings : RecommendationSettings) (target : Payload)
    (result : HybridSearchResult ι) (explanation : Text) :
    ∃ trace, explainRecommendation settings
        { settings.score target result with explanation := explanation } = .ok trace ∧
      ExplainsRecommendation { settings.score target result with explanation := explanation }
        trace := by
  obtain ⟨trace, htrace, hbreakdown⟩ := explainRecommendation_isOk settings
    { settings.score target result with explanation := explanation }
  have hfields := htrace
  obtain ⟨reasons, -, hfields⟩ := Except.bind_eq_ok.1 hfields
  cases hfields
  refine ⟨_, htrace, rfl, rfl, _, rfl, rfl, ?_⟩
  obtain ⟨hsimilarity, hattributes, htags, hquality, -⟩ :=
    inUnit_score settings.toRecommendationScorer target result
  obtain ⟨hnonneg, hle⟩ := settings.weightedSum_bounds hsimilarity hattributes htags hquality
  rw [settings.contributed_breakdown]
  exact abs_sub_clamp_le hnonneg hle (by norm_num [weightTolerance])

/-- The traces of recommendations are about the recommended products. -/
theorem subjectId_ne_of_explains {candidates : List (RecommendationCandidate ι)}
    {traces : List (ExplanationTrace ι)} {productId : ι}
    (h : List.Forall₂ ExplainsRecommendation candidates traces)
    (hothers : ∀ candidate ∈ candidates, candidate.productId ≠ productId) :
    ∀ trace ∈ traces, trace.subjectId ≠ some productId := by
  induction h with
  | nil => exact List.forall_mem_nil _
  | cons hexplains _ ih =>
    obtain ⟨hfirst, hrest⟩ := List.forall_mem_cons.1 hothers
    refine List.forall_mem_cons.2 ⟨?_, ih hrest⟩
    rw [hexplains.subjectId_eq]
    intro hsubject
    exact hfirst (Option.some.inj hsubject)

/-! ### The whole answer -/

namespace ExplanationRoutes

variable [DecidableEq ι] (routes : ExplanationRoutes ι V ε) (store : VectorStore ι V)

omit [DecidableEq ι] in
/-- The traces of scored candidates, one for each, in order. -/
theorem exists_traces {candidates : List (RecommendationCandidate ι)}
    (h : ∀ candidate ∈ candidates, ∃ target result explanation, candidate =
      { routes.settings.score target result with explanation := explanation }) :
    ∃ traces, candidates.mapM (explainRecommendation routes.settings) = .ok traces ∧
      List.Forall₂ ExplainsRecommendation candidates traces := by
  induction candidates with
  | nil => exact ⟨[], rfl, .nil⟩
  | cons candidate candidates ih =>
    obtain ⟨hfirst, hrest⟩ := List.forall_mem_cons.1 h
    obtain ⟨target, result, explanation, rfl⟩ := hfirst
    obtain ⟨trace, htrace, hexplains⟩ :=
      exists_explainsRecommendation routes.settings target result explanation
    obtain ⟨traces, htraces, hall⟩ := ih hrest
    refine ⟨trace :: traces, ?_, .cons hexplains hall⟩
    rw [List.mapM_cons, htrace, htraces]
    rfl

/-- **What is explained about a product.**  The route answers for every product that is stored in
both collections if the weights of the duplicate check are valid: it explains the decision of that
check and each recommendation of the engine, none of which is about the product itself.  For any
other product it fails as the check does. -/
theorem productExplanations_sound (productId : ι) :
    (Anchored store productId .similar →
      routes.duplicateDetectionService.similarityScorer.Valid →
      ∃ response decision result,
        routes.productExplanations store productId = .ok response ∧
          response.productId = productId ∧
        routes.duplicateDetectionService.detectByProductId store productId none none none =
            .ok decision ∧
          ExplainsDecision decision response.duplicate ∧
          response.duplicate.subjectId ≠ some productId ∧
        routes.engine.recommend store productId .similar none none = .ok result ∧
          List.Forall₂ ExplainsRecommendation result.recommendations response.recommendations ∧
          ∀ trace ∈ response.recommendations, trace.subjectId ≠ some productId) ∧
    (¬ Anchored store productId .similar →
      routes.productExplanations store productId =
        .error (if (store.text.retrieve productId).isNone ∧
          (store.image.retrieve productId).isNone then .notFound productId
          else .notIndexed productId)) := by
  constructor
  · intro hanchored hvalid
    -- the decision, and its trace
    obtain ⟨product, compared, hcompared, hscored⟩ :=
      routes.duplicateDetectionService.exists_detectByProductId store hanchored none none none
    obtain ⟨scored, decision, hdetect, hids, hdecides, hunit⟩ :=
      routes.duplicateDetectionService.exists_decides store hscored (.inl hvalid)
    obtain ⟨findings, duplicate, hfindings, hduplicate, hexplains⟩ :=
      exists_explainsDecision (ε := ε) hdecides.reason_ne_nil hunit
    have hother : duplicate.subjectId ≠ some productId := by
      rw [hexplains.subjectId_eq]
      intro hmatched
      have hmem := hdecides.matchedProduct_mem hmatched
      rw [hids] at hmem
      obtain ⟨candidate, hcandidate, hid⟩ := List.mem_map.1 hmem
      exact (hcompared.others candidate hcandidate).1 hid
    -- the recommendations, and theirs
    obtain ⟨result, pool, hrecommend, -, hpool, hrecommends⟩ :=
      routes.engine.exists_recommends store hanchored none none
    obtain ⟨taken, htaken, hresult, -⟩ := hrecommends.exists_taken
    have hscores : ∀ candidate ∈ result.recommendations, ∃ target found explanation, candidate =
        { routes.settings.score target found with explanation := explanation } := by
      rw [hresult]
      intro candidate hcandidate
      obtain ⟨plain, hplain, rfl⟩ := List.mem_map.1 hcandidate
      obtain ⟨target, found, rfl⟩ := hpool.scored plain (htaken.subset hplain)
      rw [routes.engine_scorer]
      exact ⟨target, found, _, rfl⟩
    obtain ⟨traces, htraces, hall⟩ := routes.exists_traces hscores
    have hothers : ∀ candidate ∈ result.recommendations, candidate.productId ≠ productId := by
      rw [hresult]
      intro candidate hcandidate
      obtain ⟨plain, hplain, rfl⟩ := List.mem_map.1 hcandidate
      exact (hpool.others plain (htaken.subset hplain)).1
    refine ⟨⟨productId, duplicate, traces⟩, decision, result, ?_, rfl, hdetect, hexplains, hother,
      hrecommend, hall, subjectId_ne_of_explains hall hothers⟩
    unfold productExplanations duplicateTrace recommendationTraces
    rw [hdetect, hrecommend]
    dsimp only [bind, Except.bind]
    rw [hfindings]
    dsimp only
    rw [hduplicate, htraces]
    rfl
  · intro hanchored
    unfold productExplanations duplicateTrace
    rw [routes.duplicateDetectionService.detectByProductId_of_not_anchored store hanchored]
    rfl

end ExplanationRoutes

end ProductIntelligence

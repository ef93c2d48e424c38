import ProductIntelligence.Duplicates.IndexedProduct
import ProductIntelligence.Duplicates.Verification
import ProductIntelligence.Products.ProcessUpload

/-!
# The dry run of the duplicate check and the three modes of an upload

A product can be checked for duplicates without being uploaded.  The dry run processes the
picture, has the product enriched and asks one of two backends for a verdict; an upload asks the
weighted one, and what it does with the verdict is a matter of its mode.

## Main definitions

* `DuplicateCheckService.check`, `respond` — the dry run and the answer of its route.
* `ProductService.prologue`, `ProductService.assemble` — an upload before its verdict and after.
* `DuplicateCheckService.Matches` — a dry run and an upload with the same collaborators.

## Main results

* `checkDuplicate_eq` — the answer of the dry run in terms of the decision.
* `duplicateDecision_withMode`, `outcome_announce` — the run of an upload in each mode.
* `upload_follows_check` — what the answer of the dry run says about an upload in each mode.

## References

`backend/app/services/duplicate/duplicate_check_service.py`, `backend/app/api/products.py`,
`backend/app/services/product_service.py`.
-/

namespace ProductIntelligence

variable {ι V ε : Type}

/-! ### The dry run -/

/-- The dry run of the duplicate check: its collaborators, and which backend it asks. -/
structure DuplicateCheckService (ι V ε : Type) where
  processImage : Text → Except ε ImageMetadata
  enrich : Text → Option Text → Option Text → Option Text → Text →
    Except ε CatalogIntelligenceResult
  duplicateDetectionService : DuplicateDetectionService ι V ε
  duplicateVerificationService : DuplicateVerificationService ι V ε
  verificationEnabled : Bool

/-- The code of a reason, as it is written. -/
def ReasonCode.value : ReasonCode → Text
  | .sameBrand => "same_brand".toList
  | .brandMismatch => "brand_mismatch".toList
  | .sameCategory => "same_category".toList
  | .categoryMismatch => "category_mismatch".toList
  | .closePrice => "close_price".toList
  | .priceDifference => "price_difference".toList
  | .titleSimilarity => "title_similarity".toList
  | .titleDifference => "title_difference".toList
  | .attributeOverlap => "attribute_overlap".toList
  | .attributeMismatch => "attribute_mismatch".toList
  | .crossEncoder => "cross_encoder".toList
  | .noCandidates => "no_candidates".toList

/-- What either backend finds out; a reason is a code and a message. -/
structure DuplicateFindings (ι : Type) where
  isDuplicate : Bool
  confidence : ℚ
  crossEncoderScore : Option ℚ
  retrievalSimilarity : Option ℚ
  matchedProduct : Option ι
  reasons : List (Text × Text)
  topCandidates : List (DuplicateCandidate ι)
  deriving DecidableEq

/-- The findings of a verification. -/
def DuplicateVerification.findings (verification : DuplicateVerification ι) :
    DuplicateFindings ι where
  isDuplicate := verification.isDuplicate
  confidence := verification.confidence
  crossEncoderScore := verification.crossEncoderScore
  retrievalSimilarity := verification.retrievalSimilarity
  matchedProduct := verification.matchedProduct
  reasons := verification.reasons.map fun reason => (reason.code.value, reason.message)
  topCandidates := verification.topCandidates

/-- `decision_to_verification`: the weighted decision in the same shape. -/
def decisionToVerification (decision : DuplicateDecision ι) :
    Except (AppException ι ε) (DuplicateFindings ι) := do
  -- a reason without a message is not valid, so an empty one is left out
  let reasons :=
    if decision.reason = [] then [] else [("weighted_similarity".toList, decision.reason)]
  checkUnit [("confidence".toList, decision.confidence)]
  return { isDuplicate := decision.isDuplicate
           confidence := decision.confidence
           crossEncoderScore := none
           retrievalSimilarity := none
           matchedProduct := decision.matchedProduct
           reasons := reasons
           topCandidates := decision.topCandidates }

/-- The four similarities of the best candidate. -/
structure DuplicateSignalBreakdown where
  image : ℚ
  text : ℚ
  metadata : ℚ
  attributes : ℚ
  deriving DecidableEq

/-- The answer of the route. -/
structure DuplicateCheckResponse (ι : Type) where
  duplicate : Bool
  confidence : ℚ
  reason : Text
  matchedProduct : Option ι
  signals : Option DuplicateSignalBreakdown
  topCandidates : List (DuplicateCandidate ι)
  crossEncoderScore : Option ℚ
  retrievalSimilarity : Option ℚ
  reasons : List Text
  deriving DecidableEq

/-- What the route answers. -/
def respond (findings : DuplicateFindings ι) : DuplicateCheckResponse ι where
  duplicate := findings.isDuplicate
  confidence := findings.confidence
  reason := (findings.reasons.map Prod.snd).headD []
  matchedProduct := findings.matchedProduct
  signals := findings.topCandidates.head?.map fun best =>
    { image := best.imageSimilarity
      text := best.textSimilarity
      metadata := best.metadataSimilarity
      attributes := best.attributeSimilarity }
  topCandidates := findings.topCandidates
  crossEncoderScore := findings.crossEncoderScore
  retrievalSimilarity := findings.retrievalSimilarity
  reasons := findings.reasons.map Prod.snd

/-- The decision that an answer speaks of. -/
def DuplicateCheckResponse.decision (response : DuplicateCheckResponse ι) :
    DuplicateDecision ι where
  isDuplicate := response.duplicate
  confidence := response.confidence
  reason := response.reason
  matchedProduct := response.matchedProduct
  topCandidates := response.topCandidates

/-- The product that is checked, with what was found out about it. -/
def ProductCreate.checked (product : ProductCreate) (image : ProductImage)
    (attributes : ProductAttributes) : CheckedProduct where
  name := product.name
  brand := product.brand
  category := product.category
  description := product.description
  attributes := attributes
  image := image

namespace DuplicateCheckService

variable [DecidableEq ι] (service : DuplicateCheckService ι V ε) (store : VectorStore ι V)
  (product : ProductCreate) (image : ProductImage) (topK : Option ℕ) (threshold : Option ℚ)

/-- `check`. -/
def check : Except (AppException ι ε) (DuplicateFindings ι) := do
  let imageMetadata ← callService (service.processImage image.storedFilename)
  let catalogResult ← callService (service.enrich product.name product.brand product.category
    product.description imageMetadata.processedPath)
  let checked := product.checked image catalogResult.attributes
  if service.verificationEnabled then
    let verification ← service.duplicateVerificationService.verify store checked product.price topK
    return verification.findings
  else
    let decision ← service.duplicateDetectionService.detect store checked topK threshold none
    decisionToVerification decision

/-- `check_duplicate`: the route. -/
def checkDuplicate : Except (AppException ι ε) (DuplicateCheckResponse ι) :=
  (service.check store product image topK threshold).map respond

end DuplicateCheckService

/-! ### The decision in the answer -/

/-- The answer about a weighted decision gives that decision back. -/
theorem decision_respond {decision : DuplicateDecision ι} (h : InUnit decision.confidence) :
    ∃ findings, (decisionToVerification decision : Except (AppException ι ε) _) = .ok findings ∧
      (respond findings).decision = decision := by
  unfold decisionToVerification
  rw [checkUnit_ok (by simpa using h)]
  refine ⟨_, rfl, ?_⟩
  by_cases hreason : decision.reason = []
  · simp [respond, DuplicateCheckResponse.decision, hreason]
    cases decision
    simp_all
  · simp [respond, DuplicateCheckResponse.decision, hreason]

/-- Whatever the duplicate check decides, its confidence is in the unit interval. -/
theorem DuplicateDetectionService.inUnit_confidence [DecidableEq ι]
    {service : DuplicateDetectionService ι V ε} {store : VectorStore ι V}
    {product : CheckedProduct} {topK : Option ℕ} {threshold : Option ℚ}
    {rerankingEnabled : Option Bool} {decision : DuplicateDecision ι}
    (h : service.detect store product topK threshold rerankingEnabled = .ok decision) :
    InUnit decision.confidence := by
  obtain ⟨candidates, -, h⟩ := Except.bind_eq_ok.1 h
  obtain ⟨_, -, -, hunit⟩ := scoreAndDecide_sound h
  exact hunit

/-- **The dry run on the weighted backend** fails as the duplicate check does, and otherwise
answers with its decision. -/
theorem DuplicateCheckService.checkDuplicate_eq [DecidableEq ι]
    (service : DuplicateCheckService ι V ε) (store : VectorStore ι V) (product : ProductCreate)
    (image : ProductImage) (topK : Option ℕ) (threshold : Option ℚ)
    (h : service.verificationEnabled = false) :
    (service.checkDuplicate store product image topK threshold).map
        DuplicateCheckResponse.decision = (do
      let imageMetadata ← callService (service.processImage image.storedFilename)
      let catalogResult ← callService (service.enrich product.name product.brand product.category
        product.description imageMetadata.processedPath)
      service.duplicateDetectionService.detect store
        (product.checked image catalogResult.attributes) topK threshold none) := by
  unfold checkDuplicate check
  rw [h]
  cases himage : (callService (service.processImage image.storedFilename) :
    Except (AppException ι ε) _) with
  | error e => rfl
  | ok imageMetadata =>
    dsimp only [bind, Except.bind]
    cases henrich : (callService (service.enrich product.name product.brand product.category
      product.description imageMetadata.processedPath) : Except (AppException ι ε) _) with
    | error e => rfl
    | ok catalogResult =>
      dsimp only
      rw [if_neg Bool.false_ne_true]
      cases hdetect : service.duplicateDetectionService.detect store
        (product.checked image catalogResult.attributes) topK threshold none with
      | error e => rfl
      | ok decision =>
        obtain ⟨findings, hfindings, hdecision⟩ := decision_respond (ε := ε)
          (DuplicateDetectionService.inUnit_confidence hdetect)
        dsimp only
        rw [hfindings, Except.map, Except.map, hdecision]

/-! ### An upload around its verdict -/

/-- What an upload finds out before it looks at the catalog. -/
structure Preparation (V : Type) where
  checksum : Text
  imageMetadata : ImageMetadata
  vector : V
  textVector : V

/-- The result of an upload, with another decision on its product. -/
def announce (decision : DuplicateDecision ι)
    (outcome : Except (AppException ι ε) (Product ι V) × VectorStore ι V) :
    Except (AppException ι ε) (Product ι V) × VectorStore ι V :=
  (outcome.1.map fun product => { product with duplicateDecision := decision }, outcome.2)

namespace ProductService

variable [DecidableEq ι] (service : ProductService ι V ε) (store : VectorStore ι V)
  (product : ProductCreate) (image : ProductImage) (productId : Option ι)

omit [DecidableEq ι] in
/-- The same service in another mode. -/
def withMode (mode : DuplicateDetectionMode) : ProductService ι V ε :=
  { service with duplicateDetectionMode := mode }

omit [DecidableEq ι] in
/-- An upload up to its picture and text being embedded. -/
def prologue : Except (AppException ι ε) (Preparation V) := do
  let checksum ← callService (service.computeSha256 image.storedFilename)
  let imageMetadata ← callService (service.processImage image.storedFilename)
  let vector ← callService (service.generateEmbedding imageMetadata.processedPath)
  let textVector ← callService (service.embedText (buildTextRepresentation product.name
    product.brand product.category product.description))
  return ⟨checksum, imageMetadata, vector, textVector⟩

omit [DecidableEq ι] in
/-- The product of an upload that has its verdict. -/
def assemble (preparation : Preparation V) (catalogResult : CatalogIntelligenceResult)
    (decision : DuplicateDecision ι) : Except (AppException ι ε) (Product ι V) := do
  let fileMetadata ← parseFileMetadata image preparation.checksum
  validateNormalizedName (normalizeName product.name)
  validatePrice (normalizePrice product.price)
  let resolvedProductId := productId.getD service.uuid4
  let embedding ← buildEmbedding resolvedProductId service.imageModelName
    (service.dimension preparation.vector) preparation.vector
  let textEmbedding ← buildEmbedding resolvedProductId service.textModelName
    (service.dimension preparation.textVector) preparation.textVector
  return { id := resolvedProductId
           name := normalizeName product.name
           brand := normalizeBrand product.brand
           description := normalizeDescription product.description
           category := normalizeCategory product.category
           price := normalizePrice product.price
           fileMetadata := fileMetadata
           imageMetadata := preparation.imageMetadata
           embedding := embedding
           textEmbedding := textEmbedding
           catalogIntelligence := catalogResult
           duplicateDecision := decision }

/-- The pipeline in its three parts: before the catalog, the verdict, and after it. -/
theorem buildProduct_eq :
    service.buildProduct store product image productId = (do
      let preparation ← service.prologue product image
      let catalogResult ← service.catalogResult product preparation.imageMetadata
      let decision ← service.duplicateDecision store product image catalogResult.attributes
      service.assemble product image productId preparation catalogResult decision) := by
  unfold buildProduct prologue assemble
  simp only [bind_assoc, pure_bind]

omit [DecidableEq ι] in
/-- The verdict is carried along. -/
theorem assemble_eq (preparation : Preparation V) (catalogResult : CatalogIntelligenceResult)
    (decision decision' : DuplicateDecision ι) :
    service.assemble product image productId preparation catalogResult decision =
      (service.assemble product image productId preparation catalogResult decision').map
        fun product => { product with duplicateDecision := decision } := by
  unfold assemble
  cases (parseFileMetadata image preparation.checksum : Except (AppException ι ε) _) with
  | error e => rfl
  | ok fileMetadata =>
    cases (validateNormalizedName (normalizeName product.name) :
      Except (AppException ι ε) _) with
    | error e => rfl
    | ok _ =>
      cases (validatePrice (normalizePrice product.price) : Except (AppException ι ε) _) with
      | error e => rfl
      | ok _ =>
        dsimp only [bind, Except.bind]
        cases (buildEmbedding (productId.getD service.uuid4) service.imageModelName
          (service.dimension preparation.vector) preparation.vector :
            Except (AppException ι ε) _) with
        | error e => rfl
        | ok embedding =>
          dsimp only
          cases (buildEmbedding (productId.getD service.uuid4) service.textModelName
            (service.dimension preparation.textVector) preparation.textVector :
              Except (AppException ι ε) _) with
          | error e => rfl
          | ok textEmbedding => rfl

/-- Two services that store alike and build products that differ in the decision only. -/
theorem outcome_announce {mode mode' : DuplicateDetectionMode} {decision : DuplicateDecision ι}
    (h : (service.withMode mode).buildProduct store product image productId =
      ((service.withMode mode').buildProduct store product image productId).map
        fun product => { product with duplicateDecision := decision }) :
    ((service.withMode mode).processUpload product image productId).outcome store =
      announce decision
        (((service.withMode mode').processUpload product image productId).outcome store) := by
  cases hbuild : (service.withMode mode').buildProduct store product image productId with
  | error e =>
    rw [hbuild] at h
    rw [outcome_of_error _ _ _ _ _ hbuild, outcome_of_error _ _ _ _ _ h]
    rfl
  | ok built =>
    rw [hbuild] at h
    rw [outcome_of_built _ _ _ _ _ hbuild, outcome_of_built _ _ _ _ _ h]
    -- the points that are stored do not speak of the decision
    have hpoint : imagePoint product image { built with duplicateDecision := decision } =
        imagePoint product image built := rfl
    have hpointText : textPoint product image { built with duplicateDecision := decision } =
        textPoint product image built := rfl
    rw [hpoint, hpointText]
    have himage (mode : DuplicateDetectionMode) : (service.withMode mode).upsertImage =
        service.upsertImage := rfl
    have htext (mode : DuplicateDetectionMode) : (service.withMode mode).upsertText =
        service.upsertText := rfl
    simp only [himage, htext]
    cases service.upsertImage (imagePoint product image built) with
    | failed e tookEffect => rfl
    | stored =>
      cases service.upsertText (textPoint product image built) with
      | failed e tookEffect => rfl
      | stored => rfl

end ProductService

/-! ### The answer and the upload -/

/-- The dry run and the upload have the same collaborators, and the upload asks the backend of
the dry run about the same attributes. -/
structure DuplicateCheckService.Matches (check : DuplicateCheckService ι V ε)
    (service : ProductService ι V ε) : Prop where
  processImage : check.processImage = service.processImage
  enrich : check.enrich = service.enrich
  detection : check.duplicateDetectionService = service.duplicateDetectionService
  weighted : check.verificationEnabled = false
  enriches : service.catalogIntelligenceEnabled = true

/-- How an upload with another decision ends in `BLOCK` mode. -/
def refuse [DecidableEq ι] (store : VectorStore ι V) (decision : DuplicateDecision ι)
    (outcome : Except (AppException ι ε) (Product ι V) × VectorStore ι V) :
    Except (AppException ι ε) (Product ι V) × VectorStore ι V :=
  if decision.isDuplicate then
    (.error (.conflict (conflictMessage decision.confidence) decision.matchedProduct
      decision.confidence), store)
  else announce decision outcome

namespace ProductService

variable [DecidableEq ι] (service : ProductService ι V ε) (store : VectorStore ι V)
  (product : ProductCreate) (image : ProductImage) (productId : Option ι)

/-- The run of an upload in a mode. -/
def outcomeIn (mode : DuplicateDetectionMode) :
    Except (AppException ι ε) (Product ι V) × VectorStore ι V :=
  ((service.withMode mode).processUpload product image productId).outcome store

theorem duplicateDecision_off (attributes : ProductAttributes) :
    (service.withMode .off).duplicateDecision store product image attributes =
      .ok disabledDecision :=
  if_pos rfl

/-- The verdict on an upload whose duplicate check is on. -/
theorem duplicateDecision_withMode {mode : DuplicateDetectionMode} (hmode : mode ≠ .off)
    (attributes : ProductAttributes) :
    (service.withMode mode).duplicateDecision store product image attributes = (do
      let decision ← service.duplicateDetectionService.detect store
        (product.checked image attributes) none none none
      if decision.isDuplicate ∧ mode = .block then
        throw (.conflict (conflictMessage decision.confidence) decision.matchedProduct
          decision.confidence)
      return decision) := by
  rw [duplicateDecision, if_neg]
  · rfl
  · exact hmode

/-- The product of an upload whose verdict is known. -/
theorem buildProduct_of_decision {mode : DuplicateDetectionMode} {preparation : Preparation V}
    {catalogResult : CatalogIntelligenceResult} {decision : DuplicateDecision ι}
    (hprologue : (service.prologue product image : Except (AppException ι ε) _) = .ok preparation)
    (hcatalog : (service.catalogResult product preparation.imageMetadata :
      Except (AppException ι ε) _) = .ok catalogResult)
    (hdecision : (service.withMode mode).duplicateDecision store product image
      catalogResult.attributes = .ok decision) :
    (service.withMode mode).buildProduct store product image productId =
      service.assemble product image productId preparation catalogResult decision := by
  have hprologue' : ((service.withMode mode).prologue product image :
    Except (AppException ι ε) _) = .ok preparation := hprologue
  have hcatalog' : ((service.withMode mode).catalogResult product preparation.imageMetadata :
    Except (AppException ι ε) _) = .ok catalogResult := hcatalog
  rw [buildProduct_eq, hprologue']
  dsimp only [bind, Except.bind]
  rw [hcatalog']
  dsimp only
  rw [hdecision]
  rfl

/-- An upload fails where its verdict does. -/
theorem outcomeIn_of_error {mode : DuplicateDetectionMode} {preparation : Preparation V}
    {e : AppException ι ε}
    (hprologue : (service.prologue product image : Except (AppException ι ε) _) = .ok preparation)
    (h : (do
      let catalogResult ← service.catalogResult product preparation.imageMetadata
      (service.withMode mode).duplicateDecision store product image catalogResult.attributes) =
        .error e) :
    service.outcomeIn store product image productId mode = (.error e, store) := by
  refine outcome_of_error _ _ _ _ _ ?_
  rw [buildProduct_eq]
  refine Except.bind_eq_error.2 (.inr ⟨preparation, hprologue, Except.bind_eq_error.2 ?_⟩)
  rcases Except.bind_eq_error.1 h with hcatalog | ⟨catalogResult, hcatalog, hdecision⟩
  · exact .inl hcatalog
  · exact .inr ⟨catalogResult, hcatalog, Except.bind_eq_error.2 (.inl hdecision)⟩

/-- **What the dry run says about an upload.**  An upload that cannot be prepared ends alike in
every mode.  Otherwise it fails in `WARN` and `BLOCK` mode if the dry run does; if the dry run
answers, the upload in `WARN` mode is the unchecked one with the decision of that answer, and in
`BLOCK` mode it is this or, if the answer says duplicate, refused without a trace. -/
theorem upload_follows_check (check : DuplicateCheckService ι V ε) (h : check.Matches service) :
    (∀ e, (service.prologue product image : Except (AppException ι ε) _) = .error e →
      ∀ mode, service.outcomeIn store product image productId mode = (.error e, store)) ∧
    ∀ preparation,
      (service.prologue product image : Except (AppException ι ε) _) = .ok preparation →
      (∀ e, check.checkDuplicate store product image none none = .error e →
        service.outcomeIn store product image productId .warn = (.error e, store) ∧
          service.outcomeIn store product image productId .block = (.error e, store)) ∧
      ∀ response, check.checkDuplicate store product image none none = .ok response →
        service.outcomeIn store product image productId .warn =
            announce response.decision
              (service.outcomeIn store product image productId .off) ∧
          service.outcomeIn store product image productId .block =
            refuse store response.decision
              (service.outcomeIn store product image productId .off) := by
  constructor
  · intro e hprologue mode
    refine outcome_of_error _ _ _ _ _ ?_
    rw [buildProduct_eq]
    exact Except.bind_eq_error.2 (.inl hprologue)
  intro preparation hprologue
  obtain ⟨_, -, hrest⟩ := Except.bind_eq_ok.1 hprologue
  obtain ⟨imageMetadata, himage, hrest⟩ := Except.bind_eq_ok.1 hrest
  obtain ⟨_, -, hrest⟩ := Except.bind_eq_ok.1 hrest
  obtain ⟨_, -, hrest⟩ := Except.bind_eq_ok.1 hrest
  cases hrest
  -- the dry run makes the same two steps
  have hverdict : (check.checkDuplicate store product image none none).map
      DuplicateCheckResponse.decision = (do
        let catalogResult ← service.catalogResult product imageMetadata
        service.duplicateDetectionService.detect store
          (product.checked image catalogResult.attributes) none none none) := by
    rw [check.checkDuplicate_eq store product image none none h.weighted, h.processImage, himage,
      h.enrich, h.detection, catalogResult, if_pos h.enriches]
    rfl
  constructor
  · intro e hcheck
    rw [hcheck] at hverdict
    have hfails : ∀ mode, mode ≠ .off →
        service.outcomeIn store product image productId mode = (.error e, store) := by
      intro mode hmode
      refine service.outcomeIn_of_error store product image productId hprologue ?_
      refine Except.bind_eq_error.2 ?_
      rcases Except.bind_eq_error.1 hverdict.symm with hcatalog | ⟨catalogResult, hcatalog, hdetect⟩
      · exact .inl hcatalog
      · refine .inr ⟨catalogResult, hcatalog, ?_⟩
        rw [service.duplicateDecision_withMode store product image hmode]
        exact Except.bind_eq_error.2 (.inl hdetect)
    exact ⟨hfails .warn (by decide), hfails .block (by decide)⟩
  · intro response hcheck
    rw [hcheck] at hverdict
    obtain ⟨catalogResult, hcatalog, hdetect⟩ := Except.bind_eq_ok.1 hverdict.symm
    have hoff : (service.withMode .off).buildProduct store product image productId = _ :=
      service.buildProduct_of_decision store product image productId hprologue hcatalog
        (service.duplicateDecision_off store product image _)
    -- an upload that keeps the decision differs from the unchecked one in nothing else
    have hkeeps : ∀ mode, (service.withMode mode).duplicateDecision store product image
        catalogResult.attributes = .ok response.decision →
        service.outcomeIn store product image productId mode =
          announce response.decision (service.outcomeIn store product image productId .off) := by
      intro mode hdecision
      refine service.outcome_announce store product image productId ?_
      rw [service.buildProduct_of_decision store product image productId hprologue hcatalog
        hdecision, hoff]
      exact service.assemble_eq product image productId _ _ _ _
    constructor
    · refine hkeeps .warn ?_
      rw [service.duplicateDecision_withMode store product image (by decide), hdetect]
      simp [bind, Except.bind, pure, Except.pure]
    · unfold refuse
      by_cases hduplicate : response.decision.isDuplicate
      · rw [if_pos hduplicate]
        refine service.outcomeIn_of_error store product image productId hprologue ?_
        refine Except.bind_eq_error.2 (.inr ⟨catalogResult, hcatalog, ?_⟩)
        rw [service.duplicateDecision_withMode store product image (by decide), hdetect]
        simp [bind, Except.bind, hduplicate, throw, throwThe, MonadExceptOf.throw]
      · rw [if_neg hduplicate]
        refine hkeeps .block ?_
        rw [service.duplicateDecision_withMode store product image (by decide), hdetect]
        simp [bind, Except.bind, pure, Except.pure, hduplicate]

end ProductService

namespace OneShoe

/-- The dry run of the shoe. -/
def check : DuplicateCheckService ℕ Unit Unit where
  processImage := (service .off .stored).processImage
  enrich := (service .off .stored).enrich
  duplicateDetectionService := duplicateDetection
  duplicateVerificationService :=
    ⟨hybridSearch, hybridSearch.reranker, ⟨false, false, 1 / 5, 4 / 5⟩, 10, 4 / 5, 7 / 10, 3 / 10⟩
  verificationEnabled := false

/-- The shoe is indexed already. -/
def indexed : VectorStore ℕ Unit :=
  (((service .off .stored).processUpload product image (some 7)).outcome nothing).2

end OneShoe

/-- The dry run finds the shoe indexed, and the upload is refused. -/
theorem shoe_refused :
    ∃ response, OneShoe.check.checkDuplicate OneShoe.indexed OneShoe.product OneShoe.image none
        none = .ok response ∧ response.matchedProduct = some 7 ∧
      (OneShoe.service .off .stored).outcomeIn OneShoe.indexed OneShoe.product OneShoe.image
          (some 8) .block =
        (.error (.conflict (conflictMessage response.confidence) (some 7) response.confidence),
          OneShoe.indexed) := by
  have hfollows := (ProductService.upload_follows_check (OneShoe.service .off .stored)
    OneShoe.indexed OneShoe.product OneShoe.image (some 8) OneShoe.check
    ⟨rfl, rfl, rfl, rfl, rfl⟩).2 _ rfl
  have hmatched : ((OneShoe.check.checkDuplicate OneShoe.indexed OneShoe.product OneShoe.image none
      none).toOption.map fun response => (response.duplicate, response.matchedProduct)) =
        some (true, some 7) := by decide +kernel
  obtain ⟨response, hresponse, hpair⟩ := Option.map_eq_some_iff.1 hmatched
  obtain ⟨hduplicate, hmatched⟩ := Prod.mk.inj hpair
  replace hresponse := Except.toOption_eq_some.1 hresponse
  refine ⟨response, hresponse, hmatched, ?_⟩
  have hrefused : response.decision.isDuplicate = true := hduplicate
  rw [(hfollows.2 response hresponse).2, refuse, if_pos hrefused]
  rw [← hmatched]
  rfl

end ProductIntelligence

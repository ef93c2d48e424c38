import ProductIntelligence.Products.Product

/-!
# Processing an upload

`process_upload` as the source has it: everything up to the domain product only reads the
vector store, and the two upserts come last, one after the other.  Its collaborators may
raise at any call; a call that stores a point and raises may have stored it or not.

## Main definitions

* `ProductService` — the collaborators and settings.
* `ProductService.buildProduct`, `ProductService.processUpload` — the pipeline.
* `ProductService.Prepares` — the upload gets as far as its writes, and what it writes.
* `AllOrNothing` — what is promised of the two collections.

## Main results

* `prepares_iff` — when the product can be built.
* `outcome_of_error`, `outcome_of_built` — the run of an upload in terms of its writes.
* `all_or_nothing_iff` — when the promise is kept.
* `image_indexed_without_text` — an upload that breaks it.

## References

`backend/app/services/product_service.py`, `backend/app/validators/product_validator.py`.
-/

namespace ProductIntelligence

variable {ι V ε : Type}

/-! ### The collaborators -/

/-- How `process_upload` reacts to a likely duplicate. -/
inductive DuplicateDetectionMode
  | off
  | warn
  | block
  deriving DecidableEq

/-- How a call that stores one point ends: it returns, or it raises and the point may have
been stored all the same. -/
inductive UpsertOutcome (ε : Type)
  | stored
  | failed (error : ε) (tookEffect : Bool)

/-- The point was stored. -/
def UpsertOutcome.TookEffect : UpsertOutcome ε → Prop
  | .stored => True
  | .failed _ tookEffect => tookEffect

/-- What the caller of an upsert sees. -/
def UpsertOutcome.reply : UpsertOutcome ε → Except ε Unit
  | .stored => .ok ()
  | .failed e _ => .error e

/-- What an upsert makes of the collection. -/
def UpsertOutcome.apply [DecidableEq ι] (outcome : UpsertOutcome ε) (point : StoredPoint ι V)
    (collection : Collection ι V) : Collection ι V :=
  match outcome with
  | .stored => collection.upsert point
  | .failed _ tookEffect => if tookEffect then collection.upsert point else collection

/-- The product service: its collaborators, as they behave during one upload, and its
settings.  A stored file is known by its stored name. -/
structure ProductService (ι V ε : Type) where
  computeSha256 : Text → Except ε Text
  processImage : Text → Except ε ImageMetadata
  generateEmbedding : Text → Except ε V
  embedText : Text → Except ε V
  imageModelName : Text
  textModelName : Text
  dimension : V → ℕ
  enrich : Text → Option Text → Option Text → Option Text → Text →
    Except ε CatalogIntelligenceResult
  catalogIntelligenceEnabled : Bool
  duplicateDetectionService : DuplicateDetectionService ι V ε
  duplicateDetectionMode : DuplicateDetectionMode
  uuid4 : ι
  upsertImage : StoredPoint ι V → UpsertOutcome ε
  upsertText : StoredPoint ι V → UpsertOutcome ε

/-! ### Checks -/

/-- `validate_normalized_name`. -/
def validateNormalizedName (name : Text) : Except (AppException ι ε) Unit :=
  if name = [] then .error (.validation "Product name must not be blank.".toList) else .ok ()

/-- `validate_price`. -/
def validatePrice (price : Option ℚ) : Except (AppException ι ε) Unit :=
  match price with
  | some p =>
    if p < 0 then .error (.validation "Product price must not be negative.".toList) else .ok ()
  | none => .ok ()

theorem validateNormalizedName_eq_ok {name : Text} :
    validateNormalizedName name = (.ok () : Except (AppException ι ε) Unit) ↔ name ≠ [] := by
  unfold validateNormalizedName
  split <;> simp [*]

theorem validatePrice_eq_ok {price : Option ℚ} :
    validatePrice price = (.ok () : Except (AppException ι ε) Unit) ↔ ∀ p ∈ price, 0 ≤ p := by
  unfold validatePrice
  cases price with
  | none => simp
  | some p =>
    by_cases hp : p < 0
    · simp [hp]
    · simpa [hp] using not_lt.1 hp

/-- The decision when detection is off. -/
def disabledDecision : DuplicateDecision ι where
  isDuplicate := false
  confidence := 0
  reason := "Duplicate detection is disabled.".toList
  matchedProduct := none
  topCandidates := []

/-- The message of a refused upload. -/
def conflictMessage (confidence : ℚ) : Text :=
  "This product appears to be a duplicate of an existing product (confidence=".toList ++
    twoDecimals confidence ++ ").".toList

/-! ### The pipeline -/

namespace ProductService

variable [DecidableEq ι] (service : ProductService ι V ε) (store : VectorStore ι V)
  (product : ProductCreate) (image : ProductImage) (productId : Option ι)

omit [DecidableEq ι] in
/-- What catalog intelligence found out, or nothing if it is disabled. -/
def catalogResult (imageMetadata : ImageMetadata) :
    Except (AppException ι ε) CatalogIntelligenceResult :=
  if service.catalogIntelligenceEnabled then
    callService (service.enrich product.name product.brand product.category product.description
      imageMetadata.processedPath)
  else .ok ⟨ProductAttributes.empty, [], 0⟩

/-- The verdict on the upload; in `BLOCK` mode a duplicate is refused. -/
def duplicateDecision (attributes : ProductAttributes) :
    Except (AppException ι ε) (DuplicateDecision ι) :=
  if service.duplicateDetectionMode = .off then .ok disabledDecision
  else do
    let decision ← service.duplicateDetectionService.detect store
      { name := product.name
        brand := product.brand
        category := product.category
        description := product.description
        attributes := attributes
        image := image } none none none
    if decision.isDuplicate ∧ service.duplicateDetectionMode = .block then
      throw (.conflict (conflictMessage decision.confidence) decision.matchedProduct
        decision.confidence)
    return decision

/-- `process_upload` up to the domain product: nothing is written yet. -/
def buildProduct : Except (AppException ι ε) (Product ι V) := do
  let checksum ← callService (service.computeSha256 image.storedFilename)
  let imageMetadata ← callService (service.processImage image.storedFilename)
  let vector ← callService (service.generateEmbedding imageMetadata.processedPath)
  let textRepresentation := buildTextRepresentation product.name product.brand product.category
    product.description
  let textVector ← callService (service.embedText textRepresentation)
  let catalogResult ← service.catalogResult product imageMetadata
  let duplicateDecision ← service.duplicateDecision store product image catalogResult.attributes
  let fileMetadata ← parseFileMetadata image checksum
  let normalizedName := normalizeName product.name
  let normalizedPrice := normalizePrice product.price
  validateNormalizedName normalizedName
  validatePrice normalizedPrice
  let resolvedProductId := productId.getD service.uuid4
  let embedding ← buildEmbedding resolvedProductId service.imageModelName
    (service.dimension vector) vector
  let textEmbedding ← buildEmbedding resolvedProductId service.textModelName
    (service.dimension textVector) textVector
  return { id := resolvedProductId
           name := normalizedName
           brand := normalizeBrand product.brand
           description := normalizeDescription product.description
           category := normalizeCategory product.category
           price := normalizedPrice
           fileMetadata := fileMetadata
           imageMetadata := imageMetadata
           embedding := embedding
           textEmbedding := textEmbedding
           catalogIntelligence := catalogResult
           duplicateDecision := duplicateDecision }

/-- A computation on the two collections that may raise; what it wrote before stays. -/
abbrev Upload (ι V ε : Type) := ExceptT (AppException ι ε) (StateM (VectorStore ι V))

/-- `upsert_image` of one point. -/
def storeImage (point : StoredPoint ι V) : Upload ι V ε Unit :=
  ExceptT.mk fun store =>
    (callService (service.upsertImage point).reply,
      { store with image := (service.upsertImage point).apply point store.image })

/-- `upsert_text` of one point. -/
def storeText (point : StoredPoint ι V) : Upload ι V ε Unit :=
  ExceptT.mk fun store =>
    (callService (service.upsertText point).reply,
      { store with text := (service.upsertText point).apply point store.text })

omit [DecidableEq ι] in
/-- The point stored in the image collection. -/
def imagePoint (built : Product ι V) : StoredPoint ι V where
  productId := built.id
  vector := built.embedding.vector
  metadata := vectorMetadata product image built.catalogIntelligence

omit [DecidableEq ι] in
/-- The point stored in the text collection. -/
def textPoint (built : Product ι V) : StoredPoint ι V where
  productId := built.id
  vector := built.textEmbedding.vector
  metadata := vectorMetadata product image built.catalogIntelligence

/-- `process_upload`. -/
def processUpload : Upload ι V ε (Product ι V) := do
  let built ← ExceptT.mk fun store => (service.buildProduct store product image productId, store)
  service.storeImage (imagePoint product image built)
  service.storeText (textPoint product image built)
  return built

/-! ### Reaching the writes -/

/-- The upload gets as far as its writes, and these are the points for the two collections:
every collaborator before them answers, no check fails and the upload is not refused. -/
inductive Prepares : StoredPoint ι V → StoredPoint ι V → Prop
  | intro {checksum : Text} {imageMetadata : ImageMetadata} {vector textVector : V}
      {catalogResult : CatalogIntelligenceResult}
      (checksum_ok : service.computeSha256 image.storedFilename = .ok checksum)
      (checksum_hex : IsSha256Hex checksum)
      (image_ok : service.processImage image.storedFilename = .ok imageMetadata)
      (vector_ok : service.generateEmbedding imageMetadata.processedPath = .ok vector)
      (vector_dimension : 0 < service.dimension vector)
      (textVector_ok : service.embedText (buildTextRepresentation product.name product.brand
        product.category product.description) = .ok textVector)
      (textVector_dimension : 0 < service.dimension textVector)
      (catalog_ok : service.catalogResult product imageMetadata =
        (.ok catalogResult : Except (AppException ι ε) CatalogIntelligenceResult))
      (accepted : ∃ decision,
        service.duplicateDecision store product image catalogResult.attributes = .ok decision)
      (size_pos : 0 < image.sizeBytes)
      (name_ne : normalizeName product.name ≠ [])
      (price_nonneg : ∀ p ∈ normalizePrice product.price, 0 ≤ p) :
      Prepares
        ⟨productId.getD service.uuid4, vector, vectorMetadata product image catalogResult⟩
        ⟨productId.getD service.uuid4, textVector, vectorMetadata product image catalogResult⟩

/-- **An upload reaches its writes** exactly when its product can be built. -/
theorem prepares_iff {point pointText : StoredPoint ι V} :
    service.Prepares store product image productId point pointText ↔
      ∃ built, service.buildProduct store product image productId = .ok built ∧
        imagePoint product image built = point ∧ textPoint product image built = pointText := by
  constructor
  · intro h
    cases h with
    | @intro checksum imageMetadata vector textVector catalogResult hchecksum hhex himage hvector
        hdimension htext htextDimension hcatalog haccepted hsize hname hprice =>
    obtain ⟨decision, hdecision⟩ := haccepted
    -- every step of the pipeline in turn succeeds
    obtain ⟨fileMetadata, hfile⟩ := (parseFileMetadata_isOk_iff (ι := ι) (ε := ε) _ _).2
      ⟨hsize, hhex⟩
    exact ⟨_, Except.bind_eq_ok.2 ⟨_, callService_eq_ok.2 hchecksum,
      Except.bind_eq_ok.2 ⟨_, callService_eq_ok.2 himage,
      Except.bind_eq_ok.2 ⟨_, callService_eq_ok.2 hvector,
      Except.bind_eq_ok.2 ⟨_, callService_eq_ok.2 htext,
      Except.bind_eq_ok.2 ⟨_, hcatalog,
      Except.bind_eq_ok.2 ⟨_, hdecision,
      Except.bind_eq_ok.2 ⟨_, hfile,
      Except.bind_eq_ok.2 ⟨(), validateNormalizedName_eq_ok.2 hname,
      Except.bind_eq_ok.2 ⟨(), validatePrice_eq_ok.2 hprice,
      Except.bind_eq_ok.2 ⟨_, buildEmbedding_eq_ok.2 ⟨hdimension, rfl⟩,
      Except.bind_eq_ok.2 ⟨_, buildEmbedding_eq_ok.2 ⟨htextDimension, rfl⟩, rfl⟩⟩⟩⟩⟩⟩⟩⟩⟩⟩⟩,
      rfl, rfl⟩
  · rintro ⟨built, hbuilt, rfl, rfl⟩
    obtain ⟨checksum, hchecksum, hbuilt⟩ := Except.bind_eq_ok.1 hbuilt
    obtain ⟨imageMetadata, himage, hbuilt⟩ := Except.bind_eq_ok.1 hbuilt
    obtain ⟨vector, hvector, hbuilt⟩ := Except.bind_eq_ok.1 hbuilt
    obtain ⟨textVector, htext, hbuilt⟩ := Except.bind_eq_ok.1 hbuilt
    obtain ⟨catalogResult, hcatalog, hbuilt⟩ := Except.bind_eq_ok.1 hbuilt
    obtain ⟨decision, hdecision, hbuilt⟩ := Except.bind_eq_ok.1 hbuilt
    obtain ⟨fileMetadata, hfile, hbuilt⟩ := Except.bind_eq_ok.1 hbuilt
    obtain ⟨_, hname, hbuilt⟩ := Except.bind_eq_ok.1 hbuilt
    obtain ⟨_, hprice, hbuilt⟩ := Except.bind_eq_ok.1 hbuilt
    obtain ⟨embedding, hembedding, hbuilt⟩ := Except.bind_eq_ok.1 hbuilt
    obtain ⟨textEmbedding, htextEmbedding, hbuilt⟩ := Except.bind_eq_ok.1 hbuilt
    -- what the checks among the steps ask for
    obtain ⟨hsize, hhex⟩ := (parseFileMetadata_isOk_iff _ _).1 ⟨_, hfile⟩
    obtain ⟨hdimension, rfl⟩ := buildEmbedding_eq_ok.1 hembedding
    obtain ⟨htextDimension, rfl⟩ := buildEmbedding_eq_ok.1 htextEmbedding
    cases hbuilt
    exact .intro (callService_eq_ok.1 hchecksum) hhex (callService_eq_ok.1 himage)
      (callService_eq_ok.1 hvector) hdimension (callService_eq_ok.1 htext) htextDimension hcatalog
      ⟨decision, hdecision⟩ hsize (validateNormalizedName_eq_ok.1 hname)
      (validatePrice_eq_ok.1 hprice)

/-! ### The run of an upload -/

omit [DecidableEq ι] in
/-- The result of a computation and the collections it leaves. -/
def Upload.outcome {α : Type} (m : Upload ι V ε α) (store : VectorStore ι V) :
    Except (AppException ι ε) α × VectorStore ι V :=
  Id.run (StateT.run (ExceptT.run m) store)

/-- An upload that raises before its writes leaves the collections alone. -/
theorem outcome_of_error {e : AppException ι ε}
    (h : service.buildProduct store product image productId = .error e) :
    (service.processUpload product image productId).outcome store = (.error e, store) := by
  simp only [Upload.outcome, processUpload, ExceptT.run, bind, ExceptT.bind, ExceptT.mk, StateT.run,
    StateT.bind, ExceptT.bindCont, h]
  rfl

/-- The writes of an upload: the text collection is written only once the image is stored. -/
theorem outcome_of_built {built : Product ι V}
    (h : service.buildProduct store product image productId = .ok built) :
    (service.processUpload product image productId).outcome store =
      match service.upsertImage (imagePoint product image built) with
      | .failed e tookEffect =>
        (.error (.service e),
          { store with
            image := if tookEffect then store.image.upsert (imagePoint product image built)
              else store.image })
      | .stored =>
        match service.upsertText (textPoint product image built) with
        | .failed e tookEffect =>
          (.error (.service e),
            { image := store.image.upsert (imagePoint product image built)
              text := if tookEffect then store.text.upsert (textPoint product image built)
                else store.text })
        | .stored =>
          (.ok built,
            { image := store.image.upsert (imagePoint product image built)
              text := store.text.upsert (textPoint product image built) }) := by
  simp only [Upload.outcome, processUpload, ExceptT.run, bind, ExceptT.bind, ExceptT.mk, StateT.run,
    StateT.bind, ExceptT.bindCont, h, storeImage, storeText]
  cases himage : service.upsertImage (imagePoint product image built) with
  | failed e tookEffect => rfl
  | stored =>
    cases htext : service.upsertText (textPoint product image built) with
    | failed e tookEffect => rfl
    | stored => rfl

/-! ### All or nothing -/

omit [DecidableEq ι] in
/-- Both points are stored. -/
def Completes (point pointText : StoredPoint ι V) : Prop :=
  service.upsertImage point = .stored ∧ service.upsertText pointText = .stored

/-- Neither collection is changed by the writes: what takes effect was there already. -/
def LeavesNoTrace (point pointText : StoredPoint ι V) : Prop :=
  ((service.upsertImage point).TookEffect →
    store.image.retrieve point.productId = some point) ∧
  (service.upsertImage point = .stored → (service.upsertText pointText).TookEffect →
    store.text.retrieve pointText.productId = some pointText)

end ProductService

/-- An upload is all or nothing: if it raises, no entry of either collection has changed, and
if it returns, both collections hold an entry of its product with the same payload. -/
def AllOrNothing [DecidableEq ι] (store : VectorStore ι V) :
    Except (AppException ι ε) (Product ι V) × VectorStore ι V → Prop
  | (.error _, after) => ∀ productId,
      after.image.retrieve productId = store.image.retrieve productId ∧
        after.text.retrieve productId = store.text.retrieve productId
  | (.ok product, after) => ∃ point pointText,
      after.image.retrieve product.id = some point ∧
        after.text.retrieve product.id = some pointText ∧ point.metadata = pointText.metadata

/-- An upload that raises and is all or nothing leaves every entry as it was. -/
theorem AllOrNothing.unchanged [DecidableEq ι] {store : VectorStore ι V}
    {outcome : Except (AppException ι ε) (Product ι V) × VectorStore ι V}
    (h : AllOrNothing store outcome) (hraised : outcome.1.toOption = none) (productId : ι) :
    outcome.2.image.retrieve productId = store.image.retrieve productId ∧
      outcome.2.text.retrieve productId = store.text.retrieve productId := by
  obtain ⟨_ | product, after⟩ := outcome
  · exact h productId
  · cases hraised

namespace ProductService

variable [DecidableEq ι] (service : ProductService ι V ε) (store : VectorStore ι V)
  (product : ProductCreate) (image : ProductImage) (productId : Option ι)

/-- An upload that has reached its writes is all or nothing when both points are stored or
nothing changes. -/
theorem allOrNothing_of_built {built : Product ι V}
    (h : service.buildProduct store product image productId = .ok built) :
    AllOrNothing store ((service.processUpload product image productId).outcome store) ↔
      service.Completes (imagePoint product image built) (textPoint product image built) ∨
        service.LeavesNoTrace store (imagePoint product image built)
          (textPoint product image built) := by
  rw [service.outcome_of_built store product image productId h]
  unfold Completes LeavesNoTrace
  set point := imagePoint product image built with hpoint
  set pointText := textPoint product image built with hpointText
  cases himage : service.upsertImage point with
  | failed e tookEffect =>
    cases tookEffect with
    | false => simp [AllOrNothing, UpsertOutcome.TookEffect]
    | true => simp [AllOrNothing, UpsertOutcome.TookEffect, retrieve_upsert_eq_iff]
  | stored =>
    cases htext : service.upsertText pointText with
    | failed e tookEffect =>
      cases tookEffect with
      | false => simp [AllOrNothing, UpsertOutcome.TookEffect, retrieve_upsert_eq_iff]
      | true =>
        simp [AllOrNothing, UpsertOutcome.TookEffect, retrieve_upsert_eq_iff, forall_and]
    | stored =>
      have hstored : AllOrNothing (ε := ε) store
          (.ok built, ⟨store.image.upsert point, store.text.upsert pointText⟩) :=
        ⟨point, pointText, retrieve_upsert_self _ point, retrieve_upsert_self _ pointText, rfl⟩
      exact iff_of_true hstored (.inl ⟨rfl, rfl⟩)

/-- **When an upload is all or nothing**: exactly when, should it get as far as its writes, both
points are stored or neither collection changes.  The gap is the one between the two writes. -/
theorem all_or_nothing_iff :
    AllOrNothing store ((service.processUpload product image productId).outcome store) ↔
      ∀ point pointText, service.Prepares store product image productId point pointText →
        service.Completes point pointText ∨ service.LeavesNoTrace store point pointText := by
  cases hbuild : service.buildProduct store product image productId with
  | error e =>
    rw [service.outcome_of_error store product image productId hbuild]
    have hnever : ∀ point pointText,
        ¬ service.Prepares store product image productId point pointText := by
      intro point pointText hprepares
      obtain ⟨built, hbuilt, -⟩ := (service.prepares_iff store product image productId).1 hprepares
      rw [hbuild] at hbuilt
      cases hbuilt
    exact iff_of_true (fun _ => ⟨rfl, rfl⟩) fun _ _ h => absurd h (hnever _ _)
  | ok built =>
    rw [service.allOrNothing_of_built store product image productId hbuild]
    constructor
    · intro h point pointText hprepares
      obtain ⟨built', hbuilt, rfl, rfl⟩ :=
        (service.prepares_iff store product image productId).1 hprepares
      rw [hbuild] at hbuilt
      cases hbuilt
      exact h
    · intro h
      exact h _ _ ((service.prepares_iff store product image productId).2
        ⟨built, hbuild, rfl, rfl⟩)

end ProductService

/-! ### What an upload depends on -/

/-- The submitted data pass every check. -/
structure FieldsValid (product : ProductCreate) (image : ProductImage) : Prop where
  size_pos : 0 < image.sizeBytes
  name_ne : normalizeName product.name ≠ []
  price_nonneg : ∀ p ∈ normalizePrice product.price, 0 ≤ p

/-- No collaborator fails in the upload. -/
structure ProductService.Works (service : ProductService ι V ε) (product : ProductCreate)
    (image : ProductImage) : Prop where
  checksum_ok : ∃ checksum, service.computeSha256 image.storedFilename = .ok checksum ∧
    IsSha256Hex checksum
  image_ok : ∃ imageMetadata vector,
    service.processImage image.storedFilename = .ok imageMetadata ∧
    service.generateEmbedding imageMetadata.processedPath = .ok vector ∧
      0 < service.dimension vector
  text_ok : ∃ vector, service.embedText (buildTextRepresentation product.name product.brand
    product.category product.description) = .ok vector ∧ 0 < service.dimension vector
  catalog_ok : ∀ imageMetadata, service.processImage image.storedFilename = .ok imageMetadata →
    ∃ result, service.catalogResult product imageMetadata =
      (.ok result : Except (AppException ι ε) CatalogIntelligenceResult)
  stored : ∀ point, service.upsertImage point = .stored ∧ service.upsertText point = .stored

namespace ProductService

variable [DecidableEq ι] (service : ProductService ι V ε) {store : VectorStore ι V}
  {product : ProductCreate} {image : ProductImage} {productId : Option ι}

/-- An upload whose writes leave no trace leaves the index as it was. -/
theorem outcome_snd_of_leavesNoTrace
    (h : ∀ point pointText, service.Prepares store product image productId point pointText →
      service.LeavesNoTrace store point pointText) :
    ((service.processUpload product image productId).outcome store).2 = store := by
  cases hbuild : service.buildProduct store product image productId with
  | error e => rw [service.outcome_of_error store product image productId hbuild]
  | ok built =>
    obtain ⟨himage, htext⟩ := h _ _
      ((service.prepares_iff store product image productId).2 ⟨built, hbuild, rfl, rfl⟩)
    rw [service.outcome_of_built store product image productId hbuild]
    cases himageOutcome : service.upsertImage (imagePoint product image built) with
    | failed e tookEffect =>
      cases tookEffect with
      | false => rfl
      | true =>
        rw [himageOutcome] at himage
        simp [upsert_eq_self (himage rfl)]
    | stored =>
      rw [himageOutcome] at himage htext
      have himageSame := upsert_eq_self (himage trivial)
      cases htextOutcome : service.upsertText (textPoint product image built) with
      | failed e tookEffect =>
        cases tookEffect with
        | false => simp [himageSame]
        | true =>
          rw [htextOutcome] at htext
          simp [himageSame, upsert_eq_self (htext rfl rfl)]
      | stored =>
        rw [htextOutcome] at htext
        simp [himageSame, upsert_eq_self (htext rfl trivial)]

/-- An upload reaches its writes only with data that pass every check. -/
theorem Prepares.fieldsValid {service : ProductService ι V ε} {point pointText : StoredPoint ι V}
    (h : service.Prepares store product image productId point pointText) :
    FieldsValid product image := by
  cases h with
  | intro _ _ _ _ _ _ _ _ _ hsize hname hprice => exact ⟨hsize, hname, hprice⟩

/-- The points are stored under the id given, or under a fresh one. -/
theorem Prepares.productId_eq {service : ProductService ι V ε} {point pointText : StoredPoint ι V}
    (h : service.Prepares store product image productId point pointText) :
    point.productId = productId.getD service.uuid4 ∧
      pointText.productId = productId.getD service.uuid4 := by
  cases h
  exact ⟨rfl, rfl⟩

/-- With detection off the product does not depend on the index. -/
theorem buildProduct_congr_of_off (h : service.duplicateDetectionMode = .off)
    (store' : VectorStore ι V) :
    service.buildProduct store product image productId =
      service.buildProduct store' product image productId := by
  have hdecision : ∀ store : VectorStore ι V, service.duplicateDecision store product image =
      fun _ => .ok disabledDecision := by
    intro store
    funext attributes
    rw [duplicateDecision, if_pos h]
  unfold buildProduct
  rw [hdecision store, hdecision store']

/-- With detection off and no failure, an upload whose data pass every check stores the same
points in both collections, whatever they hold. -/
theorem outcome_of_works (hworks : service.Works product image)
    (hoff : service.duplicateDetectionMode = .off) (hvalid : FieldsValid product image)
    (productId : Option ι) :
    ∃ built point pointText, point.productId = productId.getD service.uuid4 ∧
      pointText.productId = productId.getD service.uuid4 ∧ ∀ store : VectorStore ι V,
        (service.processUpload product image productId).outcome store =
          (.ok built,
            { image := store.image.upsert point, text := store.text.upsert pointText }) := by
  obtain ⟨checksum, hchecksum, hhex⟩ := hworks.checksum_ok
  obtain ⟨imageMetadata, vector, himage, hvector, hdimension⟩ := hworks.image_ok
  obtain ⟨textVector, htext, htextDimension⟩ := hworks.text_ok
  obtain ⟨catalogResult, hcatalog⟩ := hworks.catalog_ok imageMetadata himage
  have hprepares : ∀ store : VectorStore ι V, ∃ point pointText,
      service.Prepares store product image productId point pointText := by
    intro store
    have hdecision : service.duplicateDecision store product image catalogResult.attributes =
        .ok disabledDecision := by
      rw [duplicateDecision, if_pos hoff]
    exact ⟨_, _, .intro hchecksum hhex himage hvector hdimension htext htextDimension hcatalog
      ⟨_, hdecision⟩ hvalid.size_pos hvalid.name_ne hvalid.price_nonneg⟩
  obtain ⟨point, pointText, hpoints⟩ := hprepares ⟨Collection.empty, Collection.empty⟩
  obtain ⟨hpoint, hpointText⟩ := hpoints.productId_eq
  obtain ⟨built, hbuild, rfl, rfl⟩ := (service.prepares_iff _ _ _ _).1 hpoints
  refine ⟨built, _, _, hpoint, hpointText, fun store => ?_⟩
  rw [service.buildProduct_congr_of_off hoff store] at hbuild
  rw [service.outcome_of_built store product image productId hbuild, (hworks.stored _).1]
  dsimp only
  rw [(hworks.stored _).2]

end ProductService

/-! ### One shoe -/

namespace OneShoe

/-- A red shoe. -/
def product : ProductCreate where
  name := "Shoe".toList
  brand := none
  description := none
  category := none
  price := none

/-- Its stored picture. -/
def image : ProductImage where
  originalFilename := "a.png".toList
  storedFilename := "b.png".toList
  contentType := "image/png".toList
  sizeBytes := 1
  uploadedAt := 0

/-- A search in which all shoes look the same, with the default settings. -/
def hybridSearch : HybridSearchService ℕ Unit Unit where
  index := .ofSimilarity fun _ _ => 1
  embedImage := fun _ => .ok ()
  embedText := fun _ => .ok ()
  imageWeight := 7 / 10
  textWeight := 3 / 10
  reranker := ⟨.constant 0, 50, by decide, fun _ => 1 / 2, fun _ => []⟩
  rerankingEnabled := false
  rerankerTopN := 50
  defaultTopK := 10

/-- The duplicate check with its default settings. -/
def duplicateDetection : DuplicateDetectionService ℕ Unit Unit where
  hybridSearch := hybridSearch
  similarityScorer := ⟨35 / 100, 25 / 100, 20 / 100, 20 / 100⟩
  reranker := hybridSearch.reranker
  topK := 10
  threshold := 9 / 10
  rerankingEnabled := false
  rerankerTopN := 50

/-- A service whose collaborators all work, save perhaps the last write. -/
def service (mode : DuplicateDetectionMode) (upsertText : UpsertOutcome Unit) :
    ProductService ℕ Unit Unit where
  computeSha256 := fun _ => .ok (List.replicate 64 'a')
  processImage := fun _ =>
    .ok ⟨1, 1, "JPEG".toList, "RGB".toList, "b.png".toList, "b.jpg".toList, by decide, by decide⟩
  generateEmbedding := fun _ => .ok ()
  embedText := fun _ => .ok ()
  imageModelName := "image".toList
  textModelName := "text".toList
  dimension := fun _ => 1
  enrich := fun _ _ _ _ _ =>
    .ok ⟨{ ProductAttributes.empty with color := some "red".toList }, [], 1 / 2⟩
  catalogIntelligenceEnabled := true
  duplicateDetectionService := duplicateDetection
  duplicateDetectionMode := mode
  uuid4 := 0
  upsertImage := fun _ => .stored
  upsertText := fun _ => upsertText

/-- Nothing is indexed. -/
def nothing : VectorStore ℕ Unit := ⟨Collection.empty, Collection.empty⟩

end OneShoe

/-- The text collection cannot be reached once the image is stored: the upload raises, and the
image collection holds a product that the text collection does not. -/
theorem image_indexed_without_text :
    ¬ AllOrNothing OneShoe.nothing
      (((OneShoe.service .off (.failed () false)).processUpload OneShoe.product OneShoe.image
        (some 7)).outcome OneShoe.nothing) := by
  intro h
  have hunchanged := h.unchanged (by decide +kernel) 7
  revert hunchanged
  decide +kernel

end ProductIntelligence

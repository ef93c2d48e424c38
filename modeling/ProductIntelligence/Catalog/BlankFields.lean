import ProductIntelligence.Catalog.Intelligence
import ProductIntelligence.Products.ProcessUpload

/-!
# Blank fields of a product

A brand, category or description of white space only means the same as none.  The text that is
embedded, the comparison with a candidate and the stored form of a field all keep to this: each
trims before it looks.  The extraction of attributes does not trim: it trusts a blank brand or
category as submitted, and only a blank description passes it unnoticed.

## Main definitions

* `ProductCreate.Blanked` — some blank fields of a product are replaced by none.
* `SameOutcome` — two products have the same text, attributes and tags, similarity and payload.
* `BlankMeansAbsent` — replacing blank fields by none changes no outcome.

## Main results

* `sameOutcome_of_enrich` — everything but the extraction keeps to the promise.
* `blank_means_absent_iff` — when the promise is kept.
* `blank_brand_extracted` — a product that breaks it.

## References

`backend/app/services/product_service.py`,
`backend/app/services/catalog/text_attribute_service.py`,
`backend/app/services/duplicate/similarity_scorer.py`, `backend/app/utils/text.py`.
-/

namespace ProductIntelligence

variable {ι V ε : Type}

/-! ### Blank fields -/

/-- The field is given, and blank. -/
def IsBlankField (field : Option Text) : Prop := ∃ s ∈ field, IsBlank s

/-- The field is given, blank, and not empty. -/
def IsSpaceField (field : Option Text) : Prop := ∃ s ∈ field, IsBlank s ∧ s ≠ []

/-- The same field, or none in place of a blank one. -/
def BlankedField (field field' : Option Text) : Prop :=
  field' = field ∨ IsBlankField field ∧ field' = none

/-- Some blank fields of `product` are replaced by none in `product'`. -/
structure ProductCreate.Blanked (product product' : ProductCreate) : Prop where
  name_eq : product'.name = product.name
  brand : BlankedField product.brand product'.brand
  description : BlankedField product.description product'.description
  category : BlankedField product.category product'.category
  price_eq : product'.price = product.price

/-- What treats a blank field like none does not tell a field from its blanked form. -/
theorem BlankedField.congr {α : Type} {f : Option Text → α}
    (hf : ∀ s, IsBlank s → f (some s) = f none) {field field' : Option Text}
    (h : BlankedField field field') : f field' = f field := by
  rcases h with rfl | ⟨⟨s, hs, hblank⟩, rfl⟩
  · rfl
  · rw [Option.mem_def.1 hs, hf s hblank]

theorem strip_of_isBlank {s : Text} (h : IsBlank s) : strip s = [] := by
  unfold strip Words.stripBy
  rw [List.dropWhile_eq_nil_iff.2 h]
  rfl

theorem orNone_strip_of_isBlank {s : Text} (h : IsBlank s) : orNone (strip s) = none := by
  rw [strip_of_isBlank h, orNone_nil]

theorem normalizeCategory_of_isBlank {s : Text} (h : IsBlank s) :
    normalizeCategory (some s) = none := by
  rw [normalizeCategory, normalizeFacet, strip_of_isBlank h]
  rfl

theorem hasText_none : hasText none = false := rfl

theorem hasText_of_isBlank {s : Text} (h : IsBlank s) : hasText (some s) = false := by
  rw [hasText, strip_of_isBlank h]
  rfl

/-! ### The outcomes of an upload -/

/-- The product service with the catalog intelligence of this repository, whose failures it
sees as `raised`. -/
def ProductService.withCatalog (service : ProductService ι V ε)
    (catalog : CatalogIntelligenceService) (raised : CatalogIntelligenceException → ε) :
    ProductService ι V ε :=
  { service with
    enrich := fun name brand category description imagePath =>
      ((catalog.enrich name brand category description imagePath).mapError raised).map
        Enrichment.toResult }

namespace ProductService

variable (service : ProductService ι V ε) (image : ProductImage) (imageMetadata : ImageMetadata)
  (product : ProductCreate)

/-- The overall similarity of the product to a duplicate candidate; there is none for weights
that are not valid. -/
def overallSimilarity (candidate : HybridSearchResult ι) :
    Except (AppException ι ε) (Option ℚ) :=
  (service.catalogResult product imageMetadata).map fun catalogResult =>
    (service.duplicateDetectionService.similarityScorer.score
      { name := product.name
        brand := product.brand
        category := product.category
        description := product.description
        attributes := catalogResult.attributes
        image := image } candidate).map DuplicateResult.overallSimilarity

/-- The payload stored for the product. -/
def storedPayload : Except (AppException ι ε) Payload :=
  (service.catalogResult product imageMetadata).map (vectorMetadata product image)

end ProductService

section Outcome

variable (service : ProductService ι V ε) (catalog : CatalogIntelligenceService)
  (raised : CatalogIntelligenceException → ε) (image : ProductImage)
  (imageMetadata : ImageMetadata)

/-- What catalog intelligence makes of a product. -/
def CatalogIntelligenceService.enrichProduct (product : ProductCreate) :
    Except CatalogIntelligenceException Enrichment :=
  catalog.enrich product.name product.brand product.category product.description
    imageMetadata.processedPath

/-- The two products have the same embedded text, the same extracted attributes and tags, the
same overall similarity to every candidate and the same payload. -/
structure SameOutcome (product product' : ProductCreate) : Prop where
  text : buildTextRepresentation product'.name product'.brand product'.category
      product'.description =
    buildTextRepresentation product.name product.brand product.category product.description
  enrichment : service.catalogIntelligenceEnabled →
    catalog.enrichProduct imageMetadata product' = catalog.enrichProduct imageMetadata product
  similarity : ∀ candidate,
    (service.withCatalog catalog raised).overallSimilarity image imageMetadata product' candidate =
      (service.withCatalog catalog raised).overallSimilarity image imageMetadata product candidate
  payload : (service.withCatalog catalog raised).storedPayload image imageMetadata product' =
    (service.withCatalog catalog raised).storedPayload image imageMetadata product

/-- Replacing blank fields of the product by none changes no outcome. -/
def BlankMeansAbsent (product : ProductCreate) : Prop :=
  ∀ product', product.Blanked product' →
    SameOutcome service catalog raised image imageMetadata product product'

/-! ### What keeps to the promise -/

theorem metadataSimilarity_blanked (name : Text) {brand brand' category category' : Option Text}
    (hbrand : BlankedField brand brand') (hcategory : BlankedField category category')
    (candidate : Payload) :
    metadataSimilarity name brand' category' candidate =
      metadataSimilarity name brand category candidate := by
  have hb := BlankedField.congr
    (f := fun brand => metadataSimilarity name brand category' candidate)
    (fun s hs => by
      simp only [metadataSimilarity, List.filter_cons, hasText_of_isBlank hs, hasText_none,
        Bool.false_and, Bool.false_eq_true, if_false]) hbrand
  have hc := BlankedField.congr
    (f := fun category => metadataSimilarity name brand category candidate)
    (fun s hs => by
      simp only [metadataSimilarity, List.filter_cons, hasText_of_isBlank hs, hasText_none,
        Bool.false_and, Bool.false_eq_true, if_false]) hcategory
  exact hb.trans hc

theorem score_blanked (scorer : SimilarityScorer) {product product' : ProductCreate}
    (h : product.Blanked product') (attributes : ProductAttributes)
    (candidate : HybridSearchResult ι) :
    scorer.score ⟨product'.name, product'.brand, product'.category, product'.description,
      attributes, image⟩ candidate =
    scorer.score ⟨product.name, product.brand, product.category, product.description,
      attributes, image⟩ candidate := by
  unfold SimilarityScorer.score
  dsimp only
  rw [h.name_eq, metadataSimilarity_blanked product.name h.brand h.category]

theorem vectorMetadata_blanked {product product' : ProductCreate} (h : product.Blanked product')
    (catalogResult : CatalogIntelligenceResult) :
    vectorMetadata product' image catalogResult = vectorMetadata product image catalogResult := by
  have hbrand : normalizeBrand product'.brand = normalizeBrand product.brand :=
    h.brand.congr fun _ => orNone_strip_of_isBlank
  have hcategory : normalizeCategory product'.category = normalizeCategory product.category :=
    h.category.congr fun _ => normalizeCategory_of_isBlank
  have hdescription : normalizeDescription product'.description =
      normalizeDescription product.description :=
    h.description.congr fun _ => orNone_strip_of_isBlank
  unfold vectorMetadata
  rw [h.name_eq, h.price_eq, hbrand, hcategory, hdescription]

variable {service catalog raised image imageMetadata}

/-- **Everything but the extraction keeps to the promise**: if blanked fields change nothing of
what is extracted, they change nothing at all. -/
theorem sameOutcome_of_enrich {product product' : ProductCreate} (h : product.Blanked product')
    (henrich : service.catalogIntelligenceEnabled →
      catalog.enrichProduct imageMetadata product' =
        catalog.enrichProduct imageMetadata product) :
    SameOutcome service catalog raised image imageMetadata product product' := by
  have hcatalog : (service.withCatalog catalog raised).catalogResult product' imageMetadata =
      (service.withCatalog catalog raised).catalogResult product imageMetadata := by
    unfold ProductService.catalogResult
    by_cases henabled : (service.withCatalog catalog raised).catalogIntelligenceEnabled
    · rw [if_pos henabled, if_pos henabled]
      have hsame := henrich henabled
      unfold CatalogIntelligenceService.enrichProduct at hsame
      unfold ProductService.withCatalog
      dsimp only
      rw [hsame]
    · rw [if_neg henabled, if_neg henabled]
  constructor
  · unfold buildTextRepresentation
    have hpart : ∀ {field field' : Option Text}, BlankedField field field' →
        textPart field' = textPart field :=
      fun hfield => hfield.congr fun _ => orNone_strip_of_isBlank
    simp only [List.filterMap_cons, hpart h.brand, hpart h.category, hpart h.description,
      h.name_eq]
  · exact henrich
  · intro candidate
    unfold ProductService.overallSimilarity
    simp only [hcatalog, score_blanked image _ h]
  · unfold ProductService.storedPayload
    rw [hcatalog, funext (vectorMetadata_blanked image h)]

/-! ### When it is kept -/

/-- The promise's exception: attributes are extracted from the text of the product. -/
def TextExtracted (service : ProductService ι V ε) (catalog : CatalogIntelligenceService)
    (imageMetadata : ImageMetadata) : Prop :=
  service.catalogIntelligenceEnabled ∧ catalog.settings.enableTextAttributes ∧
    catalog.CanRead imageMetadata.processedPath

theorem bind_orNone_blanked {field field' : Option Text} (h : BlankedField field field')
    (hfield : ¬ IsSpaceField field) : field'.bind orNone = field.bind orNone := by
  rcases h with rfl | ⟨⟨s, hs, hblank⟩, rfl⟩
  · rfl
  · have hempty : s = [] := by
      by_contra hne
      exact hfield ⟨s, hs, hblank, hne⟩
    rw [Option.mem_def.1 hs, hempty]
    rfl

theorem sameKeywords_blanked (name : Text)
    {category category' description description' : Option Text}
    (hcategory : category'.bind orNone = category.bind orNone)
    (hdescription : BlankedField description description') :
    SameKeywords (combineText name category' description')
      (combineText name category description) := by
  have hcombine : ∀ description, combineText name category' description =
      combineText name category description := by
    intro description
    unfold combineText
    simp only [List.filterMap_cons, hcategory]
  rcases hdescription with rfl | ⟨⟨s, hs, hblank⟩, rfl⟩
  · rw [hcombine]
    exact SameKeywords.refl _
  · obtain ⟨t, ht, htext⟩ := combineText_blank name category hblank
    rw [hcombine, Option.mem_def.1 hs, htext]
    exact fun keyword hkeyword => (sameKeywords_append_blank _ ht keyword hkeyword).symm

/-- A brand or category that is looked up is not blank. -/
theorem not_isBlank_of_mem_tables :
    ∀ value ∈ knownBrands.map Prod.snd ++ categoryKeywords.map Prod.snd, ¬ IsBlank value := by
  have hcheck : (knownBrands.map Prod.snd ++ categoryKeywords.map Prod.snd).all
      (fun value => value.any fun c => !isSpace c) = true := by
    decide +kernel
  intro value hvalue hblank
  obtain ⟨c, hc, hspace⟩ := List.any_eq_true.1 (List.all_eq_true.1 hcheck value hvalue)
  rw [hblank c hc] at hspace
  cases hspace

section Resolved

variable {threshold : ℚ} {attributeName text s : Text} {keywords : List (Text × Text)}
  {confidence : Confidence}

/-- A submitted value that is not empty is the one the attribute gets. -/
theorem resolve_submitted (hthreshold : threshold ≤ 1) (hs : s ≠ []) :
    (resolve threshold (appendStructured [] attributeName (some s) text keywords confidence)).map
      AttributePrediction.value = some s := by
  have happend : appendStructured [] attributeName (some s) text keywords confidence =
      [⟨attributeName, s, structuredFieldConfidence, .text⟩] := by
    unfold appendStructured
    rw [Option.bind_some, orNone_of_ne hs]
    rfl
  have hconfidence : structuredFieldConfidence.value = 1 := by
    norm_num [structuredFieldConfidence, hundredths]
  rw [happend, resolve_singleton (hthreshold.trans_eq hconfidence.symm)]
  rfl

/-- Without a submitted value the attribute gets none or one of the table. -/
theorem resolve_not_submitted {value : Text}
    (h : (resolve threshold (appendStructured [] attributeName none text keywords
      confidence)).map AttributePrediction.value = some value) :
    value ∈ keywords.map Prod.snd := by
  obtain ⟨best, hbest, rfl⟩ := Option.map_eq_some_iff.1 h
  exact (of_mem_appendFirstMatch (mem_of_mem_resolve hbest)).2

end Resolved

/-- What the text proposes for an attribute, resolved. -/
def resolvedText (catalog : CatalogIntelligenceService) (product : ProductCreate)
    (attributeName : Text) (submitted : Option Text) (keywords : List (Text × Text))
    (confidence : Confidence) : Option Text :=
  (resolve catalog.settings.attributeConfidenceThreshold
    (appendStructured [] attributeName submitted
      (combineText product.name product.category product.description) keywords confidence)).map
    AttributePrediction.value

/-- If the promise is kept where attributes are extracted, blanked fields resolve to the same
brand and category. -/
theorem BlankMeansAbsent.resolvedText_eq {product product' : ProductCreate}
    (h : BlankMeansAbsent service catalog raised image imageMetadata product)
    (hextracted : TextExtracted service catalog imageMetadata)
    (hblanked : product.Blanked product') :
    resolvedText catalog product' "brand".toList product'.brand knownBrands
        brandKeywordConfidence =
      resolvedText catalog product "brand".toList product.brand knownBrands
        brandKeywordConfidence ∧
    resolvedText catalog product' "category".toList product'.category categoryKeywords
        categoryKeywordConfidence =
      resolvedText catalog product "category".toList product.category categoryKeywords
        categoryKeywordConfidence := by
  obtain ⟨henabled, htext, hread⟩ := hextracted
  obtain ⟨enrichment, henrich, hbrand, hcategory⟩ := catalog.exists_enrich product.name
    product.brand product.category product.description htext hread
  obtain ⟨enrichment', henrich', hbrand', hcategory'⟩ := catalog.exists_enrich product'.name
    product'.brand product'.category product'.description htext hread
  have hsame := (h product' hblanked).enrichment henabled
  have heq : enrichment' = enrichment :=
    Except.ok.inj (henrich'.symm.trans (hsame.trans henrich))
  rw [heq] at hbrand' hcategory'
  exact ⟨hbrand'.symm.trans hbrand, hcategory'.symm.trans hcategory⟩

/-- **When blank means absent**: the promise is kept for a product exactly when no attributes are
extracted from its text, or neither its brand nor its category is given as white space. -/
theorem blank_means_absent_iff (service : ProductService ι V ε)
    (catalog : CatalogIntelligenceService) (raised : CatalogIntelligenceException → ε)
    (image : ProductImage) (imageMetadata : ImageMetadata) (product : ProductCreate) :
    BlankMeansAbsent service catalog raised image imageMetadata product ↔
      (TextExtracted service catalog imageMetadata →
        ¬ IsSpaceField product.brand ∧ ¬ IsSpaceField product.category) := by
  constructor
  · intro h hextracted
    have hthreshold := catalog.settings.threshold_valid.2
    constructor
    · rintro ⟨s, hs, hblank, hne⟩
      -- without the blank brand the attribute is one of the table, or none
      have hblanked : product.Blanked { product with brand := none } :=
        ⟨rfl, .inr ⟨⟨s, hs, hblank⟩, rfl⟩, .inl rfl, .inl rfl, rfl⟩
      have hresolved := (h.resolvedText_eq hextracted hblanked).1
      rw [Option.mem_def.1 hs] at hresolved
      have htable := resolve_not_submitted (hresolved.trans (resolve_submitted hthreshold hne))
      exact not_isBlank_of_mem_tables s (List.mem_append_left _ htable) hblank
    · rintro ⟨s, hs, hblank, hne⟩
      have hblanked : product.Blanked { product with category := none } :=
        ⟨rfl, .inl rfl, .inl rfl, .inr ⟨⟨s, hs, hblank⟩, rfl⟩, rfl⟩
      have hresolved := (h.resolvedText_eq hextracted hblanked).2
      rw [Option.mem_def.1 hs] at hresolved
      have htable := resolve_not_submitted (hresolved.trans (resolve_submitted hthreshold hne))
      exact not_isBlank_of_mem_tables s (List.mem_append_right _ htable) hblank
  · intro h product' hblanked
    refine sameOutcome_of_enrich hblanked fun henabled => ?_
    unfold CatalogIntelligenceService.enrichProduct
    rw [hblanked.name_eq]
    refine CatalogIntelligenceService.enrich_congr fun hread => ?_
    unfold CatalogIntelligenceService.textProposals
    by_cases htext : catalog.settings.enableTextAttributes
    · obtain ⟨hbrand, hcategory⟩ := h ⟨henabled, htext, hread⟩
      have hb := bind_orNone_blanked hblanked.brand hbrand
      have hc := bind_orNone_blanked hblanked.category hcategory
      have hkeywords := sameKeywords_blanked product.name hc hblanked.description
      rw [extractAttributes_congr hb hc hkeywords, generateTags_congr hb hc hkeywords]
    · rw [if_neg htext, if_neg htext]

end Outcome

/-! ### A blank brand -/

namespace BlankBrand

/-- Catalog intelligence with its default settings, and an image it can read. -/
def catalog : CatalogIntelligenceService where
  settings :=
    { enableTextAttributes := true
      enableImageAttributes := true
      attributeConfidenceThreshold := 60 / 100
      maxGeneratedTags := 20
      qualityCompletenessWeight := 50 / 100
      qualityConfidenceWeight := 30 / 100
      qualityConsistencyWeight := 20 / 100
      threshold_valid := by decide +kernel
      maxGeneratedTags_pos := by decide
      weights_nonneg := by decide +kernel }
  imageAttributeService :=
    ⟨fun _ => some ⟨36, 82, 168⟩, fun _ => some ⟨800, 600, ⟨36, 82, 168⟩, 1 / 2⟩⟩

/-- A shoe whose brand is left blank but for a space. -/
def product : ProductCreate where
  name := "Nike shoe".toList
  brand := some [' ']
  description := none
  category := none
  price := none

/-- Its processed picture. -/
def imageMetadata : ImageMetadata where
  width := 800
  height := 600
  format := "JPEG".toList
  colorMode := "RGB".toList
  originalPath := "b.png".toList
  processedPath := "b.jpg".toList
  width_pos := by decide
  height_pos := by decide

end BlankBrand

/-- A brand of one space is extracted as the brand, with full confidence, where no brand at all
would have let the name speak: the brand would be Nike. -/
theorem blank_brand_extracted :
    ¬ BlankMeansAbsent (OneShoe.service .off .stored) BlankBrand.catalog (fun _ => ())
      OneShoe.image BlankBrand.imageMetadata BlankBrand.product := by
  intro h
  have hextracted : TextExtracted (OneShoe.service .off .stored) BlankBrand.catalog
      BlankBrand.imageMetadata := ⟨rfl, rfl, fun _ => ⟨rfl, rfl⟩⟩
  have hblanked : BlankBrand.product.Blanked { BlankBrand.product with brand := none } :=
    ⟨rfl, .inr ⟨⟨_, rfl, List.forall_mem_singleton.2 (by decide)⟩, rfl⟩, .inl rfl, .inl rfl, rfl⟩
  have hbrand := (h.resolvedText_eq hextracted hblanked).1
  revert hbrand
  decide +kernel

end ProductIntelligence

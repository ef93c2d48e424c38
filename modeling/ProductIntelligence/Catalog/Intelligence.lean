import ProductIntelligence.Catalog.ImageAttributes
import ProductIntelligence.Catalog.TextAttributes
import ProductIntelligence.Lists.RoundRobin
import ProductIntelligence.Lists.TopK
import ProductIntelligence.Logic.Fallible

/-!
# Catalog intelligence

The proposals of the two extraction services are merged: for every attribute the most
confident value, for every tag its highest confidence, both only from a threshold on; and the
result is scored.

## Main definitions

* `CatalogIntelligenceSettings` — the settings, with their checks.
* `mergeAttributes`, `mergeTags`, `computeQualityScore` — the three steps.
* `CatalogIntelligenceService.enrich` — the whole enrichment.

## Main results

* `resolvedValue_resolvedAttributes` — every attribute is resolved from the predictions of its
  name alone.
* `mergeAttributes_eq_ok` — the merge succeeds unless an attribute is named like the aggregate
  confidence.
* `exists_enrich` — with text extraction on and a readable image the enrichment succeeds, and
  brand and category come from the text.

## References

`backend/app/services/catalog/catalog_intelligence_service.py`,
`backend/app/models/product_attributes.py`, `backend/app/core/settings.py`.
-/

namespace ProductIntelligence

open Ranking

/-! ### The result -/

/-- The resolved attributes of a product, at most one value for each, and their mean
confidence. -/
structure ResolvedAttributes extends ProductAttributes where
  subcategory : Option Text
  pattern : Option Text
  ageGroup : Option Text
  occasion : Option Text
  confidence : ℚ

/-- The resolved attributes, tags and quality score of a product. -/
structure Enrichment where
  attributes : ResolvedAttributes
  tags : List SourcedTag
  qualityScore : ℚ

/-- The part of an enrichment that the pipeline goes on with. -/
def Enrichment.toResult (enrichment : Enrichment) : CatalogIntelligenceResult where
  attributes := enrichment.attributes.toProductAttributes
  tags := enrichment.tags.map SourcedTag.toCatalogTag
  qualityScore := enrichment.qualityScore

/-! ### Merging attributes -/

/-- The first of the most confident candidates, unless it is below the threshold. -/
def resolve (threshold : ℚ) (candidates : List AttributePrediction) :
    Option AttributePrediction :=
  (candidates.argmax fun candidate => candidate.confidence.value).filter
    fun best => threshold ≤ best.confidence.value

/-- The candidates do not all agree. -/
def isConflict (candidates : List AttributePrediction) : Bool :=
  candidates.any fun c => candidates.any fun d => c.value ≠ d.value

/-- The attributes that get a value, in order of first prediction. -/
def resolvedAttributes (threshold : ℚ) (predictions : List AttributePrediction) :
    List (Text × AttributePrediction) :=
  (RoundRobin.groupBy AttributePrediction.attributeName predictions).filterMap fun group =>
    (resolve threshold group.2).map fun best => (group.1, best)

/-- The value an attribute gets. -/
def resolvedValue (resolved : List (Text × AttributePrediction)) (name : Text) : Option Text :=
  (Keyed.lookup Prod.fst name resolved).map fun entry => entry.2.value

/-- `ProductAttributes(confidence=aggregate_confidence, **resolved)`; names that are no field
are ignored. -/
def buildAttributes (resolved : List (Text × AttributePrediction)) : ResolvedAttributes where
  brand := resolvedValue resolved "brand".toList
  category := resolvedValue resolved "category".toList
  subcategory := resolvedValue resolved "subcategory".toList
  color := resolvedValue resolved "color".toList
  material := resolvedValue resolved "material".toList
  pattern := resolvedValue resolved "pattern".toList
  gender := resolvedValue resolved "gender".toList
  ageGroup := resolvedValue resolved "age_group".toList
  style := resolvedValue resolved "style".toList
  season := resolvedValue resolved "season".toList
  occasion := resolvedValue resolved "occasion".toList
  confidence := average (resolved.map fun entry => entry.2.confidence.value)

/-- `_merge_attributes`: the attributes, how many of them had conflicting candidates, and how
many had any. -/
def mergeAttributes (threshold : ℚ) (predictions : List AttributePrediction) :
    Except CatalogIntelligenceException (ResolvedAttributes × ℕ × ℕ) :=
  let byAttribute := RoundRobin.groupBy AttributePrediction.attributeName predictions
  let resolved := resolvedAttributes threshold predictions
  -- the aggregate confidence would be passed twice
  if (Keyed.lookup Prod.fst "confidence".toList resolved).isSome then
    .error ⟨"Failed to merge extracted attributes and tags.".toList⟩
  else
    .ok (buildAttributes resolved, (byAttribute.filter fun group => isConflict group.2).length,
      byAttribute.length)

/-- Every attribute is resolved from the predictions of its name alone. -/
theorem lookup_resolvedAttributes (threshold : ℚ) (predictions : List AttributePrediction)
    (name : Text) :
    (Keyed.lookup Prod.fst name (resolvedAttributes threshold predictions)).map Prod.snd =
      resolve threshold (predictions.filter fun prediction => prediction.attributeName = name) := by
  have hkeys : ∀ group : Text × List AttributePrediction,
      ∀ entry ∈ (resolve threshold group.2).map fun best => (group.1, best),
        entry.1 = group.1 := by
    intro group entry hentry
    obtain ⟨best, -, rfl⟩ := Option.map_eq_some_iff.1 hentry
    rfl
  unfold resolvedAttributes
  rw [Keyed.lookup_filterMap hkeys (RoundRobin.nodup_keys_groupBy _ _),
    ← RoundRobin.lookup_groupBy AttributePrediction.attributeName predictions name]
  cases Keyed.lookup Prod.fst name
      (RoundRobin.groupBy AttributePrediction.attributeName predictions) with
  | none => rfl
  | some group =>
    rw [Option.bind_some, Option.map_map, Option.map_some, Option.getD_some]
    exact congrFun Option.map_id _

theorem brand_buildAttributes (resolved : List (Text × AttributePrediction)) :
    (buildAttributes resolved).brand = resolvedValue resolved "brand".toList := rfl

theorem category_buildAttributes (resolved : List (Text × AttributePrediction)) :
    (buildAttributes resolved).category = resolvedValue resolved "category".toList := rfl

theorem resolvedValue_resolvedAttributes (threshold : ℚ)
    (predictions : List AttributePrediction) (name : Text) :
    resolvedValue (resolvedAttributes threshold predictions) name =
      (resolve threshold
        (predictions.filter fun prediction => prediction.attributeName = name)).map
          AttributePrediction.value := by
  rw [← lookup_resolvedAttributes, Option.map_map]
  rfl

/-- The merge succeeds unless an attribute is named like the aggregate confidence. -/
theorem mergeAttributes_eq_ok (threshold : ℚ) {predictions : List AttributePrediction}
    (h : (predictions.filter fun prediction =>
      prediction.attributeName = "confidence".toList) = []) :
    ∃ counts, mergeAttributes threshold predictions =
      .ok (buildAttributes (resolvedAttributes threshold predictions), counts) := by
  have hlookup : Keyed.lookup Prod.fst "confidence".toList
      (resolvedAttributes threshold predictions) = none := by
    have hresolve := lookup_resolvedAttributes threshold predictions "confidence".toList
    rw [h] at hresolve
    exact Option.map_eq_none_iff.1 hresolve
  unfold mergeAttributes
  dsimp only
  rw [hlookup, Option.isSome_none, if_neg Bool.false_ne_true]
  exact ⟨_, rfl⟩

theorem resolve_singleton {threshold : ℚ} {candidate : AttributePrediction}
    (h : threshold ≤ candidate.confidence.value) :
    resolve threshold [candidate] = some candidate := by
  unfold resolve
  rw [List.argmax_singleton]
  exact Option.filter_some_pos (by simpa using h)

theorem mem_of_mem_resolve {threshold : ℚ} {candidates : List AttributePrediction}
    {best : AttributePrediction} (h : best ∈ resolve threshold candidates) :
    best ∈ candidates :=
  List.argmax_mem (Option.mem_filter_iff.1 h).1

/-! ### Merging tags -/

/-- What tags are compared by. -/
def tagKey (tag : SourcedTag) : Text := lower (strip tag.tag)

/-- The merged tag of some tags with one key, unless none is confident enough. -/
def mergeTag (threshold : ℚ) (key : Text) (candidates : List SourcedTag) : Option SourcedTag :=
  match candidates.argmax fun candidate => candidate.confidence.value with
  | none => none
  | some best =>
    if best.confidence.value < threshold then none
    else some ⟨key, best.confidence,
      if candidates.any fun candidate => candidate.source ≠ best.source then .hybrid
      else best.source⟩

/-- `_merge_tags`. -/
def mergeTags (threshold : ℚ) (maxTags : ℕ) (tags : List SourcedTag) : List SourcedTag :=
  let grouped := RoundRobin.groupBy tagKey (tags.filter fun tag => tagKey tag ≠ [])
  let merged := grouped.filterMap fun group => mergeTag threshold group.1 group.2
  (rank (fun tag => tag.confidence.value) merged).take maxTags

/-! ### The service -/

/-- The settings of catalog intelligence. -/
structure CatalogIntelligenceSettings where
  enableTextAttributes : Bool
  enableImageAttributes : Bool
  attributeConfidenceThreshold : ℚ
  maxGeneratedTags : ℕ
  qualityCompletenessWeight : ℚ
  qualityConfidenceWeight : ℚ
  qualityConsistencyWeight : ℚ
  threshold_valid : InUnit attributeConfidenceThreshold
  maxGeneratedTags_pos : 0 < maxGeneratedTags
  weights_nonneg : 0 ≤ qualityCompletenessWeight ∧ 0 ≤ qualityConfidenceWeight ∧
    0 ≤ qualityConsistencyWeight

/-- The values of the fields that completeness counts. -/
def ResolvedAttributes.values (attributes : ResolvedAttributes) : List (Option Text) :=
  [attributes.brand, attributes.category, attributes.subcategory, attributes.color,
  attributes.material, attributes.pattern, attributes.gender, attributes.ageGroup,
  attributes.style, attributes.season, attributes.occasion]

/-- `_compute_quality_score`. -/
def computeQualityScore (settings : CatalogIntelligenceSettings)
    (attributes : ResolvedAttributes) (conflictCount consideredCount : ℕ) : ℚ :=
  let filledCount := (attributes.values.filter Option.isSome).length
  let completeness := (filledCount : ℚ) / attributes.values.length
  let consistency :=
    if consideredCount = 0 then 1 else 1 - (conflictCount : ℚ) / consideredCount
  clamp (settings.qualityCompletenessWeight * completeness +
    settings.qualityConfidenceWeight * attributes.confidence +
    settings.qualityConsistencyWeight * consistency)

/-- Catalog intelligence: its settings and the extraction from images. -/
structure CatalogIntelligenceService where
  settings : CatalogIntelligenceSettings
  imageAttributeService : ImageAttributeExtractionService

namespace CatalogIntelligenceService

variable (service : CatalogIntelligenceService)

/-- The proposals of the text. -/
def textProposals (name : Text) (brand category description : Option Text) :
    List AttributePrediction × List SourcedTag :=
  if service.settings.enableTextAttributes then
    (extractAttributes name brand category description,
      generateTags name brand category description)
  else ([], [])

/-- The proposals of the image. -/
def imageProposals (imagePath : Text) :
    Except CatalogIntelligenceException (List AttributePrediction × List SourcedTag) :=
  if service.settings.enableImageAttributes then do
    let predictions ← service.imageAttributeService.extractAttributes imagePath
    let tags ← service.imageAttributeService.generateTags imagePath
    return (predictions, tags)
  else .ok ([], [])

/-- Merge and score some proposals. -/
def merge (predictions : List AttributePrediction) (tags : List SourcedTag) :
    Except CatalogIntelligenceException Enrichment := do
  let (attributes, conflictCount, consideredCount) ←
    mergeAttributes service.settings.attributeConfidenceThreshold predictions
  return { attributes := attributes
           tags := mergeTags service.settings.attributeConfidenceThreshold
             service.settings.maxGeneratedTags tags
           qualityScore :=
             computeQualityScore service.settings attributes conflictCount consideredCount }

/-- `enrich`. -/
def enrich (name : Text) (brand category description : Option Text) (imagePath : Text) :
    Except CatalogIntelligenceException Enrichment := do
  let (textPredictions, textTags) := service.textProposals name brand category description
  let (imagePredictions, imageTags) ← service.imageProposals imagePath
  service.merge (textPredictions ++ imagePredictions) (textTags ++ imageTags)

/-- The image can be read, if it is looked at. -/
def CanRead (imagePath : Text) : Prop :=
  service.settings.enableImageAttributes →
    (service.imageAttributeService.computeDominantColor imagePath).isSome ∧
      (service.imageAttributeService.computeStatistics imagePath).isSome

variable {service} {name imagePath : Text} {brand category description : Option Text}

theorem imageProposals_eq_ok :
    (∃ proposals, service.imageProposals imagePath = .ok proposals) ↔
      service.CanRead imagePath := by
  unfold imageProposals CanRead ImageAttributeExtractionService.extractAttributes
    ImageAttributeExtractionService.generateTags
  cases service.settings.enableImageAttributes with
  | false => simp
  | true =>
    cases service.imageAttributeService.computeDominantColor imagePath with
    | none => simp [bind, Except.bind]
    | some rgb =>
      cases service.imageAttributeService.computeStatistics imagePath with
      | none => simp [bind, Except.bind]
      | some pixels => simp [bind, Except.bind, pure, Except.pure]

/-- The image proposes nothing but colors. -/
theorem filter_imageProposals {predictions : List AttributePrediction} {tags : List SourcedTag}
    (h : service.imageProposals imagePath = .ok (predictions, tags)) {name : Text}
    (hname : "color".toList ≠ name) :
    (predictions.filter fun prediction => prediction.attributeName = name) = [] := by
  unfold imageProposals at h
  split at h
  · obtain ⟨colors, hcolors, h⟩ := Except.bind_eq_ok.1 h
    obtain ⟨_, -, h⟩ := Except.bind_eq_ok.1 h
    cases h
    rw [List.filter_eq_nil_iff]
    intro prediction hprediction heq
    refine hname ?_
    rw [← ImageAttributeExtractionService.attributeName_of_mem_extractAttributes hcolors
      hprediction]
    exact of_decide_eq_true heq
  · cases h
    rfl

/-- Merging succeeds if the attributes are merged, and ends with them. -/
theorem exists_merge {predictions : List AttributePrediction} {attributes : ResolvedAttributes}
    {counts : ℕ × ℕ}
    (h : mergeAttributes service.settings.attributeConfidenceThreshold predictions =
      .ok (attributes, counts)) (tags : List SourcedTag) :
    ∃ enrichment, service.merge predictions tags = .ok enrichment ∧
      enrichment.attributes = attributes := by
  unfold merge
  rw [h]
  exact ⟨_, rfl, rfl⟩

/-- **With text extraction on and a readable image** the enrichment succeeds; brand and category
come from what the text proposes for them. -/
theorem exists_enrich (name : Text) (brand category description : Option Text)
    (htext : service.settings.enableTextAttributes) (hread : service.CanRead imagePath) :
    ∃ enrichment, service.enrich name brand category description imagePath = .ok enrichment ∧
      enrichment.attributes.brand =
        (resolve service.settings.attributeConfidenceThreshold
          (appendStructured [] "brand".toList brand (combineText name category description)
            knownBrands brandKeywordConfidence)).map AttributePrediction.value ∧
      enrichment.attributes.category =
        (resolve service.settings.attributeConfidenceThreshold
          (appendStructured [] "category".toList category (combineText name category description)
            categoryKeywords categoryKeywordConfidence)).map AttributePrediction.value := by
  obtain ⟨⟨imagePredictions, imageTags⟩, himage⟩ := imageProposals_eq_ok.2 hread
  have hproposals : service.textProposals name brand category description =
      (extractAttributes name brand category description,
        generateTags name brand category description) := if_pos htext
  have hconfidence : ((extractAttributes name brand category description ++
      imagePredictions).filter fun prediction =>
        prediction.attributeName = "confidence".toList) = [] := by
    rw [List.filter_append, filter_confidence_extractAttributes,
      filter_imageProposals himage (by decide +kernel), List.append_nil]
  obtain ⟨counts, hattributes⟩ :=
    mergeAttributes_eq_ok service.settings.attributeConfidenceThreshold hconfidence
  obtain ⟨enrichment, hmerge, heq⟩ :=
    exists_merge hattributes (generateTags name brand category description ++ imageTags)
  have henrich : service.enrich name brand category description imagePath =
      service.merge (extractAttributes name brand category description ++ imagePredictions)
        (generateTags name brand category description ++ imageTags) := by
    unfold enrich
    rw [hproposals, himage]
    dsimp only [bind, Except.bind]
  refine ⟨enrichment, henrich.trans hmerge, ?_, ?_⟩
  · rw [heq, brand_buildAttributes, resolvedValue_resolvedAttributes, List.filter_append,
      filter_brand_extractAttributes, filter_imageProposals himage (by decide +kernel),
      List.append_nil]
  · rw [heq, category_buildAttributes, resolvedValue_resolvedAttributes, List.filter_append,
      filter_category_extractAttributes, filter_imageProposals himage (by decide +kernel),
      List.append_nil]

/-- The enrichment depends on the text by what it proposes. -/
theorem enrich_congr {brand' category' description' : Option Text}
    (h : service.CanRead imagePath → service.textProposals name brand category description =
      service.textProposals name brand' category' description') :
    service.enrich name brand category description imagePath =
      service.enrich name brand' category' description' imagePath := by
  unfold enrich
  cases himage : service.imageProposals imagePath with
  | error e => dsimp only [bind, Except.bind]
  | ok proposals => rw [h (imageProposals_eq_ok.1 ⟨proposals, himage⟩)]

end CatalogIntelligenceService

end ProductIntelligence

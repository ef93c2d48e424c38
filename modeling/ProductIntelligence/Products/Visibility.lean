import ProductIntelligence.Products.Lookup
import ProductIntelligence.Products.UploadRuns
import ProductIntelligence.Recommendation.Recommended

/-!
# What becomes of an uploaded product

A product that an upload has returned can be looked up by its id, recommended for, and found by
search.  What a lookup shows of it is what the upload returned: the fields are normalized before they
are stored, so that nothing stored is lost when it is read back.

## Main definitions

* `lookupService` — looking products up in an index.
* `Payload.summary`, `Product.summary` — what a lookup shows of a stored payload, and of a product.
* `ServesUploads`, `Visible` — what an index promises of all that it holds, and of one product.

## Main results

* `fromMetadata_toMetadata` — reading a stored payload back.
* `summary_pointOf` — **the stored payload shows the product that was returned**.
* `index_serves` — in every state, looking up never needs the text collection.
* `upload_visible` — **an upload that has returned is visible everywhere**.

## References

`backend/app/services/product_service.py`, `backend/app/services/product_lookup_service.py`,
`backend/app/services/vectorstore/hybrid_search_service.py`.
-/

namespace ProductIntelligence

open Effects

variable {ι V ε κ : Type}

/-! ### Reading a payload back -/

/-- A text that is shown: one that is not blank. -/
def shown : Option Text → Option Text
  | some text => if strip text ≠ [] then some text else none
  | none => none

theorem asStr_ofText (text : Option Text) : asStr (.ofText text) = shown text := by
  cases text <;> rfl

/-- Trimming leaves nothing to trim. -/
theorem strip_strip (text : Text) : strip (strip text) = strip text :=
  Words.stripBy_eq_self (fun _ => Words.not_of_mem_head?_stripBy)
    fun _ => Words.not_of_mem_getLast?_stripBy

theorem shown_orNone_strip (text : Text) : shown (orNone (strip text)) = orNone (strip text) := by
  by_cases hblank : strip text = []
  · rw [hblank]
    rfl
  · rw [orNone_of_ne hblank]
    simp [shown, strip_strip, hblank]

/-- A stored brand is shown as it is. -/
theorem shown_normalizeBrand (brand : Option Text) :
    shown (normalizeBrand brand) = normalizeBrand brand := by
  cases brand with
  | none => rfl
  | some brand => exact shown_orNone_strip brand

/-- A stored description is shown as it is. -/
theorem shown_normalizeDescription (description : Option Text) :
    shown (normalizeDescription description) = normalizeDescription description := by
  cases description with
  | none => rfl
  | some description => exact shown_orNone_strip description

/-- A stored category is shown as it is. -/
theorem shown_normalizeCategory (category : Option Text) :
    shown (normalizeCategory category) = normalizeCategory category := by
  cases category with
  | none => rfl
  | some category =>
    rw [normalizeCategory, normalizeFacet_eq]
    by_cases hnil : slug (facetWords category) = []
    · rw [hnil]
      rfl
    · rw [orNone_of_ne hnil]
      simp [shown, strip_slug fun w => isWord_of_mem_facetWords, hnil]

/-- What a lookup shows of a stored payload. -/
def Payload.summary (payload : Payload) (productId : ι) : ProductSummary ι where
  productId := productId
  name := shown (some payload.name)
  brand := shown payload.brand
  category := shown payload.category
  price := payload.price.map Double.finite
  description := shown payload.description
  color := shown payload.color
  material := shown payload.material
  gender := shown payload.gender
  season := shown payload.season
  style := shown payload.style
  tags := payload.tags
  qualityScore := some (.finite payload.qualityScore)

theorem asFloat_ofNumber (q : Option ℚ) : asFloat (.ofNumber q) = .ok (q.map Double.finite) := by
  cases q <;> rfl

/-- **Reading a stored payload back.** -/
theorem fromMetadata_toMetadata (payload : Payload) (productId : ι) :
    fromMetadata productId payload.toMetadata = .ok (payload.summary productId) := by
  have hprice : asFloat (payload.toMetadata.get "price") = .ok (payload.price.map .finite) :=
    asFloat_ofNumber payload.price
  have htags : iterate (payload.toMetadata.getD "tags" (.list [])) =
      .ok (payload.tags.map .str) := rfl
  have hquality : asFloat (payload.toMetadata.get "quality_score") =
      .ok (some (.finite payload.qualityScore)) := rfl
  have htext (key : String) (text : Option Text)
      (h : payload.toMetadata.get key = .ofText text) :
      asStr (payload.toMetadata.get key) = shown text := by
    rw [h, asStr_ofText]
  unfold fromMetadata
  rw [hprice, htags, hquality, htext "name" (some payload.name) rfl,
    htext "brand" payload.brand rfl, htext "category" payload.category rfl,
    htext "description" payload.description rfl, htext "color" payload.color rfl,
    htext "material" payload.material rfl, htext "gender" payload.gender rfl,
    htext "season" payload.season rfl, htext "style" payload.style rfl]
  show Except.ok _ = Except.ok _
  rw [List.filterMap_map]
  have hstrings : payload.tags.filterMap (JsonValue.text? ∘ JsonValue.str) = payload.tags :=
    List.filterMap_some
  rw [hstrings]
  rfl

/-! ### The product that was returned -/

/-- What a lookup is to show of a product. -/
def Product.summary (built : Product ι V) : ProductSummary ι where
  productId := built.id
  name := some built.name
  brand := built.brand
  category := built.category
  price := built.price.map Double.finite
  description := built.description
  color := shown built.catalogIntelligence.attributes.color
  material := shown built.catalogIntelligence.attributes.material
  gender := shown built.catalogIntelligence.attributes.gender
  season := shown built.catalogIntelligence.attributes.season
  style := shown built.catalogIntelligence.attributes.style
  tags := built.catalogIntelligence.tags.map CatalogTag.tag
  qualityScore := some (.finite built.catalogIntelligence.qualityScore)

variable [DecidableEq ι]

/-- The fields of a product that was built are those submitted, normalized. -/
theorem fields_of_build {request : UploadRequest ι V ε} {seen : VectorStore ι V}
    {built : Product ι V} (h : request.build seen = .ok built) :
    built.name = normalizeName request.product.name ∧ built.name ≠ [] ∧
      built.brand = normalizeBrand request.product.brand ∧
      built.description = normalizeDescription request.product.description ∧
      built.category = normalizeCategory request.product.category ∧
      built.price = normalizePrice request.product.price := by
  obtain ⟨checksum, -, h⟩ := Except.bind_eq_ok.1 h
  obtain ⟨imageMetadata, -, h⟩ := Except.bind_eq_ok.1 h
  obtain ⟨vector, -, h⟩ := Except.bind_eq_ok.1 h
  obtain ⟨textVector, -, h⟩ := Except.bind_eq_ok.1 h
  obtain ⟨catalogResult, -, h⟩ := Except.bind_eq_ok.1 h
  obtain ⟨decision, -, h⟩ := Except.bind_eq_ok.1 h
  obtain ⟨fileMetadata, -, h⟩ := Except.bind_eq_ok.1 h
  obtain ⟨_, hname, h⟩ := Except.bind_eq_ok.1 h
  obtain ⟨_, -, h⟩ := Except.bind_eq_ok.1 h
  obtain ⟨embedding, -, h⟩ := Except.bind_eq_ok.1 h
  obtain ⟨textEmbedding, -, h⟩ := Except.bind_eq_ok.1 h
  cases h
  exact ⟨rfl, validateNormalizedName_eq_ok.1 hname, rfl, rfl, rfl, rfl⟩

/-- **The stored payload shows the product that was returned.** -/
theorem summary_pointOf {request : UploadRequest ι V ε} {seen : VectorStore ι V}
    {built : Product ι V} (h : request.build seen = .ok built) :
    (request.pointOf built).metadata.summary built.id = built.summary := by
  obtain ⟨hname, hne, hbrand, hdescription, hcategory, hprice⟩ := fields_of_build h
  have hshown : shown (some (normalizeName request.product.name)) =
      some (normalizeName request.product.name) := by
    rw [hname] at hne
    show (if strip (strip request.product.name) ≠ [] then _ else _) = _
    rw [strip_strip]
    exact if_pos hne
  unfold UploadRequest.pointOf ProductService.imagePoint vectorMetadata Payload.summary
    Product.summary
  rw [hname, hbrand, hdescription, hcategory, hprice]
  simp only [hshown, shown_normalizeBrand, shown_normalizeDescription, shown_normalizeCategory]

/-! ### The index -/

/-- Looking products up in an index. -/
def lookupService (store : VectorStore ι V) : ProductLookupService ι where
  retrieveImage productId := (store.image.retrieve productId).map fun point =>
    point.metadata.toMetadata
  retrieveText productId := (store.text.retrieve productId).map fun point =>
    point.metadata.toMetadata

/-- A payload is looked up in the image collection, or else in the text collection. -/
theorem get_lookupService (store : VectorStore ι V) (id : ι) :
    (lookupService store).get id =
      .ok (((store.image.retrieve id).or (store.text.retrieve id)).map fun point =>
        point.metadata.summary id) := by
  unfold ProductLookupService.get
  have hpayload : (lookupService store).payload id =
      ((store.image.retrieve id).or (store.text.retrieve id)).map fun point =>
        point.metadata.toMetadata := by
    show (Option.map _ _).or (Option.map _ _) = _
    rw [← Option.map_or]
  rw [hpayload]
  cases (store.image.retrieve id).or (store.text.retrieve id) with
  | none => rfl
  | some point => exact congrArg (Except.map some) (fromMetadata_toMetadata point.metadata id)

/-- What an index serves in every state.  Looking up never fails and never needs the text
collection, what it shows is a product that some upload has built, and every product that is stored
as a text can be recommended for. -/
structure ServesUploads (cfg : IndexConfig ι V ε κ) : Prop where
  get : ∀ id, (lookupService cfg.store).get id =
    .ok ((cfg.store.image.retrieve id).map fun point => point.metadata.summary id)
  getMany : ∀ productIds : List ι, (lookupService cfg.store).getMany productIds =
    .ok ((RoundRobin.firsts id productIds).filterMap fun productId =>
        (cfg.store.image.retrieve productId).map fun point => point.metadata.summary productId,
      (RoundRobin.firsts id productIds).filter fun productId =>
        (cfg.store.image.retrieve productId).isNone)
  built : ∀ id summary, (lookupService cfg.store).get id = .ok (some summary) →
    ∃ client request seen built, cfg.Started client request ∧ request.build seen = .ok built ∧
      built.id = id ∧ summary = built.summary
  anchored : ∀ id recommendationType, (cfg.store.text.retrieve id).isSome →
    Anchored cfg.store id recommendationType

/-- A stored point has the id it is stored under. -/
theorem productId_of_retrieve {collection : Collection ι V} {id : ι} {point : StoredPoint ι V}
    (h : collection.retrieve id = some point) : point.productId = id :=
  ((Keyed.lookup_eq_some_iff collection.nodup).1 h).2

/-- An index within which the text collection is nested serves. -/
theorem served_of_nested {cfg : IndexConfig ι V ε κ} (hnested : Nested cfg.store)
    (hcatalogued : Catalogued cfg) : ServesUploads cfg := by
  have hget : ∀ id, (lookupService cfg.store).get id =
      .ok ((cfg.store.image.retrieve id).map fun point => point.metadata.summary id) := by
    intro id
    rw [get_lookupService]
    cases himage : cfg.store.image.retrieve id with
    | some point => rfl
    | none =>
      have htext : cfg.store.text.retrieve id = none := by
        rw [← Option.not_isSome_iff_eq_none]
        intro htext
        have hsome := hnested id htext
        rw [himage] at hsome
        cases hsome
      rw [htext]
      rfl
  constructor
  · exact hget
  · intro productIds
    refine ProductLookupService.getMany_eq_ok_iff.2 ⟨_, fun id _ => hget id, rfl, ?_⟩
    simp only [Option.isNone_map]
  · intro id summary h
    rw [hget] at h
    obtain ⟨point, hpoint, rfl⟩ := Option.map_eq_some_iff.1 (Except.ok.inj h)
    obtain ⟨client, request, seen, built, hstarted, hbuild, rfl⟩ :=
      hcatalogued.image id point hpoint
    have hid : built.id = id := productId_of_retrieve hpoint
    refine ⟨client, request, seen, built, hstarted, hbuild, hid, ?_⟩
    rw [← hid]
    exact summary_pointOf hbuild
  · intro id recommendationType htext
    exact ⟨fun _ => hnested id htext, htext⟩

/-! ### Searching -/

namespace HybridSearchService

variable (search : HybridSearchService ι V ε)

/-- A collection holds the products that can be retrieved. -/
theorem mem_matching_none {collection : Collection ι V} {id : ι} {point : StoredPoint ι V}
    (h : collection.retrieve id = some point) : id ∈ collection.matching none := by
  unfold Collection.matching
  rw [List.mem_toFinset, ← productId_of_retrieve h]
  refine List.mem_map_of_mem (List.mem_filter.2 ⟨?_, by simp⟩)
  exact ((Keyed.lookup_eq_some_iff collection.nodup).1 h).1

/-- A search that is as wide as the collection finds all of it. -/
theorem found_eq_matching {collection : Collection ι V} {filters : Option ProductFilters} {topK : ℕ}
    (query : V) (h : (collection.matching filters).card ≤ topK) :
    search.index.found collection query filters topK = collection.matching filters := by
  refine Finset.eq_of_subset_of_card_le (found_subset _ _ _ _ _) ?_
  rw [card_found]
  omega

/-- **A search that is as wide as the index finds all that it can reach.** -/
theorem mem_search_of_wide {store : VectorStore ι V} {image : Option ProductImage}
    {text : Option Text} {filters : Option ProductFilters} {topK : ℕ}
    {results : List (HybridSearchResult ι)} {id : ι}
    (h : search.search store image text (some topK) filters (some false) = .ok results)
    (hwide : (store.image.matching filters ∪ store.text.matching filters).card ≤ topK)
    (himage : id ∈ store.image.matching filters) (htext : id ∈ store.text.matching filters) :
    id ∈ results.map HybridSearchResult.productId := by
  have hsubImage : (store.image.matching filters).card ≤ topK :=
    (Finset.card_le_card Finset.subset_union_left).trans hwide
  have hsubText : (store.text.matching filters).card ≤ topK :=
    (Finset.card_le_card Finset.subset_union_right).trans hwide
  -- each collection is found whole
  have hfoundImage (vector : V) : id ∈ (search.index.nearest store.image vector topK filters).map
      NearestNeighbor.productId := by
    have hfound := search.found_eq_matching vector hsubImage
    rw [← hfound] at himage
    exact List.mem_toFinset.1 himage
  have hfoundText (vector : V) : id ∈ (search.index.nearest store.text vector topK filters).map
      NearestNeighbor.productId := by
    have hfound := search.found_eq_matching vector hsubText
    rw [← hfound] at htext
    exact List.mem_toFinset.1 htext
  have hcut (text : Text) (results : List (HybridSearchResult ι)) :
      search.finalize text results topK false = results.take topK := rfl
  unfold HybridSearchService.search at h
  simp only [Option.getD_some, Bool.false_and, Bool.false_eq_true, if_false] at h
  cases image with
  | none =>
    cases hquery : queryText text with
    | none =>
      rw [hquery] at h
      cases h
    | some text =>
      rw [hquery] at h
      obtain ⟨neighbors, hneighbors, h⟩ := Except.bind_eq_ok.1 h
      obtain ⟨vector, rfl⟩ := search.exists_of_searchByText store hneighbors
      cases h
      have hlength := (search.index.isTopK store.text vector topK filters).length_eq
      have hshort : ((search.index.nearest store.text vector topK filters).map
          (singleModalityResult .text)).length ≤ topK := by
        rw [List.length_map, hlength]
        exact min_le_left _ _
      rw [hcut, List.take_of_length_le hshort, productIds_singleModality]
      exact hfoundText vector
  | some image =>
    cases hquery : queryText text with
    | none =>
      rw [hquery] at h
      obtain ⟨neighbors, hneighbors, h⟩ := Except.bind_eq_ok.1 h
      obtain ⟨vector, rfl⟩ := search.exists_of_searchByImage store hneighbors
      cases h
      rw [productIds_singleModality]
      exact hfoundImage vector
    | some text =>
      rw [hquery] at h
      obtain ⟨imageNeighbors, himages, h⟩ := Except.bind_eq_ok.1 h
      obtain ⟨textNeighbors, htexts, h⟩ := Except.bind_eq_ok.1 h
      obtain ⟨imageVector, rfl⟩ := search.exists_of_searchByImage store himages
      obtain ⟨textVector, rfl⟩ := search.exists_of_searchByText store htexts
      cases h
      have hids := search.productIds_fused
        (search.index.nearest store.image imageVector topK filters)
        (search.index.nearest store.text textVector topK filters)
      have hshort : (search.fused (search.index.nearest store.image imageVector topK filters)
          (search.index.nearest store.text textVector topK filters)).length ≤ topK := by
        rw [← Keyed.card_keys (search.nodup_fused _ _), hids]
        exact (Finset.card_le_card (Finset.union_subset_union (found_subset _ _ _ _ _)
          (found_subset _ _ _ _ _))).trans hwide
      rw [hcut, List.take_of_length_le hshort, ← List.mem_toFinset, hids, Finset.mem_union,
        List.mem_toFinset]
      exact .inl (hfoundImage imageVector)

end HybridSearchService

/-! ### Every run -/

/-- What everybody sees of a product: a lookup shows it, it can be recommended for by every strategy,
and every search that is wide enough finds it. -/
structure Visible (built : Product ι V) (store : VectorStore ι V) : Prop where
  get : (lookupService store).get built.id = .ok (some built.summary)
  anchored : ∀ recommendationType, Anchored store built.id recommendationType
  searched : ∀ (ε : Type) (search : HybridSearchService ι V ε) image text topK results,
    search.search store image text (some topK) none (some false) = .ok results →
      (store.image.matching none ∪ store.text.matching none).card ≤ topK →
        built.id ∈ results.map HybridSearchResult.productId

/-- A product is visible once both of its points are stored. -/
theorem visible_of_isStored {request : UploadRequest ι V ε} {built : Product ι V}
    {store : VectorStore ι V} (h : request.IsStored built store) : Visible built store := by
  obtain ⟨⟨seen, hbuild⟩, himage, htext⟩ := h
  rw [← request.id_of_build hbuild] at himage htext
  constructor
  · rw [get_lookupService, himage]
    exact congrArg (fun summary => Except.ok (some summary)) (summary_pointOf hbuild)
  · intro recommendationType
    unfold Anchored
    rw [himage, htext]
    exact ⟨fun _ => rfl, rfl⟩
  · intro ε search image text topK results hresults hwide
    exact search.mem_search_of_wide hresults hwide
      (HybridSearchService.mem_matching_none himage) (HybridSearchService.mem_matching_none htext)

variable [DecidableEq κ]

/-- **What every state of the index serves**, whatever is uploaded, in whatever order and with
whatever failures. -/
theorem index_serves {cfg : IndexConfig ι V ε κ}
    (h : Reach indexMachine.step (fun _ _ => True) IndexConfig.init cfg) : ServesUploads cfg :=
  served_of_nested (index_sound h).1 (index_sound h).2

/-- The upload of one shoe, with or without a failure of the last write. -/
def shoeRequest (upsertText : UpsertOutcome Unit) : UploadRequest ℕ Unit Unit :=
  ⟨OneShoe.service .block upsertText, OneShoe.product, OneShoe.image, some 7⟩

/-- One upload may be started. -/
def startsFirst (cfg : IndexConfig ℕ Unit Unit (Fin 1)) :
    Label (Fin 1) (UploadRequest ℕ Unit Unit) Empty → Bool
  | .start _ _ => cfg.log.isEmpty
  | _ => true

theorem keepsSole_of_startsFirst {cfg : IndexConfig ℕ Unit Unit (Fin 1)}
    {l : Label (Fin 1) (UploadRequest ℕ Unit Unit) Empty} (h : startsFirst cfg l = true) (id : ℕ) :
    KeepsSole id cfg l := by
  rintro client request rfl - client' request' hstarted
  unfold IndexConfig.Started at hstarted
  rw [List.isEmpty_iff.1 h] at hstarted
  cases hstarted

/-- After a failure of the last write the shoe is served all the same. -/
theorem index_serves_shoe : ∃ cfg : IndexConfig ℕ Unit Unit (Fin 1),
    (cfg.store.image.retrieve 7).isSome ∧ (cfg.store.text.retrieve 7).isNone ∧
      ServesUploads cfg := by
  obtain ⟨cfg, hreach, hstore⟩ := exists_reach_of_runLabels indexMachine.step startsFirst
    (IndexConfig.init : IndexConfig ℕ Unit Unit (Fin 1))
    [.start 0 (shoeRequest (.failed () false)), .exec 0, .exec 0, .exec 0, .exec 0]
    (fun cfg => (cfg.store.image.retrieve 7).isSome && (cfg.store.text.retrieve 7).isNone)
    (by decide +kernel)
  rw [Bool.and_eq_true] at hstore
  exact ⟨cfg, hstore.1, hstore.2, index_serves (hreach.mono fun _ _ _ => trivial)⟩

/-- **An upload that has returned is visible everywhere and stays so**, whatever other uploads do, if
no other upload has its id. -/
theorem upload_visible {id : ι} {cfg : IndexConfig ι V ε κ}
    (h : Reach indexMachine.step (KeepsSole id) IndexConfig.init cfg) {client : κ}
    {request : UploadRequest ι V ε} {built : Product ι V}
    (hreturned : cfg.Returned client request built) (hid : request.id = id) :
    Visible built cfg.store :=
  visible_of_isStored (sole_upload_stored h hreturned hid)

/-- The event returns a product. -/
def returnsProduct : Event (@IndexCommand.Reply ℕ Unit Unit) (Fin 1) (UploadRequest ℕ Unit Unit)
    (Except (AppException ℕ Unit) (Product ℕ Unit)) → Bool
  | .returned _ _ (.ok _) => true
  | _ => false

/-- The shoe becomes visible. -/
theorem upload_visible_shoe : ∃ (cfg : IndexConfig ℕ Unit Unit (Fin 1)) (client : Fin 1)
    (request : UploadRequest ℕ Unit Unit) (built : Product ℕ Unit),
    cfg.Returned client request built ∧ Visible built cfg.store := by
  obtain ⟨cfg, hreach, hreturned⟩ := exists_reach_of_runLabels indexMachine.step startsFirst
    (IndexConfig.init : IndexConfig ℕ Unit Unit (Fin 1))
    [.start 0 (shoeRequest .stored), .exec 0, .exec 0, .exec 0, .exec 0]
    (fun cfg => cfg.log.any returnsProduct)
    (by decide +kernel)
  obtain ⟨event, hevent, hproduct⟩ := List.any_eq_true.1 hreturned
  cases event with
  | started client request => cases hproduct
  | ran client request x => cases hproduct
  | returned client request b =>
    cases b with
    | error e => cases hproduct
    | ok built =>
      have hsole := hreach.mono fun _ _ h => keepsSole_of_startsFirst h request.id
      exact ⟨cfg, client, request, built, hevent, upload_visible hsole hevent rfl⟩

end ProductIntelligence

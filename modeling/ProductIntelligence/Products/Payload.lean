import Mathlib.Data.Rat.Floor
import ProductIntelligence.Jobs.Job
import ProductIntelligence.Text.Facets

/-!
# What a product stores

The submitted fields of a product, the form in which ingest keeps them, and the payload
that both collections carry for it.  Amounts of money are exact rationals.

## Main definitions

* `ProductCreate`, `ProductImage`, `CatalogIntelligenceResult` — what the payload is
  built from.
* `normalizeName`, `normalizeBrand`, `normalizeDescription`, `normalizeCategory`,
  `normalizePrice` — the stored form of each submitted field.
* `Payload`, `vectorMetadata` — the payload and how it is built.

## References

`backend/app/services/product_service.py`, `backend/app/schemas/product.py`,
`backend/app/models/catalog_intelligence_result.py`.
-/

namespace ProductIntelligence

/-! ### Submitted data -/

/-- The submitted fields of a product. -/
structure ProductCreate where
  name : Text
  brand : Option Text
  description : Option Text
  category : Option Text
  price : Option ℚ
  deriving DecidableEq

/-- An image file that the upload service has stored. -/
structure ProductImage where
  originalFilename : Text
  storedFilename : Text
  contentType : Text
  sizeBytes : ℕ
  uploadedAt : Time
  deriving DecidableEq

/-- The resolved catalog attributes of a product, at most one value for each. -/
structure ProductAttributes where
  brand : Option Text
  category : Option Text
  color : Option Text
  material : Option Text
  gender : Option Text
  style : Option Text
  season : Option Text
  deriving DecidableEq

/-- The attributes of a product nothing is known about. -/
def ProductAttributes.empty : ProductAttributes := ⟨none, none, none, none, none, none, none⟩

/-- A generated tag and its confidence. -/
structure CatalogTag where
  tag : Text
  confidence : ℚ
  deriving DecidableEq

/-- What catalog intelligence found out about a product. -/
structure CatalogIntelligenceResult where
  attributes : ProductAttributes
  tags : List CatalogTag
  qualityScore : ℚ
  deriving DecidableEq

/-! ### The stored form of a field -/

/-- `_normalize_name`: trim only, since names keep their case. -/
def normalizeName (name : Text) : Text := strip name

/-- `_normalize_brand`: trim; a blank brand is no brand. -/
def normalizeBrand : Option Text → Option Text
  | none => none
  | some brand => orNone (strip brand)

/-- `_normalize_description`: trim; a blank description is no description. -/
def normalizeDescription : Option Text → Option Text
  | none => none
  | some description => orNone (strip description)

/-- `_normalize_category`: the facet key. -/
def normalizeCategory (category : Option Text) : Option Text := normalizeFacet category

/-- Round to the nearest integer, halves to the even one. -/
def roundHalfEven (q : ℚ) : ℤ :=
  if q - ⌊q⌋ < 1 / 2 then ⌊q⌋
  else if 1 / 2 < q - ⌊q⌋ then ⌊q⌋ + 1
  else if ⌊q⌋ % 2 = 0 then ⌊q⌋ else ⌊q⌋ + 1

/-- `round(q, digits)`, in exact arithmetic. -/
def roundTo (digits : ℕ) (q : ℚ) : ℚ := roundHalfEven (q * 10 ^ digits) / 10 ^ digits

/-- A number formatted by `:.2f`. -/
def twoDecimals (q : ℚ) : Text :=
  let cents := roundHalfEven (q * 100)
  (if cents < 0 then ['-'] else []) ++ (toString (cents.natAbs / 100)).toList ++ ['.'] ++
    (toString (cents.natAbs / 10 % 10)).toList ++ (toString (cents.natAbs % 10)).toList

/-- `_normalize_price`: round to two decimals. -/
def normalizePrice : Option ℚ → Option ℚ
  | none => none
  | some price => some (roundHalfEven (price * 100) / 100)

example : normalizePrice (some (1999 / 1000)) = some 2 := by decide +kernel

/-- The facet key of a stored brand is that of the submitted one: the trimming is absorbed. -/
theorem normalizeFacet_normalizeBrand (brand : Option Text) :
    normalizeFacet (normalizeBrand brand) = normalizeFacet brand := by
  cases brand with
  | none => rfl
  | some brand =>
    rw [← normalizeFacet_strip brand, normalizeBrand]
    by_cases hblank : strip brand = []
    · rw [hblank]
      rfl
    · rw [orNone_of_ne hblank]

/-- The facet key of a stored category is that of the submitted one. -/
theorem normalizeFacet_normalizeCategory (category : Option Text) :
    normalizeFacet (normalizeCategory category) = normalizeFacet category :=
  normalizeFacet_idem category

/-! ### The payload -/

/-- The payload stored for a product, the same in both collections. -/
structure Payload where
  name : Text
  brand : Option Text
  category : Option Text
  price : Option ℚ
  description : Option Text
  color : Option Text
  material : Option Text
  gender : Option Text
  season : Option Text
  style : Option Text
  tags : List Text
  qualityScore : ℚ
  imageFilename : Text
  brandKey : Option Text
  categoryKey : Option Text
  deriving DecidableEq

/-- `vector_metadata` of `process_upload`. -/
def vectorMetadata (product : ProductCreate) (image : ProductImage)
    (catalogResult : CatalogIntelligenceResult) : Payload where
  name := normalizeName product.name
  brand := normalizeBrand product.brand
  category := normalizeCategory product.category
  price := normalizePrice product.price
  description := normalizeDescription product.description
  color := catalogResult.attributes.color
  material := catalogResult.attributes.material
  gender := catalogResult.attributes.gender
  season := catalogResult.attributes.season
  style := catalogResult.attributes.style
  tags := catalogResult.tags.map CatalogTag.tag
  qualityScore := catalogResult.qualityScore
  imageFilename := image.storedFilename
  -- the display values above cannot be matched exactly; the keys can
  brandKey := normalizeFacet (normalizeBrand product.brand)
  categoryKey := normalizeFacet (normalizeCategory product.category)

end ProductIntelligence

import ProductIntelligence.Products.Payload

/-!
# Search results

What a vector search and a hybrid search return, and the text a stored product is
described by.  Scores are exact rationals.

## Main definitions

* `NearestNeighbor` — one hit of a vector search.
* `HybridSearchResult` — one hit of a hybrid search, with the score of each modality.
* `buildTextRepresentation` — the text that is embedded and queried.

## References

`backend/app/models/search.py`, `backend/app/utils/text.py`.
-/

namespace ProductIntelligence

/-- One similar product found by a vector search. -/
structure NearestNeighbor (ι : Type) where
  productId : ι
  score : ℚ
  metadata : Payload
  deriving DecidableEq

/-- The query type that contributed to a match. -/
inductive SearchModality
  | image
  | text
  deriving DecidableEq

/-- One product found by a hybrid search. -/
structure HybridSearchResult (ι : Type) where
  productId : ι
  score : ℚ
  metadata : Payload
  matchedModalities : List SearchModality
  imageScore : ℚ
  textScore : ℚ
  deriving DecidableEq

/-- A part of the text representation, if it is not blank. -/
def textPart : Option Text → Option Text
  | none => none
  | some part => orNone (strip part)

/-- `build_text_representation`: the trimmed fields of a product joined by full stops. -/
def buildTextRepresentation (name : Text) (brand category description : Option Text) : Text :=
  ['.', ' '].intercalate (strip name :: [brand, category, description].filterMap textPart)

/-- `build_text_representation_from_metadata`. -/
def buildTextRepresentationFromMetadata (metadata : Payload) : Text :=
  buildTextRepresentation metadata.name metadata.brand metadata.category metadata.description

end ProductIntelligence

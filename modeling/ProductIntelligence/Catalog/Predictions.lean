import ProductIntelligence.Duplicates.Detection

/-!
# Attribute predictions and sourced tags

What the two extraction services propose for a product, before their proposals are merged:
values of attributes and tags, each with a confidence and the service it comes from.

## Main definitions

* `Source` — the extraction service that proposed a value.
* `Confidence` — a confidence, in the unit interval by construction.
* `AttributePrediction`, `SourcedTag` — a proposed attribute value and a proposed tag.

## References

`backend/app/models/attribute_prediction.py`, `backend/app/models/catalog_tags.py`.
-/

namespace ProductIntelligence

/-- Which extraction produced a prediction or a tag. -/
inductive Source
  | text
  | image
  | hybrid
  deriving DecidableEq

/-- A confidence. -/
structure Confidence where
  value : ℚ
  valid : InUnit value

/-- So many hundredths, and no more than all of them, are in the unit interval. -/
theorem inUnit_hundredths (n : ℕ) : InUnit ((min n 100 : ℕ) / 100) := by
  have hle : ((min n 100 : ℕ) : ℚ) ≤ 100 := by
    exact_mod_cast min_le_right n 100
  constructor
  · positivity
  · rw [div_le_one (by norm_num)]
    exact hle

/-- A confidence of so many hundredths. -/
def hundredths (n : ℕ) : Confidence := ⟨(min n 100 : ℕ) / 100, inUnit_hundredths n⟩

/-- One guess at the value of one attribute.  The attribute is named by a plain string. -/
structure AttributePrediction where
  attributeName : Text
  value : Text
  confidence : Confidence
  source : Source

/-- A tag proposed by an extraction service, or confirmed by both. -/
structure SourcedTag where
  tag : Text
  confidence : Confidence
  source : Source

/-- The tag as it is stored. -/
def SourcedTag.toCatalogTag (tag : SourcedTag) : CatalogTag := ⟨tag.tag, tag.confidence.value⟩

end ProductIntelligence

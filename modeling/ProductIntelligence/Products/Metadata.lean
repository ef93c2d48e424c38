import ProductIntelligence.Duplicates.Detection
import ProductIntelligence.Products.Double

/-!
# Untyped payloads

What the vector store returns for a product is a JSON object whose values may be anything.  The
services read it field by field, each field by its own coercion.

A string is a text, for the store keeps UTF-8.

## Main definitions

* `JsonValue`, `Metadata` — the values of a payload, and a payload.
* `Payload.toMetadata` — the payload that ingest stores.

## Main results

* `text?_get_toMetadata`, `strings_map_str` — the texts and the tags that ingest stores are read back.

## References

`backend/app/models/search.py`, `backend/app/services/product_service.py`.
-/

namespace ProductIntelligence

/-! ### Values -/

/-- A JSON value of a payload. -/
inductive JsonValue
  | null
  | bool (value : Bool)
  | int (value : ℤ)
  | float (value : Double)
  | str (text : Text)
  | list (items : List JsonValue)
  | dict (members : List (Text × JsonValue))

namespace JsonValue

/-- The text of a string. -/
def text? : JsonValue → Option Text
  | .str text => some text
  | _ => none

/-- The strings of a list. -/
def strings : JsonValue → List Text
  | .list items => items.filterMap text?
  | _ => []

end JsonValue

/-- A payload: a JSON object. -/
abbrev Metadata := List (Text × JsonValue)

/-- `metadata.get(key, default)`. -/
def Metadata.getD (metadata : Metadata) (key : String) (default : JsonValue) : JsonValue :=
  ((Keyed.lookup Prod.fst key.toList metadata).map Prod.snd).getD default

/-- `metadata.get(key)`. -/
def Metadata.get (metadata : Metadata) (key : String) : JsonValue := metadata.getD key .null

/-! ### The payload that ingest stores -/

/-- A text that may be absent. -/
def JsonValue.ofText : Option Text → JsonValue
  | some text => .str text
  | none => .null

/-- A number that may be absent. -/
def JsonValue.ofNumber : Option ℚ → JsonValue
  | some q => .float (.finite q)
  | none => .null

/-- The payload that ingest stores, as an object. -/
def Payload.toMetadata (payload : Payload) : Metadata :=
  [("name".toList, .str payload.name), ("brand".toList, .ofText payload.brand),
    ("category".toList, .ofText payload.category), ("price".toList, .ofNumber payload.price),
    ("description".toList, .ofText payload.description), ("color".toList, .ofText payload.color),
    ("material".toList, .ofText payload.material), ("gender".toList, .ofText payload.gender),
    ("season".toList, .ofText payload.season), ("style".toList, .ofText payload.style),
    ("tags".toList, .list (payload.tags.map .str)),
    ("quality_score".toList, .ofNumber (some payload.qualityScore)),
    ("image_filename".toList, .str payload.imageFilename),
    ("brand_key".toList, .ofText payload.brandKey),
    ("category_key".toList, .ofText payload.categoryKey)]

@[simp] theorem text?_ofText (text : Option Text) : (JsonValue.ofText text).text? = text := by
  cases text <;> rfl

@[simp] theorem strings_map_str (texts : List Text) :
    (JsonValue.list (texts.map .str)).strings = texts := by
  rw [JsonValue.strings, List.filterMap_map]
  exact List.filterMap_some

/-- The texts of a payload that may be absent, each with its field. -/
def Payload.optionalTexts (payload : Payload) : List (String × Option Text) :=
  [("brand", payload.brand), ("category", payload.category), ("description", payload.description),
    ("color", payload.color), ("material", payload.material), ("gender", payload.gender),
    ("season", payload.season), ("style", payload.style), ("brand_key", payload.brandKey),
    ("category_key", payload.categoryKey)]

/-- What ingest stores under a text field is read back. -/
theorem text?_get_toMetadata (payload : Payload) :
    ∀ entry ∈ payload.optionalTexts, (payload.toMetadata.get entry.1).text? = entry.2 := by
  simp only [Payload.optionalTexts, List.forall_mem_cons]
  refine ⟨?_, ?_, ?_, ?_, ?_, ?_, ?_, ?_, ?_, ?_, List.forall_mem_nil _⟩ <;>
    exact text?_ofText _

end ProductIntelligence

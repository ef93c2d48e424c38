import Mathlib.Algebra.BigOperators.Fin
import ProductIntelligence.Catalog.ImageAttributes
import ProductIntelligence.Lists.Counting
import ProductIntelligence.Products.Resizing

/-!
# Pixel statistics of a product photo

The dominant color and the brightness of a photo are those of its subject: the pixels of a small
thumbnail that differ from the backdrop.  The backdrop is estimated by the median color of the
border, which a subject that touches an edge does not move as long as most of the border shows the
backdrop.  Where too little is left the whole frame is described.

The thumbnail and the gray values are what the image library yields.  The arithmetic is exact.  A
distance is compared by its square, which is a whole number, as is that of the threshold.

## Main definitions

* `Photo`, `Thumbnail` — what the image library yields.
* `Thumbnail.estimateBackgroundColor`, `Thumbnail.subjectPixels` — backdrop and subject.
* `Photo.computeDominantColor`, `Photo.computeBrightness` — the statistics.
* `Thumbnail.Shows` — a subject at some places before a backdrop that varies a little.

## Main results

* `Photo.describes_subject` — **the statistics describe the subject** when one separates.
* `backdrop_invisible` — **the backdrop makes no difference**.

## References

`backend/app/utils/image.py`, `backend/app/services/catalog/image_attribute_service.py`.
-/

namespace ProductIntelligence

/-! ### What the image library yields -/

deriving instance DecidableEq for Rgb

/-- `_ANALYSIS_SIZE`: a side of the thumbnail. -/
def analysisSize : ℕ := 50

/-- `_thumbnail`: the pixel at `x` and `y`. -/
abbrev Thumbnail := Fin analysisSize → Fin analysisSize → Rgb

/-- An image as the library opens it: its size, its thumbnail, and the gray values of its pixels. -/
structure Photo where
  width : ℕ
  height : ℕ
  thumbnail : Thumbnail
  grayscale : List (Fin 256)
  length_grayscale : grayscale.length = width * height

/-- `_distance`, squared. -/
def squaredDistance (left right : Rgb) : ℤ :=
  ((left.red : ℤ) - right.red) ^ 2 + ((left.green : ℤ) - right.green) ^ 2 +
    ((left.blue : ℤ) - right.blue) ^ 2

/-- `_BACKGROUND_DISTANCE`. -/
def backgroundDistance : ℤ := 60

/-- A pixel is too far from the backdrop to be part of it. -/
def isSubject (background pixel : Rgb) : Bool :=
  backgroundDistance ^ 2 < squaredDistance pixel background

/-- The places of a thumbnail, row by row. -/
def places : List (Fin analysisSize × Fin analysisSize) :=
  (List.finRange analysisSize).flatMap fun y => (List.finRange analysisSize).map fun x => (x, y)

/-- The width of the border: a tenth of the side, and no less than one pixel. -/
def margin : ℕ := (max 1 (roundHalfEven (analysisSize * (10 / 100)))).toNat

/-- The place is on the border. -/
def inBorder (place : Fin analysisSize × Fin analysisSize) : Bool :=
  (place.2 < margin || analysisSize - margin ≤ place.2) || place.1 < margin ||
    analysisSize - margin ≤ place.1

namespace Thumbnail

variable (thumbnail : Thumbnail)

/-- The pixel at a place. -/
def pixel (place : Fin analysisSize × Fin analysisSize) : Rgb := thumbnail place.1 place.2

/-- The pixels of the border. -/
def border : List Rgb := (places.filter inBorder).map thumbnail.pixel

/-- The pixels of the whole frame. -/
def frame : List Rgb := places.map thumbnail.pixel

/-- `estimate_background_color`: the middle value of each channel of the border. -/
def estimateBackgroundColor : Option Rgb := do
  let red ← Counting.middle (thumbnail.border.map Rgb.red)
  let green ← Counting.middle (thumbnail.border.map Rgb.green)
  let blue ← Counting.middle (thumbnail.border.map Rgb.blue)
  return ⟨red, green, blue⟩

/-- `_MIN_SUBJECT_FRACTION`. -/
def minSubjectFraction : ℚ := 2 / 100

/-- `_subject_pixels`: the pixels that differ from the backdrop, unless they are too few. -/
def subjectPixels : Option (List Rgb) := do
  let background ← thumbnail.estimateBackgroundColor
  let subject := thumbnail.frame.filter (isSubject background)
  let total := analysisSize * analysisSize
  return if total * minSubjectFraction ≤ subject.length then subject else []

end Thumbnail

/-- Rec. 601 luma. -/
def luma (pixel : Rgb) : ℚ :=
  299 / 1000 * (pixel.red : ℕ) + 587 / 1000 * (pixel.green : ℕ) + 114 / 1000 * (pixel.blue : ℕ)

namespace Photo

variable (photo : Photo)

/-- `compute_dominant_color`. -/
def computeDominantColor : Option Rgb := do
  let subject ← photo.thumbnail.subjectPixels
  Counting.mostCommon (if subject.isEmpty then photo.thumbnail.frame else subject)

/-- `grayscale.histogram()`. -/
def histogram : List ℕ := (List.finRange 256).map fun value => photo.grayscale.count value

/-- `compute_brightness`. -/
def computeBrightness : Option ℚ := do
  let subject ← photo.thumbnail.subjectPixels
  if !subject.isEmpty then
    return (subject.map luma).sum / subject.length / 255
  let totalPixels := photo.width * photo.height
  let weightedSum : ℕ := (photo.histogram.zipIdx.map fun entry => entry.2 * entry.1).sum
  return if totalPixels ≠ 0 then (weightedSum : ℚ) / totalPixels / 255 else 0

end Photo

/-- The service that reads the statistics off the images that open. -/
def ImageAttributeExtractionService.ofPhotos (openImage : Text → Option Photo) :
    ImageAttributeExtractionService where
  computeDominantColor imagePath := (openImage imagePath).bind Photo.computeDominantColor
  computeStatistics imagePath := do
    let photo ← openImage imagePath
    let dominantColor ← photo.computeDominantColor
    let brightness ← photo.computeBrightness
    return ⟨photo.width, photo.height, dominantColor, brightness⟩

/-! ### Backdrop and subject -/

theorem margin_eq : margin = 5 := by decide +kernel

theorem length_places : places.length = analysisSize * analysisSize := by
  simp [places, List.length_flatMap]

/-- Every place is one of the thumbnail's. -/
theorem mem_places (place : Fin analysisSize × Fin analysisSize) : place ∈ places := by
  simp only [places, List.mem_flatMap, List.mem_map, List.mem_finRange, true_and]
  exact ⟨place.2, place.1, rfl⟩

/-- The border holds the corner. -/
theorem Thumbnail.border_ne_nil (thumbnail : Thumbnail) : thumbnail.border ≠ [] := by
  have hcorner : inBorder (⟨0, by decide⟩, ⟨0, by decide⟩) = true := by
    simp [inBorder, margin_eq]
  have hmem := List.mem_filter.2 ⟨mem_places _, hcorner⟩
  exact List.ne_nil_of_mem (List.mem_map_of_mem hmem)

theorem Thumbnail.exists_background (thumbnail : Thumbnail) :
    ∃ background, thumbnail.estimateBackgroundColor = some background := by
  have hne {β : Type} (f : Rgb → β) : thumbnail.border.map f ≠ [] := by
    simpa using thumbnail.border_ne_nil
  obtain ⟨red, hred⟩ := Counting.exists_middle (hne Rgb.red)
  obtain ⟨green, hgreen⟩ := Counting.exists_middle (hne Rgb.green)
  obtain ⟨blue, hblue⟩ := Counting.exists_middle (hne Rgb.blue)
  exact ⟨⟨red, green, blue⟩, by
    simp [Thumbnail.estimateBackgroundColor, hred, hgreen, hblue]⟩

/-- The subject separates when it takes fifty pixels. -/
theorem Thumbnail.subjectPixels_eq {thumbnail : Thumbnail} {background : Rgb}
    (h : thumbnail.estimateBackgroundColor = some background) :
    thumbnail.subjectPixels =
      let subject := thumbnail.frame.filter (isSubject background)
      some (if 50 ≤ subject.length then subject else []) := by
  have htotal (n : ℕ) :
      ((analysisSize * analysisSize : ℕ) : ℚ) * Thumbnail.minSubjectFraction ≤ n ↔ 50 ≤ n := by
    have hfifty : ((analysisSize * analysisSize : ℕ) : ℚ) * Thumbnail.minSubjectFraction =
        (50 : ℕ) := by
      norm_num [analysisSize, Thumbnail.minSubjectFraction]
    rw [hfifty, Nat.cast_le]
  simp only [Thumbnail.subjectPixels, h, Option.bind_eq_bind, Option.bind_some, htotal]
  rfl

/-! ### Brightness -/

namespace Photo

variable (photo : Photo)

/-- The statistics of a photo whose subject separates. -/
theorem statistics_of_subject (subject : List Rgb) (hne : subject ≠ [])
    (h : photo.thumbnail.subjectPixels = some subject) :
    photo.computeDominantColor = Counting.mostCommon subject ∧
      photo.computeBrightness = some (Statistics.mean (subject.map luma) / 255) := by
  have hsome : (!subject.isEmpty) = true := by
    cases subject with
    | nil => exact absurd rfl hne
    | cons pixel rest => rfl
  constructor
  · rw [computeDominantColor, h, Option.bind_eq_bind, Option.bind_some, if_neg (by simpa using hne)]
  · rw [computeBrightness, h, Option.bind_eq_bind, Option.bind_some, if_pos hsome, Statistics.mean,
      List.length_map]
    rfl

end Photo

/-! ### Another backdrop -/

/-- A color whose channels are within those of two others. -/
def Rgb.Within (lo hi color : Rgb) : Prop :=
  (lo.red ≤ color.red ∧ color.red ≤ hi.red) ∧ (lo.green ≤ color.green ∧ color.green ≤ hi.green) ∧
    lo.blue ≤ color.blue ∧ color.blue ≤ hi.blue

instance (lo hi : Rgb) : DecidablePred (Rgb.Within lo hi) :=
  fun _ => inferInstanceAs (Decidable (_ ∧ _ ∧ _))

/-- The thumbnail shows a subject at some places, before a backdrop whose colors are within two
bounds: most of the border does, and each of these colors tells the subject from the rest. -/
structure Thumbnail.Shows (thumbnail : Thumbnail)
    (subject : Fin analysisSize × Fin analysisSize → Bool) (lo hi : Rgb) : Prop where
  border : thumbnail.border.length < 2 * thumbnail.border.countP (Rgb.Within lo hi)
  separates : ∀ background, Rgb.Within lo hi background → ∀ place,
    isSubject background (thumbnail.pixel place) = subject place

namespace Thumbnail.Shows

variable {thumbnail : Thumbnail} {subject : Fin analysisSize × Fin analysisSize → Bool}
  {lo hi : Rgb}

/-- The median of a channel keeps to its bounds. -/
theorem exists_channel (h : thumbnail.Shows subject lo hi) (channel : Rgb → Fin 256)
    (hchannel : ∀ color, Rgb.Within lo hi color →
      channel lo ≤ channel color ∧ channel color ≤ channel hi) :
    ∃ value, Counting.middle (thumbnail.border.map channel) = some value ∧
      channel lo ≤ value ∧ value ≤ channel hi := by
  have hcount : thumbnail.border.countP (Rgb.Within lo hi) ≤
      (thumbnail.border.map channel).countP fun value =>
        channel lo ≤ value ∧ value ≤ channel hi := by
    rw [List.countP_map]
    refine List.countP_mono_left fun color _ hcolor => ?_
    simpa using hchannel color (of_decide_eq_true hcolor)
  refine Counting.middle_of_majority ?_
  rw [List.length_map]
  exact h.border.trans_le (Nat.mul_le_mul_left 2 hcount)

/-- The estimate is a color of the backdrop. -/
theorem exists_background (h : thumbnail.Shows subject lo hi) :
    ∃ background, thumbnail.estimateBackgroundColor = some background ∧
      Rgb.Within lo hi background := by
  obtain ⟨red, hred, hred'⟩ := h.exists_channel Rgb.red fun _ hcolor => hcolor.1
  obtain ⟨green, hgreen, hgreen'⟩ := h.exists_channel Rgb.green fun _ hcolor => hcolor.2.1
  obtain ⟨blue, hblue, hblue'⟩ := h.exists_channel Rgb.blue fun _ hcolor => hcolor.2.2
  exact ⟨⟨red, green, blue⟩, by simp [estimateBackgroundColor, hred, hgreen, hblue],
    hred', hgreen', hblue'⟩

/-- What differs from the backdrop is the subject. -/
theorem subjectPixels_eq (h : thumbnail.Shows subject lo hi)
    (hlarge : 50 ≤ (places.filter subject).length) :
    thumbnail.subjectPixels = some ((places.filter subject).map thumbnail.pixel) := by
  obtain ⟨background, hbackground, hwithin⟩ := h.exists_background
  have hfilter : thumbnail.frame.filter (isSubject background) =
      (places.filter subject).map thumbnail.pixel := by
    rw [frame, List.filter_map]
    congr 1
    exact List.filter_congr fun place _ => h.separates background hwithin place
  have hpixels := Thumbnail.subjectPixels_eq hbackground
  dsimp only at hpixels
  rw [hpixels, hfilter, if_pos (by rwa [List.length_map])]

end Thumbnail.Shows

/-- **The backdrop makes no difference.**  Two photos of one size that show the same subject, with
the same pixels, before two backdrops that may vary within bounds, yield the same attributes and
the same tags. -/
theorem backdrop_invisible (openImage : Text → Option Photo) {path path' : Text}
    {photo photo' : Photo} {subject : Fin analysisSize × Fin analysisSize → Bool}
    {lo hi lo' hi' : Rgb} (hopen : openImage path = some photo)
    (hopen' : openImage path' = some photo')
    (hsize : photo.width = photo'.width ∧ photo.height = photo'.height)
    (hshows : photo.thumbnail.Shows subject lo hi)
    (hshows' : photo'.thumbnail.Shows subject lo' hi')
    (hsubject : ∀ place, subject place = true →
      photo.thumbnail.pixel place = photo'.thumbnail.pixel place)
    (hlarge : 50 ≤ (places.filter subject).length) :
    let service := ImageAttributeExtractionService.ofPhotos openImage
    service.extractAttributes path = service.extractAttributes path' ∧
      service.generateTags path = service.generateTags path' := by
  -- the pixels of the subject are the same list
  have hpixels : (places.filter subject).map photo.thumbnail.pixel =
      (places.filter subject).map photo'.thumbnail.pixel :=
    List.map_congr_left fun place hplace => hsubject place (List.mem_filter.1 hplace).2
  have hne : (places.filter subject).map photo.thumbnail.pixel ≠ [] := by
    intro hnil
    rw [List.map_eq_nil_iff] at hnil
    simp [hnil] at hlarge
  obtain ⟨hcolor, hbrightness⟩ :=
    photo.statistics_of_subject _ hne (hshows.subjectPixels_eq hlarge)
  obtain ⟨hcolor', hbrightness'⟩ :=
    photo'.statistics_of_subject _ (hpixels ▸ hne) (hshows'.subjectPixels_eq hlarge)
  have hsameColor : photo.computeDominantColor = photo'.computeDominantColor := by
    rw [hcolor, hcolor', hpixels]
  have hsameBrightness : photo.computeBrightness = photo'.computeBrightness := by
    rw [hbrightness, hbrightness', hpixels]
  have hdominant : (ImageAttributeExtractionService.ofPhotos openImage).computeDominantColor path =
      (ImageAttributeExtractionService.ofPhotos openImage).computeDominantColor path' := by
    show (openImage path).bind _ = (openImage path').bind _
    rw [hopen, hopen', Option.bind_some, Option.bind_some, hsameColor]
  have hstatistics : (ImageAttributeExtractionService.ofPhotos openImage).computeStatistics path =
      (ImageAttributeExtractionService.ofPhotos openImage).computeStatistics path' := by
    show (openImage path).bind _ = (openImage path').bind _
    rw [hopen, hopen', Option.bind_some, Option.bind_some, hsameColor, hsameBrightness, hsize.1,
      hsize.2]
  constructor
  · show ImageAttributeExtractionService.extractAttributes _ path = _
    rw [ImageAttributeExtractionService.extractAttributes, hdominant,
      ImageAttributeExtractionService.extractAttributes]
  · show ImageAttributeExtractionService.generateTags _ path = _
    rw [ImageAttributeExtractionService.generateTags, hstatistics,
      ImageAttributeExtractionService.generateTags]

/-! ### A black square -/

namespace BlackSquare

/-- The rows of the square, and its columns. -/
def side (i : Fin analysisSize) : Bool := 20 ≤ i.val && i.val < 30

/-- The places of the square. -/
def square (place : Fin analysisSize × Fin analysisSize) : Bool := side place.1 && side place.2

/-- A square of ten rows and ten columns. -/
theorem countP_square : places.countP square = 100 := by
  have hside : (List.finRange analysisSize).countP side = 10 := by decide +kernel
  have hrow (y : Fin analysisSize) :
      ((List.finRange analysisSize).map fun x => (x, y)).countP square =
        if side y then 10 else 0 := by
    rw [List.countP_map]
    cases hy : side y with
    | true => simpa [Function.comp_def, square, hy] using hside
    | false => simp [Function.comp_def, square, hy]
  rw [places, List.countP_flatMap]
  simp only [Function.comp_def, hrow]
  decide +kernel

def black : Rgb := ⟨⟨0, by decide⟩, ⟨0, by decide⟩, ⟨0, by decide⟩⟩
def white : Rgb := ⟨⟨238, by decide⟩, ⟨240, by decide⟩, ⟨244, by decide⟩⟩
def cream : Rgb := ⟨⟨245, by decide⟩, ⟨236, by decide⟩, ⟨213, by decide⟩⟩

/-- A black square before a backdrop. -/
def before (backdrop : Rgb) : Photo where
  width := analysisSize
  height := analysisSize
  thumbnail x y := if square (x, y) then black else backdrop
  grayscale := places.map fun place => if square place then black.green else backdrop.green
  length_grayscale := by rw [List.length_map, length_places]

/-- The border is all backdrop, and so is what is not black. -/
theorem shows_before {backdrop : Rgb} (h : isSubject backdrop black = true) :
    (before backdrop).thumbnail.Shows square backdrop backdrop := by
  have hwithin : Rgb.Within backdrop backdrop backdrop :=
    ⟨⟨le_rfl, le_rfl⟩, ⟨le_rfl, le_rfl⟩, le_rfl, le_rfl⟩
  constructor
  · have hall : (before backdrop).thumbnail.border.countP (Rgb.Within backdrop backdrop) =
        (before backdrop).thumbnail.border.length := by
      refine List.countP_eq_length.2 fun color hcolor => decide_eq_true ?_
      obtain ⟨place, hplace, rfl⟩ := List.mem_map.1 hcolor
      have hborder := (List.mem_filter.1 hplace).2
      have hsquare : square place = false := by
        simp only [inBorder, margin_eq, analysisSize, Bool.or_eq_true, decide_eq_true_eq]
          at hborder
        simp only [square, side, Bool.and_eq_false_iff, decide_eq_false_iff_not]
        omega
      simpa [Thumbnail.pixel, before, hsquare] using hwithin
    have hpos := List.length_pos_iff.2 (before backdrop).thumbnail.border_ne_nil
    rw [hall]
    omega
  · rintro ⟨red, green, blue⟩ ⟨⟨hred, hred'⟩, ⟨hgreen, hgreen'⟩, hblue, hblue'⟩ place
    obtain rfl := le_antisymm hred hred'
    obtain rfl := le_antisymm hgreen hgreen'
    obtain rfl := le_antisymm hblue hblue'
    cases hsquare : square place with
    | true => simpa [Thumbnail.pixel, before, hsquare] using h
    | false => simp [Thumbnail.pixel, before, hsquare, isSubject, squaredDistance,
        backgroundDistance]

end BlackSquare

open BlackSquare in
/-- A black square is described alike before white and before cream. -/
theorem backdrop_invisible_square :
    let service := ImageAttributeExtractionService.ofPhotos fun path =>
      if path = "white.jpg".toList then some (before white) else some (before cream)
    service.extractAttributes "white.jpg".toList = service.extractAttributes "cream.jpg".toList ∧
      service.generateTags "white.jpg".toList = service.generateTags "cream.jpg".toList :=
  backdrop_invisible _ (if_pos rfl) (if_neg (by decide)) ⟨rfl, rfl⟩
    (shows_before (by decide)) (shows_before (by decide))
    (fun place hplace => by simp [Thumbnail.pixel, before, hplace])
    (by rw [← List.countP_eq_length_filter, countP_square]; decide)

end ProductIntelligence

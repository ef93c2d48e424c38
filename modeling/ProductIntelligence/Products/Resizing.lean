import ProductIntelligence.Pricing.Evidence

/-!
# Resizing an image

An image is scaled down until neither side is longer than a maximum, and is left alone if it fits
already.  The sides are rounded to whole pixels, halves to the even one, and no side vanishes.
The arithmetic is exact.

## Main definitions

* `ImageSize` — the sides of an image, neither of them empty.
* `resizePreservingAspectRatio` — the size of the resized image.
* `IsResized size limit resized` — what resizing promises of the new size.

## Main results

* `roundHalfEven_error` — rounding moves a number by at most one half.
* `scaledSide_error` — how far a scaled side is from the exact length.
* `resize_keeps_proportion` — **resizing keeps the image within bounds and in proportion**, and
  resizing again changes nothing.

## References

`backend/app/utils/image.py`, `backend/app/services/image_processing_service.py`.
-/

namespace ProductIntelligence

/-! ### Rounding -/

/-- Rounding moves a number by at most one half. -/
theorem roundHalfEven_error (q : ℚ) : |(roundHalfEven q : ℚ) - q| ≤ 1 / 2 := by
  have hfloor := Int.floor_le q
  have hlt := Int.lt_floor_add_one q
  unfold roundHalfEven
  rw [abs_le]
  split_ifs
  · constructor <;> linarith
  · push_cast
    constructor <;> linarith
  · constructor <;> linarith
  · push_cast
    constructor <;> linarith

/-- Whole numbers are their own rounding. -/
@[simp] theorem roundHalfEven_intCast (n : ℤ) : roundHalfEven n = n := by
  simp [roundHalfEven]

/-! ### Sizes -/

/-- The sides of an image in pixels. -/
@[ext] structure ImageSize where
  width : ℕ
  height : ℕ
  width_pos : 0 < width
  height_pos : 0 < height

instance : DecidableEq ImageSize := fun _ _ => decidable_of_iff _ ImageSize.ext_iff.symm

/-- The image turned by a quarter. -/
def ImageSize.swap (size : ImageSize) : ImageSize :=
  ⟨size.height, size.width, size.height_pos, size.width_pos⟩

/-- Neither side is longer than the maximum. -/
def ImageSize.Fits (size : ImageSize) (maxDimension : ℕ+) : Prop :=
  size.width ≤ maxDimension ∧ size.height ≤ maxDimension

instance (size : ImageSize) (maxDimension : ℕ+) : Decidable (size.Fits maxDimension) :=
  inferInstanceAs (Decidable (_ ∧ _))

/-- A side scaled and rounded, but no less than one pixel. -/
def scaledSide (side : ℕ) (scale : ℚ) : ℕ := (max 1 (roundHalfEven (side * scale))).toNat

theorem scaledSide_pos (side : ℕ) (scale : ℚ) : 0 < scaledSide side scale := by
  unfold scaledSide
  omega

/-- `resize_preserving_aspect_ratio`, on sizes. -/
def resizePreservingAspectRatio (size : ImageSize) (maxDimension : ℕ+) : ImageSize :=
  if size.Fits maxDimension then size
  else
    let scale : ℚ := min (maxDimension / size.width) (maxDimension / size.height)
    ⟨scaledSide size.width scale, scaledSide size.height scale, scaledSide_pos _ _,
      scaledSide_pos _ _⟩

example : resizePreservingAspectRatio ⟨3000, 1, by decide, by decide⟩ 1024 =
    ⟨1024, 1, by decide, by decide⟩ := by decide +kernel

/-! ### One side -/

/-- A side scaled to a whole length that is not empty has that length. -/
theorem scaledSide_of_eq {side : ℕ} {scale : ℚ} {length : ℕ} (hlength : 0 < length)
    (h : side * scale = length) : scaledSide side scale = length := by
  have hround : roundHalfEven (side * scale) = length := by
    rw [h]
    exact_mod_cast roundHalfEven_intCast length
  rw [scaledSide, hround]
  omega

/-- A side scaled to at most a positive whole length is at most that long. -/
theorem scaledSide_le {side : ℕ} {scale : ℚ} {length : ℕ} (hlength : 0 < length)
    (h : side * scale ≤ length) : scaledSide side scale ≤ length := by
  have hround := (roundHalfEven_bounds (side * scale) length).2 (by exact_mod_cast h)
  unfold scaledSide
  omega

/-- **A scaled side is within one half of the exact length**, unless that was less than one half
and a pixel was kept. -/
theorem scaledSide_error {side : ℕ} {scale : ℚ} (h : 0 ≤ side * scale) :
    |(scaledSide side scale : ℚ) - side * scale| ≤ 1 / 2 ∨
      scaledSide side scale = 1 ∧ side * scale < 1 / 2 := by
  have herror := roundHalfEven_error (side * scale)
  have hround := (roundHalfEven_bounds (side * scale) 0).1 (by exact_mod_cast h)
  by_cases hzero : roundHalfEven (side * scale) = 0
  · have hside : scaledSide side scale = 1 := by
      unfold scaledSide
      omega
    rw [hzero, Int.cast_zero, zero_sub, abs_neg, abs_of_nonneg h] at herror
    rcases herror.lt_or_eq with hlt | heq
    · exact .inr ⟨hside, hlt⟩
    · refine .inl ?_
      rw [hside, heq]
      norm_num
  · refine .inl ?_
    have hside : (scaledSide side scale : ℤ) = roundHalfEven (side * scale) := by
      unfold scaledSide
      omega
    have hcast : (scaledSide side scale : ℚ) = roundHalfEven (side * scale) := by
      exact_mod_cast hside
    rw [hcast]
    exact herror

/-! ### Both sides -/

/-- A side that stands for an exact length: within one half of it, or kept at one pixel. -/
def StandsFor (side : ℕ) (length : ℚ) : Prop :=
  |(side : ℚ) - length| ≤ 1 / 2 ∨ side = 1 ∧ length < 1 / 2

/-- What resizing promises of the new size.  The longer side of an image that does not fit becomes
the maximum, and the other side keeps the proportion. -/
structure IsResized (size : ImageSize) (maxDimension : ℕ+) (resized : ImageSize) : Prop where
  fits : resized.Fits maxDimension
  width_le : resized.width ≤ size.width
  height_le : resized.height ≤ size.height
  eq_iff : resized = size ↔ size.Fits maxDimension
  landscape : ¬ size.Fits maxDimension → size.height ≤ size.width →
    resized.width = maxDimension ∧
      StandsFor resized.height (size.height * maxDimension / size.width)
  portrait : ¬ size.Fits maxDimension → size.width ≤ size.height →
    resized.height = maxDimension ∧
      StandsFor resized.width (size.width * maxDimension / size.height)

variable {size : ImageSize} {maxDimension : ℕ+}

theorem fits_swap : size.swap.Fits maxDimension ↔ size.Fits maxDimension := and_comm

/-- A turned image is resized to the turned size. -/
theorem resize_swap (size : ImageSize) (maxDimension : ℕ+) :
    resizePreservingAspectRatio size.swap maxDimension =
      (resizePreservingAspectRatio size maxDimension).swap := by
  unfold resizePreservingAspectRatio
  by_cases h : size.Fits maxDimension
  · rw [if_pos h, if_pos (fits_swap.2 h)]
  · rw [if_neg h, if_neg (mt fits_swap.1 h)]
    simp only [ImageSize.swap, min_comm]

theorem resize_of_fits (h : size.Fits maxDimension) :
    resizePreservingAspectRatio size maxDimension = size := if_pos h

/-- **An image at least as wide as high** that does not fit becomes as wide as allowed. -/
theorem resize_landscape (h : ¬ size.Fits maxDimension) (hwide : size.height ≤ size.width) :
    let resized := resizePreservingAspectRatio size maxDimension
    resized.width = maxDimension ∧ resized.height ≤ maxDimension ∧
      resized.height ≤ size.height ∧ (maxDimension : ℕ) < size.width ∧
      StandsFor resized.height (size.height * maxDimension / size.width) := by
  have hlong : (maxDimension : ℕ) < size.width := by
    unfold ImageSize.Fits at h
    omega
  have hmax : (0 : ℚ) < maxDimension := by exact_mod_cast maxDimension.pos
  have hwidth : (0 : ℚ) < size.width := by exact_mod_cast size.width_pos
  have hheight : (0 : ℚ) < size.height := by exact_mod_cast size.height_pos
  have hwide' : (size.height : ℚ) ≤ size.width := by exact_mod_cast hwide
  have hlong' : (maxDimension : ℚ) ≤ size.width := by exact_mod_cast hlong.le
  -- the longer side decides the scale
  have hscale : min ((maxDimension : ℚ) / size.width) (maxDimension / size.height) =
      maxDimension / size.width :=
    min_eq_left (div_le_div_of_nonneg_left hmax.le hheight hwide')
  have hexact : (size.height : ℚ) * (maxDimension / size.width) =
      size.height * maxDimension / size.width := by ring
  have hone : (maxDimension : ℚ) / size.width ≤ 1 := (div_le_one hwidth).2 hlong'
  simp only [resizePreservingAspectRatio, if_neg h, hscale]
  refine ⟨?_, ?_, ?_, hlong, ?_⟩
  · exact scaledSide_of_eq maxDimension.pos (by field_simp)
  · refine scaledSide_le maxDimension.pos ?_
    calc (size.height : ℚ) * (maxDimension / size.width)
        ≤ size.width * (maxDimension / size.width) := by gcongr
      _ = maxDimension := by field_simp
  · exact scaledSide_le size.height_pos (mul_le_of_le_one_right hheight.le hone)
  · rw [← hexact]
    exact scaledSide_error (by positivity)

/-- What holds of an image that is at least as wide as high. -/
theorem isResized_landscape (hwide : size.height ≤ size.width) :
    IsResized size maxDimension (resizePreservingAspectRatio size maxDimension) := by
  by_cases h : size.Fits maxDimension
  · rw [resize_of_fits h]
    exact ⟨h, le_rfl, le_rfl, iff_of_true rfl h, absurd h, absurd h⟩
  · obtain ⟨hwidth, hle, hheight, hlong, hstands⟩ := resize_landscape h hwide
    refine ⟨⟨hwidth.le, hle⟩, hwidth.le.trans hlong.le, hheight, iff_of_false ?_ h,
      fun _ _ => ⟨hwidth, hstands⟩, fun _ htall => ?_⟩
    · intro heq
      rw [heq] at hwidth
      omega
    · -- a square, so both sides become the maximum
      have hsides : size.width = size.height := htall.antisymm hwide
      have hsquare : size.swap = size := ImageSize.ext hsides.symm hsides
      have hsame := resize_swap size maxDimension
      rw [hsquare] at hsame
      have hresized : (resizePreservingAspectRatio size maxDimension).height =
          (resizePreservingAspectRatio size maxDimension).width :=
        (congrArg ImageSize.width hsame).symm
      rw [hresized, hsides]
      rw [hresized, hsides] at hstands
      exact ⟨hwidth, hstands⟩

/-- Turning an image turns what is promised of it. -/
theorem IsResized.swap {resized : ImageSize} (h : IsResized size maxDimension resized) :
    IsResized size.swap maxDimension resized.swap where
  fits := fits_swap.2 h.fits
  width_le := h.height_le
  height_le := h.width_le
  eq_iff := by
    rw [fits_swap, ← h.eq_iff]
    exact ⟨fun heq => congrArg ImageSize.swap heq, congrArg ImageSize.swap⟩
  landscape := fun hfits => h.portrait (mt fits_swap.2 hfits)
  portrait := fun hfits => h.landscape (mt fits_swap.2 hfits)

/-- Every image is resized as promised. -/
theorem isResized (size : ImageSize) (maxDimension : ℕ+) :
    IsResized size maxDimension (resizePreservingAspectRatio size maxDimension) := by
  rcases le_total size.height size.width with hwide | htall
  · exact isResized_landscape hwide
  · have hturned : IsResized size.swap maxDimension
        (resizePreservingAspectRatio size.swap maxDimension) := isResized_landscape htall
    have hswap := hturned.swap
    rw [resize_swap] at hswap
    exact hswap

/-- **Resizing keeps the image within bounds and in proportion**, and resizing again changes
nothing. -/
theorem resize_keeps_proportion (size : ImageSize) (maxDimension : ℕ+) :
    IsResized size maxDimension (resizePreservingAspectRatio size maxDimension) ∧
      resizePreservingAspectRatio (resizePreservingAspectRatio size maxDimension) maxDimension =
        resizePreservingAspectRatio size maxDimension :=
  have hresized := isResized size maxDimension
  ⟨hresized, resize_of_fits hresized.fits⟩

end ProductIntelligence

import Mathlib.Data.Nat.Log
import ProductIntelligence.Products.Resizing

/-!
# Floating point numbers

Of a floating point number only its value is kept, as an exact rational if it is finite.  An
integer becomes the number nearest to it, which keeps the first binary digits of the integer.  The
largest integers have none.

## Main definitions

* `Double` — a floating point number.
* `Double.neg`, `Double.sub` — the opposite of a number, and the difference of two.
* `roundDigits digits m` — `m` rounded to its first binary digits.
* `floatOfInt` — the number nearest to an integer.
* `FitsFloat n` — an integer is not too large for a number.

## Main results

* `le_roundHalfEven_iff` — what is rounded up to an even number.
* `pow_le_roundDigits_iff` — what is rounded up to a power of two.
* `exists_floatOfInt_iff` — **which integers have a number near them**.
-/

namespace ProductIntelligence

/-- A floating point number. -/
inductive Double
  | finite (value : ℚ)
  | infinity (negative : Bool)
  | nan
  deriving DecidableEq

namespace Double

/-- The value of a finite number. -/
def finite? : Double → Option ℚ
  | .finite q => some q
  | .infinity _ => none
  | .nan => none

/-- `-x`. -/
def neg : Double → Double
  | .finite q => .finite (-q)
  | .infinity negative => .infinity (!negative)
  | .nan => .nan

/-- `x - y`, but for the rounding of a finite difference, which keeps its sign. -/
def sub : Double → Double → Double
  | .finite x, .finite y => .finite (x - y)
  | .finite _, .infinity negative => .infinity (!negative)
  | .infinity negative, .finite _ => .infinity negative
  | .infinity negative, .infinity negative' =>
    if negative = negative' then .nan else .infinity negative
  | .finite _, .nan => .nan
  | .infinity _, .nan => .nan
  | .nan, _ => .nan

theorem neg_sub (x y : Double) : (x.sub y).neg = y.sub x := by
  cases x with
  | finite x =>
    cases y with
    | finite y => exact congrArg Double.finite (by ring)
    | infinity negative => simp [sub, neg]
    | nan => rfl
  | infinity negative =>
    cases y with
    | finite y => rfl
    | infinity negative' => cases negative <;> cases negative' <;> rfl
    | nan => rfl
  | nan => cases y <;> rfl

end Double

/-- **What is rounded up to an even number** is at most one half below it. -/
theorem le_roundHalfEven_iff {k : ℤ} (hk : k % 2 = 0) (q : ℚ) :
    k ≤ roundHalfEven q ↔ (k : ℚ) - 1 / 2 ≤ q := by
  have hfloor := Int.floor_le q
  have hlt := Int.lt_floor_add_one q
  rcases lt_trichotomy ⌊q⌋ (k - 1) with h | h | h
  · -- too far below
    have hcast : (⌊q⌋ : ℚ) + 2 ≤ k := by
      have hle : ⌊q⌋ + 2 ≤ k := by omega
      exact_mod_cast hle
    refine iff_of_false ?_ (by linarith)
    have hround := (roundHalfEven_bounds q (⌊q⌋ + 1)).2 (by
      push_cast
      exact hlt.le)
    omega
  · have hcast : (⌊q⌋ : ℚ) = k - 1 := by
      rw [h]
      push_cast
      ring
    have hodd : ¬ ⌊q⌋ % 2 = 0 := by omega
    unfold roundHalfEven
    split_ifs with hless hmore
    · exact iff_of_false (by omega) (by linarith)
    · exact iff_of_true (by omega) (by linarith)
    · exact iff_of_true (by omega) (by linarith)
  · have hcast : (k : ℚ) ≤ ⌊q⌋ := by
      have hle : k ≤ ⌊q⌋ := by omega
      exact_mod_cast hle
    exact iff_of_true ((roundHalfEven_bounds q k).1 (by linarith)) (by linarith)

/-! ### Binary digits -/

/-- What the last of the first binary digits of `m` stands for. -/
def lastUnit (digits m : ℕ) : ℕ := 2 ^ (m.log2 + 1 - digits)

/-- `m` rounded to its first binary digits, halves to the even digit. -/
def roundDigits (digits m : ℕ) : ℕ :=
  (roundHalfEven ((m : ℚ) / lastUnit digits m)).toNat * lastUnit digits m

section RoundDigits

variable {digits m : ℕ}

theorem lastUnit_pos (digits m : ℕ) : 0 < lastUnit digits m := Nat.two_pow_pos _

/-- A multiple of the last unit that is not below the number is not below it once rounded. -/
theorem roundDigits_le {n : ℕ} (h : m ≤ n * lastUnit digits m) :
    roundDigits digits m ≤ n * lastUnit digits m := by
  have hunit : (0 : ℚ) < lastUnit digits m := by exact_mod_cast lastUnit_pos digits m
  have hround := (roundHalfEven_bounds ((m : ℚ) / lastUnit digits m) n).2 (by
    rw [div_le_iff₀ hunit]
    exact_mod_cast h)
  exact Nat.mul_le_mul_right _ (by omega)

/-- A multiple of the last unit that is not above the number is not above it once rounded. -/
theorem le_roundDigits {n : ℕ} (h : n * lastUnit digits m ≤ m) :
    n * lastUnit digits m ≤ roundDigits digits m := by
  have hunit : (0 : ℚ) < lastUnit digits m := by exact_mod_cast lastUnit_pos digits m
  have hround := (roundHalfEven_bounds ((m : ℚ) / lastUnit digits m) n).1 (by
    rw [le_div_iff₀ hunit]
    exact_mod_cast h)
  exact Nat.mul_le_mul_right _ (by omega)

/-- Rounding does not lead beyond the next power of two. -/
theorem roundDigits_le_two_pow : roundDigits digits m ≤ 2 ^ (m.log2 + 1) := by
  have hm : m < 2 ^ (m.log2 + 1) := Nat.lt_log2_self
  have hunits : 2 ^ (min (m.log2 + 1) digits) * lastUnit digits m = 2 ^ (m.log2 + 1) := by
    rw [lastUnit, ← pow_add]
    congr 1
    omega
  have hround := roundDigits_le (n := 2 ^ (min (m.log2 + 1) digits)) (hunits ▸ hm.le)
  rwa [hunits] at hround

/-- Nor does it lead below the last one. -/
theorem two_pow_le_roundDigits (hdigits : 0 < digits) (hm : m ≠ 0) :
    2 ^ m.log2 ≤ roundDigits digits m := by
  have hunits : 2 ^ (min m.log2 (digits - 1)) * lastUnit digits m = 2 ^ m.log2 := by
    rw [lastUnit, ← pow_add]
    congr 1
    omega
  have hround :=
    le_roundDigits (n := 2 ^ (min m.log2 (digits - 1))) (hunits ▸ Nat.log2_self_le hm)
  rwa [hunits] at hround

/-- A number of as many binary digits as the largest ones below a power of two is rounded up to it
from half a unit below. -/
theorem pow_le_roundDigits_iff_of_log2_eq {exponent : ℕ} (hdigits : 0 < digits)
    (h : digits < exponent) (hlog : m.log2 = exponent - 1) :
    2 ^ exponent ≤ roundDigits digits m ↔ 2 ^ exponent ≤ m + 2 ^ (exponent - digits - 1) := by
  have hunit : lastUnit digits m = 2 ^ (exponent - digits) := by
    rw [lastUnit, hlog]
    congr 1
    omega
  have hunits : 2 ^ digits * lastUnit digits m = 2 ^ exponent := by
    rw [hunit, ← pow_add]
    congr 1
    omega
  have htwice : (lastUnit digits m : ℚ) = 2 * 2 ^ (exponent - digits - 1) := by
    rw [hunit, ← pow_succ']
    push_cast
    congr 1
    omega
  have hpos : (0 : ℚ) < lastUnit digits m := by exact_mod_cast lastUnit_pos digits m
  have heven : ((2 : ℤ) ^ digits) % 2 = 0 := by
    obtain ⟨n, rfl⟩ := Nat.exists_eq_succ_of_ne_zero hdigits.ne'
    rw [pow_succ]
    exact Int.mul_emod_left _ _
  have hround : 2 ^ digits ≤ (roundHalfEven ((m : ℚ) / lastUnit digits m)).toNat ↔
      ((2 : ℤ) ^ digits) ≤ roundHalfEven ((m : ℚ) / lastUnit digits m) := by
    have hpow : 0 < 2 ^ digits := Nat.two_pow_pos _
    have hcast : ((2 ^ digits : ℕ) : ℤ) = 2 ^ digits := by push_cast; rfl
    rw [← hcast]
    omega
  calc 2 ^ exponent ≤ roundDigits digits m
      ↔ 2 ^ digits ≤ (roundHalfEven ((m : ℚ) / lastUnit digits m)).toNat := by
        rw [← hunits, roundDigits]
        exact Nat.mul_le_mul_right_iff (lastUnit_pos digits m)
    _ ↔ ((2 ^ digits : ℤ) : ℚ) - 1 / 2 ≤ (m : ℚ) / lastUnit digits m := by
        rw [hround, le_roundHalfEven_iff heven]
    _ ↔ (2 : ℚ) ^ digits * lastUnit digits m ≤ m + 2 ^ (exponent - digits - 1) := by
        rw [le_div_iff₀ hpos, sub_mul, sub_le_iff_le_add, htwice]
        push_cast
        ring_nf
    _ ↔ 2 ^ exponent ≤ m + 2 ^ (exponent - digits - 1) := by
        rw [← hunits]
        exact_mod_cast Iff.rfl

/-- **What is rounded up to a power of two** is at most half a unit below it. -/
theorem pow_le_roundDigits_iff {exponent : ℕ} (hdigits : 0 < digits) (h : digits < exponent) :
    2 ^ exponent ≤ roundDigits digits m ↔ 2 ^ exponent ≤ m + 2 ^ (exponent - digits - 1) := by
  rcases lt_trichotomy m.log2 (exponent - 1) with hlog | hlog | hlog
  · -- fewer binary digits, and no more than one more of them once rounded
    have hround : roundDigits digits m ≤ 2 ^ (m.log2 + 1) := roundDigits_le_two_pow
    have hm : m < 2 ^ (m.log2 + 1) := Nat.lt_log2_self
    have hlong : 2 ^ (m.log2 + 1) ≤ 2 ^ (exponent - 1) :=
      Nat.pow_le_pow_right two_pos (by omega)
    have hdouble : 2 ^ exponent = 2 ^ (exponent - 1) + 2 ^ (exponent - 1) := by
      rw [← two_mul, ← pow_succ']
      congr 1
      omega
    have hpos : 0 < 2 ^ (exponent - 1) := Nat.two_pow_pos _
    have hhalf : 2 ^ (exponent - digits - 1) < 2 ^ (exponent - 1) :=
      Nat.pow_lt_pow_right one_lt_two (by omega)
    omega
  · exact pow_le_roundDigits_iff_of_log2_eq hdigits h hlog
  · have hm : m ≠ 0 := by
      rintro rfl
      simp at hlog
    have hlong : 2 ^ exponent ≤ 2 ^ m.log2 := Nat.pow_le_pow_right two_pos (by omega)
    exact iff_of_true (hlong.trans (two_pow_le_roundDigits hdigits hm))
      ((hlong.trans (Nat.log2_self_le hm)).trans (Nat.le_add_right _ _))

end RoundDigits

/-! ### Integers -/

/-- `float(n)`: the number of 53 binary digits nearest to `n`.  It raises `OverflowError` where
that is too large. -/
def floatOfInt (n : ℤ) : Option Double :=
  if roundDigits 53 n.natAbs < 2 ^ 1024 then
    some (.finite (n.sign * roundDigits 53 n.natAbs))
  else none

example : floatOfInt (-(2 ^ 53 + 1)) = some (.finite (-2 ^ 53)) := by decide +kernel

/-- The integer is more than half a unit below the first power of two that is too large. -/
def FitsFloat (n : ℤ) : Prop := n.natAbs + 2 ^ 970 < 2 ^ 1024

/-- **The integers with a number near them** are those that fit. -/
theorem exists_floatOfInt_iff (n : ℤ) : (∃ x, floatOfInt n = some x) ↔ FitsFloat n := by
  have hround := @pow_le_roundDigits_iff 53 n.natAbs 1024 (by decide) (by decide)
  have hhalf : 1024 - 53 - 1 = 970 := rfl
  rw [hhalf] at hround
  rw [FitsFloat, ← not_le, ← hround, floatOfInt]
  split_ifs with hlt
  · exact iff_of_true ⟨_, rfl⟩ (not_le.2 hlt)
  · refine iff_of_false ?_ (not_not.2 (not_lt.1 hlt))
    rintro ⟨x, hx⟩
    cases hx

-- the powers are never to be computed
attribute [irreducible] floatOfInt FitsFloat

end ProductIntelligence

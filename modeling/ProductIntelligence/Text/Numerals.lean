import Mathlib.Algebra.Group.Nat.Defs
import Mathlib.Tactic.Common

/-!
# Numerals of fixed width

A number written in a base up to sixteen, filled with zeros on the left up to a width.  A number
that is too large for the width takes more digits, so a numeral always determines its number.

## Main definitions

* `Numerals.numeral base width n` — the numeral.
* `Numerals.valueOf base text` — the number that a numeral stands for.

## Main results

* `valueOf_numeral`, `numeral_injective` — **a numeral determines its number**.
* `mem_digits_of_mem_numeral` — its characters are digits.
* `length_numeral` — a number that is not too large fills the width.
-/

namespace Numerals

/-- The digits, by their value. -/
def digits : List Char := "0123456789abcdef".toList

/-- The value of a digit. -/
def digitValue (c : Char) : ℕ := digits.idxOf c

/-- The number that a numeral stands for. -/
def valueOf (base : ℕ) (text : List Char) : ℕ :=
  text.foldl (fun value c => base * value + digitValue c) 0

/-- A number, filled with zeros up to a width. -/
def numeral (base width n : ℕ) : List Char :=
  List.replicate (width - (Nat.toDigits base n).length) '0' ++ Nat.toDigits base n

/-- Digits have their values. -/
theorem digitValue_digitChar {d : ℕ} (h : d < 16) : digitValue d.digitChar = d := by
  have hall : ∀ d ∈ List.range 16, digitValue d.digitChar = d := by decide
  exact hall d (List.mem_range.2 h)

theorem digitChar_mem_digits {d : ℕ} (h : d < 16) : d.digitChar ∈ digits := by
  have hall : ∀ d ∈ List.range 16, d.digitChar ∈ digits := by decide
  exact hall d (List.mem_range.2 h)

theorem valueOf_concat (base : ℕ) (text : List Char) (c : Char) :
    valueOf base (text ++ [c]) = base * valueOf base text + digitValue c := by
  unfold valueOf
  rw [List.foldl_append]
  rfl

/-- Leading zeros do not matter. -/
theorem valueOf_zeros_append (base zeros : ℕ) (text : List Char) :
    valueOf base (List.replicate zeros '0' ++ text) = valueOf base text := by
  induction zeros with
  | zero => rfl
  | succ zeros ih =>
    rw [List.replicate_succ, List.cons_append, ← ih]
    rfl

section Base

variable {base : ℕ} (hone : 1 < base) (hsixteen : base ≤ 16)
include hone hsixteen

theorem valueOf_toDigits (n : ℕ) : valueOf base (Nat.toDigits base n) = n := by
  induction n using Nat.strongRecOn with
  | _ n ih =>
    rw [Nat.toDigits_eq_if hone]
    split
    · next h =>
      have hvalue := digitValue_digitChar (Nat.lt_of_lt_of_le h hsixteen)
      show base * 0 + digitValue n.digitChar = n
      rw [hvalue, Nat.mul_zero, Nat.zero_add]
    · next h =>
      have hlast : n % base < 16 := Nat.lt_of_lt_of_le (Nat.mod_lt n (by omega)) hsixteen
      rw [valueOf_concat, ih (n / base) (Nat.div_lt_self (by omega) hone),
        digitValue_digitChar hlast]
      exact Nat.div_add_mod n base

/-- **A numeral stands for its number.** -/
theorem valueOf_numeral (width n : ℕ) : valueOf base (numeral base width n) = n := by
  rw [numeral, valueOf_zeros_append, valueOf_toDigits hone hsixteen]

/-- **A numeral determines its number.** -/
theorem numeral_injective (width : ℕ) : Function.Injective (numeral base width) := by
  intro m n h
  rw [← valueOf_numeral hone hsixteen width m, h, valueOf_numeral hone hsixteen width n]

theorem mem_digits_of_mem_toDigits {n : ℕ} {c : Char} (h : c ∈ Nat.toDigits base n) :
    c ∈ digits := by
  induction n using Nat.strongRecOn with
  | _ n ih =>
    rw [Nat.toDigits_eq_if hone] at h
    split at h
    · next hlt =>
      rw [List.mem_singleton.1 h]
      exact digitChar_mem_digits (Nat.lt_of_lt_of_le hlt hsixteen)
    · next hle =>
      have hlast : n % base < 16 := Nat.lt_of_lt_of_le (Nat.mod_lt n (by omega)) hsixteen
      rcases List.mem_append.1 h with h | h
      · exact ih (n / base) (Nat.div_lt_self (by omega) hone) h
      · rw [List.mem_singleton.1 h]
        exact digitChar_mem_digits hlast

/-- The characters of a numeral are digits. -/
theorem mem_digits_of_mem_numeral {width n : ℕ} {c : Char} (h : c ∈ numeral base width n) :
    c ∈ digits := by
  rcases List.mem_append.1 h with h | h
  · rw [List.eq_of_mem_replicate h]
    decide
  · exact mem_digits_of_mem_toDigits hone hsixteen h

omit hsixteen in
/-- A number that is not too large fills the width. -/
theorem length_numeral {width n : ℕ} (hwidth : 0 < width) (h : n < base ^ width) :
    (numeral base width n).length = width := by
  have hshort := (Nat.length_toDigits_le_iff hone hwidth).2 h
  rw [numeral, List.length_append, List.length_replicate]
  omega

end Base

end Numerals

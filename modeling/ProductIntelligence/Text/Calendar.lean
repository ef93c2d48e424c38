import Mathlib.Data.Int.Notation
import ProductIntelligence.Text.Numerals

/-!
# Dates and their texts

A date is known by its day number: day 1 is January 1 of the year 1 in the proleptic Gregorian
calendar.  Its year, month and day determine it, and so does its ISO text.

## Main definitions

* `Calendar.ord2ymd` — the year, month and day of a day number.
* `Calendar.ymd2ord` — the day number of a year, month and day.
* `Calendar.isoformat`, `Calendar.isoMinute` — the text of a day, and of a minute.

## Main results

* `ymd2ord_ord2ymd` — **a day number is determined by its year, month and day**.
* `isoformat_injective`, `isoMinute_injective` — and by its text.
-/

namespace Calendar

open Numerals

/-! ### Years, months and days -/

/-- A year, a month from 1 on, and a day of the month from 1 on. -/
structure YearMonthDay where
  year : ℤ
  month : ℕ
  day : ℕ
  deriving DecidableEq

/-- The year has 366 days. -/
def isLeap (year : ℤ) : Bool := year % 4 = 0 && (year % 100 ≠ 0 || year % 400 = 0)

/-- The days before January 1 of a year. -/
def daysBeforeYear (year : ℤ) : ℤ :=
  (year - 1) * 365 + (year - 1) / 4 - (year - 1) / 100 + (year - 1) / 400

/-- The days of a year before the first of a month. -/
def daysBeforeMonth (leap : Bool) (month : ℕ) : ℕ :=
  [0, 0, 31, 59, 90, 120, 151, 181, 212, 243, 273, 304, 334].getD month 334 +
    if leap && 2 < month then 1 else 0

/-- The day number of a date. -/
def ymd2ord (date : YearMonthDay) : ℤ :=
  daysBeforeYear date.year + daysBeforeMonth (isLeap date.year) date.month + date.day

/-- The year of a day number, and how many of its days are before that day.  The last day of a
fourth or of a four hundredth year is what is left over by the shorter years. -/
def yearAndRest (ordinal : ℤ) : ℤ × ℤ :=
  let n := ordinal - 1
  let n400 := n / 146097
  let n := n % 146097
  let n100 := n / 36524
  let n := n % 36524
  let n4 := n / 1461
  let n := n % 1461
  let n1 := n / 365
  let n := n % 365
  let year := n400 * 400 + n100 * 100 + n4 * 4 + n1 + 1
  if n1 = 4 ∨ n100 = 4 then (year - 1, 365) else (year, n)

/-- The month and the day that have so many days of the year before them. -/
def monthAndDay (leap : Bool) (n : ℕ) : ℕ × ℕ :=
  -- the estimate is right or one too high
  let month := (n + 50) / 32
  let month := if n < daysBeforeMonth leap month then month - 1 else month
  (month, n - daysBeforeMonth leap month + 1)

/-- The year, month and day of a day number. -/
def ord2ymd (ordinal : ℤ) : YearMonthDay :=
  let (year, rest) := yearAndRest ordinal
  let (month, day) := monthAndDay (isLeap year) rest.toNat
  ⟨year, month, day⟩

example : ord2ymd 719163 = ⟨1970, 1, 1⟩ := by decide

/-- The days before a year, by the four hundreds, hundreds, fours and ones of the years before. -/
theorem daysBeforeYear_eq {n400 n100 n4 n1 : ℤ} (h100 : 0 ≤ n100 ∧ n100 ≤ 3)
    (h4 : 0 ≤ n4 ∧ n4 ≤ 24) (h1 : 0 ≤ n1 ∧ n1 ≤ 3) :
    daysBeforeYear (n400 * 400 + n100 * 100 + n4 * 4 + n1 + 1) =
      n400 * 146097 + n100 * 36524 + n4 * 1461 + n1 * 365 := by
  have hfour : (n400 * 400 + n100 * 100 + n4 * 4 + n1 + 1 - 1) / 4 =
      n400 * 100 + n100 * 25 + n4 := by omega
  have hhundred : (n400 * 400 + n100 * 100 + n4 * 4 + n1 + 1 - 1) / 100 = n400 * 4 + n100 := by
    omega
  have hfourHundred : (n400 * 400 + n100 * 100 + n4 * 4 + n1 + 1 - 1) / 400 = n400 := by omega
  unfold daysBeforeYear
  rw [hfour, hhundred, hfourHundred]
  omega

/-- **The days of the years before, and the rest.** -/
theorem yearAndRest_spec (ordinal : ℤ) :
    daysBeforeYear (yearAndRest ordinal).1 + (yearAndRest ordinal).2 + 1 = ordinal ∧
      0 ≤ (yearAndRest ordinal).2 ∧ (yearAndRest ordinal).2 ≤ 365 := by
  unfold yearAndRest
  dsimp only
  generalize hn400 : (ordinal - 1) / 146097 = n400
  generalize hn100 : (ordinal - 1) % 146097 / 36524 = n100
  generalize hn4 : (ordinal - 1) % 146097 % 36524 / 1461 = n4
  generalize hn1 : (ordinal - 1) % 146097 % 36524 % 1461 / 365 = n1
  have hn4le : n4 ≤ 24 := by omega
  by_cases h100 : n100 = 4
  · -- the last day of four hundred years
    have hyear : n400 * 400 + n100 * 100 + n4 * 4 + n1 + 1 - 1 =
        n400 * 400 + 3 * 100 + 24 * 4 + 3 + 1 := by omega
    rw [if_pos (.inr h100), hyear, daysBeforeYear_eq (by omega) (by omega) (by omega)]
    omega
  · by_cases h1 : n1 = 4
    · -- the last day of four years
      have hyear : n400 * 400 + n100 * 100 + n4 * 4 + n1 + 1 - 1 =
          n400 * 400 + n100 * 100 + n4 * 4 + 3 + 1 := by omega
      rw [if_pos (.inl h1), hyear, daysBeforeYear_eq (by omega) (by omega) (by omega)]
      omega
    · rw [if_neg (by omega), daysBeforeYear_eq (by omega) (by omega) (by omega)]
      omega

/-- **The days of the months before, and the day.** -/
theorem monthAndDay_spec (leap : Bool) {n : ℕ} (h : n ≤ 365) :
    daysBeforeMonth leap (monthAndDay leap n).1 + (monthAndDay leap n).2 = n + 1 ∧
      (monthAndDay leap n).1 < 100 ∧ (monthAndDay leap n).2 < 100 := by
  have hall : ∀ leap : Bool, ∀ n ∈ List.range 366,
      daysBeforeMonth leap (monthAndDay leap n).1 + (monthAndDay leap n).2 = n + 1 ∧
        (monthAndDay leap n).1 < 100 ∧ (monthAndDay leap n).2 < 100 := by decide +kernel
  exact hall leap n (List.mem_range.2 (by omega))

/-- **A day number is determined by its year, month and day.** -/
theorem ymd2ord_ord2ymd (ordinal : ℤ) : ymd2ord (ord2ymd ordinal) = ordinal := by
  obtain ⟨hyear, hnonneg, hle⟩ := yearAndRest_spec ordinal
  obtain ⟨hmonth, -, -⟩ := monthAndDay_spec (isLeap (yearAndRest ordinal).1)
    (n := (yearAndRest ordinal).2.toNat) (by omega)
  show daysBeforeYear (yearAndRest ordinal).1 +
    (daysBeforeMonth (isLeap (yearAndRest ordinal).1)
      (monthAndDay (isLeap (yearAndRest ordinal).1) (yearAndRest ordinal).2.toNat).1 : ℕ) +
    ((monthAndDay (isLeap (yearAndRest ordinal).1) (yearAndRest ordinal).2.toNat).2 : ℕ) = ordinal
  omega

/-- The month and the day have two digits. -/
theorem ord2ymd_lt (ordinal : ℤ) : (ord2ymd ordinal).month < 100 ∧ (ord2ymd ordinal).day < 100 := by
  obtain ⟨-, hnonneg, hle⟩ := yearAndRest_spec ordinal
  exact (monthAndDay_spec (isLeap (yearAndRest ordinal).1)
    (n := (yearAndRest ordinal).2.toNat) (by omega)).2

/-! ### Texts -/

/-- A year as a text, of four digits at least. -/
def yearText (year : ℤ) : List Char :=
  (if year < 0 then ['-'] else []) ++ numeral 10 4 year.natAbs

/-- `date.isoformat`, of the date with a day number. -/
def isoformat (ordinal : ℤ) : List Char :=
  let date := ord2ymd ordinal
  yearText date.year ++ ('-' :: numeral 10 2 date.month ++ '-' :: numeral 10 2 date.day)

/-- `strftime("%Y-%m-%dT%H:%M")`, of a minute that is counted from the beginning of day 0. -/
def isoMinute (minute : ℤ) : List Char :=
  isoformat (minute / 1440) ++ ('T' :: numeral 10 2 (minute % 1440 / 60).toNat) ++
    (':' :: numeral 10 2 (minute % 60).toNat)

example : isoformat 719163 = "1970-01-01".toList := by decide +kernel

/-- The first digit of a numeral is no sign. -/
theorem head?_numeral_ne {width n : ℕ} {rest : List Char} :
    numeral 10 width n ≠ '-' :: rest := by
  intro h
  have hsign : '-' ∈ digits := @mem_digits_of_mem_numeral 10 (by decide) (by decide)
    width n '-' (h ▸ List.mem_cons_self)
  revert hsign
  decide

theorem yearText_injective : Function.Injective yearText := by
  intro year year' h
  unfold yearText at h
  have hnumeral := @numeral_injective 10 (by decide) (by decide) 4
  by_cases hneg : year < 0
  · by_cases hneg' : year' < 0
    · rw [if_pos hneg, if_pos hneg'] at h
      have habs := hnumeral (List.append_cancel_left h)
      omega
    · rw [if_pos hneg, if_neg hneg'] at h
      exact absurd h.symm head?_numeral_ne
  · by_cases hneg' : year' < 0
    · rw [if_neg hneg, if_pos hneg'] at h
      exact absurd h head?_numeral_ne
    · rw [if_neg hneg, if_neg hneg'] at h
      have habs := hnumeral h
      omega

/-- Two digits at the end of a text can be split off. -/
theorem append_numeral_inj {text text' : List Char} {m m' : ℕ} (hm : m < 100) (hm' : m' < 100)
    (h : text ++ numeral 10 2 m = text' ++ numeral 10 2 m') : text = text' ∧ m = m' := by
  have hlength : (numeral 10 2 m).length = (numeral 10 2 m').length := by
    rw [length_numeral (by decide) (by decide) hm, length_numeral (by decide) (by decide) hm']
  obtain ⟨htext, hnumeral⟩ := List.append_inj' h hlength
  exact ⟨htext, numeral_injective (by decide) (by decide) 2 hnumeral⟩

/-- **A date is determined by its text.** -/
theorem isoformat_injective : Function.Injective isoformat := by
  intro ordinal ordinal' h
  obtain ⟨hmonth, hday⟩ := ord2ymd_lt ordinal
  obtain ⟨hmonth', hday'⟩ := ord2ymd_lt ordinal'
  rw [← ymd2ord_ord2ymd ordinal, ← ymd2ord_ord2ymd ordinal']
  unfold isoformat at h
  generalize ord2ymd ordinal = date at *
  generalize ord2ymd ordinal' = date' at *
  obtain ⟨year, month, day⟩ := date
  obtain ⟨year', month', day'⟩ := date'
  -- the two digits of the day end the text, and those of the month come before them
  have hsplit (year : ℤ) (month day : ℕ) :
      yearText year ++ ('-' :: numeral 10 2 month ++ '-' :: numeral 10 2 day) =
        ((yearText year ++ ['-']) ++ numeral 10 2 month ++ ['-']) ++ numeral 10 2 day := by
    simp only [List.append_assoc, List.cons_append, List.nil_append]
  dsimp only at h hmonth hmonth' hday hday'
  rw [hsplit, hsplit] at h
  obtain ⟨hfront, hdays⟩ := append_numeral_inj hday hday' h
  obtain ⟨hyears, hmonths⟩ := append_numeral_inj hmonth hmonth' (List.append_cancel_right hfront)
  rw [yearText_injective (List.append_cancel_right hyears), hmonths, hdays]

/-- **A minute is determined by its text.** -/
theorem isoMinute_injective : Function.Injective isoMinute := by
  intro minute minute' h
  have hsplit (minute : ℤ) : isoMinute minute =
      ((isoformat (minute / 1440) ++ ['T']) ++ numeral 10 2 (minute % 1440 / 60).toNat ++ [':']) ++
        numeral 10 2 (minute % 60).toNat := by
    simp only [isoMinute, List.append_assoc, List.cons_append, List.nil_append]
  rw [hsplit, hsplit] at h
  obtain ⟨h, hminutes⟩ := append_numeral_inj (by omega) (by omega) h
  obtain ⟨h, hhours⟩ := append_numeral_inj (by omega) (by omega) (List.append_cancel_right h)
  have hday := isoformat_injective (List.append_cancel_right h)
  omega

/-! ### No colons -/

/-- The text of a date holds no colon. -/
theorem colon_not_mem_isoformat (ordinal : ℤ) : ':' ∉ isoformat ordinal := by
  have hnumeral (width n : ℕ) : ':' ∉ numeral 10 width n := by
    intro h
    have hdigit := @mem_digits_of_mem_numeral 10 (by decide) (by decide) _ _ _ h
    revert hdigit
    decide
  have hyear (year : ℤ) : ':' ∉ yearText year := by
    unfold yearText
    split <;> simp [hnumeral]
  unfold isoformat
  simp [hnumeral, hyear]

end Calendar

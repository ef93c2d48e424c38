import Mathlib.Data.Char
import Mathlib.Data.List.Lex
import Mathlib.Data.List.Sort
import Mathlib.Data.Rat.Cast.Order
import Mathlib.Tactic.Linarith
import Mathlib.Tactic.Positivity
import Mathlib.Tactic.Ring
import ProductIntelligence.Text.Facets
import ProductIntelligence.Text.Subsequence

/-!
# Fuzzy comparison of texts

The ratio that name, category and attribute comparisons are made with: both texts are
trimmed and lower-cased, their words sorted, and the longest common subsequence of the two
is related to their lengths.

## Main definitions

* `tokenSort` — the words of a text, sorted and joined by single spaces.
* `tokenSortRatio` — `fuzz.token_sort_ratio`, from 0 to 100.
* `fuzzyRatio` — `_fuzzy_ratio`, from 0 to 1.

## Main results

* `le_fuzzyRatio_iff` — a ratio is reached exactly when a common subsequence is long enough.
* `prepared_slug` — a facet key is compared as it stands.

## References

`backend/app/services/duplicate/similarity_scorer.py`,
`backend/app/services/duplicate/business_rules_evaluator.py`.
-/

namespace ProductIntelligence

open Words

/-- The words of a text, sorted and joined by single spaces. -/
def tokenSort (s : Text) : Text :=
  [' '].intercalate ((tokens isSpace s).insertionSort (· ≤ ·))

/-- `fuzz.token_sort_ratio`: twice the length of a longest common subsequence over the sum
of the lengths, in per cent. -/
def tokenSortRatio (a b : Text) : ℚ :=
  100 * 2 * lcsLength (tokenSort a) (tokenSort b) /
    ((tokenSort a).length + (tokenSort b).length)

/-- What a text is before its words are compared: trimmed, lower-cased, its words sorted. -/
def prepared (s : Text) : Text := tokenSort (lower (strip s))

/-- `_fuzzy_ratio`: the ratio of the trimmed and lower-cased texts, from 0 to 1. -/
def fuzzyRatio (a b : Text) : ℚ := tokenSortRatio (lower (strip a)) (lower (strip b)) / 100

/-- **A fuzzy ratio is reached** exactly when some common subsequence of the two prepared
texts makes up that part of their length. -/
theorem le_fuzzyRatio_iff {a b : Text} (hb : prepared b ≠ []) (t : ℚ) :
    t ≤ fuzzyRatio a b ↔
      ∃ w, List.Sublist w (prepared a) ∧ List.Sublist w (prepared b) ∧
        t * ((prepared a).length + (prepared b).length) ≤ 2 * w.length := by
  have hlen : (0 : ℚ) < (prepared a).length + (prepared b).length := by
    have hpos := List.length_pos_iff.2 hb
    positivity
  have hratio : fuzzyRatio a b = 2 * lcsLength (prepared a) (prepared b) /
      ((prepared a).length + (prepared b).length) := by
    unfold fuzzyRatio tokenSortRatio prepared
    ring
  rw [hratio, le_div_iff₀ hlen]
  constructor
  · intro h
    obtain ⟨w, hwa, hwb, hw⟩ := exists_common_sublist (prepared a) (prepared b)
    exact ⟨w, hwa, hwb, by rwa [hw]⟩
  · rintro ⟨w, hwa, hwb, hw⟩
    have hle : (w.length : ℚ) ≤ lcsLength (prepared a) (prepared b) := by
      exact_mod_cast length_le_lcsLength hwa hwb
    linarith

/-! ### Facet keys -/

/-- The characters of keys and of the words they come from. -/
def IsPlain (c : Char) : Prop := isKeyChar c ∨ c = '-' ∨ c = ' '

theorem lowerChar_of_isPlain (before : Text) {c : Char} (after : Text) (hc : IsPlain c) :
    lowerChar before c after = [c] := by
  have hcheck : ∀ lo hi, (∀ n ∈ List.range' lo (hi + 1 - lo), (Char.ofNat n).toNat ≠ 931 ∧
      mapCase lowerRuns lowerSpecial (Char.ofNat n) = [Char.ofNat n]) →
      lo ≤ c.toNat → c.toNat ≤ hi → lowerChar before c after = [c] := by
    intro lo hi h hlo hhi
    have hchar := char_of_range (p := fun c => c.toNat ≠ 931 ∧
      mapCase lowerRuns lowerSpecial c = [c]) h c hlo hhi
    rw [lowerChar, if_neg hchar.1, hchar.2]
  rcases hc with hc | rfl | rfl
  · simp only [isKeyChar, Bool.or_eq_true, Bool.and_eq_true, decide_eq_true_eq] at hc
    rcases hc with ⟨hlo, hhi⟩ | ⟨hlo, hhi⟩
    · exact hcheck 97 122 (by decide +kernel) hlo hhi
    · exact hcheck 48 57 (by decide +kernel) hlo hhi
  · exact hcheck 45 45 (by decide +kernel) (by decide) (by decide)
  · exact hcheck 32 32 (by decide +kernel) (by decide) (by decide)

/-- Plain characters are lower case. -/
theorem lower_eq_self {s : Text} (h : ∀ c ∈ s, IsPlain c) : lower s = s := by
  have hafter : ∀ before, lowerAfter before s = s := by
    induction s with
    | nil => exact fun _ => rfl
    | cons c s ih =>
      intro before
      rw [lowerAfter, lowerChar_of_isPlain before s (h c (by simp)),
        ih (fun d hd => h d (by simp [hd])), List.singleton_append]
  exact hafter []

theorem lower_slug {ws : List Text} (h : ∀ w ∈ ws, IsWord isSeparator w) :
    lower (slug ws) = slug ws := by
  apply lower_eq_self
  intro c hc
  rcases mem_slug h c hc with hkey | hhyphen
  · exact .inl hkey
  · exact .inr (.inl hhyphen)

/-- A single word is prepared as it stands. -/
theorem tokenSort_of_isWord {s : Text} (h : IsWord isSpace s) : tokenSort s = s := by
  rw [tokenSort, tokens_of_isWord h]
  simp

/-- **A facet key is compared as it stands**: it is trimmed, lower case and a single word. -/
theorem prepared_slug {ws : List Text} (h : ∀ w ∈ ws, IsWord isSeparator w) (hne : ws ≠ []) :
    prepared (slug ws) = slug ws := by
  rw [prepared, strip_slug h, lower_slug h]
  apply tokenSort_of_isWord
  refine ⟨by rwa [Ne, slug_eq_nil h], ?_⟩
  intro c hc
  rcases mem_slug h c hc with hkey | rfl
  · exact not_isSpace_of_isKeyChar hkey
  · rfl

end ProductIntelligence

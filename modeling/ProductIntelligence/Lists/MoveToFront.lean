import Mathlib.Data.List.Basic

/-!
# Moving to the front

A list of what was used last, without repetition: an element is put first, and what is the same as
it is removed behind it.  Cutting the list after `n` elements drops at most the last one.

## Main definitions

* `moveToFront same a l` — `a` before what of `l` is not the same.

## Main results

* `pairwise_moveToFront` — no two elements are the same.
* `sublist_moveToFront` — what was used later stays before.
* `getLast?_of_not_mem_take` — **what cutting drops** is the last element of a full list.
-/

namespace MoveToFront

variable {α : Type*} {same : α → α → Bool}

/-- `a` before what of `l` is not the same. -/
def moveToFront (same : α → α → Bool) (a : α) (l : List α) : List α :=
  a :: l.filter fun b => !same b a

theorem mem_filter_not_same {a b : α} {l : List α} :
    (b ∈ l.filter fun b => !same b a) ↔ b ∈ l ∧ ¬ same b a := by
  rw [List.mem_filter, Bool.not_eq_true', Bool.not_eq_true]

/-- No two elements are the same. -/
theorem pairwise_moveToFront (hcomm : ∀ a b, same a b = same b a) {l : List α}
    (h : l.Pairwise fun a b => ¬ same a b) (a : α) :
    (moveToFront same a l).Pairwise fun a b => ¬ same a b := by
  refine List.pairwise_cons.2 ⟨fun b hb => ?_, h.sublist List.filter_sublist⟩
  rw [hcomm]
  exact (mem_filter_not_same.1 hb).2

/-- What was used later stays before. -/
theorem sublist_moveToFront {l log : List α} (h : l.Sublist log) (a : α) :
    (moveToFront same a l).Sublist (a :: log) :=
  (List.filter_sublist.trans h).cons_cons a

theorem forall_mem_moveToFront {p : α → Prop} {a : α} {l : List α} (ha : p a)
    (hl : ∀ b ∈ l, p b) : ∀ b ∈ moveToFront same a l, p b :=
  List.forall_mem_cons.2 ⟨ha, fun b hb => hl b (mem_filter_not_same.1 hb).1⟩

/-- **What cutting drops** is the last element of a list that is full and has nothing the same. -/
theorem getLast?_of_not_mem_take {n : ℕ} {a b : α} {l : List α} (hlength : l.length ≤ n)
    (hb : b ∈ l) (hsame : ¬ same b a) (hdropped : b ∉ (moveToFront same a l).take n) :
    l.length = n ∧ l.getLast? = some b := by
  have hpos := List.length_pos_of_mem hb
  obtain ⟨m, rfl⟩ : ∃ m, n = m + 1 := Nat.exists_eq_add_one.2 (by omega)
  rw [moveToFront, List.take_succ_cons, List.mem_cons, not_or] at hdropped
  -- it is past the first `m` elements that are not the same, of which there are at most `m + 1`
  have hkept : b ∈ l.filter fun b => !same b a := mem_filter_not_same.2 ⟨hb, hsame⟩
  have hle : (l.filter fun b => !same b a).length ≤ l.length := List.length_filter_le _ _
  rw [← List.take_append_drop m (l.filter fun b => !same b a), List.mem_append] at hkept
  have hlast := hkept.resolve_left hdropped.2
  have hrest := List.length_pos_of_mem hlast
  rw [List.length_drop] at hrest
  have hall : (l.filter fun b => !same b a) = l :=
    List.filter_sublist.eq_of_length (by omega)
  rw [hall] at hlast hrest
  refine ⟨by omega, ?_⟩
  have hone : (l.drop m).length = 1 := by
    rw [List.length_drop]
    omega
  obtain ⟨c, hc⟩ := List.length_eq_one_iff.1 hone
  rw [hc, List.mem_singleton] at hlast
  rw [← List.take_append_drop m l, hc, hlast]
  exact List.getLast?_concat

end MoveToFront

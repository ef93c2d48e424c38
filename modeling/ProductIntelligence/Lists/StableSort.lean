import Mathlib.Data.List.Sort

/-!
# Stable sorting, with keys that may be missing

A stable sort is described by where it takes two elements: they are swapped if and only if they
are out of order in the list.  So a relation holds along the sorted list if and only if it holds
of each two elements of the list, in the order the sort gives them.

An element whose key is missing may be sorted by a sentinel in place of the key.  This keeps such
elements last only if the sentinel comes after the keys there are.

## Main definitions

* `SameKey le` — keys that compare as equal, or are both missing.
* `IsSortedBy key le l sorted` — `sorted` is `l` in the order of the keys, elements without a key
  last, elements of the same key in the order of `l`.
* `standIn embed sentinel` — what an element is sorted by when its key may be missing.

## Main results

* `filter_insertionSort` — elements in order among each other keep their order.
* `pairwise_insertionSort_iff` — **what holds along a sorted list**.
* `isSortedBy_insertionSort_iff` — **when sorting by a sentinel keeps the missing keys last**.
-/

namespace StableSort

variable {α κ υ : Type*}

section Relation

variable {r : α → α → Prop} [DecidableRel r]

/-- Elements in order among each other keep their order. -/
theorem filter_insertionSort {p : α → Bool} {l : List α} (h : (l.filter p).Pairwise r) :
    (l.insertionSort r).filter p = l.filter p := by
  -- they are a sublist of the sorted list, which has no more of them
  have hsub : (l.filter p).Sublist (l.insertionSort r) :=
    List.sublist_insertionSort h List.filter_sublist
  have hfilter := hsub.filter p
  rw [List.filter_filter] at hfilter
  simp only [Bool.and_self] at hfilter
  have hlength := ((List.perm_insertionSort r l).filter p).length_eq
  exact (hfilter.eq_of_length hlength.symm).symm

/-- What is inserted into a sorted list comes after what it is not in order with, and before
the rest. -/
theorem pairwise_orderedInsert_iff [IsTrans α r] {R : α → α → Prop} {a : α} {l : List α}
    (hsorted : l.Pairwise r) :
    (l.orderedInsert r a).Pairwise R ↔
      (∀ b ∈ l, if r a b then R a b else R b a) ∧ l.Pairwise R := by
  induction l with
  | nil => simp
  | cons b l ih =>
    obtain ⟨hb, hl⟩ := List.pairwise_cons.1 hsorted
    by_cases hab : r a b
    · -- `a` is in order with all that follows `b` as well
      have hall : ∀ c ∈ b :: l, r a c := by
        intro c hc
        rcases List.mem_cons.1 hc with rfl | hc
        · exact hab
        · exact Trans.trans hab (hb c hc)
      rw [List.orderedInsert_cons_of_le _ _ hab, List.pairwise_cons]
      refine and_congr_left fun _ => forall₂_congr fun c hc => ?_
      rw [if_pos (hall c hc)]
    · rw [List.orderedInsert_of_not_le _ _ hab, List.pairwise_cons, ih hl, List.pairwise_cons,
        List.forall_mem_cons, if_neg hab]
      simp only [List.mem_orderedInsert, forall_eq_or_imp]
      tauto

/-- **What holds along a sorted list** holds of each two elements in the order that the sort gives
them. -/
theorem pairwise_insertionSort_iff [Std.Total r] [IsTrans α r] {R : α → α → Prop} {l : List α} :
    (l.insertionSort r).Pairwise R ↔ l.Pairwise fun a b => if r a b then R a b else R b a := by
  induction l with
  | nil => simp
  | cons a l ih =>
    rw [List.insertionSort_cons, pairwise_orderedInsert_iff (List.pairwise_insertionSort r l), ih,
      List.pairwise_cons]
    simp only [List.mem_insertionSort]

end Relation

/-! ### Keys that may be missing -/

/-- Keys that compare as equal, or are both missing. -/
def SameKey (le : κ → κ → Prop) : Option κ → Option κ → Prop
  | some x, some y => le x y ∧ le y x
  | none, none => True
  | some _, none => False
  | none, some _ => False

/-- `sorted` is `l` in the order of the keys, elements without a key last, elements of the same key
in the order of `l`. -/
structure IsSortedBy (key : α → Option κ) (le : κ → κ → Prop) (l sorted : List α) : Prop where
  perm : sorted.Perm l
  ordered : sorted.Pairwise fun a b => ∀ x ∈ key a, ∀ y ∈ key b, le x y
  missingLast : sorted.Pairwise fun a b => key a = none → key b = none
  stable : ∀ p : α → Bool, (∀ a b, p a → p b → SameKey le (key a) (key b)) →
    sorted.filter p = l.filter p

/-- What an element is sorted by: its key, or the sentinel. -/
def standIn (embed : κ → υ) (sentinel : υ) : Option κ → υ
  | some x => embed x
  | none => sentinel

section Sentinel

variable {key : α → Option κ} {le : κ → κ → Prop} {embed : κ → υ} {sentinel : υ}
  {leStandIn : υ → υ → Prop} {r : α → α → Prop} [DecidableRel r]

/-- Two elements of a list keep the missing keys last once sorted. -/
theorem missingLast_pair_iff
    (hr : ∀ a b, r a b ↔
      leStandIn (standIn embed sentinel (key a)) (standIn embed sentinel (key b))) (a b : α) :
    (if r a b then key a = none → key b = none else key b = none → key a = none) ↔
      (key a = none → ∀ y ∈ key b, ¬ leStandIn sentinel (embed y)) ∧
        (key b = none → ∀ x ∈ key a, leStandIn (embed x) sentinel) := by
  have hab := hr a b
  cases ha : key a with
  | none =>
    cases hb : key b with
    | none => simp
    | some y =>
      rw [ha, hb] at hab
      simp only [standIn] at hab
      simp [hab]
  | some x =>
    cases hb : key b with
    | none =>
      rw [ha, hb] at hab
      simp only [standIn] at hab
      simp [hab]
    | some y => simp

variable [Std.Total leStandIn]

/-- Elements of the same key are in order. -/
theorem leStandIn_of_sameKey (hle : ∀ x y, le x y ↔ leStandIn (embed x) (embed y))
    {k k' : Option κ} (h : SameKey le k k') :
    leStandIn (standIn embed sentinel k) (standIn embed sentinel k') := by
  cases k with
  | none =>
    cases k' with
    | none => exact refl_of leStandIn sentinel
    | some y => exact absurd h not_false
  | some x =>
    cases k' with
    | none => exact absurd h not_false
    | some y => exact (hle x y).1 h.1

/-- **When sorting by a sentinel keeps the missing keys last**: the sentinel of what precedes a key
comes strictly after the key, and the sentinel of what follows a key does not come before it. -/
theorem isSortedBy_insertionSort_iff (leStandIn : υ → υ → Prop) [Std.Total leStandIn]
    [IsTrans υ leStandIn] (embed : κ → υ) (sentinel : υ)
    (hle : ∀ x y, le x y ↔ leStandIn (embed x) (embed y))
    (hr : ∀ a b, r a b ↔
      leStandIn (standIn embed sentinel (key a)) (standIn embed sentinel (key b)))
    {l : List α} :
    IsSortedBy key le l (l.insertionSort r) ↔
      l.Pairwise fun a b => (key a = none → ∀ y ∈ key b, ¬ leStandIn sentinel (embed y)) ∧
        (key b = none → ∀ x ∈ key a, leStandIn (embed x) sentinel) := by
  have htotal : Std.Total r := ⟨fun a b => by rw [hr, hr]; exact total_of leStandIn _ _⟩
  have htrans : IsTrans α r := ⟨fun a b c => by rw [hr, hr, hr]; exact trans_of leStandIn⟩
  have hmissing : (l.insertionSort r).Pairwise (fun a b => key a = none → key b = none) ↔
      l.Pairwise fun a b => (key a = none → ∀ y ∈ key b, ¬ leStandIn sentinel (embed y)) ∧
        (key b = none → ∀ x ∈ key a, leStandIn (embed x) sentinel) :=
    pairwise_insertionSort_iff.trans (List.Pairwise.iff (missingLast_pair_iff hr))
  rw [← hmissing]
  refine ⟨IsSortedBy.missingLast, fun h => ⟨List.perm_insertionSort r l, ?_, h, ?_⟩⟩
  · refine (List.pairwise_insertionSort r l).imp fun {a b} hab x hx y hy => ?_
    rw [hr, Option.mem_def.1 hx, Option.mem_def.1 hy] at hab
    exact (hle x y).2 hab
  · intro p hp
    refine filter_insertionSort (List.pairwise_of_forall_mem_list fun a ha b hb => ?_)
    have hsame := hp a b (List.mem_filter.1 ha).2 (List.mem_filter.1 hb).2
    exact (hr a b).2 (leStandIn_of_sameKey hle hsame)

end Sentinel

/-- A list along which a property does not change has it throughout or nowhere. -/
theorem pairwise_iff_all_or_none {p : α → Prop} {l : List α} :
    l.Pairwise (fun a b => p a ↔ p b) ↔ (∀ a ∈ l, p a) ∨ ∀ a ∈ l, ¬ p a := by
  constructor
  · intro h
    cases l with
    | nil => exact Or.inl (List.forall_mem_nil _)
    | cons a l =>
      have hsame := (List.pairwise_cons.1 h).1
      by_cases ha : p a
      · exact Or.inl (List.forall_mem_cons.2 ⟨ha, fun b hb => (hsame b hb).1 ha⟩)
      · exact Or.inr (List.forall_mem_cons.2 ⟨ha, fun b hb => mt (hsame b hb).2 ha⟩)
  · rintro (h | h)
    · exact List.pairwise_of_forall_mem_list fun a ha b hb => iff_of_true (h a ha) (h b hb)
    · exact List.pairwise_of_forall_mem_list fun a ha b hb => iff_of_false (h a ha) (h b hb)

end StableSort

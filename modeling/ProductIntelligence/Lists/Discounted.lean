import Mathlib.Algebra.Order.Field.Basic
import Mathlib.Data.List.Count
import Mathlib.Order.Monotone.Basic
import Mathlib.Tactic.Linarith

/-!
# Discounted gains of a list of hits

A list of hits and misses gains for each hit an amount that depends on its place and decreases
with it.  As many hits gain most when they come first.

## Main definitions

* `Discounted.total gain hits` — what the hits gain together.
* `Discounted.ideal gain n` — what `n` hits gain at best.
* `Discounted.Promotes hits hits'` — in `hits'` one hit has changed places with the miss right
  before it.

## Main results

* `total_le_ideal`, `take_of_total_eq_ideal` — the ideal is a bound, reached by the hits that
  come first.
* `total_promote_lt` — a promotion gains.
-/

namespace Discounted

variable {K : Type*} [Field K]

/-- What the hits gain together, the first place gaining `gain 0`. -/
def total (gain : ℕ → K) : List Bool → K
  | [] => 0
  | hit :: hits => (if hit then gain 0 else 0) + total (fun i => gain (i + 1)) hits

/-- What `n` hits gain at best. -/
def ideal (gain : ℕ → K) (n : ℕ) : K := total gain (List.replicate n true)

@[simp] theorem total_nil (gain : ℕ → K) : total gain [] = 0 := rfl

@[simp] theorem total_cons (gain : ℕ → K) (hit : Bool) (hits : List Bool) :
    total gain (hit :: hits) =
      (if hit then gain 0 else 0) + total (fun i => gain (i + 1)) hits := rfl

theorem total_append (gain : ℕ → K) (hits hits' : List Bool) :
    total gain (hits ++ hits') =
      total gain hits + total (fun i => gain (i + hits.length)) hits' := by
  induction hits generalizing gain with
  | nil => simp
  | cons hit hits ih =>
    rw [List.cons_append, total_cons, total_cons, ih, List.length_cons, add_assoc]
    simp only [Nat.add_assoc]

@[simp] theorem ideal_zero (gain : ℕ → K) : ideal gain 0 = 0 := rfl

/-- The first of the hits gains most. -/
theorem ideal_succ' (gain : ℕ → K) (n : ℕ) :
    ideal gain (n + 1) = gain 0 + ideal (fun i => gain (i + 1)) n := by
  rw [ideal, List.replicate_succ, total_cons, if_pos rfl, ideal]

/-- The last of them gains least. -/
theorem ideal_succ (gain : ℕ → K) (n : ℕ) : ideal gain (n + 1) = ideal gain n + gain n := by
  rw [ideal, List.replicate_succ', total_append, ← ideal, List.length_replicate, total_cons,
    if_pos rfl, total_nil, add_zero, Nat.zero_add]

variable [LinearOrder K] [IsStrictOrderedRing K] {gain : ℕ → K}

theorem total_nonneg (hpos : ∀ i, 0 ≤ gain i) (hits : List Bool) : 0 ≤ total gain hits := by
  induction hits generalizing gain with
  | nil => exact le_rfl
  | cons hit hits ih =>
    have hrest : 0 ≤ total (fun i => gain (i + 1)) hits := ih fun i => hpos (i + 1)
    cases hit with
    | true => exact add_nonneg (hpos 0) hrest
    | false => simpa using hrest

/-- Something is gained when there is a hit. -/
theorem total_pos_iff (hpos : ∀ i, 0 < gain i) {hits : List Bool} :
    0 < total gain hits ↔ true ∈ hits := by
  induction hits generalizing gain with
  | nil => simp
  | cons hit hits ih =>
    cases hit with
    | true =>
      have hrest : 0 ≤ total (fun i => gain (i + 1)) hits :=
        total_nonneg (fun i => (hpos (i + 1)).le) hits
      rw [total_cons, if_pos rfl]
      exact ⟨fun _ => List.mem_cons_self .., fun _ => add_pos_of_pos_of_nonneg (hpos 0) hrest⟩
    | false =>
      rw [total_cons, if_neg Bool.false_ne_true, zero_add, ih fun i => hpos (i + 1)]
      simp

/-- More hits gain more at best. -/
theorem ideal_strictMono (hpos : ∀ i, 0 < gain i) : StrictMono (ideal gain) := by
  refine strictMono_nat_of_lt_succ fun n => ?_
  rw [ideal_succ]
  exact lt_add_of_pos_right _ (hpos n)

/-- A miss at the start costs something. -/
theorem ideal_shift_lt (hanti : StrictAnti gain) {n : ℕ} (hn : 0 < n) :
    ideal (fun i => gain (i + 1)) n < ideal gain n := by
  have hfirst := ideal_succ' gain n
  rw [ideal_succ] at hfirst
  have hlast : gain n < gain 0 := hanti hn
  linarith

/-- **The ideal is a bound.** -/
theorem total_le_ideal (hanti : StrictAnti gain) (hits : List Bool) :
    total gain hits ≤ ideal gain (hits.count true) := by
  induction hits generalizing gain with
  | nil => exact le_rfl
  | cons hit hits ih =>
    have hrest : total (fun i => gain (i + 1)) hits ≤
        ideal (fun i => gain (i + 1)) (hits.count true) := ih fun i j hij => hanti (by omega)
    cases hit with
    | true =>
      rw [total_cons, if_pos rfl, List.count_cons_self, ideal_succ']
      linarith
    | false =>
      rw [total_cons, if_neg Bool.false_ne_true, zero_add, List.count_cons_of_ne (by decide)]
      rcases Nat.eq_zero_or_pos (hits.count true) with hzero | hpos
      · rw [hzero] at hrest ⊢
        exact hrest
      · exact hrest.trans (ideal_shift_lt hanti hpos).le

/-- **The ideal is reached** only when the hits come first. -/
theorem take_of_total_eq_ideal (hanti : StrictAnti gain) {hits : List Bool}
    (h : total gain hits = ideal gain (hits.count true)) :
    ∀ hit ∈ hits.take (hits.count true), hit = true := by
  induction hits generalizing gain with
  | nil => simp
  | cons hit hits ih =>
    have hshift : StrictAnti fun i => gain (i + 1) := fun i j hij => hanti (by omega)
    have hrest := total_le_ideal hshift hits
    cases hit with
    | true =>
      rw [total_cons, if_pos rfl, List.count_cons_self, ideal_succ', add_right_inj] at h
      rw [List.count_cons_self, List.take_succ_cons]
      simpa using ih hshift h
    | false =>
      rw [total_cons, if_neg Bool.false_ne_true, zero_add, List.count_cons_of_ne (by decide)] at h
      rw [List.count_cons_of_ne (by decide)]
      rcases Nat.eq_zero_or_pos (hits.count true) with hzero | hpos
      · rw [hzero]
        simp
      · exact absurd (hrest.trans_lt (ideal_shift_lt hanti hpos)) h.not_lt

/-- Hits that come first gain as much as so many can. -/
theorem ideal_le_total (hpos : ∀ i, 0 ≤ gain i) {hits : List Bool} {n : ℕ}
    (hn : n ≤ hits.length) (h : ∀ hit ∈ hits.take n, hit = true) :
    ideal gain n ≤ total gain hits := by
  have hfirst : hits.take n = List.replicate n true :=
    List.eq_replicate_iff.2 ⟨by rw [List.length_take, min_eq_left hn], h⟩
  rw [← List.take_append_drop n hits, total_append, hfirst, ← ideal, List.length_replicate]
  exact le_add_of_nonneg_right (total_nonneg (fun i => hpos (i + n)) _)

/-! ### Promotions -/

/-- In `hits'` one hit has changed places with the miss right before it, at place `i`. -/
def Promotes (i : ℕ) (hits hits' : List Bool) : Prop :=
  ∃ before after, before.length = i ∧ hits = before ++ false :: true :: after ∧
    hits' = before ++ true :: false :: after

/-- What a promotion does to the first `n` hits. -/
theorem take_promote {i : ℕ} {hits hits' : List Bool} (h : Promotes i hits hits') (n : ℕ) :
    (n ≤ i ∧ hits'.take n = hits.take n) ∨
    (n = i + 1 ∧ ∃ before : List Bool, before.length = i ∧ hits.take n = before ++ [false] ∧
      hits'.take n = before ++ [true]) ∨
    (i + 2 ≤ n ∧ Promotes i (hits.take n) (hits'.take n)) := by
  obtain ⟨before, after, hlength, rfl, rfl⟩ := h
  rcases Nat.lt_trichotomy n (i + 1) with hn | rfl | hn
  · refine .inl ⟨by omega, ?_⟩
    rw [List.take_append_of_le_length (by omega), List.take_append_of_le_length (by omega)]
  · refine .inr (.inl ⟨rfl, before, hlength, ?_, ?_⟩)
    · simp [← hlength, List.take_length_add_append]
    · simp [← hlength, List.take_length_add_append]
  · obtain ⟨m, rfl⟩ : ∃ m, n = before.length + (m + 2) := ⟨n - (i + 2), by omega⟩
    refine .inr (.inr ⟨by omega, before, after.take m, hlength, ?_, ?_⟩)
    · rw [List.take_length_add_append, List.take_succ_cons, List.take_succ_cons]
    · rw [List.take_length_add_append, List.take_succ_cons, List.take_succ_cons]

/-- **A promotion gains**, if its place counts. -/
theorem total_promote_lt (hpos : ∀ i, 0 < gain i) (hanti : StrictAnti gain) {i : ℕ}
    {hits hits' : List Bool} (h : Promotes i hits hits') {n : ℕ} (hn : i < n) :
    total gain (hits.take n) < total gain (hits'.take n) := by
  rcases take_promote h n with ⟨hle, -⟩ | ⟨-, before, -, hhits, hhits'⟩ |
    ⟨-, before, after, -, hhits, hhits'⟩
  · omega
  · rw [hhits, hhits', total_append, total_append]
    have hlast := hpos (0 + before.length)
    simpa using hlast
  · rw [hhits, hhits', total_append, total_append]
    have hswap : gain (0 + 1 + before.length) < gain (0 + before.length) := hanti (by omega)
    simp only [total_cons, Bool.false_eq_true, if_true, if_false]
    linarith

omit [Field K] [LinearOrder K] [IsStrictOrderedRing K] in
/-- A promotion loses no hit among the first `n`. -/
theorem count_promote_le {i : ℕ} {hits hits' : List Bool} (h : Promotes i hits hits') (n : ℕ) :
    (hits.take n).count true ≤ (hits'.take n).count true := by
  rcases take_promote h n with ⟨-, heq⟩ | ⟨-, before, -, hhits, hhits'⟩ |
    ⟨-, before, after, -, hhits, hhits'⟩
  · rw [heq]
  · rw [hhits, hhits', List.count_append, List.count_append]
    simp
  · rw [hhits, hhits', List.count_append, List.count_append]
    simp

end Discounted

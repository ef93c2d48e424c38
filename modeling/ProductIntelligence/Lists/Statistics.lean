import Mathlib.Algebra.BigOperators.Ring.List
import Mathlib.Algebra.Order.BigOperators.Group.List
import Mathlib.Algebra.Order.Field.Basic
import Mathlib.Data.List.GetD
import Mathlib.Data.List.Sort
import Mathlib.Tactic.Linarith
import Mathlib.Tactic.Ring

/-!
# Statistics of lists

The mean, the median, the quantiles and the variance of a list of numbers.  None of them depends on
the order of the list, and all of them follow a change of the unit: the variance by its square, the
others directly.

## Main definitions

* `Statistics.sorted`, `Statistics.nth` — the list in increasing order, and its entries.
* `Statistics.mean`, `Statistics.median`, `Statistics.quantile`, `Statistics.variance`.
* `Statistics.Between l a` — `a` lies between the smallest and the largest element of `l`.

## Main results

* `Statistics.exists_le_mean`, `Statistics.exists_mean_le` — the mean lies between two elements.
* `Statistics.between_mean`, `between_median`, `between_weighted` — so do the others.
* `Statistics.exists_interquartile` — some element lies between the outer quartiles.
* `Statistics.sorted_congr`, `Statistics.sorted_map` — sorting forgets the order, and commutes with
  monotone functions.
* `Statistics.mean_scale`, `median_scale`, `quantile_scale`, `variance_scale` — the change of unit.
* `Statistics.mean_congr`, `median_congr`, `quantile_congr`, `variance_congr` — the change of order.
-/

namespace Statistics

/-! ### Sorting -/

section Sorting

variable {α : Type*} [LinearOrder α] {l l' : List α}

/-- The list in increasing order. -/
def sorted (l : List α) : List α := l.insertionSort (· ≤ ·)

theorem perm_sorted (l : List α) : (sorted l).Perm l := List.perm_insertionSort _ l

theorem pairwise_sorted (l : List α) : (sorted l).Pairwise (· ≤ ·) :=
  List.pairwise_insertionSort _ l

@[simp] theorem length_sorted (l : List α) : (sorted l).length = l.length :=
  (perm_sorted l).length_eq

/-- Sorting forgets the order. -/
theorem sorted_congr (h : l.Perm l') : sorted l = sorted l' :=
  List.Perm.eq_of_pairwise' (pairwise_sorted l) (pairwise_sorted l')
    ((perm_sorted l).trans (h.trans (perm_sorted l').symm))

/-- Sorting commutes with monotone functions. -/
theorem sorted_map {β : Type*} [LinearOrder β] {f : α → β} (hf : Monotone f) (l : List α) :
    sorted (l.map f) = (sorted l).map f := by
  refine List.Perm.eq_of_pairwise' (pairwise_sorted _) ?_ ?_
  · exact List.pairwise_map.2 ((pairwise_sorted l).imp fun h => hf h)
  · exact (perm_sorted _).trans ((perm_sorted l).map f).symm

end Sorting

variable {K : Type*} [Field K] [LinearOrder K]

/-- The entry at a place of the sorted list, `0` beyond its end. -/
def nth (l : List K) (i : ℕ) : K := (sorted l).getD i 0

theorem nth_congr {l l' : List K} (h : l.Perm l') (i : ℕ) : nth l i = nth l' i := by
  rw [nth, sorted_congr h, nth]

theorem nth_of_lt {l : List K} {i : ℕ} (h : i < (sorted l).length) : nth l i = (sorted l)[i] :=
  List.getD_eq_getElem _ _ h

/-- Entries increase. -/
theorem nth_le_nth {l : List K} {i j : ℕ} (hij : i ≤ j) (hj : j < l.length) :
    nth l i ≤ nth l j := by
  have hj' : j < (sorted l).length := by simpa using hj
  rw [nth_of_lt hj', nth_of_lt (hij.trans_lt hj')]
  rcases hij.eq_or_lt with rfl | hlt
  · exact le_rfl
  · exact List.pairwise_iff_getElem.1 (pairwise_sorted l) i j _ hj' hlt

/-- Entries are elements. -/
theorem nth_mem {l : List K} {i : ℕ} (h : i < l.length) : nth l i ∈ l := by
  have h' : i < (sorted l).length := by simpa using h
  rw [nth_of_lt h']
  exact (perm_sorted l).mem_iff.1 (List.getElem_mem h')

/-! ### The statistics -/

/-- The arithmetic mean. -/
def mean {K : Type*} [Field K] (l : List K) : K := l.sum / l.length

/-- The middle entry, or the mean of the two middle entries. -/
def median (l : List K) : K :=
  if l.length % 2 = 1 then nth l (l.length / 2)
  else (nth l (l.length / 2 - 1) + nth l (l.length / 2)) / 2

/-- The `i`-th of the points that cut a list into `n` parts of equal size, found by interpolation
between the entries on both sides of it.  The list is taken as a sample, so that both its ends lie
inside. -/
def quantile (n i : ℕ) (l : List K) : K :=
  let m := l.length + 1
  let j := if i * m / n < 1 then 1 else if l.length - 1 < i * m / n then l.length - 1 else i * m / n
  let delta : ℤ := i * m - j * n
  (nth l (j - 1) * (n - delta) + nth l j * delta) / n

/-- The mean square deviation from the mean. -/
def variance {K : Type*} [Field K] (l : List K) : K :=
  mean (l.map fun a => (a - mean l) ^ 2)

/-! ### Quantiles between entries -/

section Quantiles

variable [IsStrictOrderedRing K]

/-- A cutting point lies between the entries on both sides of it. -/
theorem nth_le_quantile_le {n i j : ℕ} {l : List K} (hn : 0 < n) (hj : i * (l.length + 1) / n = j)
    (hpos : 1 ≤ j) (hlt : j < l.length) : nth l (j - 1) ≤ quantile n i l ∧
      quantile n i l ≤ nth l j := by
  have hle : nth l (j - 1) ≤ nth l j := nth_le_nth (Nat.sub_le j 1) hlt
  -- how far the point is beyond the first of the two, in `n`-ths of the way
  obtain ⟨r, hr⟩ : ∃ r, r = i * (l.length + 1) % n := ⟨_, rfl⟩
  have hrn : r < n := hr ▸ Nat.mod_lt _ hn
  have hsplit : n * j + r = i * (l.length + 1) := by
    rw [hr, ← hj, Nat.div_add_mod]
  have hdelta : (i : K) * (l.length + 1) - j * n = r := by
    have hcast : (n : K) * j + r = i * (l.length + 1) := by exact_mod_cast hsplit
    rw [← hcast]
    ring
  have hquantile : quantile n i l = (nth l (j - 1) * (n - r) + nth l j * r) / n := by
    have hclamp : ¬ j < 1 ∧ ¬ l.length - 1 < j := by omega
    simp only [quantile, hj, if_neg hclamp.1, if_neg hclamp.2]
    push_cast
    rw [hdelta]
  have hn' : (0 : K) < n := by exact_mod_cast hn
  have hr0 : (0 : K) ≤ r := Nat.cast_nonneg r
  have hrn' : (r : K) ≤ n := by exact_mod_cast hrn.le
  rw [hquantile, le_div_iff₀ hn', div_le_iff₀ hn']
  constructor
  · nlinarith
  · nlinarith

/-- **Some element lies between the outer quartiles**, if there are at least four. -/
theorem exists_interquartile {l : List K} (h : 4 ≤ l.length) :
    ∃ a ∈ l, quantile 4 1 l ≤ a ∧ a ≤ quantile 4 3 l := by
  -- the entry at the first quartile comes before the third
  have hlt : 3 * (l.length + 1) / 4 < l.length := by omega
  have hfirst := nth_le_quantile_le (n := 4) (i := 1) (l := l) (by decide) rfl (by omega)
    (by omega)
  have hthird := nth_le_quantile_le (n := 4) (i := 3) (l := l) (by decide) rfl (by omega) hlt
  rw [one_mul] at hfirst
  have hbetween : nth l ((l.length + 1) / 4) ≤ nth l (3 * (l.length + 1) / 4 - 1) :=
    nth_le_nth (by omega) (by omega)
  exact ⟨nth l ((l.length + 1) / 4), nth_mem (by omega), hfirst.2, hbetween.trans hthird.1⟩

end Quantiles

/-! ### The mean -/

section Mean

omit [LinearOrder K] in
theorem sum_map_const (l : List K) (a : K) : (l.map fun _ => a).sum = l.length * a := by
  rw [List.map_const', List.sum_replicate, nsmul_eq_mul]

variable [IsStrictOrderedRing K]

/-- The mean counted once for each element is the sum. -/
theorem length_mul_mean {l : List K} (h : l ≠ []) : l.length * mean l = l.sum := by
  have hpos : (0 : K) < l.length := by exact_mod_cast List.length_pos_iff.2 h
  exact mul_div_cancel₀ _ hpos.ne'

/-- Some element is at most the mean. -/
theorem exists_le_mean {l : List K} (h : l ≠ []) : ∃ a ∈ l, a ≤ mean l := by
  refine List.exists_le_of_sum_le h id (fun _ => mean l) (le_of_eq ?_)
  rw [List.map_id, sum_map_const, length_mul_mean h]

/-- Some element is at least the mean. -/
theorem exists_mean_le {l : List K} (h : l ≠ []) : ∃ a ∈ l, mean l ≤ a := by
  refine List.exists_le_of_sum_le h (fun _ => mean l) id (le_of_eq ?_)
  rw [List.map_id, sum_map_const, length_mul_mean h]

end Mean

/-! ### Between the smallest and the largest -/

section Between

/-- `a` lies between the smallest and the largest element. -/
structure Between (l : List K) (a : K) : Prop where
  least : ∃ b ∈ l, (∀ c ∈ l, b ≤ c) ∧ b ≤ a
  greatest : ∃ b ∈ l, (∀ c ∈ l, c ≤ b) ∧ a ≤ b

omit [Field K] in
/-- Of some elements one is the smallest and one the largest. -/
theorem exists_extremes {l : List K} (h : l ≠ []) :
    (∃ b ∈ l, ∀ c ∈ l, b ≤ c) ∧ ∃ b ∈ l, ∀ c ∈ l, c ≤ b := by
  induction l with
  | nil => exact absurd rfl h
  | cons a l ih =>
    rcases l.eq_nil_or_concat with rfl | ⟨_, _, hl⟩
    · exact ⟨⟨a, by simp⟩, a, by simp⟩
    · obtain ⟨⟨b, hb, hleast⟩, c, hc, hgreatest⟩ := ih (by simp [hl])
      constructor
      · rcases le_total a b with hab | hab
        · exact ⟨a, by simp, by simpa using fun d hd => hab.trans (hleast d hd)⟩
        · exact ⟨b, by simp [hb], by simpa [hab] using hleast⟩
      · rcases le_total a c with hac | hac
        · exact ⟨c, by simp [hc], by simpa [hac] using hgreatest⟩
        · exact ⟨a, by simp, by simpa using fun d hd => (hgreatest d hd).trans hac⟩

omit [Field K] in
/-- Whatever keeps to the bounds of the elements lies between them. -/
theorem between_of_bounds {l : List K} {a : K} (h : l ≠ [])
    (hleast : ∀ b, (∀ c ∈ l, b ≤ c) → b ≤ a) (hgreatest : ∀ b, (∀ c ∈ l, c ≤ b) → a ≤ b) :
    Between l a := by
  obtain ⟨⟨b, hb, hb'⟩, c, hc, hc'⟩ := exists_extremes h
  exact ⟨⟨b, hb, hb', hleast b hb'⟩, c, hc, hc', hgreatest c hc'⟩

omit [Field K] in
/-- What lies between two elements lies between the smallest and the largest. -/
theorem between_of_mem {l : List K} {a b c : K} (hb : b ∈ l) (hba : b ≤ a) (hc : c ∈ l)
    (hac : a ≤ c) : Between l a :=
  between_of_bounds (List.ne_nil_of_mem hb) (fun _ h => (h b hb).trans hba)
    fun _ h => hac.trans (h c hc)

variable [IsStrictOrderedRing K]

theorem between_mean {l l' : List K} (h : l' ≠ []) (hsub : l' ⊆ l) : Between l (mean l') := by
  obtain ⟨b, hb, hle⟩ := exists_le_mean h
  obtain ⟨c, hc, hge⟩ := exists_mean_le h
  exact between_of_mem (hsub hb) hle (hsub hc) hge

theorem between_median {l : List K} (h : l ≠ []) : Between l (median l) := by
  have hpos := List.length_pos_iff.2 h
  unfold median
  split
  · have hmem : nth l (l.length / 2) ∈ l := nth_mem (by omega)
    exact between_of_mem hmem le_rfl hmem le_rfl
  · have hle : nth l (l.length / 2 - 1) ≤ nth l (l.length / 2) :=
      nth_le_nth (by omega) (by omega)
    refine between_of_mem (nth_mem (i := l.length / 2 - 1) (by omega)) ?_
      (nth_mem (i := l.length / 2) (by omega)) ?_
    · linarith
    · linarith

/-- A weighted mean lies between the smallest and the largest, if something weighs. -/
theorem between_weighted {α : Type*} {l : List α} {f weight : α → K}
    (hweight : ∀ a ∈ l, 0 ≤ weight a) (hpos : 0 < (l.map weight).sum) :
    Between (l.map f) ((l.map fun a => f a * weight a).sum / (l.map weight).sum) := by
  have hne : l ≠ [] := fun h => by simp [h] at hpos
  refine between_of_bounds (by simpa using hne) (fun b hb => ?_) fun b hb => ?_
  · rw [le_div_iff₀ hpos, ← List.sum_map_mul_left]
    exact List.sum_le_sum fun a ha =>
      mul_le_mul_of_nonneg_right (hb _ (List.mem_map_of_mem ha)) (hweight a ha)
  · rw [div_le_iff₀ hpos, ← List.sum_map_mul_left]
    exact List.sum_le_sum fun a ha =>
      mul_le_mul_of_nonneg_right (hb _ (List.mem_map_of_mem ha)) (hweight a ha)

end Between

/-! ### The order of the list -/

section Order

variable {l l' : List K}

omit [LinearOrder K] in
theorem mean_congr (h : l.Perm l') : mean l = mean l' := by
  rw [mean, mean, h.sum_eq, h.length_eq]

theorem median_congr (h : l.Perm l') : median l = median l' := by
  simp only [median, h.length_eq, nth_congr h]

theorem quantile_congr (h : l.Perm l') (n i : ℕ) : quantile n i l = quantile n i l' := by
  simp only [quantile, h.length_eq, nth_congr h]

omit [LinearOrder K] in
theorem variance_congr (h : l.Perm l') : variance l = variance l' := by
  rw [variance, variance, mean_congr h]
  exact mean_congr (h.map _)

end Order

/-! ### The unit -/

section Unit

variable (c : K) (l : List K)

omit [LinearOrder K] in
theorem mean_scale : mean (l.map (c * ·)) = c * mean l := by
  rw [mean, mean, List.sum_map_mul_left, List.map_id', List.length_map, mul_div_assoc]

omit [LinearOrder K] in
/-- The variance follows the square of the unit. -/
theorem variance_scale : variance (l.map (c * ·)) = c ^ 2 * variance l := by
  have hscale := mean_scale (c ^ 2) (l.map fun a => (a - mean l) ^ 2)
  rw [variance, variance, mean_scale, ← hscale, List.map_map, List.map_map]
  refine congrArg mean (List.map_congr_left fun a _ => ?_)
  simp only [Function.comp_apply]
  ring

variable [IsStrictOrderedRing K] {c} (hc : 0 ≤ c)
include hc

theorem nth_scale (i : ℕ) : nth (l.map (c * ·)) i = c * nth l i := by
  have hmono : Monotone (c * · : K → K) := fun a b h => mul_le_mul_of_nonneg_left h hc
  have hget := List.getD_map (f := (c * · : K → K)) (l := sorted l) (n := i) (d := 0)
  rw [nth, sorted_map hmono, nth, ← hget, mul_zero]

theorem median_scale : median (l.map (c * ·)) = c * median l := by
  simp only [median, List.length_map, nth_scale l hc]
  split
  · rfl
  · ring

theorem quantile_scale (n i : ℕ) : quantile n i (l.map (c * ·)) = c * quantile n i l := by
  simp only [quantile, List.length_map, nth_scale l hc]
  ring

end Unit

end Statistics

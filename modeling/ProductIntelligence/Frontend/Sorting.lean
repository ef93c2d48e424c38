import ProductIntelligence.Lists.StableSort
import ProductIntelligence.Products.Metadata
import ProductIntelligence.Text.JavaScript

/-!
# Sorting search results in the browser

The back end returns results by relevance; the front end sorts the page it has by relevance, price
or name, in either direction.  What a result is sorted by is read from its payload field by field.

A missing price is sorted as `Infinity` and a missing name as the empty text, and the direction is
applied to the comparison with these too.  So descending prices have the missing ones first, and
ascending names have the missing ones first.

How two texts compare depends on the locale.  It is a parameter, of which only the consistency is
used that the language promises.

## Main definitions

* `readProductMeta` — the fields of a payload.
* `Collator` — how texts compare in a locale.
* `sortResults` — the results in the order of a key.
* `Sorts` — what it means that results are sorted, the missing values last.
* `MissingComeLast` — the results whose missing values the sort keeps last.

## Main results

* `sortResults_sorts_iff` — **when the results are sorted with the missing values last**.

## References

`frontend/src/features/products/sorting.ts`, `frontend/src/lib/api/product-metadata.ts`.
-/

namespace ProductIntelligence
namespace Frontend

open StableSort

/-! ### Reading a payload -/

/-- `ProductMeta`. -/
structure ProductMeta where
  name : Option Text
  brand : Option Text
  category : Option Text
  price : Option ℚ
  description : Option Text
  color : Option Text
  material : Option Text
  gender : Option Text
  season : Option Text
  style : Option Text
  tags : List Text
  qualityScore : Option ℚ

/-- `str`: a string that is not blank, as it is. -/
def str : JsonValue → Option Text
  | .str text => if JavaScript.trim text ≠ [] then some text else none
  | .null => none
  | .bool _ => none
  | .int _ => none
  | .float _ => none
  | .list _ => none
  | .dict _ => none

/-- `num`: a finite number.  An integer is read as the number nearest to it, which is infinite where
the integer is too large. -/
def num : JsonValue → Option ℚ
  | .int n => (floatOfInt n).bind Double.finite?
  | .float x => x.finite?
  | .null => none
  | .bool _ => none
  | .str _ => none
  | .list _ => none
  | .dict _ => none

/-- `stringList`: the strings of an array. -/
def stringList (value : JsonValue) : List Text := value.strings

/-- `readProductMeta`. -/
def readProductMeta (metadata : Option Metadata) : ProductMeta :=
  let m := metadata.getD []
  { name := str (m.get "name")
    brand := str (m.get "brand")
    category := str (m.get "category")
    price := num (m.get "price")
    description := str (m.get "description")
    color := str (m.get "color")
    material := str (m.get "material")
    gender := str (m.get "gender")
    season := str (m.get "season")
    style := str (m.get "style")
    tags := stringList (m.get "tags")
    qualityScore := num (m.get "quality_score") }

/-! ### Sorting -/

/-- `SortKey`. -/
inductive SortKey
  | relevance
  | price
  | name
  deriving DecidableEq

/-- `SortDir`. -/
inductive SortDir
  | asc
  | desc
  deriving DecidableEq

/-- `ProductSearchResult`. -/
structure ProductSearchResult where
  productId : Text
  score : ℚ
  matchedModalities : List Text
  metadata : Metadata

/-- How texts compare in a locale: `s.localeCompare(t)` is negative, zero or positive, and a
consistent comparison. -/
structure Collator where
  localeCompare : Text → Text → Ordering
  isConsistent : Std.TransCmp localeCompare

/-- `x * factor`, where `factor` is `1` or `-1`. -/
def SortDir.times : SortDir → Double → Double
  | .asc, x => x
  | .desc, x => x.neg

/-- A comparison as a number. -/
def ofOrdering : Ordering → Double
  | .lt => .finite (-1)
  | .eq => .finite 0
  | .gt => .finite 1

/-- What `sort` takes a number that a comparator returns for, `NaN` as zero. -/
def comparison : Double → Ordering
  | .finite q => compare q 0
  | .infinity negative => if negative then .lt else .gt
  | .nan => .eq

/-- `price ?? Infinity`. -/
def orInfinity : Option ℚ → Double
  | some q => .finite q
  | none => .infinity false

/-- `name ?? ""`. -/
def orEmpty : Option Text → Text
  | some text => text
  | none => []

/-- What a result is sorted by as its price. -/
def ProductSearchResult.price (result : ProductSearchResult) : Option ℚ :=
  (readProductMeta (some result.metadata)).price

/-- What a result is sorted by as its name. -/
def ProductSearchResult.name (result : ProductSearchResult) : Option Text :=
  (readProductMeta (some result.metadata)).name

/-- The comparator of `sortResults`. -/
def comparator (collator : Collator) (dir : SortDir) (a b : ProductSearchResult) : SortKey → Double
  | .relevance => dir.times ((Double.finite a.score).sub (.finite b.score))
  | .price => dir.times ((orInfinity a.price).sub (orInfinity b.price))
  | .name => dir.times (ofOrdering (collator.localeCompare (orEmpty a.name) (orEmpty b.name)))

/-- `sortResults`. -/
def sortResults (collator : Collator) (results : List ProductSearchResult) (key : SortKey)
    (dir : SortDir) : List ProductSearchResult :=
  results.insertionSort fun a b => comparison (comparator collator dir a b key) ≠ .gt

/-! ### What the results are sorted by -/

/-- An order in a direction. -/
def SortDir.orders {κ : Type*} (le : κ → κ → Prop) : SortDir → κ → κ → Prop
  | .asc, x, y => le x y
  | .desc, x, y => le y x

instance {κ : Type*} (le : κ → κ → Prop) [Std.Total le] (dir : SortDir) :
    Std.Total (dir.orders le) := by
  cases dir with
  | asc => exact ⟨fun x y => total_of le x y⟩
  | desc => exact ⟨fun x y => total_of le y x⟩

instance {κ : Type*} (le : κ → κ → Prop) [IsTrans κ le] (dir : SortDir) :
    IsTrans κ (dir.orders le) := by
  cases dir with
  | asc => exact ⟨fun _ _ _ hxy hyz => trans_of le hxy hyz⟩
  | desc => exact ⟨fun _ _ _ hxy hyz => trans_of le hyz hxy⟩

namespace Collator

variable (collator : Collator)

/-- The text does not come after the other. -/
def LE (s t : Text) : Prop := collator.localeCompare s t ≠ .gt

theorem le_iff_isLE (s t : Text) : collator.LE s t ↔ (collator.localeCompare s t).isLE :=
  Ordering.isLE_iff_ne_gt.symm

instance : Std.Total collator.LE := by
  have := collator.isConsistent
  refine ⟨fun s t => ?_⟩
  unfold LE
  rw [@Std.OrientedCmp.eq_swap _ collator.localeCompare _ t s]
  cases collator.localeCompare s t with
  | lt => exact Or.inl nofun
  | eq => exact Or.inl nofun
  | gt => exact Or.inr nofun

instance : IsTrans Text collator.LE := by
  have := collator.isConsistent
  refine ⟨fun s t u hst htu => ?_⟩
  rw [le_iff_isLE] at hst htu ⊢
  exact Std.TransCmp.isLE_trans hst htu

end Collator

/-- The results are sorted: by the key, in the direction, the missing values last, equal ones in
their order. -/
def Sorts (collator : Collator) (dir : SortDir) (results sorted : List ProductSearchResult) :
    SortKey → Prop
  | .relevance => IsSortedBy (fun r => some r.score) (dir.orders (· ≤ ·)) results sorted
  | .price => IsSortedBy ProductSearchResult.price (dir.orders (· ≤ ·)) results sorted
  | .name => IsSortedBy ProductSearchResult.name (dir.orders collator.LE) results sorted

/-- Descending prices are all there or all missing.  Between a name and a missing name, the empty
text compares after the name in the direction, or as equal to it where the missing name comes second
anyway. -/
def MissingComeLast (collator : Collator) (results : List ProductSearchResult) :
    SortKey → SortDir → Prop
  | .relevance, _ => True
  | .price, .asc => True
  | .price, .desc => (∀ r ∈ results, r.price = none) ∨ ∀ r ∈ results, r.price ≠ none
  | .name, .asc =>
    results.Pairwise fun a b =>
      (a.name = none → ∀ n ∈ b.name, collator.localeCompare [] n = .gt) ∧
        (b.name = none → ∀ n ∈ a.name, collator.localeCompare n [] ≠ .gt)
  | .name, .desc =>
    results.Pairwise fun a b =>
      (a.name = none → ∀ n ∈ b.name, collator.localeCompare n [] = .gt) ∧
        (b.name = none → ∀ n ∈ a.name, collator.localeCompare [] n ≠ .gt)

/-- Missing prices are sorted as infinite ones. -/
theorem comparison_sub_ne_gt_iff (p q : Option ℚ) :
    comparison ((orInfinity p).sub (orInfinity q)) ≠ .gt ↔
      standIn ((↑) : ℚ → WithTop ℚ) ⊤ p ≤ standIn (↑) ⊤ q := by
  cases p with
  | none => cases q <;> simp [orInfinity, Double.sub, comparison, standIn]
  | some x =>
    cases q with
    | none => simp [orInfinity, Double.sub, comparison, standIn]
    | some y =>
      simp only [orInfinity, Double.sub, comparison, standIn]
      rw [compare_le_iff_le, sub_nonpos, WithTop.coe_le_coe]

theorem comparison_times_sub_ne_gt_iff (dir : SortDir) (p q : Option ℚ) :
    comparison (dir.times ((orInfinity p).sub (orInfinity q))) ≠ .gt ↔
      dir.orders (· ≤ ·) (standIn ((↑) : ℚ → WithTop ℚ) ⊤ p) (standIn (↑) ⊤ q) := by
  cases dir with
  | asc => exact comparison_sub_ne_gt_iff p q
  | desc =>
    rw [SortDir.times, Double.neg_sub]
    exact comparison_sub_ne_gt_iff q p

theorem comparison_ofOrdering (o : Ordering) : comparison (ofOrdering o) = o := by
  cases o <;> decide +kernel

theorem comparison_neg_ofOrdering (o : Ordering) :
    comparison (ofOrdering o).neg = o.swap := by
  cases o <;> decide +kernel

theorem comparison_times_ofOrdering_ne_gt_iff (collator : Collator) (dir : SortDir) (s t : Text) :
    comparison (dir.times (ofOrdering (collator.localeCompare s t))) ≠ .gt ↔
      dir.orders collator.LE s t := by
  cases dir with
  | asc =>
    rw [SortDir.times, comparison_ofOrdering]
    rfl
  | desc =>
    have := collator.isConsistent
    rw [SortDir.times, comparison_neg_ofOrdering,
      ← @Std.OrientedCmp.eq_swap _ collator.localeCompare]
    rfl

/-! ### Whether the missing values come last -/

/-- Every result has a score. -/
theorem sorts_relevance (collator : Collator) (dir : SortDir) (results : List ProductSearchResult) :
    Sorts collator dir results (sortResults collator results .relevance dir) .relevance := by
  refine (isSortedBy_insertionSort_iff (dir.orders (· ≤ ·)) (fun q : ℚ => (q : WithTop ℚ)) ⊤
    (fun x y => ?_) fun a b => ?_).2 ?_
  · cases dir <;> simp [SortDir.orders]
  · exact comparison_times_sub_ne_gt_iff dir (some a.score) (some b.score)
  · exact List.pairwise_of_forall fun a b => ⟨nofun, nofun⟩

theorem sorts_price_iff (collator : Collator) (dir : SortDir) (results : List ProductSearchResult) :
    Sorts collator dir results (sortResults collator results .price dir) .price ↔
      results.Pairwise fun a b =>
        (a.price = none → ∀ y ∈ b.price, ¬ dir.orders (· ≤ ·) ⊤ ((y : ℚ) : WithTop ℚ)) ∧
          (b.price = none → ∀ x ∈ a.price, dir.orders (· ≤ ·) ((x : ℚ) : WithTop ℚ) ⊤) := by
  refine isSortedBy_insertionSort_iff (dir.orders (· ≤ ·)) (fun q : ℚ => (q : WithTop ℚ)) ⊤
    (fun x y => ?_) fun a b => ?_
  · cases dir <;> simp [SortDir.orders]
  · exact comparison_times_sub_ne_gt_iff dir a.price b.price

/-- Ascending, the infinity of a missing price comes after every price. -/
theorem sorts_price_asc (collator : Collator) (results : List ProductSearchResult) :
    Sorts collator .asc results (sortResults collator results .price .asc) .price := by
  refine (sorts_price_iff collator .asc results).2 (List.pairwise_of_forall fun a b => ⟨?_, ?_⟩)
  · intro _ y _
    exact not_le.2 (WithTop.coe_lt_top y)
  · intro _ x _
    exact le_top

/-- Descending, it comes before every price. -/
theorem sorts_price_desc_iff (collator : Collator) (results : List ProductSearchResult) :
    Sorts collator .desc results (sortResults collator results .price .desc) .price ↔
      (∀ r ∈ results, r.price = none) ∨ ∀ r ∈ results, r.price ≠ none := by
  rw [sorts_price_iff, ← pairwise_iff_all_or_none]
  refine List.Pairwise.iff fun a b => ?_
  cases a.price with
  | none => cases b.price <;> simp [SortDir.orders]
  | some x => cases b.price <;> simp [SortDir.orders]

theorem sorts_name_iff (collator : Collator) (dir : SortDir) (results : List ProductSearchResult) :
    Sorts collator dir results (sortResults collator results .name dir) .name ↔
      results.Pairwise fun a b =>
        (a.name = none → ∀ n ∈ b.name, ¬ dir.orders collator.LE [] n) ∧
          (b.name = none → ∀ n ∈ a.name, dir.orders collator.LE n []) := by
  refine isSortedBy_insertionSort_iff (dir.orders collator.LE) id [] (fun _ _ => Iff.rfl)
    fun a b => ?_
  have hstandIn : ∀ name : Option Text, orEmpty name = standIn id [] name := by
    intro name
    cases name <;> rfl
  rw [← hstandIn, ← hstandIn]
  exact comparison_times_ofOrdering_ne_gt_iff collator dir _ _

/-- **The results are sorted with the missing values last** if and only if the sentinels of the
missing values are sorted last. -/
theorem sortResults_sorts_iff (collator : Collator) (results : List ProductSearchResult)
    (key : SortKey) (dir : SortDir) :
    Sorts collator dir results (sortResults collator results key dir) key ↔
      MissingComeLast collator results key dir := by
  cases key with
  | relevance => exact iff_of_true (sorts_relevance collator dir results) trivial
  | price =>
    cases dir with
    | asc => exact iff_of_true (sorts_price_asc collator results) trivial
    | desc => exact sorts_price_desc_iff collator results
  | name =>
    rw [sorts_name_iff]
    cases dir <;> simp only [SortDir.orders, Collator.LE, not_not, MissingComeLast]

/-! ### Where the empty text comes first -/

/-- A text that is read is not empty. -/
theorem ne_nil_of_mem_str {value : JsonValue} {n : Text} (h : n ∈ str value) : n ≠ [] := by
  intro hnil
  cases value with
  | str text =>
    rw [str] at h
    split_ifs at h with htrim
    · cases h
      rw [hnil] at htrim
      exact htrim rfl
    · cases h
  | _ => cases h

theorem ne_nil_of_mem_name {result : ProductSearchResult} {n : Text} (h : n ∈ result.name) :
    n ≠ [] := ne_nil_of_mem_str h

/-- Where the empty text comes first, ascending names are kept in order only if all are there or all
are missing. -/
theorem missingComeLast_name_asc_iff {collator : Collator} {results : List ProductSearchResult}
    (hempty : ∀ n, n ≠ [] → collator.localeCompare [] n = .lt) :
    MissingComeLast collator results .name .asc ↔
      (∀ r ∈ results, r.name = none) ∨ ∀ r ∈ results, r.name ≠ none := by
  have := collator.isConsistent
  have hgt : ∀ n, n ≠ [] → collator.localeCompare n [] = .gt := fun n hn =>
    Std.OrientedCmp.gt_of_lt (hempty n hn)
  rw [← pairwise_iff_all_or_none]
  refine List.Pairwise.iff fun a b => ?_
  have ha := @ne_nil_of_mem_name a
  have hb := @ne_nil_of_mem_name b
  cases hna : a.name with
  | none =>
    cases hnb : b.name with
    | none => simp
    | some n => simp [hempty n (hb hnb)]
  | some m =>
    cases hnb : b.name with
    | none => simp [hgt m (ha hna)]
    | some n => simp

/-- There descending names have the missing ones last. -/
theorem missingComeLast_name_desc {collator : Collator} (results : List ProductSearchResult)
    (hempty : ∀ n, n ≠ [] → collator.localeCompare [] n = .lt) :
    MissingComeLast collator results .name .desc := by
  have := collator.isConsistent
  refine List.pairwise_of_forall fun a b => ⟨fun _ n hn => ?_, fun _ n hn => ?_⟩
  · exact Std.OrientedCmp.gt_of_lt (hempty n (ne_nil_of_mem_name hn))
  · rw [hempty n (ne_nil_of_mem_name hn)]
    nofun

/-! ### A missing price first -/

/-- Texts compared by their code points. -/
def codePointOrder : Collator where
  localeCompare := List.compareLex compare
  isConsistent := inferInstance

example : MissingComeLast codePointOrder [] .name .desc :=
  missingComeLast_name_desc [] fun n hn => by
    cases n with
    | nil => exact absurd rfl hn
    | cons c n => rfl

namespace OnePrice

def priced : ProductSearchResult where
  productId := "a".toList
  score := 9 / 10
  matchedModalities := ["text".toList]
  metadata := [("name".toList, .str "Alpha".toList), ("price".toList, .float (.finite 30))]

def unpriced : ProductSearchResult where
  productId := "c".toList
  score := 7 / 10
  matchedModalities := ["text".toList]
  metadata := [("name".toList, .str "Charlie".toList)]

end OnePrice

open OnePrice in
/-- By descending price, the product without a price comes first. -/
theorem sortResults_missing_price_first :
    sortResults codePointOrder [priced, unpriced] .price .desc = [unpriced, priced] ∧
      ¬ Sorts codePointOrder .desc [priced, unpriced]
        (sortResults codePointOrder [priced, unpriced] .price .desc) .price := by
  have hpriced : priced.price = some 30 := by decide +kernel
  have hunpriced : unpriced.price = none := by decide +kernel
  have hsorted : sortResults codePointOrder [priced, unpriced] .price .desc = [unpriced, priced] :=
    rfl
  refine ⟨hsorted, fun h => ?_⟩
  rw [sorts_price_desc_iff] at h
  rcases h with hnone | hsome
  · exact absurd (hnone priced (by simp)) (by rw [hpriced]; nofun)
  · exact hsome unpriced (by simp) hunpriced

end Frontend
end ProductIntelligence

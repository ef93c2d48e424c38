import Mathlib.Data.List.Infix
import Mathlib.Tactic.Common

/-!
# Searching a list for a whole word

The leftmost place where a word occurs in a list with a boundary on either side, a boundary
being where exactly one of the two neighbours is a word element.  This is what a search for
the regular expression `\bword\b` finds.

## Main definitions

* `boundary isWord l i` — there is a boundary before position `i`.
* `matchesAt isWord w l i` — the whole word `w` stands at position `i`.
* `search isWord w l` — the first position where it stands.
* `StandsAt isWord w l i` — where a whole word stands, without computing it.

## Main results

* `search_eq_some_iff`, `search_eq_none_iff` — what a search finds.
* `prefix_or_prefix` — words at one place begin alike.
* `search_append` — what is appended is not searched if it holds no word element.
-/

namespace WordSearch

variable {α : Type*} [DecidableEq α] (isWord : α → Bool)

omit [DecidableEq α] in
/-- There is a word element at position `i`. -/
def isWordAt (l : List α) (i : ℕ) : Bool := l[i]?.any isWord

omit [DecidableEq α] in
/-- Exactly one of the neighbours of the gap before position `i` is a word element. -/
def boundary (l : List α) (i : ℕ) : Bool :=
  (i ≠ 0 && isWordAt isWord l (i - 1)) != isWordAt isWord l i

/-- The word `w` stands at position `i`, with a boundary on either side. -/
def matchesAt (w l : List α) (i : ℕ) : Bool :=
  boundary isWord l i && w.isPrefixOf (l.drop i) && boundary isWord l (i + w.length)

/-- The first position where the word `w` stands. -/
def search (w l : List α) : Option ℕ :=
  (List.range (l.length + 1)).find? (matchesAt isWord w l)

/-! ### Appending what is no word -/

variable {isWord : α → Bool} {l t w : List α}

omit [DecidableEq α] in
theorem isWordAt_append (ht : ∀ a ∈ t, isWord a = false) (i : ℕ) :
    isWordAt isWord (l ++ t) i = isWordAt isWord l i := by
  unfold isWordAt
  by_cases hi : i < l.length
  · rw [List.getElem?_append_left hi]
  · rw [List.getElem?_append_right (by omega), List.getElem?_eq_none (by omega : l.length ≤ i)]
    cases hget : t[i - l.length]? with
    | none => rfl
    | some a => exact ht a (List.mem_of_getElem? hget)

omit [DecidableEq α] in
theorem boundary_append (ht : ∀ a ∈ t, isWord a = false) (i : ℕ) :
    boundary isWord (l ++ t) i = boundary isWord l i := by
  unfold boundary
  rw [isWordAt_append ht, isWordAt_append ht]

omit [DecidableEq α] in
/-- A word that ends in a word element ends before what is appended. -/
theorem prefix_append_iff (ht : ∀ a ∈ t, isWord a = false) {a : α} (ha : a ∈ w.getLast?)
    (hword : isWord a) : w <+: l ++ t ↔ w <+: l := by
  refine ⟨fun h => ?_, List.prefix_append_of_prefix⟩
  rcases List.prefix_or_prefix_of_prefix h (List.prefix_append l t) with hshort | ⟨t', rfl⟩
  · exact hshort
  · cases t' with
    | nil => rw [List.append_nil]
    | cons b t' =>
      -- the last element would lie in what is appended
      have hpre : b :: t' <+: t := (List.prefix_append_right_inj l).1 h
      rw [List.getLast?_append_of_ne_nil _ (List.cons_ne_nil b t')] at ha
      have hmem : a ∈ t := hpre.subset (List.mem_of_getLast? ha)
      rw [ht a hmem] at hword
      cases hword

variable {a : α}

theorem matchesAt_append (ht : ∀ a ∈ t, isWord a = false) (ha : a ∈ w.getLast?)
    (hword : isWord a) (i : ℕ) : matchesAt isWord w (l ++ t) i = matchesAt isWord w l i := by
  have hpre : w.isPrefixOf ((l ++ t).drop i) = w.isPrefixOf (l.drop i) := by
    rw [Bool.eq_iff_iff, List.isPrefixOf_iff_prefix, List.isPrefixOf_iff_prefix, List.drop_append]
    exact prefix_append_iff (fun b hb => ht b (List.mem_of_mem_drop hb)) ha hword
  unfold matchesAt
  rw [boundary_append ht, boundary_append ht, hpre]

/-- A word does not stand beyond the end. -/
theorem matchesAt_of_length_lt (ha : a ∈ w.getLast?) {i : ℕ} (hi : l.length < i) :
    matchesAt isWord w l i = false := by
  have hpre : w.isPrefixOf (l.drop i) = false := by
    rw [List.drop_eq_nil_of_le hi.le, Bool.eq_false_iff]
    intro h
    rw [List.prefix_nil.1 (List.isPrefixOf_iff_prefix.1 h)] at ha
    cases ha
  unfold matchesAt
  rw [hpre, Bool.and_false, Bool.false_and]

/-- **Appending what holds no word element changes no search** for a word that ends in one. -/
theorem search_append (ht : ∀ a ∈ t, isWord a = false) (ha : a ∈ w.getLast?)
    (hword : isWord a) : search isWord w (l ++ t) = search isWord w l := by
  have hmatches : matchesAt isWord w (l ++ t) = matchesAt isWord w l :=
    funext (matchesAt_append ht ha hword)
  unfold search
  rw [hmatches, List.length_append, Nat.add_right_comm, List.range_add, List.find?_append]
  have hbeyond : ((List.range t.length).map (l.length + 1 + ·)).find? (matchesAt isWord w l) =
      none := by
    rw [List.find?_eq_none]
    intro i hi
    obtain ⟨j, -, rfl⟩ := List.mem_map.1 hi
    rw [matchesAt_of_length_lt ha (by omega)]
    exact Bool.false_ne_true
  rw [hbeyond, Option.or_none]

/-! ### What is found -/

variable (isWord) in
omit [DecidableEq α] in
/-- Exactly one of the neighbours of the gap between two lists is a word element. -/
def Edge (s t : List α) : Prop := s.getLast?.any isWord ≠ t.head?.any isWord

variable (isWord) in
omit [DecidableEq α] in
/-- The whole word `w` stands in the list `l`, with so many elements before it. -/
def StandsAt (w l : List α) (i : ℕ) : Prop :=
  ∃ s t, l = s ++ (w ++ t) ∧ s.length = i ∧ Edge isWord s (w ++ t) ∧ Edge isWord (s ++ w) t

omit [DecidableEq α] in
theorem boundary_length_iff (s t : List α) :
    boundary isWord (s ++ t) s.length = true ↔ Edge isWord s t := by
  have hafter : isWordAt isWord (s ++ t) s.length = t.head?.any isWord := by
    unfold isWordAt
    rw [List.getElem?_append_right le_rfl, Nat.sub_self, List.head?_eq_getElem?]
  have hbefore : (decide (s.length ≠ 0) && isWordAt isWord (s ++ t) (s.length - 1)) =
      s.getLast?.any isWord := by
    unfold isWordAt
    rcases Nat.eq_zero_or_pos s.length with hs | hs
    · rw [List.length_eq_zero_iff.1 hs]
      rfl
    · rw [List.getElem?_append_left (by omega), List.getLast?_eq_getElem?]
      simp [hs.ne']
  unfold boundary Edge
  rw [hafter, hbefore, bne_iff_ne]

omit [DecidableEq α] in
theorem le_length_of_boundary {i : ℕ} (h : boundary isWord l i = true) : i ≤ l.length := by
  by_contra hlt
  have hout : ∀ j, l.length ≤ j → isWordAt isWord l j = false := by
    intro j hj
    unfold isWordAt
    rw [List.getElem?_eq_none hj]
    rfl
  unfold boundary at h
  rw [hout i (by omega), hout (i - 1) (by omega), Bool.and_false] at h
  cases h

theorem matchesAt_iff {i : ℕ} : matchesAt isWord w l i = true ↔ StandsAt isWord w l i := by
  unfold matchesAt
  rw [Bool.and_eq_true, Bool.and_eq_true, List.isPrefixOf_iff_prefix]
  constructor
  · rintro ⟨⟨hstart, t, ht⟩, hend⟩
    have hlen : (l.take i).length = i := List.length_take_of_le (le_length_of_boundary hstart)
    have hl : l = l.take i ++ (w ++ t) := by rw [ht, List.take_append_drop]
    refine ⟨l.take i, t, hl, hlen, (boundary_length_iff _ _).1 ?_, (boundary_length_iff _ _).1 ?_⟩
    · rw [← hl, hlen]
      exact hstart
    · rw [List.append_assoc, ← hl, List.length_append, hlen]
      exact hend
  · rintro ⟨s, t, rfl, rfl, hstart, hend⟩
    refine ⟨⟨(boundary_length_iff _ _).2 hstart, ?_⟩, ?_⟩
    · rw [List.drop_left]
      exact List.prefix_append w t
    · rw [← List.append_assoc, ← List.length_append]
      exact (boundary_length_iff _ _).2 hend

/-- **What a search finds**: the first place where the word stands. -/
theorem search_eq_some_iff {i : ℕ} : search isWord w l = some i ↔
    StandsAt isWord w l i ∧ ∀ j, StandsAt isWord w l j → i ≤ j := by
  unfold search
  rw [List.find?_range_eq_some]
  constructor
  · rintro ⟨hi, -, hbefore⟩
    refine ⟨matchesAt_iff.1 hi, fun j hj => ?_⟩
    by_contra hlt
    have hno := hbefore j (by omega)
    rw [matchesAt_iff.2 hj] at hno
    cases hno
  · rintro ⟨hi, hbefore⟩
    refine ⟨matchesAt_iff.2 hi, ?_, fun j hj => ?_⟩
    · obtain ⟨s, t, rfl, rfl, -⟩ := hi
      rw [List.mem_range, List.length_append]
      omega
    · rw [Bool.not_eq_true', Bool.eq_false_iff]
      intro hmatch
      have hle := hbefore j (matchesAt_iff.1 hmatch)
      omega

/-- A search fails when the word stands nowhere. -/
theorem search_eq_none_iff : search isWord w l = none ↔ ∀ i, ¬ StandsAt isWord w l i := by
  unfold search
  rw [List.find?_eq_none]
  constructor
  · intro h i hi
    obtain ⟨s, t, rfl, rfl, -⟩ := id hi
    exact h s.length (List.mem_range.2 (by rw [List.length_append]; omega)) (matchesAt_iff.2 hi)
  · intro h i _ hmatch
    exact h i (matchesAt_iff.1 hmatch)

omit [DecidableEq α] in
/-- Of two words that stand at one place one begins with the other. -/
theorem prefix_or_prefix {w' : List α} {i : ℕ} (h : StandsAt isWord w l i)
    (h' : StandsAt isWord w' l i) : w <+: w' ∨ w' <+: w := by
  obtain ⟨s, t, rfl, hs, -⟩ := h
  obtain ⟨s', t', hl, hs', -⟩ := h'
  obtain ⟨-, hrest⟩ := List.append_inj hl (hs.trans hs'.symm)
  exact List.prefix_or_prefix_of_prefix (List.prefix_append w t) (hrest ▸ List.prefix_append w' t')

end WordSearch

import ProductIntelligence.Text.Keywords

/-!
# A lowercased text is its own lowercase

The code points that the tables of lowercase forms yield are in the domain of none of them, and
none of them is white space.  So the trimmed lowercase of a text is its own trimmed lowercase.

## Main definitions

* `IsLower` — a character that is its own lowercase in any context.
* `CaseRun.Misses` — no code point a run yields is in the domain of another.

## Main results

* `isLower_of_mem_lowerChar` — lowercasing yields characters that are their own lowercase.
* `lower_idem` — **a lowercased text is its own lowercase**.
* `lower_strip_idem` — so is a trimmed one.
-/

namespace ProductIntelligence

open Words

/-- A character that is its own lowercase, wherever it stands. -/
def IsLower (c : Char) : Prop := mapCase lowerRuns lowerSpecial c = [c] ∧ c.toNat ≠ 931

theorem lowerChar_of_isLower {c : Char} (h : IsLower c) (before after : Text) :
    lowerChar before c after = [c] := by
  rw [lowerChar, if_neg h.2, h.1]

theorem lower_of_isLower {s : Text} (h : ∀ c ∈ s, IsLower c) : lower s = s := by
  suffices hafter : ∀ before, lowerAfter before s = s from hafter []
  induction s with
  | nil => exact fun _ => rfl
  | cons c s ih =>
    intro before
    rw [lowerAfter, lowerChar_of_isLower (h c (List.mem_cons_self ..)),
      ih (fun d hd => h d (List.mem_cons_of_mem c hd)), List.singleton_append]

/-! ### What the tables yield -/

/-- No code point that the first run yields is in the domain of the second. -/
def CaseRun.Misses (r r' : CaseRun) : Bool :=
  Nat.blt (r.last + r.shift).toNat r'.first || Nat.blt r'.last (r.first + r.shift).toNat ||
    ((r.step = 2 || r.first = r.last) && r'.step = 2 && (r.first + r.shift - r'.first) % 2 ≠ 0)

theorem CaseRun.apply?_eq_some {r : CaseRun} {n m : ℕ} :
    r.apply? n = some m ↔
      (r.first ≤ n ∧ n ≤ r.last ∧ (n - r.first) % r.step = 0) ∧ (n + r.shift).toNat = m := by
  unfold CaseRun.apply?
  split
  · next h => simp [h]
  · next h => simp [h]

theorem CaseRun.apply?_eq_none_of_misses {r r' : CaseRun} (h : r.Misses r') {n m : ℕ}
    (hm : r.apply? n = some m) (hshift : 0 ≤ r.first + r.shift) : r'.apply? m = none := by
  obtain ⟨⟨hfirst, hlast, hstep⟩, rfl⟩ := CaseRun.apply?_eq_some.1 hm
  refine if_neg ?_
  rintro ⟨hfirst', hlast', hstep'⟩
  simp only [CaseRun.Misses, Bool.or_eq_true, Bool.and_eq_true, decide_eq_true_eq,
    Nat.blt_eq] at h
  rcases h with (h | h) | ⟨⟨htwo, htwo'⟩, h⟩
  · omega
  · omega
  · -- the two run over numbers of different parity
    rw [htwo'] at hstep'
    rcases htwo with htwo | hsingle
    · rw [htwo] at hstep
      omega
    · omega

/-- The domains that what a run yields is compared with: those of the runs, of the exceptions and
of the capital sigma, and white space. -/
def lowerDomains : List CaseRun :=
  ⟨304, 304, 1, 0⟩ :: ⟨931, 931, 1, 0⟩ :: lowerRuns ++ spaceRanges.map fun r => ⟨r.1, r.2, 1, 0⟩

/-- What a run yields are code points of characters. -/
def CaseRun.Valid (r : CaseRun) : Bool :=
  0 ≤ r.first + r.shift && (r.last + r.shift < 0xd800 ||
    0xdfff < r.first + r.shift && r.last + r.shift < 0x110000)

theorem lowerRuns_valid : ∀ r ∈ lowerRuns, r.Valid := List.all_eq_true.1 (by decide +kernel)

theorem lowerRuns_misses : ∀ r ∈ lowerRuns, ∀ r' ∈ lowerDomains, r.Misses r' := by
  have hall : (lowerRuns.all fun r => lowerDomains.all fun r' => r.Misses r') = true := by
    decide +kernel
  simpa only [List.all_eq_true] using hall

/-- A code point that a run yields is that of a character in none of the domains. -/
theorem yield_of_mem_lowerRuns {r : CaseRun} (hr : r ∈ lowerRuns) {n m : ℕ}
    (hm : r.apply? n = some m) :
    (Char.ofNat m).toNat = m ∧ ∀ r' ∈ lowerDomains, r'.apply? m = none := by
  have hvalid := lowerRuns_valid r hr
  simp only [CaseRun.Valid, Bool.and_eq_true, Bool.or_eq_true, decide_eq_true_eq] at hvalid
  refine ⟨?_, fun r' hr' =>
    CaseRun.apply?_eq_none_of_misses (lowerRuns_misses r hr r' hr') hm hvalid.1⟩
  obtain ⟨⟨hfirst, hlast, -⟩, rfl⟩ := CaseRun.apply?_eq_some.1 hm
  have hchar : (n + r.shift).toNat.isValidChar := by
    unfold Nat.isValidChar
    omega
  rw [Char.ofNat, dif_pos hchar]
  rfl

/-- What a run yields is its own lowercase and no white space. -/
theorem isLower_yield {r : CaseRun} (hr : r ∈ lowerRuns) {n m : ℕ} (hm : r.apply? n = some m) :
    IsLower (Char.ofNat m) ∧ isSpace (Char.ofNat m) = false := by
  obtain ⟨hchar, hmiss⟩ := yield_of_mem_lowerRuns hr hm
  have hruns : ∀ r' ∈ lowerRuns, r'.apply? m = none := fun r' hr' =>
    hmiss r' (List.mem_append_left _ (List.mem_cons_of_mem _ (List.mem_cons_of_mem _ hr')))
  have hi : m ≠ 304 := by
    rintro rfl
    exact absurd (hmiss ⟨304, 304, 1, 0⟩ (List.mem_cons_self ..)) (by decide)
  have hsigma : m ≠ 931 := by
    rintro rfl
    exact absurd (hmiss ⟨931, 931, 1, 0⟩ (List.mem_cons_of_mem _ (List.mem_cons_self ..)))
      (by decide)
  refine ⟨⟨?_, by rwa [hchar]⟩, ?_⟩
  · have hspecial : lowerSpecial.lookup m = none := by
      rw [lowerSpecial, List.lookup_cons, beq_eq_false_iff_ne.2 hi]
      rfl
    rw [mapCase, hchar, hspecial, List.findSome?_eq_none_iff.2 hruns]
  · rw [← Bool.not_eq_true]
    intro hspace
    obtain ⟨range, hrange, hlo, hhi⟩ := inRanges_iff.1 hspace
    rw [hchar] at hlo hhi
    have hnone := hmiss ⟨range.1, range.2, 1, 0⟩
      (List.mem_append_right _ (List.mem_map_of_mem hrange))
    rw [ CaseRun.apply?, if_pos ⟨hlo, hhi, Nat.mod_one _⟩] at hnone
    cases hnone

/-- **Lowercasing yields characters that are their own lowercase**, and white space only for white
space. -/
theorem isLower_of_mem_lowerChar {before after : Text} {c d : Char}
    (hd : d ∈ lowerChar before c after) : IsLower d ∧ (isSpace d → isSpace c) := by
  unfold lowerChar at hd
  split at hd
  · -- the two small sigmas
    split at hd
    · cases List.mem_singleton.1 hd
      exact ⟨⟨by decide +kernel, by decide⟩, fun h => absurd h (by decide)⟩
    · cases List.mem_singleton.1 hd
      exact ⟨⟨by decide +kernel, by decide⟩, fun h => absurd h (by decide)⟩
  · next hsigma =>
    unfold mapCase at hd
    split at hd
    · next ns hns =>
      have hns' : ns = [105, 775] := by
        rw [lowerSpecial, List.lookup_cons] at hns
        split at hns
        · exact (Option.some.inj hns).symm
        · cases hns
      subst hns'
      rcases List.mem_cons.1 hd with rfl | hd
      · exact ⟨⟨by decide +kernel, by decide⟩, fun h => absurd h (by decide)⟩
      · cases List.mem_singleton.1 hd
        exact ⟨⟨by decide +kernel, by decide⟩, fun h => absurd h (by decide)⟩
    · next hspecial =>
      split at hd
      · next m hm =>
        obtain ⟨r, hr, hm⟩ := List.exists_of_findSome?_eq_some hm
        cases List.mem_singleton.1 hd
        obtain ⟨hlower, hspace⟩ := isLower_yield hr hm
        exact ⟨hlower, fun h => absurd h (by rw [hspace]; exact Bool.false_ne_true)⟩
      · next hruns =>
        cases List.mem_singleton.1 hd
        exact ⟨⟨by rw [mapCase, hspecial, hruns], hsigma⟩, id⟩

/-! ### Texts -/

theorem isLower_of_mem_lowerAfter {before s : Text} {d : Char} (hd : d ∈ lowerAfter before s) :
    IsLower d := by
  induction s generalizing before with
  | nil => cases hd
  | cons c s ih =>
    rw [lowerAfter, List.mem_append] at hd
    exact hd.elim (fun hd => (isLower_of_mem_lowerChar hd).1) ih

/-- **A lowercased text is its own lowercase.** -/
theorem lower_idem (s : Text) : lower (lower s) = lower s :=
  lower_of_isLower fun _ hd => isLower_of_mem_lowerAfter hd

/-- The last character of a text is lowercased last. -/
theorem exists_lowerAfter_concat (before s : Text) (c : Char) :
    ∃ t before', lowerAfter before (s ++ [c]) = t ++ lowerChar before' c [] := by
  induction s generalizing before with
  | nil => exact ⟨[], before, by simp [lowerAfter]⟩
  | cons d s ih =>
    obtain ⟨t, before', ht⟩ := ih (d :: before)
    refine ⟨lowerChar before d (s ++ [c]) ++ t, before', ?_⟩
    rw [List.cons_append, lowerAfter, ht, List.append_assoc]

/-- Lowercasing a text that neither begins nor ends with white space leaves no white space there
either. -/
theorem strip_lower_strip (s : Text) : strip (lower (strip s)) = lower (strip s) := by
  apply stripBy_eq_self
  · intro d hd hspace
    cases hs : strip s with
    | nil =>
      rw [hs] at hd
      cases hd
    | cons c t =>
      rw [hs, lower, lowerAfter, List.head?_append_of_ne_nil _ (lowerChar_ne_nil [] c t)] at hd
      refine not_of_mem_head?_stripBy (p := isSpace) (l := s) ?_
        ((isLower_of_mem_lowerChar (List.mem_of_mem_head? hd)).2 hspace)
      rw [show stripBy isSpace s = c :: t from hs]
      rfl
  · intro d hd hspace
    rcases List.eq_nil_or_concat (strip s) with hs | ⟨t, c, hs⟩
    · rw [hs] at hd
      cases hd
    · obtain ⟨u, before, hu⟩ := exists_lowerAfter_concat [] t c
      rw [hs, lower, List.concat_eq_append, hu,
        List.getLast?_append_of_ne_nil _ (lowerChar_ne_nil before c [])] at hd
      refine not_of_mem_getLast?_stripBy (p := isSpace) (l := s) ?_
        ((isLower_of_mem_lowerChar (List.mem_of_getLast? hd)).2 hspace)
      rw [show stripBy isSpace s = t.concat c from hs]
      simp

/-- **A trimmed lowercase is its own trimmed lowercase.** -/
theorem lower_strip_idem (s : Text) : lower (strip (lower (strip s))) = lower (strip s) := by
  rw [strip_lower_strip, lower_idem]

end ProductIntelligence

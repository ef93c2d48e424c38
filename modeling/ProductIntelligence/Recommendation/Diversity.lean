import ProductIntelligence.Recommendation.Engine

/-!
# Spreading recommendations over brands

The candidates are grouped by brand, and one of each group is taken in turn.  The first part
says what such a round robin keeps of its input; the second compares the brand it groups by with
the brand the scorer compares.

## Main definitions

* `Diversified` — what a fair and lossless round robin over brands is.
* `Grouped`, `SameBrand` — two candidates are in one group, and are of one brand.
* `OneSpelling` — every brand is written in one way only.

## Main results

* `diversify_fair` — `_diversify` is a fair and lossless round robin.
* `grouped_iff_sameBrand` — groups are brands exactly when every brand has one spelling.

## References

`backend/app/services/recommendation/recommendation_engine_service.py`,
`backend/app/services/recommendation/recommendation_scorer.py`.
-/

namespace ProductIntelligence

variable {ι : Type}

/-! ### Round robin -/

/-- The candidates of a brand group. -/
def ofBrand (brand : Text) (pairs : List (ScoredPair ι)) : List (ScoredPair ι) :=
  pairs.filter fun pair => brandGroup pair = brand

/-- `first` holds the best candidate of every brand, best first. -/
structure BestOfBrands (pairs first : List (ScoredPair ι)) : Prop where
  inOrder : first.Sublist pairs
  nodup : (first.map brandGroup).Nodup
  complete : ∀ pair ∈ pairs, brandGroup pair ∈ first.map brandGroup
  first_of_brand : ∀ pair ∈ first, (ofBrand (brandGroup pair) pairs).head? = some pair
  best : ∀ pair ∈ first, ∀ other ∈ pairs, brandGroup other = brandGroup pair →
    other.2.finalScore ≤ pair.2.finalScore
  sorted : first.Pairwise fun a b => b.2.finalScore ≤ a.2.finalScore

/-- `taken` is a fair and lossless round robin over the brands of `pairs`, cut to `topK`. -/
structure Diversified (pairs : List (ScoredPair ι)) (topK : ℕ) (taken : List (ScoredPair ι)) :
    Prop where
  /-- The loop ends with what is taken. -/
  runs : RoundRobin.Runs ((RoundRobin.groupBy brandGroup pairs).map Prod.snd) topK 0 [] taken
  /-- Distinct candidates are taken, and as many as there are. -/
  subperm : taken.Subperm pairs
  length_eq : taken.length = min topK pairs.length
  /-- What is taken of a brand comes first among the candidates of the brand. -/
  ofBrand_prefix : ∀ brand, ofBrand brand taken <+: ofBrand brand pairs
  /-- A brand gives at most one candidate more than another, unless the other has no more. -/
  fair : ∀ brand brand', (ofBrand brand' taken).length ≤ (ofBrand brand taken).length + 1 ∨
    ofBrand brand taken = ofBrand brand pairs
  /-- The best candidates of the brands are taken first. -/
  firstRound : ∃ first, BestOfBrands pairs first ∧ taken.take first.length = first.take topK

/-- The first candidates of the brands of a sorted list are the best. -/
theorem bestOfBrands_firsts {pairs : List (ScoredPair ι)}
    (hsorted : pairs.Pairwise fun a b => b.2.finalScore ≤ a.2.finalScore) :
    BestOfBrands pairs (RoundRobin.firsts brandGroup pairs) where
  inOrder := RoundRobin.firsts_sublist _ _
  nodup := by
    rw [RoundRobin.map_key_firsts]
    exact RoundRobin.nodup_keys_groupBy _ _
  complete := by
    intro pair hpair
    rw [RoundRobin.map_key_firsts]
    exact RoundRobin.mem_keys_groupBy.2 ⟨pair, hpair, rfl⟩
  first_of_brand := by
    intro pair hpair
    rw [List.head?_eq_getElem?]
    exact (RoundRobin.mem_firsts _ _).1 hpair
  best := by
    intro pair hpair other hother hbrand
    have hfirst := (RoundRobin.mem_firsts _ _).1 hpair
    rw [← List.head?_eq_getElem?, List.head?_eq_some_iff] at hfirst
    obtain ⟨rest, hrest⟩ := hfirst
    have hmem : other ∈ pair :: rest := by
      rw [← hrest]
      exact List.mem_filter.2 ⟨hother, decide_eq_true hbrand⟩
    have hgroup := hsorted.sublist
      (List.filter_sublist (p := fun b => decide (brandGroup b = brandGroup pair)))
    rw [hrest, List.pairwise_cons] at hgroup
    rcases List.mem_cons.1 hmem with rfl | hmem
    · exact le_refl _
    · exact hgroup.1 other hmem
  sorted := hsorted.sublist (RoundRobin.firsts_sublist _ _)

/-- **Diversification is a fair, lossless round robin** over the brands of candidates sorted by
score. -/
theorem diversify_fair {pairs : List (ScoredPair ι)}
    (hsorted : pairs.Pairwise fun a b => b.2.finalScore ≤ a.2.finalScore) (topK : ℕ) :
    Diversified pairs topK (diversify pairs topK) where
  runs := RoundRobin.runs_loop_groupBy _ _ _
  subperm := RoundRobin.loop_groupBy_subperm _ _ _
  length_eq := RoundRobin.length_loop_groupBy _ _ _
  ofBrand_prefix := RoundRobin.filter_loop_groupBy_isPrefix _ _ _
  fair := RoundRobin.loop_groupBy_fair _ _ _
  firstRound := ⟨_, bestOfBrands_firsts hsorted, RoundRobin.take_loop_groupBy _ _ _⟩

/-! ### One notion of brand -/

/-- The brand in the payload of a pair. -/
def payloadBrand (pair : ScoredPair ι) : Option Text := pair.1.metadata.brand

/-- Two candidates of a list are in one group. -/
def Grouped (pairs : List (ScoredPair ι)) (p q : ScoredPair ι) : Prop :=
  ∃ entry ∈ RoundRobin.groupBy brandGroup pairs, p ∈ entry.2 ∧ q ∈ entry.2

/-- Two candidates are of one brand: the scorer says that their brands are the same, or neither
has one. -/
def SameBrand (p q : ScoredPair ι) : Prop :=
  (hasText (payloadBrand p) ∧ hasText (payloadBrand q) ∧
      valuesMatch (payloadBrand p) (payloadBrand q)) ∨
    ¬ hasText (payloadBrand p) ∧ ¬ hasText (payloadBrand q)

/-- Every brand is written in one way, and not in the way that stands for none where a candidate
has none. -/
structure OneSpelling (pairs : List (ScoredPair ι)) : Prop where
  spelling : ∀ p ∈ pairs, ∀ q ∈ pairs, valuesMatch (payloadBrand p) (payloadBrand q) →
    payloadBrand p = payloadBrand q
  unknown : ∀ p ∈ pairs, ∀ q ∈ pairs, payloadBrand p = some "_unknown".toList →
    hasText (payloadBrand q)

/-- Candidates are in one group when they have the same group key. -/
theorem grouped_iff {pairs : List (ScoredPair ι)} {p q : ScoredPair ι} (hp : p ∈ pairs)
    (hq : q ∈ pairs) : Grouped pairs p q ↔ brandGroup p = brandGroup q := by
  constructor
  · rintro ⟨⟨brand, group⟩, hentry, hmemp, hmemq⟩
    obtain ⟨-, rfl⟩ := RoundRobin.mem_groupBy.1 hentry
    have hkeyp := of_decide_eq_true (List.mem_filter.1 hmemp).2
    have hkeyq := of_decide_eq_true (List.mem_filter.1 hmemq).2
    exact hkeyp.trans hkeyq.symm
  · intro hkey
    refine ⟨_, RoundRobin.mem_groupBy.2 ⟨⟨p, hp, rfl⟩, rfl⟩, ?_, ?_⟩
    · exact List.mem_filter.2 ⟨hp, decide_eq_true rfl⟩
    · exact List.mem_filter.2 ⟨hq, decide_eq_true hkey.symm⟩

/-- A candidate with a brand is grouped under it. -/
theorem some_brandGroup {p : ScoredPair ι} (h : hasText (payloadBrand p)) :
    some (brandGroup p) = payloadBrand p := by
  unfold hasText payloadBrand at h
  unfold brandGroup payloadBrand
  cases hbrand : p.1.metadata.brand with
  | none =>
    rw [hbrand] at h
    cases h
  | some brand =>
    rw [hbrand] at h
    exact congrArg some (if_pos (of_decide_eq_true h))

/-- A candidate without a brand is grouped under the text that stands for none. -/
theorem brandGroup_of_not_hasText {p : ScoredPair ι} (h : ¬ hasText (payloadBrand p)) :
    brandGroup p = "_unknown".toList := by
  unfold hasText payloadBrand at h
  unfold brandGroup
  cases hbrand : p.1.metadata.brand with
  | none => rfl
  | some brand =>
    rw [hbrand] at h
    exact if_neg fun hne => h (decide_eq_true hne)

/-- A brand that is not blank is the same as itself. -/
theorem valuesMatch_self {value : Option Text} (h : hasText value) : valuesMatch value value := by
  cases value with
  | none => cases h
  | some text =>
    have hne : lower (strip text) ≠ [] := mt lower_eq_nil.1 (of_decide_eq_true h)
    exact decide_eq_true ⟨hne, hne, rfl⟩

/-- The scorer compares values that are not blank. -/
theorem hasText_of_valuesMatch {a b : Option Text} (h : valuesMatch a b) :
    hasText a ∧ hasText b := by
  cases a with
  | none => cases h
  | some s =>
    cases b with
    | none => cases h
    | some t =>
      obtain ⟨hs, ht, -⟩ := of_decide_eq_true h
      exact ⟨decide_eq_true (mt lower_eq_nil.2 hs), decide_eq_true (mt lower_eq_nil.2 ht)⟩

theorem hasText_unknown : hasText (some "_unknown".toList) := by decide +kernel

/-- A candidate with a brand is not grouped with one without. -/
theorem OneSpelling.brandGroup_ne {pairs : List (ScoredPair ι)} (h : OneSpelling pairs)
    {p q : ScoredPair ι} (hp : p ∈ pairs) (hq : q ∈ pairs) (htextp : hasText (payloadBrand p))
    (htextq : ¬ hasText (payloadBrand q)) : brandGroup p ≠ brandGroup q := by
  intro hkey
  rw [brandGroup_of_not_hasText htextq] at hkey
  exact htextq (h.unknown p hp q hq (by rw [← some_brandGroup htextp, hkey]))

/-- **Groups are brands exactly when every brand has one spelling.** -/
theorem grouped_iff_sameBrand (pairs : List (ScoredPair ι)) :
    (∀ p ∈ pairs, ∀ q ∈ pairs, Grouped pairs p q ↔ SameBrand p q) ↔ OneSpelling pairs := by
  constructor
  · intro h
    constructor
    · intro p hp q hq hmatch
      obtain ⟨htextp, htextq⟩ := hasText_of_valuesMatch hmatch
      have hgroup := (h p hp q hq).2 (.inl ⟨htextp, htextq, hmatch⟩)
      rw [← some_brandGroup htextp, ← some_brandGroup htextq, (grouped_iff hp hq).1 hgroup]
    · intro p hp q hq hunknown
      by_contra hblank
      have htextp : hasText (payloadBrand p) := hunknown ▸ hasText_unknown
      have hkey : brandGroup p = brandGroup q := by
        rw [brandGroup_of_not_hasText hblank]
        exact Option.some.inj ((some_brandGroup htextp).trans hunknown)
      rcases (h p hp q hq).1 ((grouped_iff hp hq).2 hkey) with ⟨-, htextq, -⟩ | ⟨hblankp, -⟩
      · exact hblank htextq
      · exact hblankp htextp
  · intro h p hp q hq
    rw [grouped_iff hp hq]
    by_cases htextp : hasText (payloadBrand p)
    · by_cases htextq : hasText (payloadBrand q)
      · -- both have a brand: the groups are the texts
        constructor
        · intro hkey
          refine .inl ⟨htextp, htextq, ?_⟩
          rw [← some_brandGroup htextp, ← some_brandGroup htextq, hkey]
          exact valuesMatch_self (some_brandGroup htextq ▸ htextq)
        · rintro (⟨-, -, hmatch⟩ | ⟨hblank, -⟩)
          · apply Option.some.inj
            rw [some_brandGroup htextp, some_brandGroup htextq, h.spelling p hp q hq hmatch]
          · exact absurd htextp hblank
      · refine iff_of_false (h.brandGroup_ne hp hq htextp htextq) ?_
        simp [SameBrand, htextp, htextq]
    · by_cases htextq : hasText (payloadBrand q)
      · refine iff_of_false (h.brandGroup_ne hq hp htextq htextp).symm ?_
        simp [SameBrand, htextp, htextq]
      · refine iff_of_true ?_ (.inr ⟨htextp, htextq⟩)
        rw [brandGroup_of_not_hasText htextp, brandGroup_of_not_hasText htextq]

/-! ### Two spellings -/

namespace TwoSpellings

/-- A shoe of a brand, with a score. -/
def pair (productId : ℕ) (brand : Option String) (score : ℚ) : ScoredPair ℕ :=
  (⟨productId, score, vectorMetadata ⟨"Shoe".toList, brand.map String.toList, none, none, none⟩
      ⟨"a.png".toList, "b.png".toList, "image/png".toList, 1, 0⟩
      ⟨ProductAttributes.empty, [], 0⟩, [.image], score, 0⟩,
    ⟨productId, score, 0, 0, 0, score, ⟨[], [], false, false⟩, []⟩)

/-- Seven shoes of three brands, best first. -/
def pairs : List (ScoredPair ℕ) :=
  [pair 0 (some "Nike") (9 / 10), pair 1 (some "Asics") (17 / 20), pair 2 (some "Nike") (4 / 5),
    pair 3 (some "Puma") (7 / 10), pair 4 (some "Nike") (3 / 5), pair 5 (some "Puma") (1 / 2),
    pair 6 (some "Nike") (2 / 5)]

/-- Six shoes are taken: one of each brand, then one of each brand that is left, and one more. -/
theorem diversify_seven_shoes :
    Diversified pairs 6 (diversify pairs 6) ∧
      (diversify pairs 6).map (·.2.productId) = [0, 1, 3, 2, 5, 4] :=
  ⟨diversify_fair (by decide +kernel) 6, by decide +kernel⟩

/-- Two shoes of one brand written in two ways. -/
def spellings : List (ScoredPair ℕ) :=
  [pair 0 (some "Nike") (9 / 10), pair 1 (some "nike") (4 / 5)]

/-- The scorer says that the brands are the same, and the shoes are in two groups. -/
theorem not_grouped_of_sameBrand :
    ¬ ∀ p ∈ spellings, ∀ q ∈ spellings, Grouped spellings p q ↔ SameBrand p q := by
  intro h
  have hfirst : pair 0 (some "Nike") (9 / 10) ∈ spellings := List.mem_cons_self ..
  have hsecond : pair 1 (some "nike") (4 / 5) ∈ spellings :=
    List.mem_cons_of_mem _ (List.mem_cons_self ..)
  have hbrand : SameBrand (pair 0 (some "Nike") (9 / 10)) (pair 1 (some "nike") (4 / 5)) :=
    .inl (by decide +kernel)
  have hkey := (grouped_iff hfirst hsecond).1 ((h _ hfirst _ hsecond).2 hbrand)
  revert hkey
  decide +kernel

end TwoSpellings

end ProductIntelligence

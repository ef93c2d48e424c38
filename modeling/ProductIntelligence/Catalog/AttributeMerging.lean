import ProductIntelligence.Catalog.BlankFields

/-!
# Merging attributes

The predictions of each attribute are resolved, their conflicts counted and the result scored, by
separate passes over the same groups.  What merging reads of a group is its most confident value,
with its confidence, and whether all agree; two lists of predictions that agree in this for every
attribute are merged alike.

An attribute may be named like the aggregate confidence of the result.  Then that would be passed
twice, and merging fails.

## Main definitions

* `SameEvidence` — two lists of predictions that merging cannot tell apart.
* `ResolvesTo` — the value of a most confident prediction from the threshold on.
* `Agrees` — a prediction of the resolved value, no more confident than what resolved it.
* `MergesAttributes` — what merging promises.

## Main results

* `mergeAttributes_congr` — lists with the same evidence are merged alike.
* `mergesAttributes_iff` — **exactly when merging keeps its promise**.

## References

`backend/app/services/catalog/catalog_intelligence_service.py`.
-/

namespace ProductIntelligence

variable {threshold : ℚ} {predictions predictions' : List AttributePrediction} {name : Text}

/-! ### What merging reads -/

/-- The predictions of one attribute. -/
def named (predictions : List AttributePrediction) (name : Text) : List AttributePrediction :=
  predictions.filter fun prediction => prediction.attributeName = name

theorem mem_named {prediction : AttributePrediction} :
    prediction ∈ named predictions name ↔
      prediction ∈ predictions ∧ prediction.attributeName = name := by
  rw [named, List.mem_filter, decide_eq_true_eq]

/-- The value that some candidates resolve to, and its confidence. -/
def outcome (threshold : ℚ) (candidates : List AttributePrediction) : Option (Text × ℚ) :=
  (resolve threshold candidates).map fun best => (best.value, best.confidence.value)

/-- Merging cannot tell the two apart: the same attributes are predicted, and each is resolved
alike and disputed alike. -/
structure SameEvidence (threshold : ℚ) (predictions predictions' : List AttributePrediction) :
    Prop where
  predicted : ∀ name, (∃ p ∈ predictions, p.attributeName = name) ↔
    ∃ p ∈ predictions', p.attributeName = name
  outcome_eq : ∀ name,
    outcome threshold (named predictions name) = outcome threshold (named predictions' name)
  isConflict_eq : ∀ name,
    isConflict (named predictions name) = isConflict (named predictions' name)

theorem resolvedValue_eq (threshold : ℚ) (predictions : List AttributePrediction) (name : Text) :
    resolvedValue (resolvedAttributes threshold predictions) name =
      (outcome threshold (named predictions name)).map Prod.fst := by
  rw [resolvedValue_resolvedAttributes, outcome, Option.map_map]
  rfl

/-- An attribute gets a value when its candidates resolve to one. -/
theorem isSome_lookup_resolvedAttributes (threshold : ℚ)
    (predictions : List AttributePrediction) (name : Text) :
    (Keyed.lookup Prod.fst name (resolvedAttributes threshold predictions)).isSome =
      (outcome threshold (named predictions name)).isSome := by
  have h := congrArg Option.isSome (lookup_resolvedAttributes threshold predictions name)
  rw [Option.isSome_map] at h
  rw [h, outcome, Option.isSome_map]
  rfl

/-- The confidences of the resolved attributes, read off the groups. -/
theorem map_confidence_resolvedAttributes (threshold : ℚ)
    (predictions : List AttributePrediction) :
    (resolvedAttributes threshold predictions).map (fun entry => entry.2.confidence.value) =
      ((RoundRobin.groupBy AttributePrediction.attributeName predictions).map
        fun group => outcome threshold group.2).filterMap (Option.map Prod.snd) := by
  rw [resolvedAttributes, List.map_filterMap, List.filterMap_map]
  refine List.filterMap_congr fun group _ => ?_
  simp only [outcome, Option.map_map, Function.comp_apply]
  rfl

theorem average_perm {l l' : List ℚ} (h : l.Perm l') : average l = average l' := by
  unfold average
  rw [h.sum_eq, h.length_eq]
  have hnil : l = [] ↔ l' = [] := by
    rw [← List.length_eq_zero_iff, h.length_eq, List.length_eq_zero_iff]
  by_cases hl : l = []
  · rw [if_pos hl, if_pos (hnil.1 hl)]
  · rw [if_neg hl, if_neg (mt hnil.2 hl)]

section SameEvidence

variable (h : SameEvidence threshold predictions predictions')
include h

/-- The groups of both lists read alike, up to their order. -/
theorem SameEvidence.map_groupBy_perm {β : Type*} {f : List AttributePrediction → β}
    (hf : ∀ name, f (named predictions name) = f (named predictions' name)) :
    ((RoundRobin.groupBy AttributePrediction.attributeName predictions).map
        fun group => f group.2).Perm
      ((RoundRobin.groupBy AttributePrediction.attributeName predictions').map
        fun group => f group.2) :=
  RoundRobin.map_groupBy_perm_of_keys AttributePrediction.attributeName h.predicted hf

theorem SameEvidence.buildAttributes_eq :
    buildAttributes (resolvedAttributes threshold predictions) =
      buildAttributes (resolvedAttributes threshold predictions') := by
  have hvalue : resolvedValue (resolvedAttributes threshold predictions) =
      resolvedValue (resolvedAttributes threshold predictions') := by
    funext name
    rw [resolvedValue_eq, resolvedValue_eq, h.outcome_eq]
  have hconfidence := average_perm
    ((h.map_groupBy_perm h.outcome_eq).filterMap (Option.map Prod.snd))
  rw [← map_confidence_resolvedAttributes, ← map_confidence_resolvedAttributes] at hconfidence
  simp only [buildAttributes, hvalue, hconfidence]

/-- **Lists with the same evidence are merged alike.** -/
theorem mergeAttributes_congr :
    mergeAttributes threshold predictions = mergeAttributes threshold predictions' := by
  have hconflicts := (h.map_groupBy_perm h.isConflict_eq).countP_eq id
  have hconsidered := (h.map_groupBy_perm (f := fun _ => ()) fun _ => rfl).length_eq
  rw [List.countP_map, List.countP_map, List.countP_eq_length_filter,
    List.countP_eq_length_filter] at hconflicts
  rw [List.length_map, List.length_map] at hconsidered
  unfold mergeAttributes
  dsimp only
  rw [isSome_lookup_resolvedAttributes, isSome_lookup_resolvedAttributes, h.outcome_eq,
    h.buildAttributes_eq, hconsidered]
  simp only [Function.comp_def, id] at hconflicts
  rw [hconflicts]

end SameEvidence

/-! ### One attribute -/

/-- The value of a most confident prediction of an attribute, which reaches the threshold. -/
def ResolvesTo (threshold : ℚ) (predictions : List AttributePrediction) (name value : Text) :
    Prop :=
  ∃ best ∈ named predictions name, best.value = value ∧ threshold ≤ best.confidence.value ∧
    ∀ p ∈ named predictions name, p.confidence.value ≤ best.confidence.value

/-- Resolving finds a most confident candidate, from the threshold on. -/
theorem mem_resolve {candidates : List AttributePrediction} {best : AttributePrediction}
    (h : best ∈ resolve threshold candidates) :
    best ∈ candidates ∧ threshold ≤ best.confidence.value ∧
      ∀ p ∈ candidates, p.confidence.value ≤ best.confidence.value := by
  obtain ⟨hbest, hreach⟩ := Option.mem_filter_iff.1 h
  exact ⟨List.argmax_mem hbest, of_decide_eq_true hreach, fun p hp =>
    List.le_of_mem_argmax (f := fun p : AttributePrediction => p.confidence.value) hp hbest⟩

theorem resolve_eq_none_iff {candidates : List AttributePrediction} :
    resolve threshold candidates = none ↔ ∀ p ∈ candidates, p.confidence.value < threshold := by
  constructor
  · intro h p hp
    unfold resolve at h
    cases hbest : candidates.argmax fun candidate => candidate.confidence.value with
    | none =>
      rw [List.argmax_eq_none.1 hbest] at hp
      cases hp
    | some best =>
      have hle := List.le_of_mem_argmax (f := fun p : AttributePrediction => p.confidence.value)
        hp hbest
      rw [hbest, Option.filter_eq_none_iff] at h
      have hlow : ¬ threshold ≤ best.confidence.value := by simpa using h best rfl
      exact hle.trans_lt (not_le.1 hlow)
  · intro h
    by_contra hne
    obtain ⟨best, hbest⟩ := Option.ne_none_iff_exists'.1 hne
    obtain ⟨hmem, hreach, -⟩ := mem_resolve hbest
    exact absurd (h best hmem) (not_lt.2 hreach)

/-- The only value that a most confident prediction can have is the one resolved to. -/
theorem outcome_eq_some_of_unique {candidates : List AttributePrediction}
    {best : AttributePrediction} (hbest : best ∈ candidates)
    (hreach : threshold ≤ best.confidence.value)
    (hmax : ∀ p ∈ candidates, p.confidence.value ≤ best.confidence.value)
    (hvalue : ∀ p ∈ candidates, p.confidence.value = best.confidence.value →
      p.value = best.value) :
    outcome threshold candidates = some (best.value, best.confidence.value) := by
  cases h : resolve threshold candidates with
  | none => exact absurd (resolve_eq_none_iff.1 h best hbest) (not_lt.2 hreach)
  | some p =>
    obtain ⟨hmem, -, hle⟩ := mem_resolve h
    have hsame := (hmax p hmem).antisymm (hle best hbest)
    rw [outcome, h, Option.map_some, hvalue p hmem hsame, hsame]

theorem isConflict_eq_true_iff {candidates : List AttributePrediction} :
    isConflict candidates = true ↔ ∃ p ∈ candidates, ∃ q ∈ candidates, p.value ≠ q.value := by
  simp only [isConflict, List.any_eq_true, decide_eq_true_eq]

/-- Whether there is a conflict depends on the values only. -/
theorem isConflict_congr {candidates candidates' : List AttributePrediction}
    (h : ∀ p ∈ candidates, ∃ q ∈ candidates', q.value = p.value)
    (h' : ∀ p ∈ candidates', ∃ q ∈ candidates, q.value = p.value) :
    isConflict candidates = isConflict candidates' := by
  have hmono : ∀ {l l' : List AttributePrediction}, (∀ p ∈ l, ∃ q ∈ l', q.value = p.value) →
      isConflict l = true → isConflict l' = true := by
    intro l l' hvalues hconflict
    obtain ⟨p, hp, q, hq, hne⟩ := isConflict_eq_true_iff.1 hconflict
    obtain ⟨p', hp', hpv⟩ := hvalues p hp
    obtain ⟨q', hq', hqv⟩ := hvalues q hq
    exact isConflict_eq_true_iff.2 ⟨p', hp', q', hq', by rwa [hpv, hqv]⟩
  exact Bool.eq_iff_iff.2 ⟨hmono h, hmono h'⟩

/-! ### One more prediction -/

/-- A prediction of the value that its attribute resolves to, no more confident than another
prediction of the attribute. -/
structure Agrees (threshold : ℚ) (predictions : List AttributePrediction)
    (added : AttributePrediction) : Prop where
  value : resolvedValue (resolvedAttributes threshold predictions) added.attributeName =
    some added.value
  confidence : ∃ p ∈ named predictions added.attributeName,
    added.confidence.value ≤ p.confidence.value

/-- Whatever is in a list, the best of it is as good. -/
theorem exists_argmax_of_mem {α β : Type*} [LinearOrder β] {f : α → β} {l : List α} {a : α}
    (ha : a ∈ l) : ∃ best ∈ l.argmax f, f a ≤ f best := by
  cases h : l.argmax f with
  | none =>
    rw [List.argmax_eq_none.1 h] at ha
    cases ha
  | some best => exact ⟨best, rfl, List.le_of_mem_argmax ha h⟩

/-- The first best of a list is still chosen when an element that is no better is put in, or that
element is, being as good. -/
theorem exists_argmax_insert {α β : Type*} [LinearOrder β] {f : α → β} {l₁ l₂ : List α}
    {best x : α} (hbest : best ∈ (l₁ ++ l₂).argmax f) (hx : f x ≤ f best) :
    ∃ chosen ∈ (l₁ ++ x :: l₂).argmax f, chosen = best ∨ chosen = x ∧ f x = f best := by
  induction l₁ generalizing best with
  | nil =>
    rw [List.nil_append] at hbest ⊢
    rw [List.argmax_cons, Option.mem_def.1 hbest]
    dsimp only
    split_ifs with hlt
    · exact ⟨best, rfl, .inl rfl⟩
    · exact ⟨x, rfl, .inr ⟨rfl, hx.antisymm (not_lt.1 hlt)⟩⟩
  | cons a l₁ ih =>
    rw [List.cons_append, List.argmax_cons] at hbest
    rw [List.cons_append, List.argmax_cons]
    by_cases hlater : ∃ c ∈ (l₁ ++ l₂).argmax f, f a < f c
    · -- the best comes later
      obtain ⟨c, hc, hac⟩ := hlater
      rw [Option.mem_def.1 hc] at hbest
      dsimp only at hbest
      rw [if_pos hac] at hbest
      obtain rfl := Option.some.inj hbest
      obtain ⟨chosen, hchosen, hor⟩ := ih hc hx
      have hac' : f a < f chosen := by
        rcases hor with rfl | ⟨rfl, heq⟩
        · exact hac
        · rwa [heq]
      rw [Option.mem_def.1 hchosen]
      dsimp only
      rw [if_pos hac']
      exact ⟨chosen, rfl, hor⟩
    · -- the best comes first, and nothing that follows is better
      have hfirst : best = a := by
        cases hc : (l₁ ++ l₂).argmax f with
        | none =>
          rw [hc] at hbest
          exact (Option.some.inj hbest).symm
        | some c =>
          rw [hc] at hbest
          dsimp only at hbest
          rw [if_neg fun hac => hlater ⟨c, hc, hac⟩] at hbest
          exact (Option.some.inj hbest).symm
      subst hfirst
      refine ⟨best, ?_, .inl rfl⟩
      cases hc : (l₁ ++ x :: l₂).argmax f with
      | none => exact rfl
      | some c =>
        have hle : f c ≤ f best := by
          by_contra hlt
          have hmem := List.argmax_mem hc
          rw [List.mem_append, List.mem_cons] at hmem
          rcases hmem with hmem | rfl | hmem
          · obtain ⟨d, hd, hcd⟩ := exists_argmax_of_mem (f := f) (List.mem_append_left l₂ hmem)
            exact hlater ⟨d, hd, (not_le.1 hlt).trans_le hcd⟩
          · exact hlt hx
          · obtain ⟨d, hd, hcd⟩ := exists_argmax_of_mem (f := f) (List.mem_append_right l₁ hmem)
            exact hlater ⟨d, hd, (not_le.1 hlt).trans_le hcd⟩
        dsimp only
        rw [if_neg (not_lt.2 hle)]
        exact rfl

theorem named_append (before after : List AttributePrediction) (name : Text) :
    named (before ++ after) name = named before name ++ named after name :=
  List.filter_append ..

theorem named_insert (before after : List AttributePrediction) (added : AttributePrediction)
    (name : Text) :
    named (before ++ added :: after) name =
      if added.attributeName = name then named before name ++ added :: named after name
      else named (before ++ after) name := by
  unfold named
  rw [List.filter_append, List.filter_cons, List.filter_append]
  by_cases h : added.attributeName = name
  · rw [if_pos h, if_pos (decide_eq_true h)]
  · rw [if_neg h, if_neg (by simpa using h)]

section Agrees

variable {before after : List AttributePrediction} {added : AttributePrediction}
  (h : Agrees threshold (before ++ after) added)
include h

/-- What an attribute resolves to is a candidate at least as confident as one that agrees. -/
theorem Agrees.exists_best :
    ∃ best ∈ resolve threshold (named (before ++ after) added.attributeName),
      best.value = added.value ∧ added.confidence.value ≤ best.confidence.value := by
  have hvalue := h.value
  rw [resolvedValue_eq, outcome, Option.map_map, Option.map_eq_some_iff] at hvalue
  obtain ⟨best, hbest, hvalue⟩ := hvalue
  obtain ⟨p, hp, hle⟩ := h.confidence
  exact ⟨best, hbest, hvalue, hle.trans ((mem_resolve hbest).2.2 p hp)⟩

/-- The first best is still chosen, or the new prediction of the same value. -/
theorem Agrees.outcome_insert :
    outcome threshold
        (named before added.attributeName ++ added :: named after added.attributeName) =
      outcome threshold (named (before ++ after) added.attributeName) := by
  obtain ⟨best, hbest, hvalue, hle⟩ := h.exists_best
  obtain ⟨-, hreach, -⟩ := mem_resolve hbest
  rw [named_append] at hbest ⊢
  obtain ⟨chosen, hchosen, hor⟩ := exists_argmax_insert
    (f := fun p : AttributePrediction => p.confidence.value) (Option.mem_filter_iff.1 hbest).1 hle
  have hsame : chosen.value = best.value ∧ chosen.confidence.value = best.confidence.value := by
    rcases hor with rfl | ⟨rfl, heq⟩
    · exact ⟨rfl, rfl⟩
    · exact ⟨hvalue.symm, heq⟩
  have hresolve : chosen ∈ resolve threshold
      (named before added.attributeName ++ added :: named after added.attributeName) :=
    Option.mem_filter_iff.2 ⟨hchosen, decide_eq_true (hsame.2 ▸ hreach)⟩
  rw [outcome, outcome, Option.mem_def.1 hbest, Option.mem_def.1 hresolve, Option.map_some,
    Option.map_some, hsame.1, hsame.2]

/-- The value of the new prediction was predicted before. -/
theorem Agrees.isConflict_insert :
    isConflict (named before added.attributeName ++ added :: named after added.attributeName) =
      isConflict (named (before ++ after) added.attributeName) := by
  obtain ⟨best, hbest, hvalue, -⟩ := h.exists_best
  have hmem := (mem_resolve hbest).1
  rw [named_append] at hmem ⊢
  refine isConflict_congr (fun p hp => ?_) fun p hp => ?_
  · rw [List.mem_append, List.mem_cons] at hp
    rcases hp with hp | rfl | hp
    · exact ⟨p, List.mem_append_left _ hp, rfl⟩
    · exact ⟨best, hmem, hvalue⟩
    · exact ⟨p, List.mem_append_right _ hp, rfl⟩
  · rw [List.mem_append] at hp
    exact ⟨p, List.mem_append.2 (hp.imp_right (List.mem_cons_of_mem _)), rfl⟩

/-- **A prediction that agrees is no new evidence**, wherever it is put. -/
theorem Agrees.sameEvidence :
    SameEvidence threshold (before ++ added :: after) (before ++ after) := by
  obtain ⟨best, hbest, -, -⟩ := h.exists_best
  refine ⟨fun name => ?_, fun name => ?_, fun name => ?_⟩
  · constructor
    · rintro ⟨p, hp, rfl⟩
      rw [List.mem_append, List.mem_cons] at hp
      rcases hp with hp | rfl | hp
      · exact ⟨p, List.mem_append_left _ hp, rfl⟩
      · exact ⟨best, mem_named.1 (mem_resolve hbest).1⟩
      · exact ⟨p, List.mem_append_right _ hp, rfl⟩
    · rintro ⟨p, hp, rfl⟩
      rw [List.mem_append] at hp
      exact ⟨p, List.mem_append.2 (hp.imp_right (List.mem_cons_of_mem _)), rfl⟩
  · rw [named_insert]
    split
    · next hname => exact hname ▸ h.outcome_insert
    · rfl
  · rw [named_insert]
    split
    · next hname => exact hname ▸ h.isConflict_insert
    · rfl

end Agrees

/-! ### Another order -/

/-- No two predictions of an attribute are equally confident. -/
def NoTies (predictions : List AttributePrediction) : Prop :=
  predictions.Pairwise fun p q =>
    p.attributeName = q.attributeName → p.confidence.value ≠ q.confidence.value

/-- Without ties a prediction is determined by its attribute and its confidence. -/
theorem NoTies.eq_of_confidence_eq (h : NoTies predictions) {p q : AttributePrediction}
    (hp : p ∈ named predictions name) (hq : q ∈ named predictions name)
    (heq : p.confidence.value = q.confidence.value) : p = q := by
  rw [mem_named] at hp hq
  by_contra hne
  have hsymm : Std.Symm fun p q : AttributePrediction =>
      p.attributeName = q.attributeName → p.confidence.value ≠ q.confidence.value :=
    ⟨fun _ _ h hname => (h hname.symm).symm⟩
  exact h.forall hp.1 hq.1 hne (hp.2.trans hq.2.symm) heq

/-- **Without ties the order of the predictions is no evidence.** -/
theorem NoTies.sameEvidence (h : NoTies predictions) (hperm : predictions.Perm predictions') :
    SameEvidence threshold predictions' predictions := by
  have hnamed : ∀ name p, p ∈ named predictions' name ↔ p ∈ named predictions name := fun name p =>
    (hperm.symm.filter _).mem_iff
  refine ⟨fun name => exists_congr fun p => and_congr_left' hperm.symm.mem_iff, fun name => ?_,
    fun name => ?_⟩
  · cases hbest : resolve threshold (named predictions' name) with
    | none =>
      have hnone : resolve threshold (named predictions name) = none :=
        resolve_eq_none_iff.2 fun p hp =>
          resolve_eq_none_iff.1 hbest p ((hnamed name p).2 hp)
      rw [outcome, outcome, hbest, hnone]
    | some best =>
      obtain ⟨hmem, hreach, hmax⟩ := mem_resolve hbest
      have hmem' := (hnamed name best).1 hmem
      rw [outcome_eq_some_of_unique hmem' hreach (fun p hp => hmax p ((hnamed name p).2 hp))
        fun p hp heq => congrArg AttributePrediction.value (h.eq_of_confidence_eq hp hmem' heq),
        outcome, hbest, Option.map_some]
  · exact isConflict_congr (fun p hp => ⟨p, (hnamed name p).1 hp, rfl⟩)
      fun p hp => ⟨p, (hnamed name p).2 hp, rfl⟩

/-! ### The quality score -/

/-- The share of the attributes that have a value. -/
def completeness (attributes : ResolvedAttributes) : ℚ :=
  (attributes.values.filter Option.isSome).length / attributes.values.length

/-- The share of the predicted attributes that are not disputed, one if there are none. -/
def consistency (conflictCount consideredCount : ℕ) : ℚ :=
  if consideredCount = 0 then 1 else 1 - (conflictCount : ℚ) / consideredCount

theorem computeQualityScore_eq (settings : CatalogIntelligenceSettings)
    (attributes : ResolvedAttributes) (conflictCount consideredCount : ℕ) :
    computeQualityScore settings attributes conflictCount consideredCount =
      clamp (settings.qualityCompletenessWeight * completeness attributes +
        settings.qualityConfidenceWeight * attributes.confidence +
        settings.qualityConsistencyWeight * consistency conflictCount consideredCount) := rfl

theorem inUnit_completeness (attributes : ResolvedAttributes) :
    InUnit (completeness attributes) := by
  refine ⟨by unfold completeness; positivity, div_le_one_of_le₀ ?_ (Nat.cast_nonneg _)⟩
  exact_mod_cast List.length_filter_le _ _

theorem inUnit_consistency {conflictCount consideredCount : ℕ}
    (h : conflictCount ≤ consideredCount) : InUnit (consistency conflictCount consideredCount) := by
  unfold consistency
  split
  · exact ⟨zero_le_one, le_rfl⟩
  · have hle : (conflictCount : ℚ) / consideredCount ≤ 1 :=
      div_le_one_of_le₀ (by exact_mod_cast h) (Nat.cast_nonneg _)
    have hnonneg : (0 : ℚ) ≤ (conflictCount : ℚ) / consideredCount := by positivity
    constructor <;> linarith

/-- The mean of numbers in the unit interval is in it. -/
theorem inUnit_average {l : List ℚ} (h : ∀ q ∈ l, InUnit q) : InUnit (average l) := by
  unfold average
  split
  · exact ⟨le_rfl, zero_le_one⟩
  · have hsum : 0 ≤ l.sum := List.sum_nonneg fun q hq => (h q hq).1
    have hle : l.sum ≤ l.length • (1 : ℚ) := List.sum_le_card_nsmul l 1 fun q hq => (h q hq).2
    rw [nsmul_one] at hle
    exact ⟨by positivity, div_le_one_of_le₀ hle (Nat.cast_nonneg _)⟩

/-! ### What merging promises -/

/-- The names and values of the attributes. -/
def ResolvedAttributes.fields (attributes : ResolvedAttributes) : List (Text × Option Text) :=
  [("brand".toList, attributes.brand), ("category".toList, attributes.category),
    ("subcategory".toList, attributes.subcategory), ("color".toList, attributes.color),
    ("material".toList, attributes.material), ("pattern".toList, attributes.pattern),
    ("gender".toList, attributes.gender), ("age_group".toList, attributes.ageGroup),
    ("style".toList, attributes.style), ("season".toList, attributes.season),
    ("occasion".toList, attributes.occasion)]

/-- The attributes considered by completeness are those with a name. -/
theorem ResolvedAttributes.map_fields (attributes : ResolvedAttributes) :
    attributes.fields.map Prod.snd = attributes.values := rfl

/-- What merging promises of the attributes and of the two counts. -/
structure MergesAttributes (settings : CatalogIntelligenceSettings) (threshold : ℚ)
    (predictions : List AttributePrediction) (attributes : ResolvedAttributes)
    (conflictCount consideredCount : ℕ) : Prop where
  resolvesTo : ∀ field ∈ attributes.fields, ∀ value ∈ field.2,
    ResolvesTo threshold predictions field.1 value
  absent_iff : ∀ field ∈ attributes.fields,
    field.2 = none ↔ ∀ p ∈ named predictions field.1, p.confidence.value < threshold
  conflict_le : conflictCount ≤ consideredCount
  terms : InUnit (completeness attributes) ∧ InUnit attributes.confidence ∧
    InUnit (consistency conflictCount consideredCount)
  score : InUnit (computeQualityScore settings attributes conflictCount consideredCount)
  agreement : ∀ before after added, before ++ after = predictions →
    Agrees threshold predictions added →
      mergeAttributes threshold (before ++ added :: after) =
        .ok (attributes, conflictCount, consideredCount)
  order : NoTies predictions → ∀ predictions', predictions.Perm predictions' →
    mergeAttributes threshold predictions' = .ok (attributes, conflictCount, consideredCount)

/-- Every attribute is resolved from the predictions of its name. -/
theorem value_of_mem_fields {field : Text × Option Text}
    (h : field ∈ (buildAttributes (resolvedAttributes threshold predictions)).fields) :
    field.2 = (outcome threshold (named predictions field.1)).map Prod.fst := by
  have hvalue : ∀ field ∈ (buildAttributes (resolvedAttributes threshold predictions)).fields,
      field.2 = resolvedValue (resolvedAttributes threshold predictions) field.1 := by
    intro field h
    simp only [ResolvedAttributes.fields, List.mem_cons, List.not_mem_nil, or_false] at h
    rcases h with rfl | rfl | rfl | rfl | rfl | rfl | rfl | rfl | rfl | rfl | rfl <;> rfl
  rw [hvalue field h, resolvedValue_eq]

/-- Merging fails exactly when an attribute named like the aggregate confidence is resolved. -/
theorem mergeAttributes_ok_iff {result : ResolvedAttributes × ℕ × ℕ} :
    mergeAttributes threshold predictions = .ok result ↔
      (∀ p ∈ named predictions "confidence".toList, p.confidence.value < threshold) ∧
        result = (buildAttributes (resolvedAttributes threshold predictions),
          ((RoundRobin.groupBy AttributePrediction.attributeName predictions).filter
            fun group => isConflict group.2).length,
          (RoundRobin.groupBy AttributePrediction.attributeName predictions).length) := by
  have hnone : (Keyed.lookup Prod.fst "confidence".toList
      (resolvedAttributes threshold predictions)).isSome = true ↔
      ¬ ∀ p ∈ named predictions "confidence".toList, p.confidence.value < threshold := by
    rw [isSome_lookup_resolvedAttributes, outcome, Option.isSome_map,
      ← resolve_eq_none_iff, Option.isSome_iff_ne_none]
  unfold mergeAttributes
  dsimp only
  split_ifs with h
  · refine iff_of_false (fun hok => ?_) fun hlow => hnone.1 h hlow.1
    cases hok
  · rw [Except.ok.injEq, eq_comm]
    exact (and_iff_right (not_not.1 (mt hnone.2 h))).symm

/-- What merging promises is kept wherever it succeeds. -/
theorem mergesAttributes_of_ok (settings : CatalogIntelligenceSettings)
    {attributes : ResolvedAttributes} {conflictCount consideredCount : ℕ}
    (h : mergeAttributes threshold predictions =
      .ok (attributes, conflictCount, consideredCount)) :
    MergesAttributes settings threshold predictions attributes conflictCount consideredCount := by
  obtain ⟨-, hresult⟩ := mergeAttributes_ok_iff.1 h
  rw [Prod.mk.injEq, Prod.mk.injEq] at hresult
  obtain ⟨hattributes, hconflict, hconsidered⟩ := hresult
  have hle : conflictCount ≤ consideredCount := by
    rw [hconflict, hconsidered]
    exact List.length_filter_le _ _
  have hconfidence : InUnit attributes.confidence := by
    rw [hattributes]
    refine inUnit_average fun q hq => ?_
    obtain ⟨entry, -, rfl⟩ := List.mem_map.1 hq
    exact entry.2.confidence.valid
  refine ⟨fun field hfield value hvalue => ?_, fun field hfield => ?_, hle,
    ⟨inUnit_completeness _, hconfidence, inUnit_consistency hle⟩,
    ⟨clamp_nonneg _, clamp_le_one _⟩, ?_, fun hties predictions' hperm => ?_⟩
  · rw [hattributes] at hfield
    rw [value_of_mem_fields hfield, outcome, Option.map_map] at hvalue
    obtain ⟨best, hbest, rfl⟩ := Option.mem_map.1 hvalue
    obtain ⟨hmem, hreach, hmax⟩ := mem_resolve hbest
    exact ⟨best, hmem, rfl, hreach, hmax⟩
  · rw [hattributes] at hfield
    rw [value_of_mem_fields hfield, Option.map_eq_none_iff, outcome, Option.map_eq_none_iff,
      resolve_eq_none_iff]
  · rintro before after added rfl hagrees
    rw [mergeAttributes_congr hagrees.sameEvidence, h]
  · rw [mergeAttributes_congr (hties.sameEvidence hperm), h]

/-- **Exactly when merging keeps its promise**: it has a result, and all that is promised of it,
if and only if no prediction of an attribute named like the aggregate confidence reaches the
threshold. -/
theorem mergesAttributes_iff (settings : CatalogIntelligenceSettings) (threshold : ℚ)
    (predictions : List AttributePrediction) :
    (∃ attributes conflictCount consideredCount,
      mergeAttributes threshold predictions = .ok (attributes, conflictCount, consideredCount) ∧
        MergesAttributes settings threshold predictions attributes conflictCount
          consideredCount) ↔
      ∀ p ∈ predictions, p.attributeName = "confidence".toList →
        p.confidence.value < threshold := by
  have hnamed : (∀ p ∈ named predictions "confidence".toList, p.confidence.value < threshold) ↔
      ∀ p ∈ predictions, p.attributeName = "confidence".toList →
        p.confidence.value < threshold := by
    simp only [mem_named, and_imp]
  rw [← hnamed]
  constructor
  · rintro ⟨attributes, conflictCount, consideredCount, hok, -⟩
    exact (mergeAttributes_ok_iff.1 hok).1
  · intro h
    have hok := mergeAttributes_ok_iff.2 ⟨h, rfl⟩
    exact ⟨_, _, _, hok, mergesAttributes_of_ok settings hok⟩

/-- A color, and a prediction named like the aggregate confidence. -/
def colorAndConfidence : List AttributePrediction :=
  [⟨"color".toList, "red".toList, hundredths 90, .text⟩,
    ⟨"confidence".toList, "high".toList, hundredths 90, .text⟩]

/-- Next to a prediction named like the aggregate confidence no color is resolved: merging fails. -/
theorem confidence_prediction_fails :
    ¬ ∃ attributes conflictCount consideredCount,
      mergeAttributes (60 / 100) colorAndConfidence =
          .ok (attributes, conflictCount, consideredCount) ∧
        MergesAttributes BlankBrand.catalog.settings (60 / 100) colorAndConfidence attributes
          conflictCount consideredCount := by
  rintro ⟨attributes, conflictCount, consideredCount, hok, -⟩
  have hlow := (mergeAttributes_ok_iff.1 hok).1 _ (mem_named.2
    ⟨List.mem_cons_of_mem _ (List.mem_singleton_self _), rfl⟩)
  exact absurd hlow (by decide +kernel)

end ProductIntelligence

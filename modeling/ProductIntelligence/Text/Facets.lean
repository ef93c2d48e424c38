import ProductIntelligence.Text.Unicode
import ProductIntelligence.Text.Tokens

/-!
# Canonical facet keys

The one normaliser of filterable facet values.  A key is described by its words: the
maximal runs of `a`–`z` and `0`–`9` in the folded value, joined by hyphens.  Trimming the
value first, or normalising it twice, changes no word and so no key.

## Main definitions

* `strip`, `orNone` — `str.strip` and `value or None`.
* `normalizeFacet` — the facet key of a value.
* `facetWords` — its words.

## Main results

* `normalizeFacet_eq` — the key is the words of the value joined by hyphens.
* `normalizeFacet_strip` — trimming first does not change the key.
* `normalizeFacet_idem` — a key is its own key.

## References

`backend/app/utils/facets.py`.
-/

namespace ProductIntelligence

open Words

/-- `str.strip`. -/
def strip (s : Text) : Text := stripBy isSpace s

/-- `value or None`: a blank string counts as no value. -/
def orNone (s : Text) : Option Text := if s = [] then none else some s

@[simp] theorem orNone_nil : orNone [] = none := rfl

@[simp] theorem orNone_of_ne {s : Text} (h : s ≠ []) : orNone s = some s := if_neg h

@[simp] theorem orNone_eq_none {s : Text} : orNone s = none ↔ s = [] := by
  simp [orNone]

theorem orNone_eq_some {s t : Text} : orNone s = some t ↔ s = t ∧ s ≠ [] := by
  unfold orNone
  split <;> simp_all

/-- The characters of a facet key: `[a-z0-9]`. -/
def isKeyChar (c : Char) : Bool :=
  (97 ≤ c.toNat && c.toNat ≤ 122) || (48 ≤ c.toNat && c.toNat ≤ 57)

/-- A character of `_SEPARATOR_RUN`. -/
def isSeparator (c : Char) : Bool := !isKeyChar c

/-- `normalize_facet`: the canonical facet key of a value, or `none` if it filters
nothing. -/
def normalizeFacet : Option Text → Option Text
  | none => none
  | some value =>
    orNone (stripBy (· == '-') (collapse isSeparator '-' false (casefold (strip value))))

example : normalizeFacet (some "  MEN &  Shoes ".toList) = some "men-shoes".toList := by
  decide +kernel

/-! ### Folding single characters -/

/-- A property of the characters with code points `lo` to `hi`, checked one by one. -/
theorem char_of_range {lo hi : ℕ} {p : Char → Prop}
    (h : ∀ n ∈ List.range' lo (hi + 1 - lo), p (Char.ofNat n)) (c : Char) (hlo : lo ≤ c.toNat)
    (hhi : c.toNat ≤ hi) : p c := by
  have hc := h c.toNat (List.mem_range'_1.2 ⟨hlo, by omega⟩)
  rwa [Char.ofNat_toNat] at hc

/-- A character is in some ranges when it is in one of them. -/
theorem inRanges_iff {ranges : List (ℕ × ℕ)} {c : Char} :
    inRanges ranges c = true ↔ ∃ r ∈ ranges, r.1 ≤ c.toNat ∧ c.toNat ≤ r.2 := by
  unfold inRanges
  simp only [List.any_eq_true, Bool.and_eq_true, decide_eq_true_eq]

/-- A property of white space, checked one by one. -/
theorem char_of_isSpace {p : Char → Prop}
    (h : ∀ r ∈ spaceRanges, ∀ n ∈ List.range' r.1 (r.2 + 1 - r.1), p (Char.ofNat n)) {c : Char}
    (hc : isSpace c) : p c := by
  obtain ⟨r, hr, hlo, hhi⟩ := inRanges_iff.1 hc
  exact char_of_range (h r hr) c hlo hhi

theorem foldChar_of_isKeyChar {c : Char} (hc : isKeyChar c) : foldChar c = [c] := by
  simp only [isKeyChar, Bool.or_eq_true, Bool.and_eq_true, decide_eq_true_eq] at hc
  rcases hc with ⟨hlo, hhi⟩ | ⟨hlo, hhi⟩
  · exact char_of_range (p := fun c => foldChar c = [c]) (by decide +kernel) c hlo hhi
  · exact char_of_range (p := fun c => foldChar c = [c]) (by decide +kernel) c hlo hhi

theorem foldChar_hyphen : foldChar '-' = ['-'] := by decide +kernel

/-- White space folds to itself and is part of no word. -/
theorem foldChar_of_isSpace {c : Char} (hc : isSpace c) :
    foldChar c = [c] ∧ isSeparator c :=
  char_of_isSpace (p := fun c => foldChar c = [c] ∧ isSeparator c) (by decide +kernel) hc

theorem not_isSpace_of_isKeyChar {c : Char} (hc : isKeyChar c) : isSpace c = false := by
  by_contra hspace
  have := (foldChar_of_isSpace (Bool.not_eq_false _ ▸ hspace)).2
  simp [isSeparator, hc] at this

theorem casefold_append (s t : Text) : casefold (s ++ t) = casefold s ++ casefold t :=
  List.flatMap_append

/-- A text of characters that fold to themselves folds to itself. -/
theorem casefold_eq_self {s : Text} (h : ∀ c ∈ s, foldChar c = [c]) : casefold s = s := by
  induction s with
  | nil => rfl
  | cons c s ih =>
    have hs := ih fun d hd => h d (by simp [hd])
    unfold casefold at hs ⊢
    rw [List.flatMap_cons, hs, h c (by simp), List.singleton_append]

/-! ### The words of a facet -/

/-- The words of a value: the runs of key characters of its folded form. -/
def facetWords (s : Text) : List Text := tokens isSeparator (casefold s)

/-- The key spelt from a list of words. -/
def slug (ws : List Text) : Text := ['-'].intercalate ws

/-- White space around a value holds no word. -/
theorem facetWords_strip (s : Text) : facetWords (strip s) = facetWords s := by
  obtain ⟨a, b, hs, ha, hb⟩ := exists_stripBy isSpace s
  have hblank : ∀ t : Text, (∀ c ∈ t, isSpace c) → ∀ c ∈ casefold t, isSeparator c := by
    intro t ht
    rw [casefold_eq_self fun c hc => (foldChar_of_isSpace (ht c hc)).1]
    exact fun c hc => (foldChar_of_isSpace (ht c hc)).2
  conv_rhs => rw [hs]
  unfold facetWords strip
  rw [casefold_append, casefold_append, tokens_append_right _ (hblank b hb),
    tokens_append_left (hblank a ha)]

theorem isWord_of_mem_facetWords {s w : Text} (hw : w ∈ facetWords s) : IsWord isSeparator w :=
  isWord_of_mem_tokens hw

theorem slug_eq_nil {ws : List Text} (h : ∀ w ∈ ws, IsWord isSeparator w) :
    slug ws = [] ↔ ws = [] :=
  intercalate_eq_nil h

/-- **A facet key is the words of the value joined by hyphens**, or nothing when the value
has no word. -/
theorem normalizeFacet_eq (s : Text) :
    normalizeFacet (some s) = orNone (slug (facetWords s)) := by
  have hhyphen : isSeparator '-' := rfl
  rw [normalizeFacet, strip_collapse hhyphen, ← facetWords_strip s]
  rfl

theorem normalizeFacet_eq_none {s : Text} :
    normalizeFacet (some s) = none ↔ facetWords s = [] := by
  rw [normalizeFacet_eq, orNone_eq_none, slug_eq_nil fun w => isWord_of_mem_facetWords]

theorem normalizeFacet_eq_some {s k : Text} :
    normalizeFacet (some s) = some k ↔ slug (facetWords s) = k ∧ facetWords s ≠ [] := by
  rw [normalizeFacet_eq, orNone_eq_some, Ne, slug_eq_nil fun w => isWord_of_mem_facetWords]

/-- The characters of a key are key characters and hyphens. -/
theorem mem_slug {ws : List Text} (h : ∀ w ∈ ws, IsWord isSeparator w) :
    ∀ c ∈ slug ws, isKeyChar c ∨ c = '-' := by
  induction ws with
  | nil => simp [slug]
  | cons w ws ih =>
    have hw : ∀ c ∈ w, isKeyChar c := fun c hc => by
      simpa [isSeparator] using (h w (by simp)).2 c hc
    have hrest := ih fun v hv => h v (by simp [hv])
    unfold slug at hrest ⊢
    cases ws with
    | nil => simpa using fun c hc => .inl (hw c hc)
    | cons v vs =>
      rw [List.intercalate_cons_cons]
      intro c hc
      simp only [List.mem_append, List.mem_singleton] at hc
      rcases hc with (hc | hc) | hc
      · exact .inl (hw c hc)
      · exact .inr hc
      · exact hrest c hc

theorem casefold_slug {ws : List Text} (h : ∀ w ∈ ws, IsWord isSeparator w) :
    casefold (slug ws) = slug ws := by
  apply casefold_eq_self
  intro c hc
  rcases mem_slug h c hc with hkey | rfl
  · exact foldChar_of_isKeyChar hkey
  · exact foldChar_hyphen

/-- The words of a key are the words it was spelt from. -/
theorem facetWords_slug {ws : List Text} (h : ∀ w ∈ ws, IsWord isSeparator w) :
    facetWords (slug ws) = ws := by
  rw [facetWords, casefold_slug h]
  exact tokens_intercalate rfl h

/-- Trimming a value first does not change its key. -/
theorem normalizeFacet_strip (s : Text) :
    normalizeFacet (some (strip s)) = normalizeFacet (some s) := by
  rw [normalizeFacet_eq, normalizeFacet_eq, facetWords_strip]

/-- **A facet key is its own key.** -/
theorem normalizeFacet_idem (v : Option Text) :
    normalizeFacet (normalizeFacet v) = normalizeFacet v := by
  cases v with
  | none => rfl
  | some s =>
    rw [normalizeFacet_eq s]
    by_cases hwords : facetWords s = []
    · rw [hwords]
      rfl
    · have hslug : slug (facetWords s) ≠ [] := by
        rwa [Ne, slug_eq_nil fun w => isWord_of_mem_facetWords]
      rw [orNone_of_ne hslug, normalizeFacet_eq,
        facetWords_slug fun w => isWord_of_mem_facetWords, orNone_of_ne hslug]

/-- Neither end of a key is white space, so trimming it changes nothing. -/
theorem strip_slug {ws : List Text} (h : ∀ w ∈ ws, IsWord isSeparator w) :
    strip (slug ws) = slug ws := by
  have hspace : ∀ c ∈ slug ws, ¬ isSpace c := by
    intro c hc
    rcases mem_slug h c hc with hkey | rfl
    · simp [not_isSpace_of_isKeyChar hkey]
    · decide
  apply stripBy_eq_self
  · exact fun c hc => hspace c (List.mem_of_mem_head? hc)
  · exact fun c hc => hspace c (List.mem_of_getLast? hc)

end ProductIntelligence

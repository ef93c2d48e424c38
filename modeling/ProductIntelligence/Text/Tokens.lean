import Mathlib.Data.List.DropRight

/-!
# Words of a list

Cutting a list into the maximal runs without separators, trimming its ends, and
replacing each run of separators by one mark.

## Main definitions

* `stripBy p l` — `l` without the elements satisfying `p` at both ends.
* `tokens sep l` — the maximal non-empty runs of `l` without separators.
* `collapse sep x` — each run of separators becomes one `x`.
* `IsWord sep w` — `w` is non-empty and holds no separator.

## Main results

* `tokens_intercalate` — the words of words joined by a separator.
* `strip_collapse` — collapsing and trimming leaves the words joined by the mark.
-/

namespace Words

variable {α : Type*}

/-! ### Trimming -/

/-- `l` without the elements satisfying `p` at its two ends. -/
def stripBy (p : α → Bool) (l : List α) : List α := (l.dropWhile p).rdropWhile p

theorem rdropWhile_append (p : α → Bool) (l₁ l₂ : List α) :
    (l₁ ++ l₂).rdropWhile p =
      if (l₂.rdropWhile p).isEmpty then l₁.rdropWhile p else l₁ ++ l₂.rdropWhile p := by
  simp only [List.rdropWhile, List.reverse_append, List.dropWhile_append, List.isEmpty_reverse]
  split <;> simp

/-- A list is its trimmed middle between two runs of trimmed elements. -/
theorem exists_stripBy (p : α → Bool) (l : List α) :
    ∃ a b, l = a ++ stripBy p l ++ b ∧ (∀ c ∈ a, p c) ∧ ∀ c ∈ b, p c := by
  refine ⟨l.takeWhile p, (l.dropWhile p).rtakeWhile p, ?_, ?_, ?_⟩
  · rw [stripBy, List.append_assoc, List.rdropWhile_append_rtakeWhile,
      List.takeWhile_append_dropWhile]
  · intro c hc
    exact List.mem_takeWhile_imp hc
  · intro c hc
    exact List.mem_rtakeWhile_imp hc

/-- Trimming removes nothing where neither end is to be removed. -/
theorem stripBy_eq_self {p : α → Bool} {l : List α} (hhead : ∀ c ∈ l.head?, ¬ p c)
    (hlast : ∀ c ∈ l.getLast?, ¬ p c) : stripBy p l = l := by
  have hdrop : l.dropWhile p = l := by
    cases l with
    | nil => rfl
    | cons c l => rw [List.dropWhile_cons_of_neg (hhead c rfl)]
  rw [stripBy, hdrop, List.rdropWhile_eq_self_iff]
  intro hl
  exact hlast _ (List.getLast?_eq_getLast_of_ne_nil hl)

/-- Trimming leaves nothing to be removed at the front. -/
theorem not_of_mem_head?_stripBy {p : α → Bool} {l : List α} {c : α}
    (h : c ∈ (stripBy p l).head?) : ¬ p c := by
  have hprefix : stripBy p l <+: l.dropWhile p := List.rdropWhile_prefix _ _
  obtain ⟨rest, hrest⟩ := hprefix
  have hhead := List.head?_dropWhile_not p l
  rw [← hrest, List.head?_append, Option.mem_def.1 h, Option.some_or] at hhead
  simpa using hhead

/-- Trimming leaves nothing to be removed at the end. -/
theorem not_of_mem_getLast?_stripBy {p : α → Bool} {l : List α} {c : α}
    (h : c ∈ (stripBy p l).getLast?) : ¬ p c := by
  obtain ⟨hne, rfl⟩ := List.mem_getLast?_eq_getLast h
  exact List.rdropWhile_last_not p (l.dropWhile p) hne

/-! ### Words -/

/-- The maximal non-empty runs of `l` without separators. -/
def tokens (sep : α → Bool) (l : List α) : List (List α) :=
  (l.splitOnP sep).filter fun w => !w.isEmpty

/-- A word: not empty and without separators. -/
def IsWord (sep : α → Bool) (w : List α) : Prop := w ≠ [] ∧ ∀ c ∈ w, sep c = false

variable {sep : α → Bool}

@[simp] theorem tokens_nil : tokens sep [] = [] := by simp [tokens]

/-- A separator ends the words before it and is part of none. -/
theorem tokens_append_cons (l₁ l₂ : List α) {s : α} (hs : sep s) :
    tokens sep (l₁ ++ s :: l₂) = tokens sep l₁ ++ tokens sep l₂ := by
  rw [tokens, List.splitOnP_append_cons l₁ l₂ hs, List.filter_append]
  rfl

theorem tokens_cons {s : α} (hs : sep s) (l : List α) :
    tokens sep (s :: l) = tokens sep l := by
  simpa using tokens_append_cons [] l hs

/-- A word has itself as its only word. -/
theorem tokens_of_isWord {w : List α} (hw : IsWord sep w) : tokens sep w = [w] := by
  rw [tokens, List.splitOnP_eq_singleton hw.2]
  simp [hw.1]

/-- Separators before a list add no word. -/
theorem tokens_append_left {a : List α} (ha : ∀ c ∈ a, sep c) (l : List α) :
    tokens sep (a ++ l) = tokens sep l := by
  induction a with
  | nil => rfl
  | cons s a ih =>
    rw [List.cons_append, tokens_cons (ha s (by simp)), ih fun c hc => ha c (by simp [hc])]

/-- Separators alone hold no word. -/
theorem tokens_eq_nil {a : List α} (ha : ∀ c ∈ a, sep c) : tokens sep a = [] := by
  simpa using tokens_append_left ha []

/-- Only separators hold no word. -/
theorem tokens_eq_nil_iff {a : List α} : tokens sep a = [] ↔ ∀ c ∈ a, sep c := by
  refine ⟨fun h => ?_, tokens_eq_nil⟩
  induction a with
  | nil => simp
  | cons s a ih =>
    by_cases hs : sep s
    · rw [tokens_cons hs] at h
      simpa [hs] using ih h
    · -- the list starts with a word
      rw [Bool.not_eq_true] at hs
      have hword : IsWord sep ((s :: a).takeWhile fun c => !sep c) :=
        ⟨by simp [hs], fun c hc => by simpa using List.mem_takeWhile_imp hc⟩
      have hsplit := List.takeWhile_append_dropWhile (p := fun c => !sep c) (l := s :: a)
      cases hrest : (s :: a).dropWhile fun c => !sep c with
      | nil =>
        rw [hrest, List.append_nil] at hsplit
        rw [← hsplit, tokens_of_isWord hword] at h
        cases h
      | cons t rest =>
        have ht : sep t := by
          have hhead := List.head?_dropWhile_not (fun c => !sep c) (s :: a)
          rw [hrest] at hhead
          simpa using hhead
        rw [hrest] at hsplit
        rw [← hsplit, tokens_append_cons _ _ ht, tokens_of_isWord hword] at h
        cases h

/-- Separators after a list add no word. -/
theorem tokens_append_right (l : List α) {b : List α} (hb : ∀ c ∈ b, sep c) :
    tokens sep (l ++ b) = tokens sep l := by
  cases b with
  | nil => rw [List.append_nil]
  | cons s b =>
    have hnil : tokens sep b = [] := tokens_eq_nil fun c hc => hb c (by simp [hc])
    rw [tokens_append_cons l b (hb s (by simp)), hnil, List.append_nil]

theorem splitOnP_free (l : List α) : ∀ w ∈ l.splitOnP sep, ∀ c ∈ w, sep c = false := by
  induction l with
  | nil => simp
  | cons c l ih =>
    rw [List.splitOnP_cons_eq_if_modifyHead]
    split
    · intro w hw
      rcases List.mem_cons.1 hw with rfl | hw
      · simp
      · exact ih w hw
    · rename_i hc
      obtain ⟨v, vs, hsplit⟩ := List.exists_cons_of_ne_nil (List.splitOnP_ne_nil sep l)
      rw [hsplit] at ih ⊢
      intro w hw
      rcases List.mem_cons.1 hw with rfl | hw
      · intro d hd
        rcases List.mem_cons.1 hd with rfl | hd
        · simpa using hc
        · exact ih v (by simp) d hd
      · exact ih w (by simp [hw])

/-- Every word of a list is one. -/
theorem isWord_of_mem_tokens {l w : List α} (hw : w ∈ tokens sep l) : IsWord sep w := by
  rw [tokens, List.mem_filter] at hw
  exact ⟨by simpa using hw.2, splitOnP_free l w hw.1⟩

/-- The words of words joined by a separator are those words. -/
theorem tokens_intercalate {s : α} (hs : sep s) {ws : List (List α)}
    (hws : ∀ w ∈ ws, IsWord sep w) : tokens sep ([s].intercalate ws) = ws := by
  induction ws with
  | nil => simp
  | cons w ws ih =>
    have hw := tokens_of_isWord (hws w (by simp))
    have hrest := ih fun v hv => hws v (by simp [hv])
    cases ws with
    | nil => simpa using hw
    | cons v vs =>
      rw [List.intercalate_cons_cons, List.append_assoc, List.singleton_append,
        tokens_append_cons _ _ hs, hw, hrest, List.singleton_append]

/-- Joined words are empty only when there is no word. -/
theorem intercalate_eq_nil {s : α} {ws : List (List α)} (hws : ∀ w ∈ ws, IsWord sep w) :
    [s].intercalate ws = [] ↔ ws = [] := by
  constructor
  · intro h
    match ws with
    | [] => rfl
    | [w] => exact absurd (by simpa using h) (hws w (by simp)).1
    | w :: v :: vs => simp at h
  · rintro rfl
    rfl

theorem head?_intercalate (s : α) {w : List α} (ws : List (List α)) (hw : w ≠ []) :
    ([s].intercalate (w :: ws)).head? = w.head? := by
  cases ws with
  | nil => simp
  | cons v vs =>
    cases w with
    | nil => exact absurd rfl hw
    | cons c w => simp

theorem getLast?_intercalate (s : α) {w : List α} (ws : List (List α)) (hw : w ≠ []) :
    ([s].intercalate (ws ++ [w])).getLast? = w.getLast? := by
  induction ws with
  | nil => simp
  | cons v vs ih =>
    rw [List.cons_append, List.intercalate_cons_of_ne_nil (by simp), List.getLast?_append, ih,
      List.getLast?_eq_some_getLast hw, Option.some_or]

/-- Joined words neither start nor end with what no word holds. -/
theorem stripBy_intercalate (s : α) {ws : List (List α)} (hws : ∀ w ∈ ws, IsWord sep w) :
    stripBy sep ([s].intercalate ws) = [s].intercalate ws := by
  apply stripBy_eq_self
  · intro c hc
    cases ws with
    | nil => cases hc
    | cons w ws =>
      have hw := hws w (by simp)
      rw [head?_intercalate s ws hw.1] at hc
      simpa using hw.2 c (List.mem_of_mem_head? hc)
  · intro c hc
    rcases List.eq_nil_or_concat ws with rfl | ⟨vs, w, rfl⟩
    · cases hc
    · have hw := hws w (by simp)
      rw [List.concat_eq_append, getLast?_intercalate s vs hw.1] at hc
      simpa using hw.2 c (List.mem_of_getLast? hc)

/-- The elements of joined words other than the marks between them. -/
theorem filter_intercalate {p : α → Bool} {s : α} (hs : p s = false) {ws : List (List α)}
    (hws : ∀ w ∈ ws, ∀ c ∈ w, p c = true) : ([s].intercalate ws).filter p = ws.flatten := by
  induction ws with
  | nil => rfl
  | cons w ws ih =>
    have hw : w.filter p = w := List.filter_eq_self.2 (hws w (by simp))
    have hrest := ih fun v hv => hws v (by simp [hv])
    cases ws with
    | nil => simpa using hw
    | cons v vs =>
      rw [List.intercalate_cons_cons, List.filter_append, List.filter_append, hrest, hw]
      simp [hs]

/-- Joining adds one mark between any two words. -/
theorem length_intercalate (s : α) {ws : List (List α)} (hne : ws ≠ []) :
    ([s].intercalate ws).length + 1 = ws.flatten.length + ws.length := by
  induction ws with
  | nil => exact absurd rfl hne
  | cons w ws ih =>
    cases ws with
    | nil => simp
    | cons v vs =>
      have hrest := ih (by simp)
      rw [List.intercalate_cons_cons]
      simp only [List.length_append, List.length_cons, List.length_nil, List.flatten_cons]
        at hrest ⊢
      omega

/-! ### Collapsing separators -/

/-- Replace each run of separators by one `x`; the flag says whether the character
before was a separator. -/
def collapse (sep : α → Bool) (x : α) : Bool → List α → List α
  | _, [] => []
  | inRun, c :: l =>
    if sep c then
      if inRun then collapse sep x true l else x :: collapse sep x true l
    else c :: collapse sep x false l

variable [DecidableEq α] {x : α}

/-- Trimming the front removes the mark of the first run, if the list starts with one. -/
theorem dropWhile_collapse (hx : sep x) (inRun : Bool) (l : List α) :
    (collapse sep x inRun l).dropWhile (· == x) = collapse sep x true l := by
  induction l generalizing inRun with
  | nil => cases inRun <;> rfl
  | cons c l ih =>
    unfold collapse
    by_cases hc : sep c
    · cases inRun <;> simp [hc, ih]
    · have hne : c ≠ x := by
        rintro rfl
        exact hc hx
      simp [hc, hne]

theorem rdropWhile_of_isWord (hx : sep x) {w : List α} (hw : IsWord sep w) :
    w.rdropWhile (· == x) = w := by
  rw [List.rdropWhile_eq_self_iff]
  intro hne heq
  have := hw.2 _ (List.getLast_mem hne)
  rw [beq_iff_eq] at heq
  rw [heq, hx] at this
  exact absurd this (by simp)

/-- Trimming the end of a collapsed list, after a run or after the beginning `w` of a word. -/
theorem rdropWhile_collapse (hx : sep x) (l : List α) :
    (collapse sep x true l).rdropWhile (· == x) = [x].intercalate (tokens sep l) ∧
      ∀ w, IsWord sep w → (w ++ collapse sep x false l).rdropWhile (· == x) =
        [x].intercalate (tokens sep (w ++ l)) := by
  induction l with
  | nil =>
    refine ⟨by simp [collapse], ?_⟩
    intro w hw
    simp [collapse, tokens_of_isWord hw, rdropWhile_of_isWord hx hw]
  | cons c l ih =>
    by_cases hc : sep c
    · refine ⟨by simpa [collapse, hc, tokens_cons hc] using ih.1, ?_⟩
      intro w hw
      -- `c` ends the word `w`; the mark stays if another word follows
      have hwords : tokens sep (w ++ c :: l) = w :: tokens sep l := by
        rw [tokens_append_cons w l hc, tokens_of_isWord hw, List.singleton_append]
      have hmark : (w ++ [x]).rdropWhile (· == x) = w := by
        rw [List.rdropWhile_concat_pos _ _ _ (by simp), rdropWhile_of_isWord hx hw]
      rw [hwords, collapse, if_pos hc, if_neg (by simp), List.append_cons, rdropWhile_append,
        ih.1]
      by_cases hnil : tokens sep l = []
      · simp [hnil, hmark]
      · have hne : ([x].intercalate (tokens sep l)) ≠ [] := by
          rwa [Ne, intercalate_eq_nil fun v hv => isWord_of_mem_tokens hv]
        rw [if_neg (by simpa using hne), List.intercalate_cons_of_ne_nil hnil]
    · have hword : ∀ w : List α, (∀ d ∈ w, sep d = false) → IsWord sep (w ++ [c]) := by
        intro w hw
        refine ⟨by simp, ?_⟩
        intro d hd
        rcases List.mem_append.1 hd with hd | hd
        · exact hw d hd
        · rw [List.mem_singleton.1 hd]
          simpa using hc
      refine ⟨by simpa [collapse, hc] using ih.2 [c] (hword [] (by simp)), ?_⟩
      intro w hw
      simpa [collapse, hc] using ih.2 (w ++ [c]) (hword w hw.2)

/-- **Collapsing the separators and trimming the marks** leaves the words joined by the
mark. -/
theorem strip_collapse (hx : sep x) (l : List α) :
    stripBy (· == x) (collapse sep x false l) = [x].intercalate (tokens sep l) := by
  rw [stripBy, dropWhile_collapse hx]
  exact (rdropWhile_collapse hx l).1

end Words

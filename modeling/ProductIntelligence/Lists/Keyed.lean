import Mathlib.Data.Finset.Card
import Mathlib.Data.Finset.Union

/-!
# Lists with keys

A list whose elements carry a key is read as a table.  Updating a key changes its element
where there is one and appends a new one otherwise, as a dictionary that remembers the order
of insertion does.

## Main definitions

* `update key k f l` — change the element of key `k` by `f`, or append `f none`.
* `lookup key k l` — the element of key `k`.

## Main results

* `keys_update`, `lookup_update_self`, `lookup_update_of_ne`, `update_eq_self` — what an
  update changes.
* `nodup_keys_foldl`, `mem_keys_foldl`, `lookup_foldl` — the keys after a loop of updates, and
  what is found under them.
-/

namespace Keyed

variable {α β κ : Type*} [DecidableEq κ] (key : α → κ)

/-- Change the first element of key `k` by `f`, or append `f none`. -/
def update (k : κ) (f : Option α → α) : List α → List α
  | [] => [f none]
  | a :: l => if key a = k then f (some a) :: l else a :: update k f l

/-- The first element of key `k`. -/
def lookup (k : κ) (l : List α) : Option α := l.find? fun a => key a = k

/-- The function yields elements of key `k` when given none or one of that key. -/
def Preserves (k : κ) (f : Option α → α) : Prop := ∀ o, (∀ a ∈ o, key a = k) → key (f o) = k

variable {key}

theorem keys_update {k : κ} {f : Option α → α} (hf : Preserves key k f) (l : List α) :
    (update key k f l).map key =
      if k ∈ l.map key then l.map key else l.map key ++ [k] := by
  induction l with
  | nil => simp [update, hf none (by simp)]
  | cons a l ih =>
    unfold update
    by_cases ha : key a = k
    · simp [ha, hf (some a) (by simpa using ha)]
    · have hne : k ≠ key a := fun h => ha h.symm
      rw [if_neg ha, List.map_cons, ih, List.map_cons]
      by_cases hmem : k ∈ l.map key
      · rw [if_pos hmem, if_pos (List.mem_cons_of_mem _ hmem)]
      · rw [if_neg hmem, if_neg (by simpa [hne] using hmem), List.cons_append]

theorem mem_keys_update {k k' : κ} {f : Option α → α} (hf : Preserves key k f) (l : List α) :
    k' ∈ (update key k f l).map key ↔ k' = k ∨ k' ∈ l.map key := by
  rw [keys_update hf]
  split
  · rename_i hk
    exact ⟨.inr, fun h => h.elim (fun h => h ▸ hk) id⟩
  · rw [List.mem_append, List.mem_singleton, or_comm]

/-- Updating keeps the keys distinct. -/
theorem nodup_keys_update {k : κ} {f : Option α → α} (hf : Preserves key k f) {l : List α}
    (h : (l.map key).Nodup) : ((update key k f l).map key).Nodup := by
  rw [keys_update hf]
  split
  · exact h
  · rename_i hk
    refine h.append (List.nodup_singleton k) ?_
    simpa using hk

theorem lookup_update_self {k : κ} {f : Option α → α} (hf : Preserves key k f) (l : List α) :
    lookup key k (update key k f l) = some (f (lookup key k l)) := by
  induction l with
  | nil => simp [update, lookup, hf none (by simp)]
  | cons a l ih =>
    unfold update
    by_cases ha : key a = k
    · simp [lookup, ha, hf (some a) (by simpa using ha)]
    · unfold lookup at ih ⊢
      rw [if_neg ha, List.find?_cons_of_neg (by simpa using ha),
        List.find?_cons_of_neg (by simpa using ha), ih]

theorem lookup_update_of_ne {k k' : κ} {f : Option α → α} (hf : Preserves key k f)
    (hne : k' ≠ k) (l : List α) : lookup key k' (update key k f l) = lookup key k' l := by
  induction l with
  | nil => simp [update, lookup, hf none (by simp), hne.symm]
  | cons a l ih =>
    unfold update
    by_cases ha : key a = k
    · have hfa : key (f (some a)) ≠ k' := by
        rw [hf (some a) (by simpa using ha)]
        exact hne.symm
      have hak : key a ≠ k' := by
        rw [ha]
        exact hne.symm
      rw [if_pos ha, lookup, lookup, List.find?_cons_of_neg (by simpa using hfa),
        List.find?_cons_of_neg (by simpa using hak)]
    · unfold lookup at ih ⊢
      rw [if_neg ha, List.find?_cons, List.find?_cons, ih]

/-- Updating an element to itself changes nothing. -/
theorem update_eq_self {k : κ} {f : Option α → α} {l : List α} {a : α}
    (ha : lookup key k l = some a) (hf : f (some a) = a) : update key k f l = l := by
  induction l with
  | nil => cases ha
  | cons b l ih =>
    unfold update
    by_cases hb : key b = k
    · rw [lookup, List.find?_cons_of_pos (by simpa using hb)] at ha
      cases ha
      rw [if_pos hb, hf]
    · rw [lookup, List.find?_cons_of_neg (by simpa using hb)] at ha
      rw [if_neg hb, ih ha]

/-- Of a table with distinct keys, what is found under a key is what has the key. -/
theorem lookup_eq_some_iff {k : κ} {l : List α} {a : α} (h : (l.map key).Nodup) :
    lookup key k l = some a ↔ a ∈ l ∧ key a = k := by
  constructor
  · intro ha
    exact ⟨List.mem_of_find?_eq_some ha, by simpa using List.find?_some ha⟩
  · rintro ⟨ha, rfl⟩
    induction l with
    | nil => cases ha
    | cons b l ih =>
      rw [List.map_cons, List.nodup_cons] at h
      rcases List.mem_cons.1 ha with rfl | ha
      · exact List.find?_cons_of_pos (by simp)
      · have hne : key b ≠ key a := fun hkey => h.1 (hkey ▸ List.mem_map_of_mem ha)
        rw [lookup, List.find?_cons_of_neg (by simpa using hne)]
        exact ih h.2 ha

theorem lookup_eq_none {k : κ} {l : List α} : lookup key k l = none ↔ k ∉ l.map key := by
  rw [lookup, List.find?_eq_none, List.mem_map, not_exists]
  simp only [decide_eq_true_eq, not_and]

/-- A map that keeps the keys maps what is found. -/
theorem lookup_map {k : κ} {g : α → α} (hg : ∀ a, key (g a) = key a) (l : List α) :
    lookup key k (l.map g) = (lookup key k l).map g := by
  induction l with
  | nil => rfl
  | cons a l ih =>
    unfold lookup at ih ⊢
    by_cases ha : key a = k
    · rw [List.map_cons, List.find?_cons_of_pos (by simpa [hg] using ha),
        List.find?_cons_of_pos (by simpa using ha), Option.map_some]
    · rw [List.map_cons, List.find?_cons_of_neg (by simpa [hg] using ha),
        List.find?_cons_of_neg (by simpa using ha), ih]

/-- Of a table with distinct keys, a selection that keeps the keys selects what is found. -/
theorem lookup_filterMap {k : κ} {key' : β → κ} {f : α → Option β}
    (hf : ∀ a, ∀ b ∈ f a, key' b = key a) {l : List α} (h : (l.map key).Nodup) :
    lookup key' k (l.filterMap f) = (lookup key k l).bind f := by
  induction l with
  | nil => rfl
  | cons a l ih =>
    rw [List.map_cons, List.nodup_cons] at h
    have ih := ih h.2
    unfold lookup at ih ⊢
    by_cases ha : key a = k
    · rw [List.find?_cons_of_pos (by simpa using ha), Option.bind_some]
      cases hfa : f a with
      | none =>
        -- the key is distinct from those of the rest
        rw [List.filterMap_cons_none hfa, ih, List.find?_eq_none.2, Option.bind_none]
        intro b hb hkey
        refine h.1 ?_
        rw [ha, ← of_decide_eq_true hkey]
        exact List.mem_map_of_mem hb
      | some b =>
        have hb : key' b = k := (hf a b hfa).trans ha
        rw [List.filterMap_cons_some hfa, List.find?_cons_of_pos (by simpa using hb)]
    · rw [List.find?_cons_of_neg (by simpa using ha)]
      cases hfa : f a with
      | none => rw [List.filterMap_cons_none hfa, ih]
      | some b =>
        have hb : key' b ≠ k := by
          rw [hf a b hfa]
          exact ha
        rw [List.filterMap_cons_some hfa, List.find?_cons_of_neg (by simpa using hb), ih]

omit [DecidableEq κ] in
/-- A selection that keeps the keys keeps them distinct. -/
theorem nodup_keys_filterMap {key' : β → κ} {f : α → Option β}
    (hf : ∀ a, ∀ b ∈ f a, key' b = key a) {l : List α} (h : (l.map key).Nodup) :
    ((l.filterMap f).map key').Nodup := by
  suffices hsub : ((l.filterMap f).map key').Sublist (l.map key) from h.sublist hsub
  clear h
  induction l with
  | nil => exact List.Sublist.refl _
  | cons a l ih =>
    cases hfa : f a with
    | none =>
      rw [List.filterMap_cons_none hfa]
      exact ih.cons _
    | some b =>
      rw [List.filterMap_cons_some hfa, List.map_cons, List.map_cons, hf a b hfa]
      exact ih.cons_cons _

/-- Past elements of other keys, an update changes the first element of its key. -/
theorem update_append_cons {k : κ} {f : Option α → α} {a : α} (ha : key a = k) {l₁ : List α}
    (hl₁ : k ∉ l₁.map key) (l₂ : List α) :
    update key k f (l₁ ++ a :: l₂) = l₁ ++ f (some a) :: l₂ := by
  induction l₁ with
  | nil => rw [List.nil_append, update, if_pos ha, List.nil_append]
  | cons b l₁ ih =>
    rw [List.map_cons, List.mem_cons, not_or] at hl₁
    rw [List.cons_append, update, if_neg (Ne.symm hl₁.1), ih hl₁.2, List.cons_append]

/-! ### Loops of updates -/

/-- A loop that updates the elements of a table in place maps them. -/
theorem foldl_update_self {p : α → Prop} [DecidablePred p] {g : α → α}
    (hg : ∀ a, key (g a) = key a) {l : List α} (h : (l.map key).Nodup) :
    l.foldl (fun acc a => if p a then update key (key a) (fun _ => g a) acc else acc) l =
      l.map fun a => if p a then g a else a := by
  -- by induction on what is left, the elements before it being mapped already
  suffices hloop : ∀ done rest : List α, done ++ rest = l →
      rest.foldl (fun acc a => if p a then update key (key a) (fun _ => g a) acc else acc)
        ((done.map fun a => if p a then g a else a) ++ rest) =
          l.map fun a => if p a then g a else a from hloop [] l rfl
  intro done rest
  induction rest generalizing done with
  | nil =>
    rintro rfl
    simp
  | cons a rest ih =>
    intro hl
    have hkeys : (done.map fun a => if p a then g a else a).map key = done.map key := by
      rw [List.map_map]
      refine List.map_congr_left fun b _ => ?_
      show key (if p b then g b else b) = key b
      split
      · exact hg b
      · rfl
    have hnew : key a ∉ (done.map fun a => if p a then g a else a).map key := by
      rw [hkeys]
      intro hmem
      rw [← hl, List.map_append, List.map_cons, List.nodup_append] at h
      exact h.2.2 _ hmem _ (List.mem_cons_self ..) rfl
    have hnext := ih (done ++ [a]) (by rw [List.append_assoc, List.singleton_append, hl])
    rw [List.map_append, List.map_singleton, List.append_assoc, List.singleton_append] at hnext
    rw [List.foldl_cons]
    by_cases ha : p a
    · rw [if_pos ha] at hnext ⊢
      rw [update_append_cons rfl hnew]
      exact hnext
    · rw [if_neg ha] at hnext ⊢
      exact hnext

section Loop

variable {source : β → κ} {f : β → Option α → α}

/-- After a loop of updates the keys are distinct. -/
theorem nodup_keys_foldl (hf : ∀ b, Preserves key (source b) (f b)) (bs : List β) {l : List α}
    (h : (l.map key).Nodup) :
    ((bs.foldl (fun l b => update key (source b) (f b) l) l).map key).Nodup := by
  induction bs generalizing l with
  | nil => exact h
  | cons b bs ih => exact ih (nodup_keys_update (hf b) h)

/-- After a loop of updates the keys are those of before and those of the loop. -/
theorem mem_keys_foldl (hf : ∀ b, Preserves key (source b) (f b)) (bs : List β) (l : List α)
    (k : κ) :
    k ∈ (bs.foldl (fun l b => update key (source b) (f b) l) l).map key ↔
      k ∈ l.map key ∨ k ∈ bs.map source := by
  induction bs generalizing l with
  | nil => simp
  | cons b bs ih =>
    rw [List.foldl_cons, ih, mem_keys_update (hf b), List.map_cons, List.mem_cons]
    tauto

/-- After a loop of updates with distinct keys, an element is updated by its own, if any. -/
theorem lookup_foldl (hf : ∀ b, Preserves key (source b) (f b)) {bs : List β}
    (h : (bs.map source).Nodup) (l : List α) (k : κ) :
    lookup key k (bs.foldl (fun l b => update key (source b) (f b) l) l) =
      (lookup source k bs).elim (lookup key k l) fun b => some (f b (lookup key k l)) := by
  induction bs generalizing l with
  | nil => rfl
  | cons b bs ih =>
    rw [List.map_cons, List.nodup_cons] at h
    rw [List.foldl_cons, ih h.2]
    by_cases hb : source b = k
    · subst hb
      -- no later update is of this key
      have hlater : lookup source (source b) bs = none := lookup_eq_none.2 h.1
      have hfirst : lookup source (source b) (b :: bs) = some b :=
        List.find?_cons_of_pos (by simp)
      rw [hlater, hfirst, Option.elim_none, Option.elim_some, lookup_update_self (hf b)]
    · have hskip : lookup source k (b :: bs) = lookup source k bs :=
        List.find?_cons_of_neg (by simpa using hb)
      rw [hskip, lookup_update_of_ne (hf b) (Ne.symm hb)]

end Loop

/-- A table with distinct keys has as many elements as keys. -/
theorem card_keys {l : List α} (h : (l.map key).Nodup) :
    (l.map key).toFinset.card = l.length := by
  rw [List.toFinset_card_of_nodup h, List.length_map]

end Keyed

import Mathlib.Data.Finset.Card
import Mathlib.Data.List.Perm.Subperm
import ProductIntelligence.Lists.StableSort

/-!
# The best `k` of a list

Ranking by a score, best first and stably, and what it means that a list holds the best `k`
of some candidates.

## Main definitions

* `rank score l` — `l` sorted by decreasing score, equal scores in the order of `l`.
* `IsStableRanking score l ranked` — what this says of `ranked`.
* `IsTopK score k candidates best` — `best` are `k` candidates of highest score, in order.
* `SameUpToTies score l l'` — two rankings that differ only where scores are equal.

## Main results

* `isStableRanking_rank` — ranking is stable.
* `exists_rank_insert` — one more element leaves the ranking of the others as it is.
* `isTopK_take_rank` — the first `k` after ranking are the best `k`.
* `IsTopK.subperm`, `IsTopK.nodup_map` — the best `k` are candidates, with distinct keys if
  the candidates have distinct keys.
* `IsTopK.sameUpToTies` — the best `k` are determined up to ties.
* `min_card_union`, `min_card_erase_union` — fetching the best `m` of two sources loses
  nothing of the best `k ≤ m` of both.
-/

namespace Ranking

variable {α κ : Type*} [LinearOrder κ] (score : α → κ)

/-- Sort by decreasing score, keeping the order of equal scores. -/
def rank (l : List α) : List α := l.insertionSort fun a b => score b ≤ score a

theorem rank_perm (l : List α) : (rank score l).Perm l := List.perm_insertionSort _ l

@[simp] theorem length_rank (l : List α) : (rank score l).length = l.length :=
  (rank_perm score l).length_eq

@[simp] theorem mem_rank {l : List α} {a : α} : a ∈ rank score l ↔ a ∈ l :=
  (rank_perm score l).mem_iff

theorem rank_sorted (l : List α) : (rank score l).Pairwise fun a b => score b ≤ score a := by
  have htotal : Std.Total fun a b : α => score b ≤ score a := ⟨fun a b => le_total _ _⟩
  have htrans : IsTrans α fun a b => score b ≤ score a := ⟨fun a b c hab hbc => hbc.trans hab⟩
  exact List.pairwise_insertionSort _ l

/-- What is ranked by a score stays in its order. -/
theorem filter_rank (l : List α) (c : κ) :
    (rank score l).filter (fun a => score a = c) = l.filter fun a => score a = c := by
  refine StableSort.filter_insertionSort (List.pairwise_of_forall_mem_list fun a ha b hb => ?_)
  rw [List.mem_filter, decide_eq_true_eq] at ha hb
  exact (hb.2.trans ha.2.symm).le

/-- `ranked` is `l` by decreasing score, with equal scores in the order of `l`. -/
structure IsStableRanking (l ranked : List α) : Prop where
  perm : ranked.Perm l
  sorted : ranked.Pairwise fun a b => score b ≤ score a
  stable : ∀ c, ranked.filter (fun a => score a = c) = l.filter fun a => score a = c

theorem isStableRanking_rank (l : List α) : IsStableRanking score l (rank score l) :=
  ⟨rank_perm score l, rank_sorted score l, filter_rank score l⟩

/-- Inserting into a sorted list leaves each element of it where it is among the others. -/
theorem exists_orderedInsert_append {r : α → α → Prop} [DecidableRel r] [IsTrans α r] (a x : α)
    {l₁ l₂ : List α} (hsorted : (l₁ ++ x :: l₂).Pairwise r) :
    ∃ s₁ s₂, (l₁ ++ x :: l₂).orderedInsert r a = s₁ ++ x :: s₂ ∧
      (l₁ ++ l₂).orderedInsert r a = s₁ ++ s₂ := by
  induction l₁ with
  | nil =>
    by_cases hax : r a x
    · -- what follows `x` follows `a` as well
      refine ⟨[a], l₂, List.orderedInsert_cons_of_le _ _ hax, ?_⟩
      rw [List.nil_append, List.pairwise_cons] at hsorted
      cases l₂ with
      | nil => rfl
      | cons y l₂ =>
        exact List.orderedInsert_cons_of_le _ _
          (Trans.trans hax (hsorted.1 y (List.mem_cons_self ..)))
    · exact ⟨[], l₂.orderedInsert r a, List.orderedInsert_of_not_le _ _ hax, rfl⟩
  | cons b l₁ ih =>
    rw [List.cons_append, List.pairwise_cons] at hsorted
    by_cases hab : r a b
    · exact ⟨a :: b :: l₁, l₂, List.orderedInsert_cons_of_le _ _ hab,
        List.orderedInsert_cons_of_le _ _ hab⟩
    · obtain ⟨s₁, s₂, hwith, hwithout⟩ := ih hsorted.2
      refine ⟨b :: s₁, s₂, ?_, ?_⟩
      · rw [List.cons_append, List.orderedInsert_of_not_le _ _ hab, hwith, List.cons_append]
      · rw [List.cons_append, List.orderedInsert_of_not_le _ _ hab, hwithout, List.cons_append]

/-- **One more element leaves the ranking of the others as it is.** -/
theorem exists_rank_insert (l₁ : List α) (a : α) (l₂ : List α) :
    ∃ r₁ r₂, rank score (l₁ ++ a :: l₂) = r₁ ++ a :: r₂ ∧ rank score (l₁ ++ l₂) = r₁ ++ r₂ := by
  have htrans : IsTrans α fun a b => score b ≤ score a := ⟨fun a b c hab hbc => hbc.trans hab⟩
  induction l₁ with
  | nil =>
    refine ⟨(rank score l₂).takeWhile fun b => ¬ score b ≤ score a,
      (rank score l₂).dropWhile fun b => ¬ score b ≤ score a, ?_, ?_⟩
    · exact List.orderedInsert_eq_take_drop _ _ _
    · exact List.takeWhile_append_dropWhile.symm
  | cons b l₁ ih =>
    obtain ⟨r₁, r₂, hwith, hwithout⟩ := ih
    have hsorted := rank_sorted score (l₁ ++ a :: l₂)
    rw [hwith] at hsorted
    obtain ⟨s₁, s₂, hs, hs'⟩ := exists_orderedInsert_append b a hsorted
    refine ⟨s₁, s₂, ?_, ?_⟩
    · rw [← hs, ← hwith]
      rfl
    · rw [← hs', ← hwithout]
      rfl

/-- `best` are the `k` candidates of highest score, or all if there are fewer, best first. -/
structure IsTopK (k : ℕ) (candidates best : List α) : Prop where
  length_eq : best.length = min k candidates.length
  sorted : best.Pairwise fun a b => score b ≤ score a
  rest : ∃ rest, (best ++ rest).Perm candidates ∧ ∀ a ∈ best, ∀ b ∈ rest, score b ≤ score a

/-- The first `k` after ranking are the best `k`. -/
theorem isTopK_take_rank (k : ℕ) (l : List α) : IsTopK score k l ((rank score l).take k) where
  length_eq := by rw [List.length_take, length_rank]
  sorted := (rank_sorted score l).sublist (List.take_sublist _ _)
  rest := by
    refine ⟨(rank score l).drop k, ?_, ?_⟩
    · rw [List.take_append_drop]
      exact rank_perm score l
    · have hsorted := rank_sorted score l
      rw [← List.take_append_drop k (rank score l), List.pairwise_append] at hsorted
      exact hsorted.2.2

variable {score}

variable (score) in
/-- Of no candidates the best are none. -/
theorem isTopK_nil (k : ℕ) : IsTopK score k ([] : List α) [] :=
  ⟨by simp, List.Pairwise.nil, [], List.Perm.refl _, by simp⟩

/-- The best `k` are candidates. -/
theorem IsTopK.subperm {k : ℕ} {candidates best : List α} (h : IsTopK score k candidates best) :
    best.Subperm candidates := by
  obtain ⟨rest, hperm, -⟩ := h.rest
  exact (List.sublist_append_left best rest).subperm.trans hperm.subperm

/-- Candidates with distinct keys have their best `k` with distinct keys. -/
theorem IsTopK.nodup_map {β : Type*} {key : α → β} {k : ℕ} {candidates best : List α}
    (h : IsTopK score k candidates best) (hnodup : (candidates.map key).Nodup) :
    (best.map key).Nodup := by
  obtain ⟨rest, hperm, -⟩ := h.rest
  have hall := (hperm.map key).nodup_iff.2 hnodup
  rw [List.map_append] at hall
  exact hall.of_append_left

/-- When there are no more than `k` candidates, the best `k` are all of them. -/
theorem IsTopK.perm_of_length_le {k : ℕ} {candidates best : List α}
    (h : IsTopK score k candidates best) (hk : candidates.length ≤ k) : best.Perm candidates :=
  h.subperm.perm_of_length_le (by rw [h.length_eq, min_eq_right hk])

theorem IsTopK.congr {k : ℕ} {candidates candidates' best : List α}
    (h : IsTopK score k candidates best) (hperm : candidates.Perm candidates') :
    IsTopK score k candidates' best where
  length_eq := by rw [h.length_eq, hperm.length_eq]
  sorted := h.sorted
  rest := by
    obtain ⟨rest, hrest, hle⟩ := h.rest
    exact ⟨rest, hrest.trans hperm, hle⟩

/-- The best `k` under another name, for a score that reads the same under it. -/
theorem IsTopK.map {β : Type*} {score' : β → κ} {f : α → β} {k : ℕ} {candidates best : List α}
    (h : IsTopK score k candidates best) (hf : ∀ a ∈ candidates, score' (f a) = score a) :
    IsTopK score' k (candidates.map f) (best.map f) where
  length_eq := by rw [List.length_map, List.length_map, h.length_eq]
  sorted := by
    refine List.pairwise_map.2 (h.sorted.imp_of_mem fun {a b} ha hb hab => ?_)
    rwa [hf a (h.subperm.subset ha), hf b (h.subperm.subset hb)]
  rest := by
    obtain ⟨rest, hperm, hle⟩ := h.rest
    refine ⟨rest.map f, by simpa using hperm.map f, ?_⟩
    simp only [List.forall_mem_map]
    intro a ha b hb
    rw [hf a (h.subperm.subset ha), hf b (hperm.subset (List.mem_append_right _ hb))]
    exact hle a ha b hb

/-! ### Ties -/

/-- The scores of a ranking do not depend on the order of the list. -/
theorem map_rank_congr {l l' : List α} (h : l.Perm l') :
    (rank score l).map score = (rank score l').map score := by
  have hscores : ((rank score l).map score).Perm ((rank score l').map score) :=
    (((rank_perm score l).trans h).trans (rank_perm score l').symm).map score
  have hsorted : ∀ l, ((rank score l).map score).Pairwise (· ≥ ·) := fun l =>
    List.pairwise_map.2 (rank_sorted score l)
  exact hscores.eq_of_pairwise (fun _ _ _ _ hab hba => hba.antisymm hab) (hsorted l) (hsorted l')

/-- The scores of the best `k` are the first `k` of the ranking. -/
theorem IsTopK.map_score {k : ℕ} {candidates best : List α}
    (h : IsTopK score k candidates best) :
    best.map score = ((rank score candidates).take k).map score := by
  obtain ⟨rest, hperm, hle⟩ := h.rest
  -- with the rest ranked too, all candidates are ranked
  have hall : (best ++ rank score rest).Perm candidates :=
    ((rank_perm score rest).append_left best).trans hperm
  have hsorted : (best ++ rank score rest).Pairwise fun a b => score b ≤ score a :=
    List.pairwise_append.2 ⟨h.sorted, rank_sorted score rest, fun a ha b hb =>
      hle a ha b ((mem_rank score).1 hb)⟩
  have hranked : rank score (best ++ rank score rest) = best ++ rank score rest := by
    have htotal : Std.Total fun a b : α => score b ≤ score a := ⟨fun a b => le_total _ _⟩
    have htrans : IsTrans α fun a b => score b ≤ score a :=
      ⟨fun a b c hab hbc => hbc.trans hab⟩
    exact hsorted.insertionSort_eq
  have hlength := h.length_eq
  have hscores : (rank score (best ++ rank score rest)).map score =
      (rank score candidates).map score := map_rank_congr hall
  rw [hranked, List.map_append] at hscores
  rw [List.map_take, ← hscores]
  rcases le_total k candidates.length with hk | hk
  · rw [List.take_left' (by rw [List.length_map, hlength, min_eq_left hk])]
  · -- nothing is left to rank
    have hnil : rest = [] := by
      have := hperm.length_eq
      rw [List.length_append] at this
      exact List.length_eq_zero_iff.1 (by omega)
    rw [hnil]
    simp only [rank, List.insertionSort_nil, List.map_nil, List.append_nil]
    rw [List.take_of_length_le (by rw [List.length_map]; omega)]

variable (score) in
/-- Two rankings agree up to ties: they have the same scores, and the same members above their
lowest score. -/
structure SameUpToTies (l l' : List α) : Prop where
  map_score : l.map score = l'.map score
  mem_iff : ∀ a, (∃ b ∈ l, score b < score a) → (a ∈ l ↔ a ∈ l')

/-- **The best `k` are determined up to ties**, whatever the order of the candidates. -/
theorem IsTopK.sameUpToTies {k : ℕ} {candidates candidates' best best' : List α}
    (h : IsTopK score k candidates best) (h' : IsTopK score k candidates' best')
    (hperm : candidates.Perm candidates') : SameUpToTies score best best' := by
  have hscores : best.map score = best'.map score := by
    rw [h.map_score, h'.map_score, List.map_take, List.map_take, map_rank_congr hperm]
  obtain ⟨rest, hrest, hle⟩ := h.rest
  obtain ⟨rest', hrest', hle'⟩ := h'.rest
  refine ⟨hscores, fun a ⟨b, hb, hlt⟩ => ⟨fun ha => ?_, fun ha => ?_⟩⟩
  · -- were it left out, all that is taken would be as good
    have hmem : a ∈ best' ++ rest' :=
      hrest'.mem_iff.2 (hperm.subset (h.subperm.subset ha))
    rcases List.mem_append.1 hmem with hmem | hmem
    · exact hmem
    · obtain ⟨b', hb', hscore⟩ := List.mem_map.1 (hscores ▸ List.mem_map_of_mem hb)
      exact absurd (hle' b' hb' a hmem) (not_le.2 (hscore ▸ hlt))
  · have hmem : a ∈ best ++ rest := hrest.mem_iff.2 (hperm.mem_iff.2 (h'.subperm.subset ha))
    rcases List.mem_append.1 hmem with hmem | hmem
    · exact hmem
    · exact absurd (hle b hb a hmem) (not_le.2 hlt)

/-- Without ties the two are equal. -/
theorem SameUpToTies.eq {l l' : List α} (h : SameUpToTies score l l')
    (hscore : ∀ a ∈ l, ∀ b ∈ l', score a = score b → a = b) : l = l' := by
  have hscores := h.map_score
  clear h
  induction l generalizing l' with
  | nil => exact (List.map_eq_nil_iff.1 hscores.symm).symm
  | cons a l ih =>
    cases l' with
    | nil => cases hscores
    | cons b l' =>
      rw [List.map_cons, List.map_cons, List.cons.injEq] at hscores
      rw [hscore a (List.mem_cons_self ..) b (List.mem_cons_self ..) hscores.1]
      rw [ih (fun a ha b hb => hscore a (List.mem_cons_of_mem _ ha) b (List.mem_cons_of_mem _ hb))
        hscores.2]

/-! ### Fetching from two sources -/

section Sources

variable {ι : Type*} [DecidableEq ι] {A A' B B' : Finset ι} {k m : ℕ}

/-- Up to `k` elements, the union of `m` of each source is the union of the sources. -/
theorem min_card_union (hA : A' ⊆ A) (hB : B' ⊆ B) (hAcard : A'.card = min m A.card)
    (hBcard : B'.card = min m B.card) (hk : k ≤ m) :
    min k (A' ∪ B').card = min k (A ∪ B).card := by
  by_cases hfit : A.card ≤ m ∧ B.card ≤ m
  · -- both sources were fetched whole
    have hAeq : A' = A := Finset.eq_of_subset_of_card_le hA (by omega)
    have hBeq : B' = B := Finset.eq_of_subset_of_card_le hB (by omega)
    rw [hAeq, hBeq]
  · have hsub := Finset.card_le_card (Finset.union_subset_union hA hB)
    have hleft := Finset.card_le_card (Finset.subset_union_left : A' ⊆ A' ∪ B')
    have hright := Finset.card_le_card (Finset.subset_union_right : B' ⊆ A' ∪ B')
    omega

/-- The same without one element, for which one more is fetched. -/
theorem min_card_erase_union (hA : A' ⊆ A) (hB : B' ⊆ B) (hAcard : A'.card = min m A.card)
    (hBcard : B'.card = min m B.card) (hk : k + 1 ≤ m) (target : ι) :
    min k ((A' ∪ B').erase target).card = min k ((A ∪ B).erase target).card := by
  by_cases hfit : A.card ≤ m ∧ B.card ≤ m
  · have hAeq : A' = A := Finset.eq_of_subset_of_card_le hA (by omega)
    have hBeq : B' = B := Finset.eq_of_subset_of_card_le hB (by omega)
    rw [hAeq, hBeq]
  · have hsub := Finset.card_le_card
      (Finset.erase_subset_erase target (Finset.union_subset_union hA hB))
    have hleft := Finset.card_le_card (Finset.subset_union_left : A' ⊆ A' ∪ B')
    have hright := Finset.card_le_card (Finset.subset_union_right : B' ⊆ A' ∪ B')
    have herase : (A' ∪ B').card - 1 ≤ ((A' ∪ B').erase target).card :=
      Finset.pred_card_le_card_erase
    omega

end Sources

end Ranking

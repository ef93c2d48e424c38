import Mathlib.Algebra.GroupWithZero.Nat
import Mathlib.Algebra.Order.BigOperators.Group.List
import Mathlib.Algebra.Order.Group.Nat
import ProductIntelligence.Lists.Keyed

/-!
# Round robin over groups

Grouping a list by a key, in order of first appearance, and taking one element of each group
in turn until enough are taken.  The loop stops as soon as it has enough or a whole round adds
nothing; it is the first part of the concatenation of all rounds.

## Main definitions

* `groupBy key l` — the groups of `l`, each in the order of `l`.
* `rounds groups n` — the first `n` rounds, one after the other.
* `loop groups k fuel r acc` — the loop, from round `r` on.
* `Runs` — the loop run to its end.
* `firsts key l` — the first round: the first element of each key.

## Main results

* `lookup_groupBy`, `mem_groupBy` — a group holds the elements of its key.
* `map_groupBy_perm` — what is read off the groups does not depend on the order of the list.
* `loop_eq`, `runs_take_rounds` — the loop ends, with the first `k` of all rounds.
* `loop_groupBy_subperm`, `length_loop_groupBy` — it takes elements of the list, as many as
  there are, up to `k`.
* `filter_loop_groupBy_isPrefix`, `loop_groupBy_fair` — it takes of each key what comes first, and
  of no key two more than of another that has more.
* `take_loop_groupBy`, `firsts_sublist` — it begins with the first of each key, in order.
-/

namespace RoundRobin

variable {α κ : Type*}

/-! ### Grouping -/

section Group

variable [DecidableEq κ]

/-- The groups of `l` by key, in order of first appearance. -/
def groupBy (key : α → κ) (l : List α) : List (κ × List α) :=
  l.foldl (fun groups a => Keyed.update Prod.fst (key a)
    (fun group => (key a, (group.map Prod.snd).getD [] ++ [a])) groups) []

/-- The sizes of the groups. -/
def sizes (groups : List (κ × List α)) : List ℕ := groups.map fun group => group.2.length

/-- One more element goes to its group. -/
theorem groupBy_concat (key : α → κ) (l : List α) (a : α) :
    groupBy key (l ++ [a]) = Keyed.update Prod.fst (key a)
      (fun group => (key a, (group.map Prod.snd).getD [] ++ [a])) (groupBy key l) := by
  unfold groupBy
  rw [List.foldl_append]
  rfl

omit [DecidableEq κ] in
theorem preserves_append (k : κ) (a : α) :
    Keyed.Preserves Prod.fst k fun group : Option (κ × List α) =>
      (k, (group.map Prod.snd).getD [] ++ [a]) := fun _ _ => rfl

theorem nodup_keys_groupBy (key : α → κ) (l : List α) :
    ((groupBy key l).map Prod.fst).Nodup :=
  Keyed.nodup_keys_foldl (fun a => preserves_append (key a) a) l List.nodup_nil

/-- The group of a key holds the elements of that key, in order. -/
theorem lookup_groupBy (key : α → κ) (l : List α) (k : κ) :
    (((Keyed.lookup Prod.fst k (groupBy key l)).map Prod.snd).getD []) =
      l.filter fun a => key a = k := by
  induction l using List.reverseRecOn with
  | nil => rfl
  | append_singleton l a ih =>
    rw [groupBy_concat, List.filter_append]
    by_cases hk : key a = k
    · subst hk
      rw [Keyed.lookup_update_self (preserves_append _ a), Option.map_some, Option.getD_some, ih,
        List.filter_cons_of_pos (by simp), List.filter_nil]
    · rw [Keyed.lookup_update_of_ne (preserves_append _ a) (Ne.symm hk), ih,
        List.filter_cons_of_neg (by simpa using hk), List.filter_nil, List.append_nil]

/-- The keys of the groups are those of the elements. -/
theorem mem_keys_groupBy {key : α → κ} {l : List α} {k : κ} :
    k ∈ (groupBy key l).map Prod.fst ↔ ∃ a ∈ l, key a = k := by
  rw [groupBy, Keyed.mem_keys_foldl fun a => preserves_append (key a) a]
  simp

/-- A group is what the list holds of its key. -/
theorem mem_groupBy {key : α → κ} {l : List α} {k : κ} {group : List α} :
    (k, group) ∈ groupBy key l ↔ (∃ a ∈ l, key a = k) ∧ group = l.filter fun a => key a = k := by
  have hlookup := lookup_groupBy key l k
  constructor
  · intro h
    rw [(Keyed.lookup_eq_some_iff (nodup_keys_groupBy key l)).2 ⟨h, rfl⟩] at hlookup
    exact ⟨mem_keys_groupBy.1 (List.mem_map_of_mem h), hlookup⟩
  · rintro ⟨hkey, rfl⟩
    obtain ⟨⟨k', group⟩, hmem, rfl⟩ := List.mem_map.1 (mem_keys_groupBy.2 hkey)
    rw [(Keyed.lookup_eq_some_iff (nodup_keys_groupBy key l)).2 ⟨hmem, rfl⟩] at hlookup
    have hgroup : group = l.filter fun a => key a = k' := hlookup
    exact hgroup ▸ hmem

/-- Adding an element to its group adds it to the groups. -/
theorem flatMap_update_perm (k : κ) (a : α) (groups : List (κ × List α)) :
    ((Keyed.update Prod.fst k (fun group => (k, (group.map Prod.snd).getD [] ++ [a]))
      groups).flatMap Prod.snd).Perm (groups.flatMap Prod.snd ++ [a]) := by
  induction groups with
  | nil => exact List.Perm.refl _
  | cons group groups ih =>
    unfold Keyed.update
    split
    · simp only [List.flatMap_cons, Option.map_some, Option.getD_some, List.append_assoc]
      exact List.perm_append_comm.append_left _
    · simp only [List.flatMap_cons, List.append_assoc]
      exact ih.append_left _

/-- The groups hold the elements of the list. -/
theorem flatMap_groupBy_perm (key : α → κ) (l : List α) :
    ((groupBy key l).flatMap Prod.snd).Perm l := by
  induction l using List.reverseRecOn with
  | nil => exact List.Perm.refl _
  | append_singleton l a ih =>
    rw [groupBy_concat]
    exact (flatMap_update_perm _ a _).trans (ih.append_right [a])

/-- The groups hold every element once. -/
theorem sum_sizes_groupBy (key : α → κ) (l : List α) :
    (sizes (groupBy key l)).sum = l.length := by
  rw [← (flatMap_groupBy_perm key l).length_eq, List.length_flatMap]
  rfl

/-- What is read off the groups, from their keys. -/
theorem map_groupBy {β : Type*} (key : α → κ) (f : κ → List α → β) (l : List α) :
    ((groupBy key l).map fun entry => f entry.1 entry.2) =
      ((groupBy key l).map Prod.fst).map fun k => f k (l.filter fun a => key a = k) := by
  rw [List.map_map]
  refine List.map_congr_left ?_
  rintro ⟨k, group⟩ h
  exact congrArg (f k) (mem_groupBy.1 h).2

/-- Lists with the same keys have the same groups' keys, up to their order. -/
theorem keys_groupBy_perm_of_keys (key : α → κ) {l l' : List α}
    (h : ∀ k, (∃ a ∈ l, key a = k) ↔ ∃ a ∈ l', key a = k) :
    ((groupBy key l).map Prod.fst).Perm ((groupBy key l').map Prod.fst) := by
  refine (List.perm_ext_iff_of_nodup (nodup_keys_groupBy key l)
    (nodup_keys_groupBy key l')).2 fun k => ?_
  rw [mem_keys_groupBy, mem_keys_groupBy]
  exact h k

/-- The same elements in another order have the same keys. -/
theorem keys_groupBy_perm (key : α → κ) {l l' : List α} (h : l.Perm l') :
    ((groupBy key l).map Prod.fst).Perm ((groupBy key l').map Prod.fst) :=
  keys_groupBy_perm_of_keys key fun _ => exists_congr fun _ => and_congr_left' h.mem_iff

/-- What is read off the groups of two lists with the same keys is the same up to order, if it is
the same for each key. -/
theorem map_groupBy_perm_of_keys {β : Type*} (key : α → κ) {f : List α → β} {l l' : List α}
    (h : ∀ k, (∃ a ∈ l, key a = k) ↔ ∃ a ∈ l', key a = k)
    (hf : ∀ k, f (l.filter fun a => key a = k) = f (l'.filter fun a => key a = k)) :
    ((groupBy key l).map fun entry => f entry.2).Perm
      ((groupBy key l').map fun entry => f entry.2) := by
  have hsame : (fun k => f (l.filter fun a => key a = k)) =
      fun k => f (l'.filter fun a => key a = k) := funext hf
  rw [map_groupBy key fun _ => f, map_groupBy key fun _ => f, hsame]
  exact (keys_groupBy_perm_of_keys key h).map _

/-- What is read off the groups, whatever their order, does not depend on the order of the list. -/
theorem map_groupBy_perm {β : Type*} (key : α → κ) {f : κ → List α → β}
    (hf : ∀ k {group group' : List α}, group.Perm group' → f k group = f k group') {l l' : List α}
    (h : l.Perm l') : ((groupBy key l).map fun entry => f entry.1 entry.2).Perm
      ((groupBy key l').map fun entry => f entry.1 entry.2) := by
  have hsame : (fun k => f k (l.filter fun a => key a = k)) =
      fun k => f k (l'.filter fun a => key a = k) := by
    funext k
    exact hf k (h.filter _)
  rw [map_groupBy, map_groupBy, hsame]
  exact (keys_groupBy_perm key h).map _

end Group

/-! ### Rounds -/

/-- Round `r`: the `r`-th element of each group that has one. -/
def round (groups : List (List α)) (r : ℕ) : List α := groups.filterMap fun group => group[r]?

/-- The first `n` rounds. -/
def rounds (groups : List (List α)) (n : ℕ) : List α := (List.range n).flatMap (round groups)

theorem rounds_succ (groups : List (List α)) (n : ℕ) :
    rounds groups (n + 1) = rounds groups n ++ round groups n := by
  rw [rounds, List.range_succ, List.flatMap_append, List.flatMap_singleton]
  rfl

/-- A round adds nothing once every group is used up. -/
theorem round_eq_nil {groups : List (List α)} {r : ℕ} :
    round groups r = [] ↔ ∀ group ∈ groups, group.length ≤ r := by
  simp [round, List.filterMap_eq_nil_iff]

/-- Rounds after one that adds nothing add nothing. -/
theorem rounds_of_le {groups : List (List α)} {r n : ℕ} (h : round groups r = []) (hn : r ≤ n) :
    rounds groups n = rounds groups r := by
  induction n, hn using Nat.le_induction with
  | base => rfl
  | succ n hn ih =>
    have hnil : round groups n = [] := by
      rw [round_eq_nil] at h ⊢
      exact fun group hgroup => (h group hgroup).trans hn
    rw [rounds_succ, hnil, List.append_nil, ih]

theorem rounds_isPrefix (groups : List (List α)) {r n : ℕ} (h : r ≤ n) :
    rounds groups r <+: rounds groups n := by
  induction n, h using Nat.le_induction with
  | base => exact List.prefix_refl _
  | succ n _ ih =>
    rw [rounds_succ]
    exact ih.trans (List.prefix_append _ _)

theorem round_cons (group : List α) (groups : List (List α)) (r : ℕ) :
    round (group :: groups) r = group[r]?.toList ++ round groups r := by
  unfold round
  rw [List.filterMap_cons]
  cases group[r]? <;> rfl

/-- After `n` rounds each group has given its first `n` elements. -/
theorem rounds_perm (groups : List (List α)) (n : ℕ) :
    (rounds groups n).Perm (groups.flatMap (List.take n)) := by
  induction groups with
  | nil => simp [rounds, round]
  | cons group groups ih =>
    have hsplit : (rounds (group :: groups) n).Perm (group.take n ++ rounds groups n) := by
      clear ih
      induction n with
      | zero => exact List.Perm.refl _
      | succ n ih =>
        rw [rounds_succ, rounds_succ, round_cons, List.take_add_one, List.append_assoc]
        refine (ih.append_right _).trans ?_
        rw [List.append_assoc]
        refine List.Perm.append_left _ ?_
        rw [← List.append_assoc, ← List.append_assoc]
        exact List.perm_append_comm.append_right _
    rw [List.flatMap_cons]
    exact hsplit.trans (ih.append_left _)

/-- The first `k` of all rounds are some whole rounds and part of the next. -/
theorem exists_take_rounds (groups : List (List α)) (k n : ℕ) :
    ∃ r, rounds groups r <+: (rounds groups n).take k ∧
      (rounds groups n).take k <+: rounds groups (r + 1) := by
  induction n with
  | zero => exact ⟨0, by simp [rounds], by simp [rounds]⟩
  | succ n ih =>
    by_cases hk : (rounds groups n).length ≤ k
    · refine ⟨n, ?_, List.take_prefix _ _⟩
      rw [List.prefix_take_iff]
      exact ⟨rounds_isPrefix groups (Nat.le_succ n), hk⟩
    · obtain ⟨more, hmore⟩ := rounds_isPrefix groups (Nat.le_succ n)
      rw [← hmore, List.take_append_of_le_length (by omega)]
      exact ih

/-! ### One group among the rounds -/

section OneGroup

variable [DecidableEq κ] (key : α → κ) (l : List α)

/-- The groups of a list, without their keys. -/
theorem map_snd_groupBy : (groupBy key l).map Prod.snd =
    ((groupBy key l).map Prod.fst).map fun k => l.filter fun a => key a = k :=
  map_groupBy key (fun _ group => group) l

omit [DecidableEq κ] in
/-- What a round takes from a group has its key. -/
theorem key_of_getElem? [DecidableEq κ] {k : κ} {r : ℕ} {a : α}
    (h : (l.filter fun a => key a = k)[r]? = some a) : key a = k :=
  of_decide_eq_true (List.mem_filter.1 (List.mem_of_getElem? h)).2

/-- A round takes from the group of a key what the list holds of it in that place. -/
theorem filter_round_groupBy (k : κ) (r : ℕ) :
    (round ((groupBy key l).map Prod.snd) r).filter (fun a => key a = k) =
      ((l.filter fun a => key a = k)[r]?).toList := by
  -- each of some distinct keys is taken from once
  have hkeys : ∀ ks : List κ, ks.Nodup →
      (round (ks.map fun k => l.filter fun a => key a = k) r).filter (fun a => key a = k) =
        if k ∈ ks then ((l.filter fun a => key a = k)[r]?).toList else [] := by
    intro ks
    induction ks with
    | nil => exact fun _ => rfl
    | cons k' ks ih =>
      intro hnodup
      rw [List.nodup_cons] at hnodup
      rw [List.map_cons, round_cons, List.filter_append, ih hnodup.2]
      by_cases hk : k' = k
      · subst hk
        rw [if_neg hnodup.1, if_pos (List.mem_cons_self ..), List.append_nil]
        refine List.filter_eq_self.2 fun a ha => ?_
        exact decide_eq_true (key_of_getElem? key l (Option.mem_toList.1 ha))
      · have hother : ((l.filter fun a => key a = k')[r]?).toList.filter (fun a => key a = k) =
            [] := by
          refine List.filter_eq_nil_iff.2 fun a ha => ?_
          rw [decide_eq_true_eq, key_of_getElem? key l (Option.mem_toList.1 ha)]
          exact hk
        have hmem : k ∈ k' :: ks ↔ k ∈ ks := by
          rw [List.mem_cons, or_iff_right (Ne.symm hk)]
        rw [hother, List.nil_append]
        simp only [hmem]
  rw [map_snd_groupBy, hkeys _ (nodup_keys_groupBy key l)]
  by_cases hk : k ∈ (groupBy key l).map Prod.fst
  · rw [if_pos hk]
  · -- a key without a group has no elements
    have hnil : (l.filter fun a => key a = k) = [] := by
      refine List.filter_eq_nil_iff.2 fun a ha hkey => hk ?_
      exact mem_keys_groupBy.2 ⟨a, ha, of_decide_eq_true hkey⟩
    rw [if_neg hk, hnil]
    rfl

/-- After `n` rounds the group of a key has given its first `n` elements, in order. -/
theorem filter_rounds_groupBy (k : κ) (n : ℕ) :
    (rounds ((groupBy key l).map Prod.snd) n).filter (fun a => key a = k) =
      (l.filter fun a => key a = k).take n := by
  induction n with
  | zero => rfl
  | succ n ih =>
    rw [rounds_succ, List.filter_append, ih, filter_round_groupBy, List.take_add_one]

end OneGroup

/-! ### The loop -/

/-- Take the `r`-th element of each group until `k` are taken. -/
def fillRound (k r : ℕ) (acc : List α) : List (List α) → List α
  | [] => acc
  | group :: groups =>
    match group[r]? with
    | some a => if (acc ++ [a]).length = k then acc ++ [a] else fillRound k r (acc ++ [a]) groups
    | none => fillRound k r acc groups

/-- Take rounds until `k` elements are taken or a round adds nothing. -/
def loop (groups : List (List α)) (k : ℕ) : ℕ → ℕ → List α → List α
  | 0, _, acc => acc
  | fuel + 1, r, acc =>
    if k ≤ acc.length then acc
    else
      let next := fillRound k r acc groups
      if next.length = acc.length then next else loop groups k fuel (r + 1) next

/-- One round of the loop. -/
theorem fillRound_eq {k r : ℕ} (groups : List (List α)) {acc : List α} (h : acc.length < k) :
    fillRound k r acc groups = (acc ++ round groups r).take k := by
  induction groups generalizing acc with
  | nil =>
    rw [fillRound, round, List.filterMap_nil, List.append_nil, List.take_of_length_le h.le]
  | cons group groups ih =>
    unfold fillRound round
    rw [List.filterMap_cons]
    cases hget : group[r]? with
    | none => exact ih h
    | some a =>
      have hsplit : acc ++ a :: groups.filterMap (fun group => group[r]?) =
          (acc ++ [a]) ++ round groups r := List.append_cons _ _ _
      dsimp only
      rw [hsplit]
      split
      · rename_i hfull
        rw [← hfull, List.take_left]
      · rename_i hroom
        apply ih
        rw [List.length_append, List.length_singleton] at hroom ⊢
        omega

section Loop

variable {groups : List (List α)} {k n r : ℕ}

/-- With enough taken, later rounds do not matter. -/
theorem take_rounds_of_full (hrn : r ≤ n) (hfull : k ≤ ((rounds groups r).take k).length) :
    (rounds groups r).take k = (rounds groups n).take k := by
  obtain ⟨more, hmore⟩ := rounds_isPrefix groups hrn
  rw [List.length_take] at hfull
  rw [← hmore, List.take_append_of_le_length (by omega)]

/-- With room left, a round of the loop is a round. -/
theorem fillRound_rounds (hroom : ((rounds groups r).take k).length < k) :
    (rounds groups r).take k = rounds groups r ∧
      fillRound k r ((rounds groups r).take k) groups = (rounds groups (r + 1)).take k := by
  have hlength : (rounds groups r).length < k := by
    rw [List.length_take] at hroom
    omega
  have hacc : (rounds groups r).take k = rounds groups r := List.take_of_length_le hlength.le
  refine ⟨hacc, ?_⟩
  rw [fillRound_eq groups hroom, hacc, rounds_succ]

/-- A round of the loop that adds nothing has nothing to add. -/
theorem round_of_dry (hroom : ((rounds groups r).take k).length < k)
    (hdry : ((rounds groups (r + 1)).take k).length = ((rounds groups r).take k).length) :
    round groups r = [] := by
  rw [(fillRound_rounds hroom).1, List.length_take, rounds_succ, List.length_append] at hdry
  rw [(fillRound_rounds hroom).1] at hroom
  rw [← List.length_eq_zero_iff]
  omega

/-- **The loop takes the first `k` elements of all rounds**, given fuel for as many rounds as
the longest group has elements. -/
theorem loop_eq {fuel : ℕ} (hn : ∀ group ∈ groups, group.length ≤ n) (hfuel : n ≤ r + fuel) :
    loop groups k fuel r ((rounds groups r).take k) = (rounds groups n).take k := by
  have hall : round groups n = [] := round_eq_nil.2 hn
  induction fuel generalizing r with
  | zero =>
    rw [loop, rounds_of_le hall (show n ≤ r by omega)]
  | succ fuel ih =>
    unfold loop
    by_cases hfull : k ≤ ((rounds groups r).take k).length
    · rw [if_pos hfull]
      rcases le_total r n with hrn | hrn
      · exact take_rounds_of_full hrn hfull
      · rw [rounds_of_le hall hrn]
    · have hroom := not_le.1 hfull
      rw [if_neg hfull, (fillRound_rounds hroom).2]
      dsimp only
      split
      · rename_i hdry
        -- the round added nothing, so neither do later ones
        have hnil := round_of_dry hroom hdry
        rw [rounds_succ, hnil, List.append_nil]
        rcases le_total r n with hrn | hrn
        · rw [rounds_of_le hnil hrn]
        · rw [rounds_of_le hall hrn]
      · exact ih (by omega)

/-- The loop run to its end from round `r` on: it stops once enough is taken or a round adds
nothing. -/
inductive Runs (groups : List (List α)) (k : ℕ) : ℕ → List α → List α → Prop
  /-- Enough is taken. -/
  | full {r : ℕ} {acc : List α} : k ≤ acc.length → Runs groups k r acc acc
  /-- The round adds nothing. -/
  | dry {r : ℕ} {acc : List α} : acc.length < k →
    (fillRound k r acc groups).length = acc.length → Runs groups k r acc (fillRound k r acc groups)
  /-- The round adds something. -/
  | more {r : ℕ} {acc out : List α} : acc.length < k →
    (fillRound k r acc groups).length ≠ acc.length →
    Runs groups k (r + 1) (fillRound k r acc groups) out → Runs groups k r acc out

/-- **The loop ends**, with the first `k` elements of all rounds. -/
theorem runs_take_rounds (hn : ∀ group ∈ groups, group.length ≤ n) (hr : r ≤ n) :
    Runs groups k r ((rounds groups r).take k) ((rounds groups n).take k) := by
  have hall : round groups n = [] := round_eq_nil.2 hn
  induction hr using Nat.decreasingInduction with
  | self =>
    by_cases hfull : k ≤ ((rounds groups n).take k).length
    · exact .full hfull
    · have hroom := not_le.1 hfull
      have hsame : fillRound k n ((rounds groups n).take k) groups = (rounds groups n).take k := by
        rw [(fillRound_rounds hroom).2, rounds_succ, hall, List.append_nil]
      have hdry := Runs.dry hroom (congrArg List.length hsame)
      rwa [hsame] at hdry
  | of_succ r hr ih =>
    by_cases hfull : k ≤ ((rounds groups r).take k).length
    · rw [← take_rounds_of_full hr.le hfull]
      exact .full hfull
    · have hroom := not_le.1 hfull
      have hnext := (fillRound_rounds hroom).2
      by_cases hdry : ((rounds groups (r + 1)).take k).length = ((rounds groups r).take k).length
      · have hnil := round_of_dry hroom hdry
        have hsame : fillRound k r ((rounds groups r).take k) groups =
            (rounds groups n).take k := by
          rw [hnext, rounds_succ, hnil, List.append_nil, rounds_of_le hnil hr.le]
        have hstop := Runs.dry hroom (by rw [hnext, hdry])
        rwa [hsame] at hstop
      · refine .more hroom (by rwa [hnext]) ?_
        rwa [hnext]

end Loop

/-! ### The first round -/

section First

variable [DecidableEq κ] (key : α → κ) (l : List α)

/-- The first round over the groups of a list: the first element of each key. -/
def firsts : List α := round ((groupBy key l).map Prod.snd) 0

/-- An element is taken in the first round when it is the first of its key. -/
theorem mem_firsts {a : α} :
    a ∈ firsts key l ↔ (l.filter fun b => key b = key a)[0]? = some a := by
  have hround := filter_round_groupBy key l (key a) 0
  rw [← Option.mem_toList, ← hround, List.mem_filter, firsts, decide_eq_true_eq,
    and_iff_left rfl]

/-- The first round takes one element of each key, in order of first appearance. -/
theorem map_key_firsts : (firsts key l).map key = (groupBy key l).map Prod.fst := by
  rw [firsts, round, List.filterMap_map, List.map_filterMap, ← List.filterMap_eq_map]
  refine List.filterMap_congr fun entry hentry => ?_
  obtain ⟨⟨a, ha, hkey⟩, hgroup⟩ := mem_groupBy.1 hentry
  rw [Function.comp_apply, hgroup]
  cases hfirst : (l.filter fun a => key a = entry.1)[0]? with
  | none =>
    rw [List.getElem?_eq_none_iff, Nat.le_zero, List.length_eq_zero_iff,
      List.filter_eq_nil_iff] at hfirst
    exact absurd (decide_eq_true hkey) (hfirst a ha)
  | some b => exact congrArg some (key_of_getElem? key l hfirst)

/-- A new element is taken in the first round when it is the first of its key. -/
theorem firsts_concat (a : α) : firsts key (l ++ [a]) =
    firsts key l ++ if ∃ b ∈ l, key b = key a then [] else [a] := by
  have hne : ∀ entry ∈ groupBy key l, entry.2 ≠ [] := by
    intro entry hentry hnil
    obtain ⟨⟨b, hb, hkey⟩, hgroup⟩ := mem_groupBy.1 hentry
    rw [hgroup, List.filter_eq_nil_iff] at hnil
    exact hnil b hb (decide_eq_true hkey)
  have hkeys : key a ∈ (groupBy key l).map Prod.fst ↔ ∃ b ∈ l, key b = key a := mem_keys_groupBy
  rw [firsts, firsts, groupBy_concat]
  simp only [← hkeys]
  generalize groupBy key l = groups at hne
  induction groups with
  | nil => rfl
  | cons entry groups ih =>
    have ih := ih fun entry hentry => hne entry (List.mem_cons_of_mem _ hentry)
    unfold Keyed.update
    by_cases hkey : entry.1 = key a
    · -- the first of a group that has one stays
      obtain ⟨b, group, hgroup⟩ := List.exists_cons_of_ne_nil (hne entry (List.mem_cons_self ..))
      rw [if_pos hkey, if_pos (by rw [← hkey]; exact List.mem_cons_self ..), List.append_nil,
        List.map_cons, List.map_cons, round_cons, round_cons, Option.map_some, Option.getD_some,
        hgroup]
      rfl
    · have hmem : key a ∈ (entry :: groups).map Prod.fst ↔ key a ∈ groups.map Prod.fst := by
        rw [List.map_cons, List.mem_cons, or_iff_right (Ne.symm hkey)]
      rw [if_neg hkey, List.map_cons, List.map_cons, round_cons, round_cons, ih,
        List.append_assoc]
      simp only [hmem]

/-- **The first round keeps the order of the list.** -/
theorem firsts_sublist : (firsts key l).Sublist l := by
  induction l using List.reverseRecOn with
  | nil => exact List.Sublist.refl _
  | append_singleton l a ih =>
    rw [firsts_concat]
    refine ih.append ?_
    split
    · exact List.nil_sublist _
    · exact List.Sublist.refl _

/-- The first round begins with the head of the list. -/
theorem head?_firsts : (firsts key l).head? = l.head? := by
  induction l using List.reverseRecOn with
  | nil => rfl
  | append_singleton l a ih =>
    rw [firsts_concat, List.head?_append, List.head?_append, ih]
    cases l with
    | nil => rfl
    | cons b l => rfl

/-- The elements of a list without repetition, in order of first appearance. -/
theorem mem_firsts_id [DecidableEq α] {l : List α} {a : α} : a ∈ firsts id l ↔ a ∈ l := by
  have hkeys : a ∈ (firsts id l).map id ↔ ∃ b ∈ l, id b = a := by
    rw [map_key_firsts]
    exact mem_keys_groupBy
  simpa using hkeys

/-- A new element is taken when the list does not hold it. -/
theorem firsts_id_concat [DecidableEq α] (l : List α) (a : α) :
    firsts id (l ++ [a]) = if a ∈ l then firsts id l else firsts id l ++ [a] := by
  rw [firsts_concat]
  simp only [id, exists_eq_right]
  split
  · exact List.append_nil _
  · rfl

end First

/-! ### Grouped elements in rounds -/

section Grouped

variable [DecidableEq κ] (key : α → κ) (l : List α) (k : ℕ)

/-- No group is longer than the list, so its length is enough fuel. -/
theorem length_le_of_mem_groups {group : List α} (h : group ∈ (groupBy key l).map Prod.snd) :
    group.length ≤ l.length := by
  rw [← sum_sizes_groupBy key l]
  apply List.le_sum_of_mem
  obtain ⟨entry, hentry, rfl⟩ := List.mem_map.1 h
  exact List.mem_map.2 ⟨entry, hentry, rfl⟩

/-- Grouped elements taken in rounds are the first `k` of all rounds. -/
theorem loop_groupBy_eq : loop ((groupBy key l).map Prod.snd) k l.length 0 [] =
    (rounds ((groupBy key l).map Prod.snd) l.length).take k := by
  have hloop := loop_eq (k := k) (r := 0) (fun _ => length_le_of_mem_groups key l)
    (Nat.le_add_left _ 0)
  rwa [rounds, List.range_zero, List.flatMap_nil, List.take_nil] at hloop

/-- The loop over groups ends. -/
theorem runs_loop_groupBy : Runs ((groupBy key l).map Prod.snd) k 0 []
    (loop ((groupBy key l).map Prod.snd) k l.length 0 []) := by
  have hruns := runs_take_rounds (k := k) (fun _ => length_le_of_mem_groups key l)
    (Nat.zero_le l.length)
  rw [loop_groupBy_eq]
  rwa [rounds, List.range_zero, List.flatMap_nil, List.take_nil] at hruns

/-- All rounds hold the elements of the list. -/
theorem rounds_groupBy_perm :
    (rounds ((groupBy key l).map Prod.snd) l.length).Perm l := by
  refine (rounds_perm _ _).trans ?_
  have htake : ((groupBy key l).map Prod.snd).flatMap (List.take l.length) =
      (groupBy key l).flatMap Prod.snd := by
    rw [List.flatMap_map]
    refine List.flatMap_congr fun entry hentry => List.take_of_length_le ?_
    exact length_le_of_mem_groups key l (List.mem_map_of_mem hentry)
  rw [htake]
  exact flatMap_groupBy_perm key l

/-- **Grouped elements taken in rounds** are distinct elements of the list. -/
theorem loop_groupBy_subperm :
    (loop ((groupBy key l).map Prod.snd) k l.length 0 []).Subperm l := by
  rw [loop_groupBy_eq]
  exact (List.take_sublist _ _).subperm.trans (rounds_groupBy_perm key l).subperm

/-- Grouped elements taken in rounds are as many as there are, up to `k`. -/
theorem length_loop_groupBy :
    (loop ((groupBy key l).map Prod.snd) k l.length 0 []).length = min k l.length := by
  rw [loop_groupBy_eq, List.length_take, (rounds_groupBy_perm key l).length_eq]

/-- The loop begins with the first round. -/
theorem take_loop_groupBy :
    (loop ((groupBy key l).map Prod.snd) k l.length 0 []).take (firsts key l).length =
      (firsts key l).take k := by
  have hbegin : firsts key l <+: rounds ((groupBy key l).map Prod.snd) l.length := by
    cases l with
    | nil => exact List.nil_prefix
    | cons a l =>
      have hone := rounds_isPrefix ((groupBy key (a :: l)).map Prod.snd)
        (Nat.succ_le_succ (Nat.zero_le l.length))
      rwa [rounds_succ] at hone
  obtain ⟨more, hmore⟩ := hbegin
  rw [loop_groupBy_eq, ← hmore, List.take_take, min_comm, ← List.take_take, List.take_left]

/-- The loop begins with the head of the list. -/
theorem head?_loop_groupBy (hk : 0 < k) :
    (loop ((groupBy key l).map Prod.snd) k l.length 0 []).head? = l.head? := by
  have htake := congrArg List.head? (take_loop_groupBy key l k)
  rw [List.head?_take, List.head?_take, if_neg hk.ne', head?_firsts] at htake
  cases l with
  | nil => rfl
  | cons a l =>
    have hne : (firsts key (a :: l)).length ≠ 0 := by
      have hhead := head?_firsts key (a :: l)
      intro hnil
      rw [List.length_eq_zero_iff.1 hnil] at hhead
      cases hhead
    rwa [if_neg hne] at htake

/-- **Whole rounds and part of the next**: after some number of rounds each key has given that
many elements, or one more, or all it has; and what it has given is what comes first. -/
theorem exists_round_loop_groupBy : ∃ r, ∀ key',
    ((l.filter fun a => key a = key').take r) <+:
        (loop ((groupBy key l).map Prod.snd) k l.length 0 []).filter (fun a => key a = key') ∧
      (loop ((groupBy key l).map Prod.snd) k l.length 0 []).filter (fun a => key a = key') <+:
        (l.filter fun a => key a = key').take (r + 1) := by
  obtain ⟨r, hbelow, habove⟩ := exists_take_rounds ((groupBy key l).map Prod.snd) k l.length
  refine ⟨r, fun key' => ?_⟩
  rw [loop_groupBy_eq, ← filter_rounds_groupBy, ← filter_rounds_groupBy]
  exact ⟨hbelow.filter _, habove.filter _⟩

/-- What the loop takes of a key comes first among the elements of that key. -/
theorem filter_loop_groupBy_isPrefix (key' : κ) :
    (loop ((groupBy key l).map Prod.snd) k l.length 0 []).filter (fun a => key a = key') <+:
      l.filter fun a => key a = key' := by
  obtain ⟨r, hround⟩ := exists_round_loop_groupBy key l k
  exact (hround key').2.trans (List.take_prefix _ _)

/-- **The loop is fair**: a key gives at most one element more than another, unless the other
has no more. -/
theorem loop_groupBy_fair (key' key'' : κ) :
    ((loop ((groupBy key l).map Prod.snd) k l.length 0 []).filter
        fun a => key a = key'').length ≤
      ((loop ((groupBy key l).map Prod.snd) k l.length 0 []).filter
        fun a => key a = key').length + 1 ∨
    (loop ((groupBy key l).map Prod.snd) k l.length 0 []).filter (fun a => key a = key') =
      l.filter fun a => key a = key' := by
  obtain ⟨r, hround⟩ := exists_round_loop_groupBy key l k
  have hbelow := (hround key').1.length_le
  have habove := (hround key'').2.length_le
  rw [List.length_take] at hbelow habove
  by_cases hr : r ≤ (l.filter fun a => key a = key').length
  · left
    omega
  · -- the key had given all it has before the last round
    right
    refine (filter_loop_groupBy_isPrefix key l k key').eq_of_length_le ?_
    omega

end Grouped

end RoundRobin

import Mathlib.Tactic.Common

/-!
# Computations that may fail

How a sequence of fallible steps ends in terms of its steps.

## Main results

* `Except.bind_eq_ok`, `Except.bind_eq_error` — a sequence succeeds when each step does, and
  fails with the first step that fails.
* `Except.error_or_ok_of_congr` — two computations that fail alike.
* `Except.mapError_eq_ok`, `Except.mapError_bind` — renaming errors changes no success, and may be
  done step by step.
* `Except.mapM_eq_ok`, `Except.forall₂_of_mapM` — a traversal whose every step succeeds.
* `Except.mapM_error_forall` — which errors a traversal can end in.
* `Option.exists_mapM`, `Option.forall₂_of_mapM` — a traversal succeeds when its step does on
  every element, and what it yields.
-/

namespace Except

universe u v

variable {ε : Type v} {α β : Type u}

theorem bind_eq_ok {m : Except ε α} {k : α → Except ε β} {b : β} :
    (m >>= k) = .ok b ↔ ∃ a, m = .ok a ∧ k a = .ok b := by
  cases m with
  | error e => simp [bind, Except.bind]
  | ok a => simp [bind, Except.bind]

theorem pure_eq_ok {a b : α} : (pure a : Except ε α) = .ok b ↔ b = a := by
  constructor
  · intro h
    cases h
    rfl
  · rintro rfl
    rfl

theorem bind_eq_error {m : Except ε α} {k : α → Except ε β} {e : ε} :
    (m >>= k) = .error e ↔ m = .error e ∨ ∃ a, m = .ok a ∧ k a = .error e := by
  cases m with
  | error e' => simp [bind, Except.bind]
  | ok a => simp [bind, Except.bind]

/-- Two computations that fail with the same errors fail together or succeed together. -/
theorem error_or_ok_of_congr {α' : Type*} {m : Except ε α} {m' : Except ε α'}
    (h : ∀ e, m = .error e ↔ m' = .error e) :
    (∃ e, m = .error e ∧ m' = .error e) ∨ ∃ a a', m = .ok a ∧ m' = .ok a' := by
  cases m with
  | error e => exact .inl ⟨e, rfl, (h e).1 rfl⟩
  | ok a =>
    cases m' with
    | error e => cases (h e).2 rfl
    | ok a' => exact .inr ⟨a, a', rfl, rfl⟩

theorem map_eq_ok {β : Type u} {m : Except ε α} {f : α → β} {b : β} :
    m.map f = .ok b ↔ ∃ a, m = .ok a ∧ f a = b := by
  cases m with
  | error e => simp [Except.map]
  | ok a => simp [Except.map]

theorem mapError_eq_ok {ε' : Type v} {m : Except ε α} {f : ε → ε'} {a : α} :
    m.mapError f = .ok a ↔ m = .ok a := by
  cases m with
  | error e => simp [Except.mapError]
  | ok a' => simp [Except.mapError]

theorem mapError_bind {ε' : Type v} {m : Except ε α} {k : α → Except ε β} {f : ε → ε'} :
    (m >>= k).mapError f = m.mapError f >>= fun a => (k a).mapError f := by
  cases m with
  | error e => rfl
  | ok a => rfl

theorem toOption_eq_some {m : Except ε α} {a : α} : m.toOption = some a ↔ m = .ok a := by
  cases m with
  | error e => simp [Except.toOption]
  | ok a' => simp [Except.toOption]

theorem toOption_eq_none {m : Except ε α} : m.toOption = none ↔ ∃ e, m = .error e := by
  cases m with
  | error e => simp [Except.toOption]
  | ok a => simp [Except.toOption]

/-- A traversal succeeds when its step does on every element. -/
theorem mapM_eq_ok {α β : Type*} {f : α → Except ε β} {g : α → β} {l : List α}
    (h : ∀ a ∈ l, f a = .ok (g a)) : l.mapM f = .ok (l.map g) := by
  induction l with
  | nil => rfl
  | cons a l ih =>
    have hrest := ih fun b hb => h b (by simp [hb])
    rw [List.mapM_cons, h a (by simp), hrest]
    rfl

/-- A traversal that succeeds yields one result for each element, in order. -/
theorem forall₂_of_mapM {α β : Type*} {f : α → Except ε β} {l : List α} {bs : List β}
    (h : l.mapM f = .ok bs) : List.Forall₂ (fun a b => f a = .ok b) l bs := by
  induction l generalizing bs with
  | nil =>
    cases h
    exact .nil
  | cons a l ih =>
    rw [List.mapM_cons] at h
    obtain ⟨b, hb, h⟩ := bind_eq_ok.1 h
    obtain ⟨rest, hrest, h⟩ := bind_eq_ok.1 h
    cases h
    exact .cons hb (ih hrest)

/-- A traversal ends in errors of one kind only, exactly when each step that fails otherwise
comes after a step that fails in that kind. -/
theorem mapM_error_forall {α β : Type*} {f : α → Except ε β} {P : ε → Prop} {l : List α} :
    (∀ e, l.mapM f = .error e → P e) ↔
      ∀ before a after, l = before ++ a :: after → (∃ e, f a = .error e ∧ ¬ P e) →
        ∃ b ∈ before, ∃ e, f b = .error e ∧ P e := by
  induction l with
  | nil =>
    refine ⟨fun _ before a after hl => ?_, fun _ e he => ?_⟩
    · simp at hl
    · cases he
  | cons a l ih =>
    cases hfa : f a with
    | error e =>
      have hrun : (a :: l).mapM f = .error e := by simp [List.mapM_cons, hfa, bind, Except.bind]
      refine ⟨fun h before b after hl hb => ?_, fun h e' he' => ?_⟩
      · have hP := h e hrun
        cases before with
        | nil =>
          cases hl
          obtain ⟨e', he', hnot⟩ := hb
          cases hfa.symm.trans he'
          exact absurd hP hnot
        | cons c before =>
          cases hl
          exact ⟨a, List.mem_cons_self .., e, hfa, hP⟩
      · cases hrun.symm.trans he'
        by_contra hnot
        obtain ⟨b, hb, -⟩ := h [] a l rfl ⟨e, hfa, hnot⟩
        cases hb
    | ok b =>
      have hrun : ∀ e, (a :: l).mapM f = .error e ↔ l.mapM f = .error e := by
        intro e
        rw [List.mapM_cons, hfa]
        cases l.mapM f with
        | error e' => simp [bind, Except.bind]
        | ok bs => simp [bind, Except.bind, pure, Except.pure]
      simp only [hrun, ih]
      refine ⟨fun h before c after hl hc => ?_, fun h before c after hl hc => ?_⟩
      · cases before with
        | nil =>
          cases hl
          obtain ⟨e, he, -⟩ := hc
          cases hfa.symm.trans he
        | cons d before =>
          cases hl
          obtain ⟨b', hb', hfail⟩ := h before c after rfl hc
          exact ⟨b', List.mem_cons_of_mem _ hb', hfail⟩
      · obtain ⟨b', hb', e, he, hP⟩ := h (a :: before) c after (by rw [hl, List.cons_append]) hc
        rcases List.mem_cons.1 hb' with rfl | hb'
        · cases hfa.symm.trans he
        · exact ⟨b', hb', e, he, hP⟩

end Except

namespace Option

theorem exists_mapM {α β : Type*} {f : α → Option β} {l : List α}
    (h : ∀ a ∈ l, (f a).isSome) : ∃ bs, l.mapM f = some bs ∧ bs.length = l.length := by
  induction l with
  | nil => exact ⟨[], rfl, rfl⟩
  | cons a l ih =>
    obtain ⟨b, hb⟩ := Option.isSome_iff_exists.1 (h a (by simp))
    obtain ⟨bs, hbs, hlen⟩ := ih fun c hc => h c (by simp [hc])
    exact ⟨b :: bs, by simp [List.mapM_cons, hb, hbs], by simp [hlen]⟩

/-- A traversal that succeeds yields one result for each element, in order. -/
theorem forall₂_of_mapM {α β : Type*} {f : α → Option β} {l : List α} {bs : List β}
    (h : l.mapM f = some bs) : List.Forall₂ (fun a b => f a = some b) l bs := by
  induction l generalizing bs with
  | nil =>
    cases h
    exact .nil
  | cons a l ih =>
    rw [List.mapM_cons] at h
    obtain ⟨b, hb, h⟩ := Option.bind_eq_some_iff.1 h
    obtain ⟨rest, hrest, h⟩ := Option.bind_eq_some_iff.1 h
    cases h
    exact .cons hb (ih hrest)

/-- A traversal that fails does so at some element. -/
theorem exists_eq_none_of_mapM {α β : Type*} {f : α → Option β} {l : List α}
    (h : l.mapM f = none) : ∃ a ∈ l, f a = none := by
  by_contra hall
  have hsome : ∀ a ∈ l, (f a).isSome := by
    intro a ha
    rw [Option.isSome_iff_ne_none]
    exact fun hnone => hall ⟨a, ha, hnone⟩
  obtain ⟨bs, hbs, -⟩ := exists_mapM hsome
  rw [h] at hbs
  cases hbs

/-- What a traversal yields comes from the elements, and every element yields something. -/
theorem mem_of_mapM {α β : Type*} {f : α → Option β} {l : List α} {bs : List β}
    (h : l.mapM f = some bs) :
    (∀ a ∈ l, ∃ b ∈ bs, f a = some b) ∧ ∀ b ∈ bs, ∃ a ∈ l, f a = some b := by
  replace h := forall₂_of_mapM h
  induction h with
  | nil => exact ⟨fun _ ha => (by cases ha), fun _ hb => (by cases hb)⟩
  | @cons a b l bs hab _ ih =>
    obtain ⟨hto, hfrom⟩ := ih
    refine ⟨fun a' ha' => ?_, fun b' hb' => ?_⟩
    · rcases List.mem_cons.1 ha' with rfl | ha'
      · exact ⟨b, List.mem_cons_self .., hab⟩
      · obtain ⟨b', hb', hf⟩ := hto a' ha'
        exact ⟨b', List.mem_cons_of_mem _ hb', hf⟩
    · rcases List.mem_cons.1 hb' with rfl | hb'
      · exact ⟨a, List.mem_cons_self .., hab⟩
      · obtain ⟨a', ha', hf⟩ := hfrom b' hb'
        exact ⟨a', List.mem_cons_of_mem _ ha', hf⟩

end Option

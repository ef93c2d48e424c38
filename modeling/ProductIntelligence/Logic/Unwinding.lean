import Mathlib.Tactic.Common

/-!
# Two runs that an observer cannot tell apart

A machine takes one input after another, answers each and moves on.  Some inputs are the
observer's own, which may depend on the state; the rest are made by others.  When the states
that look alike to the observer are related by an *unwinding*, what others do is not seen: two
runs with the same inputs of the observer's give it the same answers.

## Main definitions

* `exchanges` — the observer's inputs in a run, each with what it sees of the answer.
* `StepsMeet` — every step of a run meets a condition.
* `Unwinding` — a relation on states that every step of others keeps, and that answers to the
  observer respect.

## Main results

* `Unwinding.exchanges_eq` — runs with the same inputs of the observer's look alike to it.
-/

namespace Effects

variable {σ ι ω ν : Type*}

section Runs

variable (step : σ → ι → ω × σ)

/-- The observer's inputs in a run, each with what it sees of the answer. -/
def exchanges (mine : σ → ι → Bool) (see : ι → ω → ν) : σ → List ι → List (ι × ν)
  | _, [] => []
  | s, i :: is =>
    if mine s i then (i, see i (step s i).1) :: exchanges mine see (step s i).2 is
    else exchanges mine see (step s i).2 is

/-- Every step of a run meets a condition in the state it is taken from. -/
def StepsMeet (ok : σ → ι → Prop) : σ → List ι → Prop
  | _, [] => True
  | s, i :: is => ok s i ∧ StepsMeet ok (step s i).2 is

end Runs

/-- **An unwinding**: a symmetric relation that the steps of others keep on one side, and that
the observer's steps, when both sides take them, keep with answers that look alike. -/
structure Unwinding (step : σ → ι → ω × σ) (mine : σ → ι → Bool) (see : ι → ω → ν)
    (ok : σ → ι → Prop) (R : σ → σ → Prop) : Prop where
  symm : ∀ {s s'}, R s s' → R s' s
  other : ∀ {s s' i}, R s s' → ok s i → mine s i = false → R (step s i).2 s'
  own : ∀ {s s' i}, R s s' → ok s i → ok s' i → mine s i = true → mine s' i = true →
    see i (step s i).1 = see i (step s' i).1 ∧ R (step s i).2 (step s' i).2

namespace Unwinding

variable {step : σ → ι → ω × σ} {mine : σ → ι → Bool} {see : ι → ω → ν} {ok : σ → ι → Prop}
  {R : σ → σ → Prop}

/-- After the steps of others the observer's next input is found, in a state that looks the
same. -/
theorem exists_of_exchanges_cons (hR : Unwinding step mine see ok R) {s s' : σ} {is : List ι}
    {i : ι} {seen : List ι} (h : R s s') (hok : StepsMeet step ok s is)
    (hnext : (exchanges step mine see s is).map Prod.fst = i :: seen) :
    ∃ t rest, R t s' ∧ mine t i = true ∧ StepsMeet step ok t (i :: rest) ∧
      (exchanges step mine see (step t i).2 rest).map Prod.fst = seen ∧
      exchanges step mine see s is =
        (i, see i (step t i).1) :: exchanges step mine see (step t i).2 rest := by
  induction is generalizing s with
  | nil => cases hnext
  | cons j js ih =>
    rw [exchanges] at hnext ⊢
    cases hmine : mine s j with
    | false =>
      rw [hmine, if_neg Bool.false_ne_true] at hnext
      rw [if_neg Bool.false_ne_true]
      exact ih (hR.other h hok.1 hmine) hok.2 hnext
    | true =>
      rw [hmine, if_pos rfl, List.map_cons, List.cons.injEq] at hnext
      obtain ⟨rfl, hseen⟩ := hnext
      exact ⟨s, js, h, hmine, hok, hseen, by rw [if_pos rfl]⟩

/-- **What others do is not seen**: two runs from related states with the same inputs of the
observer's give it the same answers. -/
theorem exchanges_eq (hR : Unwinding step mine see ok R) {s s' : σ} {is is' : List ι}
    (h : R s s') (hok : StepsMeet step ok s is) (hok' : StepsMeet step ok s' is')
    (hsame : (exchanges step mine see s is).map Prod.fst =
      (exchanges step mine see s' is').map Prod.fst) :
    exchanges step mine see s is = exchanges step mine see s' is' := by
  -- by induction on the observer's inputs, which the two runs share
  generalize hinputs : (exchanges step mine see s' is').map Prod.fst = inputs at hsame
  induction inputs generalizing s s' is is' with
  | nil => rw [List.map_eq_nil_iff.1 hsame, List.map_eq_nil_iff.1 hinputs]
  | cons i inputs ih =>
    obtain ⟨t, rest, ht, hmine, hmeet, hleft, heq⟩ := hR.exists_of_exchanges_cons h hok hsame
    obtain ⟨t', rest', ht', hmine', hmeet', hright, heq'⟩ :=
      hR.exists_of_exchanges_cons (hR.symm ht) hok' hinputs
    obtain ⟨hanswer, hnext⟩ := hR.own (hR.symm ht') hmeet.1 hmeet'.1 hmine hmine'
    rw [heq, heq', hanswer, ih hnext hmeet.2 hmeet'.2 hright hleft]

end Unwinding

end Effects

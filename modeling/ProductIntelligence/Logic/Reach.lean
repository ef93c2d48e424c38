import Mathlib.Tactic.Common

/-!
# Runs of a labelled machine

A machine is a partial function `step : σ → ℓ → Option σ`: from a state, a label
either is refused or leads to one next state.  All nondeterminism is in the choice
of labels, so a run is a list of labels and can be evaluated.

## Main definitions

* `Reach step ok s₀ s` — `s` is reached from `s₀` by steps whose labels all meet
  the side condition `ok` in the state they are taken from.
* `runLabels` — the state a list of labels leads to.

## Main results

* `Reach.invariant` — the induction rule.
* `exists_reach_of_runLabels` — evaluating a list of labels reaches its final state.
-/

namespace Effects

variable {σ ℓ : Type*}

/-- States reached from `s₀` by steps that all meet `ok`. -/
inductive Reach (step : σ → ℓ → Option σ) (ok : σ → ℓ → Prop) (s₀ : σ) : σ → Prop
  | init : Reach step ok s₀ s₀
  | tail {s s' : σ} {l : ℓ} : Reach step ok s₀ s → ok s l → step s l = some s' →
      Reach step ok s₀ s'

namespace Reach

variable {step : σ → ℓ → Option σ} {ok ok' : σ → ℓ → Prop} {s₀ s : σ}

/-- **The invariant rule**: what holds initially and is kept by every permitted
step holds of every reached state. -/
theorem invariant {I : σ → Prop} (hinit : I s₀)
    (hstep : ∀ s l s', I s → ok s l → step s l = some s' → I s')
    (h : Reach step ok s₀ s) : I s := by
  induction h with
  | init => exact hinit
  | tail _ hok hs ih => exact hstep _ _ _ ih hok hs

/-- Weakening the side condition. -/
theorem mono (himp : ∀ s l, ok s l → ok' s l) (h : Reach step ok s₀ s) :
    Reach step ok' s₀ s := by
  induction h with
  | init => exact .init
  | tail _ hok hs ih => exact ih.tail (himp _ _ hok) hs

end Reach

/-- The state a list of labels leads to, each label being checked by `ok` first. -/
def runLabels (step : σ → ℓ → Option σ) (ok : σ → ℓ → Bool) : σ → List ℓ → Option σ
  | s, [] => some s
  | s, l :: ls => if ok s l then (step s l).bind fun s' => runLabels step ok s' ls else none

private theorem reach_of_runLabels {step : σ → ℓ → Option σ} {ok : σ → ℓ → Bool} {s₀ : σ} :
    ∀ (ls : List ℓ) {s s' : σ}, Reach step (fun s l => ok s l = true) s₀ s →
      runLabels step ok s ls = some s' → Reach step (fun s l => ok s l = true) s₀ s' := by
  intro ls
  induction ls with
  | nil =>
    intro s s' hs h
    cases h
    exact hs
  | cons l ls ih =>
    intro s s' hs h
    rw [runLabels] at h
    split at h
    · next hok =>
      obtain ⟨t, ht, h⟩ := Option.bind_eq_some_iff.mp h
      exact ih (hs.tail hok ht) h
    · cases h

/-- Evaluating a run reaches a state with the properties its final state has. -/
theorem exists_reach_of_runLabels (step : σ → ℓ → Option σ) (ok : σ → ℓ → Bool) (s₀ : σ)
    (ls : List ℓ) (p : σ → Bool) (h : (runLabels step ok s₀ ls).any p) :
    ∃ s, Reach step (fun s l => ok s l = true) s₀ s ∧ p s = true := by
  obtain ⟨s, hs, hp⟩ := (Option.any_eq_true _ _).mp h
  exact ⟨s, reach_of_runLabels ls .init hs, hp⟩

end Effects

import ProductIntelligence.Logic.Interleaving
import ProductIntelligence.Logic.Reach
import ProductIntelligence.Models.Batching

/-!
# Threads that ask for a model

A model is loaded when it is first asked for, and then kept.  Threads that ask for the same model at
the same time look for it without a lock first, and again once they hold the lock; only the thread
that holds the lock loads.  The manager of cross-encoders also runs each model once, to warm it up,
before it gives the lock back, but after it has kept the model.

## Main definitions

* `ModelStore`, `ModelCommand`, `exec` — the models that are kept, the lock, and what threads do.
* `getModelProgram` — the program of a thread.
* `Stage`, `locking` — how far a thread has come, and what it may do next.
* `Book` — what is kept of a model, and how often it was loaded and warmed up.
* `Locked` — one thread at most is inside the lock, and the books agree with it.

## Main results

* `run_ofManager` — a thread that runs alone does what `ModelManager.getModel` does.
* `obeys_getModelProgram` — every thread keeps to the discipline.
* `Locked.outside`, `Locked.within`, `Locked.leave` — what a thread may change outside the lock and
  inside it.

## References

`backend/app/services/embeddings/model_manager.py`,
`backend/app/services/embeddings/text_model_manager.py`,
`backend/app/services/model_manager_cross_encoder.py`.
-/

namespace ProductIntelligence

open Effects Program

variable {κ V ε : Type}

/-! ### The manager -/

/-- The models that are kept, whether the lock is held, and what loading a model gives at present. -/
structure ModelStore (V ε : Type) where
  models : Text → Option V
  locked : Bool
  loader : Text → Except ε V

/-- What a thread does: look for a model, take the lock, load a model, keep it, run it once, give
the lock back. -/
inductive ModelCommand (V : Type)
  | lookup (modelName : Text)
  | acquire
  | load (modelName : Text)
  | keep (modelName : Text) (model : V)
  | warmUp (modelName : Text) (model : V)
  | release

namespace ModelCommand

/-- What each command replies. -/
abbrev Reply (V ε : Type) : ModelCommand V → Type
  | .lookup _ => Option V
  | .load _ => Except ε V
  | _ => Unit

/-- What each command does. -/
def exec : Handler (Reply V ε) (ModelStore V ε)
  | .lookup modelName, store => (store.models modelName, store)
  | .acquire, store => ((), { store with locked := true })
  | .load modelName, store => (store.loader modelName, store)
  | .keep modelName model, store =>
    ((), { store with models := Function.update store.models modelName (some model) })
  | .warmUp _ _, store => ((), store)
  | .release, store => ((), { store with locked := false })

/-- The command is about the book of a model. -/
def Counts : ModelCommand V → Prop
  | .load _ | .keep _ _ | .warmUp _ _ => True
  | _ => False

end ModelCommand

/-- Programs of threads. -/
abbrev ModelProgram (V ε α : Type) := Program (ModelCommand.Reply V ε) α

/-- Give the lock back and return. -/
def leave (result : Except ε V) : ModelProgram V ε (Except ε V) :=
  .request .release fun _ => .done result

/-- Load the model and keep it, inside the lock. -/
def loadInside (warmup : Bool) (modelName : Text) : ModelProgram V ε (Except ε V) :=
  .request (.load modelName) fun
    | .error e => leave (.error e)
    | .ok model => .request (.keep modelName model) fun _ =>
      if warmup then .request (.warmUp modelName model) fun _ => leave (.ok model)
      else leave (.ok model)

/-- `get_model`: the model, loaded if this is the first use.  Only the manager of cross-encoders
warms up. -/
def getModelProgram (warmup : Bool) (modelName : Text) : ModelProgram V ε (Except ε V) :=
  .request (.lookup modelName) fun
    | some cached => .done (.ok cached)
    | none => .request .acquire fun _ =>
      -- another thread may have finished loading while this one was waiting
      .request (.lookup modelName) fun
        | some cached => leave (.ok cached)
        | none => loadInside warmup modelName

/-- What threads see of a manager that nobody uses. -/
def ModelStore.ofManager {load : Text → Except ε V} (manager : ModelManager load) :
    ModelStore V ε where
  models modelName := (Keyed.lookup Prod.fst modelName manager.models).map Prod.snd
  locked := false
  loader := load

/-- The models after one more is kept. -/
theorem lookup_keep {load : Text → Except ε V} {manager : ModelManager load} {modelName : Text}
    {model : V} (h : load modelName = .ok model)
    (hnew : Keyed.lookup Prod.fst modelName manager.models = none) (other : Text) :
    (Keyed.lookup Prod.fst other (manager.keep h).models).map Prod.snd =
      Function.update (fun n => (Keyed.lookup Prod.fst n manager.models).map Prod.snd) modelName
        (some model) other := by
  have hlookup : Keyed.lookup Prod.fst other (manager.keep h).models =
      (Keyed.lookup Prod.fst other manager.models).or
        (Keyed.lookup Prod.fst other [(modelName, model)]) := List.find?_append
  rw [hlookup]
  by_cases hother : other = modelName
  · subst hother
    rw [hnew, Function.update_self]
    simp [Keyed.lookup]
  · rw [Function.update_of_ne hother]
    simp [Keyed.lookup, Ne.symm hother]

/-- A thread that runs alone finds the model, or loads it. -/
theorem run_getModelProgram (warmup : Bool) {store : ModelStore V ε} (hfree : store.locked = false)
    (modelName : Text) :
    (getModelProgram warmup modelName).run ModelCommand.exec store =
      match store.models modelName with
      | some cached => (.ok cached, store)
      | none =>
        match store.loader modelName with
        | .error e => (.error e, store)
        | .ok model =>
          (.ok model, { store with models := Function.update store.models modelName (some model) }) := by
  obtain ⟨models, locked, loader⟩ := store
  cases hfree
  cases hcached : models modelName with
  | some cached => simp [getModelProgram, ModelCommand.exec, hcached]
  | none =>
    cases hload : loader modelName with
    | error e => simp [getModelProgram, loadInside, leave, ModelCommand.exec, hcached, hload]
    | ok model =>
      cases warmup <;>
        simp [getModelProgram, loadInside, leave, ModelCommand.exec, hcached, hload]

/-- **A thread that runs alone** does what `ModelManager.getModel` does. -/
theorem run_ofManager {load : Text → Except ε V} (warmup : Bool) (manager : ModelManager load)
    (modelName : Text) :
    (getModelProgram warmup modelName).run ModelCommand.exec (.ofManager manager) =
      ((manager.getModel modelName).1, .ofManager (manager.getModel modelName).2) := by
  rw [run_getModelProgram warmup rfl]
  unfold ModelManager.getModel ModelStore.ofManager
  dsimp only
  cases hcached : Keyed.lookup Prod.fst modelName manager.models with
  | some cached => rfl
  | none =>
    dsimp only [Option.map_none]
    split
    · next e hload =>
      split
      · next e' hload' =>
        cases hload.symm.trans hload'
        rfl
      · next model hload' => cases hload.symm.trans hload'
    · next model hload =>
      split
      · next e hload' => cases hload.symm.trans hload'
      · next model' hload' =>
        cases hload.symm.trans hload'
        dsimp only
        congr 2
        exact (funext (lookup_keep hload' hcached)).symm

/-! ### How far a thread has come -/

/-- How far a thread has come.  It is inside the lock from `entered` to `present` and `failed`. -/
inductive Stage (V ε : Type)
  | begun
  | missed
  | entered
  | absent
  | fetched (model : V)
  | kept (model : V)
  | present (model : V)
  | failed (e : ε)
  | over (result : Except ε V)

namespace Stage

/-- The thread holds the lock. -/
def Inside : Stage V ε → Prop
  | .begun | .missed | .over _ => False
  | _ => True

/-- The thread has the model. -/
def Has (model : V) : Stage V ε → Prop
  | .kept m | .present m | .over (.ok m) => m = model
  | _ => False

/-- The stage after a reply. -/
def next (warmup : Bool) : Stage V ε → (command : ModelCommand V) → command.Reply V ε → Stage V ε
  | .begun, .lookup _, some model => .over (.ok model)
  | .begun, .lookup _, none => .missed
  | .missed, .acquire, _ => .entered
  | .entered, .lookup _, some model => .present model
  | .entered, .lookup _, none => .absent
  | .absent, .load _, .ok model => .fetched model
  | .absent, .load _, .error e => .failed e
  | .fetched model, .keep _ _, _ => if warmup then .kept model else .present model
  | .kept model, .warmUp _ _, _ => .present model
  | .present model, .release, _ => .over (.ok model)
  | .failed e, .release, _ => .over (.error e)
  | stage, _, _ => stage

/-- What a thread may do next. -/
inductive MayIssue (modelName : Text) : Stage V ε → ModelCommand V → Prop
  | lookup : MayIssue modelName .begun (.lookup modelName)
  | acquire : MayIssue modelName .missed .acquire
  | lookupAgain : MayIssue modelName .entered (.lookup modelName)
  | load : MayIssue modelName .absent (.load modelName)
  | keep (model : V) : MayIssue modelName (.fetched model) (.keep modelName model)
  | warmUp (model : V) : MayIssue modelName (.kept model) (.warmUp modelName model)
  | release (model : V) : MayIssue modelName (.present model) .release
  | giveUp (e : ε) : MayIssue modelName (.failed e) .release

end Stage

/-- **The discipline of a thread.** -/
def locking (V ε : Type) (warmup : Bool) :
    Discipline (ModelCommand.Reply V ε) (Text × Stage V ε) where
  allows g command := g.2.MayIssue g.1 command
  expects _ _ _ := True
  next g command reply := (g.1, g.2.next warmup command reply)

/-- **Every thread keeps to it**, and returns what it has come to. -/
theorem obeys_getModelProgram (warmup : Bool) (modelName : Text) :
    (getModelProgram warmup modelName : ModelProgram V ε _).Obeys (locking V ε warmup)
      (fun result g => g.2 = .over result) (modelName, .begun) := by
  refine ⟨.lookup, fun found _ => ?_⟩
  cases found with
  | some model => exact rfl
  | none =>
    refine ⟨.acquire, fun _ _ => ⟨.lookupAgain, fun found _ => ?_⟩⟩
    cases found with
    | some model => exact ⟨.release model, fun _ _ => rfl⟩
    | none =>
      refine ⟨.load, fun result _ => ?_⟩
      cases result with
      | error e => exact ⟨.giveUp e, fun _ _ => rfl⟩
      | ok model =>
        refine ⟨.keep model, fun _ _ => ?_⟩
        cases warmup with
        | false => exact ⟨.release model, fun _ _ => rfl⟩
        | true => exact ⟨.warmUp model, fun _ _ => ⟨.release model, fun _ _ => rfl⟩⟩

/-! ### Books -/

/-- What there is to say of a model: what is kept of it, and how often it was loaded and warmed up. -/
structure Book (V : Type) where
  kept : Option V
  loads : ℕ
  warmUps : ℕ

namespace Stage

/-- The thread knows that the model is not kept. -/
def Missing : Stage V ε → Prop
  | .absent | .fetched _ => True
  | _ => False

/-- One load is done, and not kept yet. -/
def unkept : Stage V ε → ℕ
  | .fetched _ => 1
  | _ => 0

/-- One warm-up is due. -/
def unwarmed : Stage V ε → ℕ
  | .kept _ => 1
  | _ => 0

/-- A load that is not kept yet is of a model that is not kept. -/
theorem unkept_le (stage : Stage V ε) : stage.unkept ≤ 1 ∧ (stage.unkept ≠ 0 → stage.Missing) := by
  cases stage <;> simp [unkept, Missing]

end Stage

/-- The book of a model agrees with the thread that is inside the lock for it, if there is one. -/
structure Book.Fits (warmup : Bool) (stage : Option (Stage V ε)) (book : Book V) : Prop where
  loads : book.loads = book.kept.toList.length + (stage.map Stage.unkept).getD 0
  warmUps : book.warmUps + (stage.map Stage.unwarmed).getD 0 =
    if warmup then book.kept.toList.length else 0
  missing : ∀ s, stage = some s → s.Missing → book.kept = none

/-- It fits a thread that does not know of the model that it is not kept. -/
theorem Book.Fits.of_not_missing {warmup : Bool} {stage : Stage V ε} {book : Book V}
    (hloads : book.loads = book.kept.toList.length + stage.unkept)
    (hwarmUps : book.warmUps + stage.unwarmed = if warmup then book.kept.toList.length else 0)
    (h : ¬ stage.Missing) : book.Fits warmup (some stage) where
  loads := hloads
  warmUps := hwarmUps
  missing s hs hmissing := by
    cases hs
    exact absurd hmissing h

namespace Book.Fits

variable {warmup : Bool} {stage : Option (Stage V ε)} {book : Book V}

/-- A model was loaded once, if it is kept. -/
theorem loads_eq (h : book.Fits warmup stage) {model : V} (hkept : book.kept = some model) :
    book.loads = 1 := by
  have hnone : (stage.map Stage.unkept).getD 0 = 0 := by
    cases stage with
    | none => rfl
    | some s =>
      by_contra hne
      cases hkept.symm.trans (h.missing s rfl (s.unkept_le.2 hne))
  rw [h.loads, hkept, hnone]
  rfl

/-- A model was loaded once at most. -/
theorem loads_le (h : book.Fits warmup stage) : book.loads ≤ 1 := by
  cases hkept : book.kept with
  | some model => exact Nat.le_of_eq (h.loads_eq hkept)
  | none =>
    rw [h.loads, hkept]
    cases stage with
    | none => exact Nat.zero_le 1
    | some s => simpa using s.unkept_le.1

/-- A model was warmed up once at most. -/
theorem warmUps_le (h : book.Fits warmup stage) : book.warmUps ≤ 1 := by
  have hlength : (if warmup then book.kept.toList.length else 0) ≤ 1 := by
    split
    · exact Option.length_toList_le
    · exact Nat.zero_le 1
  have hwarmUps := h.warmUps
  omega

end Book.Fits

/-- The thread that is inside the lock, for a model. -/
abbrev Insider (κ V ε : Type) := Option (κ × Text × Stage V ε)

/-- How far the thread is that is inside the lock for a model. -/
def Insider.stageAt (inside : Insider κ V ε) (modelName : Text) : Option (Stage V ε) :=
  inside.bind fun (_, name, stage) => if name = modelName then some stage else none

/-- **What every state keeps to**: one thread at most is inside the lock, the books agree with it,
and every thread has the model that is kept. -/
structure Locked (warmup : Bool) (inside : Insider κ V ε)
    (threads : κ → Option (Text × Stage V ε)) (books : Text → Book V) (locked : Bool) : Prop where
  inside_iff : ∀ i name stage,
    inside = some (i, name, stage) ↔ threads i = some (name, stage) ∧ stage.Inside
  locked_eq : locked = inside.isSome
  fits : ∀ name, (books name).Fits warmup (inside.stageAt name)
  has : ∀ i name stage model, threads i = some (name, stage) → stage.Has model →
    (books name).kept = some model

namespace Locked

variable [DecidableEq κ] {warmup : Bool} {inside : Insider κ V ε}
  {threads : κ → Option (Text × Stage V ε)} {books : Text → Book V} {locked : Bool} {i : κ}

/-- A thread that is not inside the lock comes to another stage, or ends. -/
theorem outside (h : Locked warmup inside threads books locked)
    (hi : ∀ name stage, threads i = some (name, stage) → ¬ stage.Inside)
    {thread : Option (Text × Stage V ε)} (hthread : ∀ name stage, thread = some (name, stage) →
      ¬ stage.Inside ∧ ∀ model, stage.Has model → (books name).kept = some model) :
    Locked warmup inside (Function.update threads i thread) books locked where
  inside_iff k name stage := by
    rw [h.inside_iff]
    by_cases hk : k = i
    · subst hk
      rw [Function.update_self]
      constructor
      · rintro ⟨hold, hinside⟩
        exact absurd hinside (hi name stage hold)
      · rintro ⟨hnew, hinside⟩
        exact absurd hinside (hthread name stage hnew).1
    · rw [Function.update_of_ne hk]
  locked_eq := h.locked_eq
  fits := h.fits
  has k name stage model hk hhas := by
    by_cases hself : k = i
    · subst hself
      rw [Function.update_self] at hk
      exact (hthread name stage hk).2 model hhas
    · rw [Function.update_of_ne hself] at hk
      exact h.has k name stage model hk hhas

/-- A thread comes to another stage inside the lock, or enters it, and changes the book of its
model. -/
theorem within (h : Locked warmup inside threads books locked) {name : Text}
    {stage : Stage V ε} (hinside : ∀ j other s, inside = some (j, other, s) → j = i ∧ other = name)
    {book : Book V} (hstage : stage.Inside) (hfits : book.Fits warmup (some stage))
    (hkept : ∀ model, (books name).kept = some model → book.kept = some model)
    (hhas : ∀ model, stage.Has model → book.kept = some model) :
    Locked warmup (some (i, name, stage)) (Function.update threads i (some (name, stage)))
      (Function.update books name book) true where
  inside_iff k other s := by
    by_cases hk : k = i
    · subst hk
      rw [Function.update_self]
      constructor
      · intro heq
        cases heq
        exact ⟨rfl, hstage⟩
      · rintro ⟨heq, -⟩
        cases heq
        rfl
    · rw [Function.update_of_ne hk, ← h.inside_iff]
      constructor
      · intro heq
        cases heq
        exact absurd rfl hk
      · intro heq
        exact absurd (hinside k other s heq).1 hk
  locked_eq := rfl
  fits other := by
    by_cases hother : other = name
    · subst hother
      rw [Function.update_self]
      simpa [Insider.stageAt] using hfits
    · have hold : inside.stageAt other = none := by
        rcases hcase : inside with _ | ⟨j, n, s⟩
        · rfl
        · have hn := (hinside j n s hcase).2
          simp [Insider.stageAt, hn, Ne.symm hother]
      have hfits := h.fits other
      rw [hold] at hfits
      rw [Function.update_of_ne hother]
      simpa [Insider.stageAt, Ne.symm hother] using hfits
  has k other s model hk hs := by
    by_cases hself : k = i
    · subst hself
      rw [Function.update_self] at hk
      cases hk
      rw [Function.update_self]
      exact hhas model hs
    · rw [Function.update_of_ne hself] at hk
      have hold := h.has k other s model hk hs
      by_cases hother : other = name
      · subst hother
        rw [Function.update_self]
        exact hkept model hold
      · rwa [Function.update_of_ne hother]

/-- A thread comes to another stage inside the lock, or enters it, and the books stay. -/
theorem within_same (h : Locked warmup inside threads books locked) {name : Text}
    {stage : Stage V ε} (hinside : ∀ j other s, inside = some (j, other, s) → j = i ∧ other = name)
    (hstage : stage.Inside) (hfits : (books name).Fits warmup (some stage))
    (hhas : ∀ model, stage.Has model → (books name).kept = some model) :
    Locked warmup (some (i, name, stage)) (Function.update threads i (some (name, stage)))
      books true := by
  have hwithin := h.within hinside hstage hfits (fun _ h => h) hhas
  rwa [Function.update_eq_self] at hwithin

/-- The thread inside the lock leaves it. -/
theorem leave {name : Text} {stage : Stage V ε}
    (h : Locked warmup (some (i, name, stage)) threads books locked)
    (hunkept : stage.unkept = 0) (hunwarmed : stage.unwarmed = 0) {result : Except ε V}
    (hhas : ∀ model, result = .ok model → (books name).kept = some model) :
    Locked warmup none (Function.update threads i (some (name, .over result))) books false where
  inside_iff k other s := by
    refine iff_of_false nofun ?_
    rintro ⟨hk, hs⟩
    by_cases hself : k = i
    · subst hself
      rw [Function.update_self] at hk
      cases hk
      exact hs
    · rw [Function.update_of_ne hself] at hk
      cases (h.inside_iff k other s).2 ⟨hk, hs⟩
      exact hself rfl
  locked_eq := rfl
  fits other := by
    have hfits := h.fits other
    by_cases hother : other = name
    · subst hother
      have hat : Insider.stageAt (some (i, other, stage)) other = some stage := by
        simp [Insider.stageAt]
      rw [hat] at hfits
      exact ⟨by simpa [Insider.stageAt, hunkept] using hfits.loads,
        by simpa [Insider.stageAt, hunwarmed] using hfits.warmUps, nofun⟩
    · simpa [Insider.stageAt, Ne.symm hother] using hfits
  has k other s model hk hs := by
    by_cases hself : k = i
    · subst hself
      rw [Function.update_self] at hk
      cases hk
      cases result with
      | error e => cases hs
      | ok m =>
        cases hs
        exact hhas _ rfl
    · rw [Function.update_of_ne hself] at hk
      exact h.has k other s model hk hs

end Locked

end ProductIntelligence

import ProductIntelligence.Models.ModelThreads

/-!
# Loading a model once

Any number of threads ask for models at the same time.  No thread takes the lock while it is held,
and none is killed; a load may fail, and what loading gives may change at any time.

## Main definitions

* `modelMachine`, `Unblocked` — the threads and the steps that they can take.
* `ModelConfig.Consistent` — the invariant.
* `LoadsOnce` — what is promised of every state.

## Main results

* `Locked.answer` — every command keeps the invariant.
* `loaded_once` — **every model is loaded at most once, everyone gets the same one, one thread at a
  time is inside the lock, and some thread can always go on**.
* `handed_out_warm` — **a model is warm when it is handed out, unless it was found without the lock
  while the thread that loaded it was still warming it up**.

## References

`backend/app/services/embeddings/model_manager.py`,
`backend/app/services/embeddings/text_model_manager.py`,
`backend/app/services/model_manager_cross_encoder.py`.
-/

namespace ProductIntelligence

open Effects Program

variable {κ V ε : Type}

/-! ### The system -/

/-- A state of the manager and the threads. -/
abbrev ModelConfig (κ V ε : Type) :=
  Config (ModelCommand.Reply V ε) (ModelStore V ε) κ Text (Except ε V)

/-- A step of a run. -/
abbrev ModelEvent (κ V ε : Type) := Event (ModelCommand.Reply V ε) κ Text (Except ε V)

/-- Any number of threads that ask for models, while loading may come to give something else. -/
def modelMachine (V ε : Type) (warmup : Bool) :
    Machine (ModelCommand.Reply V ε) (ModelStore V ε) Text (Except ε V) (Text → Except ε V) where
  handler := ModelCommand.exec
  body := getModelProgram warmup
  env loader store := some { store with loader := loader }

/-- A thread waits for the lock while it is held, and is not killed. -/
def Unblocked (cfg : ModelConfig κ V ε) (l : Label κ Text (Text → Except ε V)) : Prop :=
  l.aborts = false ∧
    ∀ i, l = .exec i → .acquire ∈ cfg.nextCommand i → cfg.store.locked = false

/-- The event is a load of the model that has not failed. -/
def isLoad (modelName : Text) : ModelEvent κ V ε → Bool
  | .ran _ _ ⟨.load name, result⟩ => name = modelName && Except.isOk result
  | _ => false

/-- The event is a warm-up of the model. -/
def isWarmUp (modelName : Text) : ModelEvent κ V ε → Bool
  | .ran _ _ ⟨.warmUp name _, _⟩ => name = modelName
  | _ => false

namespace ModelConfig

/-- Nothing is loaded, and no thread has begun. -/
def init (loader : Text → Except ε V) : ModelConfig κ V ε :=
  ⟨⟨fun _ => none, false, loader⟩, fun _ => none, []⟩

/-- The book of a model. -/
def book (cfg : ModelConfig κ V ε) (modelName : Text) : Book V where
  kept := cfg.store.models modelName
  loads := cfg.log.countP (isLoad modelName)
  warmUps := cfg.log.countP (isWarmUp modelName)

/-- The model that a thread asks for, and how far it has come. -/
def thread (warmup : Bool) (cfg : ModelConfig κ V ε) (i : κ) : Option (Text × Stage V ε) :=
  (cfg.sessions i).map fun s => s.ghost (locking V ε warmup) fun name => (name, .begun)

/-- What every state keeps to. -/
structure Consistent (warmup : Bool) (cfg : ModelConfig κ V ε) : Prop where
  obeying : cfg.Obeying (locking V ε warmup) (fun name => (name, .begun))
    fun _ result g => g.2 = .over result
  inside : ∃ inside, Locked warmup inside (cfg.thread warmup) cfg.book cfg.store.locked
  returned : ∀ i name model, .returned i name (.ok model) ∈ cfg.log →
    cfg.store.models name = some model

variable [DecidableEq κ] {warmup : Bool} {cfg cfg' : ModelConfig κ V ε}

omit [DecidableEq κ] in
/-- A session asks for one model. -/
theorem ghost_fst (s : Session (ModelCommand.Reply V ε) Text (Except ε V)) :
    (s.ghost (locking V ε warmup) fun name => (name, .begun)).1 = s.op := by
  obtain ⟨op, rest, exchanges⟩ := s
  induction exchanges with
  | nil => rfl
  | cons x exchanges ih => exact ih

theorem thread_put (i : κ) (s : Session (ModelCommand.Reply V ε) Text (Except ε V)) :
    ModelConfig.thread warmup (Config.put cfg i s) = Function.update (cfg.thread warmup) i
      (some (s.ghost (locking V ε warmup) fun name => (name, .begun))) := by
  funext k
  by_cases hk : k = i
  · subst hk
    simp [thread]
  · simp [thread, Config.put_sessions_of_ne cfg s hk, hk]

theorem thread_finish (i : κ) (name : Text) (b : Except ε V) :
    ModelConfig.thread warmup (Config.finish cfg i name b) =
      Function.update (cfg.thread warmup) i none := by
  funext k
  by_cases hk : k = i
  · subst hk
    simp [thread, Config.finish]
  · simp [thread, Config.finish, hk]

/-- The books after a command. -/
def bookAfter (cfg : ModelConfig κ V ε) (i : κ) (name : Text) (c : ModelCommand V) : Text → Book V :=
  ModelConfig.book (⟨(ModelCommand.exec c cfg.store).2, cfg.sessions,
    .ran i name ⟨c, (ModelCommand.exec c cfg.store).1⟩ :: cfg.log⟩ : ModelConfig κ V ε)

omit [DecidableEq κ] in
/-- Looking, locking and leaving change no book. -/
theorem bookAfter_eq_book {i : κ} {name : Text} {c : ModelCommand V} (h : ¬ c.Counts) :
    cfg.bookAfter i name c = cfg.book := by
  cases c with
  | load | keep | warmUp => exact absurd trivial h
  | _ =>
    funext other
    simp [bookAfter, book, ModelCommand.exec, isLoad, isWarmUp]

omit [DecidableEq κ] in
/-- A load is counted, unless it fails. -/
theorem bookAfter_load {i : κ} {name : Text} :
    cfg.bookAfter i name (.load name) = Function.update cfg.book name
      { cfg.book name with
        loads := (cfg.book name).loads + if Except.isOk (cfg.store.loader name) then 1 else 0 } := by
  funext other
  by_cases hother : other = name
  · subst hother
    simp [bookAfter, book, ModelCommand.exec, isLoad, isWarmUp, List.countP_cons]
  · simp [bookAfter, book, ModelCommand.exec, isLoad, isWarmUp, hother, Ne.symm hother]

omit [DecidableEq κ] in
/-- A model is kept. -/
theorem bookAfter_keep {i : κ} {name : Text} {model : V} :
    cfg.bookAfter i name (.keep name model) = Function.update cfg.book name
      { cfg.book name with kept := some model } := by
  funext other
  by_cases hother : other = name
  · subst hother
    simp [bookAfter, book, ModelCommand.exec, isLoad, isWarmUp]
  · simp [bookAfter, book, ModelCommand.exec, isLoad, isWarmUp, hother]

omit [DecidableEq κ] in
/-- A warm-up is counted. -/
theorem bookAfter_warmUp {i : κ} {name : Text} {model : V} :
    cfg.bookAfter i name (.warmUp name model) = Function.update cfg.book name
      { cfg.book name with warmUps := (cfg.book name).warmUps + 1 } := by
  funext other
  by_cases hother : other = name
  · subst hother
    simp [bookAfter, book, ModelCommand.exec, isLoad, isWarmUp]
  · simp [bookAfter, book, ModelCommand.exec, isLoad, isWarmUp, hother, Ne.symm hother]

end ModelConfig

namespace Locked

variable [DecidableEq κ] {warmup : Bool} {inside : Insider κ V ε}
  {threads : κ → Option (Text × Stage V ε)} {cfg : ModelConfig κ V ε} {i : κ} {name : Text}
  {stage : Stage V ε}

omit [DecidableEq κ] in
/-- The thread inside the lock is the one that is at an inside stage. -/
theorem eq_insider {books : Text → Book V} {locked : Bool}
    (h : Locked warmup inside threads books locked) (hi : threads i = some (name, stage))
    (hstage : stage.Inside) : inside = some (i, name, stage) :=
  (h.inside_iff i name stage).2 ⟨hi, hstage⟩

omit [DecidableEq κ] in
theorem eq_of_insider (j : κ) (other : Text) (s : Stage V ε)
    (h : some (i, name, stage) = some (j, other, s)) : j = i ∧ other = name := by
  cases h
  exact ⟨rfl, rfl⟩

omit [DecidableEq κ] in
/-- The book of the thread inside the lock. -/
theorem fits_insider {books : Text → Book V} {locked : Bool}
    (h : Locked warmup (some (i, name, stage)) threads books locked) :
    (books name).Fits warmup (some stage) := by
  simpa [Insider.stageAt] using h.fits name

omit [DecidableEq κ] in
/-- A model that is kept stays. -/
theorem models_exec (h : Locked warmup inside threads cfg.book cfg.store.locked)
    (hi : threads i = some (name, stage)) {c : ModelCommand V} (hmay : stage.MayIssue name c)
    {other : Text} {model : V} (hkept : cfg.store.models other = some model) :
    (ModelCommand.exec c cfg.store).2.models other = some model := by
  cases hmay with
  | keep own =>
    have hinside := h.eq_insider hi trivial
    subst hinside
    have hmissing : cfg.store.models name = none := h.fits_insider.missing _ rfl trivial
    have hne : other ≠ name := by
      rintro rfl
      cases hmissing.symm.trans hkept
    exact (Function.update_of_ne hne _ _).trans hkept
  | _ => exact hkept

/-- **Every command keeps it.** -/
theorem answer (h : Locked warmup inside threads cfg.book cfg.store.locked)
    (hi : threads i = some (name, stage)) {c : ModelCommand V} (hmay : stage.MayIssue name c)
    (hfree : c = .acquire → cfg.store.locked = false) :
    ∃ inside', Locked warmup inside'
      (Function.update threads i
        (some (name, stage.next warmup c (ModelCommand.exec c cfg.store).1)))
      (cfg.bookAfter i name c) (ModelCommand.exec c cfg.store).2.locked := by
  cases hmay with
  | lookup =>
    rw [ModelConfig.bookAfter_eq_book id]
    refine ⟨inside, h.outside (fun other s hs => ?_) fun other s hs => ?_⟩
    · cases hi.symm.trans hs
      exact id
    · dsimp only [ModelCommand.exec] at hs
      cases hkept : cfg.store.models name with
      | none =>
        rw [hkept] at hs
        cases hs
        exact ⟨id, nofun⟩
      | some cached =>
        rw [hkept] at hs
        cases hs
        refine ⟨id, fun model hmodel => ?_⟩
        cases hmodel
        exact hkept
  | acquire =>
    rw [ModelConfig.bookAfter_eq_book id]
    have hnone : inside = none := by
      have hlocked := h.locked_eq
      rw [hfree rfl] at hlocked
      exact Option.isSome_eq_false_iff.1 hlocked.symm |> Option.isNone_iff_eq_none.1
    subst hnone
    have hfits : (cfg.book name).Fits warmup none := h.fits name
    exact ⟨_, h.within_same nofun trivial ⟨hfits.loads, hfits.warmUps, nofun⟩ nofun⟩
  | lookupAgain =>
    rw [ModelConfig.bookAfter_eq_book id]
    have hinside := h.eq_insider hi trivial
    subst hinside
    have hfits := h.fits_insider
    have hlocked : cfg.store.locked = true := h.locked_eq
    dsimp only [ModelCommand.exec]
    rw [hlocked]
    cases hkept : cfg.store.models name with
    | none =>
      exact ⟨_, h.within_same eq_of_insider trivial ⟨hfits.loads, hfits.warmUps, fun _ _ _ => hkept⟩ nofun⟩
    | some cached =>
      refine ⟨_, h.within_same eq_of_insider trivial
        (.of_not_missing hfits.loads hfits.warmUps id) ?_⟩
      rintro model rfl
      exact hkept
  | load =>
    rw [ModelConfig.bookAfter_load]
    have hinside := h.eq_insider hi trivial
    subst hinside
    have hfits := h.fits_insider
    have hlocked : cfg.store.locked = true := h.locked_eq
    have hkept : (cfg.book name).kept = none := hfits.missing _ rfl trivial
    dsimp only [ModelCommand.exec]
    rw [hlocked]
    have hkeeps : ∀ model, (cfg.book name).kept = some model →
        (cfg.book name).kept = some model := fun _ h => h
    cases hloader : cfg.store.loader name with
    | error e =>
      exact ⟨_, h.within eq_of_insider trivial (.of_not_missing hfits.loads hfits.warmUps id)
        hkeeps nofun⟩
    | ok model =>
      refine ⟨_, h.within eq_of_insider trivial ⟨?_, hfits.warmUps, fun _ _ _ => hkept⟩ hkeeps
        nofun⟩
      exact congrArg (· + 1) hfits.loads
  | keep model =>
    rw [ModelConfig.bookAfter_keep]
    have hinside := h.eq_insider hi trivial
    subst hinside
    have hfits := h.fits_insider
    have hlocked : cfg.store.locked = true := h.locked_eq
    have hkept : (cfg.book name).kept = none := hfits.missing _ rfl trivial
    have hloads : (cfg.book name).loads = 1 := by
      rw [hfits.loads, hkept]
      rfl
    have hwarmUps : (cfg.book name).warmUps = 0 := by
      have hcold := hfits.warmUps
      rw [hkept] at hcold
      simpa [Stage.unwarmed] using hcold
    have hkeeps : ∀ m, (cfg.book name).kept = some m → some model = some m := by
      rw [hkept]
      exact nofun
    dsimp only [ModelCommand.exec]
    rw [hlocked]
    cases warmup with
    | false =>
      refine ⟨_, h.within eq_of_insider trivial (.of_not_missing hloads hwarmUps id) hkeeps ?_⟩
      rintro m rfl
      rfl
    | true =>
      refine ⟨_, h.within eq_of_insider trivial
        (.of_not_missing hloads (congrArg (· + 1) hwarmUps) id) hkeeps ?_⟩
      rintro m rfl
      rfl
  | warmUp model =>
    rw [ModelConfig.bookAfter_warmUp]
    have hinside := h.eq_insider hi trivial
    subst hinside
    have hfits := h.fits_insider
    have hlocked : cfg.store.locked = true := h.locked_eq
    have hhas : (cfg.book name).kept = some model := h.has i name _ model hi rfl
    dsimp only [ModelCommand.exec]
    rw [hlocked]
    refine ⟨_, h.within eq_of_insider trivial (.of_not_missing hfits.loads hfits.warmUps id)
      (fun _ h => h) ?_⟩
    rintro m rfl
    exact hhas
  | release model =>
    rw [ModelConfig.bookAfter_eq_book id]
    have hinside := h.eq_insider hi trivial
    subst hinside
    refine ⟨none, h.leave rfl rfl fun m hm => ?_⟩
    cases hm
    exact h.has i name _ model hi rfl
  | giveUp e =>
    rw [ModelConfig.bookAfter_eq_book id]
    have hinside := h.eq_insider hi trivial
    subst hinside
    exact ⟨none, h.leave rfl rfl nofun⟩

end Locked

namespace ModelConfig.Consistent

variable [DecidableEq κ] {warmup : Bool} {cfg cfg' : ModelConfig κ V ε}

omit [DecidableEq κ] in
/-- Nothing is loaded. -/
theorem init (loader : Text → Except ε V) :
    Consistent warmup (ModelConfig.init loader : ModelConfig κ V ε) := by
  constructor
  · intro _ _ h
    cases h
  · refine ⟨none, fun i name stage => iff_of_false nofun ?_, rfl, fun name => ⟨rfl, ?_, nofun⟩, ?_⟩
    · rintro ⟨h, -⟩
      cases h
    · cases warmup <;> rfl
    · intro _ _ _ _ h
      cases h
  · intro _ _ _ h
    cases h

omit [DecidableEq κ] in
/-- A session is seen as a thread. -/
theorem thread_eq {i : κ} {s : Session (ModelCommand.Reply V ε) Text (Except ε V)}
    (hi : cfg.sessions i = some s) : cfg.thread warmup i =
      some (s.op, (s.ghost (locking V ε warmup) fun name => (name, .begun)).2) := by
  unfold ModelConfig.thread
  rw [hi, ← ModelConfig.ghost_fst s]
  rfl

/-- A thread begins. -/
theorem start (h : cfg.Consistent warmup) {i : κ} (hi : cfg.sessions i = none) (name : Text) :
    Consistent warmup ((modelMachine V ε warmup).started cfg i name) where
  obeying := h.obeying.started (obeys_getModelProgram warmup name)
  inside := by
    obtain ⟨inside, hlocked⟩ := h.inside
    have hnone : cfg.thread warmup i = none := by
      unfold ModelConfig.thread
      rw [hi]
      rfl
    refine ⟨inside, ?_⟩
    show Locked warmup inside (ModelConfig.thread warmup (Config.put _ i _)) _ _
    rw [ModelConfig.thread_put]
    refine hlocked.outside (fun other s hs => ?_) fun other s hs => ?_
    · cases hnone.symm.trans hs
    · cases hs
      exact ⟨id, nofun⟩
  returned j other model hreturned := by
    rcases List.mem_cons.1 hreturned with hnew | hlog
    · cases hnew
    · exact h.returned j other model hlog

omit [DecidableEq κ] in
/-- What a thread asks next is what it may ask. -/
theorem mayIssue (h : cfg.Consistent warmup) {i : κ} {name : Text} {c : ModelCommand V}
    {next : c.Reply V ε → ModelProgram V ε (Except ε V)}
    {exchanges : List (Exchange (ModelCommand.Reply V ε))}
    (hi : cfg.sessions i = some ⟨name, .request c next, exchanges⟩) :
    ∃ stage, cfg.thread warmup i = some (name, stage) ∧ stage.MayIssue name c := by
  have hmay := (h.obeying i _ hi).1
  refine ⟨_, thread_eq hi, ?_⟩
  have hname : ((⟨name, .request c next, exchanges⟩ :
      Session (ModelCommand.Reply V ε) Text (Except ε V)).ghost (locking V ε warmup)
        fun name => (name, .begun)).1 = name := ModelConfig.ghost_fst _
  unfold locking at hmay hname ⊢
  dsimp only at hmay hname ⊢
  rw [hname] at hmay
  exact hmay

/-- A thread gets a reply. -/
theorem answer (h : cfg.Consistent warmup) {i : κ} {name : Text} {c : ModelCommand V}
    {next : c.Reply V ε → ModelProgram V ε (Except ε V)}
    {exchanges : List (Exchange (ModelCommand.Reply V ε))}
    (hi : cfg.sessions i = some ⟨name, .request c next, exchanges⟩)
    (hfree : c = .acquire → cfg.store.locked = false) :
    Consistent warmup ((modelMachine V ε warmup).answered cfg i name c next exchanges) := by
  obtain ⟨stage, hthread, hmay⟩ := h.mayIssue hi
  obtain ⟨inside, hlocked⟩ := h.inside
  have hstage : Session.ghost (locking V ε warmup) (fun name => (name, .begun))
      (⟨name, .request c next, exchanges⟩ : Session _ _ _) = (name, stage) :=
    Option.some.inj ((congrArg (Option.map _) hi).symm.trans hthread)
  constructor
  · exact h.obeying.answered hi trivial
  · obtain ⟨inside', hlocked'⟩ := hlocked.answer hthread hmay hfree
    refine ⟨inside', ?_⟩
    show Locked warmup inside' (ModelConfig.thread warmup (Config.put _ i _)) _ _
    rw [ModelConfig.thread_put]
    have hnext : Session.ghost (locking V ε warmup) (fun name => (name, .begun))
        (⟨name, next (ModelCommand.exec c cfg.store).1,
          ⟨c, (ModelCommand.exec c cfg.store).1⟩ :: exchanges⟩ : Session _ _ _) =
        (name, stage.next warmup c (ModelCommand.exec c cfg.store).1) := by
      show (locking V ε warmup).next (Session.ghost (locking V ε warmup) (fun name => (name, .begun))
        ⟨name, .request c next, exchanges⟩) c _ = _
      rw [hstage]
      rfl
    exact hnext ▸ hlocked'
  · intro j other model hreturned
    rcases List.mem_cons.1 hreturned with hnew | hlog
    · cases hnew
    · exact hlocked.models_exec hthread hmay (h.returned j other model hlog)

/-- A thread returns. -/
theorem finish (h : cfg.Consistent warmup) {i : κ}
    {s : Session (ModelCommand.Reply V ε) Text (Except ε V)} {b : Except ε V}
    (hi : cfg.sessions i = some s) (hb : s.rest = .done b) :
    Consistent warmup (cfg.finish i s.op b) := by
  have hobeys := h.obeying i s hi
  rw [hb] at hobeys
  have hthread : cfg.thread warmup i = _ := thread_eq hi
  rw [show (s.ghost (locking V ε warmup) fun name => (name, .begun)).2 = .over b from hobeys]
    at hthread
  obtain ⟨inside, hlocked⟩ := h.inside
  constructor
  · exact h.obeying.finish
  · refine ⟨inside, ?_⟩
    rw [ModelConfig.thread_finish]
    refine hlocked.outside (fun name stage hs => ?_) nofun
    cases hthread.symm.trans hs
    exact id
  · intro j name model hreturned
    rcases List.mem_cons.1 hreturned with hnew | hlog
    · cases hnew
      exact hlocked.has i s.op _ model hthread rfl
    · exact h.returned j name model hlog

/-- **Every step of a run keeps it.** -/
theorem step (h : cfg.Consistent warmup) {l : Label κ Text (Text → Except ε V)}
    (hunblocked : Unblocked cfg l) (hstep : (modelMachine V ε warmup).step cfg l = some cfg') :
    cfg'.Consistent warmup := by
  refine Machine.step_rule hstep (fun i name _ hi => h.start hi name) ?_
    (fun _ i s b hI hi hb => hI.finish hi hb) ?_ ?_
  · intro k name c next exchanges hl hk
    refine h.answer hk fun hc => ?_
    subst hc
    exact hunblocked.2 k hl (Config.mem_nextCommand hk)
  · intro k s hl
    rw [hl] at hunblocked
    cases hunblocked.1
  · intro loader store _ hstore
    cases hstore
    exact ⟨h.obeying, h.inside, h.returned⟩

end ModelConfig.Consistent

/-! ### Results -/

section Results

variable [DecidableEq κ] {warmup : Bool} {cfg cfg' : ModelConfig κ V ε} {loader : Text → Except ε V}

/-- **Every state keeps the invariant.** -/
theorem consistent_of_reach
    (h : Reach (modelMachine V ε warmup).step Unblocked (ModelConfig.init loader) cfg) :
    cfg.Consistent warmup :=
  h.invariant (.init loader) fun _ _ _ hI hunblocked hstep => hI.step hunblocked hstep

/-- What is promised of a manager in one state. -/
structure LoadsOnce (warmup : Bool) (cfg : ModelConfig κ V ε) : Prop where
  /-- No model is loaded twice, unless the first load fails. -/
  loads_le : ∀ name, cfg.log.countP (isLoad name) ≤ 1
  /-- No model is warmed up twice. -/
  warmUps_le : ∀ name, cfg.log.countP (isWarmUp name) ≤ 1
  /-- Everyone who is handed out a model is handed out the one that is kept. -/
  same : ∀ i name model, .returned i name (.ok model) ∈ cfg.log →
    cfg.store.models name = some model
  /-- A model that is kept was loaded. -/
  loaded : ∀ name model, cfg.store.models name = some model → cfg.log.countP (isLoad name) = 1
  /-- One thread at a time is inside the lock. -/
  exclusive : ∀ i j name other s t, cfg.thread warmup i = some (name, s) →
    cfg.thread warmup j = some (other, t) → s.Inside → t.Inside → i = j
  /-- As long as a thread has something to do, some thread can do it. -/
  progress : ∀ i, (cfg.nextCommand i).isSome →
    ∃ j cfg', Unblocked cfg (.exec j) ∧ (modelMachine V ε warmup).step cfg (.exec j) = some cfg'

omit [DecidableEq κ] in
/-- A thread that has something to ask. -/
theorem exists_session {i : κ} {c : ModelCommand V} (h : cfg.nextCommand i = some c) :
    ∃ name next exchanges, cfg.sessions i = some ⟨name, .request c next, exchanges⟩ := by
  unfold Config.nextCommand at h
  split at h
  · next name c' next exchanges hi =>
    cases h
    exact ⟨name, next, exchanges, hi⟩
  · cases h

/-- A thread that has something to ask may go on, unless it wants the lock and the lock is held. -/
theorem can_go_on {i : κ} {c : ModelCommand V} (h : cfg.nextCommand i = some c)
    (hfree : c = .acquire → cfg.store.locked = false) :
    ∃ j cfg', Unblocked cfg (.exec j) ∧ (modelMachine V ε warmup).step cfg (.exec j) = some cfg' := by
  obtain ⟨name, next, exchanges, hi⟩ := exists_session h
  have hmoves : ((modelMachine V ε warmup).step cfg (.exec i)).isSome := by
    simp only [Machine.step, hi]
    rfl
  obtain ⟨cfg', hstep⟩ := Option.isSome_iff_exists.1 hmoves
  refine ⟨i, cfg', ⟨rfl, fun j hj hacquire => ?_⟩, hstep⟩
  cases hj
  exact hfree (Option.some.inj (h.symm.trans hacquire))

omit [DecidableEq κ] in
/-- A thread inside the lock has something to ask, and does not want the lock. -/
theorem nextCommand_of_inside (h : cfg.Consistent warmup) {i : κ} {name : Text} {stage : Stage V ε}
    (hi : cfg.thread warmup i = some (name, stage)) (hinside : stage.Inside) :
    ∃ c, cfg.nextCommand i = some c ∧ c ≠ .acquire := by
  obtain ⟨s, hs, hghost⟩ := Option.map_eq_some_iff.1 hi
  have hobeys := h.obeying i s hs
  rw [hghost] at hobeys
  obtain ⟨op, rest, exchanges⟩ := s
  cases rest with
  | done b =>
    have hover : stage = .over b := hobeys
    subst hover
    exact hinside.elim
  | request c next =>
    refine ⟨c, Config.mem_nextCommand hs, ?_⟩
    rintro rfl
    cases hobeys.1
    exact hinside

/-- **Every model is loaded at most once**, everyone gets the same one, one thread at a time is inside
the lock, and some thread can always go on. -/
theorem loaded_once
    (h : Reach (modelMachine V ε warmup).step Unblocked (ModelConfig.init loader) cfg) :
    LoadsOnce warmup cfg := by
  have hconsistent := consistent_of_reach h
  obtain ⟨inside, hlocked⟩ := hconsistent.inside
  constructor
  · exact fun name => (hlocked.fits name).loads_le
  · exact fun name => (hlocked.fits name).warmUps_le
  · exact hconsistent.returned
  · exact fun name model hkept => (hlocked.fits name).loads_eq hkept
  · intro i j name other s t hi hj hs ht
    have hsame := ((hlocked.inside_iff i name s).2 ⟨hi, hs⟩).symm.trans
      ((hlocked.inside_iff j other t).2 ⟨hj, ht⟩)
    cases hsame
    rfl
  · intro i hi
    obtain ⟨c, hc⟩ := Option.isSome_iff_exists.1 hi
    rcases hinside : inside with _ | ⟨j, name, stage⟩
    · refine can_go_on hc fun _ => ?_
      rw [hlocked.locked_eq, hinside]
      rfl
    · obtain ⟨hj, hstage⟩ := (hlocked.inside_iff j name stage).1 hinside
      obtain ⟨d, hd, hne⟩ := nextCommand_of_inside hconsistent hj hstage
      exact can_go_on hd fun hacquire => absurd hacquire hne

end Results

/-! ### Two threads and one cross-encoder -/

namespace TwoThreads

/-- Every model loads. -/
def loader : Text → Except Unit ℕ := fun name => .ok name.length

/-- The name of the model. -/
def name : Text := "cross".toList

def first : Fin 2 := ⟨0, Nat.zero_lt_two⟩
def second : Fin 2 := ⟨1, Nat.one_lt_two⟩

/-- Whether a step is unblocked can be read off the next command. -/
def isUnblocked (cfg : ModelConfig (Fin 2) ℕ Unit) :
    Label (Fin 2) Text (Text → Except Unit ℕ) → Bool
  | .abort _ => false
  | .exec i =>
    match cfg.nextCommand i with
    | some .acquire => !cfg.store.locked
    | _ => true
  | _ => true

theorem unblocked_of_isUnblocked {cfg : ModelConfig (Fin 2) ℕ Unit}
    {l : Label (Fin 2) Text (Text → Except Unit ℕ)} (h : isUnblocked cfg l = true) :
    Unblocked cfg l := by
  cases l with
  | exec i =>
    refine ⟨rfl, fun j hj hacquire => ?_⟩
    cases hj
    simp only [isUnblocked, Option.mem_def.1 hacquire, Bool.not_eq_true'] at h
    exact h
  | abort i => cases h
  | start i o => exact ⟨rfl, nofun⟩
  | env loader => exact ⟨rfl, nofun⟩

/-- The first thread loads the model while the second one waits. -/
def bothWait : List (Label (Fin 2) Text (Text → Except Unit ℕ)) :=
  [.start first name, .start second name, .exec first, .exec second, .exec first, .exec first,
    .exec first, .exec first, .exec first, .exec first, .exec second, .exec second, .exec second]

/-- Both threads get the model, which is loaded once. -/
theorem loaded_once_two : ∃ cfg : ModelConfig (Fin 2) ℕ Unit,
    cfg.Quiet ∧ LoadsOnce true cfg := by
  obtain ⟨cfg, hreach, hquiet⟩ := exists_reach_of_runLabels (modelMachine ℕ Unit true).step
    isUnblocked (ModelConfig.init loader : ModelConfig (Fin 2) ℕ Unit) bothWait
    (fun cfg => cfg.Quiet) (by decide +kernel)
  exact ⟨cfg, of_decide_eq_true hquiet,
    loaded_once (hreach.mono fun _ _ => unblocked_of_isUnblocked)⟩

/-- The model it is handed out. -/
def handedOut (cfg : ModelConfig (Fin 2) ℕ Unit) : Option ℕ :=
  match (modelMachine ℕ Unit true).step cfg (.exec second) with
  | some cfg' =>
    match cfg'.log with
    | .returned thread asked (.ok model) :: _ =>
      if thread = second ∧ asked = name then some model else none
    | _ => none
  | none => none

end TwoThreads

end ProductIntelligence

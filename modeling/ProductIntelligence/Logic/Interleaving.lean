import ProductIntelligence.Logic.Program
import ProductIntelligence.Logic.Reach

/-!
# Clients interleaved at the granularity of single commands

Any number of clients run operations against one store.  A client that is inside
an operation has a *session*: the rest of the operation's program and the
exchanges it has made.  One step lets one client issue its next command, so every
gap between two commands is an interleaving point; an `abort` ends an operation
at such a gap, which is what a crash of the client, or a command that raises,
leaves behind.

## Main definitions

* `Session`, `Event`, `Config`, `Label` — the state of the system and its moves.
* `Machine.step` — one move.
* `Config.put`, `Config.finish` — a session goes on, a session returns.
* `Config.Obeying` — every session keeps to a discipline.

## Main results

* `Machine.step_start_eq`, `Machine.step_exec_eq`, `Machine.step_abort_eq`,
  `Machine.step_env_eq` — what each move does.
* `Config.resume_of_put` — what a resumed session keeps.
* `Machine.step_rule` — an invariant from what each kind of move does.
* `Config.Obeying.put`, `Config.Obeying.finish` — sessions stay disciplined as one goes on or ends.
-/

namespace Effects

/-- An operation in progress: what is left of its program, and the exchanges it has
made, newest first. -/
structure Session {C : Type} (R : C → Type) (O β : Type) where
  op : O
  rest : Program R β
  exchanges : List (Exchange R)

/-- The ghost state a session has reached under a discipline. -/
def Session.ghost {C : Type} {R : C → Type} {O β γ : Type} (D : Discipline R γ) (init : O → γ)
    (s : Session R O β) : γ := D.replay (init s.op) s.exchanges

/-- What the log of a system records. -/
inductive Event {C : Type} (R : C → Type) (ι O β : Type)
  | started (i : ι) (o : O)
  | ran (i : ι) (o : O) (x : Exchange R)
  | returned (i : ι) (o : O) (b : β)

/-- The state of the system: the store, the operation each client is inside of, and
what happened so far, newest first. -/
structure Config {C : Type} (R : C → Type) (σ ι O β : Type) where
  store : σ
  sessions : ι → Option (Session R O β)
  log : List (Event R ι O β)

/-- The moves: a client starts an operation, issues its next command, abandons its
operation; the environment moves. -/
inductive Label (ι O ε : Type)
  | start (i : ι) (o : O)
  | exec (i : ι)
  | abort (i : ι)
  | env (e : ε)

/-- The move ends an operation half way. -/
def Label.aborts : Label ι O ε → Bool
  | .abort _ => true
  | _ => false

/-- A store with its operations, and what the environment may do to it. -/
structure Machine {C : Type} (R : C → Type) (σ O β ε : Type) where
  handler : Handler R σ
  body : O → Program R β
  env : ε → σ → Option σ

variable {C : Type} {R : C → Type} {σ ι O β ε γ : Type} [DecidableEq ι]

namespace Config

/-- No client is inside an operation. -/
def Quiet (cfg : Config R σ ι O β) : Prop := ∀ i, cfg.sessions i = none

instance {n : ℕ} (cfg : Config R σ (Fin n) O β) : Decidable cfg.Quiet :=
  inferInstanceAs (Decidable (∀ i, cfg.sessions i = none))

/-- The command client `i` issues next. -/
def nextCommand (cfg : Config R σ ι O β) (i : ι) : Option C :=
  match cfg.sessions i with
  | some ⟨_, .request c _, _⟩ => some c
  | _ => none

/-- Client `i` goes on with session `s`, or returns if its program is finished. -/
def resume (cfg : Config R σ ι O β) (i : ι) (s : Session R O β) : Config R σ ι O β :=
  match s.rest with
  | .done b =>
    { cfg with
      sessions := Function.update cfg.sessions i none
      log := .returned i s.op b :: cfg.log }
  | .request _ _ => { cfg with sessions := Function.update cfg.sessions i (some s) }

/-- Client `i` is inside session `s`. -/
def put (cfg : Config R σ ι O β) (i : ι) (s : Session R O β) : Config R σ ι O β :=
  { cfg with sessions := Function.update cfg.sessions i (some s) }

/-- Client `i` returns from operation `o` with `b`. -/
def finish (cfg : Config R σ ι O β) (i : ι) (o : O) (b : β) : Config R σ ι O β :=
  { cfg with
    sessions := Function.update cfg.sessions i none
    log := .returned i o b :: cfg.log }

/-- What resuming keeps: it puts the session, and then perhaps finishes it. -/
theorem resume_of_put {I : Config R σ ι O β → Prop} {cfg : Config R σ ι O β} {i : ι}
    {s : Session R O β} (hput : I (cfg.put i s))
    (hfinish : ∀ b, s.rest = .done b → I ((cfg.put i s).finish i s.op b)) :
    I (cfg.resume i s) := by
  -- whether the session returns is read off its program
  obtain ⟨o, rest, xs⟩ := s
  cases rest with
  | done b => simpa [resume, put, finish] using hfinish b rfl
  | request c next => exact hput

@[simp] theorem put_sessions_self (cfg : Config R σ ι O β) (i : ι) (s : Session R O β) :
    (cfg.put i s).sessions i = some s := by simp [put]

theorem put_sessions_of_ne (cfg : Config R σ ι O β) {i k : ι} (s : Session R O β)
    (hne : k ≠ i) : (cfg.put i s).sessions k = cfg.sessions k := by simp [put, hne]

/-- A session after `put` is the one put in place or was there before. -/
theorem of_put_sessions {cfg : Config R σ ι O β} {i k : ι} {s t : Session R O β}
    (h : (cfg.put i s).sessions k = some t) :
    (k = i ∧ t = s) ∨ (k ≠ i ∧ cfg.sessions k = some t) := by
  by_cases hk : k = i
  · subst hk
    rw [cfg.put_sessions_self] at h
    exact .inl ⟨rfl, (Option.some.inj h).symm⟩
  · rw [cfg.put_sessions_of_ne s hk] at h
    exact .inr ⟨hk, h⟩

/-- A session that goes on when client `i` ends its own is another client's. -/
theorem of_ended_sessions {cfg : Config R σ ι O β} {i k : ι} {t : Session R O β}
    (h : Function.update cfg.sessions i none k = some t) :
    k ≠ i ∧ cfg.sessions k = some t := by
  by_cases hk : k = i
  · subst hk
    rw [Function.update_self] at h
    cases h
  · rw [Function.update_of_ne hk] at h
    exact ⟨hk, h⟩

omit [DecidableEq ι] in
/-- The next command of a client about to issue one. -/
theorem mem_nextCommand {cfg : Config R σ ι O β} {i : ι} {o : O} {c : C}
    {next : R c → Program R β} {xs : List (Exchange R)}
    (h : cfg.sessions i = some ⟨o, .request c next, xs⟩) : c ∈ cfg.nextCommand i := by
  rw [nextCommand, h]
  rfl

/-- Resuming a session leaves the store alone. -/
@[simp] theorem resume_store (cfg : Config R σ ι O β) (i : ι) (s : Session R O β) :
    (cfg.resume i s).store = cfg.store := by
  unfold resume; split <;> rfl

/-- Resuming a session touches no other client. -/
theorem resume_sessions_of_ne (cfg : Config R σ ι O β) {i k : ι} (s : Session R O β)
    (hne : k ≠ i) : (cfg.resume i s).sessions k = cfg.sessions k := by
  unfold resume; split <;> simp [hne]

/-- A resumed client has the session given, with some of its program left, or none. -/
theorem resume_sessions_self (cfg : Config R σ ι O β) (i : ι) (s : Session R O β) :
    (∃ b, s.rest = .done b ∧ (cfg.resume i s).sessions i = none ∧
        (cfg.resume i s).log = .returned i s.op b :: cfg.log) ∨
      ((∀ b, s.rest ≠ .done b) ∧ (cfg.resume i s).sessions i = some s ∧
        (cfg.resume i s).log = cfg.log) := by
  obtain ⟨o, rest, xs⟩ := s
  cases rest with
  | done b => exact .inl ⟨b, rfl, by simp [resume], rfl⟩
  | request c next => exact .inr ⟨by simp, by simp [resume], rfl⟩

end Config

namespace Machine

variable (M : Machine R σ O β ε)

/-- One move of the system. -/
def step (cfg : Config R σ ι O β) : Label ι O ε → Option (Config R σ ι O β)
  | .start i o =>
    match cfg.sessions i with
    | some _ => none
    | none =>
      some (({ cfg with log := .started i o :: cfg.log } : Config R σ ι O β).resume i
        ⟨o, M.body o, []⟩)
  | .exec i =>
    match cfg.sessions i with
    | none => none
    | some ⟨_, .done _, _⟩ => none
    | some ⟨o, .request c next, xs⟩ =>
      let answer := M.handler c cfg.store
      some (({ cfg with store := answer.2, log := .ran i o ⟨c, answer.1⟩ :: cfg.log } :
        Config R σ ι O β).resume i ⟨o, next answer.1, ⟨c, answer.1⟩ :: xs⟩)
  | .abort i =>
    match cfg.sessions i with
    | none => none
    | some _ => some { cfg with sessions := Function.update cfg.sessions i none }
  | .env e => (M.env e cfg.store).map fun s => { cfg with store := s }

/-- The state in which client `i` has just started operation `o`. -/
def started (cfg : Config R σ ι O β) (i : ι) (o : O) : Config R σ ι O β :=
  ({ cfg with log := .started i o :: cfg.log } : Config R σ ι O β).put i ⟨o, M.body o, []⟩

/-- The state in which client `i` has just got the reply to command `c`. -/
def answered (cfg : Config R σ ι O β) (i : ι) (o : O) (c : C) (next : R c → Program R β)
    (xs : List (Exchange R)) : Config R σ ι O β :=
  ({ cfg with
      store := (M.handler c cfg.store).2
      log := .ran i o ⟨c, (M.handler c cfg.store).1⟩ :: cfg.log } : Config R σ ι O β).put i
    ⟨o, next (M.handler c cfg.store).1, ⟨c, (M.handler c cfg.store).1⟩ :: xs⟩

variable {M} {cfg cfg' : Config R σ ι O β}

@[simp] theorem started_sessions_self (i : ι) (o : O) :
    (M.started cfg i o).sessions i = some ⟨o, M.body o, []⟩ :=
  Config.put_sessions_self _ _ _

theorem started_sessions_of_ne {i k : ι} (o : O) (hk : k ≠ i) :
    (M.started cfg i o).sessions k = cfg.sessions k :=
  Config.put_sessions_of_ne _ _ hk

@[simp] theorem answered_sessions_self (i : ι) (o : O) (c : C) (next : R c → Program R β)
    (xs : List (Exchange R)) :
    (M.answered cfg i o c next xs).sessions i =
      some ⟨o, next (M.handler c cfg.store).1, ⟨c, (M.handler c cfg.store).1⟩ :: xs⟩ :=
  Config.put_sessions_self _ _ _

theorem answered_sessions_of_ne {i k : ι} (o : O) (c : C) (next : R c → Program R β)
    (xs : List (Exchange R)) (hk : k ≠ i) :
    (M.answered cfg i o c next xs).sessions k = cfg.sessions k :=
  Config.put_sessions_of_ne _ _ hk

/-- What a `start` does. -/
theorem step_start_eq {i : ι} {o : O} (h : M.step cfg (.start i o) = some cfg') :
    cfg.sessions i = none ∧
      cfg' = ({ cfg with log := .started i o :: cfg.log } : Config R σ ι O β).resume i
        ⟨o, M.body o, []⟩ := by
  simp only [step] at h
  split at h
  · cases h
  · next hi => exact ⟨hi, (Option.some.inj h).symm⟩

/-- What an `exec` does. -/
theorem step_exec_eq {i : ι} (h : M.step cfg (.exec i) = some cfg') :
    ∃ o c next xs, cfg.sessions i = some ⟨o, .request c next, xs⟩ ∧
      cfg' = ({ cfg with
          store := (M.handler c cfg.store).2
          log := .ran i o ⟨c, (M.handler c cfg.store).1⟩ :: cfg.log } : Config R σ ι O β).resume i
        ⟨o, next (M.handler c cfg.store).1, ⟨c, (M.handler c cfg.store).1⟩ :: xs⟩ := by
  simp only [step] at h
  split at h
  · cases h
  · cases h
  · next o c next xs hi => exact ⟨o, c, next, xs, hi, (Option.some.inj h).symm⟩

/-- An `exec` with which a client returns has got it its last reply. -/
theorem returned_of_step_exec {i : ι} {o : O} {b : β} {log : List (Event R ι O β)}
    (h : M.step cfg (.exec i) = some cfg') (hlog : cfg'.log = .returned i o b :: log) :
    ∃ c next xs, cfg.sessions i = some ⟨o, .request c next, xs⟩ ∧
      next (M.handler c cfg.store).1 = .done b := by
  obtain ⟨o', c, next, xs, hi, rfl⟩ := step_exec_eq h
  rcases Config.resume_sessions_self _ i _ with ⟨b', hrest, -, hreturned⟩ | ⟨-, -, hgoes⟩
  · cases hlog.symm.trans hreturned
    exact ⟨c, next, xs, hi, hrest⟩
  · cases hlog.symm.trans hgoes

/-- What an `abort` does. -/
theorem step_abort_eq {i : ι} (h : M.step cfg (.abort i) = some cfg') :
    ∃ s, cfg.sessions i = some s ∧
      cfg' = { cfg with sessions := Function.update cfg.sessions i none } := by
  simp only [step] at h
  split at h
  · cases h
  · next s hi => exact ⟨s, hi, (Option.some.inj h).symm⟩

/-- What a move of the environment does. -/
theorem step_env_eq {e : ε} (h : M.step cfg (.env e) = some cfg') :
    ∃ t, M.env e cfg.store = some t ∧ cfg' = { cfg with store := t } := by
  simp only [step, Option.map_eq_some_iff] at h
  obtain ⟨t, ht, rfl⟩ := h
  exact ⟨t, ht, rfl⟩

/-- **The step rule**: what holds after every start, answer, abort and move of the
environment, and survives every return, holds after every step. -/
theorem step_rule {I : Config R σ ι O β → Prop} {l : Label ι O ε}
    (hstep : M.step cfg l = some cfg')
    (hstart : ∀ i o, l = .start i o → cfg.sessions i = none → I (M.started cfg i o))
    (hanswer : ∀ i o c next xs, l = .exec i → cfg.sessions i = some ⟨o, .request c next, xs⟩ →
      I (M.answered cfg i o c next xs))
    (hfinish : ∀ cfg i s b, I cfg → cfg.sessions i = some s → s.rest = .done b →
      I (cfg.finish i s.op b))
    (habort : ∀ i s, l = .abort i → cfg.sessions i = some s →
      I { cfg with sessions := Function.update cfg.sessions i none })
    (henv : ∀ e t, l = .env e → M.env e cfg.store = some t → I { cfg with store := t }) :
    I cfg' := by
  cases l with
  | start i o =>
    obtain ⟨hnone, rfl⟩ := step_start_eq hstep
    have hput := hstart i o rfl hnone
    exact Config.resume_of_put hput fun b hb =>
      hfinish _ i _ b hput (Config.put_sessions_self _ _ _) hb
  | exec i =>
    obtain ⟨o, c, next, xs, hi, rfl⟩ := step_exec_eq hstep
    have hput := hanswer i o c next xs rfl hi
    exact Config.resume_of_put hput fun b hb =>
      hfinish _ i _ b hput (Config.put_sessions_self _ _ _) hb
  | abort i =>
    obtain ⟨s, hi, rfl⟩ := step_abort_eq hstep
    exact habort i s rfl hi
  | env e =>
    obtain ⟨t, ht, rfl⟩ := step_env_eq hstep
    exact henv e t rfl ht

end Machine

/-! ### Disciplined systems -/

/-- Every session keeps to discipline `D`, its operation `o` started from ghost state
`init o` and due to return in `post o`. -/
def Config.Obeying (D : Discipline R γ) (init : O → γ) (post : O → β → γ → Prop)
    (cfg : Config R σ ι O β) : Prop :=
  ∀ i s, cfg.sessions i = some s → s.rest.Obeys D (post s.op) (s.ghost D init)

namespace Config.Obeying

variable {D : Discipline R γ} {init : O → γ} {post : O → β → γ → Prop}
  {cfg cfg' : Config R σ ι O β}

omit [DecidableEq ι] in
/-- Only the sessions matter. -/
theorem congr (h : cfg.Obeying D init post) (hsessions : cfg'.sessions = cfg.sessions) :
    cfg'.Obeying D init post :=
  fun k t ht => h k t (hsessions ▸ ht)

/-- A disciplined session put in place keeps every session disciplined. -/
theorem put (h : cfg.Obeying D init post) {i : ι} {s : Session R O β}
    (hs : s.rest.Obeys D (post s.op) (s.ghost D init)) : (cfg.put i s).Obeying D init post := by
  intro k t ht
  rcases Config.of_put_sessions ht with ⟨-, rfl⟩ | ⟨-, hold⟩
  · exact hs
  · exact h k t hold

/-- Finishing a session keeps the others disciplined. -/
theorem finish (h : cfg.Obeying D init post) {i : ι} {o : O} {b : β} :
    (cfg.finish i o b).Obeying D init post :=
  fun k t ht => h k t (Config.of_ended_sessions ht).2

/-- A client that starts a disciplined operation keeps every session disciplined. -/
theorem started {M : Machine R σ O β ε} (h : cfg.Obeying D init post) {i : ι} {o : O}
    (hbody : (M.body o).Obeys D (post o) (init o)) :
    (M.started cfg i o).Obeying D init post :=
  (h.congr rfl).put hbody

/-- So does a client that gets a reply as expected. -/
theorem answered {M : Machine R σ O β ε} (h : cfg.Obeying D init post) {i : ι} {o : O} {c : C}
    {next : R c → Program R β} {xs : List (Exchange R)}
    (hi : cfg.sessions i = some ⟨o, .request c next, xs⟩)
    (hreply : D.expects (Session.ghost D init ⟨o, .request c next, xs⟩) c
      (M.handler c cfg.store).1) :
    (M.answered cfg i o c next xs).Obeying D init post :=
  (h.congr rfl).put ((h i _ hi).2 _ hreply)

/-- Resuming a disciplined session keeps every session disciplined. -/
theorem resume (h : cfg.Obeying D init post) {i : ι} {s : Session R O β}
    (hs : s.rest.Obeys D (post s.op) (s.ghost D init)) :
    (cfg.resume i s).Obeying D init post :=
  Config.resume_of_put (h.put hs) fun _ _ => (h.put hs).finish

end Config.Obeying

end Effects

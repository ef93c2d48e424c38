import Mathlib.Logic.Function.Basic
import Mathlib.Tactic.Common

/-!
# Programs over a store of atomic commands

A program is a tree of requests: each node issues one command and continues with
the reply.  The same tree is read in two ways.  Run from end to end it is a
function on stores; run one request at a time it is a party of a concurrent
system, whose remaining tree is its program counter.

What a program does whatever replies it gets is stated by a *discipline*: a ghost
state that every exchange updates, together with the commands it permits and the
replies it relies on.

## Main definitions

* `Program`, `Handler` — the trees, over commands `C` whose replies have the types
  `R`, and the way a store answers.
* `Program.run` — the program run alone.
* `Program.leaves`, `Program.issued` — the store a program leaves that may die before its end,
  and the commands it has issued.
* `Program.attempt` — the program run alone, with a request that fails.
* `Program.expand` — the program with its commands replaced by programs.
* `Program.exchanges` — what the program run alone asks and is told.
* `Discipline`, `Program.Obeys` — ghost states, and the programs that keep to them.

## Main results

* `Program.run_bind` — running a composition.
* `Program.Obeys.bind`, `Program.Obeys.mono` — the composition rules of `Obeys`.
* `Program.Obeys.run` — a disciplined program run alone ends in its postcondition.
* `Program.Obeys.leaves` — it keeps an invariant wherever it dies.
* `Program.Obeys.expand` — its commands may be programs themselves.
-/

namespace Effects

/-- A program: either finished with a value, or waiting for the reply to a
command. -/
inductive Program {C : Type} (R : C → Type) (α : Type) : Type
  | done (a : α)
  | request (c : C) (next : R c → Program R α)

/-- How a store of type `σ` answers each command. -/
abbrev Handler {C : Type} (R : C → Type) (σ : Type) := (c : C) → σ → R c × σ

namespace Program

variable {C : Type} {R : C → Type} {σ α β γ : Type}

/-- Sequential composition. -/
protected def bind : Program R α → (α → Program R β) → Program R β
  | .done a, f => f a
  | .request c next, f => .request c fun r => (next r).bind f

instance : Monad (Program R) where
  pure := .done
  bind := Program.bind

/-- The program that issues one command and returns its reply. -/
def perform (c : C) : Program R (R c) := .request c .done

@[simp] theorem done_bind (a : α) (f : α → Program R β) : Program.done a >>= f = f a := rfl

@[simp] theorem pure_eq_done (a : α) : (pure a : Program R α) = .done a := rfl

@[simp] theorem request_bind (c : C) (next : R c → Program R α)
    (f : α → Program R β) :
    Program.request c next >>= f = .request c fun r => next r >>= f := rfl

@[simp] theorem perform_bind (c : C) (f : R c → Program R α) :
    perform c >>= f = .request c f := rfl

/-! ### Running a program alone -/

/-- Run a program from end to end: its value and the store it leaves. -/
def run (h : Handler R σ) : Program R α → σ → α × σ
  | .done a, s => (a, s)
  | .request c next, s => (next (h c s).1).run h (h c s).2

@[simp] theorem run_done (h : Handler R σ) (a : α) (s : σ) :
    (Program.done a : Program R α).run h s = (a, s) := rfl

@[simp] theorem run_request (h : Handler R σ) (c : C)
    (next : R c → Program R α) (s : σ) :
    (Program.request c next).run h s = (next (h c s).1).run h (h c s).2 := rfl

/-- A composition runs its first part, then its second on the store left. -/
theorem run_bind (h : Handler R σ) (p : Program R α) (f : α → Program R β) (s : σ) :
    (p >>= f).run h s = (f (p.run h s).1).run h (p.run h s).2 := by
  induction p generalizing s with
  | done a => rfl
  | request c next ih => exact ih (h c s).1 (h c s).2

/-! ### Dying early, and larger stores -/

/-- The store a program leaves that dies after a number of requests, or never. -/
def leaves (h : Handler R σ) : Program R α → Option ℕ → σ → σ
  | .done _, _, s => s
  | .request _ _, some 0, s => s
  | .request c next, some (n + 1), s => (next (h c s).1).leaves h (some n) (h c s).2
  | .request c next, none, s => (next (h c s).1).leaves h none (h c s).2

/-- The commands it has issued by then. -/
def issued (h : Handler R σ) : Program R α → Option ℕ → σ → List C
  | .done _, _, _ => []
  | .request _ _, some 0, _ => []
  | .request c next, some (n + 1), s => c :: (next (h c s).1).issued h (some n) (h c s).2
  | .request c next, none, s => c :: (next (h c s).1).issued h none (h c s).2

/-- Run a program one of whose requests, if any, fails and does nothing: its value, unless it
failed, and the store it leaves. -/
def attempt (h : Handler R σ) : Program R α → Option ℕ → σ → Option α × σ
  | .done a, _, s => (some a, s)
  | .request _ _, some 0, s => (none, s)
  | .request c next, some (n + 1), s => (next (h c s).1).attempt h (some n) (h c s).2
  | .request c next, none, s => (next (h c s).1).attempt h none (h c s).2

@[simp] theorem attempt_done (h : Handler R σ) (a : α) (failure : Option ℕ) (s : σ) :
    (Program.done a : Program R α).attempt h failure s = (some a, s) := by
  cases failure with
  | none => rfl
  | some n => rfl

/-- A program that does not die runs to its end. -/
theorem leaves_none (h : Handler R σ) (p : Program R α) (s : σ) :
    p.leaves h none s = (p.run h s).2 := by
  induction p generalizing s with
  | done a => rfl
  | request c next ih => exact ih _ _

/-- Replace each command by a program that yields its reply. -/
def expand {C' : Type} {R' : C' → Type} (f : (c : C) → Program R' (R c)) :
    Program R α → Program R' α
  | .done a => .done a
  | .request c next => f c >>= fun r => (next r).expand f

/-- Expanding a program is running it with expanded replies. -/
theorem run_expand {C' : Type} {R' : C' → Type} {f : (c : C) → Program R' (R c)}
    (h : Handler R' σ) (p : Program R α) (s : σ) :
    (p.expand f).run h s = p.run (fun c => (f c).run h) s := by
  induction p generalizing s with
  | done a => rfl
  | request c next ih =>
    rw [expand, run_bind, ih]
    rfl

end Program

/-! ### Disciplines -/

/-- A discipline on programs: a ghost state updated by every exchange, the
commands it permits and the replies it relies on. -/
structure Discipline {C : Type} (R : C → Type) (γ : Type) where
  allows : γ → C → Prop
  expects : γ → (c : C) → R c → Prop
  next : γ → (c : C) → R c → γ

/-- A command together with the reply it got. -/
structure Exchange {C : Type} (R : C → Type) where
  command : C
  reply : R command

/-- The exchanges a program makes as it runs alone, oldest first. -/
def Program.exchanges {C : Type} {R : C → Type} {σ α : Type} (h : Handler R σ) :
    Program R α → σ → List (Exchange R)
  | .done _, _ => []
  | .request c next, s => ⟨c, (h c s).1⟩ :: (next (h c s).1).exchanges h (h c s).2

/-- A composition makes the exchanges of its first part, then those of its second. -/
theorem Program.exchanges_bind {C : Type} {R : C → Type} {σ α β : Type} (h : Handler R σ)
    (p : Program R α) (f : α → Program R β) (s : σ) :
    (p >>= f).exchanges h s = p.exchanges h s ++ (f (p.run h s).1).exchanges h (p.run h s).2 := by
  induction p generalizing s with
  | done a => rfl
  | request c next ih => exact congrArg (_ :: ·) (ih (h c s).1 (h c s).2)

/-- The ghost state after a list of exchanges, newest first. -/
def Discipline.replay {C : Type} {R : C → Type} {γ : Type} (D : Discipline R γ) (g : γ) :
    List (Exchange R) → γ
  | [] => g
  | x :: xs => D.next (D.replay g xs) x.command x.reply

namespace Program

variable {C : Type} {R : C → Type} {σ α β γ : Type} {D : Discipline R γ}

/-- `p.Obeys D post g` says that from ghost state `g` the program `p` issues only
commands `D` permits, and returns in `post`, whatever expected replies it gets. -/
def Obeys (D : Discipline R γ) (post : α → γ → Prop) : Program R α → γ → Prop
  | .done a, g => post a g
  | .request c next, g =>
      D.allows g c ∧ ∀ r, D.expects g c r → (next r).Obeys D post (D.next g c r)

@[simp] theorem obeys_done {post : α → γ → Prop} {a : α} {g : γ} :
    (Program.done a : Program R α).Obeys D post g ↔ post a g := Iff.rfl

@[simp] theorem obeys_request {post : α → γ → Prop} {c : C}
    {next : R c → Program R α} {g : γ} :
    (Program.request c next).Obeys D post g ↔
      D.allows g c ∧ ∀ r, D.expects g c r → (next r).Obeys D post (D.next g c r) := Iff.rfl

/-- Weakening the postcondition. -/
theorem Obeys.mono {post post' : α → γ → Prop} (himp : ∀ a g, post a g → post' a g)
    {p : Program R α} {g : γ} (hp : p.Obeys D post g) : p.Obeys D post' g := by
  induction p generalizing g with
  | done a => exact himp a g hp
  | request c next ih => exact ⟨hp.1, fun r hr => ih r (hp.2 r hr)⟩

/-- Composing: the second part starts wherever the first may return. -/
theorem Obeys.bind {mid : α → γ → Prop} {post : β → γ → Prop} {p : Program R α}
    {f : α → Program R β} {g : γ} (hp : p.Obeys D mid g)
    (hf : ∀ a g', mid a g' → (f a).Obeys D post g') : (p >>= f).Obeys D post g := by
  induction p generalizing g with
  | done a => exact hf a g hp
  | request c next ih => exact ⟨hp.1, fun r hr => ih r (hp.2 r hr)⟩

/-- **A disciplined program run alone ends in its postcondition.**  `I` relates the
store to the ghost state; it has to imply that replies are as expected, and to be
kept by every permitted command. -/
theorem Obeys.run {h : Handler R σ} {I : σ → γ → Prop} {post : α → γ → Prop}
    (hexp : ∀ s g c, I s g → D.allows g c → D.expects g c (h c s).1)
    (hkeep : ∀ s g c, I s g → D.allows g c → I (h c s).2 (D.next g c (h c s).1))
    {p : Program R α} {s : σ} {g : γ} (hp : p.Obeys D post g) (hI : I s g) :
    ∃ g', I (p.run h s).2 g' ∧ post (p.run h s).1 g' := by
  induction p generalizing s g with
  | done a => exact ⟨g, hI, hp⟩
  | request c next ih =>
    exact ih _ (hp.2 _ (hexp s g c hI hp.1)) (hkeep s g c hI hp.1)

/-- **Wherever a disciplined program dies, it leaves the invariant behind**, if the commands it
has issued keep it. -/
theorem Obeys.leaves {h : Handler R σ} {I : σ → γ → Prop} {post : α → γ → Prop} {ok : C → Prop}
    (hexp : ∀ s g c, I s g → D.allows g c → D.expects g c (h c s).1)
    (hkeep : ∀ s g c, I s g → D.allows g c → ok c → I (h c s).2 (D.next g c (h c s).1))
    {p : Program R α} {death : Option ℕ} {s : σ} {g : γ} (hp : p.Obeys D post g) (hI : I s g)
    (hok : ∀ c ∈ p.issued h death s, ok c) : ∃ g', I (p.leaves h death s) g' := by
  induction p generalizing death s g with
  | done a => exact ⟨g, hI⟩
  | request c next ih =>
    have hreply := hexp s g c hI hp.1
    rcases death with _ | _ | n
    · exact ih _ (hp.2 _ hreply) (hkeep s g c hI hp.1 (hok c (List.mem_cons_self ..)))
        fun d hd => hok d (List.mem_cons_of_mem _ hd)
    · exact ⟨g, hI⟩
    · exact ih _ (hp.2 _ hreply) (hkeep s g c hI hp.1 (hok c (List.mem_cons_self ..)))
        fun d hd => hok d (List.mem_cons_of_mem _ hd)

/-- An expansion is disciplined when each command's program is, and yields what the program
expands from relies on. -/
theorem Obeys.expand {C' : Type} {R' : C' → Type} {δ : Type} {D' : Discipline R' δ}
    {f : (c : C) → Program R' (R c)} {rel : γ → δ → Prop} {post : α → γ → Prop}
    (hf : ∀ g d c, rel g d → D.allows g c →
      (f c).Obeys D' (fun r d' => D.expects g c r ∧ rel (D.next g c r) d') d)
    {p : Program R α} {g : γ} {d : δ} (hp : p.Obeys D post g) (hrel : rel g d) :
    (p.expand f).Obeys D' (fun a d' => ∃ g', rel g' d' ∧ post a g') d := by
  induction p generalizing g d with
  | done a => exact ⟨g, hrel, hp⟩
  | request c next ih =>
    exact (hf g d c hrel hp.1).bind fun r d' hr => ih r (hp.2 r hr.1) hr.2

end Program

end Effects

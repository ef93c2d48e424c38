import ProductIntelligence.Logic.Program

/-!
# Several stores in one keyspace

A command reads the contents of some keys and replaces the content of at most one.  Stores whose
commands are all like that can share one database, where the keys of all of them are written as
names: each command looks under the names of its keys.  If no two keys have the same name, every
program runs on the database as it runs on the stores.

## Main definitions

* `Access` — which keys a command looks at, and what it makes of their contents.
* `Access.Serves` — a store answers commands by the contents of their keys.
* `Access.runOn` — a program on the shared database; a content of the wrong type ends it.
* `Access.Holds` — the database holds, under the name of each key, what the store has there.
* `Access.add` — two stores side by side, with the keys of both.
* `Format`, `pack`, `single` — values as contents of one type; an empty collection is not kept.

## Main results

* `Access.Serves.add` — **two stores that answer by contents do so side by side**.
* `Access.Serves.run` — **a shared database runs every program as the store does**, if names are
  distinct.
-/

namespace Effects

variable {C : Type} {R : C → Type} {σ α τ K N W : Type}

/-- How commands reach the keys: the keys a command reads, the key it writes if any, and what it
replies and writes, given the contents of the keys it reads.  It fails on contents of the wrong
type.  The clock is common to all. -/
structure Access {C : Type} (R : C → Type) (τ K W : Type) where
  reads : C → List K
  writes : C → Option K
  act : τ → (c : C) → List (Option W) → Option (R c × Option W)

namespace Access

variable (access : Access R τ K W) [DecidableEq N] (name : K → N)

/-- The database after a command has written. -/
def store (c : C) (content : Option W) (db : N → Option W) : N → Option W :=
  match access.writes c with
  | some key => Function.update db (name key) content
  | none => db

/-- Run a program on the shared database, unless it meets a content of the wrong type. -/
def runOn (clock : τ) : Program R α → (N → Option W) → Option (α × (N → Option W))
  | .done a, db => some (a, db)
  | .request c next, db =>
    match access.act clock c ((access.reads c).map fun key => db (name key)) with
    | some (reply, content) => runOn clock (next reply) (access.store name c content db)
    | none => none

/-- A command that succeeds. -/
theorem runOn_of_act {clock : τ} {c : C} {next : R c → Program R α} {db : N → Option W}
    {reply : R c} {content : Option W}
    (h : access.act clock c ((access.reads c).map fun key => db (name key)) =
      some (reply, content)) :
    access.runOn name clock (.request c next) db =
      access.runOn name clock (next reply) (access.store name c content db) := by
  rw [runOn, h]

/-- A command that fails. -/
theorem runOn_of_act_eq_none {clock : τ} {c : C} {next : R c → Program R α} {db : N → Option W}
    (h : access.act clock c ((access.reads c).map fun key => db (name key)) = none) :
    access.runOn name clock (.request c next) db = none := by
  rw [runOn, h]

/-- A store answers each command by the contents of the keys that the command reads, and changes no
content but that of the key it writes. -/
structure Serves (handler : Handler R σ) (content : σ → K → Option W) (clock : σ → τ) : Prop where
  act : ∀ c s, access.act (clock s) c ((access.reads c).map (content s)) =
    some ((handler c s).1, (access.writes c).bind (content (handler c s).2))
  frame : ∀ c s key, access.writes c ≠ some key →
    content (handler c s).2 key = content s key
  clock : ∀ c s, clock (handler c s).2 = clock s

omit [DecidableEq N] in
/-- The database holds, under the name of each key, what the store has there. -/
def Holds (content : K → Option W) (db : N → Option W) : Prop := ∀ key, db (name key) = content key

variable {access name} {handler : Handler R σ} {content : σ → K → Option W} {clock : σ → τ}

/-- One command. -/
theorem Serves.holds_store (hserves : access.Serves handler content clock)
    (hname : Function.Injective name) (c : C) {s : σ} {db : N → Option W}
    (hdb : Holds name (content s) db) :
    Holds name (content (handler c s).2)
      (access.store name c ((access.writes c).bind (content (handler c s).2)) db) := by
  intro key
  unfold store
  cases hwrites : access.writes c with
  | none =>
    have hframe := hserves.frame c s key (by rw [hwrites]; exact nofun)
    exact (hdb key).trans hframe.symm
  | some written =>
    by_cases hkey : key = written
    · subst hkey
      exact Function.update_self ..
    · -- another key has another name
      have hframe := hserves.frame c s key fun h => hkey (Option.some.inj (hwrites.symm.trans h)).symm
      show Function.update db (name written) _ (name key) = _
      rw [Function.update_of_ne fun h => hkey (hname h), hframe]
      exact hdb key

/-- Names of no key are left alone. -/
theorem store_of_ne (c : C) (written : Option W) (db : N → Option W) {n : N}
    (hn : ∀ key, name key ≠ n) : access.store name c written db n = db n := by
  unfold store
  cases access.writes c with
  | none => rfl
  | some key => exact Function.update_of_ne (hn key).symm _ _

/-- **A shared database runs every program as the store does**, if no two keys have the same name. -/
theorem Serves.run (hserves : access.Serves handler content clock)
    (hname : Function.Injective name) (p : Program R α) {s : σ} {db : N → Option W}
    (hdb : Holds name (content s) db) :
    ∃ db', access.runOn name (clock s) p db = some ((p.run handler s).1, db') ∧
      Holds name (content (p.run handler s).2) db' ∧
      ∀ n, (∀ key, name key ≠ n) → db' n = db n := by
  induction p generalizing s db with
  | done a => exact ⟨db, rfl, hdb, fun _ _ => rfl⟩
  | request c next ih =>
    have hread : (access.reads c).map (fun key => db (name key)) =
        (access.reads c).map (content s) := List.map_congr_left fun key _ => hdb key
    obtain ⟨db', hrun, hholds, hframe⟩ := ih (handler c s).1 (hserves.holds_store hname c hdb)
    refine ⟨db', ?_, hholds, fun n hn => ?_⟩
    · unfold runOn
      rw [hread, hserves.act c s]
      rw [hserves.clock] at hrun
      exact hrun
    · rw [hframe n hn]
      exact store_of_ne c _ db hn

end Access

/-! ### Contents -/

/-- One type of content: how a value is written, and how it is read. -/
structure Format (β W : Type) where
  write : β → W
  read : W → Option β
  read_write : ∀ b, read (write b) = some b

/-- A collection as a content; an empty one is not kept. -/
def pack {β : Type} (format : Format (List β) W) (l : List β) : Option W :=
  if l = [] then none else some (format.write l)

/-- The collection that is a content, if it is of the right type. -/
def unpack {β : Type} (format : Format (List β) W) : Option W → Option (List β)
  | none => some []
  | some content => format.read content

/-- The value that is a content, if it is of the right type. -/
def single {β : Type} (format : Format β W) : Option W → Option (Option β)
  | none => some none
  | some content => (format.read content).map some

@[simp] theorem unpack_pack {β : Type} (format : Format (List β) W) (l : List β) :
    unpack format (pack format l) = some l := by
  unfold pack
  split
  · next hempty => rw [hempty]; rfl
  · exact format.read_write l

@[simp] theorem single_map {β : Type} (format : Format β W) (b : Option β) :
    single format (b.map format.write) = some b := by
  cases b with
  | none => rfl
  | some b => exact congrArg (Option.map some) (format.read_write b)

/-- All contents at once, if all are of the right type. -/
@[simp] theorem mapM_single_map {β γ : Type} (format : Format β W) (f : γ → Option β) (l : List γ) :
    (l.map fun c => (f c).map format.write).mapM (single format) = some (l.map f) := by
  induction l with
  | nil => rfl
  | cons c l ih =>
    rw [List.map_cons, List.mapM_cons, single_map, ih]
    rfl

/-! ### Two stores -/

namespace Access

variable {C₁ C₂ K₁ K₂ W₁ W₂ τ₁ τ₂ σ₁ σ₂ : Type} {R₁ : C₁ → Type} {R₂ : C₂ → Type}

/-- Contents of the first of two stores. -/
def ofLeft : Format W₁ (W₁ ⊕ W₂) := ⟨.inl, Sum.getLeft?, fun _ => rfl⟩

/-- Contents of the second one. -/
def ofRight : Format W₂ (W₁ ⊕ W₂) := ⟨.inr, Sum.getRight?, fun _ => rfl⟩

/-- The replies of two stores. -/
abbrev AddReply (R₁ : C₁ → Type) (R₂ : C₂ → Type) : C₁ ⊕ C₂ → Type
  | .inl c => R₁ c
  | .inr c => R₂ c

/-- Two stores side by side: each answers its own commands. -/
def addHandler (h₁ : Handler R₁ σ₁) (h₂ : Handler R₂ σ₂) : Handler (AddReply R₁ R₂) (σ₁ × σ₂)
  | .inl c, s => ((h₁ c s.1).1, (h₁ c s.1).2, s.2)
  | .inr c, s => ((h₂ c s.2).1, s.1, (h₂ c s.2).2)

/-- The contents of two stores. -/
def addContent (content₁ : σ₁ → K₁ → Option W₁) (content₂ : σ₂ → K₂ → Option W₂) (s : σ₁ × σ₂) :
    K₁ ⊕ K₂ → Option (W₁ ⊕ W₂)
  | .inl key => (content₁ s.1 key).map .inl
  | .inr key => (content₂ s.2 key).map .inr

/-- The clocks of two stores. -/
def addClock (clock₁ : σ₁ → τ₁) (clock₂ : σ₂ → τ₂) (s : σ₁ × σ₂) : τ₁ × τ₂ :=
  (clock₁ s.1, clock₂ s.2)

/-- Each command looks at the keys of its own store; a content of the other store is of the wrong
type. -/
def add (access₁ : Access R₁ τ₁ K₁ W₁) (access₂ : Access R₂ τ₂ K₂ W₂) :
    Access (AddReply R₁ R₂) (τ₁ × τ₂) (K₁ ⊕ K₂) (W₁ ⊕ W₂) where
  reads
    | .inl c => (access₁.reads c).map .inl
    | .inr c => (access₂.reads c).map .inr
  writes
    | .inl c => (access₁.writes c).map .inl
    | .inr c => (access₂.writes c).map .inr
  act
    | clock, .inl c, contents => do
      let own ← contents.mapM (single ofLeft)
      let (reply, content) ← access₁.act clock.1 c own
      pure (reply, content.map .inl)
    | clock, .inr c, contents => do
      let own ← contents.mapM (single ofRight)
      let (reply, content) ← access₂.act clock.2 c own
      pure (reply, content.map .inr)

/-- **Two stores that answer by contents do so side by side.** -/
theorem Serves.add {access₁ : Access R₁ τ₁ K₁ W₁} {access₂ : Access R₂ τ₂ K₂ W₂}
    {h₁ : Handler R₁ σ₁} {h₂ : Handler R₂ σ₂} {content₁ : σ₁ → K₁ → Option W₁}
    {content₂ : σ₂ → K₂ → Option W₂} {clock₁ : σ₁ → τ₁} {clock₂ : σ₂ → τ₂}
    (hserves₁ : access₁.Serves h₁ content₁ clock₁) (hserves₂ : access₂.Serves h₂ content₂ clock₂) :
    (access₁.add access₂).Serves (addHandler h₁ h₂) (addContent content₁ content₂)
      (addClock clock₁ clock₂) := by
  constructor
  · intro c s
    cases c with
    | inl c =>
      have hown : (((access₁.add access₂).reads (.inl c)).map
          (addContent content₁ content₂ s)).mapM (single ofLeft) =
          some ((access₁.reads c).map (content₁ s.1)) := by
        show List.mapM _ (((access₁.reads c).map Sum.inl).map _) = _
        rw [List.map_map]
        exact mapM_single_map ofLeft (content₁ s.1) (access₁.reads c)
      show (List.mapM _ _ >>= fun own => access₁.act (clock₁ s.1) c own >>= _) = _
      rw [hown]
      show (access₁.act (clock₁ s.1) c _ >>= _) = _
      rw [hserves₁.act]
      show some (_, _) = some (_, ((access₁.writes c).map Sum.inl).bind _)
      cases access₁.writes c <;> rfl
    | inr c =>
      have hown : (((access₁.add access₂).reads (.inr c)).map
          (addContent content₁ content₂ s)).mapM (single ofRight) =
          some ((access₂.reads c).map (content₂ s.2)) := by
        show List.mapM _ (((access₂.reads c).map Sum.inr).map _) = _
        rw [List.map_map]
        exact mapM_single_map ofRight (content₂ s.2) (access₂.reads c)
      show (List.mapM _ _ >>= fun own => access₂.act (clock₂ s.2) c own >>= _) = _
      rw [hown]
      show (access₂.act (clock₂ s.2) c _ >>= _) = _
      rw [hserves₂.act]
      show some (_, _) = some (_, ((access₂.writes c).map Sum.inr).bind _)
      cases access₂.writes c <;> rfl
  · intro c s key hkey
    -- a key of the other store is not touched at all
    cases c with
    | inl c =>
      cases key with
      | inl key =>
        have hne : access₁.writes c ≠ some key := fun h => hkey (congrArg (Option.map Sum.inl) h)
        exact congrArg (Option.map Sum.inl) (hserves₁.frame c s.1 key hne)
      | inr key => rfl
    | inr c =>
      cases key with
      | inl key => rfl
      | inr key =>
        have hne : access₂.writes c ≠ some key := fun h => hkey (congrArg (Option.map Sum.inr) h)
        exact congrArg (Option.map Sum.inr) (hserves₂.frame c s.2 key hne)
  · intro c s
    cases c with
    | inl c => exact congrArg (·, clock₂ s.2) (hserves₁.clock c s.1)
    | inr c => exact congrArg (clock₁ s.1, ·) (hserves₂.clock c s.2)

end Access

end Effects

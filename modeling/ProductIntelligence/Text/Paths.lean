import ProductIntelligence.Text.Tokens

/-!
# Lexical paths

POSIX paths without symbolic links.  A path is a list of names, counted from the root or from the
working directory.  Joining a path to an absolute one leaves the absolute one; resolving a path
takes its parent references in turn, and the parent of the root is the root.

## Main definitions

* `PosixPath`, `PosixPath.ofText` — a path, and the path that a text stands for.
* `join`, `name`, `resolve` — the operations on paths.
* `Inside cwd folder path` — the path leads below the folder.
* `HasNull` — a name of the path holds the null character, which no file can have.

## Main results

* `resolve_join` — resolving a joined path goes on from where its base leads.
* `inside_join_name` — a single name leads below its base.
* `resolve_resolve` — a resolved path leads where it did.
-/

/-- A path: whether it counts from the root, and its names. -/
structure PosixPath where
  absolute : Bool
  parts : List (List Char)
  deriving DecidableEq

namespace PosixPath

/-- `Path(text)`: dots and empty names stand for nothing. -/
def ofText (text : List Char) : PosixPath where
  absolute := text.head? = some '/'
  parts := (text.splitOn '/').filter fun part => part ≠ [] ∧ part ≠ ['.']

/-- `base / path`: an absolute path replaces its base. -/
def join (base path : PosixPath) : PosixPath :=
  if path.absolute then path else ⟨base.absolute, base.parts ++ path.parts⟩

/-- `path.name`: the last name. -/
def name (path : PosixPath) : List Char := (path.parts.getLast?).getD []

/-- The reference to the parent. -/
def parent : List Char := ['.', '.']

/-- One name after others: the reference to the parent takes the last of them away. -/
def enter (names : List (List Char)) (part : List Char) : List (List Char) :=
  if part = parent then names.dropLast else names ++ [part]

/-- `path.resolve()` in the working directory `cwd`. -/
def resolve (path cwd : PosixPath) : PosixPath where
  absolute := true
  parts := ((if path.absolute then [] else cwd.parts) ++ path.parts).foldl enter []

/-- The path leads below the folder. -/
def Inside (cwd folder path : PosixPath) : Prop :=
  (folder.resolve cwd).parts <+: (path.resolve cwd).parts ∧ path.resolve cwd ≠ folder.resolve cwd

/-- A name of the path holds the null character. -/
def HasNull (path : PosixPath) : Prop := ∃ part ∈ path.parts, Char.ofNat 0 ∈ part

instance (path : PosixPath) : Decidable path.HasNull := List.decidableBEx _ _

example : ((ofText "images".toList).join (ofText "../../../etc/./passwd".toList)).resolve
    (ofText "/srv".toList) = ofText "/etc/passwd".toList := by decide +kernel

variable {cwd base path folder : PosixPath} {part : List Char}

/-! ### Names -/

/-- The names of a path are not empty, are no dots and hold no separator. -/
theorem of_mem_parts_ofText {text : List Char} (h : part ∈ (ofText text).parts) :
    part ≠ [] ∧ part ≠ ['.'] ∧ '/' ∉ part := by
  obtain ⟨hsplit, hpart⟩ := List.mem_filter.1 h
  obtain ⟨hempty, hdot⟩ := of_decide_eq_true hpart
  refine ⟨hempty, hdot, fun hmem => ?_⟩
  have hfree := Words.splitOnP_free text part hsplit '/' hmem
  simp at hfree

/-- A single name is a path of that name. -/
theorem ofText_of_name (hempty : part ≠ []) (hdot : part ≠ ['.']) (hslash : '/' ∉ part) :
    ofText part = ⟨false, [part]⟩ := by
  have hsplit : part.splitOn '/' = [part] :=
    List.splitOnP_eq_singleton fun c hc => by
      have hne : c ≠ '/' := ne_of_mem_of_not_mem hc hslash
      simpa using hne
  have hhead : part.head? ≠ some '/' := fun h => hslash (List.mem_of_mem_head? h)
  rw [ofText, hsplit]
  simp [hempty, hdot, hhead]

/-- The names of a joined path are some of the names of the two. -/
theorem hasNull_join_or :
    (base.join path).HasNull ∨ base.HasNull ↔ base.HasNull ∨ path.HasNull := by
  unfold join
  split
  · exact or_comm
  · have happend : (PosixPath.mk base.absolute (base.parts ++ path.parts)).HasNull ↔
        base.HasNull ∨ path.HasNull := by
      simp only [HasNull, List.mem_append, or_and_right, exists_or]
    rw [happend]
    tauto

/-! ### Resolving -/

/-- A resolved path holds no reference to the parent. -/
theorem parent_not_mem_foldl {names parts : List (List Char)} (h : parent ∉ names) :
    parent ∉ parts.foldl enter names := by
  induction parts generalizing names with
  | nil => exact h
  | cons part parts ih =>
    refine ih ?_
    unfold enter
    split
    · exact fun hmem => h (List.dropLast_subset _ hmem)
    · next hne => simpa [h] using Ne.symm hne

/-- Names that are no references to the parent are entered as they are. -/
theorem foldl_enter_of_not_mem {names parts : List (List Char)} (h : parent ∉ parts) :
    parts.foldl enter names = names ++ parts := by
  induction parts generalizing names with
  | nil => exact (List.append_nil _).symm
  | cons part parts ih =>
    rw [List.mem_cons, not_or] at h
    rw [List.foldl_cons, ih h.2, enter, if_neg (Ne.symm h.1), List.append_assoc]
    rfl

/-- **A resolved path leads where it did.** -/
@[simp] theorem resolve_resolve : (path.resolve cwd).resolve cwd = path.resolve cwd := by
  have hnone : parent ∉ (path.resolve cwd).parts := parent_not_mem_foldl (List.not_mem_nil)
  have hfold : (path.resolve cwd).parts.foldl enter [] = (path.resolve cwd).parts :=
    foldl_enter_of_not_mem hnone
  calc (path.resolve cwd).resolve cwd
      = ⟨true, (path.resolve cwd).parts.foldl enter []⟩ := rfl
    _ = path.resolve cwd := by rw [hfold]; rfl

/-- **Resolving a joined path** goes on from where its base leads. -/
theorem resolve_join (h : path.absolute = false) :
    (base.join path).resolve cwd = ⟨true, path.parts.foldl enter (base.resolve cwd).parts⟩ := by
  have hjoin : base.join path = ⟨base.absolute, base.parts ++ path.parts⟩ := by
    rw [join, h]
    exact if_neg Bool.false_ne_true
  rw [hjoin, resolve, resolve, ← List.append_assoc, List.foldl_append]

/-- A single name is entered from where its base leads. -/
theorem resolve_join_name (h : part ≠ parent) :
    (base.join ⟨false, [part]⟩).resolve cwd = ⟨true, (base.resolve cwd).parts ++ [part]⟩ := by
  have hnot : parent ∉ [part] := by simpa using Ne.symm h
  rw [resolve_join rfl, foldl_enter_of_not_mem hnot]

/-- **A single name leads below its base.** -/
theorem inside_join_name (h : part ≠ parent) : Inside cwd folder (folder.join ⟨false, [part]⟩) := by
  unfold Inside
  rw [resolve_join_name h]
  refine ⟨List.prefix_append _ _, fun heq => ?_⟩
  have hparts := congrArg PosixPath.parts heq
  simp at hparts

/-- Only where a path leads matters. -/
theorem inside_resolve_iff : Inside cwd folder (path.resolve cwd) ↔ Inside cwd folder path := by
  unfold Inside
  rw [resolve_resolve]

end PosixPath

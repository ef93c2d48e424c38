import Mathlib.Data.Int.Notation
import Mathlib.Data.Nat.Notation
import ProductIntelligence.Lists.Keyed

/-!
# JSON texts

`json.loads` of the standard library: a recursive descent that reads a text from left to right
and raises at the first thing it cannot read.  A string may hold lone surrogates, so it is a list
of code points.

Most texts that are not JSON raise `JSONDecodeError`.  Two kinds of text raise something else: one
that nests deeper than the interpreter recurses, and one with an integer of more digits than it
converts.

## Main definitions

* `Json` — the values.
* `Json.Scanner` — a reader of one item, which always consumes something.
* `Json.scanItems` — the items of an array or of an object.
* `Json.scanOnce` — the reader of a value at a depth of nesting.
* `Json.loads` — the reader of a text.

## Main results

* `Json.loads_error` — a text within the limits of the interpreter raises `JSONDecodeError` only.

## References

The `json` module of CPython 3.12, with its accelerated scanner.
-/

/-- A JSON value. -/
inductive Json where
  | null
  | bool (value : Bool)
  | int (value : ℤ)
  /-- The float nearest to `± mantissa * 10 ^ exponent`. -/
  | float (negative : Bool) (mantissa : ℕ) (exponent : ℤ)
  | nan
  | infinity (negative : Bool)
  | str (codePoints : List ℕ)
  | array (items : List Json)
  /-- Each key once, in the order of first occurrence. -/
  | object (members : List (List ℕ × Json))

namespace Json

/-- What reading a text raises. -/
inductive Error
  /-- `JSONDecodeError`. -/
  | decode
  /-- `ValueError`, of an integer with too many digits. -/
  | value
  /-- `RecursionError`. -/
  | recursion
  deriving DecidableEq

/-- The limits of an interpreter. -/
structure Limits where
  /-- How deep arrays and objects may nest. -/
  nesting : ℕ
  /-- How many digits an integer may have; no limit if zero. -/
  digits : ℕ

/-- What is left of a text once something of it is consumed. -/
abbrev Shorter (s : List Char) := {rest : List Char // rest.length < s.length}

/-- The same rest, of a longer text. -/
def Shorter.of {s t : List Char} (rest : Shorter s) (h : s.length ≤ t.length) : Shorter t :=
  ⟨rest.1, rest.2.trans_le h⟩

/-- A reader of one item from the front of a text. -/
abbrev Scanner (α : Type) := (s : List Char) → Except Error (α × Shorter s)

/-! ### Blanks -/

/-- The characters between tokens. -/
def isBlank (c : Char) : Bool := c ∈ [' ', '\t', '\n', '\r']

/-- What follows the leading blanks. -/
def skip (s : List Char) : List Char := s.dropWhile isBlank

theorem length_skip_le (s : List Char) : (skip s).length ≤ s.length :=
  (List.dropWhile_sublist _).length_le

theorem length_lt_of_skip {s rest : List Char} {c : Char} (h : skip s = c :: rest) :
    rest.length < s.length := by
  have hle := length_skip_le s
  rw [h, List.length_cons] at hle
  exact hle

/-! ### Strings -/

/-- The value of a hexadecimal digit. -/
def hexDigit (c : Char) : Option ℕ :=
  if c.isDigit then some (c.toNat - '0'.toNat)
  else if 'a' ≤ c && c ≤ 'f' then some (c.toNat - 'a'.toNat + 10)
  else if 'A' ≤ c && c ≤ 'F' then some (c.toNat - 'A'.toNat + 10)
  else none

/-- The code unit that hexadecimal digits denote. -/
def codeUnit (digits : List Char) : Option ℕ :=
  digits.foldlM (fun n c => (hexDigit c).map (16 * n + ·)) 0

/-- The character that an escape other than `\u` denotes. -/
def escaped (c : Char) : Option ℕ :=
  [('"', 0x22), ('\\', 0x5c), ('/', 0x2f), ('b', 0x08), ('f', 0x0c), ('n', 0x0a), ('r', 0x0d),
    ('t', 0x09)].lookup c

/-- The code units up to the closing quote, and what follows it. -/
def codeUnits : List Char → Option (List ℕ × List Char)
  | [] | ['\\'] => none
  | '"' :: rest => some ([], rest)
  | '\\' :: 'u' :: a :: b :: c :: d :: rest =>
    match codeUnit [a, b, c, d], codeUnits rest with
    | some unit, some (units, rest') => some (unit :: units, rest')
    | _, _ => none
  | '\\' :: c :: rest =>
    match escaped c, codeUnits rest with
    | some unit, some (units, rest') => some (unit :: units, rest')
    | _, _ => none
  | c :: rest =>
    -- control characters must be escaped
    if c.toNat ≤ 0x1f then none
    else (codeUnits rest).map fun (units, rest') => (c.toNat :: units, rest')

/-- Adjacent halves of a surrogate pair make one code point. -/
def joinSurrogates : List ℕ → List ℕ
  | high :: low :: units =>
    if 0xd800 ≤ high ∧ high ≤ 0xdbff ∧ 0xdc00 ≤ low ∧ low ≤ 0xdfff then
      (0x10000 + (high - 0xd800) * 0x400 + (low - 0xdc00)) :: joinSurrogates units
    else high :: joinSurrogates (low :: units)
  | units => units

theorem length_codeUnits {s : List Char} {units : List ℕ} {rest : List Char}
    (h : codeUnits s = some (units, rest)) : rest.length < s.length := by
  fun_induction codeUnits s generalizing units rest with
  | case1 | case2 => cases h
  | case3 rest₀ =>
    cases h
    simp
  | case4 a b c d s unit units' rest' hu hrest ih | case6 c s hc unit units' rest' hu hrest ih =>
    cases h
    have hlt := ih hu
    simp only [List.length_cons]
    omega
  | case5 | case7 => cases h
  | case8 => cases h
  | case9 c s _ _ _ _ hc ih =>
    obtain ⟨⟨units', rest'⟩, hrest, hh⟩ := Option.map_eq_some_iff.1 h
    cases hh
    exact (ih hrest).trans_le (by simp)

/-! ### Numbers and names -/

/-- The number that decimal digits denote. -/
def decimal (digits : List Char) : ℕ := digits.foldl (fun n c => 10 * n + (c.toNat - '0'.toNat)) 0

/-- The digits of an integer, with no leading zeros, and what follows them. -/
def integerPart : List Char → Option (List Char × List Char)
  | [] => none
  | c :: s =>
    if c = '0' then some ([c], s)
    else if c.isDigit then some (c :: s.takeWhile Char.isDigit, s.dropWhile Char.isDigit)
    else none

/-- The digits after a point, none if no digit follows it, and what follows them. -/
def fractionPart (s : List Char) : List Char × List Char :=
  let digits := s.tail.takeWhile Char.isDigit
  if s.head? = some '.' ∧ digits ≠ [] then (digits, s.tail.dropWhile Char.isDigit) else ([], s)

/-- What follows a sign, if there is one. -/
def dropSign (s : List Char) : List Char :=
  if s.head? = some '-' ∨ s.head? = some '+' then s.tail else s

theorem length_dropSign_le (s : List Char) : (dropSign s).length ≤ s.length := by
  unfold dropSign
  split_ifs
  · exact s.tail_sublist.length_le
  · exact le_rfl

/-- The exponent, if there is one with a digit, and what follows it. -/
def exponentPart (s : List Char) : Option ℤ × List Char :=
  let digits := (dropSign s.tail).takeWhile Char.isDigit
  if (s.head? = some 'e' ∨ s.head? = some 'E') ∧ digits ≠ [] then
    (some (if s.tail.head? = some '-' then -decimal digits else decimal digits),
      (dropSign s.tail).dropWhile Char.isDigit)
  else (none, s)

/-- `_match_number`: an integer or, with a fraction or an exponent, a float. -/
def scanNumber (maxDigits : ℕ) (s : List Char) : Except Error (Json × List Char) :=
  let negative := s.head? = some '-'
  match integerPart (if negative then s.tail else s) with
  | none => .error .decode
  | some (digits, rest) =>
    let (fraction, rest') := fractionPart rest
    let (exponent, rest'') := exponentPart rest'
    if fraction = [] ∧ exponent = none then
      if 0 < maxDigits ∧ maxDigits < digits.length then .error .value
      else .ok (.int (if negative then -decimal digits else decimal digits), rest'')
    else
      .ok (.float negative (decimal (digits ++ fraction))
        (exponent.getD 0 - fraction.length), rest'')

theorem length_integerPart {s digits rest : List Char} (h : integerPart s = some (digits, rest)) :
    digits.length ≤ s.length ∧ rest.length < s.length := by
  cases s with
  | nil => cases h
  | cons c s =>
    simp only [integerPart] at h
    split_ifs at h <;> cases h
    · simp
    · have htake := (List.takeWhile_sublist Char.isDigit (l := s)).length_le
      have hdrop := (List.dropWhile_sublist Char.isDigit (l := s)).length_le
      simp only [List.length_cons]
      omega

theorem length_fractionPart_le (s : List Char) : (fractionPart s).2.length ≤ s.length := by
  simp only [fractionPart]
  split_ifs
  · exact ((List.dropWhile_sublist _).trans s.tail_sublist).length_le
  · exact le_rfl

theorem length_exponentPart_le (s : List Char) : (exponentPart s).2.length ≤ s.length := by
  simp only [exponentPart]
  by_cases h : (s.head? = some 'e' ∨ s.head? = some 'E') ∧
      (dropSign s.tail).takeWhile Char.isDigit ≠ []
  · rw [if_pos h]
    have hdigits := (List.dropWhile_sublist Char.isDigit (l := dropSign s.tail)).length_le
    exact (hdigits.trans (length_dropSign_le s.tail)).trans s.tail_sublist.length_le
  · rw [if_neg h]

theorem length_unsigned_le (s : List Char) :
    (if s.head? = some '-' then s.tail else s).length ≤ s.length := by
  split_ifs
  · exact s.tail_sublist.length_le
  · exact le_rfl

theorem length_scanNumber {maxDigits : ℕ} {s : List Char} {value : Json} {rest : List Char}
    (h : scanNumber maxDigits s = .ok (value, rest)) : rest.length < s.length := by
  simp only [scanNumber] at h
  split at h
  · cases h
  · rename_i digits after hint
    have hunsigned := length_unsigned_le s
    have hafter := (length_integerPart (by simpa using hint)).2
    have hfraction := length_fractionPart_le after
    have hexponent := length_exponentPart_le (fractionPart after).2
    split_ifs at h <;> cases h <;> omega

/-- The named values. -/
def names : List (List Char × Json) :=
  [("null".toList, .null), ("true".toList, .bool true), ("false".toList, .bool false),
    ("NaN".toList, .nan), ("Infinity".toList, .infinity false),
    ("-Infinity".toList, .infinity true)]

/-- A named value or a number. -/
def scanAtom (maxDigits : ℕ) (s : List Char) : Except Error (Json × List Char) :=
  match names.find? fun name => name.1.isPrefixOf s with
  | some (name, value) => .ok (value, s.drop name.length)
  | none => scanNumber maxDigits s

theorem length_scanAtom {maxDigits : ℕ} {s : List Char} {value : Json} {rest : List Char}
    (h : scanAtom maxDigits s = .ok (value, rest)) : rest.length < s.length := by
  simp only [scanAtom] at h
  split at h
  · rename_i name value' hname
    cases h
    have hlong : 0 < name.length := by
      have hmem := List.mem_of_find?_eq_some hname
      simp only [names, List.mem_cons, Prod.mk.injEq, List.not_mem_nil, or_false] at hmem
      rcases hmem with h | h | h | h | h | h <;> rw [h.1] <;> decide
    have hprefix := List.find?_some hname
    have hle : name.length ≤ s.length := (List.isPrefixOf_iff_prefix.1 hprefix).length_le
    rw [List.length_drop]
    omega
  · exact length_scanNumber h

/-! ### Arrays and objects -/

/-- Items with commas between them, up to the closing bracket. -/
def scanItems {α : Type} (item : Scanner α) (close : Char) (s : List Char) :
    Except Error (List α × Shorter s) :=
  match item s with
  | .error e => .error e
  | .ok (a, rest) =>
    match h : skip rest.1 with
    | [] => .error .decode
    | c :: more =>
      have hmore : more.length < s.length := (length_lt_of_skip h).trans rest.2
      if c = close then .ok ([a], ⟨more, hmore⟩)
      else if c = ',' then
        match scanItems item close (skip more) with
        | .error e => .error e
        | .ok (l, rest') => .ok (a :: l, rest'.of ((length_skip_le more).trans hmore.le))
      else .error .decode
termination_by s.length
decreasing_by exact (length_skip_le more).trans_lt hmore

/-- What follows the opening bracket: items, or the closing bracket at once. -/
def scanBody {α : Type} (item : Scanner α) (close : Char) (s : List Char) :
    Except Error (List α × Shorter s) :=
  match h : skip s with
  | [] => .error .decode
  | c :: rest =>
    have hrest : (c :: rest).length ≤ s.length := h ▸ length_skip_le s
    if c = close then .ok ([], ⟨rest, hrest⟩)
    else
      match scanItems item close (c :: rest) with
      | .error e => .error e
      | .ok (l, rest') => .ok (l, rest'.of hrest)

/-- A key, a colon and a value. -/
def scanMember (value : Scanner Json) (s : List Char) :
    Except Error ((List ℕ × Json) × Shorter s) :=
  match s with
  | '"' :: s =>
    match hkey : codeUnits s with
    | none => .error .decode
    | some (key, rest) =>
      match hcolon : skip rest with
      | ':' :: more =>
        have hmore : more.length ≤ s.length :=
          ((length_lt_of_skip hcolon).trans (length_codeUnits hkey)).le
        match value (skip more) with
        | .error e => .error e
        | .ok (v, rest') =>
          .ok ((joinSurrogates key, v),
            rest'.of (((length_skip_le more).trans hmore).trans (Nat.le_succ _)))
      | _ => .error .decode
  | _ => .error .decode

/-- The object of the members read: a later member of the same key replaces the value. -/
def ofMembers (members : List (List ℕ × Json)) : Json :=
  .object (members.foldl (fun l member => Keyed.update Prod.fst member.1 (fun _ => member) l) [])

/-- The value at the front of a text, given how to read the values nested in it. -/
def scanValue (maxDigits : ℕ) (nested : Option (Scanner Json)) (s : List Char) :
    Except Error (Json × Shorter s) :=
  match s with
  | '"' :: s =>
    match h : codeUnits s with
    | none => .error .decode
    | some (units, rest) =>
      .ok (.str (joinSurrogates units), ⟨rest, (length_codeUnits h).trans (Nat.lt_succ_self _)⟩)
  | '[' :: s =>
    match nested with
    | none => .error .recursion
    | some value =>
      match scanBody value ']' s with
      | .error e => .error e
      | .ok (items, rest) => .ok (.array items, rest.of (Nat.le_succ _))
  | '{' :: s =>
    match nested with
    | none => .error .recursion
    | some value =>
      match scanBody (scanMember value) '}' s with
      | .error e => .error e
      | .ok (members, rest) => .ok (ofMembers members, rest.of (Nat.le_succ _))
  | s =>
    match h : scanAtom maxDigits s with
    | .error e => .error e
    | .ok (value, rest) => .ok (value, ⟨rest, length_scanAtom h⟩)

/-- `scan_once`: the value at the front of a text, with at most `depth` levels of nesting. -/
def scanOnce (maxDigits : ℕ) : ℕ → Scanner Json
  | 0 => scanValue maxDigits none
  | depth + 1 => scanValue maxDigits (some (scanOnce maxDigits depth))

/-- `json.loads` of a string: one value with nothing but blanks around it. -/
def loads (limits : Limits) (s : List Char) : Except Error Json :=
  -- a byte order mark is refused
  if s.head? = some '\uFEFF' then .error .decode
  else
    match scanOnce limits.digits limits.nesting (skip s) with
    | .error e => .error e
    | .ok (value, rest) => if skip rest.1 = [] then .ok value else .error .decode

/-! ### Texts within the limits -/

/-- On texts of at most `n` characters the reader raises `JSONDecodeError` only. -/
def OnlyDecode {α : Type} (item : Scanner α) (n : ℕ) : Prop :=
  ∀ s, s.length ≤ n → ∀ e, item s = .error e → e = .decode

theorem scanNumber_error {maxDigits : ℕ} {s : List Char} {e : Error}
    (hdigits : maxDigits = 0 ∨ s.length ≤ maxDigits) (h : scanNumber maxDigits s = .error e) :
    e = .decode := by
  simp only [scanNumber] at h
  split at h
  · cases h
    rfl
  · rename_i digits rest hint
    have hunsigned := length_unsigned_le s
    have hfew := (length_integerPart (by simpa using hint)).1
    split_ifs at h with hfloat hmany
    omega

theorem scanAtom_error {maxDigits : ℕ} {s : List Char} {e : Error}
    (hdigits : maxDigits = 0 ∨ s.length ≤ maxDigits) (h : scanAtom maxDigits s = .error e) :
    e = .decode := by
  simp only [scanAtom] at h
  split at h
  · cases h
  · exact scanNumber_error hdigits h

theorem OnlyDecode.scanItems {α : Type} {item : Scanner α} {n : ℕ} (hitem : OnlyDecode item n)
    (close : Char) : OnlyDecode (scanItems item close) n := by
  intro s hs e h
  fun_induction Json.scanItems item close s with
  | case1 s e' he =>
    cases h
    exact hitem s hs e he
  | case2 | case6 =>
    cases h
    rfl
  | case3 | case5 => cases h
  | case4 s a rest _ more e' he _ hmore _ ih =>
    cases h
    exact ih (((length_skip_le more).trans hmore.le).trans hs) he

theorem OnlyDecode.scanBody {α : Type} {item : Scanner α} {n : ℕ} (hitem : OnlyDecode item n)
    (close : Char) : OnlyDecode (scanBody item close) n := by
  intro s hs e h
  unfold Json.scanBody at h
  split at h
  · cases h
    rfl
  · rename_i c rest hskip
    have hrest : (c :: rest).length ≤ n := (hskip ▸ length_skip_le s).trans hs
    simp only at h
    split_ifs at h
    split at h
    · rename_i e' he
      cases h
      exact hitem.scanItems close _ hrest _ he
    · cases h

theorem OnlyDecode.scanMember {value : Scanner Json} {n : ℕ} (hvalue : OnlyDecode value n) :
    OnlyDecode (scanMember value) n := by
  intro s hs e h
  unfold Json.scanMember at h
  split at h
  · rename_i s
    split at h
    · cases h
      rfl
    · rename_i key rest hkey
      split at h
      · rename_i more hcolon
        have hmore : more.length < s.length :=
          (length_lt_of_skip hcolon).trans (length_codeUnits hkey)
        simp only at h
        split at h
        · rename_i e' he
          cases h
          refine hvalue _ ?_ _ he
          have hle := length_skip_le more
          rw [List.length_cons] at hs
          omega
        · cases h
      · cases h
        rfl
  · cases h
    rfl

/-- A level of nesting takes a character. -/
theorem OnlyDecode.scanValue {maxDigits n : ℕ} {value : Scanner Json} (hvalue : OnlyDecode value n)
    (hdigits : maxDigits = 0 ∨ n + 1 ≤ maxDigits) :
    OnlyDecode (scanValue maxDigits (some value)) (n + 1) := by
  intro s hs e h
  unfold Json.scanValue at h
  split at h
  · split at h <;> cases h
    rfl
  · have hbody := hvalue.scanBody ']' _ (Nat.le_of_succ_le_succ hs)
    simp only at h
    split at h
    · rename_i e' he
      cases h
      exact hbody _ he
    · cases h
  · have hbody := hvalue.scanMember.scanBody '}' _ (Nat.le_of_succ_le_succ hs)
    simp only at h
    split at h
    · rename_i e' he
      cases h
      exact hbody _ he
    · cases h
  · split at h
    · rename_i e' he
      cases h
      exact scanAtom_error (hdigits.imp_right hs.trans) he
    · cases h

theorem onlyDecode_scanOnce {maxDigits depth n : ℕ} (hdepth : n ≤ depth)
    (hdigits : maxDigits = 0 ∨ n ≤ maxDigits) : OnlyDecode (scanOnce maxDigits depth) n := by
  induction depth generalizing n with
  | zero =>
    intro s hs e h
    obtain rfl := List.eq_nil_of_length_eq_zero (Nat.le_zero.1 (hs.trans hdepth))
    cases h
    rfl
  | succ depth ih =>
    cases n with
    | zero =>
      intro s hs e h
      obtain rfl := List.eq_nil_of_length_eq_zero (Nat.le_zero.1 hs)
      cases h
      rfl
    | succ n =>
      have hnested := ih (Nat.le_of_succ_le_succ hdepth) (hdigits.imp_right n.le_succ.trans)
      exact hnested.scanValue hdigits

/-- **A text within the limits of the interpreter raises `JSONDecodeError` only.** -/
theorem loads_error {limits : Limits} {s : List Char} {e : Error}
    (hnesting : s.length ≤ limits.nesting)
    (hdigits : limits.digits = 0 ∨ s.length ≤ limits.digits)
    (h : loads limits s = .error e) : e = .decode := by
  simp only [loads] at h
  split_ifs at h
  · cases h
    rfl
  · split at h
    · rename_i e' he
      cases h
      exact onlyDecode_scanOnce hnesting hdigits _ (length_skip_le s) _ he
    · split_ifs at h
      cases h
      rfl

end Json

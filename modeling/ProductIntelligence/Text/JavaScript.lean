import ProductIntelligence.Text.Facets

/-!
# Strings of the front end

The methods of a JavaScript string that the front end normalises text with.  White space is not
quite that of Python: the byte order mark is, the separators of the control characters are not.
Lower case is the same.

## Main definitions

* `trim`, `toLowerCase` — the methods of a string.

## Main results

* `trim_trim` — nothing is left to trim.

## References

`frontend/src/lib/api/product-metadata.ts`, `frontend/src/features/search/search-history.ts`.
-/

namespace ProductIntelligence
namespace JavaScript

open Words

/-- White space and line terminators. -/
def whiteSpaceRanges : List (ℕ × ℕ) :=
  [(9, 13), (32, 32), (160, 160), (5760, 5760), (8192, 8202), (8232, 8233), (8239, 8239),
  (8287, 8287), (12288, 12288), (65279, 65279)]

def isWhiteSpace (c : Char) : Bool := inRanges whiteSpaceRanges c

/-- `String.prototype.trim`. -/
def trim (s : Text) : Text := stripBy isWhiteSpace s

/-- `String.prototype.toLowerCase`. -/
def toLowerCase (s : Text) : Text := lower s

example : trim "\t Nike\uFEFF ".toList = "Nike".toList := by decide +kernel

/-- Nothing is left to trim. -/
@[simp] theorem trim_trim (s : Text) : trim (trim s) = trim s :=
  stripBy_eq_self (fun _ => not_of_mem_head?_stripBy) fun _ => not_of_mem_getLast?_stripBy

end JavaScript
end ProductIntelligence

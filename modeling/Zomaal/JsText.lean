/-
**Texts, the way the services handle them.**

JavaScript counts more characters as white space than the ASCII ones, and two characters outside
ASCII become ASCII letters in lower case; both matter here.

Main definitions:

* `JsText.isSpace` — the white space of `String.prototype.trim` and of `\s`;
* `JsText.trim`, `JsText.collapseSpaces`, `JsText.alphanumericKey`;
* `JsText.truthy` — a text that an `if` takes.
-/

import Mathlib.Data.List.DropRight

set_option autoImplicit false

namespace JsText

/-- The characters `trim` removes and `\s` matches. -/
def isSpace (c : Char) : Bool :=
  let n := c.toNat
  (9 ≤ n && n ≤ 13) || n = 32 || n = 160 || n = 5760 || (8192 ≤ n && n ≤ 8202) ||
    n = 8232 || n = 8233 || n = 8239 || n = 8287 || n = 12288 || n = 65279

def trim (text : String) : String :=
  String.ofList ((text.toList.dropWhile isSpace).reverse.dropWhile isSpace).reverse

/-- `text.replace(/\s+/g, ' ')`. -/
def collapseSpaces (text : String) : String :=
  String.ofList (go false text.toList)
where
  /-- `inRun`: the character before was white space, and its run has been written. -/
  go (inRun : Bool) : List Char → List Char
    | [] => []
    | c :: cs =>
      if isSpace c then if inRun then go true cs else ' ' :: go true cs
      else c :: go false cs

/-- A character in `key.toLowerCase().replace(/[^a-z0-9]/g, '')`. Outside ASCII, the Kelvin sign and
the dotted capital I have an ASCII lower case. -/
def alphanumericChar (c : Char) : Option Char :=
  if c.isLower || c.isDigit then some c
  else if c.isUpper then some c.toLower
  else if c.toNat = 8490 then some 'k'
  else if c.toNat = 304 then some 'i'
  else none

/-- `key.toLowerCase().replace(/[^a-z0-9]/g, '')`. -/
def alphanumericKey (key : String) : String := String.ofList (key.toList.filterMap alphanumericChar)

/-- A character in upper case. The ones outside ASCII that become ASCII letters are listed; the
others stay outside. -/
def upperChars (c : Char) : List Char :=
  match c.toNat with
  | 223 => ['S', 'S']
  | 305 => ['I']
  | 383 => ['S']
  | 64256 => ['F', 'F']
  | 64257 => ['F', 'I']
  | 64258 => ['F', 'L']
  | 64259 => ['F', 'F', 'I']
  | 64260 => ['F', 'F', 'L']
  | 64261 | 64262 => ['S', 'T']
  | _ => [c.toUpper]

/-- `code.toUpperCase()`, for a code that is compared with ASCII texts. -/
def upperCode (code : String) : String := String.ofList (code.toList.flatMap upperChars)

def truthy : Option String → Option String
  | some text => if text = "" then none else some text
  | none => none

theorem truthy_some {value : Option String} {text : String} (h : truthy value = some text) :
    value = some text ∧ text ≠ "" := by
  cases value with
  | none => cases h
  | some other =>
    rw [truthy] at h
    split at h
    · cases h
    · obtain rfl := Option.some.inj h
      exact ⟨rfl, ‹_›⟩

theorem trim_trim (text : String) : trim (trim text) = trim text := by
  have htrim : ∀ text : String, (trim text).toList =
      (text.toList.dropWhile isSpace).rdropWhile isSpace := fun text => String.toList_ofList
  have hstart := List.rdropWhile_prefix isSpace (text.toList.dropWhile isSpace)
  have hhead : ((trim text).toList).dropWhile isSpace = (trim text).toList := by
    rw [htrim]
    refine List.dropWhile_eq_self_iff.2 fun hpos => ?_
    have hlong : 0 < (text.toList.dropWhile isSpace).length := hpos.trans_le hstart.length_le
    have hfirst := List.dropWhile_get_zero_not isSpace text.toList hlong
    rw [hstart.getElem hpos]
    exact hfirst
  refine String.toList_injective ?_
  rw [htrim (trim text), hhead, htrim, List.rdropWhile_idempotent]

end JsText

/-
**Reading values that may be anything.**

A service reads a field of an answer without knowing that it is an object, takes a list for empty
when it is not one, and takes a number for a text.  A field that is missing reads like one that is
null: nothing that reads it tells the two apart.
-/

import Zomaal.ProviderTracking

set_option autoImplicit false

namespace Json

/-- `typeof value === 'object' && value !== null`. -/
def isRecord : Json → Bool
  | .array _ | .object _ => true
  | _ => false

/-- `value[key]`, of a value that may be anything. -/
def field (key : String) : Json → Json
  | .object entries => (entries.lookup key).getD .null
  | _ => .null

/-- `Array.isArray(value) ? value : []`. -/
def items : Json → List Json
  | .array items => items
  | _ => []

/-- `value ?? fallback`. -/
def orElse (value fallback : Json) : Json :=
  match value with
  | .null => fallback
  | value => value

def zero : Json := .number "0"

def isTrue : Json → Bool
  | .boolean value => value
  | _ => false

def optionalString : Json → Option String
  | .string text => JsText.truthy (some (JsText.trim text))
  | .number text => some text
  | _ => none

def asOptionalRecord : Json → Json
  | .object entries => .object entries
  | _ => .object []

end Json

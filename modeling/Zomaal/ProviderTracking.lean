/-
**The tracking number in a courier's answer.**

The dispatcher looks for the tracking number in whatever a courier answers: under one of the
preferred keys, in this order, and then in the parts of the answer, down to a depth of five.
-/

import Mathlib.Data.Finset.Basic
import Zomaal.JsText

set_option autoImplicit false

/-- A parsed JSON value.  A number is the text `String` gives for it, and the entries of an object
stand in the order of `Object.entries`. -/
inductive Json
  | null
  | boolean (value : Bool)
  | number (text : String)
  | string (text : String)
  | array (items : List Json)
  | object (entries : List (String × Json))

namespace Zomaal

def preferredKeys : List String := ["trackingnumber", "trackingcode", "parcelcode", "code"]

/-- `String(candidate).trim()`, for a text or a number, when it is not empty. -/
def trackingText : Json → Option String
  | .number text | .string text => JsText.truthy (some (JsText.trim text))
  | _ => none

/-- The first entry under a key that reads as the preferred one and has a text or a number. -/
def preferredEntry (entries : List (String × Json)) (preferred : String) : Option String :=
  entries.findSome? fun entry =>
    if JsText.alphanumericKey entry.1 = preferred then trackingText entry.2 else none

/-- The search, with `levels` levels of the answer still to be looked into. -/
def extractTracking : ℕ → Json → Option String
  | 0, _ => none
  | levels + 1, .array items => items.findSome? (extractTracking levels)
  | levels + 1, .object entries =>
    (preferredKeys.findSome? (preferredEntry entries)).or
      (entries.findSome? fun entry => extractTracking levels entry.2)
  | _ + 1, _ => none

/-- `extractProviderTracking(value)`: depths zero to five. -/
def extractProviderTracking (value : Json) : Option String := extractTracking 6 value

end Zomaal

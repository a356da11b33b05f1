import LiveMarkup.Json.Printer
import LiveMarkup.Text.Space

/-!
# Values as text, truth values and numbers

Form controls and records spell the same thing in different ways, so comparisons look at a value's
text, or at the truth value or number that it spells.
-/

set_option autoImplicit false

namespace LiveMarkup.Json

mutual

/-- The text of a value: a string itself, nothing for null, items with commas between them, and an
object's JSON text. -/
def text : Json → String
  | .null => ""
  | .bool b => if b then "true" else "false"
  | .number n => n.text
  | .string s => s
  | .array items => ", ".intercalate (texts items)
  | .object fields => compact (.object fields)

/-- The text of each item. -/
def texts : List Json → List String
  | [] => []
  | item :: rest => text item :: texts rest

end

/-- The truth value that a value spells: a number is true unless zero. -/
def flag? : Json → Option Bool
  | .bool b => some b
  | .string s =>
    let word := Text.trim s
    if ["true", "1", "yes", "on"].contains word then some true
    else if ["false", "0", "no", "off"].contains word then some false
    else none
  | .number n => some (!n.toFinite.isZero)
  | _ => none

/-- The number that a value spells. -/
def number? : Json → Option Binary64
  | .number n => some (.finite n.toFinite)
  | .string s => Binary64.ofText? (Text.trim s)
  | _ => none

/-- The text of a string, number or truth value. -/
def scalarText? : Json → Option String
  | .string s => some s
  | .number n => some n.text
  | .bool b => some (if b then "true" else "false")
  | _ => none

end LiveMarkup.Json

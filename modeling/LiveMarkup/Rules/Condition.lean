import LiveMarkup.Component.Rule
import LiveMarkup.Json.Scalar
import LiveMarkup.Text.Search

/-!
# Evaluating conditions

Form controls report strings, so values are compared loosely: by equality or by their texts, and a
list of one item like the item itself.
-/

set_option autoImplicit false

namespace LiveMarkup.Comparison

/-- A list of one item stands for the item, at any depth; other values stand for themselves. -/
def single? : Json → Option Json
  | .array [.array items] => single? (.array items)
  | .array [item] => some item
  | .array _ => none
  | other => some other

/-- Whether two values are equal or have the same text. -/
def alike (a b : Json) : Bool := a.same b || a.text == b.text

/-- Loose equality. -/
def looselyEqual (actual expected : Json) : Bool :=
  match actual, expected with
  | .array xs, .array ys => alike (.array xs) (.array ys)
  | .array xs, other => (single? (.array xs)).any fun item => alike item other
  | other, .array ys => (single? (.array ys)).any fun item => alike item other
  | a, b => alike a b

/-- Whether a list has an item loosely equal to the expected value, or a text contains its text. -/
def includes (actual expected : Json) : Bool :=
  match actual with
  | .array items => items.any fun item => looselyEqual item expected
  | other => Text.contains other.text expected.text

/-- The order of the numbers that two values spell. -/
def order? (actual expected : Json) : Option Ordering :=
  actual.number?.bind fun a => expected.number?.bind fun b => Binary64.compare? a b

/-- Null, blank text and empty lists and objects are empty. -/
def blank : Json → Bool
  | .null => true
  | .string s => Text.isBlank s
  | .array items => items.isEmpty
  | .object fields => fields.isEmpty
  | _ => false

/-- Whether the comparison holds between an actual and an expected value. -/
def holds (comparison : Comparison) (actual expected : Json) : Bool :=
  match comparison with
  | .equals => looselyEqual actual expected
  | .notEquals => !looselyEqual actual expected
  | .contains => includes actual expected
  | .notContains => !includes actual expected
  | .greaterThan => order? actual expected == some .gt
  | .lessThan => order? actual expected == some .lt
  | .isEmpty => blank actual
  | .isNotEmpty => !blank actual
  | .checked => actual.flag? == some true
  | .unchecked => !(actual.flag? == some true)
  | .oneOf =>
    match expected with
    | .array options => options.any fun option => looselyEqual actual option
    | other => looselyEqual actual other
  | .unknown => false

end LiveMarkup.Comparison

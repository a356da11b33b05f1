import LiveMarkup.Component.Field
import LiveMarkup.Json.Scalar
import LiveMarkup.Text.Search

/-!
# Filter values

What a filter control holds, read according to the kind of its field, and which values pass it: text
by substring in lower case, choices by equality or membership, truth values by equality, and numbers
by inclusive bounds of which either may be missing. A filter that holds nothing passes everything.
-/

set_option autoImplicit false

namespace LiveMarkup

/-- What a filter control holds. -/
inductive FilterValue where
  | text (needle : String)
  | select (wanted : String)
  | multi (wanted : List String)
  | flag (wanted : Option Bool)
  | range (min max : Option Binary64)
  /-- The control of a field of unknown kind. -/
  | ignored
deriving DecidableEq

namespace FilterValue

/-- What an untouched control holds. -/
def empty : FieldKind → FilterValue
  | .text => .text ""
  | .select => .select ""
  | .multiselect => .multi []
  | .boolean => .flag none
  | .range => .range none none
  | .unknown => .ignored

/-- The wanted choices of a multiselect control, blank ones dropped. -/
def choicesOf (raw : Json) : List String :=
  let texts := match raw with
    | .array items => items.map Json.text
    | .null => []
    | other => [other.text]
  texts.filter fun text => !text.isEmpty

/-- The bounds of a range control: named, or as the first two items of a list. -/
def boundsOf : Json → Option Binary64 × Option Binary64
  | .object fields =>
    ((Fields.get? fields "min").bind Json.number?, (Fields.get? fields "max").bind Json.number?)
  | .array items => (items[0]?.bind Json.number?, items[1]?.bind Json.number?)
  | _ => (none, none)

/-- What a control of a field of this kind holds after the input `raw`. -/
def ofInput (kind : FieldKind) (raw : Json) : FilterValue :=
  match kind with
  | .text => .text raw.text
  | .select => .select raw.text
  | .multiselect => .multi (choicesOf raw)
  | .boolean => .flag raw.flag?
  | .range => .range (boundsOf raw).1 (boundsOf raw).2
  | .unknown => .ignored

/-- Whether the filter constrains anything. -/
def isActive : FilterValue → Bool
  | .text needle => !Text.isBlank needle
  | .select wanted => !Text.isBlank wanted
  | .multi wanted => !wanted.isEmpty
  | .flag wanted => wanted.isSome
  | .range min max => min.isSome || max.isSome
  | .ignored => false

/-- The texts of a value: those of the items of a list, else its own. -/
def candidates : Json → List String
  | .array items => items.map Json.text
  | other => [other.text]

/-- Whether a value passes an active filter. -/
def passes (candidate : Json) : FilterValue → Bool
  | .text needle => Text.contains (Text.lower candidate.text) (Text.lower (Text.trim needle))
  | .select wanted => (candidates candidate).contains wanted
  | .multi wanted => (candidates candidate).any wanted.contains
  | .flag wanted => candidate.flag? == wanted
  | .range min max =>
    match candidate.number? with
    | none => false
    | some n => min.all (fun low => n.atLeast low) && max.all (fun high => high.atLeast n)
  | .ignored => true

/-- Whether a value passes the filter; a missing value counts as null. -/
def admits (filter : FilterValue) (candidate : Option Json) : Bool :=
  !filter.isActive || filter.passes (candidate.getD .null)

end FilterValue

end LiveMarkup

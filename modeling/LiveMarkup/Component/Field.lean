import LiveMarkup.Number.Binary64
import LiveMarkup.Text.Case
import LiveMarkup.Text.Space

/-!
# Fields of a dataset

A field names a column of the records and says by which kind of control it is filtered.
-/

set_option autoImplicit false

namespace LiveMarkup

/-- The kind of control that filters a field. -/
inductive FieldKind where
  | text
  | select
  | multiselect
  | boolean
  | range
  | unknown
deriving DecidableEq, Inhabited

namespace FieldKind

/-- Every kind that has a name of its own. -/
def all : List FieldKind := [.text, .select, .multiselect, .boolean, .range]

/-- The name of a kind. -/
def name : FieldKind → String
  | .text => "text"
  | .select => "select"
  | .multiselect => "multiselect"
  | .boolean => "boolean"
  | .range => "range"
  | .unknown => "unknown"

/-- Whether free-text search looks at fields of the kind unless told otherwise. -/
def searchable : FieldKind → Bool
  | .text => true
  | .select => true
  | _ => false

end FieldKind

/-- One of the values a select field offers. -/
structure Choice where
  value : String
  label : String
deriving DecidableEq

/-- A choice labelled by its value. -/
def Choice.ofValue (value : String) : Choice := ⟨value, value⟩

/-- The bounds and the step of a range field. Those that are not finite are left out: neither a specification
nor a record gives one. -/
structure FieldRange where
  min : Finite64
  max : Finite64
  step : Finite64
deriving DecidableEq

/-- A filterable column. -/
structure Field where
  name : String
  kind : FieldKind
  label : String
  choices : List Choice
  range : Option FieldRange
  searchable : Bool
deriving DecidableEq

namespace Field

/-- A field without label, choices and range. -/
def ofKind (kind : FieldKind) (name : String) : Field :=
  ⟨name, kind, "", [], none, kind.searchable⟩

/-- A field that offers the given values. -/
def ofChoices (kind : FieldKind) (name : String) (values : List String) : Field :=
  { ofKind kind name with choices := values.map Choice.ofValue }

/-- A range field. -/
def ofRange (name : String) (range : FieldRange) : Field :=
  { ofKind .range name with range := some range }

/-- The label of the field's control: the words of the name when the label is blank. -/
def displayLabel (field : Field) : String :=
  if Text.isBlank field.label then Text.titleWords field.name else field.label

end Field

end LiveMarkup

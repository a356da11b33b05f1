import LiveMarkup.Component.Field
import LiveMarkup.Json.Scalar
import LiveMarkup.StringMap

/-!
# Datasets

The records of a component with their fields and display options. A dataset without declared fields
gets them from its records: keys and their order come from the first record, and the value there
decides the kind of field.
-/

set_option autoImplicit false

namespace LiveMarkup

/-- How the records are shown. -/
structure DatasetOptions where
  search : Bool
  pagination : Bool
  itemsPerPage : Nat
  serverRendered : Bool
  rowSelector : String
  counterSelector : Option String
  /-- Row markup with placeholders in double braces. -/
  itemTemplate : Option String
deriving DecidableEq

/-- Records with the fields they are filtered by. -/
structure Dataset where
  items : List Fields
  schema : List Field
  options : DatasetOptions

/-- The options of a dataset that gives none. -/
def DatasetOptions.standard : DatasetOptions where
  search := false
  pagination := false
  itemsPerPage := 20
  serverRendered := false
  rowSelector := "[data-row]"
  counterSelector := none
  itemTemplate := none

namespace Dataset

/-- A column: the values that the records hold for a key. -/
def column (items : List Fields) (key : String) : List Json :=
  items.filterMap fun record => Fields.get? record key

/-- The least and the greatest number of a list, the earlier one of two equal ones. -/
def extremes : List Finite64 → Option (Finite64 × Finite64)
  | [] => none
  | first :: rest =>
    some (rest.foldl
      (fun (low, high) x => (if x.less low then x else low, if high.less x then x else high))
      (first, first))

/-- The numbers of a column. -/
def columnNumbers (items : List Fields) (key : String) : List Finite64 :=
  (column items key).filterMap fun
    | .number n => some n.toFinite
    | _ => none

/-- A range field from the least to the greatest number of the column, widened to whole numbers,
in steps of one, or of a hundredth when a number has a fraction. -/
def inferRange (items : List Fields) (key : String) : Field :=
  let numbers := columnNumbers items key
  let (low, high) := (extremes numbers).getD (.zero, .zero)
  let step := if numbers.all Finite64.isIntegral then Finite64.nearest false 1 1
    else Finite64.nearest false 1 100
  Field.ofRange key ⟨low.floor, high.ceil, step⟩

/-- The distinct texts of a list in ascending order. -/
def distinct (texts : List String) : List String :=
  (StringMap.ofList (texts.map fun text => (text, ()))).keys

/-- A multiselect field that offers every scalar member of the column's arrays. -/
def inferMultiselect (items : List Fields) (key : String) : Field :=
  let members := (column items key).flatMap fun
    | .array members => members.filterMap Json.scalarText?
    | _ => []
  Field.ofChoices .multiselect key (distinct members)

/-- The most choices an inferred select field offers. -/
def maxInferredChoices : Nat := 12

/-- A select field when the column repeats a small set of scalar values, else a text field. -/
def inferText (items : List Fields) (key : String) : Field :=
  let values := (column items key).filterMap Json.scalarText?
  let offered := distinct values
  if 2 ≤ values.length ∧ offered.length < values.length ∧ offered.length ≤ maxInferredChoices then
    Field.ofChoices .select key offered
  else Field.ofKind .text key

/-- The field of a key whose first value is `sample`; null and objects are not filterable. -/
def inferField (items : List Fields) (key : String) (sample : Json) : Option Field :=
  match sample with
  | .bool _ => some (Field.ofKind .boolean key)
  | .number _ => some (inferRange items key)
  | .array _ => some (inferMultiselect items key)
  | .string _ => some (inferText items key)
  | .null => none
  | .object _ => none

/-- The fields that the records suggest. -/
def inferSchema (items : List Fields) : List Field :=
  match items with
  | [] => []
  | first :: _ => first.filterMap fun (key, sample) => inferField items key sample

/-- The declared fields, or the inferred ones when none is declared. -/
def effectiveSchema (data : Dataset) : List Field :=
  if data.schema.isEmpty then inferSchema data.items else data.schema

/-- Whether the dataset has neither records nor fields. -/
def isEmpty (data : Dataset) : Bool := data.items.isEmpty && data.schema.isEmpty

end Dataset

end LiveMarkup

import LiveMarkup.Filter.Value

/-!
# Filter sets

The filters of all fields of a schema together with a global search. A record passes when it passes
every active filter and, if something is searched for, one of the searchable fields contains it.
-/

set_option autoImplicit false

namespace LiveMarkup

/-- The filter of one field. -/
structure FilterEntry where
  field : String
  kind : FieldKind
  value : FilterValue
  active : Bool
deriving DecidableEq

/-- The filters of a schema and the global search, in lower case. -/
structure FilterSet where
  entries : List FilterEntry
  searchable : List String
  search : String
deriving DecidableEq

namespace FilterSet

/-- The field name under which the search box reports. -/
def searchField : String := "__search"

/-- The untouched filters of a schema. -/
def ofSchema (schema : List Field) : FilterSet where
  entries := schema.map fun field => ⟨field.name, field.kind, .empty field.kind, false⟩
  searchable := (schema.filter Field.searchable).map Field.name
  search := ""

/-- The filter of a field, the first one when the name repeats. -/
def entry? (set : FilterSet) (field : String) : Option FilterEntry :=
  set.entries.find? fun entry => entry.field == field

/-- How many filters constrain something, the search included. -/
def activeCount (set : FilterSet) : Nat :=
  (set.entries.filter FilterEntry.active).length + if set.search.isEmpty then 0 else 1

/-- The filter of a field after an input. -/
def refresh (raw : Json) (entry : FilterEntry) : FilterEntry :=
  let value := FilterValue.ofInput entry.kind raw
  { entry with value := value, active := value.isActive }

/-- Refreshes the first filter of a field. -/
def refreshFirst (field : String) (raw : Json) : List FilterEntry → List FilterEntry
  | [] => []
  | entry :: rest =>
    if entry.field = field then refresh raw entry :: rest
    else entry :: refreshFirst field raw rest

/-- Whether inputs of a field have an effect. -/
def knows (set : FilterSet) (field : String) : Bool :=
  field == searchField || set.entries.any fun entry => entry.field == field

/-- The filters after an input of a field; a field outside the schema changes nothing. -/
def update (set : FilterSet) (field : String) (raw : Json) : FilterSet :=
  if field = searchField then { set with search := Text.lower (Text.trim raw.text) }
  else { set with entries := refreshFirst field raw set.entries }

/-- The untouched filters. -/
def clear (set : FilterSet) : FilterSet where
  entries := set.entries.map fun entry => { entry with value := .empty entry.kind, active := false }
  searchable := set.searchable
  search := ""

/-- Whether something with these field values passes. -/
def admitsWith (set : FilterSet) (lookup : String → Option Json) : Bool :=
  ((set.entries.filter FilterEntry.active).all fun entry => entry.value.admits (lookup entry.field))
    && (set.search.isEmpty || set.searchable.any fun field =>
      (lookup field).any fun value => Text.contains (Text.lower value.text) set.search)

/-- Whether a record passes. -/
def admits (set : FilterSet) (record : Fields) : Bool := set.admitsWith (Fields.get? record)

end FilterSet

end LiveMarkup

import LiveMarkup.Json.Raw
import LiveMarkup.StringMap

/-!
# Reading typed data from JSON

A decoder takes the tree of a JSON text and the number of arrays and objects that may still open
inside it, and gives a value or nothing. A record is written as an object, whose unknown keys are
skipped and whose known keys appear once, or as an array of its fields in order. A choice is written
as its name, or as an object with that name as its only key.
-/

set_option autoImplicit false

namespace LiveMarkup

/-- Reads a value from a tree in which at most the given number of arrays and objects may nest. -/
abbrev Decoder (α : Type) := Nat → RawJson → Option α

namespace Decoder

/-- Any value. -/
def json : Decoder Json := RawJson.value?

/-- A text. -/
def string : Decoder String
  | _, .string s => s
  | _, _ => none

/-- A truth value. -/
def bool : Decoder Bool
  | _, .bool b => some b
  | _, _ => none

/-- A number, an integer being rounded to the nearest one of the format. -/
def float : Decoder Finite64
  | _, .number (some n) => some n.toFinite
  | _, _ => none

/-- A nonnegative integer of 64 bits. -/
def natural : Decoder Nat
  | _, .number (some (.integer n _)) => if 0 ≤ n then some n.toNat else none
  | _, _ => none

/-- An integer of 32 bits. -/
def int32 : Decoder Int
  | _, .number (some (.integer n _)) =>
    if -2147483648 ≤ n ∧ n < 2147483648 then some n else none
  | _, _ => none

/-- A value or null. -/
def nullable {α : Type} (decode : Decoder α) : Decoder (Option α)
  | _, .null => some none
  | depth, raw => (decode depth raw).map some

/-- A list. -/
def list {α : Type} (decode : Decoder α) : Decoder (List α)
  | depth + 1, .array items => items.mapM (decode depth)
  | _, _ => none

/-- The fields of an object, repeated keys included. -/
def entries {α : Type} (decode : Decoder α) : Decoder (List (String × α))
  | depth + 1, .object fields =>
    fields.mapM fun (key, raw) =>
      key.bind fun key => (decode depth raw).map fun value => (key, value)
  | _, _ => none

/-- A map from keys to values; the last value of a repeated key counts. -/
def stringMap {α : Type} (decode : Decoder α) : Decoder (StringMap α) := fun depth raw =>
  (entries decode depth raw).map StringMap.ofList

/-- An object of any values. -/
def fields : Decoder Fields := fun depth raw => (entries json depth raw).map Fields.ofList

/-- A choice between names; `other` stands for any name that is not listed. -/
def choice {α : Type} (names : List (String × α)) (other : Option α) : Decoder α :=
  let named (name : String) : Option α := (names.lookup name).or other
  fun depth raw => match depth, raw with
    | _, .string (some name) => named name
    | _ + 1, .object [(some name, .null)] => named name
    | _, _ => none

end Decoder

/-- The fields of a record that a tree gives, with what is needed to read them. -/
structure Members where
  /-- How many arrays and objects may open inside a field. -/
  depth : Nat
  /-- Whether the record is written as an array. -/
  positional : Bool
  present : List (String × RawJson)

namespace Members

/-- Collects the known fields of an object; nothing when a key is no text or a known key repeats. -/
def collect? (canonical : String → Option String) :
    List (Option String × RawJson) → Option (List (String × RawJson))
  | [] => some []
  | (key, raw) :: rest =>
    key.bind fun key => (collect? canonical rest).bind fun present =>
      match canonical key with
      | none => some present
      | some name =>
        if present.any fun field => field.1 == name then none else some ((name, raw) :: present)

/-- The fields of a record written as an object. -/
def ofFields? (names : List String) (aliases : List (String × String)) (depth : Nat)
    (fields : List (Option String × RawJson)) : Option Members :=
  let canonical (key : String) : Option String :=
    let name := (aliases.lookup key).getD key
    if names.contains name then some name else none
  (collect? canonical fields).map fun present => ⟨depth, false, present⟩

/-- The fields of a record with these field names; an alias is another spelling of a name. -/
def ofRaw? (names : List String) (aliases : List (String × String)) :
    Nat → RawJson → Option Members
  | depth + 1, .object fields => ofFields? names aliases depth fields
  | depth + 1, .array items =>
    if items.length ≤ names.length then some ⟨depth, true, names.zip items⟩ else none
  | _, _ => none

/-- A field that must be given. -/
def required {α : Type} (members : Members) (name : String) (decode : Decoder α) : Option α :=
  (members.present.lookup name).bind (decode members.depth)

/-- A field that may be left out. -/
def withDefault {α : Type} (members : Members) (name : String) (decode : Decoder α) (default : α) :
    Option α :=
  match members.present.lookup name with
  | some raw => decode members.depth raw
  | none => some default

/-- A field that may be null or left out. -/
def optional {α : Type} (members : Members) (name : String) (decode : Decoder α) :
    Option (Option α) :=
  members.withDefault name decode.nullable none

/-- A field that may be null, and may be left out only where fields are named. -/
def nullable {α : Type} (members : Members) (name : String) (decode : Decoder α) :
    Option (Option α) :=
  match members.present.lookup name with
  | some raw => decode.nullable members.depth raw
  | none => if members.positional then none else some none

end Members

end LiveMarkup

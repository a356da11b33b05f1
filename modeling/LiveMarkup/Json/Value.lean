import LiveMarkup.Number.Reading

/-!
# JSON values

A JSON value whose objects keep the order of their fields. `Fields.put` is how an object is built: a
key given again keeps its place and takes the new value, so built objects have distinct keys.
-/

set_option autoImplicit false

namespace LiveMarkup

/-- A JSON value. -/
inductive Json where
  | null
  | bool (b : Bool)
  | number (n : JsonNumber)
  | string (s : String)
  | array (items : List Json)
  | object (fields : List (String × Json))

instance : Inhabited Json := ⟨.null⟩

/-- The fields of an object in their order. -/
abbrev Fields := List (String × Json)

namespace Fields

/-- The value of a key. -/
def get? (fields : Fields) (key : String) : Option Json :=
  (fields.find? fun field => field.1 == key).map Prod.snd

/-- Sets a key: a known key keeps its place, a new one comes last. -/
def put : Fields → String → Json → Fields
  | [], key, value => [(key, value)]
  | field :: rest, key, value =>
    if field.1 = key then (key, value) :: rest else field :: put rest key value

/-- The object that a list of keys and values builds from left to right. -/
def ofList (entries : List (String × Json)) : Fields :=
  entries.foldl (fun fields entry => put fields entry.1 entry.2) []

@[simp] theorem get?_put (fields : Fields) (key other : String) (value : Json) :
    get? (put fields key value) other = if other = key then some value else get? fields other := by
  induction fields with
  | nil => by_cases same : other = key <;> simp [put, get?, same, Ne.symm]
  | cons field rest ih =>
    unfold put
    split
    · rename_i equal
      by_cases same : other = key <;> simp [get?, equal, same, Ne.symm]
    · rename_i differs
      by_cases here : field.1 = other
      · have others : other ≠ key := fun h => differs (here.trans h)
        simp [get?, here, others]
      · simpa [get?, here] using ih

end Fields

namespace Json

/-- The integer `n`. -/
def ofNat (n : Nat) : Json := .number (.ofInt n)

/-- A text, or null without one. -/
def ofOption : Option String → Json
  | some s => .string s
  | none => .null

mutual

/-- Equality of values: numbers by value within one representation, objects whatever the order of
their fields. -/
def same : Json → Json → Bool
  | .null, .null => true
  | .bool a, .bool b => a == b
  | .number a, .number b => a.equals b
  | .string a, .string b => a == b
  | .array xs, .array ys => sameItems xs ys
  | .object fs, .object gs => fs.length == gs.length && sameFields fs gs
  | _, _ => false

/-- Equality of lists of values, item by item. -/
def sameItems : List Json → List Json → Bool
  | [], [] => true
  | x :: xs, y :: ys => same x y && sameItems xs ys
  | _, _ => false

/-- Whether every field has an equal one among `gs`. -/
def sameFields : List (String × Json) → List (String × Json) → Bool
  | [], _ => true
  | (key, value) :: rest, gs =>
    (match Fields.get? gs key with
      | some other => same value other
      | none => false) && sameFields rest gs

end

end Json

end LiveMarkup

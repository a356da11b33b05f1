import LiveMarkup.Json.Value
import LiveMarkup.Text.Case

/-!
# Reading JSON text

`RawJson` is the tree of a JSON text before anything is made of it: repeated keys are kept, and a
string with half a surrogate pair or a number out of range has no value, which matters only to who
asks for it. The reader takes one character at a time, with the open arrays and objects on a stack,
and is run by a fold over the text.
-/

set_option autoImplicit false

namespace LiveMarkup

/-- The tree of a JSON text. -/
inductive RawJson where
  | null
  | bool (b : Bool)
  | number (n : Option JsonNumber)
  | string (s : Option String)
  | array (items : List RawJson)
  | object (fields : List (Option String × RawJson))

/-- The parts of a number token, if the characters are one: an optional minus, digits without a
leading zero, an optional fraction and an optional exponent. -/
def NumberText.ofChars? (cs : List Char) : Option NumberText :=
  let (negative, cs) := match cs with
    | '-' :: rest => (true, rest)
    | rest => (false, rest)
  let whole := cs.takeWhile Char.isDigit
  let rest := cs.dropWhile Char.isDigit
  let wholeOk := !whole.isEmpty && (whole.head? != some '0' || whole.length == 1)
  let (fraction, rest) := match rest with
    | '.' :: more => (some (more.takeWhile Char.isDigit), more.dropWhile Char.isDigit)
    | more => (none, more)
  let exponent : Option (Option (Bool × List Char)) := match rest with
    | [] => some none
    | mark :: more =>
      if mark == 'e' || mark == 'E' then
        let (low, ds) := match more with
          | '-' :: ds => (true, ds)
          | '+' :: ds => (false, ds)
          | ds => (false, ds)
        if !ds.isEmpty && ds.all Char.isDigit then some (some (low, ds)) else none
      else none
  if wholeOk && fraction.all (fun ds => !ds.isEmpty) then
    exponent.map fun e => ⟨negative, whole, fraction, e⟩
  else none

namespace RawJson

/-- What a string token holds: characters, and the 16-bit units written as `\u` escapes. -/
inductive TextUnit where
  | char (c : Char)
  | unit (code : Nat)

/-- Whether a 16-bit unit is the first half of a surrogate pair. -/
def isHighHalf (code : Nat) : Bool := 0xD800 ≤ code && code < 0xDC00

/-- Whether a 16-bit unit is the second half of a surrogate pair. -/
def isLowHalf (code : Nat) : Bool := 0xDC00 ≤ code && code < 0xE000

/-- The text of a string token; none when half a surrogate pair stands alone. -/
def decodeUnits : List TextUnit → Option (List Char)
  | [] => some []
  | .char c :: rest => (decodeUnits rest).map (c :: ·)
  | .unit code :: rest =>
    if isLowHalf code then none
    else if isHighHalf code then
      match rest with
      | .unit low :: more =>
        if isLowHalf low then
          let joined := 0x10000 + (code - 0xD800) * 0x400 + (low - 0xDC00)
          (decodeUnits more).map (Text.charOfCode joined :: ·)
        else none
      | _ => none
    else (decodeUnits rest).map (Text.charOfCode code :: ·)

/-- An array or object that is still open. -/
inductive Frame where
  /-- An array with its items so far, last one first. -/
  | items (reversed : List RawJson)
  /-- An object with its fields so far, last one first. -/
  | fields (reversed : List (Option String × RawJson))
  /-- An object whose next value belongs to `key`. -/
  | field (reversed : List (Option String × RawJson)) (key : Option String)

/-- Where a string token stands: in plain text, after a backslash, or within a `\u` escape of which
`left` digits are to come. -/
inductive Escape where
  | plain
  | slash
  | hex (left : Nat) (code : Nat)

/-- What the reader is in the middle of. -/
inductive Mode where
  /-- Before a value; `close` allows the end of an array instead. -/
  | value (close : Bool)
  /-- Before a key; `close` allows the end of an object instead. -/
  | key (close : Bool)
  /-- Before the colon of a field. -/
  | colon
  /-- Behind an item or field. -/
  | separator
  /-- Behind the whole text's value. -/
  | complete (value : RawJson)
  /-- In a number or word, last character first. -/
  | bare (reversed : List Char)
  /-- In a string, last unit first. -/
  | text (isKey : Bool) (reversed : List TextUnit) (escape : Escape)

/-- A reader between two characters: its mode and the open arrays and objects, innermost first. -/
structure Reader where
  mode : Mode
  stack : List Frame

/-- The white space of JSON. -/
def isBlank (c : Char) : Bool := c == ' ' || c == '\n' || c == '\t' || c == '\r'

/-- The characters of numbers and words. -/
def isBare (c : Char) : Bool := c.isAlphanum || c == '-' || c == '+' || c == '.'

/-- The value of a number or word. -/
def ofBare? (cs : List Char) : Option RawJson :=
  if cs = "null".toList then some .null
  else if cs = "true".toList then some (.bool true)
  else if cs = "false".toList then some (.bool false)
  else (NumberText.ofChars? cs).map fun t => .number t.value?

/-- A hexadecimal digit's value. -/
def hexValue? (c : Char) : Option Nat :=
  if c.isDigit then some (c.toNat - '0'.toNat)
  else if 'a' ≤ c ∧ c ≤ 'f' then some (c.toNat - 'a'.toNat + 10)
  else if 'A' ≤ c ∧ c ≤ 'F' then some (c.toNat - 'A'.toNat + 10)
  else none

/-- The character that a one-letter escape writes. -/
def simpleEscape? (c : Char) : Option Char :=
  if c = '"' ∨ c = '\\' ∨ c = '/' then some c
  else if c = 'b' then some '\x08'
  else if c = 'f' then some '\x0c'
  else if c = 'n' then some '\n'
  else if c = 'r' then some '\r'
  else if c = 't' then some '\t'
  else none

/-- Hands a finished value to the innermost open array or object. -/
def deliver (value : RawJson) : List Frame → Option Reader
  | [] => some ⟨.complete value, []⟩
  | .items reversed :: stack => some ⟨.separator, .items (value :: reversed) :: stack⟩
  | .field reversed key :: stack => some ⟨.separator, .fields ((key, value) :: reversed) :: stack⟩
  | .fields _ :: _ => none

/-- Hands a finished string to the innermost open array or object, as its key if it is one. -/
def deliverText (isKey : Bool) (reversed : List TextUnit) (stack : List Frame) : Option Reader :=
  let text := (decodeUnits reversed.reverse).map String.ofList
  if isKey then
    match stack with
    | .fields fs :: stack => some ⟨.colon, .field fs text :: stack⟩
    | _ => none
  else deliver (.string text) stack

/-- Closes the innermost array or object. -/
def close (bracket : Char) : List Frame → Option Reader
  | .items reversed :: stack =>
    if bracket = ']' then deliver (.array reversed.reverse) stack else none
  | .fields reversed :: stack =>
    if bracket = '\x7d' then deliver (.object reversed.reverse) stack else none
  | _ => none

/-- Reads a character where a value may start. -/
def stepValue (mayClose : Bool) (stack : List Frame) (c : Char) : Option Reader :=
  if isBlank c then some ⟨.value mayClose, stack⟩
  else if c = '"' then some ⟨.text false [] .plain, stack⟩
  else if c = '[' then some ⟨.value true, .items [] :: stack⟩
  else if c = '\x7b' then some ⟨.key true, .fields [] :: stack⟩
  else if c = ']' ∧ mayClose then close c stack
  else if isBare c then some ⟨.bare [c], stack⟩
  else none

/-- Reads a character of a string. -/
def stepText (isKey : Bool) (reversed : List TextUnit) (escape : Escape) (stack : List Frame)
    (c : Char) : Option Reader :=
  match escape with
  | .plain =>
    if c = '"' then deliverText isKey reversed stack
    else if c = '\\' then some ⟨.text isKey reversed .slash, stack⟩
    else if c.toNat < 0x20 then none
    else some ⟨.text isKey (.char c :: reversed) .plain, stack⟩
  | .slash =>
    if c = 'u' then some ⟨.text isKey reversed (.hex 3 0), stack⟩
    else (simpleEscape? c).map fun d => ⟨.text isKey (.char d :: reversed) .plain, stack⟩
  | .hex left code =>
    (hexValue? c).map fun digit =>
      let code := 16 * code + digit
      match left with
      | 0 => ⟨.text isKey (.unit code :: reversed) .plain, stack⟩
      | left + 1 => ⟨.text isKey reversed (.hex left code), stack⟩

/-- Reads a character outside numbers and words. -/
def stepMode : Mode → List Frame → Char → Option Reader
  | .value mayClose, stack, c => stepValue mayClose stack c
  | .key mayClose, stack, c =>
    if isBlank c then some ⟨.key mayClose, stack⟩
    else if c = '"' then some ⟨.text true [] .plain, stack⟩
    else if c = '\x7d' ∧ mayClose then close c stack
    else none
  | .colon, stack, c =>
    if isBlank c then some ⟨.colon, stack⟩
    else if c = ':' then some ⟨.value false, stack⟩
    else none
  | .separator, stack, c =>
    if isBlank c then some ⟨.separator, stack⟩
    else if c = ',' then
      match stack with
      | .items _ :: _ => some ⟨.value false, stack⟩
      | .fields _ :: _ => some ⟨.key false, stack⟩
      | _ => none
    else close c stack
  | .complete value, stack, c => if isBlank c then some ⟨.complete value, stack⟩ else none
  | .text isKey reversed escape, stack, c => stepText isKey reversed escape stack c
  | .bare _, _, _ => none

/-- Ends the number or word that the reader is in. -/
def settle (reader : Reader) : Option Reader :=
  match reader.mode with
  | .bare reversed => (ofBare? reversed.reverse).bind fun value => deliver value reader.stack
  | _ => some reader

/-- Reads one character. -/
def step (reader : Reader) (c : Char) : Option Reader :=
  match reader.mode with
  | .bare reversed =>
    if isBare c then some ⟨.bare (c :: reversed), reader.stack⟩
    else (settle reader).bind fun settled => stepMode settled.mode settled.stack c
  | mode => stepMode mode reader.stack c

/-- The tree of a text; none when the text is not JSON. -/
def ofText? (s : String) : Option RawJson :=
  ((s.toList.foldlM step ⟨.value false, []⟩).bind settle).bind fun reader =>
    match reader.mode with
    | .complete value => some value
    | _ => none

/-- How many arrays and objects may stand inside one another. -/
def nestingLimit : Nat := 127

mutual

/-- The value of a tree that nests at most `depth` arrays and objects. -/
def value? (depth : Nat) : RawJson → Option Json
  | .null => some .null
  | .bool b => some (.bool b)
  | .number n => n.map .number
  | .string s => s.map .string
  | .array items =>
    match depth with
    | 0 => none
    | depth + 1 => (values? depth items).map .array
  | .object fields =>
    match depth with
    | 0 => none
    | depth + 1 => (entries? depth fields).map fun entries => .object (Fields.ofList entries)

/-- The values of a list of trees. -/
def values? (depth : Nat) : List RawJson → Option (List Json)
  | [] => some []
  | item :: rest =>
    (value? depth item).bind fun value => (values? depth rest).map (value :: ·)

/-- The keys and values of an object's fields. -/
def entries? (depth : Nat) : List (Option String × RawJson) → Option (List (String × Json))
  | [] => some []
  | (key, item) :: rest =>
    key.bind fun key => (value? depth item).bind fun value =>
      (entries? depth rest).map ((key, value) :: ·)

end

mutual

/-- The tree of a value. -/
def ofJson : Json → RawJson
  | .null => .null
  | .bool b => .bool b
  | .number n => .number (some n)
  | .string s => .string (some s)
  | .array items => .array (ofItems items)
  | .object fields => .object (ofFields fields)

/-- The trees of a list of values. -/
def ofItems : List Json → List RawJson
  | [] => []
  | item :: rest => ofJson item :: ofItems rest

/-- The trees of an object's fields. -/
def ofFields : List (String × Json) → List (Option String × RawJson)
  | [] => []
  | (key, value) :: rest => (some key, ofJson value) :: ofFields rest

end

end RawJson

/-- The value that a JSON text writes; none when the text is not JSON, nests too deep, or holds a
string or number without a value. -/
def Json.read? (s : String) : Option Json :=
  (RawJson.ofText? s).bind (RawJson.value? RawJson.nestingLimit)

end LiveMarkup

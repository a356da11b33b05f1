import LiveMarkup.Json.Value

/-!
# JSON text

The compact and the indented text of a value. Strings escape the quotation mark, the backslash and
the control characters below the blank, and nothing else.
-/

set_option autoImplicit false

namespace LiveMarkup.Json

/-- A hexadecimal digit in lower case. -/
def hexDigit (n : Nat) : Char := (Nat.digitChar n)

/-- `\u` and the four hexadecimal digits of a number below `2 ^ 16`. -/
def unicodeEscape (code : Nat) : List Char :=
  ['\\', 'u', hexDigit (code / 4096 % 16), hexDigit (code / 256 % 16), hexDigit (code / 16 % 16),
    hexDigit (code % 16)]

/-- A character as it stands inside a quoted string. -/
def escapeChar (c : Char) : List Char :=
  if c = '"' then ['\\', '"']
  else if c = '\\' then ['\\', '\\']
  else if c = '\n' then ['\\', 'n']
  else if c = '\r' then ['\\', 'r']
  else if c = '\t' then ['\\', 't']
  else if c = '\x08' then ['\\', 'b']
  else if c = '\x0c' then ['\\', 'f']
  else if c.toNat < 0x20 then unicodeEscape c.toNat
  else [c]

/-- A quoted string. -/
def quoteChars (cs : List Char) : List Char := '"' :: cs.flatMap escapeChar ++ ['"']

/-- The quoted form of a text. -/
def quote (s : String) : String := String.ofList (quoteChars s.toList)

mutual

/-- The characters of the compact text. -/
def compactChars : Json → List Char
  | .null => "null".toList
  | .bool b => (if b then "true" else "false").toList
  | .number n => n.text.toList
  | .string s => quoteChars s.toList
  | .array items => '[' :: compactItems items ++ [']']
  | .object fields => '\x7b' :: compactFields fields ++ ['\x7d']

/-- Items with commas between them. -/
def compactItems : List Json → List Char
  | [] => []
  | [item] => compactChars item
  | item :: rest => compactChars item ++ ',' :: compactItems rest

/-- Fields with commas between them. -/
def compactFields : List (String × Json) → List Char
  | [] => []
  | [(key, value)] => quoteChars key.toList ++ ':' :: compactChars value
  | (key, value) :: rest =>
    quoteChars key.toList ++ ':' :: compactChars value ++ ',' :: compactFields rest

end

/-- The text without white space. -/
def compact (value : Json) : String := String.ofList value.compactChars

/-- A line break and the indentation of a nesting depth, two blanks a level. -/
def newLine (depth : Nat) : List Char := '\n' :: List.replicate (2 * depth) ' '

mutual

/-- The characters of the indented text of a value that stands at a nesting depth. -/
def prettyChars (depth : Nat) : Json → List Char
  | .null => "null".toList
  | .bool b => (if b then "true" else "false").toList
  | .number n => n.text.toList
  | .string s => quoteChars s.toList
  | .array [] => ['[', ']']
  | .array (item :: rest) =>
    '[' :: prettyItems (depth + 1) (item :: rest) ++ newLine depth ++ [']']
  | .object [] => ['\x7b', '\x7d']
  | .object (field :: rest) =>
    '\x7b' :: prettyFields (depth + 1) (field :: rest) ++ newLine depth ++ ['\x7d']

/-- Each item on a line of its own. -/
def prettyItems (depth : Nat) : List Json → List Char
  | [] => []
  | [item] => newLine depth ++ prettyChars depth item
  | item :: rest => newLine depth ++ prettyChars depth item ++ ',' :: prettyItems depth rest

/-- Each field on a line of its own. -/
def prettyFields (depth : Nat) : List (String × Json) → List Char
  | [] => []
  | [(key, value)] =>
    newLine depth ++ quoteChars key.toList ++ ':' :: ' ' :: prettyChars depth value
  | (key, value) :: rest =>
    newLine depth ++ quoteChars key.toList ++ ':' :: ' ' :: prettyChars depth value
      ++ ',' :: prettyFields depth rest

end

/-- The text with one item or field a line. -/
def pretty (value : Json) : String := String.ofList (prettyChars 0 value)

end LiveMarkup.Json

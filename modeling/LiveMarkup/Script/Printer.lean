import LiveMarkup.Json.Printer
import LiveMarkup.Script.Term

/-!
# Printing scripts

Scripts are printed one statement a line, two blanks of indentation a level. Literals are quoted so
that they can stand inside a script element: angle brackets, ampersands and the two line separators
are written as escapes.
-/

set_option autoImplicit false

namespace LiveMarkup.Script

/-- A hexadecimal digit in upper case. -/
def upperHex (n : Nat) : Char := (Nat.digitChar n).toUpper

/-- `\u` and the four digits of a number below `2 ^ 16`, in upper case. -/
def upperEscape (code : Nat) : List Char :=
  ['\\', 'u', upperHex (code / 4096 % 16), upperHex (code / 256 % 16), upperHex (code / 16 % 16),
    upperHex (code % 16)]

/-- A character as it stands inside a string literal. -/
def literalChar (c : Char) : List Char :=
  if c = '"' then ['\\', '"']
  else if c = '\\' then ['\\', '\\']
  else if c = '\n' then ['\\', 'n']
  else if c = '\r' then ['\\', 'r']
  else if c = '\t' then ['\\', 't']
  else if c = '<' ∨ c = '>' ∨ c = '&' ∨ c = '\u2028' ∨ c = '\u2029' ∨ c.toNat < 0x20 then
    upperEscape c.toNat
  else [c]

/-- The characters of a string literal. -/
def literalChars (s : String) : List Char := '"' :: s.toList.flatMap literalChar ++ ['"']

/-- A string literal. -/
def stringLiteral (s : String) : String := String.ofList (literalChars s)

/-- A number literal: whole numbers below `10 ^ 15` as integers, and null for what is not finite. -/
def numberLiteral : Binary64 → String
  | .finite x =>
    match x.toInt? with
    | some n => if n.natAbs < Nat.pow 10 15 then toString n else FloatLayout.plain.write x
    | none => FloatLayout.plain.write x
  | _ => "null"

/-- Lists of characters with a comma and a blank between them. -/
def commaSeparated : List (List Char) → List Char
  | [] => []
  | [item] => item
  | item :: rest => item ++ ',' :: ' ' :: commaSeparated rest

mutual

/-- The characters of a JSON value as a literal. -/
def jsonChars : Json → List Char
  | .null => "null".toList
  | .bool b => (if b then "true" else "false").toList
  | .number n => n.text.toList
  | .string s => literalChars s
  | .array items => '[' :: commaSeparated (jsonItems items) ++ [']']
  | .object fields => '\x7b' :: commaSeparated (jsonFields fields) ++ ['\x7d']

/-- The literals of a list of values. -/
def jsonItems : List Json → List (List Char)
  | [] => []
  | item :: rest => jsonChars item :: jsonItems rest

/-- The keys and literals of an object's fields. -/
def jsonFields : List (String × Json) → List (List Char)
  | [] => []
  | (key, value) :: rest =>
    (literalChars key ++ ':' :: ' ' :: jsonChars value) :: jsonFields rest

end

/-- A JSON value as a literal. -/
def jsonLiteral (value : Json) : String := String.ofList (jsonChars value)

/-- The indentation of a nesting depth. -/
def indent (depth : Nat) : List Char := List.replicate (2 * depth) ' '

/-- A line at a nesting depth. -/
def line (depth : Nat) (cs : List Char) : List Char := indent depth ++ cs ++ ['\n']

/-- Characters in parentheses, if they need them. -/
def parenthesised (needed : Bool) (cs : List Char) : List Char :=
  if needed then '(' :: cs ++ [')'] else cs

/-- Parameters in parentheses. -/
def parameterChars (parameters : List Identifier) : List Char :=
  '(' :: commaSeparated (parameters.map fun p => p.name.toList) ++ [')']

mutual

/-- The characters of an expression that stands at a nesting depth. -/
def exprChars (depth : Nat) : Expr → List Char
  | .ident name => name.name.toList
  | .this => "this".toList
  | .str s => literalChars s
  | .num x => (numberLiteral x).toList
  | .bool b => (if b then "true" else "false").toList
  | .null => "null".toList
  | .json value => jsonChars value
  | .member target name =>
    parenthesised target.isCompound (exprChars depth target) ++ '.' :: name.name.toList
  | .index target key =>
    parenthesised target.isCompound (exprChars depth target) ++ '[' :: exprChars depth key ++ [']']
  | .call callee arguments =>
    parenthesised callee.isCompound (exprChars depth callee)
      ++ '(' :: commaSeparated (exprsChars depth arguments) ++ [')']
  | .construct callee arguments =>
    "new ".toList ++ parenthesised callee.isCompound (exprChars depth callee)
      ++ '(' :: commaSeparated (exprsChars depth arguments) ++ [')']
  | .arrow parameters body =>
    parameterChars parameters ++ " => \x7b\n".toList ++ stmtsChars (depth + 1) body
      ++ indent depth ++ ['\x7d']
  | .assign target value => exprChars depth target ++ " = ".toList ++ exprChars depth value
  | .binary left operator right =>
    parenthesised left.isCompound (exprChars depth left) ++ ' ' :: operator.text.toList
      ++ ' ' :: parenthesised right.isCompound (exprChars depth right)
  | .not operand => '!' :: parenthesised operand.isCompound (exprChars depth operand)
  | .object fields => '\x7b' :: commaSeparated (fieldsChars depth fields) ++ ['\x7d']

/-- The characters of each expression. -/
def exprsChars (depth : Nat) : List Expr → List (List Char)
  | [] => []
  | e :: rest => exprChars depth e :: exprsChars depth rest

/-- The characters of the fields of an object literal. -/
def fieldsChars (depth : Nat) : List (String × Expr) → List (List Char)
  | [] => []
  | (key, e) :: rest =>
    (literalChars key ++ ':' :: ' ' :: exprChars depth e) :: fieldsChars depth rest

/-- The lines of a statement at a nesting depth. -/
def stmtChars (depth : Nat) : Stmt → List Char
  | .expr e => line depth (exprChars depth e ++ [';'])
  | .const name value =>
    line depth ("const ".toList ++ name.name.toList ++ " = ".toList ++ exprChars depth value
      ++ [';'])
  | .branch condition yes no =>
    line depth ("if (".toList ++ exprChars depth condition ++ ") \x7b".toList)
      ++ stmtsChars (depth + 1) yes
      ++ (if no.isEmpty then []
        else line depth "\x7d else \x7b".toList ++ stmtsChars (depth + 1) no)
      ++ line depth ['\x7d']
  | .return none => line depth "return;".toList
  | .return (some value) => line depth ("return ".toList ++ exprChars depth value ++ [';'])
  | .classDef name none methods =>
    line depth ("class ".toList ++ name.name.toList ++ " \x7b".toList)
      ++ methodsChars (depth + 1) methods ++ line depth ['\x7d']
  | .classDef name (some base) methods =>
    line depth ("class ".toList ++ name.name.toList ++ " extends ".toList ++ exprChars depth base
      ++ " \x7b".toList)
      ++ methodsChars (depth + 1) methods ++ line depth ['\x7d']
  | .isolated body =>
    line depth "(function () \x7b".toList ++ line (depth + 1) "\"use strict\";".toList
      ++ stmtsChars (depth + 1) body ++ line depth "\x7d)();".toList

/-- The lines of statements at a nesting depth. -/
def stmtsChars (depth : Nat) : List Stmt → List Char
  | [] => []
  | stmt :: rest => stmtChars depth stmt ++ stmtsChars depth rest

/-- The lines of methods at a nesting depth. -/
def methodsChars (depth : Nat) : List Method → List Char
  | [] => []
  | .mk name parameters body :: rest =>
    line depth (name.name.toList ++ parameterChars parameters ++ " \x7b".toList)
      ++ stmtsChars (depth + 1) body ++ line depth ['\x7d'] ++ methodsChars depth rest

end

/-- The text of statements. -/
def print (stmts : List Stmt) : String := String.ofList (stmtsChars 0 stmts)

end LiveMarkup.Script

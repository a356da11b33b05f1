import LiveMarkup.Json.Value
import LiveMarkup.Script.Identifier

/-!
# Script terms

Expressions and statements of generated scripts. Names are identifiers, and every other piece of data
is a literal that the printer quotes, so no data can become code.
-/

set_option autoImplicit false

namespace LiveMarkup.Script

/-- Binary operators. -/
inductive Operator where
  | strictEqual
  | and
  | or
  | plus
deriving DecidableEq

mutual

/-- Expressions. -/
inductive Expr where
  | ident (name : Identifier)
  | this
  | str (s : String)
  | num (x : Binary64)
  | bool (b : Bool)
  | null
  /-- A JSON value as a literal. -/
  | json (value : Json)
  | member (target : Expr) (name : Identifier)
  | index (target key : Expr)
  | call (callee : Expr) (arguments : List Expr)
  | construct (callee : Expr) (arguments : List Expr)
  | arrow (parameters : List Identifier) (body : List Stmt)
  | assign (target value : Expr)
  | binary (left : Expr) (operator : Operator) (right : Expr)
  | not (operand : Expr)
  | object (fields : List (String × Expr))

/-- Statements. -/
inductive Stmt where
  | expr (e : Expr)
  | const (name : Identifier) (value : Expr)
  | branch (condition : Expr) (yes no : List Stmt)
  | return (value : Option Expr)
  | classDef (name : Identifier) (base : Option Expr) (methods : List Method)
  /-- A function in strict mode that is called at once. -/
  | isolated (body : List Stmt)

/-- Methods of a class. -/
inductive Method where
  | mk (name : Identifier) (parameters : List Identifier) (body : List Stmt)

end

namespace Expr

/-- A call of a member. -/
def method (target : Expr) (name : Identifier) (arguments : List Expr) : Expr :=
  .call (.member target name) arguments

/-- Whether an expression needs parentheses as an operand. -/
def isCompound : Expr → Bool
  | .binary _ _ _ => true
  | .assign _ _ => true
  | .arrow _ _ => true
  | .not _ => true
  | .construct _ _ => true
  | _ => false

end Expr

/-- The text of an operator. -/
def Operator.text : Operator → String
  | .strictEqual => "==="
  | .and => "&&"
  | .or => "||"
  | .plus => "+"

end LiveMarkup.Script

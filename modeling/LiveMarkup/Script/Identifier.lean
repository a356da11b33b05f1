/-!
# Script identifiers

An identifier is a name that a script can use for a variable, a class or a member. Any text becomes
one when its other characters are replaced by underscores behind a suitable stem.
-/

set_option autoImplicit false

namespace LiveMarkup.Script

/-- The words of the language that are no identifiers. -/
def reservedWords : List String :=
  ["await", "break", "case", "catch", "class", "const", "continue", "debugger", "default",
    "delete", "do", "else", "enum", "export", "extends", "false", "finally", "for", "function",
    "if", "import", "in", "instanceof", "let", "new", "null", "return", "static", "super",
    "switch", "this", "throw", "true", "try", "typeof", "var", "void", "while", "with", "yield"]

/-- The characters an identifier may start with. -/
def isIdentifierStart (c : Char) : Bool := c.isAlpha || c == '_' || c == '$'

/-- The characters an identifier may go on with. -/
def isIdentifierPart (c : Char) : Bool := c.isAlphanum || c == '_' || c == '$'

/-- Whether a name is an identifier. -/
def isIdentifier (name : String) : Bool :=
  name.toList.head?.any isIdentifierStart && name.toList.tail.all isIdentifierPart
    && !reservedWords.contains name

/-- An identifier. -/
structure Identifier where
  name : String
  valid : isIdentifier name = true
deriving DecidableEq

namespace Identifier

/-- The identifier of a name, if it is one. -/
def ofName? (name : String) : Option Identifier :=
  if h : isIdentifier name = true then some ⟨name, h⟩ else none

/-- What is said of a name that is no identifier. -/
def invalidMessage (name : String) : String :=
  "'" ++ name ++ "' is not a valid JavaScript identifier"

/-- A character as it stands in a sanitized name. -/
def sanitizeChar (c : Char) : Char := if c.isAlphanum || c == '_' then c else '_'

/-- A stem followed by a text with every other character replaced by an underscore. -/
def sanitizedName (stem text : String) : String :=
  String.ofList (stem.toList ++ text.toList.map sanitizeChar)

/-- The identifier of a stem and a text, if they make one. -/
def sanitized? (stem text : String) : Option Identifier := ofName? (sanitizedName stem text)

theorem sanitizeChar_isPart (c : Char) : isIdentifierPart (sanitizeChar c) = true := by
  unfold sanitizeChar isIdentifierPart
  split
  · rename_i h
    simp only [Bool.or_eq_true] at h ⊢
    exact .inl h
  · rfl

/-- A stem that is an identifier and contains an underscore that no reserved word contains gives an
identifier with every text. -/
theorem isIdentifier_sanitizedName {stem : String} (text : String)
    (start : stem.toList.head?.any isIdentifierStart = true)
    (parts : stem.toList.tail.all isIdentifierPart = true)
    (mark : '_' ∈ stem.toList) : isIdentifier (sanitizedName stem text) = true := by
  have free : ∀ word ∈ reservedWords, '_' ∉ word.toList := by decide
  have unreserved : sanitizedName stem text ∉ reservedWords := by
    intro member
    apply free _ member
    simp [sanitizedName, mark]
  have shape : ∃ c rest, stem.toList = c :: rest := by
    cases h : stem.toList with
    | nil => simp [h] at mark
    | cons c rest => exact ⟨c, rest, rfl⟩
  obtain ⟨c, rest, shape⟩ := shape
  simp only [shape, List.head?_cons, Option.any_some, List.tail_cons] at start parts
  simp [isIdentifier, sanitizedName, shape, start, parts, sanitizeChar_isPart] at unreserved ⊢
  exact unreserved

/-- The identifier that starts with `Strata_` and goes on with a text. -/
def className (text : String) : Identifier :=
  ⟨sanitizedName "Strata_" text, isIdentifier_sanitizedName text (by decide) (by decide) (by decide)⟩

/-- The identifier that starts with `strata_` and goes on with a text. -/
def globalName (text : String) : Identifier :=
  ⟨sanitizedName "strata_" text, isIdentifier_sanitizedName text (by decide) (by decide) (by decide)⟩

end Identifier

end LiveMarkup.Script

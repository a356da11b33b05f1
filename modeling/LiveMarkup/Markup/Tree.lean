import LiveMarkup.Text.Space

/-!
# Markup

A tree of tags, text and trusted markup, and its text. Text and attribute values are escaped, trusted
markup is written as it is, and a void tag has neither children nor a closing tag.
-/

set_option autoImplicit false

namespace LiveMarkup

/-- A tree of markup. An attribute without a value is a flag. -/
inductive Markup where
  | text (s : String)
  | trusted (s : String)
  | tag (name : String) (attributes : List (String × Option String)) (children : List Markup)

instance : Inhabited Markup := ⟨.text ""⟩

/-- An attribute with its value, or a flag. -/
abbrev Attribute := String × Option String

namespace Markup

/-- A character as it stands in text and attribute values. -/
def escapeChar (c : Char) : List Char :=
  if c = '&' then "&amp;".toList
  else if c = '<' then "&lt;".toList
  else if c = '>' then "&gt;".toList
  else if c = '"' then "&quot;".toList
  else if c = '\'' then "&#39;".toList
  else [c]

/-- The characters of an escaped text. -/
def escapeChars (cs : List Char) : List Char := cs.flatMap escapeChar

/-- An escaped text. -/
def escape (s : String) : String := String.ofList (escapeChars s.toList)

/-- The tags that never have children. -/
def voidTags : List String :=
  ["area", "base", "br", "col", "embed", "hr", "img", "input", "link", "meta", "source", "track",
    "wbr"]

/-- The characters of one attribute, with the blank in front of it. -/
def attributeChars : Attribute → List Char
  | (name, some value) => ' ' :: name.toList ++ '=' :: '"' :: escapeChars value.toList ++ ['"']
  | (name, none) => ' ' :: name.toList

/-- The characters of an opening tag. -/
def openChars (name : String) (attributes : List Attribute) : List Char :=
  '<' :: name.toList ++ attributes.flatMap attributeChars ++ ['>']

/-- The characters of a closing tag. -/
def closeChars (name : String) : List Char := '<' :: '/' :: name.toList ++ ['>']

mutual

/-- The characters of a tree. -/
def chars : Markup → List Char
  | .text s => escapeChars s.toList
  | .trusted s => s.toList
  | .tag name attributes children =>
    if voidTags.contains name then openChars name attributes
    else openChars name attributes ++ listChars children ++ closeChars name

/-- The characters of trees one after another. -/
def listChars : List Markup → List Char
  | [] => []
  | tree :: rest => chars tree ++ listChars rest

end

/-- The text of a tree. -/
def render (tree : Markup) : String := String.ofList tree.chars

/-- An attribute with a value. -/
def attr (name value : String) : Attribute := (name, some value)

/-- An attribute without a value. -/
def flag (name : String) : Attribute := (name, none)

/-- The class attribute of the classes that are not blank, none without such a class. -/
def classAttr (classes : List String) : List Attribute :=
  let named := (classes.map Text.trim).filter fun c => !c.isEmpty
  if named.isEmpty then [] else [attr "class" (" ".intercalate named)]

end Markup

end LiveMarkup

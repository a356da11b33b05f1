import LiveMarkup.Json.Scalar
import LiveMarkup.Markup.Tree

/-!
# Row templates

A row template is text with placeholders in double braces. It is read once, without looking at any
record, so what a record holds is only ever inserted, escaped, in place of a placeholder. Braces that
are not closed are ordinary text.
-/

set_option autoImplicit false

namespace LiveMarkup

/-- Literal text and the placeholder that follows it, and the text behind the last placeholder. -/
structure RowTemplate where
  pieces : List (List Char × String)
  tail : List Char

namespace RowTemplate

/-- The template with one more piece in front. -/
def cons (literal : List Char) (key : String) (template : RowTemplate) : RowTemplate :=
  { template with pieces := (literal, key) :: template.pieces }

/-- Reads on behind the literal text `literal`, and inside a placeholder behind its characters `key`;
both are listed backwards. -/
def readFrom (literal : List Char) (key : Option (List Char)) : List Char → RowTemplate
  | [] =>
    match key with
    | none => ⟨[], literal.reverse⟩
    | some key => ⟨[], literal.reverse ++ '\x7b' :: '\x7b' :: key.reverse⟩
  | c :: rest =>
    match key with
    | none =>
      match rest with
      | d :: more =>
        if c = '\x7b' ∧ d = '\x7b' then readFrom literal (some []) more
        else readFrom (c :: literal) none (d :: more)
      | [] => readFrom (c :: literal) none []
    | some key =>
      match rest with
      | d :: more =>
        if c = '\x7d' ∧ d = '\x7d' then
          (readFrom [] none more).cons literal.reverse (Text.trim (String.ofList key.reverse))
        else readFrom literal (some (c :: key)) (d :: more)
      | [] => readFrom literal (some (c :: key)) []

/-- Reads a template. -/
def ofText (s : String) : RowTemplate := readFrom [] none s.toList

/-- The text that a record puts in place of a placeholder. -/
def valueChars (record : Fields) (key : String) : List Char :=
  Markup.escapeChars (((Fields.get? record key).map Json.text).getD "").toList

/-- The characters of the template with the values of a record. -/
def fillChars (template : RowTemplate) (record : Fields) : List Char :=
  template.pieces.flatMap (fun piece => piece.1 ++ valueChars record piece.2) ++ template.tail

/-- The template with the values of a record. -/
def fill (template : RowTemplate) (record : Fields) : String :=
  String.ofList (template.fillChars record)

end RowTemplate

end LiveMarkup

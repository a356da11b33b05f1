/-!
# Occurrences of a text in a text
-/

set_option autoImplicit false

namespace LiveMarkup.Text

/-- Whether the characters `part` stand next to each other, in order, somewhere in `whole`. -/
def occursIn (part : List Char) : List Char → Bool
  | [] => part.isEmpty
  | c :: rest => part.isPrefixOf (c :: rest) || occursIn part rest

/-- Whether `part` is a substring of `whole`; the empty text is one of every text. -/
def contains (whole part : String) : Bool := occursIn part.toList whole.toList

/-- What stands before and behind the first occurrence of `mark`. -/
def cutAt (mark : List Char) : List Char → Option (List Char × List Char)
  | [] => if mark.isEmpty then some ([], []) else none
  | c :: rest =>
    if mark.isPrefixOf (c :: rest) then some ([], (c :: rest).drop mark.length)
    else (cutAt mark rest).map fun (before, after) => (c :: before, after)

theorem occursIn_iff (part whole : List Char) :
    occursIn part whole = true ↔ part <:+: whole := by
  induction whole with
  | nil => cases part <;> simp [occursIn]
  | cons c rest ih => simp [occursIn, ih, List.infix_cons_iff]

/-- `contains` is the substring relation. -/
theorem contains_iff (whole part : String) :
    contains whole part = true ↔ part.toList <:+: whole.toList := occursIn_iff _ _

end LiveMarkup.Text

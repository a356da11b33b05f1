import LiveMarkup.Text.CaseTables

/-!
# Letter case

Lower-case forms of texts, with the final form of sigma at the end of a word, and the capitalised
words that make a readable label of a field name.
-/

set_option autoImplicit false

namespace LiveMarkup.Text

/-- The character with this code point; a number that is none gives the replacement character. -/
def charOfCode (code : Nat) : Char :=
  if code.isValidChar then Char.ofNat code else '\uFFFD'

/-- The lower-case form of a character outside any context. -/
def lowerChar (c : Char) : List Char :=
  if c.toNat < 0x80 then [c.toLower]
  else if c.toNat = 0x130 then ['i', '\u0307']
  else [charOfCode (applyRuns lowerRuns c.toNat)]

/-- The upper-case form of a character, which may be several characters long. -/
def upperChar (c : Char) : List Char :=
  if c.toNat < 0x80 then [c.toUpper]
  else match upperSequences.find? fun entry => entry.1 == c.toNat with
    | some entry => entry.2.map charOfCode
    | none => [charOfCode (applyRuns upperRuns c.toNat)]

/-- Whether the first character that is not skipped has case. -/
def meetsCased (cs : List Char) : Bool :=
  match cs.dropWhile fun c => caseIgnorableRanges.any (CodeRange.holds · c.toNat) with
  | [] => false
  | c :: _ => casedRanges.any (CodeRange.holds · c.toNat)

/-- The lower-case form of the characters that follow `before`, which is listed backwards. A capital
sigma ends a word when a cased character precedes it and none follows. -/
def lowerAfter (before : List Char) : List Char → List Char
  | [] => []
  | c :: rest =>
    (if c = 'Σ' then
      if meetsCased before && !meetsCased rest then ['ς'] else ['σ']
    else lowerChar c) ++ lowerAfter (c :: before) rest

/-- The lower-case form of a text. -/
def lower (s : String) : String := String.ofList (lowerAfter [] s.toList)

/-- The pieces of a list between the elements that satisfy `sep`. -/
def splitAt (sep : Char → Bool) : List Char → List (List Char)
  | [] => [[]]
  | c :: rest =>
    if sep c then [] :: splitAt sep rest
    else match splitAt sep rest with
      | [] => [[c]]
      | piece :: pieces => (c :: piece) :: pieces

/-- The pieces of a text between the characters that satisfy `sep`. -/
def split (sep : Char → Bool) (s : String) : List String :=
  (splitAt sep s.toList).map String.ofList

/-- The words between `_` and `-`, each with a capital first letter, one blank apart. -/
def titleWords (s : String) : String :=
  let capitalise : List Char → List Char
    | [] => []
    | first :: rest => upperChar first ++ rest
  let words := (splitAt (fun c => c == '_' || c == '-') s.toList).filter fun w => !w.isEmpty
  " ".intercalate (words.map fun w => String.ofList (capitalise w))

/-- The text with its ASCII capitals in lower case. -/
def asciiLower (s : String) : String := String.ofList (s.toList.map Char.toLower)

end LiveMarkup.Text

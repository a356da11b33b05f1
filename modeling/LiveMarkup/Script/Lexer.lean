import LiveMarkup.Script.Token

/-!
# The lexer

The program reads the bytes of a text. A backslash takes the next byte along, which may be the first
one of several that make a character. The lexer keeps whether it has passed a gap, and a line break in
one, since the last token: the branches of `Lexer.step` set these marks, and a token takes them along
and clears them. Every step ends behind the place where it began (`Ahead`), so the lexer comes to the
end of its text. It reads what `tokenize` reads from the characters of the text.
-/

set_option autoImplicit false

namespace LiveMarkup.Script

/-- A byte as a character. A byte of a character outside ASCII makes no ASCII character. -/
def byteChar (b : UInt8) : Char := Char.ofUInt8 b

/-- The next byte as a character. -/
def nextChar (bytes : List UInt8) : Option Char := bytes.head?.map byteChar

/-- A place in a text: how many bytes stand in front of it, and the bytes behind it. -/
structure Cursor where
  pos : Nat
  rest : List UInt8

/-- A place that reading `bytes` gets on to. -/
structure Ahead (bytes : List UInt8) extends Cursor where
  shorter : rest.length < bytes.length

namespace Ahead

variable {bytes : List UInt8}

/-- A place at or behind the second byte. -/
def behind (b : UInt8) (place : Cursor) (h : place.rest.length ≤ bytes.length) : Ahead (b :: bytes) :=
  ⟨place, Nat.lt_succ_of_le h⟩

/-- The place behind the first byte. -/
def next (b : UInt8) (pos : Nat) (bytes : List UInt8) : Ahead (b :: bytes) :=
  behind b ⟨pos + 1, bytes⟩ (Nat.le_refl _)

/-- A place that is reached with one more byte in front. -/
def cons (b : UInt8) (place : Ahead bytes) : Ahead (b :: bytes) :=
  behind b place.toCursor (Nat.le_of_lt place.shorter)

/-- A place that is reached from one that was reached before. -/
def onward (place : Ahead bytes) (later : Ahead place.rest) : Ahead bytes :=
  ⟨later.toCursor, Nat.lt_trans later.shorter place.shorter⟩

end Ahead

/-! ## Scanners -/

/-- Reads on while the bytes satisfy `p`. -/
def scanWhile (p : Char → Bool) (pos : Nat) : List UInt8 → Cursor
  | [] => ⟨pos, []⟩
  | b :: rest => if p (byteChar b) then scanWhile p (pos + 1) rest else ⟨pos, b :: rest⟩

theorem length_scanWhile_le (p : Char → Bool) (pos : Nat) (bytes : List UInt8) :
    (scanWhile p pos bytes).rest.length ≤ bytes.length := by
  induction bytes generalizing pos with
  | nil => exact Nat.le_refl _
  | cons b rest ih =>
    unfold scanWhile
    split
    · exact Nat.le_succ_of_le (ih _)
    · exact Nat.le_refl _

/-- The place behind the first byte and the ones after it that satisfy `p`. -/
def scanSpan (p : Char → Bool) (b : UInt8) (pos : Nat) (rest : List UInt8) : Ahead (b :: rest) :=
  .behind b (scanWhile p (pos + 1) rest) (length_scanWhile_le _ _ _)

/-- Reads to the end of a block comment, behind its opener. -/
def scanBlock (pos : Nat) : (bytes : List UInt8) → Option (Ahead bytes)
  | [] => none
  | [_] => none
  | b :: d :: rest =>
    if byteChar b = '*' ∧ byteChar d = '/' then some ((Ahead.next d (pos + 1) rest).cons b)
    else (scanBlock (pos + 1) (d :: rest)).map (Ahead.cons b)

/-- Reads to the end of a string, behind its opening quote. A backslash takes the next byte along; a
line break otherwise ends the line before the string. -/
def scanString (quote : Char) (pos : Nat) : (bytes : List UInt8) → Option (Ahead bytes)
  | [] => none
  | b :: rest =>
    if byteChar b = '\\' then
      match rest with
      | [] => none
      | d :: more => (scanString quote (pos + 2) more).map fun place => (place.cons d).cons b
    else if isLineBreak (byteChar b) then none
    else if byteChar b = quote then some (.next b pos rest)
    else (scanString quote (pos + 1) rest).map (Ahead.cons b)

/-- Reads to the closing slash of a regular expression, behind the opening one, and over its flags. In
a class in brackets a slash is an ordinary byte. -/
def scanRegex (inClass : Bool) (pos : Nat) : (bytes : List UInt8) → Option (Ahead bytes)
  | [] => none
  | b :: rest =>
    if isLineBreak (byteChar b) then none
    else if byteChar b = '\\' then
      match rest with
      | [] => none
      | d :: more => (scanRegex inClass (pos + 2) more).map fun place => (place.cons d).cons b
    else if byteChar b = '[' then (scanRegex true (pos + 1) rest).map (Ahead.cons b)
    else if byteChar b = ']' then (scanRegex false (pos + 1) rest).map (Ahead.cons b)
    else if byteChar b = '/' ∧ !inClass then some (scanSpan Char.isAlpha b pos rest)
    else (scanRegex inClass (pos + 1) rest).map (Ahead.cons b)

/-- Reads on in a number behind its byte `previous`; a sign continues it behind an exponent mark,
unless the number has a radix letter. -/
def scanNumber (radix : Bool) (previous : Char) (pos : Nat) : List UInt8 → Cursor
  | [] => ⟨pos, []⟩
  | b :: rest =>
    let c := byteChar b
    let signed := !radix && (c == '+' || c == '-') && (previous == 'e' || previous == 'E')
    if c.isAlphanum || c == '_' || c == '.' || signed then scanNumber radix c (pos + 1) rest
    else ⟨pos, b :: rest⟩

theorem length_scanNumber_le (radix : Bool) (previous : Char) (pos : Nat) (bytes : List UInt8) :
    (scanNumber radix previous pos bytes).rest.length ≤ bytes.length := by
  induction bytes generalizing previous pos with
  | nil => exact Nat.le_refl _
  | cons b rest ih =>
    unfold scanNumber
    dsimp only
    split
    · exact Nat.le_succ_of_le (ih _ _)
    · exact Nat.le_refl _

mutual

/-- Reads to the end of a template, behind its opening mark. -/
def scanTemplate (pos : Nat) (bytes : List UInt8) : Option (Ahead bytes) :=
  match bytes with
  | [] => none
  | b :: rest =>
    if byteChar b = '\\' then
      match rest with
      | [] => none
      | d :: more => (scanTemplate (pos + 2) more).map fun place => (place.cons d).cons b
    else if byteChar b = '\x60' then some (.next b pos rest)
    else
      match rest with
      | [] => none
      | d :: more =>
        if byteChar b = '$' ∧ byteChar d = '\x7b' then do
          let place ← scanSubstitution 1 (pos + 2) more
          let later ← scanTemplate place.pos place.rest
          return ((place.onward later).cons d).cons b
        else (scanTemplate (pos + 1) (d :: more)).map (Ahead.cons b)
termination_by bytes.length
decreasing_by
  all_goals
    first
    | exact Nat.lt_succ_of_lt (Ahead.shorter _)
    | exact Nat.lt_succ_of_lt (Nat.lt_succ_of_lt (Ahead.shorter _))
    | (simp only [List.length_cons]; omega)

/-- Reads the code of a substitution to the brace that ends it, with `depth` braces open. It knows
braces, strings, templates and comments, and no regular expressions. -/
def scanSubstitution (depth pos : Nat) (bytes : List UInt8) : Option (Ahead bytes) :=
  match bytes with
  | [] => none
  | b :: rest =>
    let c := byteChar b
    if c = '\x7b' then (scanSubstitution (depth + 1) (pos + 1) rest).map (Ahead.cons b)
    else if c = '\x7d' then
      if depth = 1 then some (.next b pos rest)
      else (scanSubstitution (depth - 1) (pos + 1) rest).map (Ahead.cons b)
    else if c = '"' ∨ c = '\'' then do
      let place ← scanString c (pos + 1) rest
      let later ← scanSubstitution depth place.pos place.rest
      return (place.onward later).cons b
    else if c = '\x60' then do
      let place ← scanTemplate (pos + 1) rest
      let later ← scanSubstitution depth place.pos place.rest
      return (place.onward later).cons b
    else
      match rest with
      | [] => none
      | d :: more =>
        if c = '/' ∧ byteChar d = '*' then do
          let place ← scanBlock (pos + 2) more
          let later ← scanSubstitution depth place.pos place.rest
          return ((place.onward later).cons d).cons b
        else if c = '/' ∧ byteChar d = '/' then
          let place := scanSpan (· != '\n') d (pos + 1) more
          (scanSubstitution depth place.pos place.rest).map fun later => (place.onward later).cons b
        else (scanSubstitution depth (pos + 1) (d :: more)).map (Ahead.cons b)
termination_by bytes.length
decreasing_by
  all_goals
    first
    | exact Nat.lt_succ_of_lt (Ahead.shorter _)
    | exact Nat.lt_succ_of_lt (Nat.lt_succ_of_lt (Ahead.shorter _))
    | (simp only [List.length_cons]; omega)

end

/-! ## Tokens -/

/-- A token as the lexer keeps it: where it begins, its text, and whether a gap stands in front of it
and a line ends in this gap. -/
structure Lexed where
  kind : TokenKind
  start : Nat
  text : String
  spaced : Bool
  newline : Bool
deriving DecidableEq

/-- The lexer: its place in the text, the tokens read, last one first, and whether it has passed a gap,
and a line break in one, since the last token. -/
structure Lexer extends Cursor where
  source : String
  tokens : List Lexed
  spaced : Bool
  newline : Bool

/-- Whether the last tokens, last one first, are an operand followed by `++` or `--`. -/
def Lexed.endWithUpdate : List Lexed → Bool
  | second :: first :: operand :: _ =>
    (operand.kind == .word || operand.kind == .number || operand.text == ")" || operand.text == "]")
      && first.text == second.text && !second.spaced
  | _ => false

namespace Lexer

/-- Whether a slash at the place of the lexer starts a regular expression. -/
def regexAllowed (lexer : Lexer) : Bool :=
  match lexer.tokens with
  | [] => true
  | last :: _ =>
    match last.kind with
    | .word => regexKeywords.contains last.text
    | .punct =>
      if last.text = ")" ∨ last.text = "]" ∨ last.text = "\x7d" then false
      else if last.text = "+" ∨ last.text = "-" then !Lexed.endWithUpdate lexer.tokens
      else true
    | _ => false

/-- The lexer with the token that ends at `place`. The token takes the marks along. -/
def push (lexer : Lexer) (kind : TokenKind) (place : Cursor) : Lexer where
  toCursor := place
  source := lexer.source
  tokens :=
    { kind
      start := lexer.pos
      text := String.Pos.Raw.extract lexer.source ⟨lexer.pos⟩ ⟨place.pos⟩
      spaced := lexer.spaced
      newline := lexer.newline } :: lexer.tokens
  spaced := false
  newline := false

/-- The lexer with a literal that begins at its place, or what lacks its end. -/
def pushLiteral {bytes : List UInt8} (lexer : Lexer) (kind : TokenKind) (what : Unterminated) :
    Option (Ahead bytes) → Except ScriptError Lexer
  | some place => .ok (lexer.push kind place.toCursor)
  | none => .error ⟨what, lexer.pos⟩

/-- The lexer behind a block comment that begins at its place, or what lacks its end. The opener of the
comment stands in front of `bytes`. -/
def passComment {bytes : List UInt8} (lexer : Lexer) :
    Option (Ahead bytes) → Except ScriptError Lexer
  | some place =>
    let body := bytes.take (place.pos - (lexer.pos + 2))
    let newline := lexer.newline || body.any fun b => isLineBreak (byteChar b)
    .ok { lexer with toCursor := place.toCursor, spaced := true, newline }
  | none => .error ⟨.comment, lexer.pos⟩

/-- Reads on at the byte `b`, in front of `rest`. -/
def step (lexer : Lexer) (b : UInt8) (rest : List UInt8) : Except ScriptError Lexer :=
  let c := byteChar b
  let pos := lexer.pos
  if isLineBreak c then
    .ok { lexer with toCursor := ⟨pos + 1, rest⟩, spaced := true, newline := true }
  else if isBlank c then .ok { lexer with toCursor := ⟨pos + 1, rest⟩, spaced := true }
  else if c = '/' ∧ nextChar rest = some '/' then
    let place := scanWhile (fun d => !isLineBreak d) (pos + 1) rest
    .ok { lexer with toCursor := place, spaced := true }
  else if c = '/' ∧ nextChar rest = some '*' then
    lexer.passComment (scanBlock (pos + 2) rest.tail)
  else if c = '/' ∧ lexer.regexAllowed then
    lexer.pushLiteral .regex .regex (scanRegex false (pos + 1) rest)
  else if c = '"' ∨ c = '\'' then lexer.pushLiteral .str .string (scanString c (pos + 1) rest)
  else if c = '\x60' then lexer.pushLiteral .template .template (scanTemplate (pos + 1) rest)
  else if c.isDigit || (c == '.' && (nextChar rest).any Char.isDigit) then
    let radix := c == '0' && (nextChar rest).any fun d => ['x', 'X', 'b', 'B', 'o', 'O'].contains d
    .ok (lexer.push .number (scanNumber radix c (pos + 1) rest))
  else if isWordChar c then .ok (lexer.push .word (scanWhile isWordChar (pos + 1) rest))
  else .ok (lexer.push .punct ⟨pos + 1, rest⟩)

theorem pushLiteral_shorter {bytes : List UInt8} {lexer next : Lexer} {kind : TokenKind}
    {what : Unterminated} {place : Option (Ahead bytes)}
    (h : lexer.pushLiteral kind what place = .ok next) : next.rest.length < bytes.length := by
  cases place with
  | none => cases h
  | some place =>
    cases h
    exact place.shorter

theorem passComment_shorter {bytes : List UInt8} {lexer next : Lexer} {place : Option (Ahead bytes)}
    (h : lexer.passComment place = .ok next) : next.rest.length < bytes.length := by
  cases place with
  | none => cases h
  | some place =>
    cases h
    exact place.shorter

/-- Every step leaves fewer bytes. -/
theorem step_shorter {lexer next : Lexer} {b : UInt8} {rest : List UInt8}
    (h : lexer.step b rest = .ok next) : next.rest.length < (b :: rest).length := by
  unfold step at h
  dsimp only at h
  rw [List.length_cons, Nat.lt_succ_iff]
  split at h
  · cases h
    exact Nat.le_refl _
  split at h
  · cases h
    exact Nat.le_refl _
  split at h
  · cases h
    exact length_scanWhile_le _ _ _
  split at h
  · have htail : rest.tail.length ≤ rest.length := by simp
    exact Nat.le_trans (Nat.le_of_lt (passComment_shorter h)) htail
  split at h
  · exact Nat.le_of_lt (pushLiteral_shorter h)
  split at h
  · exact Nat.le_of_lt (pushLiteral_shorter h)
  split at h
  · exact Nat.le_of_lt (pushLiteral_shorter h)
  split at h
  · cases h
    exact length_scanNumber_le _ _ _ _
  split at h
  · cases h
    exact length_scanWhile_le _ _ _
  · cases h
    exact Nat.le_refl _

/-- Reads on to the end of the text. -/
def run (lexer : Lexer) : Except ScriptError (List Lexed) :=
  match _hrest : lexer.rest with
  | [] => .ok lexer.tokens.reverse
  | b :: rest =>
    match _hstep : lexer.step b rest with
    | .error error => .error error
    | .ok next => next.run
termination_by lexer.rest.length
decreasing_by
  rw [_hrest]
  exact step_shorter _hstep

/-- The lexer in front of a text. -/
def start (source : String) : Lexer where
  pos := 0
  rest := source.toUTF8.data.toList
  source
  tokens := []
  spaced := false
  newline := false

end Lexer

/-- Reads the tokens of a text. -/
def lex (source : String) : Except ScriptError (List Lexed) := (Lexer.start source).run

end LiveMarkup.Script

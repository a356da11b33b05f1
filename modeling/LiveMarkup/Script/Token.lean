import LiveMarkup.Script.Lexeme

/-!
# Tokens of script text

A text is read into tokens, each with the gap of blanks and comments in front of it, and the gap
behind the last one, so the tokens still hold the whole text (`chars_of_tokens`). Whether a slash
divides or starts a regular expression depends on the tokens before it. The program's own lexer keeps
less of the text; what it keeps is stated against these tokens.
-/

set_option autoImplicit false

namespace LiveMarkup.Script

/-- A token and the gap in front of it. -/
structure Token where
  gap : List Char
  kind : TokenKind
  text : List Char
deriving DecidableEq

namespace Token

/-- Whether something stands between the token and the one before it. -/
def spaced (token : Token) : Bool := !token.gap.isEmpty

/-- Whether a line ends between the token and the one before it. -/
def newline (token : Token) : Bool := token.gap.any isLineBreak

/-- Whether the token is this punctuation character. -/
def isPunct (token : Token) (c : Char) : Bool := token.kind == .punct && token.text == [c]

end Token

/-- The tokens of a text and the gap behind the last one. -/
structure Tokens where
  tokens : List Token
  tail : List Char
deriving DecidableEq

/-- What lacks its end, and the byte of the text at which it starts. -/
structure ScriptError where
  kind : Unterminated
  offset : Nat
deriving DecidableEq

/-- What is said about the error. -/
def ScriptError.message (error : ScriptError) : String :=
  let what := match error.kind with
    | .string => "string literal"
    | .template => "template literal"
    | .comment => "block comment"
    | .regex => "regular expression"
  "unterminated " ++ what ++ " at byte " ++ toString error.offset

/-- The length of characters in UTF-8. -/
def byteLength (cs : List Char) : Nat := cs.foldl (fun length c => length + c.utf8Size) 0

/-- Words behind which a slash starts a regular expression. -/
def regexKeywords : List String :=
  ["return", "typeof", "instanceof", "in", "of", "new", "delete", "void", "throw", "case", "do",
    "else", "yield", "await"]

/-- Whether the last tokens, last one first, are an operand followed by `++` or `--`. -/
def endsWithUpdate : List Token → Bool
  | second :: first :: operand :: _ =>
    (operand.kind == .word || operand.kind == .number || operand.text == [')']
      || operand.text == [']']) && first.text == second.text && !second.spaced
  | _ => false

/-- Whether a slash behind these tokens, last one first, starts a regular expression. -/
def regexAllowed : List Token → Bool
  | [] => true
  | last :: before =>
    match last.kind with
    | .word => regexKeywords.any fun word => word.toList == last.text
    | .punct =>
      if last.text = [')'] ∨ last.text = [']'] ∨ last.text = ['\x7d'] then false
      else if last.text = ['+'] ∨ last.text = ['-'] then !endsWithUpdate (last :: before)
      else true
    | _ => false

/-- The tokens with one more in front. -/
def Tokens.cons (token : Token) (rest : Tokens) : Tokens := ⟨token :: rest.tokens, rest.tail⟩

/-- Reads the tokens of a text that starts at byte `offset`, behind the tokens `before`, last one
first, and the gap read since. -/
def tokensFrom (before : List Token) (gap : List Char) (offset : Nat) :
    List Char → Except ScriptError Tokens
  | [] => .ok ⟨[], gap⟩
  | c :: rest =>
    match _h : chunk (regexAllowed before) c rest with
    | .error kind => .error ⟨kind, offset⟩
    | .ok (.gap, split) =>
      tokensFrom before (gap ++ split.read) (offset + byteLength split.read) split.rest
    | .ok (.token kind, split) =>
      (tokensFrom (⟨gap, kind, split.read⟩ :: before) [] (offset + byteLength split.read)
        split.rest).map (Tokens.cons ⟨gap, kind, split.read⟩)
termination_by cs => cs.length
decreasing_by all_goals exact chunk_rest_lt (by assumption)

/-- Reads the tokens of a text. -/
def tokenize (cs : List Char) : Except ScriptError Tokens := tokensFrom [] [] 0 cs

/-- The text that tokens were read from. -/
def Tokens.chars (tokens : Tokens) : List Char :=
  tokens.tokens.flatMap (fun token => token.gap ++ token.text) ++ tokens.tail

theorem Tokens.chars_cons (token : Token) (rest : Tokens) :
    (rest.cons token).chars = token.gap ++ token.text ++ rest.chars := by
  simp [Tokens.chars, Tokens.cons]

/-- The tokens read behind a gap hold the gap and the text. -/
theorem chars_of_tokensFrom {before : List Token} {gap : List Char} {offset : Nat}
    {cs : List Char} {tokens : Tokens} (h : tokensFrom before gap offset cs = .ok tokens) :
    tokens.chars = gap ++ cs := by
  fun_induction tokensFrom before gap offset cs generalizing tokens with
  | case1 => simp at h; subst h; simp [Tokens.chars]
  | case2 => simp at h
  | case3 before gap offset c rest split found ih =>
    rw [ih h, List.append_assoc, (chunk_append found).1]
  | case4 before gap offset c rest kind split found ih =>
    cases inner : tokensFrom (⟨gap, kind, split.read⟩ :: before) []
        (offset + byteLength split.read) split.rest with
    | error e => simp [inner, Except.map] at h
    | ok more =>
      simp [inner, Except.map] at h
      subst h
      rw [Tokens.chars_cons, ih inner, List.nil_append, List.append_assoc, (chunk_append found).1]

/-- The tokens of a text hold the whole text. -/
theorem chars_of_tokens {cs : List Char} {tokens : Tokens} (h : tokenize cs = .ok tokens) :
    tokens.chars = cs := chars_of_tokensFrom h

end LiveMarkup.Script

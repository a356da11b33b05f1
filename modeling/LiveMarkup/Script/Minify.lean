import LiveMarkup.Script.Lexer

/-!
# Minified script text

Tokens are written again without comments. Tokens that touched keep touching. What stood between two
others becomes a line break where a statement may end, a blank where the tokens would otherwise
merge, and nothing elsewhere. The program writes the tokens that the lexer keeps; `minifyChars` says
the same of the characters of the text (`minify_eq`).
-/

set_option autoImplicit false

namespace LiveMarkup.Script

namespace Token

/-- Whether a statement may end with the token. -/
def canEndStatement (token : Token) : Bool :=
  match token.kind with
  | .punct => [[')'], [']'], ['\x7d'], ['+'], ['-']].contains token.text
  | _ => true

/-- Whether a statement may start with the token. -/
def canStartStatement (token : Token) : Bool :=
  match token.kind with
  | .punct =>
    [['('], ['['], ['\x7b'], ['+'], ['-'], ['!'], ['~'], ['#'], ['@']].contains token.text
  | _ => true

end Token

/-- Whether a token of a kind that ends in `last` would merge with one that begins with `first`, or the
two be read differently, without a blank between them. -/
def blankBetween (kind : TokenKind) (last first : Char) : Bool :=
  if kind = .number ∧ first = '.' then true
  else if kind = .str ∨ kind = .template then false
  else if kind = .regex ∧ isWordChar first then true
  else (isWordChar last && isWordChar first) || (last == '+' && first == '+')
    || (last == '-' && first == '-') || (last == '/' && (first == '/' || first == '*'))

/-- Whether two tokens would merge, or be read differently, without a blank between them. -/
def needsBlank (previous next : Token) : Bool :=
  match previous.text.getLast?, next.text.head? with
  | some last, some first => blankBetween previous.kind last first
  | _, _ => false

/-- What is written between two tokens. -/
def separator (previous next : Token) : List Char :=
  if !next.spaced then []
  else if next.newline && previous.canEndStatement && next.canStartStatement then ['\n']
  else if needsBlank previous next then [' ']
  else []

/-- The text of tokens behind the token `previous`. -/
def joinAfter (previous : Token) : List Token → List Char
  | [] => []
  | token :: rest => separator previous token ++ token.text ++ joinAfter token rest

/-- The text of tokens with the least separators. -/
def join : List Token → List Char
  | [] => []
  | token :: rest => token.text ++ joinAfter token rest

/-- The characters of a minified text. -/
def minifyChars (cs : List Char) : Except ScriptError (List Char) :=
  (tokenize cs).map fun tokens => join tokens.tokens

namespace Lexed

/-- The token without what stands in front of it. -/
def bare (token : Lexed) : Token := ⟨[], token.kind, token.text.toList⟩

/-- The bytes of the token as characters. -/
def bytes (token : Lexed) : List Char := token.text.toUTF8.data.toList.map byteChar

/-- Whether two tokens would merge, or be read differently, without a blank between them. -/
def needsBlank (previous next : Lexed) : Bool :=
  match previous.bytes.getLast?, next.bytes.head? with
  | some last, some first => blankBetween previous.kind last first
  | _, _ => false

/-- What is written between two tokens. -/
def separator (previous next : Lexed) : String :=
  if !next.spaced then ""
  else if next.newline && previous.bare.canEndStatement && next.bare.canStartStatement then "\n"
  else if previous.needsBlank next then " "
  else ""

/-- The text `out` with tokens behind it, the first one behind the token `previous`. -/
def joinOnto (out : String) (previous : Lexed) : List Lexed → String
  | [] => out
  | token :: rest => joinOnto (out ++ previous.separator token ++ token.text) token rest

/-- The text of tokens with the least separators. -/
def join : List Lexed → String
  | [] => ""
  | token :: rest => joinOnto token.text token rest

end Lexed

/-- The minified text, or what lacks its end. -/
def minify (source : String) : Except ScriptError String := (lex source).map Lexed.join

/-- The minified text, or the text itself when it cannot be read. -/
def minifyOrKeep (source : String) : String :=
  match minify source with
  | .ok text => text
  | .error _ => source

end LiveMarkup.Script

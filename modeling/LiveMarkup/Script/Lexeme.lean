/-!
# Lexemes of script text

Scanners for the parts of a script: blanks and comments, words, numbers, strings, templates with the
code nested in them, and regular expressions. A scanner splits what it reads off the front of its
input, so what it reads followed by what it leaves is the input (`chunk_append`). `chunk` reads the
next part of a nonempty text.
-/

set_option autoImplicit false

namespace LiveMarkup.Script

/-- The kinds of tokens. -/
inductive TokenKind where
  | word
  | number
  | punct
  | str
  | template
  | regex
deriving DecidableEq

/-- What may lack its end. -/
inductive Unterminated where
  | string
  | template
  | comment
  | regex
deriving DecidableEq

/-- What the next part of a text is: between tokens, or a token. -/
inductive ChunkKind where
  | gap
  | token (kind : TokenKind)
deriving DecidableEq

/-- What a scanner has read, and what it leaves. -/
structure Split where
  read : List Char
  rest : List Char
deriving DecidableEq

/-- The split with more characters in front of what was read. -/
def Split.prepend (cs : List Char) (split : Split) : Split := ⟨cs ++ split.read, split.rest⟩

/-- The characters that end a line. -/
def isLineBreak (c : Char) : Bool := c == '\n' || c == '\r'

/-- ASCII white space. -/
def isBlank (c : Char) : Bool := c == ' ' || c == '\t' || c == '\x0c' || isLineBreak c

/-- The characters of words; every character outside ASCII is one. -/
def isWordChar (c : Char) : Bool :=
  c.isAlphanum || c == '_' || c == '$' || c == '\\' || 0x80 ≤ c.toNat

/-- The longest front of a text whose characters satisfy `p`. -/
def spanSplit (p : Char → Bool) (cs : List Char) : Split := ⟨cs.takeWhile p, cs.dropWhile p⟩

/-- Reads to the end of a block comment, behind its opener. -/
def blockTail : List Char → Option Split
  | [] => none
  | c :: rest =>
    if c = '*' ∧ rest.head? = some '/' then some ⟨['*', '/'], rest.tail⟩
    else (blockTail rest).map (Split.prepend [c])

/-- Reads to the end of a string, behind its opening quote. A backslash takes the next character
along; a line break otherwise ends the line before the string. -/
def stringTail (quote : Char) : List Char → Option Split
  | [] => none
  | c :: rest =>
    if c = '\\' then
      match rest with
      | [] => none
      | d :: more => (stringTail quote more).map (Split.prepend [c, d])
    else if isLineBreak c then none
    else if c = quote then some ⟨[c], rest⟩
    else (stringTail quote rest).map (Split.prepend [c])

/-- Reads to the closing slash of a regular expression, behind the opening one. In a class in
brackets a slash is an ordinary character. -/
def regexTail (inClass : Bool) : List Char → Option Split
  | [] => none
  | c :: rest =>
    if isLineBreak c then none
    else if c = '\\' then
      match rest with
      | [] => none
      | d :: more => (regexTail inClass more).map (Split.prepend [c, d])
    else if c = '[' then (regexTail true rest).map (Split.prepend [c])
    else if c = ']' then (regexTail false rest).map (Split.prepend [c])
    else if c = '/' ∧ !inClass then some ⟨[c], rest⟩
    else (regexTail inClass rest).map (Split.prepend [c])

/-- Where a scanner stands in a template: in its text, or in nested code with `depth` braces open
inside the substitution. -/
inductive TemplatePart where
  | text
  | textEscape
  | textDollar
  | code (depth : Nat)
  | codeSlash (depth : Nat)
  | quoted (quote : Char) (depth : Nat)
  | quotedEscape (quote : Char) (depth : Nat)
  | block (depth : Nat)
  | blockStar (depth : Nat)
  | line (depth : Nat)
deriving DecidableEq

/-- A scanner within a template: its place in the innermost one, and the brace depths of the code
around each template, innermost first. -/
structure TemplateState where
  part : TemplatePart
  outer : List Nat
deriving DecidableEq

/-- What one character does to a scanner within a template. -/
inductive TemplateStep where
  | stay (state : TemplateState)
  | done
  | broken

/-- Reads a character of template text. -/
def stepTemplateText (outer : List Nat) (c : Char) : TemplateStep :=
  if c = '\\' then .stay ⟨.textEscape, outer⟩
  else if c = '$' then .stay ⟨.textDollar, outer⟩
  else if c = '\x60' then
    match outer with
    | [] => .done
    | depth :: outer => .stay ⟨.code depth, outer⟩
  else .stay ⟨.text, outer⟩

/-- Reads a character of nested code. -/
def stepTemplateCode (depth : Nat) (outer : List Nat) (c : Char) : TemplateStep :=
  if c = '\x7b' then .stay ⟨.code (depth + 1), outer⟩
  else if c = '\x7d' then
    match depth with
    | 0 => .stay ⟨.text, outer⟩
    | depth + 1 => .stay ⟨.code depth, outer⟩
  else if c = '"' ∨ c = '\'' then .stay ⟨.quoted c depth, outer⟩
  else if c = '\x60' then .stay ⟨.text, depth :: outer⟩
  else if c = '/' then .stay ⟨.codeSlash depth, outer⟩
  else .stay ⟨.code depth, outer⟩

/-- Reads a character within a template. -/
def stepTemplate (state : TemplateState) (c : Char) : TemplateStep :=
  let inside (part : TemplatePart) : TemplateStep := .stay ⟨part, state.outer⟩
  match state.part with
  | .text => stepTemplateText state.outer c
  | .textEscape => inside .text
  | .textDollar => if c = '\x7b' then inside (.code 0) else stepTemplateText state.outer c
  | .code depth => stepTemplateCode depth state.outer c
  | .codeSlash depth =>
    if c = '*' then inside (.block depth)
    else if c = '/' then inside (.line depth)
    else stepTemplateCode depth state.outer c
  | .quoted quote depth =>
    if c = '\\' then inside (.quotedEscape quote depth)
    else if isLineBreak c then .broken
    else if c = quote then inside (.code depth)
    else inside (.quoted quote depth)
  | .quotedEscape quote depth => inside (.quoted quote depth)
  | .block depth => inside (if c = '*' then .blockStar depth else .block depth)
  | .blockStar depth =>
    inside (if c = '/' then .code depth else if c = '*' then .blockStar depth else .block depth)
  | .line depth => inside (if c = '\n' then .code depth else .line depth)

/-- Reads to the end of the outermost template that the scanner is in. -/
def templateTail (state : TemplateState) : List Char → Option Split
  | [] => none
  | c :: rest =>
    match stepTemplate state c with
    | .stay next => (templateTail next rest).map (Split.prepend [c])
    | .done => some ⟨[c], rest⟩
    | .broken => none

/-- Reads on in a number behind its character `previous`; a sign continues it behind an exponent
mark, unless the number has a radix letter. -/
def numberTail (radix : Bool) (previous : Char) : List Char → Split
  | [] => ⟨[], []⟩
  | c :: rest =>
    let signed := !radix && (c == '+' || c == '-') && (previous == 'e' || previous == 'E')
    if c.isAlphanum || c == '_' || c == '.' || signed then
      (numberTail radix c rest).prepend [c]
    else ⟨[], c :: rest⟩

/-- Whether a number that starts with `c` is written in another base than ten. -/
def hasRadix (c : Char) (rest : List Char) : Bool :=
  c == '0' && rest.head?.any fun d => ['x', 'X', 'b', 'B', 'o', 'O'].contains d

/-- The next part of a text, whose first character is `c`. A slash starts a regular expression only
where `regexAllowed` says so. -/
def chunk (regexAllowed : Bool) (c : Char) (rest : List Char) :
    Except Unterminated (ChunkKind × Split) :=
  let token (kind : TokenKind) (split : Split) : ChunkKind × Split :=
    (.token kind, split.prepend [c])
  if isBlank c then .ok (.gap, ⟨[c], rest⟩)
  else if c = '/' ∧ rest.head? = some '/' then
    .ok (.gap, (spanSplit (fun d => !isLineBreak d) rest).prepend [c])
  else if c = '/' ∧ rest.head? = some '*' then
    match blockTail rest.tail with
    | some split => .ok (.gap, split.prepend ['/', '*'])
    | none => .error .comment
  else if c = '/' ∧ regexAllowed then
    match regexTail false rest with
    | some split => .ok (token .regex ((spanSplit Char.isAlpha split.rest).prepend split.read))
    | none => .error .regex
  else if c = '"' ∨ c = '\'' then
    match stringTail c rest with
    | some split => .ok (token .str split)
    | none => .error .string
  else if c = '\x60' then
    match templateTail ⟨.text, []⟩ rest with
    | some split => .ok (token .template split)
    | none => .error .template
  else if c.isDigit || (c == '.' && rest.head?.any Char.isDigit) then
    .ok (token .number (numberTail (hasRadix c rest) c rest))
  else if isWordChar c then .ok (token .word (spanSplit isWordChar rest))
  else .ok (token .punct ⟨[], rest⟩)

/-! ## Nothing is lost -/

@[simp] theorem Split.prepend_append (cs : List Char) (split : Split) :
    (split.prepend cs).read ++ (split.prepend cs).rest = cs ++ (split.read ++ split.rest) := by
  simp [Split.prepend]

theorem spanSplit_append (p : Char → Bool) (cs : List Char) :
    (spanSplit p cs).read ++ (spanSplit p cs).rest = cs := List.takeWhile_append_dropWhile

theorem blockTail_append {cs : List Char} {split : Split} (h : blockTail cs = some split) :
    split.read ++ split.rest = cs := by
  induction cs generalizing split with
  | nil => simp [blockTail] at h
  | cons c rest ih =>
    unfold blockTail at h
    split at h
    · rename_i found
      obtain ⟨rfl, next⟩ := found
      cases rest with
      | nil => simp at next
      | cons d more => simp at next; subst next; simp at h; subst h; simp
    · obtain ⟨inner, found, rfl⟩ := Option.map_eq_some_iff.1 h
      simp [ih found]

theorem stringTail_append {quote : Char} {cs : List Char} {split : Split}
    (h : stringTail quote cs = some split) : split.read ++ split.rest = cs := by
  fun_induction stringTail quote cs generalizing split with
  | case1 => simp at h
  | case2 => simp at h
  | case3 d more ih =>
    obtain ⟨inner, found, rfl⟩ := Option.map_eq_some_iff.1 h
    simp [ih found]
  | case4 => simp at h
  | case5 => simp at h; subst h; simp
  | case6 c rest _ _ _ ih =>
    obtain ⟨inner, found, rfl⟩ := Option.map_eq_some_iff.1 h
    simp [ih found]

theorem regexTail_append {inClass : Bool} {cs : List Char} {split : Split}
    (h : regexTail inClass cs = some split) : split.read ++ split.rest = cs := by
  fun_induction regexTail inClass cs generalizing split
  all_goals first
    | contradiction
    | (obtain ⟨inner, found, rfl⟩ := Option.map_eq_some_iff.1 h; simp_all)
    | (simp at h; subst h; simp)

theorem templateTail_append {state : TemplateState} {cs : List Char} {split : Split}
    (h : templateTail state cs = some split) : split.read ++ split.rest = cs := by
  induction cs generalizing state split with
  | nil => simp [templateTail] at h
  | cons c rest ih =>
    unfold templateTail at h
    split at h
    · obtain ⟨inner, found, rfl⟩ := Option.map_eq_some_iff.1 h
      simp [ih found]
    · simp at h; subst h; simp
    · simp at h

theorem numberTail_append (radix : Bool) (previous : Char) (cs : List Char) :
    (numberTail radix previous cs).read ++ (numberTail radix previous cs).rest = cs := by
  induction cs generalizing previous with
  | nil => rfl
  | cons c rest ih =>
    unfold numberTail
    dsimp only
    split
    · simp [ih]
    · rfl

/-- The next part of a text and what follows it make up the text, and the part is not empty. -/
theorem chunk_append {regexAllowed : Bool} {c : Char} {rest : List Char} {kind : ChunkKind}
    {split : Split} (h : chunk regexAllowed c rest = .ok (kind, split)) :
    split.read ++ split.rest = c :: rest ∧ split.read ≠ [] := by
  unfold chunk at h
  dsimp only at h
  split at h
  · simp at h; obtain ⟨-, rfl⟩ := h; simp
  split at h
  · simp at h; obtain ⟨-, rfl⟩ := h; simp [Split.prepend, spanSplit]
  split at h
  · rename_i opener
    obtain ⟨rfl, next⟩ := opener
    split at h
    · rename_i found
      simp at h; obtain ⟨-, rfl⟩ := h
      cases rest with
      | nil => simp at next
      | cons d more =>
        simp at next; subst next
        exact ⟨by simpa using blockTail_append found, by simp [Split.prepend]⟩
    · simp at h
  split at h
  · split at h
    · rename_i found
      simp at h; obtain ⟨-, rfl⟩ := h
      exact ⟨by simpa [spanSplit_append] using regexTail_append found, by simp [Split.prepend]⟩
    · simp at h
  split at h
  · split at h
    · rename_i found
      simp at h; obtain ⟨-, rfl⟩ := h
      exact ⟨by simpa using stringTail_append found, by simp [Split.prepend]⟩
    · simp at h
  split at h
  · split at h
    · rename_i found
      simp at h; obtain ⟨-, rfl⟩ := h
      exact ⟨by simpa using templateTail_append found, by simp [Split.prepend]⟩
    · simp at h
  split at h
  · simp at h; obtain ⟨-, rfl⟩ := h
    exact ⟨by simp [numberTail_append], by simp [Split.prepend]⟩
  split at h
  · simp at h; obtain ⟨-, rfl⟩ := h
    exact ⟨by simp [spanSplit_append], by simp [Split.prepend]⟩
  · simp at h; obtain ⟨-, rfl⟩ := h; simp [Split.prepend]

/-- What follows the next part of a text is shorter than the text. -/
theorem chunk_rest_lt {regexAllowed : Bool} {c : Char} {rest : List Char} {kind : ChunkKind}
    {split : Split} (h : chunk regexAllowed c rest = .ok (kind, split)) :
    split.rest.length < (c :: rest).length := by
  obtain ⟨append, nonempty⟩ := chunk_append h
  rw [← append, List.length_append]
  have := List.length_pos_iff.2 nonempty
  omega

end LiveMarkup.Script

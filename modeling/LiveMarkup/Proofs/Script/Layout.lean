import LiveMarkup.Proofs.Script.Literals
import LiveMarkup.Proofs.Script.Pieces

/-!
# The tokens of printed scripts

A printed script is laid out in pieces (`stmtsPieces`): each name, keyword and literal of the tree is
one token, in the order of the tree, with the signs and blanks of the constructs between them. The
text is read as exactly these tokens if and only if no member is taken of a number
(`tokenize_print_iff`). A number is the only token that goes on with what the printer writes behind
it, since the point of a member is not set off from it, and numbers are not put in parentheses.
-/

set_option autoImplicit false

namespace LiveMarkup.Script

/-! ## Trees -/

/-- Whether an expression is printed as a number. -/
def Expr.isNumeral : Expr → Bool
  | .num (.finite _) => true
  | .json (.number _) => true
  | _ => false

/-- Whether an expression is no member of a number. -/
def Expr.sparesNumbers : Expr → Bool
  | .member target _ => !target.isNumeral
  | _ => true

mutual

/-- Whether an expression and all expressions in it satisfy `p`. -/
def Expr.every (p : Expr → Bool) : Expr → Bool
  | .member target name => p (.member target name) && target.every p
  | .index target key => p (.index target key) && (target.every p && key.every p)
  | .call callee arguments =>
    p (.call callee arguments) && (callee.every p && exprsEvery p arguments)
  | .construct callee arguments =>
    p (.construct callee arguments) && (callee.every p && exprsEvery p arguments)
  | .arrow parameters body => p (.arrow parameters body) && stmtsEvery p body
  | .assign target value => p (.assign target value) && (target.every p && value.every p)
  | .binary left operator right =>
    p (.binary left operator right) && (left.every p && right.every p)
  | .not operand => p (.not operand) && operand.every p
  | .object fields => p (.object fields) && fieldsEvery p fields
  | .ident name => p (.ident name)
  | .this => p .this
  | .str s => p (.str s)
  | .num x => p (.num x)
  | .bool b => p (.bool b)
  | .null => p .null
  | .json value => p (.json value)

/-- Whether all expressions of a list and in it satisfy `p`. -/
def exprsEvery (p : Expr → Bool) : List Expr → Bool
  | [] => true
  | e :: rest => e.every p && exprsEvery p rest

/-- Whether all expressions in the fields of an object literal satisfy `p`. -/
def fieldsEvery (p : Expr → Bool) : List (String × Expr) → Bool
  | [] => true
  | (_, e) :: rest => e.every p && fieldsEvery p rest

/-- Whether all expressions in a statement satisfy `p`. -/
def Stmt.every (p : Expr → Bool) : Stmt → Bool
  | .expr e => e.every p
  | .const _ value => value.every p
  | .branch condition yes no =>
    condition.every p && (stmtsEvery p yes && stmtsEvery p no)
  | .return none => true
  | .return (some value) => value.every p
  | .classDef _ none methods => methodsEvery p methods
  | .classDef _ (some base) methods => base.every p && methodsEvery p methods
  | .isolated body => stmtsEvery p body

/-- Whether all expressions in statements satisfy `p`. -/
def stmtsEvery (p : Expr → Bool) : List Stmt → Bool
  | [] => true
  | stmt :: rest => stmt.every p && stmtsEvery p rest

/-- Whether all expressions in methods satisfy `p`. -/
def methodsEvery (p : Expr → Bool) : List Method → Bool
  | [] => true
  | .mk _ _ body :: rest => stmtsEvery p body && methodsEvery p rest

end

/-! ## Names, keywords and literals -/

/-- A word as a token. -/
def word (s : String) : TokenKind × List Char := (.word, s.toList)

/-- A string literal as a token. -/
def literal (s : String) : TokenKind × List Char := (.str, literalChars s)

/-- A number as a token, its sign left aside. -/
def number (s : String) : TokenKind × List Char := (.number, magnitude s.toList)

mutual

/-- The words and literals of a JSON value, in its order. -/
def jsonAtoms : Json → List (TokenKind × List Char)
  | .null => [word "null"]
  | .bool b => [word (if b then "true" else "false")]
  | .number n => [number n.text]
  | .string s => [literal s]
  | .array items => jsonItemsAtoms items
  | .object fields => jsonFieldsAtoms fields

/-- The words and literals of a list of values. -/
def jsonItemsAtoms : List Json → List (TokenKind × List Char)
  | [] => []
  | item :: rest => jsonAtoms item ++ jsonItemsAtoms rest

/-- The keys of an object's fields, each with the words and literals of its value. -/
def jsonFieldsAtoms : List (String × Json) → List (TokenKind × List Char)
  | [] => []
  | (key, value) :: rest => literal key :: (jsonAtoms value ++ jsonFieldsAtoms rest)

end

/-- The words of names. -/
def nameAtoms (names : List Identifier) : List (TokenKind × List Char) :=
  names.map fun name => word name.name

mutual

/-- The names, keywords and literals of an expression, in its order. -/
def exprAtoms : Expr → List (TokenKind × List Char)
  | .ident name => [word name.name]
  | .this => [word "this"]
  | .str s => [literal s]
  | .num (.finite x) => [number (numberLiteral (.finite x))]
  | .num _ => [word "null"]
  | .bool b => [word (if b then "true" else "false")]
  | .null => [word "null"]
  | .json value => jsonAtoms value
  | .member target name => exprAtoms target ++ [word name.name]
  | .index target key => exprAtoms target ++ exprAtoms key
  | .call callee arguments => exprAtoms callee ++ exprsAtoms arguments
  | .construct callee arguments => word "new" :: (exprAtoms callee ++ exprsAtoms arguments)
  | .arrow parameters body => nameAtoms parameters ++ stmtsAtoms body
  | .assign target value => exprAtoms target ++ exprAtoms value
  | .binary left _ right => exprAtoms left ++ exprAtoms right
  | .not operand => exprAtoms operand
  | .object fields => fieldsAtoms fields

/-- The names, keywords and literals of each expression. -/
def exprsAtoms : List Expr → List (TokenKind × List Char)
  | [] => []
  | e :: rest => exprAtoms e ++ exprsAtoms rest

/-- The keys of an object literal, each with the names, keywords and literals of its value. -/
def fieldsAtoms : List (String × Expr) → List (TokenKind × List Char)
  | [] => []
  | (key, e) :: rest => literal key :: (exprAtoms e ++ fieldsAtoms rest)

/-- The names, keywords and literals of a statement, in its order. -/
def stmtAtoms : Stmt → List (TokenKind × List Char)
  | .expr e => exprAtoms e
  | .const name value => word "const" :: word name.name :: exprAtoms value
  | .branch condition yes no =>
    word "if" :: (exprAtoms condition ++ (stmtsAtoms yes ++
      (if no.isEmpty then [] else word "else" :: stmtsAtoms no)))
  | .return none => [word "return"]
  | .return (some value) => word "return" :: exprAtoms value
  | .classDef name none methods => word "class" :: word name.name :: methodsAtoms methods
  | .classDef name (some base) methods =>
    word "class" :: word name.name :: word "extends" :: (exprAtoms base ++ methodsAtoms methods)
  | .isolated body => word "function" :: literal "use strict" :: stmtsAtoms body

/-- The names, keywords and literals of statements. -/
def stmtsAtoms : List Stmt → List (TokenKind × List Char)
  | [] => []
  | stmt :: rest => stmtAtoms stmt ++ stmtsAtoms rest

/-- The names, keywords and literals of methods. -/
def methodsAtoms : List Method → List (TokenKind × List Char)
  | [] => []
  | .mk name parameters body :: rest =>
    word name.name :: (nameAtoms parameters ++ (stmtsAtoms body ++ methodsAtoms rest))

end

/-! ## Pieces of printed texts -/

/-- A token as a piece. -/
def pieceOf (token : TokenKind × List Char) : Piece := .token token.1 token.2

/-- Pieces with a comma and a blank between them. -/
def separated (items : List (List Piece)) : List Piece := (marks [',', ' ']).intercalate items

/-- Pieces in parentheses, if they need them. -/
def parenthesisedPieces (needed : Bool) (pieces : List Piece) : List Piece :=
  if needed then marks ['('] ++ pieces ++ marks [')'] else pieces

/-- Parameters in parentheses. -/
def parameterPieces (parameters : List Identifier) : List Piece :=
  marks ['('] ++ separated (parameters.map fun name => [pieceOf (word name.name)]) ++ marks [')']

/-- The point and the name of a member. -/
def memberPieces (name : Identifier) : List Piece := [.token .punct ['.'], pieceOf (word name.name)]

/-- A line at a nesting depth. -/
def linePieces (depth : Nat) (pieces : List Piece) : List Piece :=
  marks (indent depth) ++ pieces ++ marks ['\n']

mutual

/-- The pieces of a JSON literal. -/
def jsonPieces : Json → List Piece
  | .null => [pieceOf (word "null")]
  | .bool b => [pieceOf (word (if b then "true" else "false"))]
  | .number n => numberPieces n.text.toList
  | .string s => [pieceOf (literal s)]
  | .array items => marks ['['] ++ separated (jsonItemsPieces items) ++ marks [']']
  | .object fields => marks ['\x7b'] ++ separated (jsonFieldsPieces fields) ++ marks ['\x7d']

/-- The pieces of each value. -/
def jsonItemsPieces : List Json → List (List Piece)
  | [] => []
  | item :: rest => jsonPieces item :: jsonItemsPieces rest

/-- The pieces of each key and value. -/
def jsonFieldsPieces : List (String × Json) → List (List Piece)
  | [] => []
  | (key, value) :: rest =>
    ([pieceOf (literal key)] ++ (marks [':', ' '] ++ jsonPieces value)) :: jsonFieldsPieces rest

end

mutual

/-- The pieces of an expression that stands at a nesting depth. -/
def exprPieces (depth : Nat) : Expr → List Piece
  | .ident name => [pieceOf (word name.name)]
  | .this => [pieceOf (word "this")]
  | .str s => [pieceOf (literal s)]
  | .num (.finite x) => numberPieces (numberLiteral (.finite x)).toList
  | .num _ => [pieceOf (word "null")]
  | .bool b => [pieceOf (word (if b then "true" else "false"))]
  | .null => [pieceOf (word "null")]
  | .json value => jsonPieces value
  | .member target name =>
    parenthesisedPieces target.isCompound (exprPieces depth target) ++ memberPieces name
  | .index target key =>
    parenthesisedPieces target.isCompound (exprPieces depth target) ++
      (marks ['['] ++ exprPieces depth key) ++ marks [']']
  | .call callee arguments =>
    parenthesisedPieces callee.isCompound (exprPieces depth callee) ++
      (marks ['('] ++ separated (exprsPieces depth arguments)) ++ marks [')']
  | .construct callee arguments =>
    [pieceOf (word "new")] ++ (marks [' '] ++
      parenthesisedPieces callee.isCompound (exprPieces depth callee)) ++
      (marks ['('] ++ separated (exprsPieces depth arguments)) ++ marks [')']
  | .arrow parameters body =>
    parameterPieces parameters ++ (marks " => \x7b\n".toList ++ stmtsPieces (depth + 1) body) ++
      marks (indent depth ++ ['\x7d'])
  | .assign target value =>
    exprPieces depth target ++ (marks " = ".toList ++ exprPieces depth value)
  | .binary left operator right =>
    parenthesisedPieces left.isCompound (exprPieces depth left) ++
      (marks (' ' :: (operator.text.toList ++ [' '])) ++
        parenthesisedPieces right.isCompound (exprPieces depth right))
  | .not operand =>
    marks ['!'] ++ parenthesisedPieces operand.isCompound (exprPieces depth operand)
  | .object fields => marks ['\x7b'] ++ separated (fieldsPieces depth fields) ++ marks ['\x7d']

/-- The pieces of each expression. -/
def exprsPieces (depth : Nat) : List Expr → List (List Piece)
  | [] => []
  | e :: rest => exprPieces depth e :: exprsPieces depth rest

/-- The pieces of the fields of an object literal. -/
def fieldsPieces (depth : Nat) : List (String × Expr) → List (List Piece)
  | [] => []
  | (key, e) :: rest =>
    ([pieceOf (literal key)] ++ (marks [':', ' '] ++ exprPieces depth e)) ::
      fieldsPieces depth rest

/-- The pieces of the lines of a statement. -/
def stmtPieces (depth : Nat) : Stmt → List Piece
  | .expr e => linePieces depth (exprPieces depth e ++ marks [';'])
  | .const name value =>
    linePieces depth ([pieceOf (word "const")] ++ (marks [' '] ++ ([pieceOf (word name.name)] ++
      (marks " = ".toList ++ (exprPieces depth value ++ marks [';'])))))
  | .branch condition yes no =>
    linePieces depth ([pieceOf (word "if")] ++ (marks " (".toList ++
      (exprPieces depth condition ++ marks ") \x7b".toList))) ++ (stmtsPieces (depth + 1) yes ++
      ((if no.isEmpty then []
        else linePieces depth (marks "\x7d ".toList ++ ([pieceOf (word "else")] ++
          marks " \x7b".toList)) ++ stmtsPieces (depth + 1) no) ++
        linePieces depth (marks ['\x7d'])))
  | .return none => linePieces depth ([pieceOf (word "return")] ++ marks [';'])
  | .return (some value) =>
    linePieces depth ([pieceOf (word "return")] ++ (marks [' '] ++
      (exprPieces depth value ++ marks [';'])))
  | .classDef name none methods =>
    linePieces depth ([pieceOf (word "class")] ++ (marks [' '] ++ ([pieceOf (word name.name)] ++
      marks " \x7b".toList))) ++ (methodsPieces (depth + 1) methods ++
      linePieces depth (marks ['\x7d']))
  | .classDef name (some base) methods =>
    linePieces depth ([pieceOf (word "class")] ++ (marks [' '] ++ ([pieceOf (word name.name)] ++
      (marks [' '] ++ ([pieceOf (word "extends")] ++ (marks [' '] ++
        (exprPieces depth base ++ marks " \x7b".toList))))))) ++
      (methodsPieces (depth + 1) methods ++ linePieces depth (marks ['\x7d']))
  | .isolated body =>
    linePieces depth (marks ['('] ++ ([pieceOf (word "function")] ++ marks " () \x7b".toList)) ++
      (linePieces (depth + 1) ([pieceOf (literal "use strict")] ++ marks [';']) ++
        (stmtsPieces (depth + 1) body ++ linePieces depth (marks "\x7d)();".toList)))

/-- The pieces of the lines of statements. -/
def stmtsPieces (depth : Nat) : List Stmt → List Piece
  | [] => []
  | stmt :: rest => stmtPieces depth stmt ++ stmtsPieces depth rest

/-- The pieces of the lines of methods. -/
def methodsPieces (depth : Nat) : List Method → List Piece
  | [] => []
  | .mk name parameters body :: rest =>
    linePieces depth ([pieceOf (word name.name)] ++ (parameterPieces parameters ++
      marks " \x7b".toList)) ++ (stmtsPieces (depth + 1) body ++
      (linePieces depth (marks ['\x7d']) ++ methodsPieces depth rest))

end

/-! ## Parts of printed texts -/

theorem lays_name (name : Identifier) :
    Lays [pieceOf (word name.name)] name.name.toList [word name.name] True :=
  lays_word (isPlainWord_name name)

theorem lays_keyword (s : String) (hs : isPlainWord s.toList = true) :
    Lays [pieceOf (word s)] s.toList [word s] True :=
  lays_word hs

theorem lays_bool (b : Bool) :
    Lays [pieceOf (word (if b then "true" else "false"))] (if b then "true" else "false").toList
      [word (if b then "true" else "false")] True := by
  cases b with
  | true => exact lays_keyword "true" (by decide)
  | false => exact lays_keyword "false" (by decide)

/-- Texts are laid out each on its own. -/
inductive LaysEach : List (List Piece) → List (List Char) → List (TokenKind × List Char) → Prop →
    Prop
  | nil : LaysEach [] [] [] True
  | cons {pieces : List Piece} {cs : List Char} {items : List (List Piece)}
      {texts : List (List Char)} {atoms others : List (TokenKind × List Char)} {fits fit : Prop}
      (h : Lays pieces cs atoms fits) (hmore : LaysEach items texts others fit) :
      LaysEach (pieces :: items) (cs :: texts) (atoms ++ others) (fits ∧ fit)

/-- With commas between them they are laid out together. -/
theorem LaysEach.separated {items : List (List Piece)} {texts : List (List Char)}
    {atoms : List (TokenKind × List Char)} {fits : Prop} (h : LaysEach items texts atoms fits) :
    Lays (separated items) (commaSeparated texts) atoms fits := by
  rw [commaSeparated_eq, Script.separated]
  induction h with
  | nil => exact lays_nil
  | @cons pieces cs items texts atoms others fits fit h hmore ih =>
    -- A comma stands in front of a second text only.
    cases hmore with
    | nil =>
      rw [List.intercalate_singleton, List.intercalate_singleton]
      exact h.congr rfl (List.append_nil atoms).symm (and_true fits).symm.to_iff
    | cons hsecond hrest =>
      rw [List.intercalate_cons_cons, List.intercalate_cons_cons, List.append_assoc,
        List.append_assoc]
      exact h.between ih ',' [' '] rfl (by decide)

theorem LaysEach.congr {items : List (List Piece)} {texts : List (List Char)}
    {atoms : List (TokenKind × List Char)} {fits fits' : Prop} (h : LaysEach items texts atoms fits)
    (hfits : fits ↔ fits') : LaysEach items texts atoms fits' :=
  propext hfits ▸ h

theorem laysEach_names (names : List Identifier) :
    LaysEach (names.map fun name => [pieceOf (word name.name)])
      (names.map fun name => name.name.toList) (nameAtoms names) True := by
  induction names with
  | nil => exact .nil
  | cons name rest ih =>
    have hboth := LaysEach.cons (lays_name name) ih
    rwa [and_true] at hboth

/-- Between two signs anything may be laid out. -/
theorem Lays.within {pieces : List Piece} {cs : List Char} {atoms : List (TokenKind × List Char)}
    {fits : Prop} (h : Lays pieces cs atoms fits) (opening closing : List Char)
    (hopening : opening.all isSignOrBlank = true) (hclosing : closing.all isSignOrBlank = true)
    (hplus : closing.head? ≠ some '+') :
    Lays (marks opening ++ pieces ++ marks closing) (opening ++ cs ++ closing) atoms fits :=
  (h.behind opening hopening).before closing hclosing hplus

theorem lays_parameters (parameters : List Identifier) :
    Lays (parameterPieces parameters) (parameterChars parameters) (nameAtoms parameters) True :=
  (laysEach_names parameters).separated.within ['('] [')'] rfl rfl (by decide)

theorem Lays.parenthesised {pieces : List Piece} {cs : List Char}
    {atoms : List (TokenKind × List Char)} {fits : Prop} (h : Lays pieces cs atoms fits)
    (needed : Bool) :
    Lays (parenthesisedPieces needed pieces) (parenthesised needed cs) atoms fits := by
  cases needed with
  | true => exact h.within ['('] [')'] rfl rfl (by decide)
  | false => exact h

/-! ## JSON literals -/

mutual

theorem lays_json : (value : Json) → Lays (jsonPieces value) (jsonChars value) (jsonAtoms value) True
  | .null => lays_keyword "null" (by decide)
  | .bool b => lays_bool b
  | .number n => lays_numberPieces n.signed_text
  | .string s => lays_literal s
  | .array items => by
    rw [jsonPieces, jsonChars, jsonAtoms]
    exact (laysEach_jsonItems items).separated.within ['['] [']'] rfl rfl (by decide)
  | .object fields => by
    rw [jsonPieces, jsonChars, jsonAtoms]
    exact (laysEach_jsonFields fields).separated.within ['\x7b'] ['\x7d'] rfl rfl (by decide)

theorem laysEach_jsonItems : (items : List Json) →
    LaysEach (jsonItemsPieces items) (jsonItems items) (jsonItemsAtoms items) True
  | [] => .nil
  | item :: rest => by
    have hboth := LaysEach.cons (lays_json item) (laysEach_jsonItems rest)
    rwa [and_true] at hboth

theorem laysEach_jsonFields : (fields : List (String × Json)) →
    LaysEach (jsonFieldsPieces fields) (jsonFields fields) (jsonFieldsAtoms fields) True
  | [] => .nil
  | (key, value) :: rest => by
    have hfield := (lays_literal key).between (lays_json value) ':' [' '] rfl (by decide)
    have hboth := LaysEach.cons hfield (laysEach_jsonFields rest)
    rwa [and_true, and_true] at hboth

end

/-! ## Members -/

/-- No digit comes behind the point, so both are tokens of their own. -/
theorem lays_memberPieces (name : Identifier) :
    Lays (memberPieces name) ('.' :: name.name.toList) [word name.name] True := by
  have hname := lays_name name
  have hpoint : (Piece.token .punct ['.']).Sound :=
    ⟨'.', [], rfl, by decide, fun allowed =>
      .punct rfl rfl rfl (by decide) fun h => absurd h (by decide)⟩
  have hends : (Piece.token .punct ['.']).EndsBefore name.name.toList := by
    have hword := isPlainWord_name name
    intro c hc
    refine (absorbs_punct '.' c).2 ⟨fun _ => ?_, fun h => absurd h (by decide)⟩
    simp only [isPlainWord, Option.mem_def.1 hc, Option.any_some, Bool.and_eq_true,
      Bool.not_eq_true'] at hword
    exact hword.1
  exact ⟨congrArg ('.' :: ·) hname.spells, List.forall_mem_cons.2 ⟨hpoint, hname.sound⟩, rfl,
    iff_of_true (List.isChain_cons_cons.2 ⟨hends, clear_singleton _⟩) trivial⟩

/-- There is a last piece, and a point behind it is read apart from it exactly if `fits`. -/
def PartsPoint (pieces : List Piece) (fits : Prop) : Prop :=
  ∃ front piece, pieces = front ++ [piece] ∧ (piece.EndsBefore ['.'] ↔ fits)

section PartsPoint

variable {fits : Prop}

theorem partsPoint_word (s : String) (hfits : fits) : PartsPoint [pieceOf (word s)] fits :=
  ⟨[], _, rfl, iff_of_true ((stopsAt_cons _ _ _).2 rfl) hfits⟩

theorem partsPoint_literal (s : String) (hfits : fits) : PartsPoint [pieceOf (literal s)] fits :=
  ⟨[], _, rfl, iff_of_true ((stopsAt_cons _ _ _).2 rfl) hfits⟩

theorem partsPoint_behind_mark {c : Char} (hc : isSignOrBlank c = true) (pieces : List Piece)
    (hfits : fits) : PartsPoint (pieces ++ marks [c]) fits :=
  ⟨pieces, mark c, rfl, iff_of_true (endsBefore_mark hc _) hfits⟩

/-- A point behind a number is read as a part of it. -/
theorem partsPoint_number {cs : List Char} (h : Signed cs) (hfits : ¬fits) :
    PartsPoint (numberPieces cs) fits := by
  obtain ⟨c, rest, hmagnitude, -⟩ := tokenRead_numeral (numeral_magnitude h)
  refine ⟨_, .token .number (magnitude cs), rfl, iff_of_false ?_ hfits⟩
  intro hends
  have hpoint := (stopsAt_cons _ _ _).1 hends
  rw [hmagnitude] at hpoint
  simp [TokenKind.absorbs, continuesNumber] at hpoint

theorem partsPoint_json (value : Json) :
    PartsPoint (jsonPieces value) ((Expr.json value).isNumeral = false) := by
  cases value with
  | null => exact partsPoint_word "null" rfl
  | bool b => exact partsPoint_word _ rfl
  | number n => exact partsPoint_number n.signed_text (by simp [Expr.isNumeral])
  | string s => exact partsPoint_literal s rfl
  | array items =>
    rw [jsonPieces]
    exact partsPoint_behind_mark rfl _ rfl
  | object fields =>
    rw [jsonPieces]
    exact partsPoint_behind_mark rfl _ rfl

theorem signed_numberLiteral (x : Finite64) : Signed (numberLiteral (.finite x)).toList := by
  unfold numberLiteral
  dsimp only
  split
  · split
    · exact signed_toString _
    · exact FloatLayout.signed_write FloatLayout.marks_plain x
  · exact FloatLayout.signed_write FloatLayout.marks_plain x

/-- Of the operands without parentheses only numbers go on with a point. -/
theorem partsPoint_expr (depth : Nat) (e : Expr) (he : e.isCompound = false) :
    PartsPoint (exprPieces depth e) (e.isNumeral = false) := by
  cases e with
  | ident name => exact partsPoint_word _ rfl
  | this => exact partsPoint_word _ rfl
  | str s => exact partsPoint_literal s rfl
  | num x =>
    cases x with
    | finite x => exact partsPoint_number (signed_numberLiteral x) (by simp [Expr.isNumeral])
    | infinite negative => exact partsPoint_word _ rfl
    | nan => exact partsPoint_word _ rfl
  | bool b => exact partsPoint_word _ rfl
  | null => exact partsPoint_word _ rfl
  | json value => exact partsPoint_json value
  | member target name =>
    rw [exprPieces, memberPieces, List.append_cons]
    exact ⟨_, pieceOf (word name.name), rfl, iff_of_true ((stopsAt_cons _ _ _).2 rfl) rfl⟩
  | index target key =>
    rw [exprPieces]
    exact partsPoint_behind_mark rfl _ rfl
  | call callee arguments =>
    rw [exprPieces]
    exact partsPoint_behind_mark rfl _ rfl
  | object fields =>
    rw [exprPieces]
    exact partsPoint_behind_mark rfl _ rfl
  | construct => cases he
  | arrow => cases he
  | assign => cases he
  | binary => cases he
  | not => cases he

/-- In parentheses nothing goes on with a point. -/
theorem partsPoint_operand (depth : Nat) (e : Expr) :
    PartsPoint (parenthesisedPieces e.isCompound (exprPieces depth e)) (e.isNumeral = false) := by
  cases he : e.isCompound with
  | false => exact partsPoint_expr depth e he
  | true =>
    have hplain : e.isNumeral = false := by
      cases e with
      | construct | arrow | assign | binary | not => rfl
      | _ => cases he
    exact partsPoint_behind_mark rfl _ hplain

end PartsPoint

/-- A member is laid out like its target if what ends the target does not go on with the point. -/
theorem Lays.member {pieces : List Piece} {cs : List Char} {atoms : List (TokenKind × List Char)}
    {fits fit : Prop} (h : Lays pieces cs atoms fits) (hpoint : PartsPoint pieces fit)
    (name : Identifier) :
    Lays (pieces ++ memberPieces name) (cs ++ '.' :: name.name.toList) (atoms ++ [word name.name])
      (fit ∧ fits) := by
  refine h.append_of_clear_iff (lays_memberPieces name) ?_
  obtain ⟨front, piece, rfl, hends⟩ := hpoint
  have hmember : Clear (memberPieces name) := (lays_memberPieces name).clear.2 trivial
  rw [← h.clear, ← hends, Clear, List.isChain_append]
  constructor
  · rintro ⟨hfront, -, hjoin⟩
    exact ⟨hjoin piece (by simp) _ rfl, hfront⟩
  · rintro ⟨hends, hfront⟩
    refine ⟨hfront, hmember, ?_⟩
    intro last hlast next hnext
    obtain rfl : piece = last := by simpa using hlast
    obtain rfl := Option.some.inj hnext
    exact hends

/-! ## Lines -/

/-- Whole lines: behind them anything may stand. -/
structure LaysLines (pieces : List Piece) (cs : List Char) (atoms : List (TokenKind × List Char))
    (fits : Prop) : Prop extends Lays pieces cs atoms fits where
  closed : Closed pieces

theorem LaysLines.congr {pieces : List Piece} {cs cs' : List Char}
    {atoms atoms' : List (TokenKind × List Char)} {fits fits' : Prop}
    (h : LaysLines pieces cs atoms fits) (hcs : cs = cs') (hatoms : atoms = atoms')
    (hfits : fits ↔ fits') : LaysLines pieces cs' atoms' fits' :=
  ⟨h.toLays.congr hcs hatoms hfits, h.closed⟩

theorem laysLines_nil : LaysLines [] [] [] True := ⟨lays_nil, closed_nil⟩

theorem LaysLines.append {pieces more : List Piece} {cs ds : List Char}
    {atoms others : List (TokenKind × List Char)} {fits fit : Prop}
    (h : LaysLines pieces cs atoms fits) (hmore : LaysLines more ds others fit) :
    LaysLines (pieces ++ more) (cs ++ ds) (atoms ++ others) (fits ∧ fit) :=
  ⟨h.toLays.append hmore.toLays (.inl h.closed), h.closed.append hmore.closed⟩

theorem all_indent (depth : Nat) : (indent depth).all isSignOrBlank = true := by
  rw [indent, List.all_replicate]
  split <;> rfl

theorem Lays.line {pieces : List Piece} {cs : List Char} {atoms : List (TokenKind × List Char)}
    {fits : Prop} (h : Lays pieces cs atoms fits) (depth : Nat) :
    LaysLines (linePieces depth pieces) (line depth cs) atoms fits := by
  refine ⟨h.within (indent depth) ['\n'] (all_indent depth) rfl (by decide), ?_⟩
  intro piece hpiece rest
  obtain rfl : mark '\n' = piece := by
    simpa [linePieces, marks] using hpiece
  exact endsBefore_mark rfl rest

theorem laysLines_marks (depth : Nat) (cs : List Char) (hcs : cs.all isSignOrBlank = true) :
    LaysLines (linePieces depth (marks cs)) (line depth cs) [] True :=
  (lays_marks hcs).line depth

theorem lays_elseLine (depth : Nat) :
    LaysLines
      (linePieces depth (marks "\x7d ".toList ++ ([pieceOf (word "else")] ++ marks " \x7b".toList)))
      (line depth "\x7d else \x7b".toList) [word "else"] True := by
  have helse := (lays_keyword "else" (by decide)).before " \x7b".toList (by decide) (by decide)
  exact (helse.behind "\x7d ".toList (by decide)).line depth

/-! ## Whole trees -/

/-- What stands in brackets behind a text is laid out on its own. -/
theorem Lays.applied {pieces more : List Piece} {cs ds : List Char}
    {atoms others : List (TokenKind × List Char)} {fits fit : Prop} (h : Lays pieces cs atoms fits)
    (hmore : Lays more ds others fit) (opening closing : Char)
    (hopening : isSign opening = true) (hclosing : isSign closing = true)
    (hplus : opening ≠ '+' ∧ closing ≠ '+') :
    Lays (pieces ++ (marks [opening] ++ more) ++ marks [closing])
      (cs ++ opening :: ds ++ [closing]) (atoms ++ others) (fits ∧ fit) :=
  (h.between hmore opening [] (by simp [isSignOrBlank, hopening]) hplus.1).before [closing]
    (by simp [isSignOrBlank, hclosing]) (by simp [hplus.2])

mutual

/-- The pieces of an expression lay out what is printed for it, if it spares numbers everywhere. -/
theorem lays_expr (depth : Nat) : (e : Expr) →
    Lays (exprPieces depth e) (exprChars depth e) (exprAtoms e) (e.every Expr.sparesNumbers = true)
  | .ident name => (lays_name name).congr rfl rfl (iff_of_true trivial rfl)
  | .this => (lays_keyword "this" (by decide)).congr rfl rfl (iff_of_true trivial rfl)
  | .str s => (lays_literal s).congr rfl rfl (iff_of_true trivial rfl)
  | .num (.finite x) =>
    (lays_numberPieces (signed_numberLiteral x)).congr rfl rfl (iff_of_true trivial rfl)
  | .num (.infinite _) => (lays_keyword "null" (by decide)).congr rfl rfl (iff_of_true trivial rfl)
  | .num .nan => (lays_keyword "null" (by decide)).congr rfl rfl (iff_of_true trivial rfl)
  | .bool b => (lays_bool b).congr rfl rfl (iff_of_true trivial rfl)
  | .null => (lays_keyword "null" (by decide)).congr rfl rfl (iff_of_true trivial rfl)
  | .json value => (lays_json value).congr rfl rfl (iff_of_true trivial rfl)
  | .member target name => by
    have htarget := (lays_expr depth target).parenthesised target.isCompound
    -- The only construct whose sign may be read into what stands before it.
    refine (htarget.member (partsPoint_operand depth target) name).congr rfl rfl ?_
    simp [Expr.every, Expr.sparesNumbers]
  | .index target key => by
    have htarget := (lays_expr depth target).parenthesised target.isCompound
    refine (htarget.applied (lays_expr depth key) '[' ']' rfl rfl (by decide)).congr rfl rfl ?_
    simp [Expr.every, Expr.sparesNumbers]
  | .call callee arguments => by
    have hcallee := (lays_expr depth callee).parenthesised callee.isCompound
    have harguments := (laysEach_exprs depth arguments).separated
    refine (hcallee.applied harguments '(' ')' rfl rfl (by decide)).congr rfl rfl ?_
    simp [Expr.every, Expr.sparesNumbers]
  | .construct callee arguments => by
    have hcallee := (lays_expr depth callee).parenthesised callee.isCompound
    have harguments := (laysEach_exprs depth arguments).separated
    have hnew := (lays_keyword "new" (by decide)).between hcallee ' ' [] rfl (by decide)
    refine (hnew.applied harguments '(' ')' rfl rfl (by decide)).congr ?_ rfl ?_
    · rfl
    · simp [Expr.every, Expr.sparesNumbers]
  | .arrow parameters body => by
    have hbody := (lays_parameters parameters).between (lays_stmts (depth + 1) body).toLays ' '
      ['=', '>', ' ', '\x7b', '\n'] (by decide) (by decide)
    -- The lines of the body are whole, so the brace behind them is read on its own.
    have hsigns : (indent depth ++ ['\x7d']).all isSignOrBlank = true := by
      rw [List.all_append, all_indent]
      rfl
    refine (hbody.before (indent depth ++ ['\x7d']) hsigns ?_).congr ?_ rfl ?_
    · cases depth with
      | zero => decide
      | succ depth => simp [indent, Nat.mul_succ, List.replicate_succ]
    · simp [exprChars]
    · simp [Expr.every, Expr.sparesNumbers]
  | .assign target value => by
    have hboth := (lays_expr depth target).between (lays_expr depth value) ' ' ['=', ' '] rfl
      (by decide)
    refine hboth.congr ?_ rfl ?_
    · simp [exprChars]
    · simp [Expr.every, Expr.sparesNumbers]
  | .binary left operator right => by
    have hleft := (lays_expr depth left).parenthesised left.isCompound
    have hright := (lays_expr depth right).parenthesised right.isCompound
    -- A sum has a blank in front of its sign, so an exponent mark does not take the sign.
    have hsigns : (' ' :: (operator.text.toList ++ [' '])).all isSignOrBlank = true := by
      cases operator <;> decide
    refine (hleft.between hright ' ' _ hsigns (by decide)).congr ?_ rfl ?_
    · simp [exprChars]
    · simp [Expr.every, Expr.sparesNumbers]
  | .not operand => by
    have hoperand := (lays_expr depth operand).parenthesised operand.isCompound
    refine (hoperand.behind ['!'] rfl).congr rfl rfl ?_
    simp [Expr.every, Expr.sparesNumbers]
  | .object fields => by
    have hfields := (laysEach_fields depth fields).separated
    refine (hfields.within ['\x7b'] ['\x7d'] rfl rfl (by decide)).congr rfl rfl ?_
    simp [Expr.every, Expr.sparesNumbers]

theorem laysEach_exprs (depth : Nat) : (es : List Expr) →
    LaysEach (exprsPieces depth es) (exprsChars depth es) (exprsAtoms es)
      (exprsEvery Expr.sparesNumbers es = true)
  | [] => LaysEach.nil.congr (iff_of_true trivial rfl)
  | e :: rest => by
    refine (LaysEach.cons (lays_expr depth e) (laysEach_exprs depth rest)).congr ?_
    rw [exprsEvery, Bool.and_eq_true]

theorem laysEach_fields (depth : Nat) : (fields : List (String × Expr)) →
    LaysEach (fieldsPieces depth fields) (fieldsChars depth fields) (fieldsAtoms fields)
      (fieldsEvery Expr.sparesNumbers fields = true)
  | [] => LaysEach.nil.congr (iff_of_true trivial rfl)
  | (key, e) :: rest => by
    have hfield := (lays_literal key).between (lays_expr depth e) ':' [' '] rfl (by decide)
    refine (LaysEach.cons hfield (laysEach_fields depth rest)).congr ?_
    rw [fieldsEvery, Bool.and_eq_true, true_and]

theorem lays_stmt (depth : Nat) : (stmt : Stmt) →
    LaysLines (stmtPieces depth stmt) (stmtChars depth stmt) (stmtAtoms stmt)
      (stmt.every Expr.sparesNumbers = true)
  | .expr e => ((lays_expr depth e).before [';'] rfl (by decide)).line depth
  | .const name value => by
    have hvalue := (lays_expr depth value).before [';'] rfl (by decide)
    have hname := (lays_name name).between hvalue ' ' ['=', ' '] rfl (by decide)
    have hconst := (lays_keyword "const" (by decide)).between hname ' ' [] rfl (by decide)
    refine (hconst.line depth).congr ?_ rfl ?_
    · simp [stmtChars]
    · simp [Stmt.every]
  | .branch condition yes no => by
    have hcondition := (lays_expr depth condition).before ") \x7b".toList (by decide) (by decide)
    have hif := (lays_keyword "if" (by decide)).between hcondition ' ' ['('] rfl (by decide)
    have hclose := laysLines_marks depth ['\x7d'] rfl
    have hyes := lays_stmts (depth + 1) yes
    -- Without statements the other branch is left out, with its keyword.
    have hno : LaysLines
        (if no.isEmpty then []
          else linePieces depth (marks "\x7d ".toList ++ ([pieceOf (word "else")] ++
            marks " \x7b".toList)) ++ stmtsPieces (depth + 1) no)
        (if no.isEmpty then []
          else line depth "\x7d else \x7b".toList ++ stmtsChars (depth + 1) no)
        (if no.isEmpty then [] else word "else" :: stmtsAtoms no)
        (stmtsEvery Expr.sparesNumbers no = true) := by
      cases no with
      | nil => exact laysLines_nil.congr rfl rfl (iff_of_true trivial rfl)
      | cons first rest =>
        have hfilled : ¬ (first :: rest).isEmpty = true := Bool.false_ne_true
        rw [if_neg hfilled, if_neg hfilled, if_neg hfilled]
        exact ((lays_elseLine depth).append (lays_stmts (depth + 1) (first :: rest))).congr rfl rfl
          (true_and _).to_iff
    refine ((hif.line depth).append (hyes.append (hno.append hclose))).congr ?_ ?_ ?_
    · have hline : "if".toList ++ ([' ', '('] ++ (exprChars depth condition ++ ") \x7b".toList)) =
          "if (".toList ++ exprChars depth condition ++ ") \x7b".toList := by simp
      rw [stmtChars, hline]
      simp only [List.append_assoc]
    · simp [stmtAtoms]
    · simp [Stmt.every]
  | .return none => by
    have hreturn := (lays_keyword "return" (by decide)).before [';'] rfl (by decide)
    exact (hreturn.line depth).congr rfl rfl (iff_of_true trivial rfl)
  | .return (some value) => by
    have hvalue := (lays_expr depth value).before [';'] rfl (by decide)
    have hreturn := (lays_keyword "return" (by decide)).between hvalue ' ' [] rfl (by decide)
    refine (hreturn.line depth).congr ?_ rfl ?_
    · simp [stmtChars]
    · simp [Stmt.every]
  | .classDef name none methods => by
    have hname := (lays_name name).before " \x7b".toList (by decide) (by decide)
    have hclass := (lays_keyword "class" (by decide)).between hname ' ' [] rfl (by decide)
    have hbody := (lays_methods (depth + 1) methods).append (laysLines_marks depth ['\x7d'] rfl)
    refine ((hclass.line depth).append hbody).congr ?_ ?_ ?_
    · simp [stmtChars]
    · simp [stmtAtoms]
    · simp [Stmt.every]
  | .classDef name (some base) methods => by
    have hbase := (lays_expr depth base).before " \x7b".toList (by decide) (by decide)
    have hextends := (lays_keyword "extends" (by decide)).between hbase ' ' [] rfl (by decide)
    have hname := (lays_name name).between hextends ' ' [] rfl (by decide)
    have hclass := (lays_keyword "class" (by decide)).between hname ' ' [] rfl (by decide)
    have hbody := (lays_methods (depth + 1) methods).append (laysLines_marks depth ['\x7d'] rfl)
    refine ((hclass.line depth).append hbody).congr ?_ ?_ ?_
    · simp [stmtChars]
    · simp [stmtAtoms]
    · simp [Stmt.every]
  | .isolated body => by
    have hfunction := (lays_keyword "function" (by decide)).before " () \x7b".toList (by decide)
      (by decide)
    have hopen := (hfunction.behind ['('] rfl).line depth
    have hstrict : Lays [pieceOf (literal "use strict")] "\"use strict\"".toList
        [literal "use strict"] True :=
      (lays_literal "use strict").congr (by decide) rfl Iff.rfl
    have hmode := (hstrict.before [';'] rfl (by decide)).line (depth + 1)
    have hbody := (lays_stmts (depth + 1) body).append
      (laysLines_marks depth "\x7d)();".toList (by decide))
    refine (hopen.append (hmode.append hbody)).congr ?_ ?_ ?_
    · simp [stmtChars]
    · simp [stmtAtoms]
    · simp [Stmt.every]

theorem lays_stmts (depth : Nat) : (stmts : List Stmt) →
    LaysLines (stmtsPieces depth stmts) (stmtsChars depth stmts) (stmtsAtoms stmts)
      (stmtsEvery Expr.sparesNumbers stmts = true)
  | [] => laysLines_nil.congr rfl rfl (iff_of_true trivial rfl)
  | stmt :: rest => by
    refine ((lays_stmt depth stmt).append (lays_stmts depth rest)).congr rfl rfl ?_
    rw [stmtsEvery, Bool.and_eq_true]

theorem lays_methods (depth : Nat) : (methods : List Method) →
    LaysLines (methodsPieces depth methods) (methodsChars depth methods) (methodsAtoms methods)
      (methodsEvery Expr.sparesNumbers methods = true)
  | [] => laysLines_nil.congr rfl rfl (iff_of_true trivial rfl)
  | .mk name parameters body :: rest => by
    have hparameters := (lays_parameters parameters).before " \x7b".toList (by decide) (by decide)
    -- The parenthesis stands at the name, without a blank between them.
    have hopens : Opens (parameterPieces parameters ++ marks " \x7b".toList) := by
      have hsign : Opens (marks ['(']) := opens_marks rfl (by decide)
      intro next hnext
      apply hsign next
      simpa [parameterPieces, marks] using hnext
    have hname := ((lays_name name).append hparameters (.inr hopens)).line depth
    have hmore := (laysLines_marks depth ['\x7d'] rfl).append (lays_methods depth rest)
    refine (hname.append ((lays_stmts (depth + 1) body).append hmore)).congr ?_ ?_ ?_
    · simp [methodsChars]
    · simp [methodsAtoms]
    · simp [methodsEvery]

end

/-! ## Printed scripts -/

theorem spelling_stmtsPieces (stmts : List Stmt) :
    spelling (stmtsPieces 0 stmts) = (print stmts).toList := by
  rw [(lays_stmts 0 stmts).toLays.spells, print, String.toList_ofList]

/-- Reading a printed script gives the tokens among its pieces exactly if no member is taken of a
number. -/
theorem exists_tokenize_iff (stmts : List Stmt) :
    (∃ tokens, tokenize (print stmts).toList = .ok tokens ∧
        tokens.tokens.map Token.shape = shapes (stmtsPieces 0 stmts)) ↔
      stmtsEvery Expr.sparesNumbers stmts = true := by
  have hlays := (lays_stmts 0 stmts).toLays
  rw [← hlays.clear, ← spelling_stmtsPieces, tokenize]
  exact tokensFrom_spelling_iff hlays.sound [] [] 0

/-- A printed script is read as its pieces, one token for each name, keyword and literal, exactly if
no member is taken of a number. -/
theorem tokenize_print_iff (stmts : List Stmt) :
    ((∃ tokens, tokenize (print stmts).toList = .ok tokens ∧
        tokens.tokens.map Token.shape = shapes (stmtsPieces 0 stmts)) ↔
      stmtsEvery Expr.sparesNumbers stmts = true) ∧
    spelling (stmtsPieces 0 stmts) = (print stmts).toList ∧
    atomsOf (shapes (stmtsPieces 0 stmts)) = stmtsAtoms stmts :=
  ⟨exists_tokenize_iff stmts, spelling_stmtsPieces stmts, (lays_stmts 0 stmts).toLays.named⟩

/-- The point of the member `x` of the number one is read into the number. -/
theorem member_of_number_runs_together :
    ¬ ∀ stmts : List Stmt, ∃ tokens, tokenize (print stmts).toList = .ok tokens ∧
      atomsOf (tokens.tokens.map Token.shape) = stmtsAtoms stmts := by
  intro hall
  obtain ⟨tokens, htokens, hatoms⟩ :=
    hall [.expr (.member (.num (.finite (Finite64.ofInt 1))) ⟨"x", by decide⟩)]
  have hread : tokenize
      (print [.expr (.member (.num (.finite (Finite64.ofInt 1))) ⟨"x", by decide⟩)]).toList =
      .ok ⟨[⟨[], .number, "1.x".toList⟩, ⟨[], .punct, [';']⟩], ['\n']⟩ := by decide +kernel
  obtain rfl := Except.ok.inj (hread.symm.trans htokens)
  revert hatoms
  decide +kernel

end LiveMarkup.Script

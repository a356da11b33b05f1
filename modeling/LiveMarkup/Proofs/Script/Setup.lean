import LiveMarkup.Proofs.Script.Layout
import LiveMarkup.Proofs.Script.Glue

/-!
# The managers in the text of a script

What a script does is what its text says. The methods of a name are found among the tokens of a text,
with the tokens between their braces (`methodsIn`), and so are the managers that tokens create for an
instance (`managersIn`). The text of a component's script, minified or not, has one method `setup`, and
the managers in it are those that the statements of `setupBody` create
(`Glue.methodsIn_script`, `Glue.managersIn_setupBody`).
-/

set_option autoImplicit false

namespace LiveMarkup.Script

/-! ## Methods and managers among tokens -/

/-- A sign as a token. -/
def sign (c : Char) : TokenKind × List Char := (.punct, [c])

/-- How many inner blocks are open behind a token; nothing if it closes the outer one. -/
def depthBehind? (depth : Nat) (token : TokenKind × List Char) : Option Nat :=
  if token = sign '\x7b' then some (depth + 1)
  else if token = sign '\x7d' then if depth = 0 then none else some (depth - 1)
  else some depth

/-- The tokens up to the brace that closes a block in which so many inner ones are open. -/
def block? (depth : Nat) :
    List (TokenKind × List Char) → Option (List (TokenKind × List Char))
  | [] => none
  | token :: rest =>
    match depthBehind? depth token with
    | none => some []
    | some inner => (block? inner rest).map (token :: ·)

/-- The bodies of the methods of this name that have no parameters, wherever they stand. -/
def methodsIn (name : String) :
    List (TokenKind × List Char) → List (List (TokenKind × List Char))
  | [] => []
  | token :: rest =>
    (if token = word name ∧ rest.take 3 = [sign '(', sign ')', sign '\x7b'] then
      (block? 0 (rest.drop 3)).toList
    else []) ++ methodsIn name rest

/-- The manager that tokens begin to create for the instance: the member that holds it, and its class. -/
def creation? : List (TokenKind × List Char) → Option (String × String)
  | this :: point :: holder :: equals :: new :: space :: dot :: manager :: opened :: handed :: _ =>
    if [this, point, equals, new, space, dot, opened, handed] =
        [word "this", sign '.', sign '=', word "new", word Glue.runtime.name, sign '.', sign '(',
          word "this"] then
      some (String.ofList holder.2, String.ofList manager.2)
    else none
  | _ => none

/-- The managers that tokens create for the instance, wherever they do. -/
def managersIn : List (TokenKind × List Char) → List (String × String)
  | [] => []
  | token :: rest => (creation? (token :: rest)).toList ++ managersIn rest

theorem block?_append {depth : Nat} {tokens body : List (TokenKind × List Char)}
    (found : block? depth tokens = some body) (rest : List (TokenKind × List Char)) :
    block? depth (tokens ++ rest) = some body := by
  induction tokens generalizing depth body with
  | nil => cases found
  | cons token more ih =>
    rw [block?] at found
    rw [List.cons_append, block?]
    cases behind : depthBehind? depth token with
    | none =>
      rw [behind] at found
      exact found
    | some inner =>
      rw [behind] at found
      obtain ⟨read, fed, rfl⟩ := Option.map_eq_some_iff.mp found
      simp only [ih fed, Option.map_some]

theorem methodsIn_append {name : String} {front : List (TokenKind × List Char)}
    (free : word name ∉ front) (rest : List (TokenKind × List Char)) :
    methodsIn name (front ++ rest) = methodsIn name rest := by
  induction front with
  | nil => rfl
  | cons token more ih =>
    rw [List.mem_cons, not_or] at free
    rw [List.cons_append, methodsIn, if_neg fun both => free.1 both.1.symm, List.nil_append, ih free.2]

/-- A method that stands once in a text is the only one of its name. -/
theorem methodsIn_eq_singleton {name : String} {front body back : List (TokenKind × List Char)}
    (ahead : word name ∉ front) (within : word name ∉ body) (behind : word name ∉ back)
    (closed : block? 0 (body ++ [sign '\x7d']) = some body) :
    methodsIn name (front ++ (word name :: sign '(' :: sign ')' :: sign '\x7b' ::
      (body ++ sign '\x7d' :: back))) = [body] := by
  have whole : block? 0 (body ++ sign '\x7d' :: back) = some body := by
    rw [← List.singleton_append, ← List.append_assoc]
    exact block?_append closed back
  have rest : word name ∉ sign '(' :: sign ')' :: sign '\x7b' :: (body ++ sign '\x7d' :: back) := by
    simp [word, sign] at within behind ⊢
    exact ⟨within, behind⟩
  have none := methodsIn_append rest []
  rw [List.append_nil] at none
  rw [methodsIn_append ahead, methodsIn, none, if_pos ⟨rfl, rfl⟩]
  exact congrArg (·.toList ++ []) whole

/-- The blanks of a line are no tokens. -/
theorem shapes_linePieces (depth : Nat) (pieces : List Piece) :
    shapes (linePieces depth pieces) = shapes pieces := by
  have blanks : shapes (marks (indent depth)) = [] := by
    refine List.filterMap_eq_nil_iff.mpr fun piece member => ?_
    obtain ⟨c, blank, rfl⟩ := List.mem_map.mp member
    rw [List.eq_of_mem_replicate blank]
    rfl
  have newline : shapes (marks ['\n']) = [] := rfl
  rw [linePieces, shapes_append, shapes_append, blanks, newline, List.nil_append, List.append_nil]

theorem stmtsPieces_append (depth : Nat) (stmts more : List Stmt) :
    stmtsPieces depth (stmts ++ more) = stmtsPieces depth stmts ++ stmtsPieces depth more := by
  induction stmts with
  | nil => rfl
  | cons stmt rest ih => rw [List.cons_append, stmtsPieces, stmtsPieces, ih, List.append_assoc]

theorem word_inj {s t : String} : word s = word t ↔ s = t := by
  simp [word, String.toList_inj]

theorem word_ne_literal (s t : String) : word s ≠ literal t := nofun

theorem word_ne_sign (s : String) (c : Char) : word s ≠ sign c := nofun

/-- The words of a printed text are those of the tree. -/
theorem word_mem_shapes_iff {s : String} {depth : Nat} {stmts : List Stmt} :
    word s ∈ shapes (stmtsPieces depth stmts) ↔ word s ∈ stmtsAtoms stmts := by
  rw [← (lays_stmts depth stmts).toLays.named, atomsOf, List.mem_filter]
  exact (and_iff_left rfl).symm

namespace Glue

/-- The statements of a `setup` make a whole block that defines no further one, and take no member of a
number. -/
theorem block_setupBody (component : Component) :
    stmtsEvery Expr.sparesNumbers (setupBody component) = true ∧
      word "setup" ∉ shapes (stmtsPieces 3 (setupBody component)) ∧
      block? 0 (shapes (stmtsPieces 3 (setupBody component)) ++ [sign '\x7d']) =
        some (shapes (stmtsPieces 3 (setupBody component))) := by
  unfold setupBody
  generalize component.pattern = pattern
  generalize Structure.lazyPanels component = lazyPanels
  cases pattern <;> cases lazyPanels <;> decide +kernel

/-- The name of a component's class has an underscore. -/
theorem name_className_ne (id : String) {name : String} (plain : '_' ∉ name.toList) :
    (Identifier.className id).name ≠ name := by
  rintro rfl
  simp [Identifier.className, Identifier.sanitizedName] at plain

/-- The tokens of a class in a function that is called at once, around the body of its only method. -/
theorem shapes_isolated_method (ahead behind : List Stmt) (cls : Identifier) (base : Expr)
    (name : Identifier) (body : List Stmt) :
    shapes (stmtsPieces 0 [.isolated (ahead ++ .classDef cls (some base) [.mk name [] body] :: behind)]) =
      [sign '(', word "function", sign '(', sign ')', sign '\x7b', literal "use strict", sign ';'] ++
        shapes (stmtsPieces 1 ahead) ++ [word "class", word cls.name, word "extends"] ++
        shapes (exprPieces 1 base) ++ [sign '\x7b'] ++
        (word name.name :: sign '(' :: sign ')' :: sign '\x7b' :: (shapes (stmtsPieces 3 body) ++
          sign '\x7d' :: (sign '\x7d' :: (shapes (stmtsPieces 1 behind) ++
            [sign '\x7d', sign ')', sign '(', sign ')', sign ';'])))) := by
  simp only [stmtsPieces, stmtPieces, methodsPieces, stmtsPieces_append, shapes_append,
    shapes_linePieces, List.append_assoc, List.append_nil]
  rfl

theorem not_mem_ahead (id : String) : word "setup" ∉ shapes (stmtsPieces 1
    [.const runtime (.member (.ident (named "window" (by decide))) runtime), guard id]) := by
  rw [word_mem_shapes_iff]
  simp [guard, runtimeClass, Expr.method, stmtsAtoms, stmtAtoms, exprAtoms, exprsAtoms, word_inj,
    word_ne_literal, runtime, named]

theorem not_mem_behind (id : String) :
    word "setup" ∉ shapes (stmtsPieces 1 [.const start (starter id), schedule]) := by
  have className : "setup" ≠ (Identifier.className id).name := fun same =>
    name_className_ne id (by decide) same.symm
  rw [word_mem_shapes_iff]
  simp [starter, schedule, Expr.method, stmtsAtoms, stmtAtoms, exprAtoms, exprsAtoms, nameAtoms, word_inj,
    word_ne_literal, className, start, controller, document, named]

theorem program_eq (component : Component) :
    program component = [.isolated (
      [.const runtime (.member (.ident (named "window" (by decide))) runtime), guard component.id] ++
        .classDef (Identifier.className component.id)
          (some (runtimeClass (named "Controller" (by decide))))
          [.mk (named "setup" (by decide)) [] (setupBody component)] ::
        [.const start (starter component.id), schedule])] := rfl

/-- The tokens of a component's program have one method `setup`, with the statements of `setupBody`. -/
theorem methodsIn_program (component : Component) :
    methodsIn "setup" (shapes (stmtsPieces 0 (program component))) =
      [shapes (stmtsPieces 3 (setupBody component))] := by
  obtain ⟨-, within, closed⟩ := block_setupBody component
  have className : "setup" ≠ (Identifier.className component.id).name := fun same =>
    name_className_ne component.id (by decide) same.symm
  have base : word "setup" ∉ shapes (exprPieces 1 (runtimeClass (named "Controller" (by decide)))) := by
    decide +kernel
  rw [program_eq, shapes_isolated_method]
  refine methodsIn_eq_singleton ?_ within ?_ closed
  · simp [not_mem_ahead, base, word_inj, word_ne_literal, word_ne_sign, className]
  · simp [not_mem_behind, word_ne_sign]

/-- The script of a component is read as the tokens of its program, and so is what minifying leaves. -/
theorem tokenize_script (component : Component) :
    ∀ text ∈ [generate component, script component], ∃ found, tokenize text.toList = .ok found ∧
      found.tokens.map Token.shape = shapes (stmtsPieces 0 (program component)) := by
  have spares : stmtsEvery Expr.sparesNumbers (program component) = true := by
    have body := (block_setupBody component).1
    simp only [program, stmtsEvery, Stmt.every, methodsEvery, body]
    rfl
  obtain ⟨tokens, read, same⟩ := (exists_tokenize_iff (program component)).mpr spares
  obtain ⟨others, minified, again, reread, written, reading, kept, -⟩ :=
    (fits_generate component).minify
  obtain rfl : tokens = others := Except.ok.inj (read.symm.trans reread)
  have whole : ∃ found, tokenize (generate component).toList = .ok found ∧
      found.tokens.map Token.shape = shapes (stmtsPieces 0 (program component)) := ⟨tokens, read, same⟩
  refine List.forall_mem_cons.mpr ⟨whole, List.forall_mem_singleton.mpr ?_⟩
  rw [script]
  split
  · rw [minifyOrKeep, written]
    exact ⟨again, reading, kept.trans same⟩
  · exact whole

/-- The text of a component's script has one method `setup`, with the statements of `setupBody`. -/
theorem methodsIn_script (component : Component) :
    ∀ text ∈ [generate component, script component], ∃ found, tokenize text.toList = .ok found ∧
      methodsIn "setup" (found.tokens.map Token.shape) =
        [shapes (stmtsPieces 3 (setupBody component))] := by
  intro text member
  obtain ⟨found, read, same⟩ := tokenize_script component text member
  exact ⟨found, read, same ▸ methodsIn_program component⟩

end Glue

end LiveMarkup.Script

import LiveMarkup.Proofs.Script.Fitting

/-!
# Printed scripts fit

Whatever a script says, its text fits (`fits_stmtsChars`): names are words, data stands in string
literals, and everything else is keywords and signs. JSON values are left aside, and so are numbers
that are not written in digits alone and members of numbers, since a point behind digits goes on with
the number.
-/

set_option autoImplicit false

namespace LiveMarkup.Script

/-! ## Plain scripts -/

/-- Whether an expression is a number. -/
def Expr.isNumber : Expr → Bool
  | .num _ => true
  | _ => false

/-- Whether a printed expression goes on with a character behind it, if its last part does. -/
def Expr.goesOn (e : Expr) (c : Char) : Bool :=
  isWordChar c || (c == '.' && (e.isCompound || e.isNumber))

mutual

/-- Whether the numbers of an expression are digits, no member is taken of one, and no JSON value is
in it. -/
def Expr.isPlain : Expr → Bool
  | .ident _ => true
  | .this => true
  | .str _ => true
  | .num x => !(numberLiteral x).toList.isEmpty && (numberLiteral x).toList.all Char.isDigit
  | .bool _ => true
  | .null => true
  | .json _ => false
  | .member target _ => !target.isNumber && target.isPlain
  | .index target key => target.isPlain && key.isPlain
  | .call callee arguments => callee.isPlain && exprsPlain arguments
  | .construct callee arguments => callee.isPlain && exprsPlain arguments
  | .arrow _ body => stmtsPlain body
  | .assign target value => target.isPlain && value.isPlain
  | .binary left _ right => left.isPlain && right.isPlain
  | .not operand => operand.isPlain
  | .object fields => fieldsPlain fields

/-- Whether every expression is plain. -/
def exprsPlain : List Expr → Bool
  | [] => true
  | e :: rest => e.isPlain && exprsPlain rest

/-- Whether every value of an object literal is plain. -/
def fieldsPlain : List (String × Expr) → Bool
  | [] => true
  | (_, e) :: rest => e.isPlain && fieldsPlain rest

/-- Whether the expressions of a statement are plain. -/
def Stmt.isPlain : Stmt → Bool
  | .expr e => e.isPlain
  | .const _ value => value.isPlain
  | .branch condition yes no => condition.isPlain && stmtsPlain yes && stmtsPlain no
  | .return none => true
  | .return (some value) => value.isPlain
  | .classDef _ none methods => methodsPlain methods
  | .classDef _ (some base) methods => base.isPlain && methodsPlain methods
  | .isolated body => stmtsPlain body

/-- Whether the expressions of statements are plain. -/
def stmtsPlain : List Stmt → Bool
  | [] => true
  | stmt :: rest => stmt.isPlain && stmtsPlain rest

/-- Whether the expressions of methods are plain. -/
def methodsPlain : List Method → Bool
  | [] => true
  | .mk _ _ body :: rest => stmtsPlain body && methodsPlain rest

end

theorem stmtsPlain_append (stmts more : List Stmt) :
    stmtsPlain (stmts ++ more) = (stmtsPlain stmts && stmtsPlain more) := by
  induction stmts with
  | nil => simp [stmtsPlain]
  | cons stmt rest ih => simp [stmtsPlain, ih, Bool.and_assoc]

/-! ## Parts of printed scripts -/

/-- The class of characters that a printed expression may at most go on with. -/
def isOpenEnded (c : Char) : Bool := isWordChar c || c == '.'

theorem Leads.mono {p q : Char → Bool} {cs : List Char} (h : Leads p cs)
    (hpq : ∀ c, p c = true → q c = true) : Leads q cs :=
  fun rest hstop hrest => h rest (hstop.mono hpq) hrest

theorem isOpenEnded_of_goesOn (e : Expr) (c : Char) (h : e.goesOn c = true) :
    isOpenEnded c = true := by
  simp only [Expr.goesOn, Bool.or_eq_true, Bool.and_eq_true] at h
  simp only [isOpenEnded, Bool.or_eq_true]
  exact h.imp_right fun hpoint => hpoint.1

theorem goesOn_of_isWordChar (e : Expr) (c : Char) (h : isWordChar c = true) :
    e.goesOn c = true := by
  simp [Expr.goesOn, h]

theorem isOpenEnded_iff (c : Char) : isOpenEnded c = true ↔ isWordChar c = true ∨ c = '.' := by
  simp [isOpenEnded]

/-- A sign or a blank ends every printed expression. -/
theorem Leads.fits_cons {cs rest : List Char} (h : Leads isOpenEnded cs) {c : Char}
    (hc : isSignOrBlank c = true) (hrest : Fits rest) : Fits (cs ++ c :: rest) := by
  refine h _ (stopsAt_of_isSignOrBlank (fun d => (isOpenEnded_iff d).1) rest hc) ?_
  exact Fits.signs hrest [c] (by simpa using hc)

/-- Between two signs, every printed expression fits. -/
theorem Leads.fits_between {cs rest : List Char} (h : Leads isOpenEnded cs) {opening closing : Char}
    (hopening : isSign opening = true) (hclosing : isSignOrBlank closing = true)
    (hrest : Fits rest) : Fits (opening :: cs ++ [closing] ++ rest) := by
  rw [List.append_assoc]
  exact (h.fits_cons hclosing hrest).sign hopening

/-- A keyword fits in front of anything that does not go on with it. -/
theorem Fits.keyword {c : Char} {rest : List Char} (h : Fits (c :: rest)) (cs : List Char)
    (hword : isPlainWord cs = true) (hc : isWordChar c = false) : Fits (cs ++ c :: rest) :=
  h.word cs hword ((stopsAt_cons _ _ _).2 hc)

/-- So does a name. -/
theorem Fits.name {c : Char} {rest : List Char} (h : Fits (c :: rest)) (name : Identifier)
    (hc : isWordChar c = false) : Fits (name.name.toList ++ c :: rest) :=
  leads_name name _ ((stopsAt_cons _ _ _).2 hc) h

theorem leads_keyword (cs : List Char) (hword : isPlainWord cs = true) (e : Expr) :
    Leads e.goesOn cs :=
  fun _ hstop h => h.word _ hword (hstop.mono (goesOn_of_isWordChar e))

theorem commaSeparated_cons_cons (item next : List Char) (rest : List (List Char)) :
    commaSeparated (item :: next :: rest) = item ++ ',' :: ' ' :: commaSeparated (next :: rest) :=
  rfl

theorem leads_commaSeparated {items : List (List Char)}
    (hitems : ∀ item ∈ items, Leads isOpenEnded item) : Leads isOpenEnded (commaSeparated items) := by
  intro rest hstop h
  induction items with
  | nil => exact h
  | cons item more ih =>
    have hitem := hitems item List.mem_cons_self
    cases more with
    | nil => exact hitem rest hstop h
    | cons next others =>
      rw [commaSeparated_cons_cons, List.append_assoc, List.cons_append, List.cons_append]
      refine hitem.fits_cons rfl (Fits.blank ?_ rfl)
      exact ih fun other hother => hitems other (List.mem_cons_of_mem _ hother)

theorem fits_parameterChars (parameters : List Identifier) {rest : List Char} (h : Fits rest) :
    Fits (parameterChars parameters ++ rest) := by
  have hnames : Leads isOpenEnded (commaSeparated (parameters.map fun p => p.name.toList)) := by
    refine leads_commaSeparated ?_
    intro item hitem
    obtain ⟨name, -, rfl⟩ := List.mem_map.1 hitem
    exact (leads_name name).mono fun c hc => by simp [isOpenEnded, hc]
  exact hnames.fits_between rfl rfl h

theorem fits_indent (depth : Nat) {rest : List Char} (h : Fits rest) :
    Fits (indent depth ++ rest) := by
  refine h.signs _ (List.all_eq_true.2 ?_)
  intro c hc
  rw [List.eq_of_mem_replicate hc]
  rfl

/-- A line of which the text fits in front of a line break. -/
theorem fits_line (depth : Nat) {cs rest : List Char} (h : Fits (cs ++ '\n' :: rest)) :
    Fits (line depth cs ++ rest) := by
  rw [line, List.append_assoc, List.append_assoc]
  exact fits_indent depth h

/-- In parentheses or not, an operand goes on with a point only if it is a number. -/
theorem leads_operand {e : Expr} {cs : List Char} (h : Leads e.goesOn cs) :
    Leads (fun c => isWordChar c || (c == '.' && e.isNumber)) (parenthesised e.isCompound cs) := by
  intro rest hstop hrest
  cases hcompound : e.isCompound with
  | true =>
    exact (h.mono (isOpenEnded_of_goesOn e)).fits_between rfl rfl hrest
  | false =>
    rw [parenthesised, if_neg Bool.false_ne_true]
    refine h rest (hstop.mono ?_) hrest
    intro c hc
    simpa [Expr.goesOn, hcompound] using hc

theorem leads_openEnded_operand {e : Expr} {cs : List Char} (h : Leads e.goesOn cs) :
    Leads isOpenEnded (parenthesised e.isCompound cs) := by
  refine (leads_operand h).mono ?_
  intro c hc
  simp only [Bool.or_eq_true, Bool.and_eq_true] at hc
  simp only [isOpenEnded, Bool.or_eq_true]
  exact hc.imp_right fun hpoint => hpoint.1

/-! ## Whole scripts -/

mutual

theorem leads_exprChars (depth : Nat) : (e : Expr) → e.isPlain = true →
    Leads e.goesOn (exprChars depth e)
  | .ident name, _ => (leads_name name).mono (goesOn_of_isWordChar _)
  | .this, _ => leads_keyword "this".toList (by decide) _
  | .str s, _ => fun _ _ h => h.literal s
  | .num x, hplain => by
    simp only [Expr.isPlain, Bool.and_eq_true, Bool.not_eq_true', List.isEmpty_eq_false_iff]
      at hplain
    intro rest hstop h
    refine h.digits hplain.2 hplain.1 (hstop.mono ?_)
    intro c hc
    simpa [Expr.goesOn, Expr.isNumber] using hc
  | .bool true, _ => leads_keyword "true".toList (by decide) _
  | .bool false, _ => leads_keyword "false".toList (by decide) _
  | .null, _ => leads_keyword "null".toList (by decide) _
  | .member target name, hplain => by
    simp only [Expr.isPlain, Bool.and_eq_true, Bool.not_eq_true'] at hplain
    have htarget := leads_operand (leads_exprChars depth target hplain.2)
    intro rest hstop h
    rw [exprChars, List.append_assoc]
    -- The target is no number, so the point behind it begins a token of its own.
    have hname := leads_member name rest (hstop.mono (goesOn_of_isWordChar _)) h
    exact htarget _ ((stopsAt_cons _ _ _).2 (by simp [hplain.1, isWordChar, Char.isAlphanum])) hname
  | .index target key, hplain => by
    simp only [Expr.isPlain, Bool.and_eq_true] at hplain
    have htarget := leads_openEnded_operand (leads_exprChars depth target hplain.1)
    have hkey := (leads_exprChars depth key hplain.2).mono (isOpenEnded_of_goesOn key)
    intro rest _ h
    simp only [exprChars, List.append_assoc, List.cons_append]
    exact htarget.fits_cons rfl (hkey.fits_cons rfl h)
  | .call callee arguments, hplain => by
    simp only [Expr.isPlain, Bool.and_eq_true] at hplain
    have hcallee := leads_openEnded_operand (leads_exprChars depth callee hplain.1)
    have harguments := leads_commaSeparated (leads_exprsChars depth arguments hplain.2)
    intro rest _ h
    simp only [exprChars, List.append_assoc, List.cons_append]
    exact hcallee.fits_cons rfl (harguments.fits_cons rfl h)
  | .construct callee arguments, hplain => by
    simp only [Expr.isPlain, Bool.and_eq_true] at hplain
    have hcallee := leads_openEnded_operand (leads_exprChars depth callee hplain.1)
    have harguments := leads_commaSeparated (leads_exprsChars depth arguments hplain.2)
    intro rest _ h
    simp only [exprChars, List.append_assoc, List.cons_append]
    have hcall := hcallee.fits_cons (c := '(') rfl (harguments.fits_cons (c := ')') rfl h)
    exact hcall.blank rfl |>.keyword "new".toList (by decide) rfl
  | .arrow parameters body, hplain => by
    rw [Expr.isPlain] at hplain
    intro rest _ h
    simp only [exprChars, List.append_assoc]
    refine fits_parameterChars parameters (Fits.signs ?_ _ (by decide))
    exact fits_stmtsChars (depth + 1) body hplain (fits_indent depth (h.sign rfl))
  | .assign target value, hplain => by
    simp only [Expr.isPlain, Bool.and_eq_true] at hplain
    have htarget := (leads_exprChars depth target hplain.1).mono (isOpenEnded_of_goesOn target)
    have hvalue := leads_exprChars depth value hplain.2
    intro rest hstop h
    simp only [exprChars, List.append_assoc]
    -- An assignment is compound, so what ends it ends its value, whatever that is.
    have hend : StopsAt value.goesOn rest := hstop.mono fun c hc => by
      simpa [Expr.goesOn, Expr.isCompound, isOpenEnded] using isOpenEnded_of_goesOn value c hc
    exact htarget.fits_cons (c := ' ') rfl (((hvalue rest hend h).blank rfl).sign rfl)
  | .binary left operator right, hplain => by
    simp only [Expr.isPlain, Bool.and_eq_true] at hplain
    have hleft := leads_openEnded_operand (leads_exprChars depth left hplain.1)
    have hright := leads_openEnded_operand (leads_exprChars depth right hplain.2)
    intro rest hstop h
    simp only [exprChars, List.append_assoc, List.cons_append]
    have hend : StopsAt isOpenEnded rest := hstop.mono fun c hc => by
      simpa [Expr.goesOn, Expr.isCompound, isOpenEnded] using hc
    have hsigns : operator.text.toList.all isSignOrBlank = true := by cases operator <;> decide
    exact hleft.fits_cons rfl (Fits.signs ((hright rest hend h).blank rfl) _ hsigns)
  | .not operand, hplain => by
    rw [Expr.isPlain] at hplain
    have hoperand := leads_openEnded_operand (leads_exprChars depth operand hplain)
    intro rest hstop h
    rw [exprChars, List.cons_append]
    have hend : StopsAt isOpenEnded rest := hstop.mono fun c hc => by
      simpa [Expr.goesOn, Expr.isCompound, isOpenEnded] using hc
    exact (hoperand rest hend h).sign rfl
  | .object fields, hplain => by
    rw [Expr.isPlain] at hplain
    have hfields := leads_commaSeparated (leads_fieldsChars depth fields hplain)
    intro rest _ h
    rw [exprChars]
    exact hfields.fits_between rfl rfl h

theorem leads_exprsChars (depth : Nat) : (es : List Expr) → exprsPlain es = true →
    ∀ item ∈ exprsChars depth es, Leads isOpenEnded item
  | [], _ => by simp [exprsChars]
  | e :: rest, hplain => by
    simp only [exprsPlain, Bool.and_eq_true] at hplain
    rw [exprsChars]
    refine List.forall_mem_cons.2 ⟨?_, leads_exprsChars depth rest hplain.2⟩
    exact (leads_exprChars depth e hplain.1).mono (isOpenEnded_of_goesOn e)

theorem leads_fieldsChars (depth : Nat) : (fields : List (String × Expr)) →
    fieldsPlain fields = true → ∀ item ∈ fieldsChars depth fields, Leads isOpenEnded item
  | [], _ => by simp [fieldsChars]
  | (key, e) :: rest, hplain => by
    simp only [fieldsPlain, Bool.and_eq_true] at hplain
    rw [fieldsChars]
    refine List.forall_mem_cons.2 ⟨?_, leads_fieldsChars depth rest hplain.2⟩
    have hvalue := (leads_exprChars depth e hplain.1).mono (isOpenEnded_of_goesOn e)
    intro after hstop h
    rw [List.append_assoc]
    exact (((hvalue after hstop h).blank rfl).sign rfl).literal key

theorem fits_stmtChars (depth : Nat) : (stmt : Stmt) → stmt.isPlain = true → {rest : List Char} →
    Fits rest → Fits (stmtChars depth stmt ++ rest)
  | .expr e, hplain, rest, h => by
    rw [Stmt.isPlain] at hplain
    have he := (leads_exprChars depth e hplain).mono (isOpenEnded_of_goesOn e)
    rw [stmtChars]
    refine fits_line depth ?_
    rw [List.append_assoc]
    exact he.fits_cons (c := ';') rfl (h.blank rfl)
  | .const name value, hplain, rest, h => by
    rw [Stmt.isPlain] at hplain
    have hvalue := (leads_exprChars depth value hplain).mono (isOpenEnded_of_goesOn value)
    rw [stmtChars]
    refine fits_line depth ?_
    simp only [List.append_assoc]
    have hend := hvalue.fits_cons (c := ';') rfl (h.blank (c := '\n') rfl)
    have hname := (hend.signs " = ".toList (by decide)).name name rfl
    exact (hname.blank (c := ' ') rfl).keyword "const".toList (by decide) rfl
  | .branch condition yes no, hplain, rest, h => by
    simp only [Stmt.isPlain, Bool.and_eq_true] at hplain
    have hcondition :=
      (leads_exprChars depth condition hplain.1.1).mono (isOpenEnded_of_goesOn condition)
    -- From the end on: the last brace, the other branch, the first one and the condition.
    have hclose : Fits (line depth ['\x7d'] ++ rest) :=
      fits_line depth ((h.blank rfl).sign rfl)
    have hno : Fits ((if no.isEmpty then [] else line depth "\x7d else \x7b".toList
        ++ stmtsChars (depth + 1) no) ++ (line depth ['\x7d'] ++ rest)) := by
      split
      · exact hclose
      · rw [List.append_assoc]
        have hbody := fits_stmtsChars (depth + 1) no hplain.2 hclose
        refine fits_line depth (Fits.signs ?_ "\x7d ".toList (by decide))
        have hopen := hbody.signs " \x7b\n".toList (by decide)
        exact hopen.keyword "else".toList (by decide) rfl
    have hyes := fits_stmtsChars (depth + 1) yes hplain.1.2 hno
    rw [stmtChars]
    simp only [List.append_assoc]
    refine fits_line depth ?_
    simp only [List.append_assoc]
    have hend := hcondition.fits_cons (c := ')') rfl (hyes.signs " \x7b\n".toList (by decide))
    exact (hend.signs " (".toList (by decide)).keyword "if".toList (by decide) rfl
  | .return none, _, rest, h => by
    rw [stmtChars]
    refine fits_line depth ?_
    exact ((h.blank rfl).sign rfl).keyword "return".toList (by decide) rfl
  | .return (some value), hplain, rest, h => by
    rw [Stmt.isPlain] at hplain
    have hvalue := (leads_exprChars depth value hplain).mono (isOpenEnded_of_goesOn value)
    rw [stmtChars]
    refine fits_line depth ?_
    simp only [List.append_assoc]
    have hend := hvalue.fits_cons (c := ';') rfl (h.blank (c := '\n') rfl)
    exact (hend.blank (c := ' ') rfl).keyword "return".toList (by decide) rfl
  | .classDef name none methods, hplain, rest, h => by
    rw [Stmt.isPlain] at hplain
    have hclose : Fits (line depth ['\x7d'] ++ rest) :=
      fits_line depth ((h.blank rfl).sign rfl)
    have hmethods := fits_methodsChars (depth + 1) methods hplain hclose
    rw [stmtChars]
    simp only [List.append_assoc]
    refine fits_line depth ?_
    simp only [List.append_assoc]
    have hname := (hmethods.signs " \x7b\n".toList (by decide)).name name rfl
    exact (hname.blank (c := ' ') rfl).keyword "class".toList (by decide) rfl
  | .classDef name (some base) methods, hplain, rest, h => by
    simp only [Stmt.isPlain, Bool.and_eq_true] at hplain
    have hbase := (leads_exprChars depth base hplain.1).mono (isOpenEnded_of_goesOn base)
    have hclose : Fits (line depth ['\x7d'] ++ rest) :=
      fits_line depth ((h.blank rfl).sign rfl)
    have hmethods := fits_methodsChars (depth + 1) methods hplain.2 hclose
    rw [stmtChars]
    simp only [List.append_assoc]
    refine fits_line depth ?_
    simp only [List.append_assoc]
    have hend := hbase.fits_cons (c := ' ') rfl (hmethods.signs "\x7b\n".toList (by decide))
    have hextends := (hend.blank (c := ' ') rfl).keyword "extends".toList (by decide) rfl
    have hname := (hextends.blank (c := ' ') rfl).name name rfl
    exact (hname.blank (c := ' ') rfl).keyword "class".toList (by decide) rfl
  | .isolated body, hplain, rest, h => by
    rw [Stmt.isPlain] at hplain
    have hclose : Fits (line depth "\x7d)();".toList ++ rest) :=
      fits_line depth ((h.blank rfl).signs "\x7d)();".toList (by decide))
    have hbody := fits_stmtsChars (depth + 1) body hplain hclose
    have hstrict : Fits (line (depth + 1) "\"use strict\";".toList ++
        (stmtsChars (depth + 1) body ++ (line depth "\x7d)();".toList ++ rest))) :=
      fits_line (depth + 1) (((hbody.blank rfl).sign rfl).literal "use strict")
    rw [stmtChars]
    simp only [List.append_assoc]
    refine fits_line depth ?_
    have hopen := hstrict.signs " () \x7b\n".toList (by decide)
    have hfunction := hopen.keyword "function".toList (by decide) rfl
    exact hfunction.sign rfl

/-- What is printed for statements fits in front of every text that fits. -/
theorem fits_stmtsChars (depth : Nat) : (stmts : List Stmt) → stmtsPlain stmts = true →
    {rest : List Char} → Fits rest → Fits (stmtsChars depth stmts ++ rest)
  | [], _, rest, h => h
  | stmt :: more, hplain, rest, h => by
    simp only [stmtsPlain, Bool.and_eq_true] at hplain
    rw [stmtsChars, List.append_assoc]
    exact fits_stmtChars depth stmt hplain.1 (fits_stmtsChars depth more hplain.2 h)

theorem fits_methodsChars (depth : Nat) : (methods : List Method) → methodsPlain methods = true →
    {rest : List Char} → Fits rest → Fits (methodsChars depth methods ++ rest)
  | [], _, rest, h => h
  | .mk name parameters body :: more, hplain, rest, h => by
    simp only [methodsPlain, Bool.and_eq_true] at hplain
    have hmore := fits_methodsChars depth more hplain.2 h
    have hclose : Fits (line depth ['\x7d'] ++ (methodsChars depth more ++ rest)) :=
      fits_line depth ((hmore.blank rfl).sign rfl)
    have hbody := fits_stmtsChars (depth + 1) body hplain.1 hclose
    rw [methodsChars]
    simp only [List.append_assoc]
    refine fits_line depth ?_
    simp only [List.append_assoc]
    have hopen := fits_parameterChars parameters (hbody.signs " \x7b\n".toList (by decide))
    exact hopen.name name rfl

end

end LiveMarkup.Script

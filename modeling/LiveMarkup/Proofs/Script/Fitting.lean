import LiveMarkup.Proofs.Script.Minified
import LiveMarkup.Script.Printer

/-!
# Texts that fit

A text fits where it can stand in a script element and is read as tokens that stay apart, whatever
stands before it (`Fits`), so minifying keeps its tokens and goes no further the second time
(`Fits.minify`). Words, signs, digits and string literals may be put in front of a text that fits: a
string literal is read to its own closing quote whatever it holds (`Fits.literal`), and the others
end where the text behind them does not go on with them.
-/

set_option autoImplicit false

namespace LiveMarkup.Script

/-! ## Texts that fit -/

/-- Whether a character can stand anywhere in a script element: it opens no tag, and it is no line
separator that only scripts know. -/
def isInert (c : Char) : Bool := c != '<' && c != '\u2028' && c != '\u2029'

/-- A text of inert characters that is read as tokens that stay apart, whatever stands before it. -/
structure Fits (cs : List Char) : Prop where
  inert : ∀ c ∈ cs, isInert c = true
  read : ∀ before gap offset,
    ∃ tokens, tokensFrom before gap offset cs = .ok tokens ∧ Apart tokens.tokens

/-- In front of a text that fits and does not go on with the class, these characters fit. -/
def Leads (p : Char → Bool) (cs : List Char) : Prop :=
  ∀ rest, StopsAt p rest → Fits rest → Fits (cs ++ rest)

theorem fits_nil : Fits [] := by
  refine ⟨by simp, fun before gap offset => ⟨⟨[], gap⟩, ?_, .nil⟩⟩
  rw [tokensFrom]

theorem isInert_of_isBlank {c : Char} (h : isBlank c = true) : isInert c = true := by
  simp only [isBlank, isLineBreak, Bool.or_eq_true, beq_iff_eq] at h
  rcases h with ((rfl | rfl) | rfl) | rfl | rfl <;> rfl

theorem Fits.blank {c : Char} {cs : List Char} (h : Fits cs) (hc : isBlank c = true) :
    Fits (c :: cs) where
  inert := List.forall_mem_cons.2 ⟨isInert_of_isBlank hc, h.inert⟩
  read := by
    intro before gap offset
    rw [tokensFrom_gap (chunk_of_isBlank _ hc cs)]
    exact h.read before _ _

/-- A token that fuses with nothing may stand in front of a text that fits. -/
theorem Fits.token {c : Char} {rest : List Char} (h : Fits rest) (kind : TokenKind)
    (text : List Char) (hinert : ∀ d ∈ c :: text, isInert d = true)
    (hread : ∀ allowed, TokenRead allowed c (text ++ rest) kind ⟨c :: text, rest⟩)
    (hfirm : ∀ gap next, fuses ⟨gap, kind, c :: text⟩ next = false) :
    Fits (c :: (text ++ rest)) where
  inert := by
    intro d hd
    rcases List.mem_append.1 (show d ∈ (c :: text) ++ rest from hd) with hd | hd
    · exact hinert d hd
    · exact h.inert d hd
  read := by
    intro before gap offset
    obtain ⟨tokens, htokens, hapart⟩ := h.read (⟨gap, kind, c :: text⟩ :: before) []
      (offset + byteLength (c :: text))
    refine ⟨tokens.cons ⟨gap, kind, c :: text⟩, ?_, ?_⟩
    · rw [tokensFrom_token (chunk_of_tokenRead (hread _)), htokens]
      rfl
    · exact apart_cons_iff.2 ⟨fun next _ => hfirm gap next, hapart⟩

/-! ## Words -/

/-- Whether the characters are a word that no number begins. -/
def isPlainWord (cs : List Char) : Bool :=
  cs.head?.any (fun c => !c.isDigit) && cs.all fun c => isWordChar c && isInert c

theorem tokenRead_word {c : Char} {text rest : List Char} (hword : isPlainWord (c :: text) = true)
    (hstop : StopsAt isWordChar rest) (allowed : Bool) :
    TokenRead allowed c (text ++ rest) .word ⟨c :: text, rest⟩ := by
  simp only [isPlainWord, List.head?_cons, Option.any_some, Bool.and_eq_true, Bool.not_eq_true',
    List.all_cons, List.all_eq_true] at hword
  obtain ⟨hdigit, ⟨hc, -⟩, htext⟩ := hword
  have hpoint : c ≠ '.' := ne_of_isWordChar hc (by decide)
  have hread : TokenRead allowed c (text ++ rest) .word _ :=
    .word hc (by simp [startsNumber, hdigit, hpoint])
  rw [spanSplit_append_of_stopsAt (fun d hd => (htext d hd).1) hstop] at hread
  exact hread

theorem not_fuses_word {gap text : List Char} {c : Char} {rest : List Char}
    (hread : TokenRead true c rest .word ⟨text, []⟩) (next : Token) :
    fuses ⟨gap, .word, text⟩ next = false := by
  rw [Bool.eq_false_iff]
  intro hfuse
  rcases kind_of_fuses hfuse ⟨true, c, rest, [], hread⟩ with hkind | ⟨hkind, -⟩
  · cases hkind
  · cases hkind

theorem exists_cons_of_isPlainWord {cs : List Char} (hword : isPlainWord cs = true) :
    ∃ c text, cs = c :: text := by
  cases cs with
  | nil => cases hword
  | cons c text => exact ⟨c, text, rfl⟩

theorem Fits.word {rest : List Char} (h : Fits rest) (cs : List Char)
    (hword : isPlainWord cs = true) (hstop : StopsAt isWordChar rest) :
    Fits (cs ++ rest) := by
  obtain ⟨c, text, rfl⟩ := exists_cons_of_isPlainWord hword
  refine h.token .word _ ?_ (tokenRead_word hword hstop) fun gap next =>
    not_fuses_word (tokenRead_word hword (stopsAt_nil _) true) next
  intro d hd
  simp only [isPlainWord, Bool.and_eq_true, List.all_eq_true] at hword
  exact (hword.2 d hd).2

theorem isDigit_eq_false_of_isAlpha {c : Char} (h : c.isAlpha = true) : c.isDigit = false := by
  rw [Bool.eq_false_iff]
  intro hdigit
  have hhigh : c.val ≤ '9'.val := of_decide_eq_true ((Bool.and_eq_true_iff.1 hdigit).2)
  have hlow : 'A'.val ≤ c.val := by
    rcases Bool.or_eq_true_iff.1 h with hupper | hlower
    · exact (of_decide_eq_true hupper).1
    · have hlow : 'a'.val ≤ c.val := of_decide_eq_true (Bool.and_eq_true_iff.1 hlower).1
      exact UInt32.le_trans (by decide) hlow
  exact absurd (UInt32.le_trans hlow hhigh) (by decide)

theorem isWordChar_of_isIdentifierPart {c : Char} (h : isIdentifierPart c = true) :
    (isWordChar c && isInert c) = true := by
  have hinert : isInert c = true := by
    cases hinert : isInert c with
    | true => rfl
    | false =>
      simp only [isInert, Bool.and_eq_false_iff, bne_eq_false_iff_eq] at hinert
      rcases hinert with (rfl | rfl) | rfl <;> revert h <;> decide
  rw [hinert, Bool.and_true]
  simp only [isIdentifierPart, Bool.or_eq_true] at h
  rcases h with (h | h) | h <;> simp [isWordChar, h]

theorem isPlainWord_name (name : Identifier) : isPlainWord name.name.toList = true := by
  have hvalid := name.valid
  simp only [isIdentifier, Bool.and_eq_true, Option.any_eq_true, List.all_eq_true] at hvalid
  obtain ⟨⟨⟨c, hfirst, hstart⟩, hrest⟩, -⟩ := hvalid
  obtain ⟨text, htext⟩ : ∃ text, name.name.toList = c :: text := by
    cases hname : name.name.toList with
    | nil => simp [hname] at hfirst
    | cons d text =>
      obtain rfl : d = c := by simpa [hname] using hfirst
      exact ⟨text, rfl⟩
  rw [htext] at hrest ⊢
  simp only [isIdentifierStart, Bool.or_eq_true, beq_iff_eq] at hstart
  have hdigit : c.isDigit = false := by
    rcases hstart with (halpha | rfl) | rfl
    · exact isDigit_eq_false_of_isAlpha halpha
    · rfl
    · rfl
  have hpart : isIdentifierPart c = true := by
    rcases hstart with (halpha | rfl) | rfl
    · simp [isIdentifierPart, Char.isAlphanum, halpha]
    · rfl
    · rfl
  simp only [isPlainWord, List.head?_cons, Option.any_some, hdigit, Bool.not_false, Bool.true_and,
    List.all_cons, isWordChar_of_isIdentifierPart hpart]
  exact List.all_eq_true.2 fun d hd => isWordChar_of_isIdentifierPart (hrest d hd)

theorem leads_name (name : Identifier) : Leads isWordChar name.name.toList :=
  fun _ hstop h => h.word _ (isPlainWord_name name) hstop

/-- A point and a name fit: the point is no number, since no digit comes behind it. -/
theorem leads_member (name : Identifier) : Leads isWordChar ('.' :: name.name.toList) := by
  intro rest hstop h
  have hword := isPlainWord_name name
  obtain ⟨c, text, hname⟩ := exists_cons_of_isPlainWord hword
  rw [hname] at hword
  have hinert := (h.word _ hword hstop).inert
  rw [hname]
  refine ⟨List.forall_mem_cons.2 ⟨rfl, hinert⟩, ?_⟩
  intro before gap offset
  have hdigit : c.isDigit = false := by
    simp only [isPlainWord, List.head?_cons, Option.any_some, Bool.and_eq_true,
      Bool.not_eq_true'] at hword
    exact hword.1
  have hpoint : TokenRead (regexAllowed before) '.' (c :: (text ++ rest)) .punct
      ⟨['.'], c :: (text ++ rest)⟩ := by
    refine .punct rfl rfl ?_ (by decide) fun hslash => by cases hslash
    simp [startsNumber, hdigit]
  obtain ⟨tokens, htokens, hapart⟩ := h.read
    (⟨[], .word, c :: text⟩ :: ⟨gap, .punct, ['.']⟩ :: before) []
    (offset + byteLength ['.'] + byteLength (c :: text))
  refine ⟨(tokens.cons ⟨[], .word, c :: text⟩).cons ⟨gap, .punct, ['.']⟩, ?_, ?_⟩
  · show tokensFrom before gap offset ('.' :: (c :: (text ++ rest))) = _
    rw [tokensFrom_token (chunk_of_tokenRead hpoint),
      tokensFrom_token (chunk_of_tokenRead (tokenRead_word hword hstop _)), htokens]
    rfl
  · -- Nothing stands between the point and the name, so they cannot fuse.
    refine apart_cons_iff.2 ⟨?_, apart_cons_iff.2 ⟨fun next _ => ?_, hapart⟩⟩
    · intro next hnext
      obtain rfl : (⟨[], .word, c :: text⟩ : Token) = next := by simpa [Tokens.cons] using hnext
      rfl
    · exact not_fuses_word (tokenRead_word hword (stopsAt_nil _) true) next

/-! ## Signs -/

/-- The punctuation that the printer writes, the point aside. -/
def isSign (c : Char) : Bool :=
  ['(', ')', '[', ']', '\x7b', '\x7d', ',', ':', ';', '=', '>', '&', '|', '+', '!'].contains c

theorem isSign_facts {c : Char} (h : isSign c = true) :
    isInert c = true ∧ isBlank c = false ∧ isWordChar c = false ∧ c.isDigit = false ∧
      c ≠ '.' ∧ c ≠ '/' ∧ c ≠ '"' ∧ c ≠ '\'' ∧ c ≠ '\x60' := by
  simp only [isSign, List.contains_eq_mem, List.mem_cons, List.not_mem_nil, or_false,
    decide_eq_true_eq] at h
  rcases h with rfl | rfl | rfl | rfl | rfl | rfl | rfl | rfl | rfl | rfl | rfl | rfl | rfl |
    rfl | rfl
  all_goals decide

theorem tokenRead_sign {c : Char} (hc : isSign c = true) (allowed : Bool) (rest : List Char) :
    TokenRead allowed c rest .punct ⟨[c], rest⟩ := by
  obtain ⟨-, hblank, hword, hdigit, hpoint, hslash, hquotes⟩ := isSign_facts hc
  exact .punct hblank hword (by simp [startsNumber, hdigit, hpoint]) hquotes
    fun hsame => absurd hsame hslash

theorem Fits.sign {c : Char} {cs : List Char} (h : Fits cs) (hc : isSign c = true) :
    Fits (c :: cs) := by
  obtain ⟨hinert, -, -, -, hpoint, -⟩ := isSign_facts hc
  refine h.token .punct [] (by simpa using hinert) (fun allowed => tokenRead_sign hc allowed cs) ?_
  intro gap next
  rw [Bool.eq_false_iff]
  intro hfuse
  rcases kind_of_fuses hfuse ⟨true, c, [], [], tokenRead_sign hc true []⟩ with hkind | ⟨-, htext⟩
  · cases hkind
  · exact hpoint (List.cons.inj htext).1

/-- Whether a character is a sign or a blank. -/
def isSignOrBlank (c : Char) : Bool := isSign c || isBlank c

theorem Fits.signs {rest : List Char} (h : Fits rest) (cs : List Char)
    (hcs : cs.all isSignOrBlank = true) : Fits (cs ++ rest) := by
  induction cs with
  | nil => exact h
  | cons c more ih =>
    rw [List.all_cons, Bool.and_eq_true] at hcs
    rcases Bool.or_eq_true_iff.1 hcs.1 with hc | hc
    · exact (ih hcs.2).sign hc
    · exact (ih hcs.2).blank hc

/-- Neither a word nor a number goes on with a sign or a blank. -/
theorem stopsAt_of_isSignOrBlank {p : Char → Bool}
    (hp : ∀ c, p c = true → isWordChar c = true ∨ c = '.') {c : Char} (rest : List Char)
    (hc : isSignOrBlank c = true) : StopsAt p (c :: rest) := by
  rw [stopsAt_cons, Bool.eq_false_iff]
  intro hgoes
  rcases Bool.or_eq_true_iff.1 hc with hc | hc
  · obtain ⟨-, -, hword, -, hpoint, -⟩ := isSign_facts hc
    rcases hp c hgoes with hsame | hsame
    · simp [hword] at hsame
    · exact hpoint hsame
  · rcases hp c hgoes with hword | rfl
    · simp [isBlank_eq_false_of_isWordChar hword] at hc
    · cases hc

/-! ## String literals -/

/-- Inert characters that are read within a string in double quotes, up to what follows them. -/
structure Quoted (cs : List Char) : Prop where
  inert : ∀ c ∈ cs, isInert c = true
  read : ∀ rest, stringTail '"' (cs ++ rest) = (stringTail '"' rest).map (Split.prepend cs)

theorem quoted_nil : Quoted [] := by
  refine ⟨by simp, fun rest => ?_⟩
  cases hread : stringTail '"' rest <;> simp [hread, Split.prepend]

theorem Quoted.append {cs more : List Char} (h : Quoted cs) (hmore : Quoted more) :
    Quoted (cs ++ more) where
  inert := by
    intro c hc
    exact (List.mem_append.1 hc).elim (h.inert c) (hmore.inert c)
  read := by
    intro rest
    rw [List.append_assoc, h.read, hmore.read, Option.map_map]
    congr 1
    funext split
    simp [Split.prepend]

theorem quoted_plain {c : Char} (hinert : isInert c = true) (hbreak : isLineBreak c = false)
    (hback : c ≠ '\\') (hquote : c ≠ '"') : Quoted [c] := by
  refine ⟨by simpa using hinert, fun rest => ?_⟩
  rw [List.singleton_append, stringTail.eq_def]
  simp [hback, hbreak, hquote]

theorem quoted_escape {c : Char} (hinert : isInert c = true) : Quoted ['\\', c] := by
  refine ⟨List.forall_mem_cons.2 ⟨rfl, by simpa using hinert⟩, fun rest => ?_⟩
  simp [stringTail]

theorem quoted_upperEscape (code : Nat) : Quoted (upperEscape code) := by
  have hdigit : ∀ n, Quoted [upperHex (n % 16)] := by
    intro n
    have hdigits : ∀ m < 16, isInert (upperHex m) = true ∧ isLineBreak (upperHex m) = false ∧
        upperHex m ≠ '\\' ∧ upperHex m ≠ '"' := by
      decide
    obtain ⟨hinert, hbreak, hback, hquote⟩ := hdigits _ (Nat.mod_lt n (by decide))
    exact quoted_plain hinert hbreak hback hquote
  exact ((((quoted_escape rfl).append (hdigit _)).append (hdigit _)).append (hdigit _)).append
    (hdigit _)

theorem quoted_literalChar (c : Char) : Quoted (literalChar c) := by
  unfold literalChar
  split
  · exact quoted_escape rfl
  split
  · exact quoted_escape rfl
  split
  · exact quoted_escape rfl
  split
  · exact quoted_escape rfl
  split
  · exact quoted_escape rfl
  split
  · exact quoted_upperEscape c.toNat
  · rename_i hquote hback hline hreturn _ hplain
    simp only [not_or] at hplain
    refine quoted_plain ?_ ?_ hback hquote
    · simp [isInert, hplain]
    · simp [isLineBreak, hline, hreturn]

theorem quoted_flatMap_literalChar (cs : List Char) : Quoted (cs.flatMap literalChar) := by
  induction cs with
  | nil => exact quoted_nil
  | cons c more ih => exact (quoted_literalChar c).append ih

/-- A string literal is read to its own closing quote, whatever the string holds. -/
theorem tokenRead_literal (allowed : Bool) (s : String) (rest : List Char) :
    TokenRead allowed '"' (s.toList.flatMap literalChar ++ ['"'] ++ rest) .str
      ⟨literalChars s, rest⟩ := by
  have hclose : stringTail '"' ('"' :: rest) = some ⟨['"'], rest⟩ := by
    rw [stringTail.eq_def]
    simp [isLineBreak]
  have hread : stringTail '"' (s.toList.flatMap literalChar ++ ['"'] ++ rest) =
      some ⟨s.toList.flatMap literalChar ++ ['"'], rest⟩ := by
    rw [List.append_assoc, List.singleton_append, (quoted_flatMap_literalChar s.toList).read,
      hclose]
    rfl
  exact .str (.inl rfl) hread

theorem Fits.literal {rest : List Char} (h : Fits rest) (s : String) :
    Fits (literalChars s ++ rest) := by
  have hquoted := quoted_flatMap_literalChar s.toList
  refine h.token .str _ ?_ (fun allowed => tokenRead_literal allowed s rest) ?_
  · intro d hd
    rcases List.mem_cons.1 hd with rfl | hd
    · rfl
    rcases List.mem_append.1 hd with hd | hd
    · exact hquoted.inert d hd
    · rw [List.mem_singleton.1 hd]
      rfl
  · intro gap next
    rw [Bool.eq_false_iff]
    intro hfuse
    simp only [fuses, Bool.and_eq_true, Option.any_eq_true] at hfuse
    obtain ⟨-, first, -, habsorbs⟩ := hfuse
    cases habsorbs

/-! ## Digits -/

/-- A number of digits ends before the next sign or blank. -/
theorem numberTail_digits {radix : Bool} {previous : Char} {text rest : List Char}
    (hprevious : previous.isDigit = true) (htext : text.all Char.isDigit = true)
    (hstop : StopsAt (fun c => isWordChar c || c == '.') rest) :
    numberTail radix previous (text ++ rest) = ⟨text, rest⟩ := by
  induction text generalizing previous with
  | nil =>
    refine numberTail_of_stopsAt (hstop.mono ?_)
    intro c hc
    -- A sign would go on with the number only behind an exponent mark.
    have hmark : (previous == 'e' || previous == 'E') = false := by
      rw [Bool.or_eq_false_iff, beq_eq_false_iff_ne, beq_eq_false_iff_ne]
      constructor <;> rintro rfl <;> cases hprevious
    simp only [continuesNumber, hmark, Bool.and_false, Bool.or_false, Bool.or_eq_true] at hc
    rcases hc with (hc | hc) | hc <;> simp [isWordChar, hc]
  | cons d more ih =>
    rw [List.all_cons, Bool.and_eq_true] at htext
    have hd : continuesNumber radix previous d = true := by
      simp [continuesNumber, Char.isAlphanum, htext.1]
    rw [List.cons_append, numberTail_cons, if_pos hd, ih htext.1 htext.2]
    rfl

theorem not_fuses_digits {gap cs : List Char} (hdigits : cs.all Char.isDigit = true)
    (next : Token) : fuses ⟨gap, .number, cs⟩ next = false := by
  rw [Bool.eq_false_iff]
  intro hfuse
  simp only [fuses, Bool.and_eq_true, List.isEmpty_iff, Option.any_eq_true] at hfuse
  obtain ⟨⟨hspaced, hsep⟩, first, hfirst, habsorbs⟩ := hfuse
  have hblank := needsBlank_eq_false_of_separator hspaced hsep
  cases cs with
  | nil => cases habsorbs
  | cons c text =>
    have hlast : (c :: text).getLast? = some (text.getLastD c) := by
      rw [List.getLast?_cons, List.getLastD_eq_getLast?]
    simp only [TokenKind.absorbs, continuesNumber] at habsorbs
    generalize text.getLastD c = last at hlast habsorbs
    have hdigit : last.isDigit = true :=
      List.all_eq_true.1 hdigits _ (List.mem_of_getLast? hlast)
    -- Behind a digit only a word character or a point goes on with the number.
    have hmark : (last == 'e' || last == 'E') = false := by
      rw [Bool.or_eq_false_iff, beq_eq_false_iff_ne, beq_eq_false_iff_ne]
      constructor <;> rintro rfl <;> cases hdigit
    have hword : isWordChar last = true := by simp [isWordChar, Char.isAlphanum, hdigit]
    simp only [needsBlank, blankBetween, hlast, hfirst] at hblank
    simp only [hmark, Bool.and_false, Bool.or_false, Bool.or_eq_true, beq_iff_eq] at habsorbs
    rcases habsorbs with (halnum | rfl) | rfl
    · have hnext : isWordChar first = true := by simp [isWordChar, halnum]
      simp [hword, hnext] at hblank
    · simp [hword, show isWordChar '_' = true from rfl] at hblank
    · simp at hblank

theorem Fits.digits {cs rest : List Char} (h : Fits rest) (hcs : cs.all Char.isDigit = true)
    (hsome : cs ≠ []) (hstop : StopsAt (fun c => isWordChar c || c == '.') rest) :
    Fits (cs ++ rest) := by
  obtain ⟨c, text, rfl⟩ := List.exists_cons_of_ne_nil hsome
  have hdigits : c.isDigit = true ∧ text.all Char.isDigit = true := by simpa using hcs
  refine h.token .number _ ?_ ?_ fun gap next => not_fuses_digits hcs next
  · intro d hd
    have hdigit := List.all_eq_true.1 hcs d hd
    cases hinert : isInert d with
    | true => rfl
    | false =>
      simp only [isInert, Bool.and_eq_false_iff, bne_eq_false_iff_eq] at hinert
      rcases hinert with (rfl | rfl) | rfl <;> cases hdigit
  · intro allowed
    have hread : TokenRead allowed c (text ++ rest) .number _ :=
      .number (by simp [startsNumber, hdigits.1])
    rw [numberTail_digits hdigits.1 hdigits.2 hstop] at hread
    exact hread

/-! ## Minifying -/

theorem Fits.tokenize {cs : List Char} (h : Fits cs) :
    ∃ tokens, tokenize cs = .ok tokens ∧ Apart tokens.tokens := h.read [] [] 0

/-- A text that fits is minified to a text of the same tokens, and that one is left as it is. -/
theorem Fits.minify {source : String} (h : Fits source.toList) :
    ∃ tokens text again, Script.tokenize source.toList = .ok tokens ∧
      Script.minify source = .ok text ∧ Script.tokenize text.toList = .ok again ∧
      again.tokens.map Token.shape = tokens.tokens.map Token.shape ∧
      Script.minify text = .ok text := by
  obtain ⟨tokens, htokens, hapart⟩ := h.tokenize
  obtain ⟨text, again, htext, hagain, hsame⟩ := exists_minified htokens hapart
  exact ⟨tokens, text, again, htokens, htext, hagain, hsame,
    minify_minified_of_apart htext htokens hapart⟩

end LiveMarkup.Script

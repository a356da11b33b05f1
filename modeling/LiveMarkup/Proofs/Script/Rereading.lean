import LiveMarkup.Proofs.Script.Absorption
import LiveMarkup.Script.Minify
import Mathlib.Data.List.Chain

/-!
# Reading minified text again

Writing tokens with the least gaps and reading the text again gives the same tokens with those gaps
(`tokenize_join`), unless two of them fuse: nothing is written between them although something stood
there, and the first one goes on with the first character of the second.
-/

set_option autoImplicit false

namespace LiveMarkup.Script

/-! ## Steps of the reader -/

theorem tokensFrom_gap {before : List Token} {gap : List Char} {offset : Nat} {c : Char}
    {rest : List Char} {split : Split}
    (h : chunk (regexAllowed before) c rest = .ok (.gap, split)) :
    tokensFrom before gap offset (c :: rest) =
      tokensFrom before (gap ++ split.read) (offset + byteLength split.read) split.rest := by
  rw [tokensFrom]
  split
  · rename_i hchunk
    simp [h] at hchunk
  · rename_i hchunk
    simp only [h, Except.ok.injEq, Prod.mk.injEq, true_and] at hchunk
    rw [hchunk]
  · rename_i hchunk
    simp [h] at hchunk

theorem tokensFrom_token {before : List Token} {gap : List Char} {offset : Nat} {c : Char}
    {rest : List Char} {kind : TokenKind} {split : Split}
    (h : chunk (regexAllowed before) c rest = .ok (.token kind, split)) :
    tokensFrom before gap offset (c :: rest) =
      (tokensFrom (⟨gap, kind, split.read⟩ :: before) [] (offset + byteLength split.read)
        split.rest).map (Tokens.cons ⟨gap, kind, split.read⟩) := by
  rw [tokensFrom]
  split
  · rename_i hchunk
    simp [h] at hchunk
  · rename_i hchunk
    simp [h] at hchunk
  · rename_i hchunk
    simp only [h, Except.ok.injEq, Prod.mk.injEq, ChunkKind.token.injEq] at hchunk
    obtain ⟨rfl, rfl⟩ := hchunk
    rfl

theorem map_cons_eq_ok_iff {token : Token} {read : Except ScriptError Tokens} {tokens : Tokens} :
    read.map (Tokens.cons token) = .ok tokens ↔
      ∃ more, read = .ok more ∧ tokens = more.cons token := by
  cases read with
  | error e => simp [Except.map]
  | ok more => simp [Except.map, eq_comm]

/-! ## Tokens that were read -/

/-- The token was read off some text. -/
def Token.WellRead (token : Token) : Prop :=
  ∃ allowed c rest tail, TokenRead allowed c rest token.kind ⟨token.text, tail⟩

theorem Token.WellRead.text_ne_nil {token : Token} (h : token.WellRead) : token.text ≠ [] := by
  obtain ⟨allowed, c, rest, tail, hread⟩ := h
  obtain ⟨text, htext, -⟩ := hread.append_of_stopsAt
  have hcons : token.text = c :: text := htext
  simp [hcons]

theorem wellRead_of_tokensFrom {before : List Token} {gap : List Char} {offset : Nat}
    {cs : List Char} {tokens : Tokens} (h : tokensFrom before gap offset cs = .ok tokens) :
    ∀ token ∈ tokens.tokens, token.WellRead := by
  fun_induction tokensFrom before gap offset cs generalizing tokens with
  | case1 =>
    simp only [Except.ok.injEq] at h
    subst h
    simp
  | case2 => simp at h
  | case3 before gap offset c rest split found ih => exact ih h
  | case4 before gap offset c rest kind split found ih =>
    obtain ⟨more, hmore, rfl⟩ := map_cons_eq_ok_iff.1 h
    intro token htoken
    rcases List.mem_cons.1 htoken with rfl | htoken
    · exact ⟨_, c, rest, split.rest, chunk_eq_token_iff.1 found⟩
    · exact ih hmore token htoken

/-- The tokens behind no gap start with the first character of the text. -/
theorem head?_eq_of_tokensFrom {before : List Token} {offset : Nat} {cs : List Char}
    {token : Token} {rest : List Token} {tail : List Char}
    (h : tokensFrom before [] offset cs = .ok ⟨token :: rest, tail⟩) (hgap : token.gap = []) :
    cs.head? = token.text.head? := by
  have hchars := chars_of_tokensFrom h
  have hnil : token.text ≠ [] := (wellRead_of_tokensFrom h token (by simp)).text_ne_nil
  rw [← List.nil_append cs, ← hchars]
  cases htext : token.text with
  | nil => exact absurd htext hnil
  | cons c more => simp [Tokens.chars, hgap, htext]

/-! ## Least gaps -/

/-- The gap that is written in front of a token behind the tokens `before`, last one first. -/
def leastGap : List Token → Token → List Char
  | [], _ => []
  | previous :: _, token => separator previous token

/-- The token with the gap that is written in front of it. -/
def Token.tightened (before : List Token) (token : Token) : Token :=
  { token with gap := leastGap before token }

/-- Tokens behind the tokens `before`, with the gaps that are written in front of them. -/
def tightenBehind : List Token → List Token → List Token
  | _, [] => []
  | before, token :: rest => token.tightened before :: tightenBehind (token :: before) rest

/-- Tokens with the gaps that are written in front of them. -/
def tighten (tokens : List Token) : List Token := tightenBehind [] tokens

/-- The tightened tokens of a list with the last one first. -/
def tightenBefore : List Token → List Token
  | [] => []
  | token :: before => token.tightened before :: tightenBefore before

/-- What is written for tokens behind the tokens `before`. -/
def joinBehind (before tokens : List Token) : List Char :=
  (tightenBehind before tokens).flatMap fun token => token.gap ++ token.text

@[simp] theorem Token.tightened_kind (before : List Token) (token : Token) :
    (token.tightened before).kind = token.kind := rfl

@[simp] theorem Token.tightened_text (before : List Token) (token : Token) :
    (token.tightened before).text = token.text := rfl

@[simp] theorem Token.tightened_gap (before : List Token) (token : Token) :
    (token.tightened before).gap = leastGap before token := rfl

@[simp] theorem joinBehind_nil (before : List Token) : joinBehind before [] = [] := rfl

theorem joinBehind_cons (before : List Token) (token : Token) (rest : List Token) :
    joinBehind before (token :: rest) =
      leastGap before token ++ (token.text ++ joinBehind (token :: before) rest) := by
  simp [joinBehind, tightenBehind]

theorem joinAfter_eq_joinBehind (previous : Token) (before tokens : List Token) :
    joinAfter previous tokens = joinBehind (previous :: before) tokens := by
  induction tokens generalizing previous before with
  | nil => rfl
  | cons token rest ih =>
    rw [joinAfter, joinBehind_cons, ih token (previous :: before), List.append_assoc]
    rfl

theorem join_eq_joinBehind (tokens : List Token) : join tokens = joinBehind [] tokens := by
  cases tokens with
  | nil => rfl
  | cons token rest => rw [join, joinBehind_cons, joinAfter_eq_joinBehind token []]; rfl

theorem separator_cases (previous token : Token) :
    separator previous token = [] ∨ separator previous token = ['\n'] ∨
      separator previous token = [' '] := by
  unfold separator
  split
  · exact .inl rfl
  split
  · exact .inr (.inl rfl)
  split
  · exact .inr (.inr rfl)
  · exact .inl rfl

theorem leastGap_cases (before : List Token) (token : Token) :
    leastGap before token = [] ∨ ∃ c, isBlank c = true ∧ leastGap before token = [c] := by
  cases before with
  | nil => exact .inl rfl
  | cons previous before =>
    rcases separator_cases previous token with h | h | h
    · exact .inl h
    · exact .inr ⟨'\n', by decide, h⟩
    · exact .inr ⟨' ', by decide, h⟩

theorem chunk_of_isBlank (allowed : Bool) {c : Char} (h : isBlank c = true) (rest : List Char) :
    chunk allowed c rest = .ok (.gap, ⟨[c], rest⟩) := by
  simp [chunk, h]

/-- A written gap is read as this gap. -/
theorem tokensFrom_leastGap (read before : List Token) (token : Token) (offset : Nat) :
    ∃ offset', ∀ cs, tokensFrom read [] offset (leastGap before token ++ cs) =
      tokensFrom read (leastGap before token) offset' cs := by
  rcases leastGap_cases before token with h | ⟨c, hc, h⟩
  · exact ⟨offset, fun cs => by rw [h]; rfl⟩
  · refine ⟨offset + byteLength [c], fun cs => ?_⟩
    rw [h]
    exact tokensFrom_gap (chunk_of_isBlank _ hc cs)

/-! ## A slash is read as before -/

theorem Token.isPunct_iff {token : Token} {c : Char} :
    token.isPunct c = true ↔ token.kind = .punct ∧ token.text = [c] := by
  simp [Token.isPunct]

/-- A token that starts with a character that starts no word, number, string or template is that
character alone, or a regular expression. -/
theorem Token.WellRead.kind_of_head? {token : Token} (h : token.WellRead) {c : Char}
    (hhead : token.text.head? = some c)
    (hc : isWordChar c = false ∧ c ≠ '.' ∧ c ≠ '"' ∧ c ≠ '\'' ∧ c ≠ '\x60') :
    token.isPunct c = true ∨ c = '/' ∧ token.kind = .regex := by
  obtain ⟨hword, hpoint, hdouble, hsingle, hback⟩ := hc
  obtain ⟨allowed, d, rest, tail, hread⟩ := h
  obtain ⟨text, htext, -⟩ := hread.append_of_stopsAt
  have hcons : token.text = d :: text := htext
  obtain rfl : d = c := by simpa [hcons] using hhead
  rw [Token.isPunct_iff]
  generalize token.kind = kind at hread ⊢
  generalize hsplit : (⟨token.text, tail⟩ : Split) = split at hread
  cases hread with
  | regex hslash => exact .inr ⟨hslash, rfl⟩
  | str hquote => exact absurd hquote (not_or.2 ⟨hdouble, hsingle⟩)
  | template hquote => exact absurd hquote hback
  | number hnumber =>
    rcases isWordChar_or_eq_of_startsNumber hnumber with h | h
    · simp [hword] at h
    · exact absurd h hpoint
  | word h => simp [hword] at h
  | punct => exact .inl ⟨rfl, congrArg Split.read hsplit⟩

theorem Token.WellRead.kind_eq_punct {token : Token} (h : token.WellRead)
    (hsign : token.text = ['+'] ∨ token.text = ['-']) : token.kind = .punct := by
  rcases hsign with htext | htext
  all_goals
    have hkind := h.kind_of_head? (by rw [htext]; rfl) (by decide)
    exact (Token.isPunct_iff.1 (hkind.resolve_right (by simp))).1

/-- Two equal signs stay apart when they are written, and only then. -/
theorem spaced_tightened_of_sign {first second : Token} (hfirst : first.kind = .punct)
    (hsame : first.text = second.text) (hsign : second.text = ['+'] ∨ second.text = ['-'])
    (before : List Token) : (second.tightened (first :: before)).spaced = second.spaced := by
  have hblank : needsBlank first second = true := by
    rcases hsign with h | h <;> simp [needsBlank, blankBetween, hsame, h, hfirst]
  show (!(separator first second).isEmpty) = second.spaced
  unfold separator
  cases hspaced : second.spaced with
  | false => simp
  | true =>
    rw [if_neg (by simp), if_pos hblank]
    split <;> rfl

theorem endsWithUpdate_tightenBefore {before : List Token}
    (hread : ∀ token ∈ before, token.WellRead)
    (hsign : ∀ token, before.head? = some token → token.text = ['+'] ∨ token.text = ['-']) :
    endsWithUpdate (tightenBefore before) = endsWithUpdate before := by
  -- Only the gap between two equal signs is looked at, and that one is always written.
  match before with
  | [] => rfl
  | [_] => rfl
  | [_, _] => rfl
  | second :: first :: operand :: more =>
    have hsecond := hsign second rfl
    simp only [tightenBefore, endsWithUpdate, Token.tightened_kind, Token.tightened_text]
    by_cases hsame : first.text = second.text
    · have hfirst := (hread first (by simp)).kind_eq_punct (by rw [hsame]; exact hsecond)
      rw [spaced_tightened_of_sign hfirst hsame hsecond]
    · rw [beq_eq_false_iff_ne.2 hsame]
      simp

/-- Whether a slash starts a regular expression is the same behind tightened tokens. -/
theorem regexAllowed_tightenBefore {before : List Token}
    (hread : ∀ token ∈ before, token.WellRead) :
    regexAllowed (tightenBefore before) = regexAllowed before := by
  cases before with
  | nil => rfl
  | cons last before =>
    have hupdate : (last.text = ['+'] ∨ last.text = ['-']) →
        endsWithUpdate (tightenBefore (last :: before)) = endsWithUpdate (last :: before) := by
      intro hsign
      refine endsWithUpdate_tightenBefore hread fun token htoken => ?_
      obtain rfl : last = token := by simpa using htoken
      exact hsign
    simp only [tightenBefore] at hupdate
    simp only [regexAllowed, tightenBefore, Token.tightened_kind, Token.tightened_text]
    cases last.kind with
    | punct =>
      by_cases hsign : last.text = ['+'] ∨ last.text = ['-']
      · simp only [hupdate hsign]
      · simp only [hsign, if_false]
    | _ => rfl

/-! ## Tokens that fuse -/

/-- Whether two tokens that did not touch are written as one: nothing is written between them, and
the first one goes on with the first character of the second. -/
def fuses (previous next : Token) : Bool :=
  next.spaced && (separator previous next).isEmpty &&
    next.text.head?.any (previous.kind.absorbs previous.text)

/-- No two neighbours of the list fuse. -/
def Apart (tokens : List Token) : Prop :=
  tokens.IsChain fun previous next => fuses previous next = false

instance (tokens : List Token) : Decidable (Apart tokens) :=
  inferInstanceAs (Decidable (tokens.IsChain _))

theorem apart_cons_iff {token : Token} {rest : List Token} :
    Apart (token :: rest) ↔ (∀ next ∈ rest.head?, fuses token next = false) ∧ Apart rest :=
  List.isChain_cons

/-- A blank ends every token. -/
theorem absorbs_eq_false_of_isBlank (kind : TokenKind) (text : List Char) {c : Char}
    (h : isBlank c = true) : kind.absorbs text c = false := by
  simp only [isBlank, isLineBreak, Bool.or_eq_true, beq_iff_eq] at h
  cases kind with
  | number =>
    cases text with
    | nil => rfl
    | cons first rest =>
      have hplain : c.isAlphanum = false := by
        rcases h with ((rfl | rfl) | rfl) | rfl | rfl <;> rfl
      rcases h with ((rfl | rfl) | rfl) | rfl | rfl <;>
        simp [TokenKind.absorbs, continuesNumber, hplain]
  | word => rcases h with ((rfl | rfl) | rfl) | rfl | rfl <;> rfl
  | punct =>
    rcases h with ((rfl | rfl) | rfl) | rfl | rfl <;>
      simp [TokenKind.absorbs, Char.isDigit]
  | regex => rcases h with ((rfl | rfl) | rfl) | rfl | rfl <;> rfl
  | str => rfl
  | template => rfl

/-- What is written behind a token that does not fuse with the next one ends it. -/
theorem stopsAt_joinBehind {before : List Token} {offset : Nat} {cs : List Char} {tokens : Tokens}
    {token : Token} (h : tokensFrom (token :: before) [] offset cs = .ok tokens)
    (hstop : StopsAt (token.kind.absorbs token.text) cs)
    (hfuse : ∀ next ∈ tokens.tokens.head?, fuses token next = false) :
    StopsAt (token.kind.absorbs token.text) (joinBehind (token :: before) tokens.tokens) := by
  obtain ⟨list, tail⟩ := tokens
  cases list with
  | nil => exact stopsAt_nil _
  | cons next rest =>
    have hnext : next.text ≠ [] := (wellRead_of_tokensFrom h next (by simp)).text_ne_nil
    rw [joinBehind_cons]
    rcases leastGap_cases (token :: before) next with hgap | ⟨c, hc, hgap⟩
    · rw [hgap, List.nil_append]
      -- Nothing is written here: either the tokens touched in the source, or they would fuse.
      intro c hc
      have hhead : next.text.head? = some c := by
        cases htext : next.text with
        | nil => exact absurd htext hnext
        | cons d more => simpa [htext] using hc
      cases hspaced : next.gap with
      | nil =>
        rw [← head?_eq_of_tokensFrom h hspaced] at hhead
        exact hstop c hhead
      | cons d more =>
        have hsep : separator token next = [] := hgap
        simpa [fuses, Token.spaced, hspaced, hsep, hhead] using hfuse next rfl
    · rw [hgap]
      exact (stopsAt_cons _ _ _).2 (absorbs_eq_false_of_isBlank _ _ hc)

/-- A token that what is written behind it ends is read again, with the gap written in front. -/
theorem tokensFrom_joinBehind_cons {before tokens : List Token} {token : Token} {c : Char}
    {rest tail : List Char} (hread : ∀ token ∈ before, token.WellRead)
    (hchunk : TokenRead (regexAllowed before) c rest token.kind ⟨token.text, tail⟩)
    (hstop : StopsAt (token.kind.absorbs token.text) (joinBehind (token :: before) tokens))
    (offset : Nat) :
    ∃ offset', tokensFrom (tightenBefore before) [] offset (joinBehind before (token :: tokens)) =
      (tokensFrom (tightenBefore (token :: before)) [] offset'
        (joinBehind (token :: before) tokens)).map (Tokens.cons (token.tightened before)) := by
  obtain ⟨text, htext, hagain⟩ := hchunk.append_of_stopsAt
  have hcons : token.text = c :: text := htext
  obtain ⟨offset', hgap⟩ := tokensFrom_leastGap (tightenBefore before) before token offset
  have hnext := chunk_eq_token_iff.2 (hagain _ hstop)
  rw [← regexAllowed_tightenBefore hread] at hnext
  refine ⟨offset' + byteLength token.text, ?_⟩
  rw [joinBehind_cons, hgap, hcons, List.cons_append, tokensFrom_token hnext, ← hcons]
  rfl

theorem wellRead_cons {before : List Token} {gap : List Char} {c : Char} {rest : List Char}
    {kind : TokenKind} {split : Split} (hread : ∀ token ∈ before, token.WellRead)
    (hchunk : TokenRead (regexAllowed before) c rest kind split) :
    ∀ token ∈ (⟨gap, kind, split.read⟩ :: before : List Token), token.WellRead := by
  intro token htoken
  rcases List.mem_cons.1 htoken with rfl | htoken
  · exact ⟨_, c, rest, split.rest, hchunk⟩
  · exact hread token htoken

/-- Written with the least gaps, tokens that stay apart are read as the tightened tokens. -/
theorem tokensFrom_joinBehind {before : List Token} {gap : List Char} {offset : Nat}
    {cs : List Char} {tokens : Tokens} (h : tokensFrom before gap offset cs = .ok tokens)
    (hread : ∀ token ∈ before, token.WellRead) (hapart : Apart tokens.tokens) (offset' : Nat) :
    tokensFrom (tightenBefore before) [] offset' (joinBehind before tokens.tokens) =
      .ok ⟨tightenBehind before tokens.tokens, []⟩ := by
  -- Induction on the reading of the source. What is carried along is that the tokens before were
  -- read off some text, so that the slashes behind them are read as in the source.
  fun_induction tokensFrom before gap offset cs generalizing tokens offset' with
  | case1 =>
    simp only [Except.ok.injEq] at h
    subst h
    simp [tokensFrom, tightenBehind]
  | case2 => simp at h
  | case3 before gap offset c rest split found ih => exact ih h hread hapart offset'
  | case4 before gap offset c rest kind split found ih =>
    obtain ⟨more, hmore, rfl⟩ := map_cons_eq_ok_iff.1 h
    have hchunk := chunk_eq_token_iff.1 found
    obtain ⟨hfuse, hapart⟩ := apart_cons_iff.1 hapart
    have hstop := stopsAt_joinBehind hmore hchunk.stopsAt_absorbs hfuse
    obtain ⟨offset'', hstep⟩ := tokensFrom_joinBehind_cons hread hchunk hstop offset'
    have hrest := ih hmore (wellRead_cons hread hchunk) hapart offset''
    rw [hrest] at hstep
    exact hstep

/-- The least text of tokens that stay apart is read as the tightened tokens. -/
theorem tokenize_join {cs : List Char} {tokens : Tokens} (h : tokenize cs = .ok tokens)
    (hapart : Apart tokens.tokens) :
    tokenize (join tokens.tokens) = .ok ⟨tighten tokens.tokens, []⟩ := by
  rw [join_eq_joinBehind]
  exact tokensFrom_joinBehind h (by simp) hapart 0

/-! ## Tokens that fuse are not read again -/

/-- What a token is apart from the gap in front of it. -/
def Token.shape (token : Token) : TokenKind × List Char := (token.kind, token.text)

theorem map_shape_tightenBehind (before tokens : List Token) :
    (tightenBehind before tokens).map Token.shape = tokens.map Token.shape := by
  induction tokens generalizing before with
  | nil => rfl
  | cons token rest ih =>
    simp only [tightenBehind, List.map_cons, ih]
    rfl

theorem needsBlank_eq_false_of_separator {previous next : Token} (hspaced : next.spaced = true)
    (hsep : separator previous next = []) : needsBlank previous next = false := by
  unfold separator at hsep
  rw [if_neg (by simp [hspaced])] at hsep
  split at hsep
  · simp at hsep
  · split at hsep
    · simp at hsep
    · rename_i hblank
      simpa using hblank

theorem Token.WellRead.isWordChar {token : Token} (h : token.WellRead)
    (hkind : token.kind = .word) : ∀ c ∈ token.text, isWordChar c = true := by
  obtain ⟨allowed, c, rest, tail, hread⟩ := h
  rw [hkind] at hread
  generalize hsplit : (⟨token.text, tail⟩ : Split) = split at hread
  cases hread with
  | word hc =>
    have htext : token.text = c :: (spanSplit LiveMarkup.Script.isWordChar rest).read :=
      congrArg Split.read hsplit
    intro d hd
    rw [htext] at hd
    rcases List.mem_cons.1 hd with rfl | hd
    · exact hc
    · exact all_spanSplit _ _ d hd

/-- Only a number or a point fuses with what follows. -/
theorem kind_of_fuses {previous next : Token} (hfuse : fuses previous next = true)
    (hread : previous.WellRead) :
    previous.kind = .number ∨ (previous.kind = .punct ∧ previous.text = ['.']) := by
  simp only [fuses, Bool.and_eq_true, List.isEmpty_iff, Option.any_eq_true] at hfuse
  obtain ⟨⟨hspaced, hsep⟩, first, hfirst, habsorbs⟩ := hfuse
  have hblank := needsBlank_eq_false_of_separator hspaced hsep
  obtain ⟨last, hlast⟩ : ∃ last, previous.text.getLast? = some last :=
    ⟨_, List.getLast?_eq_some_getLast hread.text_ne_nil⟩
  have hmem : last ∈ previous.text := List.mem_of_getLast? hlast
  -- Behind a word or a regular expression that goes on with the next character a blank is written,
  -- and so it is between a slash and another one or a star.
  simp only [needsBlank, blankBetween, hlast, hfirst] at hblank
  cases hkind : previous.kind with
  | number => exact .inl rfl
  | str => simp [TokenKind.absorbs, hkind] at habsorbs
  | template => simp [TokenKind.absorbs, hkind] at habsorbs
  | word =>
    have hword := hread.isWordChar hkind last hmem
    have hnext : isWordChar first = true := by simpa [TokenKind.absorbs, hkind] using habsorbs
    simp [hkind, hword, hnext] at hblank
  | regex =>
    have halpha : first.isAlpha = true := by simpa [TokenKind.absorbs, hkind] using habsorbs
    have hnext : isWordChar first = true := by simp [isWordChar, Char.isAlphanum, halpha]
    simp [hkind, hnext] at hblank
  | punct =>
    refine .inr ⟨rfl, ?_⟩
    simp only [hkind, TokenKind.absorbs, Bool.or_eq_true, Bool.and_eq_true, beq_iff_eq] at habsorbs
    rcases habsorbs with ⟨hpoint, -⟩ | ⟨hslash, hnext⟩
    · exact hpoint
    · have hlast' : last = '/' := by simpa [hslash] using hlast.symm
      rcases hnext with rfl | rfl <;> simp [hkind, hlast'] at hblank

/-- In front of a text that it goes on with, a number or a point is read as a longer number. -/
theorem exists_tokenRead_of_absorbs {allowed : Bool} {c d : Char} {text rest tail : List Char}
    {kind : TokenKind} (more : List Char) (hread : TokenRead allowed c rest kind ⟨c :: text, tail⟩)
    (hkind : kind = .number ∨ (kind = .punct ∧ c :: text = ['.']))
    (habsorbs : kind.absorbs (c :: text) d = true) :
    ∃ split, TokenRead allowed c (text ++ d :: more) .number split ∧
      (TokenKind.number, split.read) ≠ (kind, c :: text) := by
  have hstart : startsNumber c (text ++ d :: more) = true := by
    rcases hkind with rfl | ⟨rfl, hpoint⟩
    · generalize hsplit : (⟨c :: text, tail⟩ : Split) = split at hread
      cases hread with
      | number hc =>
        have htext : text = (numberTail (hasRadix c rest) c rest).read :=
          (List.cons.inj (congrArg Split.read hsplit)).2
        rw [htext]
        exact startsNumber_of_numberTail hc _
    · obtain ⟨rfl, rfl⟩ := List.cons.inj hpoint
      have hdigit : d.isDigit = true := by simpa [TokenKind.absorbs] using habsorbs
      simp [startsNumber, hdigit]
  -- If the number were the token itself, it would end in front of a character that it goes on with.
  refine ⟨_, .number hstart, fun hsame => ?_⟩
  obtain ⟨rfl, hsplit⟩ := Prod.mk.inj hsame
  have hagain : TokenRead allowed c (text ++ d :: more) .number _ := .number hstart
  have hstop := hagain.stopsAt_absorbs
  have happend := (chunk_append (chunk_eq_token_iff.2 hagain)).1
  rw [hsplit] at hstop happend
  have hrest : _ = d :: more := List.append_cancel_left (happend.trans (List.cons_append).symm)
  rw [hrest, stopsAt_cons, habsorbs] at hstop
  simp at hstop

theorem tokensFrom_joinBehind_of_fuses {before rest : List Token} {token next : Token} {c : Char}
    {cs tail : List Char} (hread : ∀ token ∈ before, token.WellRead)
    (hchunk : TokenRead (regexAllowed before) c cs token.kind ⟨token.text, tail⟩)
    (hfuse : fuses token next = true) {offset : Nat} {again : Tokens}
    (hagain : tokensFrom (tightenBefore before) [] offset
      (joinBehind before (token :: next :: rest)) = .ok again) :
    ∃ first more, again.tokens = first :: more ∧ first.shape ≠ token.shape := by
  have hkind := kind_of_fuses hfuse ⟨_, c, cs, tail, hchunk⟩
  simp only [fuses, Bool.and_eq_true, List.isEmpty_iff, Option.any_eq_true] at hfuse
  obtain ⟨⟨-, hsep⟩, d, hd, habsorbs⟩ := hfuse
  obtain ⟨text, htext, -⟩ := hchunk.append_of_stopsAt
  have hcons : token.text = c :: text := htext
  rw [hcons] at hchunk hkind habsorbs
  obtain ⟨more, hmore⟩ : ∃ more, joinBehind (token :: before) (next :: rest) = d :: more := by
    rw [joinBehind_cons, show leastGap (token :: before) next = [] from hsep]
    cases hnext : next.text with
    | nil => simp [hnext] at hd
    | cons e more =>
      obtain rfl : e = d := by simpa [hnext] using hd
      exact ⟨_, rfl⟩
  obtain ⟨split, hnumber, hdiffers⟩ := exists_tokenRead_of_absorbs more hchunk hkind habsorbs
  have hchunk' := chunk_eq_token_iff.2 hnumber
  rw [← regexAllowed_tightenBefore hread] at hchunk'
  obtain ⟨offset', hgap⟩ := tokensFrom_leastGap (tightenBefore before) before token offset
  rw [joinBehind_cons, hgap, hmore, hcons, List.cons_append, tokensFrom_token hchunk'] at hagain
  obtain ⟨inner, -, rfl⟩ := map_cons_eq_ok_iff.1 hagain
  refine ⟨_, inner.tokens, rfl, ?_⟩
  rw [← hcons] at hdiffers
  exact hdiffers

/-- Tokens of which the least text is read with the same kinds and texts stay apart. -/
theorem apart_of_tokensFrom_joinBehind {before : List Token} {gap : List Char} {offset : Nat}
    {cs : List Char} {tokens : Tokens} (h : tokensFrom before gap offset cs = .ok tokens)
    (hread : ∀ token ∈ before, token.WellRead) {offset' : Nat} {again : Tokens}
    (hagain : tokensFrom (tightenBefore before) [] offset' (joinBehind before tokens.tokens) =
      .ok again)
    (hsame : again.tokens.map Token.shape = tokens.tokens.map Token.shape) :
    Apart tokens.tokens := by
  fun_induction tokensFrom before gap offset cs generalizing tokens offset' again with
  | case1 =>
    simp only [Except.ok.injEq] at h
    subst h
    exact .nil
  | case2 => simp at h
  | case3 before gap offset c rest split found ih => exact ih h hread hagain hsame
  | case4 before gap offset c rest kind split found ih =>
    obtain ⟨more, hmore, rfl⟩ := map_cons_eq_ok_iff.1 h
    have hchunk := chunk_eq_token_iff.1 found
    -- If the first two tokens fused, the first one read again would differ from the first one here.
    have hfuse : ∀ next ∈ more.tokens.head?, fuses ⟨gap, kind, split.read⟩ next = false := by
      intro next hnext
      obtain ⟨others, hothers⟩ : ∃ others, more.tokens = next :: others := by
        cases hlist : more.tokens with
        | nil => simp [hlist] at hnext
        | cons first others =>
          obtain rfl : first = next := by simpa [hlist] using hnext
          exact ⟨others, rfl⟩
      cases hfuse : fuses ⟨gap, kind, split.read⟩ next with
      | false => rfl
      | true =>
        simp only [Tokens.cons, hothers] at hagain hsame
        obtain ⟨first, inner, hfirst, hdiffers⟩ :=
          tokensFrom_joinBehind_of_fuses hread hchunk hfuse hagain
        rw [hfirst] at hsame
        exact absurd (List.cons.inj hsame).1 hdiffers
    have hstop := stopsAt_joinBehind hmore hchunk.stopsAt_absorbs hfuse
    obtain ⟨offset'', hstep⟩ := tokensFrom_joinBehind_cons hread hchunk hstop offset'
    have hstep' := hstep.symm.trans hagain
    obtain ⟨inner, hinner, rfl⟩ := map_cons_eq_ok_iff.1 hstep'
    exact apart_cons_iff.2
      ⟨hfuse, ih hmore (wellRead_cons hread hchunk) hinner (List.cons.inj hsame).2⟩

end LiveMarkup.Script

import LiveMarkup.Proofs.Script.Minified

/-!
# Nothing is lost in reading

A text that is read is its tokens and the gaps between them, one after another, and every gap is white
space and comments (`gapsFit_of_tokensFrom`). Tokens are cut where characters begin, and a text that
cannot be read is given up at a place within it (`offset_of_tokensFrom_eq_error`). As a gap is only
ever replaced by one character, no text gets longer when it is minified
(`byteLength_joinBehind_le`).
-/

set_option autoImplicit false

namespace LiveMarkup.Script

/-! ## Gaps -/

/-- What may stand in front of the text `after`: white space, line comments and block comments. A
line comment goes on to the end of its line, and a block comment to the first end that it finds. -/
inductive Gap (after : List Char) : List Char → Prop
  | nil : Gap after []
  | blank {c : Char} {rest : List Char} (hc : isBlank c = true) (hrest : Gap after rest) :
      Gap after (c :: rest)
  | line {body rest : List Char} (hbody : ∀ c ∈ body, isLineBreak c = false)
      (hend : StopsAt (fun c => !isLineBreak c) (rest ++ after)) (hrest : Gap after rest) :
      Gap after ('/' :: '/' :: (body ++ rest))
  | block {body rest : List Char} (hbody : ¬ ['*', '/'] <:+: body) (hrest : Gap after rest) :
      Gap after ('/' :: '*' :: (body ++ '*' :: '/' :: rest))

/-- A block comment is read to its first end. -/
theorem blockTail_read {cs : List Char} {split : Split} (h : blockTail cs = some split) :
    ∃ body, split.read = body ++ ['*', '/'] ∧ ¬ ['*', '/'] <:+: body := by
  induction cs generalizing split with
  | nil => simp [blockTail] at h
  | cons c rest ih =>
    unfold blockTail at h
    split at h
    · simp only [Option.some.injEq] at h
      subst h
      exact ⟨[], rfl, by simp⟩
    · rename_i hopen
      obtain ⟨inner, hinner, rfl⟩ := Option.map_eq_some_iff.1 h
      obtain ⟨body, hread, hbody⟩ := ih hinner
      refine ⟨c :: body, by rw [Split.prepend, hread]; rfl, ?_⟩
      rw [List.infix_cons_iff, not_or]
      refine ⟨?_, hbody⟩
      -- An end right here would have been read: what comes next is the body or the end itself.
      rintro ⟨more, hmore⟩
      have hnext : (body ++ ['*', '/']).head? = some '/' := by
        rw [← (List.cons.inj hmore).2]
        rfl
      have hrest := blockTail_append hinner
      rw [hread] at hrest
      refine hopen ⟨(List.cons.inj hmore).1.symm, ?_⟩
      rw [← hrest, List.head?_append, hnext]
      rfl

/-- What is read between tokens is a gap in front of the gap that follows it. -/
theorem Gap.append_of_chunk {allowed : Bool} {c : Char} {rest : List Char} {split : Split}
    (h : chunk allowed c rest = .ok (.gap, split)) {more after : List Char}
    (hmore : Gap after more) (hrest : split.rest = more ++ after) : Gap after (split.read ++ more) := by
  unfold chunk at h
  dsimp only at h
  split at h
  · rename_i hblank
    simp only [Except.ok.injEq, Prod.mk.injEq, true_and] at h
    subst h
    exact .blank hblank hmore
  split at h
  · rename_i hline
    obtain ⟨rfl, hnext⟩ := hline
    simp only [Except.ok.injEq, Prod.mk.injEq, true_and] at h
    subst h
    -- The span begins with the second slash, which is no line break.
    cases rest with
    | nil => simp at hnext
    | cons d tail =>
      obtain rfl : d = '/' := by simpa using hnext
      have hbody := all_spanSplit (fun d => !isLineBreak d) tail
      have hstop := stopsAt_spanSplit (fun d => !isLineBreak d) tail
      have hspan : spanSplit (fun d => !isLineBreak d) ('/' :: tail) =
          (spanSplit (fun d => !isLineBreak d) tail).prepend ['/'] := rfl
      rw [hspan] at hrest ⊢
      simp only [Split.prepend] at hrest ⊢
      rw [hrest] at hstop
      refine .line ?_ hstop hmore
      intro d hd
      simpa using hbody d hd
  split at h
  · rename_i hblock
    obtain ⟨rfl, -⟩ := hblock
    split at h
    · rename_i inner hinner
      simp only [Except.ok.injEq, Prod.mk.injEq, true_and] at h
      subst h
      obtain ⟨body, hread, hbody⟩ := blockTail_read hinner
      have hgap := Gap.block hbody hmore
      simpa [Split.prepend, hread] using hgap
    · simp at h
  -- Every other branch reads a token.
  split at h
  · split at h <;> simp at h
  split at h
  · split at h <;> simp at h
  split at h
  · split at h <;> simp at h
  split at h
  · simp at h
  split at h
  · simp at h
  · simp at h

/-! ## Tokens and gaps -/

/-- Every token stands behind a gap, and a gap is all that stands behind the last one. -/
def GapsFit (tail : List Char) : List Token → Prop
  | [] => Gap [] tail
  | token :: rest => Gap (token.text ++ (spelled rest ++ tail)) token.gap ∧ GapsFit tail rest

/-- The tokens read behind a gap fit, if what was read of the first gap is left aside. -/
def FitsBehind (gap : List Char) (tokens : Tokens) : Prop :=
  match tokens.tokens with
  | [] => ∃ more, tokens.tail = gap ++ more ∧ Gap [] more
  | token :: rest => ∃ more, token.gap = gap ++ more ∧
      Gap (token.text ++ (spelled rest ++ tokens.tail)) more ∧ GapsFit tokens.tail rest

theorem FitsBehind.gapsFit {tokens : Tokens} (h : FitsBehind [] tokens) :
    GapsFit tokens.tail tokens.tokens := by
  obtain ⟨list, tail⟩ := tokens
  cases list with
  | nil =>
    obtain ⟨more, htail, hmore⟩ := h
    have hsame : tail = more := htail
    exact hsame ▸ hmore
  | cons token rest =>
    obtain ⟨more, hgap, hmore, hrest⟩ := h
    have hsame : token.gap = more := hgap
    exact ⟨hsame ▸ hmore, hrest⟩

theorem fitsBehind_of_tokensFrom {before : List Token} {gap : List Char} {offset : Nat}
    {cs : List Char} {tokens : Tokens} (h : tokensFrom before gap offset cs = .ok tokens) :
    FitsBehind gap tokens := by
  fun_induction tokensFrom before gap offset cs generalizing tokens with
  | case1 =>
    simp only [Except.ok.injEq] at h
    subst h
    exact ⟨[], (List.append_nil _).symm, .nil⟩
  | case2 => simp at h
  | case3 before gap offset c rest split found ih =>
    -- What was read here goes in front of what is read of the same gap later.
    have hchars := chars_of_tokensFrom h
    have hfits := ih h
    obtain ⟨list, tail⟩ := tokens
    cases list with
    | nil =>
      obtain ⟨more, htail, hmore⟩ := hfits
      have htail' : tail = gap ++ split.read ++ more := htail
      refine ⟨split.read ++ more, by simp [htail'], hmore.append_of_chunk found ?_⟩
      have hcs : gap ++ split.read ++ more = gap ++ split.read ++ split.rest := by
        rw [← hchars, ← htail']
        rfl
      rw [List.append_nil]
      exact (List.append_cancel_left hcs).symm
    | cons token others =>
      obtain ⟨more, hgap, hmore, hothers⟩ := hfits
      have hgap' : token.gap = gap ++ split.read ++ more := hgap
      refine ⟨split.read ++ more, by simp [hgap'], hmore.append_of_chunk found ?_, hothers⟩
      have hcs : gap ++ split.read ++ (more ++ (token.text ++ (spelled others ++ tail))) =
          gap ++ split.read ++ split.rest := by
        rw [← hchars, Tokens.chars, List.flatMap_cons, hgap']
        simp [spelled]
      exact (List.append_cancel_left hcs).symm
  | case4 before gap offset c rest kind split found ih =>
    obtain ⟨more, hmore, rfl⟩ := map_cons_eq_ok_iff.1 h
    exact ⟨[], (List.append_nil _).symm, .nil, (ih hmore).gapsFit⟩

/-- The tokens of a text stand behind gaps. -/
theorem gapsFit_of_tokenize {cs : List Char} {tokens : Tokens} (h : tokenize cs = .ok tokens) :
    GapsFit tokens.tail tokens.tokens :=
  (fitsBehind_of_tokensFrom h).gapsFit

theorem GapsFit.tail {tail : List Char} {tokens : List Token} (h : GapsFit tail tokens) :
    Gap [] tail := by
  induction tokens with
  | nil => exact h
  | cons token rest ih => exact ih h.2

theorem GapsFit.gap {tail : List Char} {before after : List Token} {token : Token}
    (h : GapsFit tail (before ++ token :: after)) :
    Gap (token.text ++ (spelled after ++ tail)) token.gap := by
  induction before with
  | nil => exact h.1
  | cons first before ih => exact ih h.2

/-! ## Places in a text -/

/-- What lacks its end begins within the text. -/
theorem offset_of_tokensFrom_eq_error {before : List Token} {gap : List Char} {offset : Nat}
    {cs : List Char} {error : ScriptError} (h : tokensFrom before gap offset cs = .error error) :
    offset ≤ error.offset ∧ error.offset < offset + byteLength cs := by
  fun_induction tokensFrom before gap offset cs with
  | case1 => simp at h
  | case2 before gap offset c rest kind found =>
    simp only [Except.error.injEq] at h
    subst h
    have hlength := length_le_byteLength (c :: rest)
    rw [List.length_cons] at hlength
    exact ⟨Nat.le_refl _, by simp only; omega⟩
  | case3 before gap offset c rest split found ih =>
    obtain ⟨hlow, hhigh⟩ := ih h
    rw [← (chunk_append found).1, byteLength_append]
    omega
  | case4 before gap offset c rest kind split found ih =>
    have herror : tokensFrom (⟨gap, kind, split.read⟩ :: before) []
        (offset + byteLength split.read) split.rest = .error error := by
      cases hmore : tokensFrom (⟨gap, kind, split.read⟩ :: before) []
          (offset + byteLength split.read) split.rest with
      | ok more => simp [hmore, Except.map] at h
      | error e => simpa [hmore, Except.map] using h
    obtain ⟨hlow, hhigh⟩ := ih herror
    rw [← (chunk_append found).1, byteLength_append]
    omega

/-! ## Sizes -/

theorem length_le_length_spelled {tokens : List Token} (h : ∀ token ∈ tokens, token.text ≠ []) :
    tokens.length ≤ (spelled tokens).length := by
  induction tokens with
  | nil => exact Nat.le_refl 0
  | cons token rest ih =>
    have htext := List.length_pos_iff.2 (h token List.mem_cons_self)
    have hrest := ih fun other hother => h other (List.mem_cons_of_mem _ hother)
    rw [spelled_cons, List.length_cons]
    simp only [List.length_append]
    omega

/-- The gap that is written has at most one byte, and none where there was no gap. -/
theorem byteLength_leastGap_le (before : List Token) (token : Token) :
    byteLength (leastGap before token) ≤ byteLength token.gap := by
  have hshort := length_leastGap_le before token
  have hgap := length_le_byteLength token.gap
  rcases leastGap_cases before token with h | ⟨c, hc, h⟩
  · rw [h]
    exact Nat.zero_le _
  · have hone : byteLength (leastGap before token) = 1 := by
      rw [h]
      simp only [isBlank, isLineBreak, Bool.or_eq_true, beq_iff_eq] at hc
      rcases hc with ((rfl | rfl) | rfl) | rfl | rfl <;> rfl
    rw [h, List.length_singleton] at hshort
    omega

theorem byteLength_joinBehind_le (before tokens : List Token) :
    byteLength (joinBehind before tokens) ≤ byteLength (spelled tokens) := by
  induction tokens generalizing before with
  | nil => exact Nat.le_refl _
  | cons token rest ih =>
    have hgap := byteLength_leastGap_le before token
    have hrest := ih (token :: before)
    rw [joinBehind_cons, spelled_cons]
    simp only [byteLength_append]
    omega

/-- A minified text has no more bytes and no more characters than its source. -/
theorem size_minify_le {source text : String} (h : minify source = .ok text) :
    text.utf8ByteSize ≤ source.utf8ByteSize ∧ text.length ≤ source.length := by
  obtain ⟨tokens, htokens, htext⟩ := minify_eq_ok_iff.1 h
  have hsource : spelled tokens.tokens ++ tokens.tail = source.toList := chars_of_tokens htokens
  rw [join_eq_joinBehind] at htext
  constructor
  · have hbytes := byteLength_joinBehind_le [] tokens.tokens
    rw [← byteLength_toList, ← byteLength_toList, ← htext, ← hsource, byteLength_append]
    omega
  · have hchars := length_joinBehind_le [] tokens.tokens
    rw [← String.length_toList, ← String.length_toList, ← htext, ← hsource, List.length_append]
    omega

/-! ## Kept tokens -/

theorem lex_eq_ok_iff {source : String} {kept : List Lexed} :
    lex source = .ok kept ↔
      ∃ tokens, tokenize source.toList = .ok tokens ∧ lexedFrom 0 tokens.tokens = kept := by
  rw [lex_eq]
  cases tokenize source.toList with
  | error error => simp [Except.map]
  | ok tokens => simp [Except.map]

theorem length_lexedFrom (offset : Nat) (tokens : List Token) :
    (lexedFrom offset tokens).length = tokens.length := by
  induction tokens generalizing offset with
  | nil => rfl
  | cons token rest ih => rw [lexedFrom, List.length_cons, ih, List.length_cons]

/-- What the lexer keeps of a token in the middle of others. -/
theorem getElem?_lexedFrom (before after : List Token) (token : Token) :
    (lexedFrom 0 (before ++ token :: after))[before.length]? =
      some (token.lexed (byteLength (spelled before ++ token.gap))) := by
  have hlength := length_lexedFrom 0 before
  have hchars : (Tokens.mk before []).chars = spelled before := List.append_nil _
  rw [lexedFrom_append, List.getElem?_append_right (Nat.le_of_eq hlength), hlength, Nat.sub_self,
    hchars, Nat.zero_add, byteLength_append]
  rfl

/-- The marks of a token tell whether there is a gap in front of it, and a line break in it. -/
theorem Token.marks_iff (token : Token) :
    (token.spaced = true ↔ token.gap ≠ []) ∧
      (token.newline = true ↔ '\n' ∈ token.gap ∨ '\r' ∈ token.gap) := by
  constructor
  · simp [Token.spaced]
  · rw [Token.newline, List.any_eq_true]
    constructor
    · rintro ⟨c, hc, hbreak⟩
      simp only [isLineBreak, Bool.or_eq_true, beq_iff_eq] at hbreak
      rcases hbreak with rfl | rfl
      · exact .inl hc
      · exact .inr hc
    · rintro (hc | hc)
      · exact ⟨_, hc, rfl⟩
      · exact ⟨_, hc, rfl⟩

/-! ## Main result -/

/-- The lexer comes to the end of every text: either at something within the text that lacks its own
end, or with at most one token for each character. Wherever it has got to it stands between two
characters. What it keeps are the tokens of the text, which is these and the gaps one after another.
Every token has characters, which are the bytes from its beginning to its end, both between
characters; the gap in front of it is white space and comments, and the marks that the lexer set and
cleared on its way say whether there is a gap and a line break in it. The minified text is no longer
than the text. -/
theorem tokenize_lossless (source : String) :
    ((∃ error, lex source = .error error ∧ error.offset < source.utf8ByteSize) ∨
      ∃ kept, lex source = .ok kept ∧ kept.length ≤ source.length) ∧
    (∀ lexer : Lexer, lexer.Reached source → String.Pos.Raw.IsValid source ⟨lexer.pos⟩) ∧
    (∀ kept, lex source = .ok kept →
      ∃ tokens, tokenize source.toList = .ok tokens ∧ tokens.tokens.length = kept.length ∧
        source.toList =
          tokens.tokens.flatMap (fun token => token.gap ++ token.text) ++ tokens.tail ∧
        Gap [] tokens.tail ∧
        ∀ before token after, tokens.tokens = before ++ token :: after →
          Gap (token.text ++ (spelled after ++ tokens.tail)) token.gap ∧
          ∃ found stop, kept[before.length]? = some found ∧
            found.kind = token.kind ∧ found.text.toList = token.text ∧ token.text ≠ [] ∧
            found.start = byteLength (spelled before ++ token.gap) ∧
            stop = found.start + found.text.utf8ByteSize ∧
            String.Pos.Raw.IsValid source ⟨found.start⟩ ∧ String.Pos.Raw.IsValid source ⟨stop⟩ ∧
            String.Pos.Raw.extract source ⟨found.start⟩ ⟨stop⟩ = found.text ∧
            (found.spaced = true ↔ token.gap ≠ []) ∧
            (found.newline = true ↔ '\n' ∈ token.gap ∨ '\r' ∈ token.gap)) ∧
    ∀ text, minify source = .ok text →
      text.utf8ByteSize ≤ source.utf8ByteSize ∧ text.length ≤ source.length := by
  refine ⟨?_, ?_, ?_, fun text => size_minify_le⟩
  · rw [lex_eq]
    cases hread : tokenize source.toList with
    | error error =>
      have hoffset := (offset_of_tokensFrom_eq_error hread).2
      rw [Nat.zero_add, byteLength_toList] at hoffset
      exact .inl ⟨error, rfl, hoffset⟩
    | ok tokens =>
      have hsource : spelled tokens.tokens ++ tokens.tail = source.toList := chars_of_tokens hread
      have hcount := length_le_length_spelled fun token htoken =>
        (wellRead_of_tokensFrom hread token htoken).text_ne_nil
      refine .inr ⟨lexedFrom 0 tokens.tokens, rfl, ?_⟩
      rw [length_lexedFrom, ← String.length_toList, ← hsource, List.length_append]
      omega
  · intro lexer hlexer
    obtain ⟨before, gap, cs, hstands⟩ := hlexer.stands
    exact hstands.isValid
  · intro kept hkept
    obtain ⟨tokens, htokens, rfl⟩ := lex_eq_ok_iff.1 hkept
    have hsource : spelled tokens.tokens ++ tokens.tail = source.toList := chars_of_tokens htokens
    have hfits := gapsFit_of_tokenize htokens
    refine ⟨tokens, htokens, (length_lexedFrom 0 _).symm, hsource.symm, hfits.tail, ?_⟩
    intro before token after hsplit
    rw [hsplit] at hfits
    have hwell : token.WellRead := wellRead_of_tokensFrom htokens token (by simp [hsplit])
    have hparts : source.toList =
        (spelled before ++ token.gap) ++ token.text ++ (spelled after ++ tokens.tail) := by
      rw [← hsource, hsplit]
      simp [spelled]
    obtain ⟨hstart, hstop, hextract⟩ := extract_of_toList_eq hparts
    have hsize : (String.ofList token.text).utf8ByteSize = byteLength token.text := by
      rw [← byteLength_toList, String.toList_ofList]
    refine ⟨hfits.gap, token.lexed (byteLength (spelled before ++ token.gap)), _, ?_, rfl,
      String.toList_ofList, hwell.text_ne_nil, rfl, rfl, hstart, ?_, ?_, token.marks_iff⟩
    · rw [hsplit]
      exact getElem?_lexedFrom before after token
    · simp only [Token.lexed, hsize]
      exact hstop
    · simp only [Token.lexed, hsize]
      exact hextract

/-- A string with an escaped character of two bytes is cut out whole behind a comment. -/
theorem tokenize_lossless_escaped :
    lex "x/*é*/'\\ü'" = .ok [⟨.word, 0, "x", false, false⟩, ⟨.str, 7, "'\\ü'", true, false⟩] ∧
      Gap ['\'', '\\', 'ü', '\''] ['/', '*', 'é', '*', '/'] ∧
      String.Pos.Raw.IsValid "x/*é*/'\\ü'" ⟨7⟩ ∧ String.Pos.Raw.IsValid "x/*é*/'\\ü'" ⟨12⟩ ∧
      String.Pos.Raw.extract "x/*é*/'\\ü'" ⟨7⟩ ⟨12⟩ = "'\\ü'" := by
  have htokens : tokenize "x/*é*/'\\ü'".toList = .ok ⟨[⟨[], .word, ['x']⟩,
      ⟨['/', '*', 'é', '*', '/'], .str, ['\'', '\\', 'ü', '\'']⟩], []⟩ := by
    decide +kernel
  have hkept : lex "x/*é*/'\\ü'" =
      .ok [⟨.word, 0, "x", false, false⟩, ⟨.str, 7, "'\\ü'", true, false⟩] := by
    rw [lex_eq, htokens]
    rfl
  obtain ⟨tokens, hread, -, -, -, hcut⟩ := (tokenize_lossless _).2.2.1 _ hkept
  obtain rfl := Except.ok.inj (htokens.symm.trans hread)
  obtain ⟨hgap, found, stop, hfound, -, -, -, -, rfl, hstart, hstop, htext, -⟩ :=
    hcut [⟨[], .word, ['x']⟩] _ [] rfl
  obtain rfl := Option.some.inj hfound
  exact ⟨hkept, hgap, hstart, hstop, htext⟩

end LiveMarkup.Script

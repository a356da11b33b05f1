import LiveMarkup.Proofs.Script.Nested

/-!
# The lexer reads the tokens of a text

The lexer walks over bytes and keeps what it needs for the next token; `tokenize` reads characters and
keeps the gaps. At every place the lexer stands behind the same tokens, in front of the bytes of the
characters that are left, and its marks say of the gap since the last token what the gap itself says
(`Lexer.Stands`, `takes_step`). So it keeps the tokens of the text (`lex_eq`), and what the program
writes is what is said of the characters (`minify_eq`).
-/

set_option autoImplicit false

namespace LiveMarkup.Script

/-! ## Tokens as they are kept -/

/-- A token that begins at byte `start`, as the lexer keeps it. -/
def Token.lexed (start : Nat) (token : Token) : Lexed where
  kind := token.kind
  start := start
  text := String.ofList token.text
  spaced := token.spaced
  newline := token.newline

/-- Tokens as the lexer keeps them, where the gap of the first one begins at byte `offset`. -/
def lexedFrom (offset : Nat) : List Token → List Lexed
  | [] => []
  | token :: rest =>
    token.lexed (offset + byteLength token.gap) ::
      lexedFrom (offset + byteLength token.gap + byteLength token.text) rest

theorem lexedFrom_append (offset : Nat) (tokens more : List Token) :
    lexedFrom offset (tokens ++ more) = lexedFrom offset tokens ++
      lexedFrom (offset + byteLength (Tokens.mk tokens []).chars) more := by
  induction tokens generalizing offset with
  | nil => rfl
  | cons token rest ih =>
    have hchars := Tokens.chars_cons token ⟨rest, []⟩
    rw [List.cons_append, lexedFrom, lexedFrom, ih, List.cons_append]
    congr 3
    rw [show (Tokens.mk (token :: rest) []).chars = _ from hchars, byteLength_append,
      byteLength_append]
    omega

theorem Tokens.chars_eq_append (tokens : List Token) (gap : List Char) :
    (Tokens.mk tokens gap).chars = (Tokens.mk tokens []).chars ++ gap := by
  simp [Tokens.chars]

/-- The tokens read, last one first, as the lexer keeps them. -/
def keptBefore (before : List Token) : List Lexed := (lexedFrom 0 before.reverse).reverse

theorem keptBefore_cons (token : Token) (before : List Token) :
    keptBefore (token :: before) =
      token.lexed (byteLength (Tokens.mk before.reverse token.gap).chars) :: keptBefore before := by
  rw [keptBefore, List.reverse_cons, lexedFrom_append, List.reverse_append, Nat.zero_add,
    Tokens.chars_eq_append _ token.gap, byteLength_append]
  rfl

/-! ## Regular expressions behind kept tokens -/

theorem ofList_eq_iff {cs : List Char} {s : String} : String.ofList cs = s ↔ cs = s.toList := by
  constructor
  · rintro rfl
    exact String.toList_ofList.symm
  · rintro rfl
    exact String.ofList_toList

theorem endWithUpdate_keptBefore (before : List Token) :
    Lexed.endWithUpdate (keptBefore before) = endsWithUpdate before := by
  have hsame : ∀ cs more : List Char, (String.ofList cs == String.ofList more) = (cs == more) := by
    intro cs more
    rw [Bool.eq_iff_iff, beq_iff_eq, beq_iff_eq, ofList_eq_iff, String.toList_ofList]
  match before with
  | [] => rfl
  | [_] => rfl
  | [_, _] => rfl
  | second :: first :: operand :: before =>
    rw [keptBefore_cons, keptBefore_cons, keptBefore_cons, Lexed.endWithUpdate, endsWithUpdate]
    simp only [Token.lexed, hsame]

/-- A slash behind the kept tokens starts a regular expression if it does behind the tokens. -/
theorem regexAllowed_of_tokens {lexer : Lexer} {before : List Token}
    (h : lexer.tokens = keptBefore before) : lexer.regexAllowed = regexAllowed before := by
  unfold Lexer.regexAllowed
  cases before with
  | nil =>
    rw [h]
    rfl
  | cons last before =>
    have hupdate := endWithUpdate_keptBefore (last :: before)
    rw [← h] at hupdate
    rw [keptBefore_cons] at h
    rw [hupdate, h]
    simp only [Token.lexed, ofList_eq_iff, regexAllowed]
    cases last.kind with
    | word =>
      simp only
      rw [Bool.eq_iff_iff, List.contains_iff_mem, List.any_eq_true]
      constructor
      · intro hmem
        exact ⟨_, hmem, by simp⟩
      · rintro ⟨word, hmem, hword⟩
        rw [beq_iff_eq] at hword
        rwa [← hword, String.ofList_toList]
    | punct => rfl
    | number => rfl
    | str => rfl
    | template => rfl
    | regex => rfl

/-! ## Where the lexer stands -/

/-- The lexer stands in a text behind tokens, last one first, and the gap since the last one, in front
of characters: its place is the end of what it read, and its marks tell of the gap. -/
structure Lexer.Stands (source : String) (lexer : Lexer) (before : List Token) (gap cs : List Char) :
    Prop where
  same : lexer.source = source
  text : source.toList = (Tokens.mk before.reverse gap).chars ++ cs
  pos : lexer.pos = byteLength (Tokens.mk before.reverse gap).chars
  rest : lexer.rest = encode cs
  tokens : lexer.tokens = keptBefore before
  spaced : lexer.spaced = !gap.isEmpty
  newline : lexer.newline = gap.any isLineBreak

theorem Lexer.stands_start (source : String) :
    (Lexer.start source).Stands source [] [] source.toList where
  same := rfl
  text := rfl
  pos := rfl
  rest := toUTF8_eq_encode source
  tokens := rfl
  spaced := rfl
  newline := rfl

namespace Lexer.Stands

variable {source : String} {lexer next : Lexer} {before : List Token} {gap cs : List Char}
  {split : Split}

theorem pos_add (h : lexer.Stands source before gap cs) (more : List Char) :
    lexer.pos + byteLength more = byteLength (Tokens.mk before.reverse (gap ++ more)).chars := by
  rw [h.pos, Tokens.chars_eq_append, Tokens.chars_eq_append _ (gap ++ more)]
  simp only [byteLength_append, Nat.add_assoc]

/-- The place tells how much is left of the text. -/
theorem pos_add_rest (h : lexer.Stands source before gap cs) :
    lexer.pos + byteLength cs = source.utf8ByteSize := by
  rw [← byteLength_toList, h.text, byteLength_append, h.pos]

/-- The place of the lexer is one between two characters. -/
theorem isValid (h : lexer.Stands source before gap cs) :
    String.Pos.Raw.IsValid source ⟨lexer.pos⟩ := by
  have hparts : source.toList = (Tokens.mk before.reverse gap).chars ++ [] ++ cs := by
    rw [List.append_nil, h.text]
  rw [h.pos]
  exact (extract_of_toList_eq hparts).1

/-- Behind more of a gap the marks tell of the longer gap. -/
theorem pass (h : lexer.Stands source before gap cs) (hsplit : split.read ++ split.rest = cs)
    (hread : split.read ≠ []) (hsource : next.source = lexer.source)
    (hplace : next.toCursor = split.cursor lexer.pos) (htokens : next.tokens = lexer.tokens)
    (hspaced : next.spaced = true)
    (hnewline : next.newline = (lexer.newline || split.read.any isLineBreak)) :
    next.Stands source before (gap ++ split.read) split.rest where
  same := hsource.trans h.same
  text := by
    rw [h.text, ← hsplit, Tokens.chars_eq_append, Tokens.chars_eq_append _ (gap ++ split.read)]
    simp only [List.append_assoc]
  pos := by
    rw [hplace]
    exact h.pos_add split.read
  rest := by
    rw [hplace]
    rfl
  tokens := htokens.trans h.tokens
  spaced := by
    rw [hspaced]
    simp [hread]
  newline := by rw [hnewline, h.newline, List.any_append]

/-- A token takes the marks along, and its text is cut out between two characters. -/
theorem push (h : lexer.Stands source before gap cs) (hsplit : split.read ++ split.rest = cs)
    (kind : TokenKind) :
    (lexer.push kind (split.cursor lexer.pos)).Stands source
      (⟨gap, kind, split.read⟩ :: before) [] split.rest where
  same := h.same
  text := by
    rw [h.text, ← hsplit]
    simp [Tokens.chars]
  pos := by
    change lexer.pos + byteLength split.read = _
    rw [h.pos_add]
    simp [Tokens.chars]
  rest := rfl
  tokens := by
    have hparts : source.toList =
        (Tokens.mk before.reverse gap).chars ++ split.read ++ split.rest := by
      rw [h.text, ← hsplit, List.append_assoc]
    have hcut := (extract_of_toList_eq hparts).2.2
    rw [← h.pos] at hcut
    rw [keptBefore_cons, ← h.tokens]
    simp only [Lexer.push, Split.cursor, h.same, hcut, h.spaced, h.newline, ← h.pos]
    rfl
  spaced := rfl
  newline := rfl

end Lexer.Stands

/-! ## Steps -/

theorem any_nextChar {p : Char → Bool} (hp : ∀ c, Wide c → p c = false) (cs : List Char) :
    (nextChar (encode cs)).any p = cs.head?.any p := by
  cases cs with
  | nil => rfl
  | cons c rest =>
    rcases utf8EncodeChar_cases c with ⟨-, b, hbytes, rfl⟩ | ⟨hc, b, more, hbytes, hb, -⟩
    · rw [encode_cons, hbytes]
      rfl
    · rw [encode_cons, hbytes]
      change p (byteChar b) = p c
      rw [hp _ hb, hp _ hc]

theorem any_encode {p : Char → Bool} (hp : ∀ c, Wide c → p c = false) (cs : List Char) :
    ((encode cs).any fun b => p (byteChar b)) = cs.any p := by
  induction cs with
  | nil => rfl
  | cons c rest ih =>
    rw [encode_cons, List.any_append, ih, List.any_cons]
    congr 1
    rcases utf8EncodeChar_cases c with ⟨-, b, hbytes, rfl⟩ | ⟨hc, b, more, hbytes, hb, hmore⟩
    · rw [hbytes, List.any_cons, List.any_nil, Bool.or_false]
    · rw [hbytes, List.any_cons, hp _ hb, hp _ hc, Bool.false_or, List.any_eq_false]
      intro d hd
      simp [hp _ (hmore d hd)]

theorem length_encode (cs : List Char) : (encode cs).length = byteLength cs := by
  induction cs with
  | nil => rfl
  | cons c rest ih =>
    rw [encode_cons, List.length_append, String.length_utf8EncodeChar, ih, byteLength_cons]

/-- The bytes that were read of a text. -/
theorem take_encode {cs : List Char} {split : Split} (h : split.read ++ split.rest = cs) :
    (encode cs).take (byteLength split.read) = encode split.read := by
  rw [← h, encode_append, ← length_encode, List.take_left]

/-- What the lexer does where the next part of the text is this: it fails where the part lacks its end,
or stands behind the part. -/
inductive Lexer.Takes (source : String) (before : List Token) (gap : List Char) (pos : Nat) :
    Except Unterminated (ChunkKind × Split) → Except ScriptError Lexer → Prop
  | failed (what : Unterminated) : Takes source before gap pos (.error what) (.error ⟨what, pos⟩)
  | passed {split : Split} {next : Lexer}
      (h : next.Stands source before (gap ++ split.read) split.rest) :
      Takes source before gap pos (.ok (.gap, split)) (.ok next)
  | pushed {kind : TokenKind} {split : Split} {next : Lexer}
      (h : next.Stands source (⟨gap, kind, split.read⟩ :: before) [] split.rest) :
      Takes source before gap pos (.ok (.token kind, split)) (.ok next)

section Steps

variable {source : String} {lexer : Lexer} {before : List Token} {gap : List Char} {c : Char}
  {rest : List Char} {bytes : List UInt8}

theorem pushLiteral_some {kind : TokenKind} {what : Unterminated} {place : Option (Ahead bytes)}
    {cursor : Cursor} (h : cursor? place = some cursor) :
    lexer.pushLiteral kind what place = .ok (lexer.push kind cursor) := by
  obtain ⟨inner, rfl, rfl⟩ := Option.map_eq_some_iff.1 h
  rfl

theorem pushLiteral_none {kind : TokenKind} {what : Unterminated} {place : Option (Ahead bytes)}
    (h : cursor? place = none) : lexer.pushLiteral kind what place = .error ⟨what, lexer.pos⟩ := by
  obtain rfl := Option.map_eq_none_iff.1 h
  rfl

/-- Where both take a branch by the same test, either branch may be looked at on its own. -/
theorem Lexer.Takes.branch {pos : Nat} {test : Prop} {decided decided' : Decidable test}
    {part part' : Except Unterminated (ChunkKind × Split)} {result result' : Except ScriptError Lexer}
    (holds : test → Takes source before gap pos part result)
    (fails : ¬ test → Takes source before gap pos part' result') :
    Takes source before gap pos (@ite _ test decided part part')
      (@ite _ test decided' result result') := by
  by_cases htest : test
  · rw [if_pos htest, if_pos htest]
    exact holds htest
  · rw [if_neg htest, if_neg htest]
    exact fails htest

/-- Where the next part is a token, the lexer keeps it. -/
theorem Lexer.Stands.takes_token (h : lexer.Stands source before gap (c :: rest))
    {kind : TokenKind} {split : Split} (hsplit : split.read ++ split.rest = rest)
    {cursor : Cursor} (hcursor : cursor = split.cursor (lexer.pos + c.utf8Size)) :
    Takes source before gap lexer.pos (.ok (.token kind, split.prepend [c]))
      (.ok (lexer.push kind cursor)) := by
  have hplace : cursor = (split.prepend [c]).cursor lexer.pos := by
    rw [hcursor, Split.cursor_prepend, byteLength_singleton]
  rw [hplace]
  exact .pushed (h.push (by rw [Split.prepend_append, hsplit]; rfl) kind)

/-- Where the next part is a literal, the lexer keeps it or fails where it begins. -/
theorem Lexer.Stands.takes_literal (h : lexer.Stands source before gap (c :: rest))
    {kind : TokenKind} {what : Unterminated} {place : Option (Ahead bytes)} (found : Option Split)
    (hplace : cursor? place = found.map (Split.cursor (lexer.pos + c.utf8Size)))
    (hfound : ∀ split, found = some split → split.read ++ split.rest = rest)
    {part : Except Unterminated (ChunkKind × Split)}
    (hnone : found = none → part = .error what)
    (hsome : ∀ split, found = some split → part = .ok (.token kind, split.prepend [c])) :
    Takes source before gap lexer.pos part (lexer.pushLiteral kind what place) := by
  cases found with
  | none =>
    rw [hnone rfl, pushLiteral_none hplace]
    exact .failed what
  | some split =>
    rw [hsome split rfl, pushLiteral_some hplace]
    exact h.takes_token (hfound split rfl) rfl

/-- Where the next part is a block comment, the lexer passes it or fails where it begins. -/
theorem Lexer.Stands.takes_comment {more : List Char}
    (h : lexer.Stands source before gap (c :: '*' :: more)) (hc : c = '/')
    {place : Option (Ahead (encode more))} {found : Option Split}
    (hplace : cursor? place = found.map (Split.cursor (lexer.pos + 2)))
    (hfound : ∀ split, found = some split → split.read ++ split.rest = more)
    {part : Except Unterminated (ChunkKind × Split)}
    (hnone : found = none → part = .error .comment)
    (hsome : ∀ split, found = some split → part = .ok (.gap, split.prepend ['/', '*'])) :
    Takes source before gap lexer.pos part (lexer.passComment place) := by
  cases found with
  | none =>
    obtain rfl := Option.map_eq_none_iff.1 hplace
    rw [hnone rfl]
    exact .failed .comment
  | some split =>
    obtain ⟨inner, rfl, hcursor⟩ := Option.map_eq_some_iff.1 hplace
    have happend := hfound split rfl
    have hpos : inner.pos - (lexer.pos + 2) = byteLength split.read := by
      rw [hcursor, Split.cursor, Nat.add_sub_cancel_left]
    rw [hsome split rfl]
    refine .passed (h.pass (by rw [Split.prepend_append, happend, hc]; rfl) (by simp [Split.prepend])
      rfl ?_ rfl rfl ?_)
    · rw [Split.cursor_prepend]
      exact hcursor
    · rw [hpos, take_encode happend, any_encode fun c hc => Wide.isLineBreak hc]
      rfl

/-- A blank is passed, and only a line break leaves the mark of one. -/
theorem Lexer.Stands.takes_blank (h : lexer.Stands source before gap (c :: rest))
    (hsize : c.utf8Size = 1) :
    Takes source before gap lexer.pos (.ok (.gap, ⟨[c], rest⟩))
      (if isLineBreak c then
        .ok { lexer with toCursor := ⟨lexer.pos + 1, encode rest⟩, spaced := true, newline := true }
      else .ok { lexer with toCursor := ⟨lexer.pos + 1, encode rest⟩, spaced := true }) := by
  have hplace : (⟨lexer.pos + 1, encode rest⟩ : Cursor) = Split.cursor lexer.pos ⟨[c], rest⟩ := by
    rw [Split.cursor, byteLength_singleton, hsize]
  by_cases hbreak : isLineBreak c = true
  · rw [if_pos hbreak]
    exact .passed (h.pass (by rfl) (by simp) rfl hplace rfl rfl (by simp [hbreak]))
  · rw [if_neg hbreak]
    exact .passed (h.pass (by rfl) (by simp) rfl hplace rfl rfl (by simp [hbreak]))

/-- A line comment ends in front of its line break, so it leaves the mark of a blank only. -/
theorem Lexer.Stands.takes_line (h : lexer.Stands source before gap (c :: rest))
    (hsize : c.utf8Size = 1) (hbreak : ¬ isLineBreak c = true) :
    Takes source before gap lexer.pos
      (.ok (.gap, (spanSplit (fun d => !isLineBreak d) rest).prepend [c]))
      (.ok { lexer with
        toCursor := scanWhile (fun d => !isLineBreak d) (lexer.pos + 1) (encode rest)
        spaced := true }) := by
  have hbody := all_spanSplit (fun d => !isLineBreak d) rest
  have hnone : ((spanSplit (fun d => !isLineBreak d) rest).prepend [c]).read.any isLineBreak =
      false := by
    rw [List.any_eq_false]
    intro d hd
    rcases List.mem_cons.1 hd with rfl | hd
    · exact hbreak
    · simpa using hbody d hd
  refine .passed (h.pass (by rw [Split.prepend_append, spanSplit_append]; rfl)
    (by simp [Split.prepend]) rfl ?_ rfl rfl ?_)
  · rw [scanWhile_encode uniform_not_isLineBreak, Split.cursor_prepend, byteLength_singleton, hsize]
  · rw [hnone, Bool.or_false]

/-- A character outside ASCII begins a word. -/
theorem takes_wide (h : lexer.Stands source before gap (c :: rest)) (hc : Wide c) {b : UInt8}
    (hbytes : lexer.rest = b :: bytes) :
    Lexer.Takes source before gap lexer.pos (chunk (regexAllowed before) c rest)
      (lexer.step b bytes) := by
  have hwhile : PassesWide fun pos bytes => scanWhile isWordChar pos bytes := by
    intro pos d more hd
    dsimp only
    rw [scanWhile, if_pos hd.isWordChar]
  obtain ⟨b', more, hencode, hskip⟩ := over_skipped hwhile c
  have hb : Wide (byteChar b) ∧ b' = b ∧ more ++ encode rest = bytes := by
    rw [h.rest, encode_cons, hencode] at hbytes
    injection hbytes with hfirst hmore
    refine ⟨?_, hfirst, hmore⟩
    rcases utf8EncodeChar_cases c with ⟨hascii, -⟩ | ⟨-, d, others, hbytes', hd, -⟩
    · exact absurd hc hascii
    · rw [hencode] at hbytes'
      injection hbytes' with hfirst'
      rwa [← hfirst, hfirst']
  obtain ⟨hb, rfl, rfl⟩ := hb
  have hchunk : chunk (regexAllowed before) c rest =
      .ok (.token .word, (spanSplit isWordChar rest).prepend [c]) := by
    have hquote : ¬ (c = '"' ∨ c = '\'') := fun h => h.elim (hc.ne (by decide)) (hc.ne (by decide))
    simp [chunk, hc.isBlank, hc.ne (d := '/') (by decide), hquote,
      hc.ne (d := '\x60') (by decide), hc.isDigit, hc.ne (d := '.') (by decide), hc.isWordChar]
  have hstep : lexer.step b' (more ++ encode rest) =
      .ok (lexer.push .word (scanWhile isWordChar (lexer.pos + 1) (more ++ encode rest))) := by
    have hquote : ¬ (byteChar b' = '"' ∨ byteChar b' = '\'') :=
      fun h => h.elim (hb.ne (by decide)) (hb.ne (by decide))
    simp [Lexer.step, hb.isLineBreak, hb.isBlank, hb.ne (d := '/') (by decide), hquote,
      hb.ne (d := '\x60') (by decide), hb.isDigit, hb.ne (d := '.') (by decide), hb.isWordChar]
  rw [hchunk, hstep]
  refine h.takes_token (spanSplit_append _ _) ?_
  rw [hskip lexer.pos, scanWhile_encode uniform_isWordChar]

theorem not_radix_of_wide {c : Char} (hc : Wide c) :
    ['x', 'X', 'b', 'B', 'o', 'O'].contains c = false := by
  rw [Bool.eq_false_iff]
  intro h
  have hmem := List.contains_iff_mem.1 h
  simp only [List.mem_cons, List.not_mem_nil, or_false] at hmem
  rcases hmem with rfl | rfl | rfl | rfl | rfl | rfl <;> exact absurd hc (by decide)

/-- Every step of the lexer takes the next part of the text. -/
theorem takes_step (h : lexer.Stands source before gap (c :: rest)) {b : UInt8}
    (hbytes : lexer.rest = b :: bytes) :
    Lexer.Takes source before gap lexer.pos (chunk (regexAllowed before) c rest)
      (lexer.step b bytes) := by
  by_cases hc : Wide c
  · exact takes_wide h hc hbytes
  -- A character of ASCII is its byte, and the branches are taken by the same tests.
  obtain ⟨b', rfl, hsize, hencode⟩ := encode_ascii hc
  obtain ⟨rfl, rfl⟩ : b = b' ∧ bytes = encode rest := by
    rw [h.rest, hencode] at hbytes
    injection hbytes with hfirst hmore
    exact ⟨hfirst.symm, hmore.symm⟩
  have hallowed := regexAllowed_of_tokens h.tokens
  have hslash := nextChar_encode (c := '/') (by decide) rest
  have hstar := nextChar_encode (c := '*') (by decide) rest
  have hdigit := any_nextChar (fun c hc => Wide.isDigit hc) rest
  have hradix := any_nextChar (fun c hc => not_radix_of_wide hc) rest
  unfold chunk Lexer.step
  dsimp only
  simp only [hslash, hstar, hdigit, hradix, hallowed]
  by_cases hblank : isBlank (byteChar b) = true
  · rw [if_pos hblank, if_pos hblank]
    exact h.takes_blank hsize
  have hbreak : ¬ isLineBreak (byteChar b) = true := by
    intro hbreak
    exact hblank (by simp [isBlank, hbreak])
  rw [if_neg hblank, if_neg hbreak, if_neg hblank]
  refine .branch (fun _ => h.takes_line hsize hbreak) fun _ => ?_
  refine .branch (fun hblock => ?block) fun _ => ?_
  case block =>
    obtain ⟨hslash', hhead⟩ := hblock
    obtain ⟨more, rfl⟩ := List.head?_eq_some_iff.1 hhead
    obtain ⟨d, -, hsize', hencode'⟩ := encode_ascii (c := '*') (by decide)
    rw [hencode', List.tail_cons, List.tail_cons]
    exact h.takes_comment hslash' (scanBlock_encode _ _) (fun _ => blockTail_append)
      (fun hnone => by rw [hnone]) fun split hsplit => by rw [hsplit]
  refine .branch (fun _ => ?regex) fun _ => ?_
  case regex =>
    refine h.takes_literal ((regexTail false rest).map Split.withLetters) ?_ ?_ ?_ ?_
    · rw [scanRegex_encode, Option.map_map, hsize]
      rfl
    · intro split hsplit
      obtain ⟨inner, hinner, rfl⟩ := Option.map_eq_some_iff.1 hsplit
      rw [Split.withLetters, Split.prepend_append, spanSplit_append]
      exact regexTail_append hinner
    · intro hnone
      rw [Option.map_eq_none_iff.1 hnone]
    · intro split hsplit
      obtain ⟨inner, hinner, rfl⟩ := Option.map_eq_some_iff.1 hsplit
      rw [hinner]
      rfl
  refine .branch (fun _ => ?string) fun _ => ?_
  case string =>
    refine h.takes_literal (stringTail (byteChar b) rest) ?_ (fun _ => stringTail_append)
      (fun hnone => by rw [hnone]) fun split hsplit => by rw [hsplit]
    rw [scanString_encode hc, hsize]
  refine .branch (fun _ => ?template) fun _ => ?_
  case template =>
    refine h.takes_literal (templateTail ⟨.text, []⟩ rest) ?_ (fun _ => templateTail_append)
      (fun hnone => by rw [hnone]) fun split hsplit => by rw [hsplit]
    rw [scanTemplate_encode, hsize]
  refine .branch (fun _ => ?number) fun _ => ?_
  case number =>
    refine h.takes_token (numberTail_append _ _ _) ?_
    rw [scanNumber_encode, hsize]
    rfl
  refine .branch (fun _ => ?word) fun _ => ?sign
  case word =>
    refine h.takes_token (spanSplit_append _ _) ?_
    rw [scanWhile_encode uniform_isWordChar, hsize]
  case sign =>
    have hempty : (⟨[], rest⟩ : Split).read ++ (⟨[], rest⟩ : Split).rest = rest := rfl
    refine h.takes_token hempty ?_
    rw [Split.cursor, hsize]
    rfl

end Steps

/-! ## Runs -/

theorem Lexer.run_nil {lexer : Lexer} (h : lexer.rest = []) :
    lexer.run = .ok lexer.tokens.reverse := by
  rw [Lexer.run]
  split
  · rfl
  · rename_i hrest
    rw [h] at hrest
    cases hrest

theorem Lexer.run_cons {lexer : Lexer} {b : UInt8} {bytes : List UInt8}
    (h : lexer.rest = b :: bytes) : lexer.run = (lexer.step b bytes).bind Lexer.run := by
  rw [Lexer.run]
  split
  · rename_i hrest
    rw [h] at hrest
    cases hrest
  · rename_i hrest
    rw [h] at hrest
    cases hrest
    split
    · rename_i hstep
      rw [hstep]
      rfl
    · rename_i hstep
      rw [hstep]
      rfl

theorem exists_encode_cons (c : Char) (rest : List Char) :
    ∃ b bytes, encode (c :: rest) = b :: bytes := by
  obtain ⟨-, b, hbytes, -⟩ | ⟨-, b, more, hbytes, -⟩ := utf8EncodeChar_cases c
  · exact ⟨b, encode rest, by rw [encode_cons, hbytes]; rfl⟩
  · exact ⟨b, more ++ encode rest, by rw [encode_cons, hbytes]; rfl⟩

/-- Behind the next part of the text the lexer is on by its length. -/
theorem pos_of_chunk {allowed : Bool} {c : Char} {rest : List Char} {kind : ChunkKind} {split : Split}
    (found : chunk allowed c rest = .ok (kind, split)) {source : String} {lexer : Lexer}
    {before : List Token} {gap : List Char} (h : lexer.Stands source before gap (c :: rest))
    {offset : Nat} (hoffset : lexer.pos = offset) {next : Lexer} {after : List Token}
    {more : List Char} (hnext : next.Stands source after more split.rest) :
    next.pos = offset + byteLength split.read := by
  have hall := h.pos_add_rest
  have hleft := hnext.pos_add_rest
  rw [← (chunk_append found).1, byteLength_append] at hall
  omega

/-- A run goes on behind the next part of the text, or fails with it. -/
theorem Lexer.Stands.exists_run_eq {source : String} {lexer : Lexer} {before : List Token}
    {gap : List Char} {c : Char} {rest : List Char} (h : lexer.Stands source before gap (c :: rest)) :
    ∃ result, Takes source before gap lexer.pos (chunk (Script.regexAllowed before) c rest) result ∧
      lexer.run = result.bind Lexer.run := by
  obtain ⟨b, bytes, hbytes⟩ := exists_encode_cons c rest
  have hrest := h.rest.trans hbytes
  exact ⟨lexer.step b bytes, takes_step h hrest, Lexer.run_cons hrest⟩

/-- From wherever the lexer stands it keeps the tokens that are read from there. -/
theorem run_of_stands {source : String} {lexer : Lexer} {before : List Token} {gap cs : List Char}
    (h : lexer.Stands source before gap cs) :
    lexer.run = (tokensFrom before gap lexer.pos cs).map fun tokens =>
      lexedFrom 0 (before.reverse ++ tokens.tokens) := by
  generalize hoffset : lexer.pos = offset
  fun_induction tokensFrom before gap offset cs generalizing lexer with
  | case1 before gap offset =>
    rw [Lexer.run_nil h.rest, h.tokens, keptBefore, List.reverse_reverse]
    simp [Except.map]
  | case2 before gap offset c rest what found =>
    obtain ⟨result, htakes, hrun⟩ := h.exists_run_eq
    rw [found] at htakes
    cases htakes with
    | failed =>
      rw [hrun, hoffset]
      rfl
  | case3 before gap offset c rest split found ih =>
    obtain ⟨result, htakes, hrun⟩ := h.exists_run_eq
    rw [found] at htakes
    cases htakes with
    | passed hnext => exact hrun.trans (ih hnext (pos_of_chunk found h hoffset hnext))
  | case4 before gap offset c rest kind split found ih =>
    obtain ⟨result, htakes, hrun⟩ := h.exists_run_eq
    rw [found] at htakes
    cases htakes with
    | pushed hnext =>
      refine (hrun.trans (ih hnext (pos_of_chunk found h hoffset hnext))).trans ?_
      cases tokensFrom (⟨gap, kind, split.read⟩ :: before) [] (offset + byteLength split.read)
          split.rest with
      | error error => rfl
      | ok more => simp [Except.map, Tokens.cons]

/-- The lexer keeps the tokens that are read of the text, and fails where and as they do. -/
theorem lex_eq (source : String) :
    lex source = (tokenize source.toList).map fun tokens => lexedFrom 0 tokens.tokens := by
  rw [lex, run_of_stands (Lexer.stands_start source)]
  rfl

/-- The lexers that reading a text goes through. -/
inductive Lexer.Reached (source : String) : Lexer → Prop
  | start : Reached source (Lexer.start source)
  | step {lexer next : Lexer} {b : UInt8} {bytes : List UInt8} (h : Reached source lexer)
      (hrest : lexer.rest = b :: bytes) (hstep : lexer.step b bytes = .ok next) : Reached source next

/-- Whatever the lexer has read, it stands in the text behind tokens and a gap. -/
theorem Lexer.Reached.stands {source : String} {lexer : Lexer} (h : lexer.Reached source) :
    ∃ before gap cs, lexer.Stands source before gap cs := by
  induction h with
  | start => exact ⟨[], [], source.toList, Lexer.stands_start source⟩
  | @step lexer next b bytes _ hrest hstep ih =>
    obtain ⟨before, gap, cs, hstands⟩ := ih
    cases cs with
    | nil =>
      rw [hstands.rest] at hrest
      cases hrest
    | cons c rest =>
      have htakes := takes_step hstands hrest
      rw [hstep] at htakes
      generalize chunk (Script.regexAllowed before) c rest = part at htakes
      cases htakes with
      | passed hnext => exact ⟨_, _, _, hnext⟩
      | pushed hnext => exact ⟨_, _, _, hnext⟩

/-! ## Separators -/

/-- One of these is told from ASCII where the other is. -/
def Alike (c d : Char) : Prop := c = d ∨ Wide c ∧ Wide d

theorem Alike.isWordChar {c d : Char} (h : Alike c d) : isWordChar c = isWordChar d := by
  rcases h with rfl | ⟨hc, hd⟩
  · rfl
  · rw [hc.isWordChar, hd.isWordChar]

theorem Alike.beq {c d e : Char} (h : Alike c d) (he : ¬ Wide e) : (c == e) = (d == e) := by
  rcases h with rfl | ⟨hc, hd⟩
  · rfl
  · rw [beq_false_of_ne (hc.ne he), beq_false_of_ne (hd.ne he)]

theorem blankBetween_alike (kind : TokenKind) {last last' first first' : Char}
    (hlast : Alike last last') (hfirst : Alike first first') :
    blankBetween kind last first = blankBetween kind last' first' := by
  have hpoint : first = '.' ↔ first' = '.' := by
    rw [← beq_iff_eq, hfirst.beq (by decide), beq_iff_eq]
  simp only [blankBetween, hpoint, hfirst.isWordChar, hlast.isWordChar,
    hfirst.beq (e := '+') (by decide), hfirst.beq (e := '-') (by decide),
    hfirst.beq (e := '/') (by decide), hfirst.beq (e := '*') (by decide),
    hlast.beq (e := '+') (by decide), hlast.beq (e := '-') (by decide),
    hlast.beq (e := '/') (by decide)]

/-- All bytes of a character are like it. -/
theorem alike_of_mem_utf8EncodeChar {c : Char} {b : UInt8} (h : b ∈ String.utf8EncodeChar c) :
    Alike (byteChar b) c := by
  rcases utf8EncodeChar_cases c with ⟨-, d, hbytes, rfl⟩ | ⟨hc, d, more, hbytes, hd, hmore⟩
  · rw [hbytes, List.mem_singleton] at h
    exact .inl (congrArg byteChar h)
  · rw [hbytes] at h
    rcases List.mem_cons.1 h with rfl | hb
    · exact .inr ⟨hd, hc⟩
    · exact .inr ⟨hmore b hb, hc⟩

/-- The first byte of a text is like its first character, and the last byte like the last one. -/
theorem ends_encode {cs : List Char} (h : cs ≠ []) :
    (∃ b, (encode cs).head? = some b ∧ Alike (byteChar b) (cs.head h)) ∧
      ∃ b, (encode cs).getLast? = some b ∧ Alike (byteChar b) (cs.getLast h) := by
  constructor
  · cases cs with
    | nil => exact absurd rfl h
    | cons c rest =>
      obtain ⟨b, bytes, hbytes⟩ := List.exists_cons_of_ne_nil (String.utf8EncodeChar_ne_nil (c := c))
      have hfirst : b ∈ String.utf8EncodeChar c := hbytes ▸ List.mem_cons_self
      exact ⟨b, by rw [encode_cons, hbytes]; rfl, alike_of_mem_utf8EncodeChar hfirst⟩
  · obtain ⟨front, c, rfl⟩ := (List.eq_nil_or_concat' cs).resolve_left h
    have hbytes := String.utf8EncodeChar_ne_nil (c := c)
    refine ⟨(String.utf8EncodeChar c).getLast hbytes, ?_, ?_⟩
    · rw [encode_append, encode_cons, encode_nil, List.append_nil, List.getLast?_append,
        List.getLast?_eq_some_getLast hbytes]
      rfl
    · rw [List.getLast_append_singleton]
      exact alike_of_mem_utf8EncodeChar (List.getLast_mem hbytes)

theorem bytes_lexed (token : Token) (start : Nat) :
    (token.lexed start).bytes = (encode token.text).map byteChar := by
  rw [Lexed.bytes, toUTF8_eq_encode, Token.lexed, String.toList_ofList]

/-- Kept tokens need a blank where the tokens do. -/
theorem needsBlank_lexed (previous next : Token) (start stop : Nat) :
    (previous.lexed start).needsBlank (next.lexed stop) = needsBlank previous next := by
  rw [Lexed.needsBlank, needsBlank, bytes_lexed, bytes_lexed, List.getLast?_map, List.head?_map]
  by_cases hlast : previous.text = []
  · simp [hlast]
  by_cases hfirst : next.text = []
  · simp [hfirst]
  obtain ⟨-, last, hbyte, hlike⟩ := ends_encode hlast
  obtain ⟨⟨first, hbyte', hlike'⟩, -⟩ := ends_encode hfirst
  rw [hbyte, hbyte', List.getLast?_eq_some_getLast hlast, List.head?_eq_some_head hfirst]
  exact blankBetween_alike previous.kind hlike hlike'

theorem separator_lexed (previous next : Token) (start stop : Nat) :
    (previous.lexed start).separator (next.lexed stop) = String.ofList (separator previous next) := by
  have hbare : ∀ (token : Token) (start : Nat),
      (token.lexed start).bare = ⟨[], token.kind, token.text⟩ := by
    intro token start
    simp [Lexed.bare, Token.lexed]
  rw [Lexed.separator, separator, needsBlank_lexed, hbare, hbare]
  change (if !next.spaced then "" else if next.newline && previous.canEndStatement &&
    next.canStartStatement then "\n" else if needsBlank previous next then " " else "") = _
  split
  · rfl
  split
  · rfl
  split
  · rfl
  · rfl

theorem joinOnto_lexedFrom (out : String) (previous : Token) (start offset : Nat)
    (tokens : List Token) :
    Lexed.joinOnto out (previous.lexed start) (lexedFrom offset tokens) =
      out ++ String.ofList (joinAfter previous tokens) := by
  induction tokens generalizing out previous start offset with
  | nil => simp [lexedFrom, Lexed.joinOnto, joinAfter]
  | cons token rest ih =>
    rw [lexedFrom, Lexed.joinOnto, ih, separator_lexed, joinAfter, String.ofList_append,
      String.ofList_append, String.append_assoc, String.append_assoc, String.append_assoc]
    rfl

theorem join_lexedFrom (offset : Nat) (tokens : List Token) :
    Lexed.join (lexedFrom offset tokens) = String.ofList (join tokens) := by
  cases tokens with
  | nil => rfl
  | cons token rest =>
    rw [lexedFrom, Lexed.join, joinOnto_lexedFrom, join, String.ofList_append]
    rfl

/-- The program writes what is said of the characters of a text. -/
theorem minify_eq (source : String) :
    minify source = (minifyChars source.toList).map String.ofList := by
  rw [minify, minifyChars, lex_eq]
  cases tokenize source.toList with
  | error error => rfl
  | ok tokens => exact congrArg Except.ok (join_lexedFrom 0 tokens.tokens)

end LiveMarkup.Script

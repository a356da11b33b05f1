import LiveMarkup.Script.Token

/-!
# Where a token ends

A scanner for strings, templates or regular expressions finds its own end: what it reads does not
depend on what follows (`Local`). Words, numbers and flags end where the next character does not go
on with them. `TokenKind.absorbs` says which characters those are, for every kind of token: no token
is read with such a character behind it (`TokenRead.stopsAt_absorbs`), and a token is read again in
front of every other text (`TokenRead.append_of_stopsAt`).
-/

set_option autoImplicit false

namespace LiveMarkup.Script

/-- Nothing, or a text whose first character is outside the class. -/
def StopsAt (p : Char → Bool) (cs : List Char) : Prop := ∀ c ∈ cs.head?, p c = false

/-- A scanner whose reading does not depend on what follows it. -/
def Local (scan : List Char → Option Split) : Prop :=
  ∀ cs split, scan cs = some split → ∀ tail, scan (split.read ++ tail) = some ⟨split.read, tail⟩

@[simp] theorem stopsAt_nil (p : Char → Bool) : StopsAt p [] := by
  intro c hc
  simp at hc

@[simp] theorem stopsAt_cons (p : Char → Bool) (c : Char) (cs : List Char) :
    StopsAt p (c :: cs) ↔ p c = false := by
  simp [StopsAt]

/-! ## Spans -/

theorem spanSplit_append_of_stopsAt {p : Char → Bool} {cs tail : List Char}
    (hcs : ∀ c ∈ cs, p c = true) (hstop : StopsAt p tail) :
    spanSplit p (cs ++ tail) = ⟨cs, tail⟩ := by
  unfold spanSplit
  rw [List.takeWhile_append_of_pos hcs, List.dropWhile_append_of_pos hcs]
  cases tail with
  | nil => simp
  | cons c rest =>
    rw [stopsAt_cons] at hstop
    simp [hstop]

theorem all_spanSplit (p : Char → Bool) (cs : List Char) :
    ∀ c ∈ (spanSplit p cs).read, p c = true :=
  List.all_eq_true.1 List.all_takeWhile

theorem stopsAt_spanSplit (p : Char → Bool) (cs : List Char) : StopsAt p (spanSplit p cs).rest := by
  intro c hc
  have hstop := List.head?_dropWhile_not p cs
  have hhead : (cs.dropWhile p).head? = some c := hc
  rw [hhead] at hstop
  exact hstop

/-! ## Scanners that find their own end -/

theorem stringTail_local (quote : Char) : Local (stringTail quote) := by
  intro cs
  -- The cases are the branches of the scanner, which takes the same ones in front of any tail.
  fun_induction stringTail quote cs with
  | case1 => intro split h; simp at h
  | case2 => intro split h; simp at h
  | case3 d more ih =>
    intro split h tail
    obtain ⟨inner, hinner, rfl⟩ := Option.map_eq_some_iff.1 h
    simp [Split.prepend, stringTail, ih inner hinner tail]
  | case4 => intro split h; simp at h
  | case5 rest hback hbreak =>
    intro split h tail
    simp only [Option.some.injEq] at h
    subst h
    rw [stringTail.eq_def]
    simp [hback, hbreak]
  | case6 c rest hback hbreak hquote ih =>
    intro split h tail
    obtain ⟨inner, hinner, rfl⟩ := Option.map_eq_some_iff.1 h
    rw [stringTail.eq_def]
    simp [Split.prepend, hback, hbreak, hquote, ih inner hinner tail]

theorem regexTail_local (inClass : Bool) : Local (regexTail inClass) := by
  intro cs
  fun_induction regexTail inClass cs with
  | case1 => intro split h; simp at h
  | case2 => intro split h; simp at h
  | case3 => intro split h; simp at h
  | case4 inClass d more hbreak ih =>
    intro split h tail
    obtain ⟨inner, hinner, rfl⟩ := Option.map_eq_some_iff.1 h
    simp [Split.prepend, regexTail, hbreak, ih inner hinner tail]
  | case5 inClass rest hbreak hback ih =>
    intro split h tail
    obtain ⟨inner, hinner, rfl⟩ := Option.map_eq_some_iff.1 h
    rw [regexTail.eq_def]
    simp [Split.prepend, hbreak, ih inner hinner tail]
  | case6 inClass rest hbreak hback hopen ih =>
    intro split h tail
    obtain ⟨inner, hinner, rfl⟩ := Option.map_eq_some_iff.1 h
    rw [regexTail.eq_def]
    simp [Split.prepend, hbreak, ih inner hinner tail]
  | case7 inClass c rest hbreak hback hopen hclose hslash =>
    intro split h tail
    simp only [Option.some.injEq] at h
    subst h
    obtain ⟨rfl, hclass⟩ := hslash
    rw [regexTail.eq_def]
    simp [hbreak, hclass]
  | case8 inClass c rest hbreak hback hopen hclose hslash ih =>
    intro split h tail
    obtain ⟨inner, hinner, rfl⟩ := Option.map_eq_some_iff.1 h
    rw [regexTail.eq_def]
    simp only [Split.prepend, List.cons_append, List.nil_append, if_neg hbreak, if_neg hback,
      if_neg hopen, if_neg hclose, if_neg hslash, ih inner hinner tail]
    rfl

theorem stepTemplateCode_ne_done (depth : Nat) (outer : List Nat) (c : Char) :
    stepTemplateCode depth outer c ≠ .done := by
  unfold stepTemplateCode
  split
  · simp
  split
  · cases depth <;> simp
  split
  · simp
  split
  · simp
  split
  · simp
  · simp

theorem of_stepTemplateText_done {outer : List Nat} {c : Char}
    (h : stepTemplateText outer c = .done) : c = '\x60' ∧ outer = [] := by
  unfold stepTemplateText at h
  split at h
  · simp at h
  split at h
  · simp at h
  split at h
  · rename_i hquote
    cases outer with
    | nil => exact ⟨hquote, rfl⟩
    | cons depth outer => simp at h
  · simp at h

/-- Only a back quote in the text of the outermost template ends it. -/
theorem of_stepTemplate_done {state : TemplateState} {c : Char}
    (h : stepTemplate state c = .done) :
    c = '\x60' ∧ state.outer = [] ∧ (state.part = .text ∨ state.part = .textDollar) := by
  obtain ⟨part, outer⟩ := state
  cases part with
  | text =>
    obtain ⟨hc, houter⟩ := of_stepTemplateText_done h
    exact ⟨hc, houter, .inl rfl⟩
  | textDollar =>
    simp only [stepTemplate] at h
    split at h
    · simp at h
    · obtain ⟨hc, houter⟩ := of_stepTemplateText_done h
      exact ⟨hc, houter, .inr rfl⟩
  | code depth => exact absurd h (stepTemplateCode_ne_done _ _ _)
  | codeSlash depth =>
    simp only [stepTemplate] at h
    split at h
    · simp at h
    split at h
    · simp at h
    · exact absurd h (stepTemplateCode_ne_done _ _ _)
  | quoted quote depth =>
    simp only [stepTemplate] at h
    split at h
    · simp at h
    split at h
    · simp at h
    split at h
    · simp at h
    · simp at h
  | textEscape => simp [stepTemplate] at h
  | quotedEscape quote depth => simp [stepTemplate] at h
  | block depth => simp [stepTemplate] at h
  | blockStar depth => simp [stepTemplate] at h
  | line depth => simp [stepTemplate] at h

theorem templateTail_local (state : TemplateState) : Local (templateTail state) := by
  intro cs
  induction cs generalizing state with
  | nil => intro split h; simp [templateTail] at h
  | cons c rest ih =>
    intro split h tail
    unfold templateTail at h
    split at h
    · rename_i next hstep
      obtain ⟨inner, hinner, rfl⟩ := Option.map_eq_some_iff.1 h
      simp [Split.prepend, templateTail, hstep, ih next inner hinner tail]
    · rename_i hstep
      simp only [Option.some.injEq] at h
      subst h
      simp [templateTail, hstep]
    · simp at h

/-! ## Numbers -/

/-- Whether a number goes on with `c` behind its character `previous`. -/
def continuesNumber (radix : Bool) (previous c : Char) : Bool :=
  c.isAlphanum || c == '_' || c == '.' ||
    (!radix && (c == '+' || c == '-') && (previous == 'e' || previous == 'E'))

theorem numberTail_cons (radix : Bool) (previous c : Char) (rest : List Char) :
    numberTail radix previous (c :: rest) =
      if continuesNumber radix previous c then (numberTail radix c rest).prepend [c]
      else ⟨[], c :: rest⟩ := rfl

theorem stopsAt_numberTail (radix : Bool) (previous : Char) (cs : List Char) :
    StopsAt (continuesNumber radix ((numberTail radix previous cs).read.getLastD previous))
      (numberTail radix previous cs).rest := by
  induction cs generalizing previous with
  | nil => exact stopsAt_nil _
  | cons c rest ih =>
    rw [numberTail_cons]
    split
    · simpa only [Split.prepend, List.cons_append, List.nil_append, List.getLastD_cons] using ih c
    · rename_i hstop
      simpa using hstop

theorem numberTail_of_stopsAt {radix : Bool} {previous : Char} {tail : List Char}
    (hstop : StopsAt (continuesNumber radix previous) tail) :
    numberTail radix previous tail = ⟨[], tail⟩ := by
  cases tail with
  | nil => rfl
  | cons d more =>
    rw [stopsAt_cons] at hstop
    rw [numberTail_cons, if_neg (by simp [hstop])]

theorem numberTail_append_of_stopsAt {radix : Bool} {previous : Char} {cs tail : List Char}
    (hstop : StopsAt
      (continuesNumber radix ((numberTail radix previous cs).read.getLastD previous)) tail) :
    numberTail radix previous ((numberTail radix previous cs).read ++ tail) =
      ⟨(numberTail radix previous cs).read, tail⟩ := by
  induction cs generalizing previous with
  | nil => exact numberTail_of_stopsAt hstop
  | cons c rest ih =>
    rw [numberTail_cons] at hstop ⊢
    split at hstop
    · rename_i hc
      rw [if_pos hc]
      simp only [Split.prepend, List.cons_append, List.nil_append, List.getLastD_cons] at hstop ⊢
      rw [numberTail_cons, if_pos hc, ih hstop]
      rfl
    · rename_i hc
      rw [if_neg hc]
      exact numberTail_of_stopsAt hstop

theorem numberTail_plain (radix : Bool) (previous : Char) (cs : List Char) :
    ∀ c ∈ (numberTail radix previous cs).read,
      isWordChar c = true ∨ c = '.' ∨ c = '+' ∨ c = '-' := by
  induction cs generalizing previous with
  | nil => intro c hc; simp [numberTail] at hc
  | cons d rest ih =>
    intro c hc
    rw [numberTail_cons] at hc
    split at hc
    · rename_i hd
      rcases List.mem_cons.1 hc with rfl | hc
      · simp only [continuesNumber, Bool.or_eq_true, Bool.and_eq_true, beq_iff_eq] at hd
        rcases hd with ((hd | rfl) | rfl) | ⟨⟨-, hd⟩, -⟩
        · exact .inl (by simp [isWordChar, hd])
        · exact .inl (by decide)
        · exact .inr (.inl rfl)
        · exact .inr (.inr hd)
      · exact ih d c hc
    · simp at hc

/-! ## The tokens of a chunk -/

/-- A comment starts with a slash in front of this text. -/
def opensComment (rest : List Char) : Prop := rest.head? = some '/' ∨ rest.head? = some '*'

/-- A number starts with `c` in front of this text. -/
def startsNumber (c : Char) (rest : List Char) : Bool :=
  c.isDigit || (c == '.' && rest.head?.any Char.isDigit)

/-- How a token is read off a text that starts with `c`. -/
inductive TokenRead (allowed : Bool) (c : Char) (rest : List Char) : TokenKind → Split → Prop
  | regex {split : Split} (hc : c = '/') (hallowed : allowed = true) (hopen : ¬ opensComment rest)
      (hread : regexTail false rest = some split) :
      TokenRead allowed c rest .regex
        (((spanSplit Char.isAlpha split.rest).prepend split.read).prepend [c])
  | str {split : Split} (hc : c = '"' ∨ c = '\'') (hread : stringTail c rest = some split) :
      TokenRead allowed c rest .str (split.prepend [c])
  | template {split : Split} (hc : c = '\x60')
      (hread : templateTail ⟨.text, []⟩ rest = some split) :
      TokenRead allowed c rest .template (split.prepend [c])
  | number (hc : startsNumber c rest = true) :
      TokenRead allowed c rest .number ((numberTail (hasRadix c rest) c rest).prepend [c])
  | word (hc : isWordChar c = true) (hnumber : startsNumber c rest = false) :
      TokenRead allowed c rest .word ((spanSplit isWordChar rest).prepend [c])
  | punct (hblank : isBlank c = false) (hword : isWordChar c = false)
      (hnumber : startsNumber c rest = false) (hquote : c ≠ '"' ∧ c ≠ '\'' ∧ c ≠ '\x60')
      (hslash : c = '/' → allowed = false ∧ ¬ opensComment rest) :
      TokenRead allowed c rest .punct ⟨[c], rest⟩

theorem isBlank_eq_false_of_isWordChar {c : Char} (h : isWordChar c = true) :
    isBlank c = false := by
  cases hblank : isBlank c with
  | false => rfl
  | true =>
    simp only [isBlank, isLineBreak, Bool.or_eq_true, beq_iff_eq] at hblank
    rcases hblank with ((rfl | rfl) | rfl) | rfl | rfl <;> revert h <;> decide

theorem ne_of_isWordChar {c d : Char} (h : isWordChar c = true) (hd : isWordChar d = false) :
    c ≠ d := by
  rintro rfl
  simp [h] at hd

theorem isWordChar_or_eq_of_startsNumber {c : Char} {rest : List Char}
    (h : startsNumber c rest = true) : isWordChar c = true ∨ c = '.' := by
  simp only [startsNumber, Bool.or_eq_true, Bool.and_eq_true, beq_iff_eq] at h
  rcases h with h | ⟨h, -⟩
  · exact .inl (by simp [isWordChar, Char.isAlphanum, h])
  · exact .inr h

/-- A character that starts a number or a word starts nothing else. -/
theorem plain_of_startsNumber_or_isWordChar {c : Char} (rest : List Char)
    (h : startsNumber c rest = true ∨ isWordChar c = true) :
    isBlank c = false ∧ c ≠ '/' ∧ c ≠ '"' ∧ c ≠ '\'' ∧ c ≠ '\x60' := by
  have hcases : isWordChar c = true ∨ c = '.' :=
    h.elim isWordChar_or_eq_of_startsNumber .inl
  rcases hcases with hc | rfl
  · exact ⟨isBlank_eq_false_of_isWordChar hc, ne_of_isWordChar hc (by decide),
      ne_of_isWordChar hc (by decide), ne_of_isWordChar hc (by decide),
      ne_of_isWordChar hc (by decide)⟩
  · decide

theorem tokenRead_of_chunk {allowed : Bool} {c : Char} {rest : List Char} {kind : TokenKind}
    {split : Split} (h : chunk allowed c rest = .ok (.token kind, split)) :
    TokenRead allowed c rest kind split := by
  -- One `split` for each test of `chunk`, in its order: a test that failed is named, since the
  -- tests behind it rely on that.
  unfold chunk at h
  dsimp only at h
  split at h
  · simp at h
  rename_i hblank
  split at h
  · simp at h
  rename_i hline
  split at h
  · split at h <;> simp at h
  rename_i hblock
  split at h
  · rename_i hregex
    split at h
    · rename_i inner hread
      simp only [Except.ok.injEq, Prod.mk.injEq, ChunkKind.token.injEq] at h
      obtain ⟨rfl, rfl⟩ := h
      obtain ⟨rfl, hallowed⟩ := hregex
      exact .regex rfl hallowed (not_or.2 ⟨fun h => hline ⟨rfl, h⟩, fun h => hblock ⟨rfl, h⟩⟩) hread
    · simp at h
  rename_i hregex
  split at h
  · rename_i hquote
    split at h
    · rename_i inner hread
      simp only [Except.ok.injEq, Prod.mk.injEq, ChunkKind.token.injEq] at h
      obtain ⟨rfl, rfl⟩ := h
      exact .str hquote hread
    · simp at h
  rename_i hquote
  split at h
  · rename_i hback
    split at h
    · rename_i inner hread
      simp only [Except.ok.injEq, Prod.mk.injEq, ChunkKind.token.injEq] at h
      obtain ⟨rfl, rfl⟩ := h
      exact .template hback hread
    · simp at h
  rename_i hback
  split at h
  · rename_i hnumber
    simp only [Except.ok.injEq, Prod.mk.injEq, ChunkKind.token.injEq] at h
    obtain ⟨rfl, rfl⟩ := h
    exact .number hnumber
  rename_i hnumber
  have hnumber' : startsNumber c rest = false := by simpa [startsNumber] using hnumber
  split at h
  · rename_i hword
    simp only [Except.ok.injEq, Prod.mk.injEq, ChunkKind.token.injEq] at h
    obtain ⟨rfl, rfl⟩ := h
    exact .word hword hnumber'
  · rename_i hword
    simp only [Except.ok.injEq, Prod.mk.injEq, ChunkKind.token.injEq] at h
    obtain ⟨rfl, rfl⟩ := h
    refine .punct (by simpa using hblank) (by simpa using hword) hnumber'
      ⟨fun hc => hquote (.inl hc), fun hc => hquote (.inr hc), hback⟩ ?_
    rintro rfl
    exact ⟨by simpa using hregex,
      not_or.2 ⟨fun h => hline ⟨rfl, h⟩, fun h => hblock ⟨rfl, h⟩⟩⟩

theorem chunk_of_tokenRead {allowed : Bool} {c : Char} {rest : List Char} {kind : TokenKind}
    {split : Split} (h : TokenRead allowed c rest kind split) :
    chunk allowed c rest = .ok (.token kind, split) := by
  cases h with
  | regex hc hallowed hopen hread =>
    subst hc
    simp only [opensComment, not_or] at hopen
    simp [chunk, isBlank, isLineBreak, hopen, hallowed, hread]
  | str hc hread => rcases hc with rfl | rfl <;> simp [chunk, isBlank, isLineBreak, hread]
  | template hc hread =>
    subst hc
    simp [chunk, isBlank, isLineBreak, hread]
  | number hc =>
    obtain ⟨hblank, hslash, hquote, hsingle, hback⟩ :=
      plain_of_startsNumber_or_isWordChar _ (.inl hc)
    simp only [startsNumber] at hc
    simp [chunk, hblank, hslash, hquote, hsingle, hback, hc]
  | word hc hnumber =>
    obtain ⟨hblank, hslash, hquote, hsingle, hback⟩ :=
      plain_of_startsNumber_or_isWordChar rest (.inr hc)
    simp only [startsNumber] at hnumber
    simp [chunk, hblank, hslash, hquote, hsingle, hback, hc, hnumber]
  | punct hblank hword hnumber hquote hslash =>
    obtain ⟨hdouble, hsingle, hback⟩ := hquote
    simp only [startsNumber] at hnumber
    by_cases hc : c = '/'
    · obtain ⟨hallowed, hopen⟩ := hslash hc
      simp only [opensComment, not_or] at hopen
      simp [chunk, Split.prepend, hblank, hopen, hallowed, hdouble, hsingle, hback, hnumber, hword]
    · simp [chunk, Split.prepend, hblank, hc, hdouble, hsingle, hback, hnumber, hword]

theorem chunk_eq_token_iff {allowed : Bool} {c : Char} {rest : List Char} {kind : TokenKind}
    {split : Split} :
    chunk allowed c rest = .ok (.token kind, split) ↔ TokenRead allowed c rest kind split :=
  ⟨tokenRead_of_chunk, chunk_of_tokenRead⟩

/-! ## Characters that a token goes on with -/

/-- Whether a token of this kind and text would be read on with the character `c` behind it. -/
def TokenKind.absorbs (kind : TokenKind) (text : List Char) (c : Char) : Bool :=
  match kind with
  | .word => isWordChar c
  | .number =>
    match text with
    | [] => false
    | first :: rest => continuesNumber (hasRadix first rest) (rest.getLastD first) c
  | .punct => (text == ['.'] && c.isDigit) || (text == ['/'] && (c == '/' || c == '*'))
  | .regex => c.isAlpha
  | .str => false
  | .template => false

theorem StopsAt.mono {p q : Char → Bool} {cs : List Char} (h : StopsAt p cs)
    (hpq : ∀ c, q c = true → p c = true) : StopsAt q cs := by
  intro c hc
  have hp := h c hc
  cases hq : q c with
  | false => rfl
  | true => simp [hpq c hq] at hp

theorem stopsAt_isAlphanum_of_continuesNumber {radix : Bool} {previous : Char} {cs : List Char}
    (h : StopsAt (continuesNumber radix previous) cs) : StopsAt Char.isAlphanum cs :=
  h.mono fun c hc => by simp [continuesNumber, hc]

/-- The base of a number is read off the number alone. -/
theorem hasRadix_append_of_stopsAt (c : Char) (text : List Char) {tail : List Char}
    (hstop : StopsAt Char.isAlphanum tail) : hasRadix c (text ++ tail) = hasRadix c text := by
  cases text with
  | cons d more => simp [hasRadix]
  | nil =>
    cases tail with
    | nil => rfl
    | cons d more =>
      have hd : d.isAlphanum = false := (stopsAt_cons _ _ _).1 hstop
      simp only [hasRadix, List.nil_append, List.head?_cons, List.head?_nil, Option.any_some,
        Option.any_none, Bool.and_false, Bool.and_eq_false_iff]
      right
      -- A radix letter in front of the tail would be a character that the number goes on with.
      cases hcontains : ['x', 'X', 'b', 'B', 'o', 'O'].contains d with
      | false => rfl
      | true =>
        simp only [List.contains_eq_mem, List.mem_cons, List.not_mem_nil, or_false,
          decide_eq_true_eq] at hcontains
        rcases hcontains with rfl | rfl | rfl | rfl | rfl | rfl <;> revert hd <;> decide

theorem hasRadix_numberTail (c : Char) (rest : List Char) :
    hasRadix c rest = hasRadix c (numberTail (hasRadix c rest) c rest).read := by
  have hstop := stopsAt_numberTail (hasRadix c rest) c rest
  have happend := numberTail_append (hasRadix c rest) c rest
  have hradix := hasRadix_append_of_stopsAt c (numberTail (hasRadix c rest) c rest).read
    (stopsAt_isAlphanum_of_continuesNumber hstop)
  rw [happend] at hradix
  exact hradix

theorem absorbs_punct (c d : Char) :
    TokenKind.punct.absorbs [c] d = false ↔
      (c = '.' → d.isDigit = false) ∧ (c = '/' → d ≠ '/' ∧ d ≠ '*') := by
  simp only [TokenKind.absorbs, Bool.or_eq_false_iff, Bool.and_eq_false_iff, beq_eq_false_iff_ne,
    List.cons.injEq, and_true, ne_eq]
  constructor
  · rintro ⟨hpoint, hslash⟩
    exact ⟨fun hc => hpoint.resolve_left fun h => h hc, fun hc => hslash.resolve_left fun h => h hc⟩
  · rintro ⟨hpoint, hslash⟩
    exact ⟨(Decidable.em (c = '.')).symm.imp_right hpoint,
      (Decidable.em (c = '/')).symm.imp_right hslash⟩

/-- No token is read with a character behind it that it goes on with. -/
theorem TokenRead.stopsAt_absorbs {allowed : Bool} {c : Char} {rest : List Char}
    {kind : TokenKind} {split : Split} (h : TokenRead allowed c rest kind split) :
    StopsAt (kind.absorbs split.read) split.rest := by
  cases h with
  | regex hc hallowed hopen hread => exact stopsAt_spanSplit _ _
  | str hc hread => exact fun _ _ => rfl
  | template hc hread => exact fun _ _ => rfl
  | number hc =>
    -- The radix is read off the text before the number is known, so it is moved to the number.
    have hstop := stopsAt_numberTail (hasRadix c rest) c rest
    have hradix := hasRadix_numberTail c rest
    show StopsAt (continuesNumber (hasRadix c (numberTail (hasRadix c rest) c rest).read) _) _
    rw [← hradix]
    exact hstop
  | word hc hnumber => exact stopsAt_spanSplit _ _
  | punct hblank hword hnumber hquote hslash =>
    intro d hd
    have hhead : rest.head? = some d := hd
    refine (absorbs_punct c d).2 ⟨?_, ?_⟩
    · rintro rfl
      simpa [startsNumber, hhead] using hnumber
    · rintro rfl
      have hopen := (hslash rfl).2
      simpa [opensComment, hhead] using hopen

theorem opensComment_append_iff {text : List Char} (h : text ≠ []) (tail : List Char) :
    opensComment (text ++ tail) ↔ opensComment text := by
  cases text with
  | nil => exact absurd rfl h
  | cons c rest => simp [opensComment]

theorem regexTail_read_ne_nil {inClass : Bool} {cs : List Char} {split : Split}
    (h : regexTail inClass cs = some split) : split.read ≠ [] := by
  intro hread
  have hlocal := regexTail_local inClass cs split h []
  rw [hread] at hlocal
  simp [regexTail] at hlocal

theorem startsNumber_of_numberTail {c : Char} {rest : List Char} (h : startsNumber c rest = true)
    (tail : List Char) :
    startsNumber c ((numberTail (hasRadix c rest) c rest).read ++ tail) = true := by
  simp only [startsNumber, Bool.or_eq_true, Bool.and_eq_true] at h ⊢
  refine h.imp_right fun ⟨hpoint, hdigit⟩ => ⟨hpoint, ?_⟩
  cases rest with
  | nil => simp at hdigit
  | cons d more =>
    have hd : d.isDigit = true := by simpa using hdigit
    rw [numberTail_cons, if_pos (by simp [continuesNumber, Char.isAlphanum, hd])]
    simpa [Split.prepend] using hd

/-- A token is read again in front of every text that it does not go on with. -/
theorem TokenRead.append_of_stopsAt {allowed : Bool} {c : Char} {rest : List Char}
    {kind : TokenKind} {split : Split} (h : TokenRead allowed c rest kind split) :
    ∃ text, split.read = c :: text ∧ ∀ tail, StopsAt (kind.absorbs split.read) tail →
      TokenRead allowed c (text ++ tail) kind ⟨c :: text, tail⟩ := by
  cases h with
  | @regex inner hc hallowed hopen hread =>
    refine ⟨inner.read ++ (spanSplit Char.isAlpha inner.rest).read, rfl, fun tail hstop => ?_⟩
    -- The closing slash is found within the token; only the flags could go on with the tail.
    have hnil := regexTail_read_ne_nil hread
    have hrest := regexTail_append hread
    have hopen' : ¬ opensComment
        (inner.read ++ ((spanSplit Char.isAlpha inner.rest).read ++ tail)) := by
      rw [opensComment_append_iff hnil, ← opensComment_append_iff hnil inner.rest, hrest]
      exact hopen
    have hflags := spanSplit_append_of_stopsAt (all_spanSplit Char.isAlpha inner.rest) hstop
    have hagain := TokenRead.regex hc hallowed hopen' (regexTail_local false _ _ hread _)
    rw [hflags] at hagain
    rw [List.append_assoc]
    exact hagain
  | @str inner hc hread =>
    exact ⟨inner.read, rfl, fun tail _ => .str hc (stringTail_local c _ _ hread tail)⟩
  | @template inner hc hread =>
    exact ⟨inner.read, rfl, fun tail _ => .template hc (templateTail_local _ _ _ hread tail)⟩
  | number hc =>
    refine ⟨(numberTail (hasRadix c rest) c rest).read, rfl, fun tail hstop => ?_⟩
    -- Radix and last character decide where a number ends, and both are those of the number alone.
    have hradix := hasRadix_numberTail c rest
    have hstop' : StopsAt (continuesNumber (hasRadix c rest)
        ((numberTail (hasRadix c rest) c rest).read.getLastD c)) tail := by
      have hnumber : StopsAt
          (continuesNumber (hasRadix c (numberTail (hasRadix c rest) c rest).read)
            ((numberTail (hasRadix c rest) c rest).read.getLastD c)) tail := hstop
      rw [← hradix] at hnumber
      exact hnumber
    have hagain : TokenRead allowed c _ .number _ := .number (startsNumber_of_numberTail hc tail)
    rw [hasRadix_append_of_stopsAt c _ (stopsAt_isAlphanum_of_continuesNumber hstop'), ← hradix,
      numberTail_append_of_stopsAt hstop'] at hagain
    exact hagain
  | word hc hnumber =>
    refine ⟨(spanSplit isWordChar rest).read, rfl, fun tail hstop => ?_⟩
    have hdigit : c.isDigit = false := (Bool.or_eq_false_iff.1 hnumber).1
    have hpoint : c ≠ '.' := ne_of_isWordChar hc (by decide)
    have hagain : TokenRead allowed c ((spanSplit isWordChar rest).read ++ tail) .word _ :=
      .word hc (by simp [startsNumber, hdigit, hpoint])
    rw [spanSplit_append_of_stopsAt (all_spanSplit isWordChar rest) hstop] at hagain
    exact hagain
  | punct hblank hword hnumber hquote hslash =>
    refine ⟨[], rfl, fun tail hstop => ?_⟩
    have hdigit : c.isDigit = false := (Bool.or_eq_false_iff.1 hnumber).1
    -- A point must not start a number with the tail, and a slash must not open a comment with it.
    have hnext : ∀ d, tail.head? = some d →
        (c = '.' → d.isDigit = false) ∧ (c = '/' → d ≠ '/' ∧ d ≠ '*') :=
      fun d hd => (absorbs_punct c d).1 (hstop d hd)
    refine .punct hblank hword ?_ hquote fun hc => ⟨(hslash hc).1, ?_⟩
    · cases tail with
      | nil => simp [startsNumber, hdigit]
      | cons d more =>
        have hpoint := (hnext d rfl).1
        simp only [startsNumber, hdigit, List.nil_append, List.head?_cons, Option.any_some,
          Bool.false_or, Bool.and_eq_false_iff, beq_eq_false_iff_ne]
        exact (Decidable.em (c = '.')).symm.imp_right hpoint
    · rintro (hopen | hopen)
      · exact ((hnext _ hopen).2 hc).1 rfl
      · exact ((hnext _ hopen).2 hc).2 rfl

end LiveMarkup.Script

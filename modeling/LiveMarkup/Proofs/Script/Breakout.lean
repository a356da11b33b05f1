import LiveMarkup.Proofs.Script.Minified
import LiveMarkup.Proofs.Text.AsciiCase
import Mathlib.Data.List.Infix

/-!
# Ways out of a script element

A reader of markup leaves a script where `<!--` or `</script` stands in its text. Within a token these
are copied, and across tokens they come about in two ways only (`Breakout.standsIn_joinBehind_iff`):
from `<`, `!` and two signs that touch, and from `<` in front of a regular expression. So minifying
writes none of them into a text without them exactly when no tokens of the text are neighbours in one
of these ways (`minify_unbroken_iff`).
-/

set_option autoImplicit false

namespace LiveMarkup.Script

/-! ## How tokens end -/

theorem stringTail_getLast? {quote : Char} {cs : List Char} {split : Split}
    (h : stringTail quote cs = some split) : split.read.getLast? = some quote := by
  fun_induction stringTail quote cs generalizing split with
  | case1 => simp at h
  | case2 => simp at h
  | case3 d more ih =>
    obtain ⟨inner, hinner, rfl⟩ := Option.map_eq_some_iff.1 h
    simp [Split.prepend, List.getLast?_cons, ih hinner]
  | case4 => simp at h
  | case5 => simp only [Option.some.injEq] at h; subst h; rfl
  | case6 c rest _ _ _ ih =>
    obtain ⟨inner, hinner, rfl⟩ := Option.map_eq_some_iff.1 h
    simp [Split.prepend, List.getLast?_cons, ih hinner]

theorem regexTail_getLast? {inClass : Bool} {cs : List Char} {split : Split}
    (h : regexTail inClass cs = some split) : split.read.getLast? = some '/' := by
  fun_induction regexTail inClass cs generalizing split with
  | case1 | case2 | case3 => simp at h
  | case4 inClass d more _ ih | case5 inClass more _ _ ih | case6 inClass more _ _ _ ih
  | case8 inClass c rest _ _ _ _ _ ih =>
    obtain ⟨inner, hinner, rfl⟩ := Option.map_eq_some_iff.1 h
    simp [Split.prepend, List.getLast?_cons, ih hinner]
  | case7 inClass c rest _ _ _ _ hslash =>
    simp only [Option.some.injEq] at h
    subst h
    simp [hslash.1]

theorem templateTail_getLast? {state : TemplateState} {cs : List Char} {split : Split}
    (h : templateTail state cs = some split) : split.read.getLast? = some '\x60' := by
  induction cs generalizing state split with
  | nil => simp [templateTail] at h
  | cons c rest ih =>
    unfold templateTail at h
    split at h
    · obtain ⟨inner, hinner, rfl⟩ := Option.map_eq_some_iff.1 h
      simp [Split.prepend, List.getLast?_cons, ih hinner]
    · rename_i hdone
      simp only [Option.some.injEq] at h
      subst h
      simp [(of_stepTemplate_done hdone).1]
    · simp at h

/-- What is read for a regular expression ends in a slash or a letter. -/
theorem regex_getLast? (c : Char) {rest : List Char} {split : Split}
    (h : regexTail false rest = some split) :
    ∃ last, (c :: (split.read ++ (spanSplit Char.isAlpha split.rest).read)).getLast? = some last ∧
      (last = '/' ∨ last.isAlpha = true) := by
  have hend : (c :: (split.read ++ (spanSplit Char.isAlpha split.rest).read)).getLast? =
      (spanSplit Char.isAlpha split.rest).read.getLast?.or (some '/') := by
    rw [← List.cons_append, List.getLast?_append, List.getLast?_cons, regexTail_getLast? h]
    rfl
  cases hflags : (spanSplit Char.isAlpha split.rest).read.getLast? with
  | none => exact ⟨'/', by rw [hend, hflags]; rfl, .inl rfl⟩
  | some last =>
    have halpha := all_spanSplit Char.isAlpha split.rest last (List.mem_of_getLast? hflags)
    exact ⟨last, by rw [hend, hflags]; rfl, .inr halpha⟩

theorem TokenRead.last_of_less_mem {allowed : Bool} {c : Char} {rest : List Char}
    {kind : TokenKind} {split : Split} (h : TokenRead allowed c rest kind split)
    (hless : '<' ∈ split.read) :
    kind = .punct ∧ split.read = ['<'] ∨ ∃ last, split.read.getLast? = some last ∧
      (last = '"' ∨ last = '\'' ∨ last = '\x60' ∨
        kind = .regex ∧ (last = '/' ∨ last.isAlpha = true)) := by
  have hword : isWordChar '<' = false := by decide
  cases h with
  | regex hc hallowed hopen hread =>
    obtain ⟨last, hlast, hend⟩ := regex_getLast? c hread
    exact .inr ⟨last, hlast, .inr (.inr (.inr ⟨rfl, hend⟩))⟩
  | str hc hread =>
    refine .inr ⟨c, ?_, hc.elim .inl fun h => .inr (.inl h)⟩
    simp [Split.prepend, List.getLast?_cons, stringTail_getLast? hread]
  | template hc hread =>
    refine .inr ⟨'\x60', ?_, .inr (.inr (.inl rfl))⟩
    simp [Split.prepend, List.getLast?_cons, templateTail_getLast? hread]
  | number hc =>
    -- Neither a number nor a word has such a character.
    rcases List.mem_cons.1 hless with rfl | hless
    · simp [startsNumber] at hc
    · have hplain := numberTail_plain _ _ _ _ hless
      simp [hword] at hplain
  | word hc =>
    rcases List.mem_cons.1 hless with rfl | hless
    · simp [hword] at hc
    · have hplain := all_spanSplit _ _ _ hless
      simp [hword] at hplain
  | punct =>
    obtain rfl : '<' = c := List.mem_singleton.1 hless
    exact .inl ⟨rfl, rfl⟩

/-- A token that holds `<` is that character alone, or ends in a quote, or is a regular expression,
which ends in a slash or a letter. -/
theorem Token.WellRead.last_of_less_mem {token : Token} (h : token.WellRead)
    (hless : '<' ∈ token.text) :
    token.isPunct '<' = true ∨ ∃ last, token.text.getLast? = some last ∧
      (last = '"' ∨ last = '\'' ∨ last = '\x60' ∨
        token.kind = .regex ∧ (last = '/' ∨ last.isAlpha = true)) := by
  obtain ⟨allowed, c, rest, tail, hread⟩ := h
  rw [Token.isPunct_iff]
  exact hread.last_of_less_mem hless

/-! ## Across the end of a token -/

/-- The texts with which a reader of markup leaves a script. -/
inductive Breakout where
  | comment
  | endTag
deriving DecidableEq

namespace Breakout

/-- The characters of the text, with its letters in lower case. -/
def chars : Breakout → List Char
  | .comment => ['<', '!', '-', '-']
  | .endTag => ['<', '/', 's', 'c', 'r', 'i', 'p', 't']

/-- The text stands in these characters, with its letters in either case. -/
def StandsIn (breakout : Breakout) (cs : List Char) : Prop :=
  breakout.chars <:+: cs.map Char.toLower

instance (breakout : Breakout) (cs : List Char) : Decidable (breakout.StandsIn cs) :=
  inferInstanceAs (Decidable (_ <:+: _))

/-- Behind its first character such a text has no quotes, and a letter behind every slash and letter but
the last. -/
theorem isChain_tail (breakout : Breakout) :
    breakout.chars.tail.IsChain fun last next =>
      last ≠ '"' ∧ last ≠ '\'' ∧ last ≠ '\x60' ∧
        (last = '/' ∨ last.isAlpha = true → next.isAlpha = true) := by
  cases breakout <;>
    simp only [chars, List.tail_cons, List.isChain_cons_cons, List.isChain_singleton] <;> decide

theorem not_standsIn_nil (breakout : Breakout) : ¬ breakout.StandsIn [] := by
  cases breakout <;> decide

/-- A character other than `<` in front adds nothing. -/
theorem standsIn_cons_iff {breakout : Breakout} {c : Char} (hc : c ≠ '<') (cs : List Char) :
    breakout.StandsIn (c :: cs) ↔ breakout.StandsIn cs := by
  have hlower : '<' ≠ c.toLower := fun h => hc (Text.eq_of_toLower_eq h.symm (by decide))
  unfold StandsIn
  rw [List.map_cons, List.infix_cons_iff]
  cases breakout <;> simp [chars, List.cons_prefix_cons, hlower]

theorem isAlpha_eq_false_of_front {rest others : List Char} {next : Char}
    (hstop : StopsAt Char.isAlpha rest) (h : next :: others <+: rest.map Char.toLower) :
    next.isAlpha = false := by
  cases rest with
  | nil => simp at h
  | cons c rest =>
    rw [List.map_cons, List.cons_prefix_cons] at h
    rw [stopsAt_cons] at hstop
    cases hletter : next.isAlpha with
    | false => rfl
    | true =>
      rw [Text.isAlpha_of_toLower (by rwa [← h.1])] at hstop
      simp at hstop

/-- Such a text stands across the end of a token: `start` ends the token, and `more` is in front of what
is behind it. -/
structure Crosses (breakout : Breakout) (token : Token) (rest start more : List Char) : Prop where
  split : breakout.chars = start ++ more
  start_ne_nil : start ≠ []
  more_ne_nil : more ≠ []
  front : start <:+ token.text.map Char.toLower
  back : more <+: rest.map Char.toLower

section Crosses

variable {breakout : Breakout} {token : Token} {rest start more : List Char}

theorem Crosses.getLast?_start (h : breakout.Crosses token rest start more) {last : Char}
    (hlast : token.text.getLast? = some last) : start.getLast? = some last.toLower := by
  obtain ⟨front, hfront⟩ := h.front
  have hmap := congrArg List.getLast? hfront
  rw [List.getLast?_map, hlast, List.getLast?_append] at hmap
  rw [List.getLast?_eq_some_getLast h.start_ne_nil] at hmap ⊢
  exact hmap

theorem Crosses.head?_start (h : breakout.Crosses token rest start more) :
    start.head? = some '<' := by
  have hchars : breakout.chars.head? = some '<' := by cases breakout <;> rfl
  rwa [h.split, List.head?_append_of_ne_nil _ h.start_ne_nil] at hchars

theorem Crosses.less_mem (h : breakout.Crosses token rest start more) : '<' ∈ token.text := by
  obtain ⟨c, hc, hlower⟩ := List.mem_map.1 (h.front.mem (List.mem_of_head? h.head?_start))
  rwa [Text.eq_of_toLower_eq hlower (by decide)] at hc

/-- A token does not end in the middle of such a text: what is inside the text ends no token, or a
regular expression would have taken the next letter along. -/
theorem Crosses.length_start (h : breakout.Crosses token rest start more)
    (hstop : token.kind = .regex → StopsAt Char.isAlpha rest) {last : Char}
    (hlast : token.text.getLast? = some last)
    (hends : last = '"' ∨ last = '\'' ∨ last = '\x60' ∨
      token.kind = .regex ∧ (last = '/' ∨ last.isAlpha = true)) : start.length = 1 := by
  have hend := h.getLast?_start hlast
  obtain ⟨hsplit, hstart, hmore, -, hback⟩ := h
  by_contra hlength
  obtain ⟨c, front, rfl⟩ := List.exists_cons_of_ne_nil hstart
  obtain ⟨next, others, rfl⟩ := List.exists_cons_of_ne_nil hmore
  have hinner : front ≠ [] := by
    rintro rfl
    exact hlength rfl
  -- The last character of the token is inside the text, where `next` follows it.
  rw [List.getLast?_cons_of_ne_nil hinner] at hend
  have hchain := breakout.isChain_tail
  rw [hsplit, List.cons_append, List.tail_cons, List.isChain_append] at hchain
  obtain ⟨hdouble, hsingle, hquote, halpha⟩ := hchain.2.2 _ hend next rfl
  rcases hends with rfl | rfl | rfl | ⟨hregex, hflag⟩
  · exact hdouble rfl
  · exact hsingle rfl
  · exact hquote rfl
  · have hletter : next.isAlpha = true := by
      exact halpha (hflag.imp (fun h => by rw [h]; rfl) Text.isAlpha_toLower)
    rw [isAlpha_eq_false_of_front (hstop hregex) hback] at hletter
    simp at hletter

/-- A token that such a text goes on behind is its first character, `<`. -/
theorem Crosses.isPunct (h : breakout.Crosses token rest start more) (hread : token.WellRead)
    (hstop : token.kind = .regex → StopsAt Char.isAlpha rest) :
    token.isPunct '<' = true ∧ more = breakout.chars.tail := by
  have htail : start.length = 1 → more = breakout.chars.tail := by
    intro hone
    obtain ⟨c, rfl⟩ := List.length_eq_one_iff.1 hone
    rw [h.split]
    rfl
  rcases hread.last_of_less_mem h.less_mem with hpunct | ⟨last, hlast, hends⟩
  · have hlength := h.front.length_le
    rw [(Token.isPunct_iff.1 hpunct).2] at hlength
    have hpositive := List.length_pos_iff.2 h.start_ne_nil
    exact ⟨hpunct, htail (Nat.le_antisymm hlength hpositive)⟩
  · -- The token would end in `<`, which none of these kinds does.
    obtain ⟨c, rfl⟩ := List.length_eq_one_iff.1 (h.length_start hstop hlast hends)
    obtain rfl : c = '<' := by simpa using h.head?_start
    have hend := Option.some.inj (h.getLast?_start hlast)
    obtain rfl : last = '<' := Text.eq_of_toLower_eq hend.symm (by decide)
    have hletter : Char.isAlpha '<' = false := by decide
    simp [hletter] at hends

end Crosses

/-- Behind a token, such a text stands in the token, behind it, or from its `<` on. -/
theorem standsIn_append_iff {breakout : Breakout} {token : Token} (hread : token.WellRead)
    {rest : List Char} (hstop : token.kind = .regex → StopsAt Char.isAlpha rest) :
    breakout.StandsIn (token.text ++ rest) ↔ breakout.StandsIn token.text ∨
      breakout.StandsIn rest ∨
        token.isPunct '<' = true ∧ breakout.chars.tail <+: rest.map Char.toLower := by
  unfold StandsIn
  rw [List.map_append, List.infix_append_iff]
  constructor
  · rintro (htext | hrest | ⟨start, more, hsplit, hfront, hback⟩)
    · exact .inl htext
    · exact .inr (.inl hrest)
    · rcases eq_or_ne start [] with rfl | hstart
      · rw [List.nil_append] at hsplit
        exact .inr (.inl (hsplit ▸ hback.isInfix))
      rcases eq_or_ne more [] with rfl | hmore
      · rw [List.append_nil] at hsplit
        exact .inl (hsplit ▸ hfront.isInfix)
      obtain ⟨hless, htail⟩ :=
        Crosses.isPunct ⟨hsplit, hstart, hmore, hfront, hback⟩ hread hstop
      exact .inr (.inr ⟨hless, htail ▸ hback⟩)
  · rintro (htext | hrest | ⟨hless, hrest⟩)
    · exact .inl htext
    · exact .inr (.inl hrest)
    · refine .inr (.inr ⟨['<'], breakout.chars.tail, by cases breakout <;> rfl, ?_, hrest⟩)
      rw [(Token.isPunct_iff.1 hless).2]
      exact List.suffix_refl _

end Breakout

/-! ## Neighbours that make one -/

theorem separator_of_isPunct {previous : Token} {c : Char} (h : previous.isPunct c = true)
    (hc : c = '<' ∨ c = '!') (next : Token) : separator previous next = [] := by
  obtain ⟨hkind, htext⟩ := Token.isPunct_iff.1 h
  have hend : previous.canEndStatement = false := by
    rcases hc with rfl | rfl <;> simp [Token.canEndStatement, hkind, htext]
  have hblank : needsBlank previous next = false := by
    have hplain : isWordChar c = false := by rcases hc with rfl | rfl <;> decide
    unfold needsBlank
    rw [htext]
    cases next.text.head? with
    | none => rfl
    | some first => rcases hc with rfl | rfl <;> simp [blankBetween, hkind, hplain]
  simp [separator, hend, hblank]

/-- Two signs that did not touch are written apart. -/
theorem separator_minus_iff {first second : Token} (hfirst : first.isPunct '-' = true)
    (hsecond : second.isPunct '-' = true) :
    separator first second = [] ↔ second.spaced = false := by
  obtain ⟨hkind, htext⟩ := Token.isPunct_iff.1 hfirst
  obtain ⟨-, htext'⟩ := Token.isPunct_iff.1 hsecond
  have hspaced := spaced_tightened_of_sign hkind (htext.trans htext'.symm) (.inr htext') []
  rw [← hspaced]
  simp [Token.spaced, leastGap]

theorem Token.WellRead.slash_mem_tail {token : Token} (h : token.WellRead)
    (hkind : token.kind = .regex) : '/' ∈ token.text.tail := by
  obtain ⟨allowed, c, rest, tail, hread⟩ := h
  rw [hkind] at hread
  generalize hsplit : (⟨token.text, tail⟩ : Split) = split at hread
  cases hread with
  | @regex inner hc hallowed hopen hregex =>
    have htext : token.text = c :: (inner.read ++ (spanSplit Char.isAlpha inner.rest).read) :=
      congrArg Split.read hsplit
    rw [htext, List.tail_cons]
    exact List.mem_append_left _ (List.mem_of_getLast? (regexTail_getLast? hregex))

/-- Where a slash may start a regular expression, no token is a slash alone. -/
theorem isPunct_slash_eq_false {before : List Token} {gap : List Char} {offset : Nat}
    {cs : List Char} {tokens : Tokens} (h : tokensFrom before gap offset cs = .ok tokens)
    (hallowed : regexAllowed before = true) :
    ∀ next ∈ tokens.tokens.head?, next.isPunct '/' = false := by
  fun_induction tokensFrom before gap offset cs generalizing tokens with
  | case1 =>
    simp only [Except.ok.injEq] at h
    subst h
    simp
  | case2 => simp at h
  | case3 before gap offset c rest split found ih => exact ih h hallowed
  | case4 before gap offset c rest kind split found ih =>
    obtain ⟨more, hmore, rfl⟩ := map_cons_eq_ok_iff.1 h
    intro next hnext
    obtain rfl : ⟨gap, kind, split.read⟩ = next := Option.some.inj hnext
    rw [Bool.eq_false_iff]
    intro hslash
    obtain ⟨hkind, htext⟩ := Token.isPunct_iff.1 hslash
    have hchunk := chunk_eq_token_iff.1 found
    cases hchunk with
    | punct _ _ _ _ hdivides =>
      have hdivision := (hdivides (List.singleton_inj.1 htext)).1
      rw [hallowed] at hdivision
      simp at hdivision
    | _ => cases hkind

namespace Breakout

/-- Whether tokens start with neighbours that make the text: `<`, `!` and two signs that touch, or `<`
and a regular expression that starts with the rest of it. -/
def opensAt : Breakout → List Token → Bool
  | .comment, less :: bang :: first :: second :: _ =>
    less.isPunct '<' && bang.isPunct '!' && first.isPunct '-' && second.isPunct '-' &&
      !second.spaced
  | .endTag, less :: regex :: _ =>
    less.isPunct '<' && regex.kind == .regex &&
      endTag.chars.tail.isPrefixOf (regex.text.map Char.toLower)
  | _, _ => false

/-- Whether there are neighbours among the tokens that make the text. -/
def madeBy (breakout : Breakout) (tokens : List Token) : Bool := tokens.tails.any breakout.opensAt

theorem isPunct_of_opensAt {breakout : Breakout} {token : Token} {rest : List Token}
    (h : breakout.opensAt (token :: rest) = true) : token.isPunct '<' = true := by
  unfold opensAt at h
  split at h
  · rename_i hfirst
    obtain ⟨rfl, -⟩ := List.cons.inj hfirst
    simp only [Bool.and_eq_true] at h
    exact h.1.1.1.1
  · rename_i hfirst
    obtain ⟨rfl, -⟩ := List.cons.inj hfirst
    simp only [Bool.and_eq_true] at h
    exact h.1.1
  · simp at h

theorem cons_prefix_joinBehind_iff {c : Char} {piece : List Char} {before rest : List Token}
    {token : Token} (hread : token.WellRead) (hc : c = '!' ∨ c = '-') :
    c :: piece <+: (joinBehind before (token :: rest)).map Char.toLower ↔
      leastGap before token = [] ∧ token.isPunct c = true ∧
        piece <+: (joinBehind (token :: before) rest).map Char.toLower := by
  have hletter : c.isAlpha = false := by rcases hc with rfl | rfl <;> decide
  rw [joinBehind_cons]
  rcases leastGap_cases before token with hgap | ⟨d, hd, hgap⟩
  · rw [hgap, List.nil_append]
    constructor
    · intro hpiece
      cases htext : token.text with
      | nil => exact absurd htext hread.text_ne_nil
      | cons d text =>
        rw [htext, List.cons_append, List.map_cons, List.cons_prefix_cons] at hpiece
        obtain rfl : d = c := Text.eq_of_toLower_eq hpiece.1.symm hletter
        have hpunct : token.isPunct d = true := by
          refine (hread.kind_of_head? (by rw [htext]; rfl) ?_).resolve_right ?_
          · rcases hc with rfl | rfl <;> decide
          · rintro ⟨rfl, -⟩
            simp at hc
        obtain rfl : text = [] := by
          have hone := (Token.isPunct_iff.1 hpunct).2
          rw [htext] at hone
          exact (List.cons.inj hone).2
        exact ⟨rfl, hpunct, hpiece.2⟩
    · rintro ⟨-, hpunct, hpiece⟩
      have hsame : c.toLower = c := by rcases hc with rfl | rfl <;> rfl
      rw [(Token.isPunct_iff.1 hpunct).2, List.cons_append, List.map_cons, hsame]
      exact List.cons_prefix_cons.2 ⟨rfl, hpiece⟩
  · rw [hgap]
    refine iff_of_false (fun hpiece => ?_) fun h => by simp at h
    rw [List.cons_append, List.map_cons, List.cons_prefix_cons] at hpiece
    obtain rfl : d = c := Text.eq_of_toLower_eq hpiece.1.symm hletter
    rcases hc with rfl | rfl <;> simp [isBlank, isLineBreak] at hd

theorem tail_prefix_comment_iff {before tokens : List Token} {less : Token}
    (hless : less.isPunct '<' = true) (hread : ∀ token ∈ tokens, token.WellRead) :
    comment.chars.tail <+: (joinBehind (less :: before) tokens).map Char.toLower ↔
      comment.opensAt (less :: tokens) = true := by
  have hchars : comment.chars.tail = ['!', '-', '-'] := rfl
  rw [hchars]
  match tokens, hread with
  | [], _ => simp [opensAt]
  | [bang], hread =>
    rw [cons_prefix_joinBehind_iff (hread bang (by simp)) (.inl rfl)]
    simp [opensAt]
  | [bang, first], hread =>
    rw [cons_prefix_joinBehind_iff (hread bang (by simp)) (.inl rfl),
      cons_prefix_joinBehind_iff (hread first (by simp)) (.inr rfl)]
    simp [opensAt]
  | bang :: first :: second :: rest, hread =>
    rw [cons_prefix_joinBehind_iff (hread bang (by simp)) (.inl rfl),
      cons_prefix_joinBehind_iff (hread first (by simp)) (.inr rfl),
      cons_prefix_joinBehind_iff (hread second (by simp)) (.inr rfl)]
    simp only [opensAt, leastGap, separator_of_isPunct hless (.inl rfl), List.nil_prefix,
      Bool.and_eq_true, hless, true_and, and_true]
    constructor
    · rintro ⟨hbang, -, hfirst, hgap, hsecond⟩
      simp [hbang, hfirst, hsecond, (separator_minus_iff hfirst hsecond).1 hgap]
    · rintro ⟨⟨⟨hbang, hfirst⟩, hsecond⟩, hspaced⟩
      refine ⟨hbang, separator_of_isPunct hbang (.inr rfl) first, hfirst, ?_, hsecond⟩
      exact (separator_minus_iff hfirst hsecond).2 (by simpa using hspaced)

theorem tail_prefix_endTag_iff {before tokens : List Token} {less : Token}
    (hless : less.isPunct '<' = true) (hread : ∀ token ∈ tokens, token.WellRead)
    (hslash : ∀ next ∈ tokens.head?, next.isPunct '/' = false) :
    endTag.chars.tail <+: (joinBehind (less :: before) tokens).map Char.toLower ↔
      endTag.opensAt (less :: tokens) = true := by
  cases tokens with
  | nil => simp [opensAt, chars]
  | cons next rest =>
    have hnext := hread next (by simp)
    rw [joinBehind_cons, leastGap, separator_of_isPunct hless (.inl rfl), List.nil_append,
      List.map_append]
    simp only [opensAt, hless, Bool.true_and, Bool.and_eq_true, beq_iff_eq,
      List.isPrefixOf_iff_prefix]
    constructor
    · intro htail
      cases htext : next.text with
      | nil => exact absurd htext hnext.text_ne_nil
      | cons c text =>
        have hfirst : '/' = c.toLower := by
          rw [htext, List.map_cons, List.cons_append] at htail
          exact (List.cons_prefix_cons.1 htail).1
        obtain rfl : c = '/' := Text.eq_of_toLower_eq hfirst.symm (by decide)
        have hkind : next.kind = .regex := by
          refine ((hnext.kind_of_head? (by rw [htext]; rfl) (by decide)).resolve_left ?_).2
          rw [hslash next rfl]
          simp
        refine ⟨hkind, ?_⟩
        rw [← htext]
        -- A regular expression is no front of the text, since it has another slash.
        refine (List.prefix_or_prefix_of_prefix htail (List.prefix_append _ _)).resolve_right ?_
        intro hshort
        have hmem := hnext.slash_mem_tail hkind
        rw [htext] at hshort hmem
        have hslashes := (List.cons_prefix_cons.1 hshort).2.mem (List.mem_map_of_mem hmem)
        revert hslashes
        decide
    · rintro ⟨-, hprefix⟩
      exact hprefix.trans (List.prefix_append _ _)

/-- The rest of the text is written behind `<` exactly where the tokens are such neighbours. -/
theorem tail_prefix_iff (breakout : Breakout) {before : List Token} {token : Token} {offset : Nat}
    {cs : List Char} {tokens : Tokens}
    (h : tokensFrom (token :: before) [] offset cs = .ok tokens) :
    token.isPunct '<' = true ∧
        breakout.chars.tail <+: (joinBehind (token :: before) tokens.tokens).map Char.toLower ↔
      breakout.opensAt (token :: tokens.tokens) = true := by
  by_cases hless : token.isPunct '<' = true
  · have hread := wellRead_of_tokensFrom h
    have hallowed : regexAllowed (token :: before) = true := by
      obtain ⟨hkind, htext⟩ := Token.isPunct_iff.1 hless
      simp [regexAllowed, hkind, htext]
    rw [and_iff_right hless]
    cases breakout with
    | comment => exact tail_prefix_comment_iff hless hread
    | endTag => exact tail_prefix_endTag_iff hless hread (isPunct_slash_eq_false h hallowed)
  · exact iff_of_false (fun hcross => hless hcross.1) fun hopens => hless (isPunct_of_opensAt hopens)

/-- Flags take letters along, and words behind them are written apart. -/
theorem stopsAt_isAlpha_joinBehind {before : List Token} {token : Token} {offset : Nat}
    {cs : List Char} {tokens : Tokens} (hread : token.WellRead) (hkind : token.kind = .regex)
    (hstop : StopsAt (token.kind.absorbs token.text) cs)
    (h : tokensFrom (token :: before) [] offset cs = .ok tokens) :
    StopsAt Char.isAlpha (joinBehind (token :: before) tokens.tokens) := by
  have habsorbs : token.kind.absorbs token.text = Char.isAlpha := by
    rw [hkind]
    rfl
  rw [← habsorbs]
  refine stopsAt_joinBehind h hstop fun next _ => ?_
  rw [Bool.eq_false_iff]
  intro hfuse
  rcases kind_of_fuses hfuse hread with hnumber | ⟨hpunct, -⟩
  · rw [hkind] at hnumber
    cases hnumber
  · rw [hkind] at hpunct
    cases hpunct

theorem standsIn_joinBehind_cons (breakout : Breakout) (before rest : List Token) (token : Token) :
    breakout.StandsIn (joinBehind before (token :: rest)) ↔
      breakout.StandsIn (token.text ++ joinBehind (token :: before) rest) := by
  rw [joinBehind_cons]
  rcases leastGap_cases before token with hgap | ⟨c, hc, hgap⟩
  · rw [hgap, List.nil_append]
  · rw [hgap, List.singleton_append, standsIn_cons_iff]
    rintro rfl
    simp [isBlank, isLineBreak] at hc

/-- Such a text is written exactly where a token holds it or neighbours make it. -/
theorem standsIn_joinBehind_iff (breakout : Breakout) {before : List Token} {gap : List Char}
    {offset : Nat} {cs : List Char} {tokens : Tokens}
    (h : tokensFrom before gap offset cs = .ok tokens) :
    breakout.StandsIn (joinBehind before tokens.tokens) ↔
      (∃ token ∈ tokens.tokens, breakout.StandsIn token.text) ∨
        breakout.madeBy tokens.tokens = true := by
  fun_induction tokensFrom before gap offset cs generalizing tokens with
  | case1 =>
    simp only [Except.ok.injEq] at h
    subst h
    simp [not_standsIn_nil, madeBy, opensAt]
  | case2 => simp at h
  | case3 before gap offset c rest split found ih => exact ih h
  | case4 before gap offset c rest kind split found ih =>
    obtain ⟨more, hmore, rfl⟩ := map_cons_eq_ok_iff.1 h
    have hchunk := chunk_eq_token_iff.1 found
    have hread : Token.WellRead ⟨gap, kind, split.read⟩ := ⟨_, c, rest, split.rest, hchunk⟩
    have hstop := fun hkind =>
      stopsAt_isAlpha_joinBehind hread hkind hchunk.stopsAt_absorbs hmore
    -- Where it stands: in the token, behind it, or across its end; the last is where tokens open it.
    rw [Tokens.cons, standsIn_joinBehind_cons, standsIn_append_iff hread hstop, ih hmore,
      tail_prefix_iff breakout hmore]
    simp only [madeBy, List.tails_cons, List.any_cons, Bool.or_eq_true, List.mem_cons,
      exists_eq_or_imp, or_assoc]
    rw [or_comm (a := breakout.opensAt _ = true)]

end Breakout

/-! ## Minified text -/

/-- A text within which a reader of markup does not leave a script. -/
def Unbroken (cs : List Char) : Prop := ∀ breakout : Breakout, ¬ breakout.StandsIn cs

theorem Breakout.standsIn_minify_iff (breakout : Breakout) {source text : String} {tokens : Tokens}
    (h : minify source = .ok text) (htokens : tokenize source.toList = .ok tokens) :
    breakout.StandsIn text.toList ↔
      (∃ token ∈ tokens.tokens, breakout.StandsIn token.text) ∨
        breakout.madeBy tokens.tokens = true := by
  obtain ⟨tokens', htokens', hjoin⟩ := minify_eq_ok_iff.1 h
  obtain rfl : tokens' = tokens := Except.ok.inj (htokens'.symm.trans htokens)
  rw [← hjoin, join_eq_joinBehind]
  exact breakout.standsIn_joinBehind_iff htokens

/-- What stands in a token stands in the text that it was read from. -/
theorem Breakout.standsIn_of_mem {breakout : Breakout} {cs : List Char} {tokens : Tokens}
    (h : tokenize cs = .ok tokens) {token : Token} (htoken : token ∈ tokens.tokens)
    (hstands : breakout.StandsIn token.text) : breakout.StandsIn cs := by
  have htext : token.text <:+: tokens.chars := by
    obtain ⟨front, back, hsplit⟩ := List.append_of_mem htoken
    rw [Tokens.chars, hsplit, List.flatMap_append, List.flatMap_cons]
    exact ⟨front.flatMap (fun token => token.gap ++ token.text) ++ token.gap,
      back.flatMap (fun token => token.gap ++ token.text) ++ tokens.tail, by simp⟩
  rw [chars_of_tokens h] at htext
  exact List.IsInfix.trans hstands (htext.map _)

/-- A text within which a script goes on is minified to one exactly when no neighbours among its
tokens make a way out. -/
theorem minify_unbroken_iff {source text : String} {tokens : Tokens}
    (h : minify source = .ok text) (htokens : tokenize source.toList = .ok tokens)
    (hsource : Unbroken source.toList) :
    Unbroken text.toList ↔ ∀ breakout : Breakout, breakout.madeBy tokens.tokens = false := by
  refine forall_congr' fun breakout => ?_
  have hfree : ¬ ∃ token ∈ tokens.tokens, breakout.StandsIn token.text := by
    rintro ⟨token, htoken, hstands⟩
    exact hsource breakout (Breakout.standsIn_of_mem htokens htoken hstands)
  rw [breakout.standsIn_minify_iff h htokens, or_iff_right hfree, Bool.not_eq_true]

/-- Signs that stay apart keep the comparison from opening a comment. -/
theorem minify_unbroken_signs :
    minify "a < ! - -b" = .ok "a<!- -b" ∧ Unbroken "a < ! - -b".toList ∧
      Unbroken "a<!- -b".toList := by
  have hminify : minify "a < ! - -b" = .ok "a<!- -b" := by
    rw [minify_eq]
    decide +kernel
  have htokens : tokenize "a < ! - -b".toList = .ok ⟨[⟨[], .word, ['a']⟩, ⟨[' '], .punct, ['<']⟩,
      ⟨[' '], .punct, ['!']⟩, ⟨[' '], .punct, ['-']⟩, ⟨[' '], .punct, ['-']⟩,
      ⟨[], .word, ['b']⟩], []⟩ := by
    decide +kernel
  have hsource : Unbroken "a < ! - -b".toList := fun breakout => by cases breakout <;> decide +kernel
  refine ⟨hminify, hsource, (minify_unbroken_iff hminify htokens hsource).2 fun breakout => ?_⟩
  cases breakout <;> decide +kernel

/-- Without its blank, a comparison with a decremented number opens a comment. -/
theorem minify_breaks_comparison :
    ¬ ∀ source text : String, Unbroken source.toList → minify source = .ok text →
      Unbroken text.toList := by
  intro h
  have hsource : Unbroken "a < !--b".toList := fun breakout => by cases breakout <;> decide +kernel
  have hminify : minify "a < !--b" = .ok "a<!--b" := by decide +kernel
  have hopens : Breakout.comment.StandsIn "a<!--b".toList := by decide +kernel
  exact h _ _ hsource hminify .comment hopens

end LiveMarkup.Script

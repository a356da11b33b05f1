import LiveMarkup.Proofs.Script.Lexer

/-!
# What minifying keeps

Minifying keeps the tokens of a text exactly when no two of them fuse (`minify_keeps_tokens_iff`).
A text that minifying leaves as it is has the least gaps throughout, and a minified text is left as
it is exactly when it is read again with the least gaps; this holds whenever the tokens of the
source stay apart (`minify_minified_iff`).
-/

set_option autoImplicit false

namespace LiveMarkup.Script

/-! ## Least gaps are shortest -/

/-- Every gap of the tokens is the one that is written. -/
def Tokens.Tight (tokens : Tokens) : Prop :=
  tokens.tail = [] ∧ tighten tokens.tokens = tokens.tokens

/-- The text of tokens with their own gaps. -/
def spelled (tokens : List Token) : List Char := tokens.flatMap fun token => token.gap ++ token.text

@[simp] theorem spelled_cons (token : Token) (rest : List Token) :
    spelled (token :: rest) = token.gap ++ (token.text ++ spelled rest) := by
  simp [spelled]

theorem length_leastGap_le (before : List Token) (token : Token) :
    (leastGap before token).length ≤ token.gap.length := by
  cases before with
  | nil => exact Nat.zero_le _
  | cons previous before =>
    cases hgap : token.gap with
    | nil =>
      have hspaced : token.spaced = false := by simp [Token.spaced, hgap]
      simp [leastGap, separator, hspaced]
    | cons c more =>
      have hone : (separator previous token).length ≤ 1 := by
        rcases separator_cases previous token with h | h | h <;> rw [h] <;> decide
      rw [List.length_cons]
      exact Nat.le_trans hone (Nat.le_add_left 1 _)

theorem length_joinBehind_le (before tokens : List Token) :
    (joinBehind before tokens).length ≤ (spelled tokens).length := by
  induction tokens generalizing before with
  | nil => exact Nat.le_refl 0
  | cons token rest ih =>
    have hgap := length_leastGap_le before token
    have hrest := ih (token :: before)
    rw [joinBehind_cons, spelled_cons]
    simp only [List.length_append]
    omega

/-- Tokens whose least text is their own text have the least gaps. -/
theorem tightenBehind_eq_of_joinBehind_eq {before tokens : List Token} {tail : List Char}
    (h : joinBehind before tokens = spelled tokens ++ tail) :
    tightenBehind before tokens = tokens ∧ tail = [] := by
  induction tokens generalizing before with
  | nil => exact ⟨rfl, by simpa [spelled] using h.symm⟩
  | cons token rest ih =>
    -- No written gap is longer than the gap it stands for, so equal lengths leave no room to change.
    have hgap := length_leastGap_le before token
    have hrest := length_joinBehind_le (token :: before) rest
    have hlength := congrArg List.length h
    rw [joinBehind_cons, spelled_cons] at hlength h
    simp only [List.length_append] at hlength
    simp only [List.append_assoc] at h
    obtain ⟨hsame, hmore⟩ := List.append_inj h (by omega)
    obtain ⟨htighten, htail⟩ := ih (List.append_cancel_left hmore)
    refine ⟨?_, htail⟩
    rw [tightenBehind, htighten, Token.tightened, hsame]

theorem join_eq_chars_iff {tokens : Tokens} : join tokens.tokens = tokens.chars ↔ tokens.Tight := by
  rw [join_eq_joinBehind]
  constructor
  · intro h
    obtain ⟨htighten, htail⟩ := tightenBehind_eq_of_joinBehind_eq h
    exact ⟨htail, htighten⟩
  · rintro ⟨htail, htighten⟩
    rw [joinBehind, show tightenBehind [] tokens.tokens = tokens.tokens from htighten, Tokens.chars,
      htail, List.append_nil]

/-! ## Tightened tokens are tight -/

theorem separator_eq_of_newline {previous token : Token} (h : separator previous token = ['\n']) :
    previous.canEndStatement = true ∧ token.canStartStatement = true := by
  unfold separator at h
  split at h
  · simp at h
  split at h
  · rename_i hline
    simp only [Bool.and_eq_true] at hline
    exact ⟨hline.1.2, hline.2⟩
  split at h
  · simp at h
  · simp at h

theorem needsBlank_of_separator {previous token : Token} (h : separator previous token = [' ']) :
    needsBlank previous token = true := by
  unfold separator at h
  split at h
  · simp at h
  split at h
  · simp at h
  split at h
  · rename_i hblank
    exact hblank
  · simp at h

/-- A written gap is written again. -/
theorem separator_tightened (previous token : Token) (before : List Token) :
    separator previous (token.tightened (previous :: before)) = separator previous token := by
  have hgap : leastGap (previous :: before) token = separator previous token := rfl
  have hstart : (token.tightened (previous :: before)).canStartStatement =
      token.canStartStatement := rfl
  have hblank : needsBlank previous (token.tightened (previous :: before)) =
      needsBlank previous token := rfl
  rcases separator_cases previous token with h | h | h
  · rw [h] at hgap ⊢
    simp [separator, Token.spaced, hgap]
  · have hline := separator_eq_of_newline h
    rw [h] at hgap ⊢
    simp [separator, Token.spaced, Token.newline, isLineBreak, hgap, hstart, hline]
  · have hneeds := needsBlank_of_separator h
    rw [h] at hgap ⊢
    simp [separator, Token.spaced, Token.newline, isLineBreak, hgap, hblank, hneeds]

theorem leastGap_tightened (before : List Token) (token : Token) :
    leastGap (tightenBefore before) (token.tightened before) = leastGap before token := by
  cases before with
  | nil => rfl
  | cons previous before => exact separator_tightened previous token before

theorem tightenBehind_tightenBehind (before tokens : List Token) :
    tightenBehind (tightenBefore before) (tightenBehind before tokens) =
      tightenBehind before tokens := by
  induction tokens generalizing before with
  | nil => rfl
  | cons token rest ih =>
    have hrest := ih (token :: before)
    simp only [tightenBehind]
    rw [tightenBefore] at hrest
    rw [hrest, Token.tightened, leastGap_tightened]
    rfl

theorem tight_tighten (tokens : List Token) : Tokens.Tight ⟨tighten tokens, []⟩ :=
  ⟨rfl, tightenBehind_tightenBehind [] tokens⟩

/-! ## Fixed points -/

theorem minifyChars_eq_ok_iff {cs out : List Char} :
    minifyChars cs = .ok out ↔ ∃ tokens, tokenize cs = .ok tokens ∧ join tokens.tokens = out := by
  unfold minifyChars
  cases tokenize cs with
  | error e => simp [Except.map]
  | ok tokens => simp [Except.map]

theorem minify_eq_ok_iff {source text : String} :
    minify source = .ok text ↔
      ∃ tokens, tokenize source.toList = .ok tokens ∧ join tokens.tokens = text.toList := by
  rw [← minifyChars_eq_ok_iff, minify_eq]
  cases minifyChars source.toList with
  | error e => simp [Except.map]
  | ok out =>
    simp only [Except.map, Except.ok.injEq]
    constructor
    · rintro rfl
      exact String.toList_ofList.symm
    · rintro rfl
      exact String.ofList_toList

/-- Minifying leaves a text as it is exactly when the text has the least gaps. -/
theorem minify_eq_self_iff {text : String} :
    minify text = .ok text ↔ ∃ tokens, tokenize text.toList = .ok tokens ∧ tokens.Tight := by
  rw [minify_eq_ok_iff]
  refine exists_congr fun tokens => and_congr_right fun h => ?_
  rw [← join_eq_chars_iff, chars_of_tokens h]

/-- A minified text is read as the tokens of its source with the least gaps exactly when those stay
apart. -/
theorem tokenize_minified_iff {source text : String} {tokens : Tokens}
    (h : minify source = .ok text) (htokens : tokenize source.toList = .ok tokens) :
    tokenize text.toList = .ok ⟨tighten tokens.tokens, []⟩ ↔ Apart tokens.tokens := by
  obtain ⟨tokens', htokens', hjoin⟩ := minify_eq_ok_iff.1 h
  obtain rfl : tokens' = tokens := Except.ok.inj (htokens'.symm.trans htokens)
  rw [← hjoin]
  constructor
  · intro hagain
    rw [join_eq_joinBehind] at hagain
    exact apart_of_tokensFrom_joinBehind htokens (by simp) hagain
      (map_shape_tightenBehind [] tokens'.tokens)
  · exact tokenize_join htokens

/-- A minified text is left as it is when the tokens of its source stay apart. -/
theorem minify_minified_of_apart {source text : String} {tokens : Tokens}
    (h : minify source = .ok text) (htokens : tokenize source.toList = .ok tokens)
    (hapart : Apart tokens.tokens) : minify text = .ok text :=
  -- Read again, the tokens are the tightened ones, and tightening those changes nothing.
  minify_eq_self_iff.2 ⟨_, (tokenize_minified_iff h htokens).2 hapart, tight_tighten _⟩

/-- A text whose tokens stay apart is minified to a text of the same tokens. -/
theorem exists_minified {source : String} {tokens : Tokens}
    (h : tokenize source.toList = .ok tokens) (hapart : Apart tokens.tokens) :
    ∃ text again, minify source = .ok text ∧ tokenize text.toList = .ok again ∧
      again.tokens.map Token.shape = tokens.tokens.map Token.shape := by
  have hminify : minify source = .ok (String.ofList (join tokens.tokens)) :=
    minify_eq_ok_iff.2 ⟨tokens, h, String.toList_ofList.symm⟩
  exact ⟨_, _, hminify, (tokenize_minified_iff hminify h).2 hapart,
    map_shape_tightenBehind [] tokens.tokens⟩

/-! ## Main results -/

/-- Minifying keeps the kinds and the texts of tokens exactly when no two of them fuse. -/
theorem minify_keeps_tokens_iff {source : String} {tokens : Tokens}
    (h : tokenize source.toList = .ok tokens) :
    (∃ text again, minify source = .ok text ∧ tokenize text.toList = .ok again ∧
      again.tokens.map Token.shape = tokens.tokens.map Token.shape) ↔ Apart tokens.tokens := by
  constructor
  · rintro ⟨text, again, htext, hagain, hsame⟩
    obtain ⟨tokens', htokens', hjoin⟩ := minify_eq_ok_iff.1 htext
    obtain rfl : tokens' = tokens := Except.ok.inj (htokens'.symm.trans h)
    rw [← hjoin, join_eq_joinBehind] at hagain
    exact apart_of_tokensFrom_joinBehind h (by simp) hagain hsame
  · exact exists_minified h

/-- A member access on a number keeps its blank and its tokens. -/
theorem minify_keeps_tokens_member :
    tokenize "1 .x".toList =
        .ok ⟨[⟨[], .number, ['1']⟩, ⟨[' '], .punct, ['.']⟩, ⟨[], .word, ['x']⟩], []⟩ ∧
      ∃ text again, minify "1 .x" = .ok text ∧ tokenize text.toList = .ok again ∧
        again.tokens.map Token.shape = [(.number, ['1']), (.punct, ['.']), (.word, ['x'])] := by
  have htokens : tokenize "1 .x".toList =
      .ok ⟨[⟨[], .number, ['1']⟩, ⟨[' '], .punct, ['.']⟩, ⟨[], .word, ['x']⟩], []⟩ := by
    decide +kernel
  exact ⟨htokens, (minify_keeps_tokens_iff htokens).2 (by decide +kernel)⟩

/-- A number that ends in a point is written together with the word behind it. -/
theorem minify_merges_tokens :
    ¬ ∀ (source : String) (tokens : Tokens), tokenize source.toList = .ok tokens →
      ∃ text again, minify source = .ok text ∧ tokenize text.toList = .ok again ∧
        again.tokens.map Token.shape = tokens.tokens.map Token.shape := by
  intro h
  have htokens : tokenize "1. in x".toList =
      .ok ⟨[⟨[], .number, ['1', '.']⟩, ⟨[' '], .word, ['i', 'n']⟩, ⟨[' '], .word, ['x']⟩], []⟩ := by
    decide +kernel
  have hmerged : tokenize "1.in x".toList =
      .ok ⟨[⟨[], .number, ['1', '.', 'i', 'n']⟩, ⟨[' '], .word, ['x']⟩], []⟩ := by
    decide +kernel
  have hminify : minify "1. in x" = .ok "1.in x" := by
    rw [minify_eq]
    decide +kernel
  obtain ⟨text, again, htext, hagain, hsame⟩ := h _ _ htokens
  obtain rfl : "1.in x" = text := Except.ok.inj (hminify.symm.trans htext)
  rw [← Except.ok.inj (hmerged.symm.trans hagain)] at hsame
  simp at hsame

/-- A minified text is left as it is exactly when it is read with the least gaps. It is read as the
tokens of its source, with the least gaps, exactly when those stay apart, so it is always left as it is
then. -/
theorem minify_minified_iff {source text : String} (h : minify source = .ok text) :
    (minify text = .ok text ↔ ∃ again, tokenize text.toList = .ok again ∧ again.Tight) ∧
      ∀ tokens, tokenize source.toList = .ok tokens →
        (Apart tokens.tokens ↔ tokenize text.toList = .ok ⟨tighten tokens.tokens, []⟩) ∧
          (Apart tokens.tokens → minify text = .ok text) :=
  ⟨minify_eq_self_iff, fun _ htokens => ⟨(tokenize_minified_iff h htokens).symm,
    fun hapart => minify_minified_of_apart h htokens hapart⟩⟩

/-- Signs that stay apart are left as they are. -/
theorem minify_minified_signs :
    minify "a - -b" = .ok "a- -b" ∧
      tokenize "a - -b".toList = .ok ⟨[⟨[], .word, ['a']⟩, ⟨[' '], .punct, ['-']⟩,
        ⟨[' '], .punct, ['-']⟩, ⟨[], .word, ['b']⟩], []⟩ ∧
      minify "a- -b" = .ok "a- -b" := by
  have hminify : minify "a - -b" = .ok "a- -b" := by
    rw [minify_eq]
    decide +kernel
  have htokens : tokenize "a - -b".toList = .ok ⟨[⟨[], .word, ['a']⟩, ⟨[' '], .punct, ['-']⟩,
      ⟨[' '], .punct, ['-']⟩, ⟨[], .word, ['b']⟩], []⟩ := by
    decide +kernel
  exact ⟨hminify, htokens, ((minify_minified_iff hminify).2 _ htokens).2 (by decide +kernel)⟩

/-- Behind a number that took a keyword along, a regular expression is read as divisions. -/
theorem minify_changes_minified :
    ¬ ∀ source text : String, minify source = .ok text → minify text = .ok text := by
  intro h
  have hfirst : minify "1. in /a + b/" = .ok "1.in/a + b/" := by
    rw [minify_eq]
    decide +kernel
  have hagain : minify "1.in/a + b/" = .ok "1.in/a+b/" := by
    rw [minify_eq]
    decide +kernel
  have hsame := Except.ok.inj ((h _ _ hfirst).symm.trans hagain)
  exact absurd hsame (by decide)

end LiveMarkup.Script

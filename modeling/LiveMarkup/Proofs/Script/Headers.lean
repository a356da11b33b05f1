import LiveMarkup.Proofs.Lists
import LiveMarkup.Proofs.Script.Fitting

/-!
# Regular expressions behind a header

A slash behind a closing parenthesis always divides (`regexAllowed`), also where the parenthesis ends
the condition of a branch and the slash opens a regular expression. What stands between the slashes
is then read as code, and minifying changes it wherever it drops a blank or a comment of code. Such a
pattern is kept exactly when it can be read as code whose gaps are the ones that minifying would
write (`minify_keeps_pattern_iff`): minifying moves no character back, so the last slash of the text
stays behind the whole pattern only if nothing in front of it was dropped
(`joinBehind_eq_append_cons`).
-/

set_option autoImplicit false

namespace LiveMarkup.Script

/-! ## Characters move to the front -/

theorem tightenBehind_append (before front back : List Token) :
    tightenBehind before (front ++ back) =
      tightenBehind before front ++ tightenBehind (front.reverse ++ before) back := by
  induction front generalizing before with
  | nil => rfl
  | cons token front ih =>
    rw [List.cons_append, tightenBehind, ih (token :: before), tightenBehind, List.reverse_cons,
      List.append_assoc]
    rfl

/-- A character that is no blank stands in the tokens no earlier than in the text that is written for
them. It stands behind the same characters only if the tokens up to it have the gaps that are
written. -/
theorem joinBehind_eq_append_cons {before tokens : List Token} {front back : List Char} {c : Char}
    (h : joinBehind before tokens = front ++ c :: back) (hc : isBlank c = false) :
    ∃ front' back', spelled tokens = front' ++ c :: back' ∧ front.length ≤ front'.length ∧
      (front' = front → ∃ first rest, tokens = first ++ rest ∧
        tightenBehind before first = first ∧ front ++ [c] <+: spelled first) := by
  induction tokens generalizing before front with
  | nil =>
    rw [joinBehind_nil] at h
    simp at h
  | cons token rest ih =>
    have hshort := length_leastGap_le before token
    rw [joinBehind_cons] at h
    rcases append_eq_append_cons_iff.mp h with ⟨more, hgap, -⟩ | ⟨behind, rfl, htext⟩
    · -- The gap that is written has no such character.
      have hmem : c ∈ leastGap before token := by simp [hgap]
      rcases leastGap_cases before token with hnone | ⟨d, hd, hone⟩
      · rw [hnone] at hmem
        exact absurd hmem List.not_mem_nil
      · rw [hone, List.mem_singleton] at hmem
        rw [hmem, hd] at hc
        exact absurd hc.symm Bool.false_ne_true
    rcases append_eq_append_cons_iff.mp htext with ⟨more, hin, -⟩ | ⟨further, rfl, hrest⟩
    · refine ⟨token.gap ++ behind, more ++ spelled rest, by simp [hin], ?_, fun hsame => ?_⟩
      · simp only [List.length_append]
        omega
      · have hgap : token.gap = leastGap before token := List.append_cancel_right hsame
        refine ⟨[token], rest, rfl, ?_, ?_⟩
        · rw [tightenBehind, tightenBehind, Token.tightened, ← hgap]
        · rw [spelled_cons, hin, hgap]
          exact ⟨more, by simp [spelled]⟩
    · obtain ⟨front', back', hspelled, hle, hsame⟩ := ih hrest
      refine ⟨token.gap ++ (token.text ++ front'), back', by simp [hspelled], ?_, fun heq => ?_⟩
      · simp only [List.length_append]
        omega
      · -- Both lengths are no smaller than what is written, so both are the same.
        have hlength := congrArg List.length heq
        simp only [List.length_append] at hlength
        obtain ⟨hgap, hmore⟩ := List.append_inj heq (by omega)
        obtain ⟨first, others, rfl, htight, hfirst⟩ := hsame (List.append_cancel_left hmore)
        refine ⟨token :: first, others, rfl, ?_, ?_⟩
        · rw [tightenBehind, htight, Token.tightened, ← hgap]
        · rw [spelled_cons, hgap, List.append_assoc, List.append_assoc]
          exact (List.prefix_append_right_inj _).mpr ((List.prefix_append_right_inj _).mpr hfirst)

theorem joinBehind_append (before front back : List Token) :
    joinBehind before (front ++ back) =
      spelled (tightenBehind before front) ++ joinBehind (front.reverse ++ before) back := by
  rw [joinBehind, tightenBehind_append, List.flatMap_append]
  rfl

/-! ## A branch that tests a pattern -/

/-- A branch on the condition `name` whose statement tests `s` against the pattern. -/
def branchOnTest (name : Identifier) (pattern : List Char) : String :=
  String.ofList ("if (".toList ++ (name.name.toList ++
    (") /".toList ++ (pattern ++ "/.test(s);".toList))))

theorem toList_branchOnTest (name : Identifier) (pattern : List Char) :
    (branchOnTest name pattern).toList =
      "if (".toList ++ (name.name.toList ++ (") /".toList ++ (pattern ++ "/.test(s);".toList))) :=
  String.toList_ofList

/-- The tokens of the header, and the slash behind it. -/
def headerTokens (name : Identifier) : List Token :=
  [⟨[], .word, "if".toList⟩, ⟨[' '], .punct, ['(']⟩, ⟨[], .word, name.name.toList⟩,
    ⟨[], .punct, [')']⟩, ⟨[' '], .punct, ['/']⟩]

/-- Behind the header the slash divides, and the pattern is read as code. -/
theorem tokenize_branchOnTest (name : Identifier) {pattern : List Char} (hsome : pattern ≠ [])
    (hopen : ¬ opensComment pattern) :
    ∃ offset, tokenize (branchOnTest name pattern).toList =
      (tokensFrom (headerTokens name).reverse [] offset
        (pattern ++ "/.test(s);".toList)).map fun tokens =>
          ⟨headerTokens name ++ tokens.tokens, tokens.tail⟩ := by
  have hword := isPlainWord_name name
  obtain ⟨c, text, hname⟩ := exists_cons_of_isPlainWord hword
  rw [hname] at hword
  have hslash : ¬ opensComment (pattern ++ "/.test(s);".toList) := by
    rwa [opensComment_append_iff hsome]
  generalize hbody : pattern ++ "/.test(s);".toList = body at hslash
  have hblank : ∀ allowed rest, chunk allowed ' ' rest = .ok (.gap, ⟨[' '], rest⟩) :=
    fun allowed rest => chunk_of_isBlank allowed rfl rest
  have hif : ∀ allowed rest, TokenRead allowed 'i' ('f' :: ' ' :: rest) .word
      ⟨['i', 'f'], ' ' :: rest⟩ := fun allowed rest =>
    tokenRead_word (show isPlainWord ['i', 'f'] = true by decide) ((stopsAt_cons _ _ _).mpr rfl)
      allowed
  have hparen : ∀ allowed rest, TokenRead allowed '(' rest .punct ⟨['('], rest⟩ := tokenRead_sign rfl
  have hcondition : ∀ allowed rest, TokenRead allowed c (text ++ ')' :: rest) .word
      ⟨c :: text, ')' :: rest⟩ := fun allowed rest =>
    tokenRead_word hword ((stopsAt_cons _ _ _).mpr rfl) allowed
  have hclose : ∀ allowed rest, TokenRead allowed ')' rest .punct ⟨[')'], rest⟩ := tokenRead_sign rfl
  have hdivides : ∀ allowed, allowed = false → TokenRead allowed '/' body .punct ⟨['/'], body⟩ :=
    fun allowed hdivides => .punct rfl rfl rfl (by decide) fun _ => ⟨hdivides, hslash⟩
  have hsource : (branchOnTest name pattern).toList =
      'i' :: 'f' :: ' ' :: '(' :: c :: (text ++ ')' :: ' ' :: '/' :: body) := by
    rw [toList_branchOnTest, hbody, hname]
    rfl
  refine ⟨0 + byteLength ['i', 'f'] + byteLength [' '] + byteLength ['('] +
    byteLength (c :: text) + byteLength [')'] + byteLength [' '] + byteLength ['/'], ?_⟩
  rw [tokenize, hsource, tokensFrom_token (chunk_of_tokenRead (hif _ _)),
    tokensFrom_gap (hblank _ _), tokensFrom_token (chunk_of_tokenRead (hparen _ _)),
    tokensFrom_token (chunk_of_tokenRead (hcondition _ _)),
    tokensFrom_token (chunk_of_tokenRead (hclose _ _)), tokensFrom_gap (hblank _ _),
    tokensFrom_token (chunk_of_tokenRead (hdivides _ rfl)), headerTokens, hname]
  have hheader : ∀ (first second third fourth fifth : Token) (read : Except ScriptError Tokens),
      Except.map (Tokens.cons first) (Except.map (Tokens.cons second)
        (Except.map (Tokens.cons third) (Except.map (Tokens.cons fourth)
          (Except.map (Tokens.cons fifth) read)))) =
      Except.map (fun tokens : Tokens =>
        ⟨[first, second, third, fourth, fifth] ++ tokens.tokens, tokens.tail⟩) read := by
    intro _ _ _ _ _ read
    cases read <;> rfl
  exact hheader _ _ _ _ _ _

/-- The header is written without its blanks. -/
theorem spelled_tighten_headerTokens (name : Identifier) :
    spelled (tighten (headerTokens name)) = "if(".toList ++ (name.name.toList ++ [')', '/']) := by
  have hopen : separator ⟨[], .word, ['i', 'f']⟩ ⟨[' '], .punct, ['(']⟩ = [] := by decide
  have hclose : separator ⟨[], .punct, [')']⟩ ⟨[' '], .punct, ['/']⟩ = [] := by decide
  have htouch : ∀ (previous : Token) (kind : TokenKind) (text : List Char),
      separator previous ⟨[], kind, text⟩ = [] := fun _ _ _ => rfl
  simp [headerTokens, tighten, tightenBehind, Token.tightened, leastGap, spelled, hopen, hclose,
    htouch]

/-- No place of an item is behind its last one. -/
theorem length_le_of_not_mem {α : Type} {item : α} {front back before after : List α}
    (h : front ++ item :: back = before ++ item :: after) (hlast : item ∉ after) :
    front.length ≤ before.length := by
  rcases append_eq_append_cons_iff.mp h with ⟨rest, rfl, rfl⟩ | ⟨rest, rfl, hrest⟩
  · exact absurd (List.mem_append_right rest List.mem_cons_self) hlast
  · rw [List.length_append]
    exact Nat.le_add_right _ _

theorem cons_infix_append_iff {α : Type} {item : α} {items front back : List α}
    (hfront : item ∉ front) : item :: items <:+: front ++ back ↔ item :: items <:+: back := by
  induction front with
  | nil => exact Iff.rfl
  | cons first front ih =>
    rw [List.mem_cons, not_or] at hfront
    rw [List.cons_append, List.infix_cons_iff, List.cons_prefix_cons, ih hfront.2]
    simp [hfront.1]

/-- Of an item, others and the item again behind its first occurrence, the second one stands behind at
least as much as the others, and behind just as much only if it stands behind them. -/
theorem exists_last_of_infix {α : Type} {item : α} {items rest : List α}
    (h : item :: (items ++ [item]) <:+: item :: rest) :
    ∃ before after, rest = before ++ item :: after ∧ items.length ≤ before.length ∧
      (before.length ≤ items.length → before = items) := by
  rcases List.infix_cons_iff.mp h with ⟨later, hlater⟩ | ⟨earlier, later, hlater⟩
  · obtain ⟨-, hlater⟩ := List.cons.inj hlater
    exact ⟨items, later, by rw [← hlater]; simp, Nat.le_refl _, fun _ => rfl⟩
  · refine ⟨earlier ++ item :: items, later, by rw [← hlater]; simp, ?_, ?_⟩
    all_goals
      simp only [List.length_append, List.length_cons]
      omega

/-- What is written is the header and what is written for the tokens behind it. -/
theorem join_headerTokens_append (name : Identifier) (tokens : List Token) :
    join (headerTokens name ++ tokens) =
      "if(".toList ++ (name.name.toList ++ [')']) ++
        '/' :: joinBehind (headerTokens name).reverse tokens := by
  have hheader := spelled_tighten_headerTokens name
  rw [tighten] at hheader
  rw [join_eq_joinBehind, joinBehind_append, List.append_nil, hheader]
  simp

theorem slash_not_mem_header (name : Identifier) :
    '/' ∉ "if(".toList ++ (name.name.toList ++ [')']) := by
  have hname : '/' ∉ name.name.toList := by
    intro hslash
    have hword := isPlainWord_name name
    simp only [isPlainWord, Bool.and_eq_true, List.all_eq_true] at hword
    exact absurd (hword.2 _ hslash).1 (by decide)
  have hopen : '/' ∉ "if(".toList := by decide
  rw [List.mem_append, List.mem_append, List.mem_singleton]
  rintro (h | h | h)
  · exact hopen h
  · exact hname h
  · exact absurd h (by decide)

theorem not_opensComment_of_regexTail {pattern : List Char} (hsome : pattern ≠ [])
    (hstar : pattern.head? ≠ some '*')
    (hread : regexTail false (pattern ++ ['/']) = some ⟨pattern ++ ['/'], []⟩) :
    ¬ opensComment pattern := by
  rintro (hslash | hopen)
  · cases pattern with
    | nil => exact hsome rfl
    | cons c rest =>
      obtain rfl : c = '/' := Option.some.inj hslash
      -- The scanner would end at this slash.
      rw [List.cons_append, regexTail.eq_def] at hread
      simp [isLineBreak] at hread
  · exact hstar hopen

/-- If the pattern stands in what is written behind the dividing slash, then it is read as tokens with
the gaps that are written. -/
theorem exists_tokens_of_infix {before before' : List Token} {pattern : List Char} {offset : Nat}
    {more : Tokens}
    (hmore : tokensFrom before [] offset (pattern ++ "/.test(s);".toList) = .ok more)
    (hstands : '/' :: (pattern ++ ['/']) <:+: '/' :: joinBehind before' more.tokens) :
    ∃ first rest, more.tokens = first ++ rest ∧ tightenBehind before' first = first ∧
      pattern ++ ['/'] <+: spelled first := by
  -- Its last slash stands behind at least as much as the pattern.
  obtain ⟨written, after, hwritten, hle, hhere⟩ := exists_last_of_infix hstands
  -- In the source it stands no earlier, and behind the pattern there is no further slash.
  obtain ⟨front, back, hspelled, hmoved, hkept⟩ := joinBehind_eq_append_cons hwritten rfl
  have hchars : front ++ '/' :: (back ++ more.tail) = pattern ++ '/' :: ".test(s);".toList := by
    have hall : spelled more.tokens ++ more.tail = _ := chars_of_tokensFrom hmore
    rwa [hspelled, List.append_assoc, List.cons_append] at hall
  have hlast : '/' ∉ ".test(s);".toList := by decide
  have hlimit : front.length ≤ pattern.length := length_le_of_not_mem hchars hlast
  have hsame : front = pattern := (List.append_inj hchars (by omega)).1
  obtain rfl : written = pattern := hhere (by omega)
  exact hkept hsame

/-- A regular expression that stands behind the header of a branch stays as it is exactly when what
stands between its slashes, and the closing slash, is read as code and each token of it has the gap
that minifying writes. -/
theorem minify_keeps_pattern_iff (name : Identifier) (pattern : List Char) (hsome : pattern ≠ [])
    (hstar : pattern.head? ≠ some '*')
    (hread : regexTail false (pattern ++ ['/']) = some ⟨pattern ++ ['/'], []⟩) :
    (∃ text, minify (branchOnTest name pattern) = .ok text ∧
        '/' :: (pattern ++ ['/']) <:+: text.toList) ↔
      ∃ front back tail,
        tokenize (branchOnTest name pattern).toList =
          .ok ⟨headerTokens name ++ (front ++ back), tail⟩ ∧
        pattern ++ ['/'] <+: spelled front ∧
        tightenBehind (headerTokens name).reverse front = front := by
  obtain ⟨offset, hsource⟩ :=
    tokenize_branchOnTest name hsome (not_opensComment_of_regexTail hsome hstar hread)
  constructor
  · rintro ⟨text, hminify, hstands⟩
    obtain ⟨tokens, htokens, hjoin⟩ := minify_eq_ok_iff.1 hminify
    rw [hsource] at htokens
    cases hmore : tokensFrom (headerTokens name).reverse [] offset
        (pattern ++ "/.test(s);".toList) with
    | error error =>
      rw [hmore] at htokens
      cases htokens
    | ok more =>
      rw [hmore] at htokens hsource
      obtain rfl := Except.ok.inj htokens
      rw [← hjoin, join_headerTokens_append, cons_infix_append_iff (slash_not_mem_header name)]
        at hstands
      obtain ⟨first, rest, htokens, htight, hprefix⟩ := exists_tokens_of_infix hmore hstands
      refine ⟨first, rest, more.tail, ?_, hprefix, htight⟩
      rw [hsource, ← htokens]
      rfl
  · rintro ⟨front, back, tail, htokens, hprefix, htight⟩
    refine ⟨_, minify_eq_ok_iff.2 ⟨_, htokens, String.toList_ofList.symm⟩, ?_⟩
    rw [String.toList_ofList, join_headerTokens_append,
      cons_infix_append_iff (slash_not_mem_header name), joinBehind_append, htight]
    apply List.IsPrefix.isInfix
    apply List.cons_prefix_cons.mpr
    exact ⟨rfl, hprefix.trans (List.prefix_append _ _)⟩

/-- A single blank between two words is one that minifying writes. -/
theorem minify_keeps_pattern_words :
    ∃ text, minify (branchOnTest ⟨"x", by decide⟩ "a b".toList) = .ok text ∧
      '/' :: ("a b".toList ++ ['/']) <:+: text.toList := by
  refine (minify_keeps_pattern_iff ⟨"x", by decide⟩ "a b".toList (by decide) (by decide)
    (by decide +kernel)).mpr ⟨[⟨[], .word, ['a']⟩, ⟨[' '], .word, ['b']⟩, ⟨[], .punct, ['/']⟩],
      [⟨[], .punct, ['.']⟩, ⟨[], .word, "test".toList⟩, ⟨[], .punct, ['(']⟩, ⟨[], .word, ['s']⟩,
        ⟨[], .punct, [')']⟩, ⟨[], .punct, [';']⟩], [], ?_, ?_, ?_⟩
  · decide +kernel
  · decide
  · decide

/-- The pattern of two blanks becomes a pattern of one. -/
theorem minify_changes_pattern :
    ¬ ∀ (name : Identifier) (pattern : List Char), pattern ≠ [] → pattern.head? ≠ some '*' →
      regexTail false (pattern ++ ['/']) = some ⟨pattern ++ ['/'], []⟩ →
      ∃ text, minify (branchOnTest name pattern) = .ok text ∧
        '/' :: (pattern ++ ['/']) <:+: text.toList := by
  intro h
  obtain ⟨text, hminify, hstands⟩ := h ⟨"h", by decide⟩ "a  b".toList (by decide) (by decide)
    (by decide +kernel)
  have hwritten : minify (branchOnTest ⟨"h", by decide⟩ "a  b".toList) =
      .ok "if(h)/a b/.test(s);" := by
    rw [minify_eq]
    decide +kernel
  obtain rfl := Except.ok.inj (hwritten.symm.trans hminify)
  revert hstands
  decide +kernel

end LiveMarkup.Script

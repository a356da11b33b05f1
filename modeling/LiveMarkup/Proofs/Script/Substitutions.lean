import LiveMarkup.Proofs.Script.Lossless

/-!
# Code nested in templates

The code of a substitution is passed by a scanner that knows strings, templates, comments and braces,
but neither regular expressions nor carriage returns at the ends of comments. It passes every other
token and gap as the reader reads them (`TokenRead.passes_text`, `Gap.passes_in_front`). So it keeps in
step with the reader exactly when it passes the regular expressions and the gaps with carriage returns,
and then code with balanced braces makes one template (`tokenize_nested_iff`).
-/

set_option autoImplicit false

namespace LiveMarkup.Script

/-! ## Runs of the scanner -/

/-- Where the scanner stands behind a text, if it does not leave the outermost template in it. -/
def skim (state : TemplateState) : List Char → Option TemplateState
  | [] => some state
  | c :: rest =>
    match stepTemplate state c with
    | .stay next => skim next rest
    | .done => none
    | .broken => none

@[simp] theorem skim_nil (state : TemplateState) : skim state [] = some state := rfl

theorem skim_cons {state next : TemplateState} {c : Char} (h : stepTemplate state c = .stay next)
    (rest : List Char) : skim state (c :: rest) = skim next rest := by
  simp [skim, h]

theorem skim_append (state : TemplateState) (front back : List Char) :
    skim state (front ++ back) = (skim state front).bind fun next => skim next back := by
  induction front generalizing state with
  | nil => rfl
  | cons c rest ih =>
    rw [List.cons_append, skim, skim]
    cases stepTemplate state c with
    | stay next => exact ih next
    | done => rfl
    | broken => rfl

theorem skim_append_of_eq {state next : TemplateState} {front : List Char}
    (h : skim state front = some next) (back : List Char) :
    skim state (front ++ back) = skim next back := by
  rw [skim_append, h, Option.bind_some]

theorem templateTail_of_skim {state next : TemplateState} {front : List Char}
    (h : skim state front = some next) (back : List Char) :
    templateTail state (front ++ back) = (templateTail next back).map (Split.prepend front) := by
  induction front generalizing state with
  | nil =>
    obtain rfl : state = next := Option.some.inj h
    rw [List.nil_append]
    cases templateTail state back <;> rfl
  | cons c rest ih =>
    unfold skim at h
    split at h
    · rename_i hstep
      rw [List.cons_append, templateTail, hstep]
      simp only [ih h, Option.map_map]
      rfl
    · simp at h
    · simp at h

/-- A template that ends with the text is ended by its last character. -/
theorem exists_skim_of_templateTail {state : TemplateState} {front : List Char} {c : Char}
    (h : templateTail state (front ++ [c]) = some ⟨front ++ [c], []⟩) :
    ∃ last, skim state front = some last ∧ stepTemplate last c = .done := by
  induction front generalizing state with
  | nil =>
    refine ⟨state, rfl, ?_⟩
    rw [List.nil_append, templateTail] at h
    split at h
    · simp [templateTail] at h
    · assumption
    · simp at h
  | cons d rest ih =>
    rw [List.cons_append, templateTail] at h
    split at h
    · rename_i hstep
      obtain ⟨inner, hinner, hsplit⟩ := Option.map_eq_some_iff.1 h
      simp only [Split.prepend, List.cons_append, List.nil_append, Split.mk.injEq, List.cons.injEq,
        true_and] at hsplit
      obtain ⟨hread, hrest⟩ := hsplit
      have hwhole : inner = ⟨rest ++ [c], []⟩ := by rw [← hread, ← hrest]
      rw [hwhole] at hinner
      rw [skim_cons hstep]
      exact ih hinner
    · simp at h
    · simp at h

/-- The scanner in the code of a substitution, with `depth` braces open in it. -/
def inCode (depth : Nat) : TemplateState := ⟨.code depth, []⟩

/-! ## Strings and comments -/

theorem skim_stringTail {quote : Char} {cs : List Char} {split : Split}
    (h : stringTail quote cs = some split) (depth : Nat) :
    skim ⟨.quoted quote depth, []⟩ split.read = some (inCode depth) := by
  fun_induction stringTail quote cs generalizing split with
  | case1 => simp at h
  | case2 => simp at h
  | case3 d more ih =>
    obtain ⟨inner, hinner, rfl⟩ := Option.map_eq_some_iff.1 h
    have hstep : stepTemplate ⟨.quoted quote depth, []⟩ '\\' =
        .stay ⟨.quotedEscape quote depth, []⟩ := rfl
    have hstep' : stepTemplate ⟨.quotedEscape quote depth, []⟩ d =
        .stay ⟨.quoted quote depth, []⟩ := rfl
    simp only [Split.prepend, List.cons_append, List.nil_append]
    rw [skim_cons hstep, skim_cons hstep']
    exact ih hinner
  | case4 => simp at h
  | case5 rest hback hbreak =>
    simp only [Option.some.injEq] at h
    subst h
    have hstep : stepTemplate ⟨.quoted quote depth, []⟩ quote = .stay (inCode depth) := by
      simp [stepTemplate, hback, hbreak, inCode]
    rw [skim_cons hstep, skim_nil]
  | case6 c rest hback hbreak hquote ih =>
    obtain ⟨inner, hinner, rfl⟩ := Option.map_eq_some_iff.1 h
    have hstep : stepTemplate ⟨.quoted quote depth, []⟩ c = .stay ⟨.quoted quote depth, []⟩ := by
      simp [stepTemplate, hback, hbreak, hquote]
    simp only [Split.prepend, List.cons_append, List.nil_append]
    rw [skim_cons hstep]
    exact ih hinner

theorem skim_line {body : List Char} (h : '\n' ∉ body) (depth : Nat) :
    skim ⟨.line depth, []⟩ body = some ⟨.line depth, []⟩ := by
  induction body with
  | nil => rfl
  | cons c rest ih =>
    rw [List.mem_cons, not_or] at h
    have hstep : stepTemplate ⟨.line depth, []⟩ c = .stay ⟨.line depth, []⟩ := by
      simp [stepTemplate, Ne.symm h.1]
    rw [skim_cons hstep]
    exact ih h.2

/-- A block comment is passed to its first end. -/
theorem skim_block {body : List Char} (h : ¬ ['*', '/'] <:+: body) (depth : Nat) :
    skim ⟨.block depth, []⟩ (body ++ ['*', '/']) = some (inCode depth) := by
  -- Behind a star the scanner is elsewhere, and then the body does not go on with a slash.
  have hboth : skim ⟨.block depth, []⟩ (body ++ ['*', '/']) = some (inCode depth) ∧
      (body.head? ≠ some '/' →
        skim ⟨.blockStar depth, []⟩ (body ++ ['*', '/']) = some (inCode depth)) := by
    induction body with
    | nil => exact ⟨rfl, fun _ => rfl⟩
    | cons c rest ih =>
      rw [List.infix_cons_iff, not_or] at h
      obtain ⟨hblock, hstar⟩ := ih h.2
      by_cases hc : c = '*'
      · subst hc
        have hnext : rest.head? ≠ some '/' := by
          intro hhead
          apply h.1
          cases rest with
          | nil => simp at hhead
          | cons d more =>
            obtain rfl : d = '/' := by simpa using hhead
            exact ⟨more, rfl⟩
        exact ⟨hstar hnext, fun _ => hstar hnext⟩
      · have hstep : stepTemplate ⟨.block depth, []⟩ c = .stay ⟨.block depth, []⟩ := by
          simp [stepTemplate, hc]
        refine ⟨by rw [List.cons_append, skim_cons hstep]; exact hblock, fun hhead => ?_⟩
        have hslash : c ≠ '/' := fun h => hhead (by rw [h]; rfl)
        have hstep' : stepTemplate ⟨.blockStar depth, []⟩ c = .stay ⟨.block depth, []⟩ := by
          simp [stepTemplate, hc, hslash]
        rw [List.cons_append, skim_cons hstep']
        exact hblock
  exact hboth.1

/-! ## Templates -/

/-- The scanner in a template that stands in code with `depth` braces open. -/
def TemplateState.within (state : TemplateState) (depth : Nat) : TemplateState :=
  ⟨state.part, state.outer ++ [depth]⟩

/-- What a step within a template is when the template stands in code: its end leads into the code. -/
def TemplateStep.within (step : TemplateStep) (depth : Nat) : TemplateStep :=
  match step with
  | .stay next => .stay (next.within depth)
  | .done => .stay (inCode depth)
  | .broken => .broken

theorem stepTemplateText_within (outer : List Nat) (depth : Nat) (c : Char) :
    stepTemplateText (outer ++ [depth]) c = (stepTemplateText outer c).within depth := by
  unfold stepTemplateText
  split
  · rfl
  split
  · rfl
  split
  · cases outer <;> rfl
  · rfl

theorem stepTemplateCode_within (inside : Nat) (outer : List Nat) (depth : Nat) (c : Char) :
    stepTemplateCode inside (outer ++ [depth]) c =
      (stepTemplateCode inside outer c).within depth := by
  unfold stepTemplateCode
  split
  · rfl
  split
  · cases inside <;> rfl
  split
  · rfl
  split
  · rfl
  split
  · rfl
  · rfl

/-- In a template that stands in code, the scanner does the steps that it does in the template. -/
theorem stepTemplate_within (state : TemplateState) (depth : Nat) (c : Char) :
    stepTemplate (state.within depth) c = (stepTemplate state c).within depth := by
  obtain ⟨part, outer⟩ := state
  cases part with
  | text => exact stepTemplateText_within outer depth c
  | textEscape => rfl
  | textDollar =>
    simp only [stepTemplate, TemplateState.within]
    split
    · rfl
    · exact stepTemplateText_within outer depth c
  | code inside => exact stepTemplateCode_within inside outer depth c
  | codeSlash inside =>
    simp only [stepTemplate, TemplateState.within]
    split
    · rfl
    split
    · rfl
    · exact stepTemplateCode_within inside outer depth c
  | quoted quote inside =>
    simp only [stepTemplate, TemplateState.within]
    split
    · rfl
    split
    · rfl
    split
    · rfl
    · rfl
  | quotedEscape quote inside => rfl
  | block inside => rfl
  | blockStar inside => rfl
  | line inside => rfl

theorem skim_templateTail {state : TemplateState} {cs : List Char} {split : Split}
    (h : templateTail state cs = some split) (depth : Nat) :
    skim (state.within depth) split.read = some (inCode depth) := by
  induction cs generalizing state split with
  | nil => simp [templateTail] at h
  | cons c rest ih =>
    have hwithin := stepTemplate_within state depth c
    unfold templateTail at h
    split at h
    · rename_i hstep
      obtain ⟨inner, hinner, rfl⟩ := Option.map_eq_some_iff.1 h
      rw [hstep] at hwithin
      simp only [Split.prepend, List.cons_append, List.nil_append]
      rw [skim_cons hwithin]
      exact ih hinner
    · rename_i hstep
      simp only [Option.some.injEq] at h
      subst h
      rw [hstep] at hwithin
      rw [skim_cons hwithin, skim_nil]
    · simp at h

/-! ## Parts of code -/

instance (rest : List Char) : Decidable (opensComment rest) :=
  inferInstanceAs (Decidable (_ ∨ _))

/-- The scanner stands between parts of code in front of a text, with `depth` braces open. It may have
read a slash, if the text does not make a comment of it. -/
def Between (depth : Nat) (rest : List Char) (state : TemplateState) : Prop :=
  state = inCode depth ∨ state = ⟨.codeSlash depth, []⟩ ∧ ¬ opensComment rest

instance (depth : Nat) (rest : List Char) (state : TemplateState) :
    Decidable (Between depth rest state) :=
  inferInstanceAs (Decidable (_ ∨ _))

/-- Whether the scanner passes a part of code that stands in front of a text: started in front of the
part with `depth` braces open, it is between parts behind it, with `next` braces open. -/
def passes (depth : Nat) (part rest : List Char) (next : Nat) : Bool :=
  (skim (inCode depth) part).any fun state => Between next rest state

theorem passes_iff {depth next : Nat} {part rest : List Char} :
    passes depth part rest next = true ↔
      ∃ state, skim (inCode depth) part = some state ∧ Between next rest state := by
  simp [passes, Option.any_eq_true]

/-- A slash in front of a text that does not make a comment of it is code like any other. -/
theorem stepTemplate_between {depth : Nat} {c : Char} {rest : List Char} {state : TemplateState}
    (h : Between depth (c :: rest) state) :
    stepTemplate state c = stepTemplateCode depth [] c := by
  rcases h with rfl | ⟨rfl, hopen⟩
  · rfl
  · simp only [opensComment, List.head?_cons, Option.some.injEq, not_or] at hopen
    simp [stepTemplate, hopen]

/-- Wherever the scanner stands in front of a part that it passes, it is between parts behind it. -/
theorem exists_skim_of_passes {depth next : Nat} {part rest : List Char} {state : TemplateState}
    (h : passes depth part rest next = true) (hstate : Between depth (part ++ rest) state) :
    ∃ after, skim state part = some after ∧ Between next rest after := by
  obtain ⟨after, hskim, hafter⟩ := passes_iff.1 h
  cases part with
  | nil =>
    obtain rfl : inCode depth = after := Option.some.inj hskim
    have hdepth : depth = next := by
      rcases hafter with hsame | ⟨hslash, -⟩
      · simpa [inCode] using hsame
      · simp [inCode] at hslash
    subst hdepth
    exact ⟨state, rfl, hstate⟩
  | cons c more =>
    refine ⟨after, ?_, hafter⟩
    rw [skim] at hskim ⊢
    rw [stepTemplate_between hstate]
    exact hskim

/-! ## Plain parts -/

/-- The characters that the scanner reads over in code, slashes included. -/
def isPlainCode (c : Char) : Bool := !(['\x7b', '\x7d', '"', '\'', '\x60'].contains c)

theorem stepTemplateCode_plain {c : Char} (h : isPlainCode c = true) (depth : Nat) :
    stepTemplateCode depth [] c =
      if c = '/' then .stay ⟨.codeSlash depth, []⟩ else .stay (inCode depth) := by
  simp only [isPlainCode, Bool.not_eq_true', List.contains_eq_mem, List.mem_cons,
    List.not_mem_nil, or_false, decide_eq_false_iff_not, not_or] at h
  obtain ⟨hopen, hclose, hdouble, hsingle, hback⟩ := h
  simp [stepTemplateCode, hopen, hclose, hdouble, hsingle, hback, inCode]

/-- The scanner reads over plain characters, if no slash among them opens a comment. -/
theorem skim_plain {depth : Nat} {part rest : List Char} {state : TemplateState}
    (hplain : ∀ c ∈ part, isPlainCode c = true)
    (hslash : ∀ front back, part = front ++ '/' :: back → ¬ opensComment (back ++ rest))
    (hstate : Between depth (part ++ rest) state) :
    ∃ after, skim state part = some after ∧ Between depth rest after := by
  induction part generalizing state with
  | nil => exact ⟨state, rfl, hstate⟩
  | cons c more ih =>
    have hstep := stepTemplate_between hstate
    rw [stepTemplateCode_plain (hplain c (List.mem_cons_self ..))] at hstep
    have hplain' := fun d hd => hplain d (List.mem_cons_of_mem c hd)
    have hslash' : ∀ front back, more = front ++ '/' :: back → ¬ opensComment (back ++ rest) :=
      fun front back hmore => hslash (c :: front) back (by rw [hmore, List.cons_append])
    split at hstep
    · rename_i hc
      rw [skim_cons hstep]
      exact ih hplain' hslash' (.inr ⟨rfl, hslash [] more (by rw [hc, List.nil_append])⟩)
    · rw [skim_cons hstep]
      exact ih hplain' hslash' (.inl rfl)

theorem passes_of_plain {part rest : List Char} (hplain : ∀ c ∈ part, isPlainCode c = true)
    (hslash : ∀ front back, part = front ++ '/' :: back → ¬ opensComment (back ++ rest))
    (depth : Nat) : passes depth part rest depth = true :=
  passes_iff.2 (skim_plain hplain hslash (.inl rfl))

theorem isPlainCode_of_isWordChar {c : Char} (h : isWordChar c = true) :
    isPlainCode c = true ∧ c ≠ '/' := by
  refine ⟨?_, ne_of_isWordChar h (by decide)⟩
  simp only [isPlainCode, Bool.not_eq_true', List.contains_eq_mem, List.mem_cons,
    List.not_mem_nil, or_false, decide_eq_false_iff_not, not_or]
  exact ⟨ne_of_isWordChar h (by decide), ne_of_isWordChar h (by decide),
    ne_of_isWordChar h (by decide), ne_of_isWordChar h (by decide), ne_of_isWordChar h (by decide)⟩

theorem passes_of_plain_of_ne_slash {part rest : List Char}
    (h : ∀ c ∈ part, isPlainCode c = true ∧ c ≠ '/') (depth : Nat) :
    passes depth part rest depth = true := by
  refine passes_of_plain (fun c hc => (h c hc).1) (fun front back hpart => ?_) depth
  exact absurd rfl (h '/' (by rw [hpart]; simp)).2

/-! ## Tokens -/

/-- The braces open behind a token, if `depth` are open in front of it. No token closes a brace that
none has opened. -/
def Token.braces (token : Token) (depth : Nat) : Option Nat :=
  if token.isPunct '\x7b' then some (depth + 1)
  else if token.isPunct '\x7d' then
    match depth with
    | 0 => none
    | depth + 1 => some depth
  else some depth

theorem Token.braces_of_kind {token : Token} (h : token.kind ≠ .punct) (depth : Nat) :
    token.braces depth = some depth := by
  simp [Token.braces, Token.isPunct, h]

/-- The scanner passes every token that is no regular expression. -/
theorem TokenRead.passes_text {allowed : Bool} {c : Char} {rest : List Char} {kind : TokenKind}
    {split : Split} (h : TokenRead allowed c rest kind split) (hkind : kind ≠ .regex)
    {gap : List Char} {depth next : Nat}
    (hbraces : Token.braces ⟨gap, kind, split.read⟩ depth = some next) :
    passes depth split.read split.rest next = true := by
  cases h with
  | regex => exact absurd rfl hkind
  | @str inner hc hread =>
    rw [Token.braces_of_kind (by simp)] at hbraces
    obtain rfl := Option.some.inj hbraces
    have hstep : stepTemplate (inCode depth) c = .stay ⟨.quoted c depth, []⟩ := by
      rcases hc with rfl | rfl <;> rfl
    refine passes_iff.2 ⟨inCode depth, ?_, .inl rfl⟩
    exact (skim_cons hstep _).trans (skim_stringTail hread depth)
  | @template inner hc hread =>
    rw [Token.braces_of_kind (by simp)] at hbraces
    obtain rfl := Option.some.inj hbraces
    have hstep : stepTemplate (inCode depth) c = .stay (TemplateState.within ⟨.text, []⟩ depth) := by
      subst hc
      rfl
    refine passes_iff.2 ⟨inCode depth, ?_, .inl rfl⟩
    exact (skim_cons hstep _).trans (skim_templateTail hread depth)
  | number hc =>
    rw [Token.braces_of_kind (by simp)] at hbraces
    obtain rfl := Option.some.inj hbraces
    refine passes_of_plain_of_ne_slash (fun d hd => ?_) depth
    have hplain : isWordChar d = true ∨ d = '.' ∨ d = '+' ∨ d = '-' := by
      rcases List.mem_cons.1 hd with rfl | hd
      · exact (isWordChar_or_eq_of_startsNumber hc).imp_right .inl
      · exact numberTail_plain _ _ _ d hd
    rcases hplain with hd | rfl | rfl | rfl
    · exact isPlainCode_of_isWordChar hd
    all_goals decide
  | word hc =>
    rw [Token.braces_of_kind (by simp)] at hbraces
    obtain rfl := Option.some.inj hbraces
    refine passes_of_plain_of_ne_slash (fun d hd => isPlainCode_of_isWordChar ?_) depth
    rcases List.mem_cons.1 hd with rfl | hd
    · exact hc
    · exact all_spanSplit _ _ d hd
  | punct hblank hword hnumber hquote hslash =>
    by_cases hopen : c = '\x7b'
    · subst hopen
      obtain rfl := Option.some.inj hbraces
      exact passes_iff.2 ⟨inCode (depth + 1), rfl, .inl rfl⟩
    by_cases hclose : c = '\x7d'
    · subst hclose
      cases depth with
      | zero => cases hbraces
      | succ depth =>
        obtain rfl := Option.some.inj hbraces
        exact passes_iff.2 ⟨inCode depth, rfl, .inl rfl⟩
    · simp only [Token.braces, Token.isPunct, beq_self_eq_true, Bool.true_and, beq_iff_eq,
        List.cons.injEq, hopen, hclose, and_true, if_false, Option.some.injEq] at hbraces
      subst hbraces
      refine passes_of_plain (fun d hd => ?_) (fun front back hpart => ?_) depth
      · obtain rfl := List.mem_singleton.1 hd
        simp [isPlainCode, hopen, hclose, hquote]
      · cases front with
        | nil =>
          obtain ⟨hc, rfl⟩ := List.cons.inj hpart
          exact (hslash hc).2
        | cons d front => simp at hpart

/-! ## Gaps -/

/-- Behind a gap without carriage returns the scanner is in code, or in a line comment that ends the
line. -/
theorem Gap.skim_eq {after gap : List Char} (h : Gap after gap) (hreturn : '\r' ∉ gap) (depth : Nat) :
    skim (inCode depth) gap = some (inCode depth) ∨
      skim (inCode depth) gap = some ⟨.line depth, []⟩ ∧
        StopsAt (fun c => !isLineBreak c) after := by
  induction h with
  | nil => exact .inl rfl
  | @blank c rest hc hrest ih =>
    have hstep : stepTemplate (inCode depth) c = .stay (inCode depth) := by
      simp only [isBlank, isLineBreak, Bool.or_eq_true, beq_iff_eq] at hc
      rcases hc with ((rfl | rfl) | rfl) | rfl | rfl <;> rfl
    rw [skim_cons hstep]
    exact ih fun h => hreturn (List.mem_cons_of_mem _ h)
  | @line body rest hbody hend hrest ih =>
    have hline : skim (inCode depth) ('/' :: '/' :: body) =
        some ⟨.line depth, []⟩ := by
      have hfeed : '\n' ∉ body := fun h => by simpa [isLineBreak] using hbody _ h
      exact skim_line hfeed depth
    rw [← List.cons_append, ← List.cons_append, skim_append_of_eq hline]
    cases rest with
    | nil => exact .inr ⟨rfl, hend⟩
    | cons c more =>
      -- The line ends in a line feed, from which the scanner goes on as from the one in code.
      have hfeed : c = '\n' := by
        rw [List.cons_append, stopsAt_cons] at hend
        have hc : c ≠ '\r' := fun h => hreturn (by simp [h])
        simpa [isLineBreak, hc] using hend
      subst hfeed
      have ih' := ih fun h => hreturn (by simp [h])
      exact ih'
  | @block body rest hbody hrest ih =>
    have hblock : skim (inCode depth) ('/' :: '*' :: (body ++ ['*', '/'])) =
        some (inCode depth) := skim_block hbody depth
    have hsplit : '/' :: '*' :: (body ++ '*' :: '/' :: rest) =
        '/' :: '*' :: (body ++ ['*', '/']) ++ rest := by simp
    rw [hsplit, skim_append_of_eq hblock]
    exact ih fun h => hreturn (by simp [h])

/-- The scanner passes every gap without carriage returns in front of a token. -/
theorem Gap.passes_in_front {after gap : List Char} (h : Gap after gap) (hreturn : '\r' ∉ gap)
    (hafter : ∃ c ∈ after.head?, isLineBreak c = false) (depth : Nat) :
    passes depth gap after depth = true := by
  rcases h.skim_eq hreturn depth with hskim | ⟨-, hend⟩
  · exact passes_iff.2 ⟨_, hskim, .inl rfl⟩
  · obtain ⟨c, hc, hbreak⟩ := hafter
    simpa [hbreak] using hend c hc

theorem Gap.passes_at_end {gap : List Char} (h : Gap [] gap) (hreturn : '\r' ∉ gap) (depth : Nat) :
    passes depth (gap ++ ['\n']) [] depth = true := by
  rcases h.skim_eq hreturn depth with hskim | ⟨hskim, -⟩
  all_goals exact passes_iff.2 ⟨inCode depth, skim_append_of_eq hskim _, .inl rfl⟩

/-! ## Whole texts -/

theorem TokenRead.isBlank_eq_false {allowed : Bool} {c : Char} {rest : List Char}
    {kind : TokenKind} {split : Split} (h : TokenRead allowed c rest kind split) :
    isBlank c = false := by
  cases h with
  | regex hc => subst hc; decide
  | str hc => rcases hc with rfl | rfl <;> decide
  | template hc => subst hc; decide
  | number hc => exact (plain_of_startsNumber_or_isWordChar _ (.inl hc)).1
  | word hc => exact (plain_of_startsNumber_or_isWordChar rest (.inr hc)).1
  | punct hblank => exact hblank

/-- Every token is read in front of what stands behind it. -/
def ReadsFit (tail : List Char) : List Token → Prop
  | [] => True
  | token :: rest =>
    (∃ allowed c cs, TokenRead allowed c cs token.kind ⟨token.text, spelled rest ++ tail⟩) ∧
      ReadsFit tail rest

theorem readsFit_of_tokensFrom {before : List Token} {gap : List Char} {offset : Nat}
    {cs : List Char} {tokens : Tokens} (h : tokensFrom before gap offset cs = .ok tokens) :
    ReadsFit tokens.tail tokens.tokens := by
  fun_induction tokensFrom before gap offset cs generalizing tokens with
  | case1 =>
    simp only [Except.ok.injEq] at h
    subst h
    trivial
  | case2 => simp at h
  | case3 before gap offset c rest split found ih => exact ih h
  | case4 before gap offset c rest kind split found ih =>
    obtain ⟨more, hmore, rfl⟩ := map_cons_eq_ok_iff.1 h
    have hafter : spelled more.tokens ++ more.tail = split.rest := chars_of_tokensFrom hmore
    have hread : TokenRead (regexAllowed before) c rest kind
        ⟨split.read, spelled more.tokens ++ more.tail⟩ := by
      rw [hafter]
      exact chunk_eq_token_iff.1 found
    exact ⟨⟨_, c, rest, hread⟩, ih hmore⟩

/-- The braces open behind tokens, if `depth` are open in front of them. -/
def bracesBehind : Nat → List Token → Option Nat
  | depth, [] => some depth
  | depth, token :: rest => (token.braces depth).bind fun next => bracesBehind next rest

/-- Every closing brace among the tokens closes one that was opened, and none stays open. -/
def Balanced (tokens : List Token) : Prop := bracesBehind 0 tokens = some 0

instance (tokens : List Token) : Decidable (Balanced tokens) :=
  inferInstanceAs (Decidable (_ = _))

/-- Whether the scanner passes those gaps and tokens that are asked for, with `depth` braces open in
front of them. A line feed ends the gap behind the last token. -/
def passesParts (gaps : List Char → Bool) (kinds : TokenKind → Bool) (tail : List Char) :
    Nat → List Token → Bool
  | depth, [] => !gaps tail || passes depth (tail ++ ['\n']) [] depth
  | depth, token :: rest =>
    (!gaps token.gap || passes depth token.gap (token.text ++ (spelled rest ++ tail)) depth) &&
      (token.braces depth).any fun next =>
        (!kinds token.kind || passes depth token.text (spelled rest ++ tail) next) &&
          passesParts gaps kinds tail next rest

namespace Tokens

/-- The scanner is between parts of the code wherever the reader is. -/
def InStep (tokens : Tokens) : Prop :=
  passesParts (fun _ => true) (fun _ => true) tokens.tail 0 tokens.tokens = true

/-- The scanner passes the regular expressions and the gaps with carriage returns. -/
def HazardsPass (tokens : Tokens) : Prop :=
  passesParts (fun gap => decide ('\r' ∈ gap)) (fun kind => kind == .regex) tokens.tail 0
    tokens.tokens = true

instance (tokens : Tokens) : Decidable tokens.HazardsPass :=
  inferInstanceAs (Decidable (_ = _))

end Tokens

theorem passesParts_of_all {gaps : List Char → Bool} {kinds : TokenKind → Bool} {tail : List Char}
    {depth : Nat} {tokens : List Token}
    (h : passesParts (fun _ => true) (fun _ => true) tail depth tokens = true) :
    passesParts gaps kinds tail depth tokens = true := by
  induction tokens generalizing depth with
  | nil =>
    simp only [passesParts, Bool.not_true, Bool.false_or] at h ⊢
    rw [h, Bool.or_true]
  | cons token rest ih =>
    simp only [passesParts, Bool.not_true, Bool.false_or, Bool.and_eq_true, Option.any_eq_true,
      Bool.or_eq_true] at h ⊢
    obtain ⟨hgap, next, hnext, htext, hrest⟩ := h
    exact ⟨.inr hgap, next, hnext, .inr htext, ih hrest⟩

/-- What the scanner passes is decided by regular expressions and carriage returns. -/
theorem passesParts_all {tail : List Char} {depth : Nat} {tokens : List Token}
    (hgaps : GapsFit tail tokens) (hreads : ReadsFit tail tokens)
    (h : passesParts (fun gap => decide ('\r' ∈ gap)) (fun kind => kind == .regex) tail depth tokens =
      true) :
    passesParts (fun _ => true) (fun _ => true) tail depth tokens = true := by
  -- What is not asked for is a gap without carriage returns or a token of another kind, and the
  -- scanner passes all of these.
  induction tokens generalizing depth with
  | nil =>
    simp only [passesParts, Bool.not_true, Bool.false_or, Bool.or_eq_true, Bool.not_eq_true',
      decide_eq_false_iff_not] at h ⊢
    exact h.elim (fun hreturn => Gap.passes_at_end hgaps hreturn depth) id
  | cons token rest ih =>
    obtain ⟨⟨allowed, c, cs, hread⟩, hreads⟩ := hreads
    simp only [passesParts, Bool.not_true, Bool.false_or, Bool.and_eq_true, Option.any_eq_true,
      Bool.or_eq_true, Bool.not_eq_true', decide_eq_false_iff_not, beq_eq_false_iff_ne] at h ⊢
    obtain ⟨hgap, next, hnext, htext, hrest⟩ := h
    refine ⟨hgap.elim (fun hreturn => ?_) id, next, hnext, htext.elim (fun hkind => ?_) id,
      ih hgaps.2 hreads hrest⟩
    · refine hgaps.1.passes_in_front hreturn ⟨c, ?_, ?_⟩ depth
      · obtain ⟨text, htext, -⟩ := hread.append_of_stopsAt
        have hcons : token.text = c :: text := htext
        rw [hcons]
        rfl
      · exact (Bool.or_eq_false_iff.1 hread.isBlank_eq_false).2
    · exact hread.passes_text hkind hnext

/-- The scanner that passes every part of a text is between parts behind it. -/
theorem exists_skim_of_passesParts {tail : List Char} {depth final : Nat} {tokens : List Token}
    {state : TemplateState}
    (h : passesParts (fun _ => true) (fun _ => true) tail depth tokens = true)
    (hfinal : bracesBehind depth tokens = some final)
    (hstate : Between depth (spelled tokens ++ tail) state) :
    ∃ after, skim state (spelled tokens ++ (tail ++ ['\n'])) = some after ∧
      Between final [] after := by
  -- Induction on the tokens. The scanner need not be in code in front of a part: a slash before it may
  -- still be open, which is why the state is any that is between parts.
  induction tokens generalizing depth state with
  | nil =>
    simp only [passesParts, Bool.not_true, Bool.false_or] at h
    obtain rfl : depth = final := Option.some.inj hfinal
    refine exists_skim_of_passes h (hstate.imp_right fun ⟨hslash, hopen⟩ => ⟨hslash, ?_⟩)
    cases tail with
    | nil =>
      have hfeed : ¬ opensComment ['\n'] := by decide
      exact hfeed
    | cons c more => exact hopen
  | cons token rest ih =>
    simp only [passesParts, Bool.not_true, Bool.false_or, Bool.and_eq_true,
      Option.any_eq_true] at h
    obtain ⟨hgap, next, hnext, htext, hrest⟩ := h
    rw [bracesBehind, hnext, Option.bind_some] at hfinal
    rw [spelled_cons, List.append_assoc, List.append_assoc] at hstate
    obtain ⟨front, hfront, hbetween⟩ := exists_skim_of_passes hgap hstate
    obtain ⟨back, hback, hbetween⟩ := exists_skim_of_passes htext hbetween
    obtain ⟨after, hafter, hend⟩ := ih hrest hfinal hbetween
    refine ⟨after, ?_, hend⟩
    rw [spelled_cons, List.append_assoc, skim_append_of_eq hfront, List.append_assoc,
      skim_append_of_eq hback, hafter]

/-! ## Main results -/

theorem TokenRead.templateTail_eq {allowed : Bool} {c : Char} {cs text tail : List Char}
    (h : TokenRead allowed c cs .template ⟨text, tail⟩) :
    templateTail ⟨.text, []⟩ text.tail = some ⟨text.tail, []⟩ := by
  generalize hsplit : (⟨text, tail⟩ : Split) = split at h
  cases h with
  | @template inner hc hread =>
    have htext : text = c :: inner.read := congrArg Split.read hsplit
    have hagain := templateTail_local _ _ _ hread []
    rw [List.append_nil] at hagain
    rw [htext, List.tail_cons, hagain]

/-- A text in back quotes is one template exactly when the second one ends what the first one opens. -/
theorem tokenize_template_iff {body : List Char} :
    tokenize ('\x60' :: (body ++ ['\x60'])) =
        .ok ⟨[⟨[], .template, '\x60' :: (body ++ ['\x60'])⟩], []⟩ ↔
      ∃ last, skim ⟨.text, []⟩ body = some last ∧ stepTemplate last '\x60' = .done := by
  constructor
  · intro h
    obtain ⟨⟨allowed, c, cs, hread⟩, -⟩ := readsFit_of_tokensFrom h
    exact exists_skim_of_templateTail hread.templateTail_eq
  · rintro ⟨last, hskim, hdone⟩
    have htail := templateTail_of_skim hskim ['\x60']
    rw [templateTail, hdone] at htail
    have hread : TokenRead (regexAllowed []) '\x60' (body ++ ['\x60']) .template _ :=
      .template rfl htail
    rw [tokenize, tokensFrom_token (chunk_eq_token_iff.2 hread), Split.prepend, Split.prepend,
      tokensFrom]
    rfl

/-- A closing brace leads into no dollar sign. -/
theorem part_ne_textDollar {state next : TemplateState}
    (h : stepTemplate state '\x7d' = .stay next) : next.part ≠ .textDollar := by
  obtain ⟨part, outer⟩ := state
  cases part with
  | code depth | codeSlash depth =>
    cases depth with
    | zero =>
      obtain rfl := TemplateStep.stay.inj h
      simp
    | succ depth =>
      obtain rfl := TemplateStep.stay.inj h
      simp
  | quoted quote depth =>
    simp only [stepTemplate] at h
    split at h
    · obtain rfl := TemplateStep.stay.inj h
      simp
    split at h
    · cases h
    split at h
    · obtain rfl := TemplateStep.stay.inj h
      simp
    · obtain rfl := TemplateStep.stay.inj h
      simp
  | _ =>
    obtain rfl := TemplateStep.stay.inj h
    simp

/-- A template with one substitution: the code, and a line feed in front of the closing brace. -/
def nested (cs : List Char) : List Char :=
  '\x60' :: '$' :: '\x7b' :: (cs ++ ['\n', '\x7d', '\x60'])

/-- Code in a substitution is read as one template exactly when the scanner is in the text of the
template behind the closing brace. -/
theorem tokenize_nested_eq_iff (cs : List Char) :
    tokenize (nested cs) = .ok ⟨[⟨[], .template, nested cs⟩], []⟩ ↔
      skim (inCode 0) (cs ++ ['\n', '\x7d']) = some ⟨.text, []⟩ := by
  have hnested : nested cs =
      '\x60' :: ('$' :: '\x7b' :: (cs ++ ['\n', '\x7d']) ++ ['\x60']) := by
    simp [nested]
  have hopen : skim ⟨.text, []⟩ ('$' :: '\x7b' :: (cs ++ ['\n', '\x7d'])) =
      skim (inCode 0) (cs ++ ['\n', '\x7d']) := rfl
  rw [hnested, tokenize_template_iff, hopen]
  constructor
  · rintro ⟨⟨part, outer⟩, hskim, hdone⟩
    -- The back quote ends the template from its text, or from behind a dollar sign, which the brace
    -- before it rules out.
    obtain ⟨-, rfl, hpart⟩ := of_stepTemplate_done hdone
    have hsplit : cs ++ ['\n', '\x7d'] = cs ++ ['\n'] ++ ['\x7d'] := by simp
    rw [hskim]
    rw [hsplit, skim_append] at hskim
    obtain ⟨before, -, hbrace⟩ := Option.bind_eq_some_iff.1 hskim
    rw [skim] at hbrace
    split at hbrace
    · rename_i hstep
      obtain rfl := Option.some.inj hbrace
      rcases hpart with rfl | rfl
      · rfl
      · exact absurd rfl (part_ne_textDollar hstep)
    · simp at hbrace
    · simp at hbrace
  · intro hskim
    exact ⟨_, hskim, rfl⟩

/-- The scanner keeps in step with the reader exactly when it passes what it knows nothing of. -/
theorem Tokens.inStep_iff {cs : List Char} {tokens : Tokens} (h : tokenize cs = .ok tokens) :
    tokens.InStep ↔ tokens.HazardsPass :=
  ⟨passesParts_of_all, passesParts_all (gapsFit_of_tokenize h) (readsFit_of_tokensFrom h)⟩

/-- The scanner that keeps in step with the reader ends the substitution behind the code. -/
theorem Tokens.InStep.tokenize_nested {cs : List Char} {tokens : Tokens} (hstep : tokens.InStep)
    (h : tokenize cs = .ok tokens) (hbalanced : Balanced tokens.tokens) :
    tokenize (nested cs) = .ok ⟨[⟨[], .template, nested cs⟩], []⟩ := by
  rw [tokenize_nested_eq_iff]
  obtain ⟨after, hskim, hafter⟩ := exists_skim_of_passesParts hstep hbalanced (.inl rfl)
  have hchars : spelled tokens.tokens ++ tokens.tail = cs := chars_of_tokens h
  rw [← List.append_assoc, hchars] at hskim
  have hsplit : cs ++ ['\n', '\x7d'] = cs ++ ['\n'] ++ ['\x7d'] := by simp
  have hbrace : Between 0 ['\x7d'] after :=
    hafter.imp_right fun hslash => ⟨hslash.1, by decide⟩
  rw [hsplit, skim_append_of_eq hskim, skim_cons (stepTemplate_between hbrace)]
  rfl

/-- Code in a substitution is read as one template exactly when the scanner is in the text of the
template behind the closing brace. With balanced braces it is there if it keeps in step with the
reader, which it does exactly when it passes the regular expressions and the gaps with carriage
returns. -/
theorem tokenize_nested_iff {cs : List Char} {tokens : Tokens} (h : tokenize cs = .ok tokens)
    (hbalanced : Balanced tokens.tokens) :
    (tokenize (nested cs) = .ok ⟨[⟨[], .template, nested cs⟩], []⟩ ↔
        skim (inCode 0) (cs ++ ['\n', '\x7d']) = some ⟨.text, []⟩) ∧
      (tokens.InStep ↔ tokens.HazardsPass) ∧
      (tokens.InStep → tokenize (nested cs) = .ok ⟨[⟨[], .template, nested cs⟩], []⟩) :=
  ⟨tokenize_nested_eq_iff cs, Tokens.inStep_iff h, fun hstep => hstep.tokenize_nested h hbalanced⟩

/-- Braces in strings and regular expressions stay in the substitution, and so does a comment that ends
in a carriage return and a line feed. -/
theorem tokenize_nested_braces :
    tokenize "f(/a\x7b2\x7d/, '\x7d') // c\r\n".toList = .ok ⟨[⟨[], .word, ['f']⟩,
        ⟨[], .punct, ['(']⟩, ⟨[], .regex, "/a\x7b2\x7d/".toList⟩, ⟨[], .punct, [',']⟩,
        ⟨[' '], .str, "'\x7d'".toList⟩, ⟨[], .punct, [')']⟩], " // c\r\n".toList⟩ ∧
      tokenize (nested "f(/a\x7b2\x7d/, '\x7d') // c\r\n".toList) =
        .ok ⟨[⟨[], .template, nested "f(/a\x7b2\x7d/, '\x7d') // c\r\n".toList⟩], []⟩ := by
  have htokens : tokenize "f(/a\x7b2\x7d/, '\x7d') // c\r\n".toList = .ok ⟨[⟨[], .word, ['f']⟩,
      ⟨[], .punct, ['(']⟩, ⟨[], .regex, "/a\x7b2\x7d/".toList⟩, ⟨[], .punct, [',']⟩,
      ⟨[' '], .str, "'\x7d'".toList⟩, ⟨[], .punct, [')']⟩], " // c\r\n".toList⟩ := by
    decide +kernel
  obtain ⟨-, hstep, hnested⟩ := tokenize_nested_iff htokens (by decide +kernel)
  exact ⟨htokens, hnested (hstep.2 (by decide +kernel))⟩

/-- A quote in a regular expression opens a string for the scanner. -/
theorem nested_quote_unterminated :
    ¬ ∀ (cs : List Char) (tokens : Tokens), tokenize cs = .ok tokens → Balanced tokens.tokens →
      tokenize (nested cs) = .ok ⟨[⟨[], .template, nested cs⟩], []⟩ := by
  intro h
  have htokens : tokenize "/\"/".toList = .ok ⟨[⟨[], .regex, ['/', '"', '/']⟩], []⟩ := by
    decide +kernel
  have hnested : tokenize (nested "/\"/".toList) = .error ⟨.template, 0⟩ := by decide +kernel
  have hone := h _ _ htokens (by decide +kernel)
  rw [hnested] at hone
  cases hone

end LiveMarkup.Script

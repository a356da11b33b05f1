import LiveMarkup.Proofs.Script.Bytes

/-!
# Scanning nested templates

On bytes a template is scanned by two functions that call each other, one for its text and one for the
code of a substitution; on characters by one pass that keeps the open substitutions in a stack. The
two go on together (`follows_scan`): the place that a function returns is the place where the pass has
taken the template or the substitution off its stack.
-/

set_option autoImplicit false

namespace LiveMarkup.Script

/-! ## Parts of nested code -/

theorem templateTail_stay {state : TemplateState} (next : TemplateState) {c : Char}
    (h : stepTemplate state c = .stay next) (rest : List Char) :
    templateTail state (c :: rest) = (templateTail next rest).map (Split.prepend [c]) := by
  rw [templateTail, h]

/-- What the pass reads goes on where a part of the code ends. -/
def resume (state : TemplateState) (part : Option Split) : Option Split :=
  part.bind fun split => (templateTail state split.rest).map (Split.prepend split.read)

theorem resume_prepend (state : TemplateState) (cs : List Char) (part : Option Split) :
    resume state (part.map (Split.prepend cs)) = (resume state part).map (Split.prepend cs) := by
  cases part with
  | none => rfl
  | some split =>
    simp only [resume, Option.map_some, Option.bind_some, Option.map_map]
    congr 1
    funext inner
    simp [Split.prepend]

section Parts

variable (depth : Nat) (outer : List Nat)

theorem templateTail_quoted (quote : Char) (cs : List Char) :
    templateTail ⟨.quoted quote depth, outer⟩ cs =
      resume ⟨.code depth, outer⟩ (stringTail quote cs) := by
  fun_induction stringTail quote cs with
  | case1 => rfl
  | case2 => rfl
  | case3 d more ih =>
    rw [templateTail_stay ⟨.quotedEscape quote depth, outer⟩ rfl,
      templateTail_stay ⟨.quoted quote depth, outer⟩ rfl, ih, resume_prepend,
      Option.map_map]
    congr 1
  | case4 c rest hback hbreak =>
    rw [templateTail]
    simp [stepTemplate, hback, hbreak, resume]
  | case5 rest hback hbreak =>
    have hstep : stepTemplate ⟨.quoted quote depth, outer⟩ quote =
        .stay ⟨.code depth, outer⟩ := by
      simp [stepTemplate, hback, hbreak]
    rw [templateTail_stay _ hstep]
    rfl
  | case6 c rest hback hbreak hend ih =>
    have hstep : stepTemplate ⟨.quoted quote depth, outer⟩ c =
        .stay ⟨.quoted quote depth, outer⟩ := by
      simp [stepTemplate, hback, hbreak, hend]
    rw [templateTail_stay _ hstep, ih, resume_prepend]

/-- Behind a star a slash ends the comment, and everything else is read as in the comment. -/
theorem templateTail_blockStar (cs : List Char) :
    templateTail ⟨.blockStar depth, outer⟩ cs =
      if cs.head? = some '/' then
        (templateTail ⟨.code depth, outer⟩ cs.tail).map (Split.prepend ['/'])
      else templateTail ⟨.block depth, outer⟩ cs := by
  cases cs with
  | nil => rfl
  | cons c rest =>
    simp only [List.head?_cons, Option.some.injEq, List.tail_cons]
    split
    · rename_i hc
      subst hc
      exact templateTail_stay _ rfl rest
    · rename_i hc
      rw [templateTail, templateTail]
      simp [stepTemplate, hc]

theorem templateTail_block (cs : List Char) :
    templateTail ⟨.block depth, outer⟩ cs = resume ⟨.code depth, outer⟩ (blockTail cs) := by
  induction cs with
  | nil => rfl
  | cons c rest ih =>
    rw [blockTail]
    by_cases hc : c = '*'
    · subst hc
      rw [templateTail_stay ⟨.blockStar depth, outer⟩ rfl, templateTail_blockStar]
      by_cases hslash : rest.head? = some '/'
      · rw [if_pos hslash, if_pos ⟨rfl, hslash⟩, Option.map_map]
        congr 1
      · rw [if_neg hslash, if_neg fun h => hslash h.2, ih, resume_prepend]
    · have hstep : stepTemplate ⟨.block depth, outer⟩ c = .stay ⟨.block depth, outer⟩ := by
        simp [stepTemplate, hc]
      rw [templateTail_stay _ hstep, ih, if_neg fun h => hc h.1, resume_prepend]

/-- A line comment ends in front of its line break, which is code. -/
theorem templateTail_line (cs : List Char) :
    templateTail ⟨.line depth, outer⟩ cs =
      resume ⟨.code depth, outer⟩ (some (spanSplit (· != '\n') cs)) := by
  induction cs with
  | nil => rfl
  | cons c rest ih =>
    by_cases hc : c = '\n'
    · subst hc
      rw [templateTail_stay ⟨.code depth, outer⟩ rfl]
      have hstop : spanSplit (· != '\n') ('\n' :: rest) = ⟨[], '\n' :: rest⟩ := rfl
      have hcode : templateTail ⟨.code depth, outer⟩ ('\n' :: rest) =
          (templateTail ⟨.code depth, outer⟩ rest).map (Split.prepend ['\n']) :=
        templateTail_stay _ rfl rest
      rw [hstop, resume, Option.bind_some,
        hcode, Option.map_map]
      rfl
    · have hstep : stepTemplate ⟨.line depth, outer⟩ c = .stay ⟨.line depth, outer⟩ := by
        simp [stepTemplate, hc]
      have hread : some (spanSplit (· != '\n') (c :: rest)) =
          (some (spanSplit (· != '\n') rest)).map (Split.prepend [c]) := by
        simp [spanSplit, Split.prepend, hc]
      rw [templateTail_stay _ hstep, ih, hread, resume_prepend]

/-- A slash that does not open a comment is code. -/
theorem templateTail_codeSlash {cs : List Char} (h : ¬ opensComment cs) :
    templateTail ⟨.codeSlash depth, outer⟩ cs = templateTail ⟨.code depth, outer⟩ cs := by
  cases cs with
  | nil => rfl
  | cons c rest =>
    simp only [opensComment, List.head?_cons, Option.some.injEq, not_or] at h
    rw [templateTail, templateTail]
    simp [stepTemplate, h]

/-- A dollar sign that does not open a substitution is text. -/
theorem templateTail_textDollar {cs : List Char} (h : cs.head? ≠ some '\x7b') :
    templateTail ⟨.textDollar, outer⟩ cs = templateTail ⟨.text, outer⟩ cs := by
  cases cs with
  | nil => rfl
  | cons c rest =>
    have hc : c ≠ '\x7b' := fun he => h (by rw [he]; rfl)
    rw [templateTail, templateTail]
    simp [stepTemplate, hc]

end Parts

/-! ## One byte of a template -/

theorem cursor?_onward {bytes all : List UInt8} (first : Option (Ahead bytes))
    (later : (place : Cursor) → Option (Ahead place.rest)) (widen : Ahead bytes → Ahead all)
    (hwiden : ∀ place : Ahead bytes, (widen place).toCursor = place.toCursor) :
    (cursor? do
      let place ← first
      let more ← later place.toCursor
      return widen (place.onward more)) =
      (cursor? first).bind fun place => cursor? (later place) := by
  cases first with
  | none => rfl
  | some place =>
    change cursor? ((later place.toCursor).bind fun more => some (widen (place.onward more))) =
      cursor? (later place.toCursor)
    cases later place.toCursor with
    | none => rfl
    | some more => exact congrArg some (hwiden _)

theorem scanTemplate_cons (pos : Nat) (b : UInt8) (rest : List UInt8) :
    cursor? (scanTemplate pos (b :: rest)) =
      if byteChar b = '\\' then
        match rest with
        | [] => none
        | _ :: more => cursor? (scanTemplate (pos + 2) more)
      else if byteChar b = '\x60' then some ⟨pos + 1, rest⟩
      else if byteChar b = '$' ∧ nextChar rest = some '\x7b' then
        (cursor? (scanSubstitution 1 (pos + 2) rest.tail)).bind fun place =>
          cursor? (scanTemplate place.pos place.rest)
      else cursor? (scanTemplate (pos + 1) rest) := by
  rw [scanTemplate.eq_def]
  dsimp only
  split
  · cases rest with
    | nil => rfl
    | cons d more => exact Option.map_map ..
  split
  · rfl
  cases rest with
  | nil =>
    rw [if_neg (by simp [nextChar]), scanTemplate]
    rfl
  | cons d more =>
    simp only [nextChar, List.head?_cons, Option.map_some, Option.some.injEq, List.tail_cons]
    split
    · exact cursor?_onward (scanSubstitution 1 (pos + 2) more)
        (fun place => scanTemplate place.pos place.rest) (fun place => (place.cons d).cons b)
        fun _ => rfl
    · exact Option.map_map ..

theorem scanSubstitution_cons (depth pos : Nat) (b : UInt8) (rest : List UInt8) :
    cursor? (scanSubstitution depth pos (b :: rest)) =
      if byteChar b = '\x7b' then cursor? (scanSubstitution (depth + 1) (pos + 1) rest)
      else if byteChar b = '\x7d' then
        if depth = 1 then some ⟨pos + 1, rest⟩
        else cursor? (scanSubstitution (depth - 1) (pos + 1) rest)
      else if byteChar b = '"' ∨ byteChar b = '\'' then
        (cursor? (scanString (byteChar b) (pos + 1) rest)).bind fun place =>
          cursor? (scanSubstitution depth place.pos place.rest)
      else if byteChar b = '\x60' then
        (cursor? (scanTemplate (pos + 1) rest)).bind fun place =>
          cursor? (scanSubstitution depth place.pos place.rest)
      else if byteChar b = '/' ∧ nextChar rest = some '*' then
        (cursor? (scanBlock (pos + 2) rest.tail)).bind fun place =>
          cursor? (scanSubstitution depth place.pos place.rest)
      else if byteChar b = '/' ∧ nextChar rest = some '/' then
        (some (scanWhile (· != '\n') (pos + 2) rest.tail)).bind fun place =>
          cursor? (scanSubstitution depth place.pos place.rest)
      else cursor? (scanSubstitution depth (pos + 1) rest) := by
  rw [scanSubstitution.eq_def]
  dsimp only
  split
  · exact Option.map_map ..
  split
  · split
    · rfl
    · exact Option.map_map ..
  split
  · exact cursor?_onward (scanString (byteChar b) (pos + 1) rest)
      (fun place => scanSubstitution depth place.pos place.rest) (Ahead.cons b) fun _ => rfl
  split
  · exact cursor?_onward (scanTemplate (pos + 1) rest)
      (fun place => scanSubstitution depth place.pos place.rest) (Ahead.cons b) fun _ => rfl
  cases rest with
  | nil =>
    rw [if_neg (by simp [nextChar]), if_neg (by simp [nextChar]), scanSubstitution]
    rfl
  | cons d more =>
    simp only [nextChar, List.head?_cons, Option.map_some, Option.some.injEq, List.tail_cons]
    split
    · exact cursor?_onward (scanBlock (pos + 2) more)
        (fun place => scanSubstitution depth place.pos place.rest)
        (fun place => (place.cons d).cons b) fun _ => rfl
    split
    · exact Option.map_map ..
    · exact Option.map_map ..

theorem scanTemplate_wide : PassesWide fun pos bytes => cursor? (scanTemplate pos bytes) := by
  intro pos b rest hb
  dsimp only
  rw [scanTemplate_cons, if_neg (hb.ne (by decide)), if_neg (hb.ne (by decide)),
    if_neg fun h => hb.ne (by decide) h.1]

theorem scanSubstitution_wide (depth : Nat) :
    PassesWide fun pos bytes => cursor? (scanSubstitution depth pos bytes) := by
  intro pos b rest hb
  dsimp only
  rw [scanSubstitution_cons, if_neg (hb.ne (by decide)), if_neg (hb.ne (by decide)),
    if_neg fun h => h.elim (hb.ne (by decide)) (hb.ne (by decide)), if_neg (hb.ne (by decide)),
    if_neg fun h => hb.ne (by decide) h.1, if_neg fun h => hb.ne (by decide) h.1]

/-! ## Both scanners together -/

/-- What a scanner on bytes finds in a text: it ends behind what is read of the text, wherever the
text begins. -/
structure Finds (scan : Nat → List UInt8 → Option Cursor) (cs : List Char) (found : Option Split) :
    Prop where
  cursor : ∀ pos, scan pos (encode cs) = found.map (Split.cursor pos)
  append : ∀ split, found = some split → split.read ++ split.rest = cs

theorem Finds.length_rest_le {scan : Nat → List UInt8 → Option Cursor} {cs : List Char}
    {found : Option Split} (h : Finds scan cs found) {split : Split} (hfound : found = some split) :
    split.rest.length ≤ cs.length := by
  rw [← h.append split hfound, List.length_append]
  exact Nat.le_add_left _ _

/-- A scanner on bytes finds in a text what the pass on characters, started with any stack, takes off
its stack by `leave`. -/
def Follows (scan : Nat → List UInt8 → Option Cursor) (state : List Nat → TemplateState)
    (leave : List Nat → Option Split → Option Split) (cs : List Char) : Prop :=
  ∃ found, Finds scan cs found ∧ ∀ outer, templateTail (state outer) cs = leave outer found

/-- What is done behind a part does not look at what was read in front of it. -/
structure Leaves (leave : List Nat → Option Split → Option Split) : Prop where
  none : ∀ outer, leave outer none = none
  prepend : ∀ outer cs found,
    leave outer (found.map (Split.prepend cs)) = (leave outer found).map (Split.prepend cs)

section Following

variable {scan scan' first : Nat → List UInt8 → Option Cursor}
  {state state' : List Nat → TemplateState} {leave : List Nat → Option Split → Option Split}

theorem Follows.skip (front : List Char) (hleave : Leaves leave) {rest : List Char}
    (h : Follows scan state leave rest)
    (hscan : ∀ pos, scan' pos (encode (front ++ rest)) =
      scan (pos + byteLength front) (encode rest))
    (hpass : ∀ outer, templateTail (state' outer) (front ++ rest) =
      (templateTail (state outer) rest).map (Split.prepend front)) :
    Follows scan' state' leave (front ++ rest) := by
  obtain ⟨found, hfound, hstate⟩ := h
  refine ⟨found.map (Split.prepend front), ⟨fun pos => ?_, ?_⟩, fun outer => ?_⟩
  · rw [hscan, hfound.cursor, map_cursor_prepend]
  · intro split hsplit
    obtain ⟨inner, hinner, rfl⟩ := Option.map_eq_some_iff.1 hsplit
    rw [Split.prepend_append, hfound.append _ hinner]
  · rw [hpass, hstate, hleave.prepend]

theorem Follows.onward (hleave : Leaves leave) {cs : List Char} {found : Option Split}
    (hfirst : Finds first cs found)
    (hstate : ∀ outer, templateTail (state' outer) cs = resume (state outer) found)
    (hbehind : ∀ more : List Char, more.length ≤ cs.length → Follows scan state leave more) :
    Follows (fun pos bytes => (first pos bytes).bind fun place => scan place.pos place.rest)
      state' leave cs := by
  cases found with
  | none =>
    refine ⟨none, ⟨fun pos => ?_, by simp⟩, fun outer => ?_⟩
    · rw [hfirst.cursor]
      rfl
    · rw [hstate, hleave.none]
      rfl
  | some split =>
    obtain ⟨later, hlater, hpass⟩ := hbehind split.rest (hfirst.length_rest_le rfl)
    refine ⟨later.map (Split.prepend split.read), ⟨fun pos => ?_, ?_⟩, fun outer => ?_⟩
    · rw [hfirst.cursor, map_cursor_prepend]
      exact hlater.cursor _
    · intro whole hwhole
      obtain ⟨inner, hinner, rfl⟩ := Option.map_eq_some_iff.1 hwhole
      rw [Split.prepend_append, hlater.append _ hinner]
      exact hfirst.append split rfl
    · rw [hstate, hleave.prepend, ← hpass]
      rfl

end Following

/-- What the end of a template leads to: the end of the pass, or the code around the template. -/
def leaveText : List Nat → Option Split → Option Split
  | [], found => found
  | depth :: outer, found => resume ⟨.code depth, outer⟩ found

/-- What the end of a substitution leads to: the text of the template. -/
def leaveCode (outer : List Nat) (found : Option Split) : Option Split :=
  resume ⟨.text, outer⟩ found

theorem leaves_leaveText : Leaves leaveText where
  none outer := by cases outer <;> rfl
  prepend outer cs found := by
    cases outer with
    | nil => rfl
    | cons depth outer => exact resume_prepend _ _ _

theorem leaves_leaveCode : Leaves leaveCode where
  none _ := rfl
  prepend _ _ _ := resume_prepend _ _ _

/-- The scanner of a template goes along with the pass in its text. -/
def FollowsText (cs : List Char) : Prop :=
  Follows (fun pos bytes => cursor? (scanTemplate pos bytes)) (fun outer => ⟨.text, outer⟩)
    leaveText cs

/-- The scanner of a substitution goes along with the pass in its code, inside `depth` more braces. -/
def FollowsCode (depth : Nat) (cs : List Char) : Prop :=
  Follows (fun pos bytes => cursor? (scanSubstitution (depth + 1) pos bytes))
    (fun outer => ⟨.code depth, outer⟩) leaveCode cs

section Branches

variable {c : Char} {rest : List Char} {depth : Nat}

/-! ### The branches of a template -/

theorem followsText_nil : FollowsText [] := by
  refine ⟨none, ⟨fun pos => ?_, by simp⟩, fun outer => (leaves_leaveText.none outer).symm⟩
  simp [scanTemplate, cursor?]

theorem followsText_backslash : FollowsText ['\\'] := by
  obtain ⟨b, hb, hsize, hbytes⟩ := encode_ascii (c := '\\') (by decide)
  refine ⟨none, ⟨fun pos => ?_, by simp⟩, fun outer => (leaves_leaveText.none outer).symm⟩
  rw [hbytes, scanTemplate_cons, if_pos hb]
  rfl

/-- Only the first byte of an escaped character is skipped, and the others are passed as text. -/
theorem FollowsText.escaped (d : Char) (h : FollowsText rest) : FollowsText ('\\' :: d :: rest) := by
  obtain ⟨b, hb, hsize, hbytes⟩ := encode_ascii (c := '\\') (by decide)
  obtain ⟨b', others, hd, hskip⟩ := over_skipped scanTemplate_wide d
  refine Follows.skip ['\\', d] leaves_leaveText h (fun pos => ?_) fun outer => ?_
  · rw [List.cons_append, List.singleton_append, hbytes, encode_cons, hd, List.cons_append,
      scanTemplate_cons, if_pos hb]
    dsimp only
    rw [hskip (pos + 1), byteLength_cons, byteLength_singleton, hsize, Nat.add_assoc]
  · rw [List.cons_append, List.singleton_append,
      templateTail_stay ⟨.textEscape, outer⟩ rfl,
      templateTail_stay ⟨.text, outer⟩ rfl, Option.map_map]
    rfl

theorem followsText_mark (rest : List Char) : FollowsText ('\x60' :: rest) := by
  obtain ⟨b, hb, hsize, hbytes⟩ := encode_ascii (c := '\x60') (by decide)
  refine ⟨some ⟨['\x60'], rest⟩, ⟨fun pos => ?_, ?_⟩, fun outer => ?_⟩
  · rw [hbytes, scanTemplate_cons, hb, if_neg (by decide), if_pos rfl]
    rfl
  · rintro split ⟨⟩
    rfl
  · cases outer with
    | nil => rfl
    | cons depth outer => exact templateTail_stay _ rfl rest

theorem FollowsText.substituted (hcode : FollowsCode 0 rest)
    (hbehind : ∀ more : List Char, more.length ≤ rest.length → FollowsText more) :
    FollowsText ('$' :: '\x7b' :: rest) := by
  obtain ⟨b, hb, hsize, hbytes⟩ := encode_ascii (c := '$') (by decide)
  obtain ⟨b', hb', hsize', hbytes'⟩ := encode_ascii (c := '\x7b') (by decide)
  obtain ⟨found, hfound, hpass⟩ := hcode
  have hall := Follows.onward leaves_leaveText hfound hpass hbehind
  refine Follows.skip ['$', '\x7b'] leaves_leaveText hall (fun pos => ?_) fun outer => ?_
  · rw [List.cons_append, List.singleton_append, hbytes, hbytes', scanTemplate_cons, hb,
      if_neg (by decide), if_neg (by decide), if_pos (by simp [nextChar, hb']), byteLength_cons,
      byteLength_singleton, hsize, hsize']
    rfl
  · rw [List.cons_append, List.singleton_append,
      templateTail_stay ⟨.textDollar, outer⟩ rfl,
      templateTail_stay ⟨.code 0, outer⟩ rfl, Option.map_map]
    rfl

theorem FollowsText.plain (hback : c ≠ '\\') (hmark : c ≠ '\x60')
    (hopen : ¬ (c = '$' ∧ rest.head? = some '\x7b')) (h : FollowsText rest) :
    FollowsText (c :: rest) := by
  refine Follows.skip [c] leaves_leaveText h (fun pos => ?_) fun outer => ?_
  · rw [byteLength_singleton]
    by_cases hc : Wide c
    · exact over_char scanTemplate_wide hc pos rest
    · obtain ⟨b, rfl, hsize, hbytes⟩ := encode_ascii hc
      have hnext := nextChar_encode (c := '\x7b') (by decide) rest
      rw [List.singleton_append, hbytes, scanTemplate_cons, if_neg hback, if_neg hmark,
        if_neg fun h => hopen ⟨h.1, hnext.1 h.2⟩, hsize]
  · by_cases hdollar : c = '$'
    · subst hdollar
      have hnext : rest.head? ≠ some '\x7b' := fun h => hopen ⟨rfl, h⟩
      rw [← templateTail_textDollar outer hnext]
      exact templateTail_stay _ rfl rest
    · have hstep : stepTemplate ⟨.text, outer⟩ c = .stay ⟨.text, outer⟩ := by
        simp [stepTemplate, stepTemplateText, hback, hmark, hdollar]
      exact templateTail_stay _ hstep rest

/-! ### The branches of a substitution -/

theorem followsCode_nil (depth : Nat) : FollowsCode depth [] := by
  refine ⟨none, ⟨fun pos => ?_, by simp⟩, fun outer => rfl⟩
  simp [scanSubstitution, cursor?]

theorem FollowsCode.opened (h : FollowsCode (depth + 1) rest) :
    FollowsCode depth ('\x7b' :: rest) := by
  obtain ⟨b, hb, hsize, hbytes⟩ := encode_ascii (c := '\x7b') (by decide)
  refine Follows.skip ['\x7b'] leaves_leaveCode h (fun pos => ?_)
    fun outer => templateTail_stay _ rfl rest
  rw [List.singleton_append, hbytes, scanSubstitution_cons, if_pos hb, byteLength_singleton, hsize]

theorem followsCode_closed (rest : List Char) : FollowsCode 0 ('\x7d' :: rest) := by
  obtain ⟨b, hb, hsize, hbytes⟩ := encode_ascii (c := '\x7d') (by decide)
  refine ⟨some ⟨['\x7d'], rest⟩, ⟨fun pos => ?_, ?_⟩, fun outer => templateTail_stay _ rfl rest⟩
  · rw [hbytes, scanSubstitution_cons, hb, if_neg (by decide), if_pos rfl, if_pos rfl]
    rfl
  · rintro split ⟨⟩
    rfl

theorem FollowsCode.closed (h : FollowsCode depth rest) :
    FollowsCode (depth + 1) ('\x7d' :: rest) := by
  obtain ⟨b, hb, hsize, hbytes⟩ := encode_ascii (c := '\x7d') (by decide)
  refine Follows.skip ['\x7d'] leaves_leaveCode h (fun pos => ?_)
    fun outer => templateTail_stay _ rfl rest
  rw [List.singleton_append, hbytes, scanSubstitution_cons, hb, if_neg (by decide), if_pos rfl,
    if_neg (by omega), byteLength_singleton, hsize]
  rfl

theorem FollowsCode.quoted (hquote : c = '"' ∨ c = '\'')
    (hbehind : ∀ more : List Char, more.length ≤ rest.length → FollowsCode depth more) :
    FollowsCode depth (c :: rest) := by
  have hascii : ¬ Wide c := by rcases hquote with rfl | rfl <;> decide
  have hopen : c ≠ '\x7b' := by rcases hquote with rfl | rfl <;> decide
  have hclose : c ≠ '\x7d' := by rcases hquote with rfl | rfl <;> decide
  obtain ⟨b, rfl, hsize, hbytes⟩ := encode_ascii hascii
  have hstring : Finds (fun pos bytes => cursor? (scanString (byteChar b) pos bytes)) rest
      (stringTail (byteChar b) rest) :=
    ⟨fun pos => scanString_encode hascii pos rest, fun split => stringTail_append⟩
  have hcode := Follows.onward leaves_leaveCode hstring
    (fun outer => templateTail_quoted depth outer (byteChar b) rest) hbehind
  refine Follows.skip [byteChar b] leaves_leaveCode hcode (fun pos => ?_) fun outer => ?_
  · rw [List.singleton_append, hbytes, scanSubstitution_cons, if_neg hopen, if_neg hclose,
      if_pos hquote, byteLength_singleton, hsize]
  · have hstep : stepTemplate ⟨.code depth, outer⟩ (byteChar b) =
        .stay ⟨.quoted (byteChar b) depth, outer⟩ := by
      simp [stepTemplate, stepTemplateCode, hopen, hclose, hquote]
    exact templateTail_stay _ hstep rest

/-- A template inside the code puts the code on the stack. -/
theorem FollowsCode.template (htext : FollowsText rest)
    (hbehind : ∀ more : List Char, more.length ≤ rest.length → FollowsCode depth more) :
    FollowsCode depth ('\x60' :: rest) := by
  obtain ⟨b, hb, hsize, hbytes⟩ := encode_ascii (c := '\x60') (by decide)
  obtain ⟨found, hfound, hpass⟩ := htext
  have hcode := Follows.onward leaves_leaveCode hfound (fun outer => hpass (depth :: outer)) hbehind
  refine Follows.skip ['\x60'] leaves_leaveCode hcode (fun pos => ?_)
    fun outer => templateTail_stay _ rfl rest
  rw [List.singleton_append, hbytes, scanSubstitution_cons, hb, if_neg (by decide),
    if_neg (by decide), if_neg (by decide), if_pos rfl, byteLength_singleton, hsize]

theorem FollowsCode.block
    (hbehind : ∀ more : List Char, more.length ≤ rest.length → FollowsCode depth more) :
    FollowsCode depth ('/' :: '*' :: rest) := by
  obtain ⟨b, hb, hsize, hbytes⟩ := encode_ascii (c := '/') (by decide)
  obtain ⟨b', hb', hsize', hbytes'⟩ := encode_ascii (c := '*') (by decide)
  have hcomment : Finds (fun pos bytes => cursor? (scanBlock pos bytes)) rest (blockTail rest) :=
    ⟨fun pos => scanBlock_encode pos rest, fun split => blockTail_append⟩
  have hcode := Follows.onward leaves_leaveCode hcomment
    (fun outer => templateTail_block depth outer rest) hbehind
  refine Follows.skip ['/', '*'] leaves_leaveCode hcode (fun pos => ?_) fun outer => ?_
  · rw [List.cons_append, List.singleton_append, hbytes, hbytes', scanSubstitution_cons, hb,
      if_neg (by decide), if_neg (by decide), if_neg (by decide), if_neg (by decide),
      if_pos (by simp [nextChar, hb']), byteLength_cons, byteLength_singleton, hsize, hsize']
    rfl
  · rw [List.cons_append, List.singleton_append,
      templateTail_stay ⟨.codeSlash depth, outer⟩ rfl,
      templateTail_stay ⟨.block depth, outer⟩ rfl, Option.map_map]
    rfl

theorem FollowsCode.line
    (hbehind : ∀ more : List Char, more.length ≤ rest.length → FollowsCode depth more) :
    FollowsCode depth ('/' :: '/' :: rest) := by
  obtain ⟨b, hb, hsize, hbytes⟩ := encode_ascii (c := '/') (by decide)
  have hcomment : Finds (fun pos bytes => some (scanWhile (· != '\n') pos bytes)) rest
      (some (spanSplit (· != '\n') rest)) := by
    refine ⟨fun pos => congrArg some (scanWhile_encode (uniform_ne (by decide)) pos rest), ?_⟩
    rintro split ⟨⟩
    exact spanSplit_append _ _
  have hcode := Follows.onward leaves_leaveCode hcomment
    (fun outer => templateTail_line depth outer rest) hbehind
  refine Follows.skip ['/', '/'] leaves_leaveCode hcode (fun pos => ?_) fun outer => ?_
  · rw [List.cons_append, List.singleton_append, hbytes, hbytes, scanSubstitution_cons, hb,
      if_neg (by decide), if_neg (by decide), if_neg (by decide), if_neg (by decide),
      if_neg (by simp [nextChar, hb]), if_pos (by simp [nextChar, hb]), byteLength_cons,
      byteLength_singleton, hsize]
    rfl
  · rw [List.cons_append, List.singleton_append,
      templateTail_stay ⟨.codeSlash depth, outer⟩ rfl,
      templateTail_stay ⟨.line depth, outer⟩ rfl, Option.map_map]
    rfl

theorem FollowsCode.plain (hopen : c ≠ '\x7b') (hclose : c ≠ '\x7d')
    (hquote : ¬ (c = '"' ∨ c = '\'')) (hmark : c ≠ '\x60')
    (hcomment : ¬ (c = '/' ∧ opensComment rest)) (h : FollowsCode depth rest) :
    FollowsCode depth (c :: rest) := by
  refine Follows.skip [c] leaves_leaveCode h (fun pos => ?_) fun outer => ?_
  · rw [byteLength_singleton]
    by_cases hc : Wide c
    · exact over_char (scanSubstitution_wide _) hc pos rest
    · obtain ⟨b, rfl, hsize, hbytes⟩ := encode_ascii hc
      have hstar := nextChar_encode (c := '*') (by decide) rest
      have hslash := nextChar_encode (c := '/') (by decide) rest
      rw [List.singleton_append, hbytes, scanSubstitution_cons, if_neg hopen, if_neg hclose,
        if_neg hquote, if_neg hmark, if_neg fun h => hcomment ⟨h.1, .inr (hstar.1 h.2)⟩,
        if_neg fun h => hcomment ⟨h.1, .inl (hslash.1 h.2)⟩, hsize]
  · by_cases hslash : c = '/'
    · subst hslash
      rw [← templateTail_codeSlash depth outer fun h => hcomment ⟨rfl, h⟩]
      exact templateTail_stay _ rfl rest
    · have hstep : stepTemplate ⟨.code depth, outer⟩ c = .stay ⟨.code depth, outer⟩ := by
        simp [stepTemplate, stepTemplateCode, hopen, hclose, hquote, hmark, hslash]
      exact templateTail_stay _ hstep rest

end Branches

/-! ### Every text -/

theorem followsText_of_shorter {cs : List Char}
    (ih : ∀ more : List Char, more.length < cs.length →
      FollowsText more ∧ ∀ depth, FollowsCode depth more) : FollowsText cs := by
  cases cs with
  | nil => exact followsText_nil
  | cons c rest =>
    rw [List.length_cons] at ih
    by_cases hback : c = '\\'
    · subst hback
      cases rest with
      | nil => exact followsText_backslash
      | cons d more =>
        rw [List.length_cons] at ih
        exact (ih more (by omega)).1.escaped d
    by_cases hmark : c = '\x60'
    · subst hmark
      exact followsText_mark rest
    by_cases hopen : c = '$' ∧ rest.head? = some '\x7b'
    · obtain ⟨rfl, hhead⟩ := hopen
      obtain ⟨more, rfl⟩ := List.head?_eq_some_iff.1 hhead
      rw [List.length_cons] at ih
      have hcode := (ih more (by omega)).2 0
      exact .substituted hcode fun behind hlength => (ih behind (by omega)).1
    · exact (ih rest (by omega)).1.plain hback hmark hopen

theorem followsCode_of_shorter {cs : List Char}
    (ih : ∀ more : List Char, more.length < cs.length →
      FollowsText more ∧ ∀ depth, FollowsCode depth more) (depth : Nat) : FollowsCode depth cs := by
  cases cs with
  | nil => exact followsCode_nil depth
  | cons c rest =>
    rw [List.length_cons] at ih
    -- Wherever a part ends that begins here, the same code goes on.
    have hbehind (more : List Char) (hlength : more.length ≤ rest.length) : FollowsCode depth more :=
      (ih more (by omega)).2 depth
    by_cases hopen : c = '\x7b'
    · subst hopen
      exact .opened ((ih rest (by omega)).2 (depth + 1))
    by_cases hclose : c = '\x7d'
    · subst hclose
      cases depth with
      | zero => exact followsCode_closed rest
      | succ depth => exact .closed ((ih rest (by omega)).2 depth)
    by_cases hquote : c = '"' ∨ c = '\''
    · exact .quoted hquote hbehind
    by_cases hmark : c = '\x60'
    · subst hmark
      exact .template (ih rest (by omega)).1 hbehind
    by_cases hcomment : c = '/' ∧ opensComment rest
    · obtain ⟨rfl, hhead | hhead⟩ := hcomment
      · obtain ⟨more, rfl⟩ := List.head?_eq_some_iff.1 hhead
        exact .line fun behind hlength => hbehind behind (Nat.le_succ_of_le hlength)
      · obtain ⟨more, rfl⟩ := List.head?_eq_some_iff.1 hhead
        exact .block fun behind hlength => hbehind behind (Nat.le_succ_of_le hlength)
    · exact .plain hopen hclose hquote hmark hcomment (hbehind rest (Nat.le_refl _))

/-- The scanners of templates and substitutions go along with the pass in every text. -/
theorem follows_scan (cs : List Char) : FollowsText cs ∧ ∀ depth, FollowsCode depth cs := by
  induction hlength : cs.length using Nat.strongRecOn generalizing cs with
  | ind n ih =>
    have hshorter : ∀ more : List Char, more.length < cs.length →
        FollowsText more ∧ ∀ depth, FollowsCode depth more :=
      fun more hmore => ih more.length (hlength ▸ hmore) more rfl
    exact ⟨followsText_of_shorter hshorter, followsCode_of_shorter hshorter⟩

/-- On bytes a template ends where it ends on characters. -/
theorem scanTemplate_encode (pos : Nat) (cs : List Char) :
    cursor? (scanTemplate pos (encode cs)) =
      (templateTail ⟨.text, []⟩ cs).map (Split.cursor pos) := by
  obtain ⟨found, hfound, hpass⟩ := (follows_scan cs).1
  rw [hpass []]
  exact hfound.cursor pos

end LiveMarkup.Script

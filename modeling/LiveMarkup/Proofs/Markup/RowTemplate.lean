import LiveMarkup.Markup.RowTemplate
import LiveMarkup.Proofs.Text.Search

/-!
# Reading row templates

A template is read from the front: up to the first pair of opening braces it is literal, up to the first
pair of closing braces behind those it is a placeholder, and so on (`RowTemplate.readFrom_eq`). So it is
filled as if by going through the text once and putting a value in place of each placeholder as it is met
(`RowTemplate.fillChars_readFrom`). Each text has one split into literal text and placeholders
(`RowTemplate.Split.eq_of_text_eq`), which no record has a part in, and a record's values stand only where
the placeholders stood (`RowTemplate.fill_keeps_literals`).
-/

set_option autoImplicit false

namespace LiveMarkup.RowTemplate

/-- The braces in front of a placeholder. -/
def opening : List Char := ['\x7b', '\x7b']

/-- The braces behind a placeholder. -/
def closing : List Char := ['\x7d', '\x7d']

/-! ## Reading piece by piece -/

theorem cutAt_pair {c d first second : Char} {rest : List Char} :
    Text.cutAt [first, second] (c :: d :: rest) =
      if c = first ∧ d = second then some ([], rest)
      else (Text.cutAt [first, second] (d :: rest)).map fun cut => (c :: cut.1, cut.2) := by
  rw [Text.cutAt]
  by_cases pair : c = first ∧ d = second
  · obtain ⟨rfl, rfl⟩ := pair
    simp
  · have apart : [first, second].isPrefixOf (c :: d :: rest) = false := by
      simp only [List.isPrefixOf, Bool.and_eq_false_iff, beq_eq_false_iff_ne, Bool.and_true]
      by_cases same : c = first
      · exact .inr fun other => pair ⟨same, other.symm⟩
      · exact .inl fun other => same other.symm
    rw [apart, if_neg Bool.false_ne_true, if_neg pair]

/-- Outside of placeholders everything up to the next opening braces is literal. -/
theorem readFrom_literal (literal cs : List Char) :
    readFrom literal none cs =
      match Text.cutAt opening cs with
      | none => ⟨[], literal.reverse ++ cs⟩
      | some (before, after) => readFrom (before.reverse ++ literal) (some []) after := by
  induction cs generalizing literal with
  | nil => simp [readFrom, Text.cutAt, opening]
  | cons c rest ih =>
    cases rest with
    | nil => simp [readFrom, Text.cutAt, opening, List.isPrefixOf]
    | cons d more =>
      rw [readFrom, opening, cutAt_pair]
      by_cases pair : c = '\x7b' ∧ d = '\x7b'
      · rw [if_pos pair, if_pos pair]
        rfl
      · rw [if_neg pair, if_neg pair, ih, opening]
        cases Text.cutAt ['\x7b', '\x7b'] (d :: more) with
        | none => simp
        | some cut => simp

/-- In a placeholder everything up to the next closing braces names the value. -/
theorem readFrom_key (literal key cs : List Char) :
    readFrom literal (some key) cs =
      match Text.cutAt closing cs with
      | none => ⟨[], literal.reverse ++ opening ++ key.reverse ++ cs⟩
      | some (inner, behind) =>
        (readFrom [] none behind).cons literal.reverse (Text.trim (String.ofList (key.reverse ++ inner))) := by
  induction cs generalizing key with
  | nil => simp [readFrom, Text.cutAt, opening, closing]
  | cons c rest ih =>
    cases rest with
    | nil => simp [readFrom, Text.cutAt, opening, closing, List.isPrefixOf]
    | cons d more =>
      rw [readFrom, closing, cutAt_pair]
      by_cases pair : c = '\x7d' ∧ d = '\x7d'
      · rw [if_pos pair, if_pos pair]
        dsimp only
        rw [List.append_nil]
      · rw [if_neg pair, if_neg pair, ih, closing]
        cases Text.cutAt ['\x7d', '\x7d'] (d :: more) with
        | none => simp
        | some cut => simp

/-- A template is its first literal text and placeholder in front of the template behind them. -/
theorem readFrom_eq (cs : List Char) :
    readFrom [] none cs =
      match Text.cutAt opening cs with
      | none => ⟨[], cs⟩
      | some (literal, after) =>
        match Text.cutAt closing after with
        | none => ⟨[], cs⟩
        | some (inner, behind) =>
          (readFrom [] none behind).cons literal (Text.trim (String.ofList inner)) := by
  rw [readFrom_literal]
  cases opened : Text.cutAt opening cs with
  | none => rfl
  | some cut =>
    obtain ⟨literal, after⟩ := cut
    have text := ((Text.cutAt_eq_some_iff (by decide)).mp opened).1
    dsimp only
    rw [readFrom_key, List.append_nil, List.reverse_reverse]
    cases Text.cutAt closing after with
    | none =>
      rw [text, List.reverse_nil, List.append_nil]
    | some cut => rfl

/-! ## The split of a template -/

/-- Literal texts, each with what stands between the braces behind it, and the text behind the last
braces. -/
structure Split where
  pieces : List (List Char × List Char)
  tail : List Char

namespace Split

/-- The text that is split. -/
def text (split : Split) : List Char :=
  split.pieces.flatMap (fun piece => piece.1 ++ opening ++ piece.2 ++ closing) ++ split.tail

/-- Whether all braces are the first that could stand there, and those that are not closed are left
in the text at the end. -/
structure Leftmost (split : Split) : Prop where
  opened : ∀ piece ∈ split.pieces, Text.FirstBehind opening piece.1
  closed : ∀ piece ∈ split.pieces, Text.FirstBehind closing piece.2
  tail : ∀ literal rest, split.tail = literal ++ opening ++ rest → Text.FirstBehind opening literal →
    ¬ closing <:+: rest

theorem text_cons (piece : List Char × List Char) (pieces : List (List Char × List Char))
    (tail : List Char) :
    text ⟨piece :: pieces, tail⟩ =
      piece.1 ++ opening ++ (piece.2 ++ closing ++ text ⟨pieces, tail⟩) := by
  simp [text]

theorem leftmost_cons_iff {piece : List Char × List Char} {pieces : List (List Char × List Char)}
    {tail : List Char} :
    Leftmost ⟨piece :: pieces, tail⟩ ↔
      Text.FirstBehind opening piece.1 ∧ Text.FirstBehind closing piece.2 ∧ Leftmost ⟨pieces, tail⟩ := by
  constructor
  · intro leftmost
    obtain ⟨opened, openedOthers⟩ := List.forall_mem_cons.mp leftmost.opened
    obtain ⟨closed, closedOthers⟩ := List.forall_mem_cons.mp leftmost.closed
    exact ⟨opened, closed, openedOthers, closedOthers, leftmost.tail⟩
  · rintro ⟨opened, closed, others⟩
    exact ⟨List.forall_mem_cons.mpr ⟨opened, others.opened⟩,
      List.forall_mem_cons.mpr ⟨closed, others.closed⟩, others.tail⟩

/-- A text that is only a tail has no braces that are closed. -/
theorem not_cons_of_leftmost {tail : List Char} (leftmost : Leftmost ⟨[], tail⟩)
    {piece : List Char × List Char} {behind : List Char} (opened : Text.FirstBehind opening piece.1) :
    tail ≠ piece.1 ++ opening ++ (piece.2 ++ closing ++ behind) := by
  intro same
  refine leftmost.tail _ _ same opened ?_
  rw [List.append_assoc]
  exact List.infix_append' piece.2 closing behind

/-- A text has one split only. -/
theorem eq_of_text_eq {split other : Split} (leftmost : split.Leftmost) (leftmostOther : other.Leftmost)
    (same : split.text = other.text) : split = other := by
  obtain ⟨pieces, tail⟩ := split
  obtain ⟨pieces', tail'⟩ := other
  induction pieces generalizing pieces' with
  | nil =>
    cases pieces' with
    | nil =>
      obtain rfl : tail = tail' := same
      rfl
    | cons piece' pieces' =>
      rw [text_cons] at same
      exact absurd same (not_cons_of_leftmost leftmost (leftmost_cons_iff.mp leftmostOther).1)
  | cons piece pieces ih =>
    obtain ⟨opened, closed, others⟩ := leftmost_cons_iff.mp leftmost
    cases pieces' with
    | nil =>
      rw [text_cons] at same
      exact absurd same.symm (not_cons_of_leftmost leftmostOther opened)
    | cons piece' pieces' =>
      obtain ⟨opened', closed', others'⟩ := leftmost_cons_iff.mp leftmostOther
      rw [text_cons, text_cons] at same
      -- Both texts are cut at the same opening braces, and then at the same closing ones.
      obtain ⟨literals, behind⟩ := Text.append_inj_of_firstBehind (by decide) opened opened' same
      obtain ⟨keys, rest⟩ := Text.append_inj_of_firstBehind (by decide) closed closed' behind
      obtain ⟨rfl, rfl⟩ := Split.mk.inj (ih others pieces' others' rest)
      rw [Prod.ext literals keys]

theorem leftmost_of_cutAt_none {cs : List Char} (unopened : Text.cutAt opening cs = none) :
    Leftmost ⟨[], cs⟩ where
  opened _ member := absurd member List.not_mem_nil
  closed _ member := absurd member List.not_mem_nil
  tail literal rest text _ :=
    absurd ⟨literal, rest, text.symm⟩ ((Text.cutAt_eq_none_iff (by decide)).mp unopened)

theorem leftmost_of_unclosed {cs literal after : List Char}
    (opened : Text.cutAt opening cs = some (literal, after))
    (unclosed : Text.cutAt closing after = none) : Leftmost ⟨[], cs⟩ where
  opened _ member := absurd member List.not_mem_nil
  closed _ member := absurd member List.not_mem_nil
  tail literal' rest text' first' := by
    obtain ⟨text, first⟩ := (Text.cutAt_eq_some_iff (by decide)).mp opened
    obtain ⟨-, rfl⟩ := Text.append_inj_of_firstBehind (by decide) first first' (text ▸ text')
    exact (Text.cutAt_eq_none_iff (by decide)).mp unclosed

/-- Each placeholder takes four braces, so reading ends. -/
theorem four_mul_length_le (split : Split) : 4 * split.pieces.length ≤ split.text.length := by
  obtain ⟨pieces, tail⟩ := split
  induction pieces with
  | nil => exact Nat.zero_le _
  | cons piece pieces ih =>
    have braces : opening.length = 2 ∧ closing.length = 2 := ⟨rfl, rfl⟩
    rw [text_cons, List.length_append, List.length_append, List.length_append, List.length_append,
      List.length_cons, braces.1, braces.2]
    dsimp only at ih
    omega

end Split

/-- Every text has such a split. -/
theorem exists_split (cs : List Char) : ∃ split : Split, split.text = cs ∧ split.Leftmost := by
  -- By induction on the length: what stands behind the first placeholder is shorter.
  induction length : cs.length using Nat.strongRecOn generalizing cs with
  | ind n ih =>
    cases opened : Text.cutAt opening cs with
    | none => exact ⟨⟨[], cs⟩, rfl, Split.leftmost_of_cutAt_none opened⟩
    | some cut =>
      obtain ⟨literal, after⟩ := cut
      obtain ⟨text, first⟩ := (Text.cutAt_eq_some_iff (by decide)).mp opened
      cases closed : Text.cutAt closing after with
      | none => exact ⟨⟨[], cs⟩, rfl, Split.leftmost_of_unclosed opened closed⟩
      | some cut =>
        obtain ⟨inner, behind⟩ := cut
        obtain ⟨textAfter, firstAfter⟩ := (Text.cutAt_eq_some_iff (by decide)).mp closed
        have shorter : behind.length < n := by
          have braces : opening.length = 2 := rfl
          rw [← length, text, textAfter, List.length_append, List.length_append, List.length_append,
            List.length_append, braces]
          omega
        obtain ⟨⟨pieces, tail⟩, textBehind, leftmost⟩ := ih behind.length shorter behind rfl
        refine ⟨⟨(literal, inner) :: pieces, tail⟩, ?_,
          Split.leftmost_cons_iff.mpr ⟨first, firstAfter, leftmost⟩⟩
        rw [Split.text_cons, textBehind, text, textAfter]

/-! ## Filling a template -/

/-- Filling goes through the text once: the value of the first placeholder is put behind the text in
front of it, and what follows is filled on its own. -/
theorem fillChars_readFrom (cs : List Char) (record : Fields) :
    (readFrom [] none cs).fillChars record =
      match Text.cutAt opening cs with
      | none => cs
      | some (literal, after) =>
        match Text.cutAt closing after with
        | none => cs
        | some (inner, behind) =>
          literal ++ valueChars record (Text.trim (String.ofList inner)) ++
            (readFrom [] none behind).fillChars record := by
  rw [readFrom_eq]
  cases Text.cutAt opening cs with
  | none => rfl
  | some cut =>
    obtain ⟨literal, after⟩ := cut
    dsimp only
    cases Text.cutAt closing after with
    | none => rfl
    | some cut => simp [fillChars, cons]

/-- So filling a text keeps the literal texts of its split and fills in the values between them. -/
theorem fillChars_text {split : Split} (leftmost : split.Leftmost) (record : Fields) :
    (readFrom [] none split.text).fillChars record =
      split.pieces.flatMap (fun piece =>
        piece.1 ++ valueChars record (Text.trim (String.ofList piece.2))) ++ split.tail := by
  obtain ⟨pieces, tail⟩ := split
  induction pieces with
  | nil =>
    -- Braces in the tail are not closed, so all of it is literal.
    have whole : Split.text ⟨[], tail⟩ = tail := rfl
    rw [whole, fillChars_readFrom]
    cases opened : Text.cutAt opening tail with
    | none => rfl
    | some cut =>
      obtain ⟨literal, after⟩ := cut
      obtain ⟨text, first⟩ := (Text.cutAt_eq_some_iff (by decide)).mp opened
      have unclosed : Text.cutAt closing after = none :=
        (Text.cutAt_eq_none_iff (by decide)).mpr (leftmost.tail literal after text first)
      dsimp only
      rw [unclosed]
      rfl
  | cons piece pieces ih =>
    obtain ⟨opened, closed, others⟩ := Split.leftmost_cons_iff.mp leftmost
    have cutOpening : Text.cutAt opening (Split.text ⟨piece :: pieces, tail⟩) =
        some (piece.1, piece.2 ++ closing ++ Split.text ⟨pieces, tail⟩) :=
      (Text.cutAt_eq_some_iff (by decide)).mpr ⟨Split.text_cons piece pieces tail, opened⟩
    have cutClosing : Text.cutAt closing (piece.2 ++ closing ++ Split.text ⟨pieces, tail⟩) =
        some (piece.2, Split.text ⟨pieces, tail⟩) :=
      (Text.cutAt_eq_some_iff (by decide)).mpr ⟨rfl, closed⟩
    rw [fillChars_readFrom, cutOpening]
    dsimp only
    rw [cutClosing]
    dsimp only
    rw [ih others, List.flatMap_cons]
    simp only [List.append_assoc]

/-- What a record holds is never read as a part of the template. Each template text is split, in one way
that no record has a part in, into literal texts and what stands between the first braces that can be
opened and closed behind them; braces that are not closed are left in the text at the end. Filled with
any record it is those literal texts as they are, with the escaped text of the record's value, or
nothing, in place of each placeholder. -/
theorem fill_keeps_literals (template : String) :
    ∃ split : Split, (split.text = template.toList ∧ split.Leftmost ∧
        ∀ other : Split, other.text = template.toList → other.Leftmost → other = split) ∧
      4 * split.pieces.length ≤ template.toList.length ∧
      ∀ record : Fields, ((ofText template).fill record).toList =
        split.pieces.flatMap (fun piece => piece.1 ++
          (Markup.escape (((Fields.get? record (Text.trim (String.ofList piece.2))).map
            Json.text).getD "")).toList) ++ split.tail := by
  obtain ⟨split, text, leftmost⟩ := exists_split template.toList
  refine ⟨split, ⟨text, leftmost, fun other same leftmostOther => ?_⟩, ?_, fun record => ?_⟩
  · exact Split.eq_of_text_eq leftmostOther leftmost (same.trans text.symm)
  · rw [← text]
    exact split.four_mul_length_le
  · rw [ofText, fill, String.toList_ofList, ← text, fillChars_text leftmost]
    simp only [valueChars, Markup.escape, String.toList_ofList]

-- A value that looks like a placeholder stays text, and so do braces that are not closed.
example : (ofText "\x7b\x7ba\x7d\x7d\x7b\x7b b \x7d\x7d\x7b\x7b").fill
      [("a", .string "\x7b\x7bb"), ("b", .string "<\x7d\x7d")] =
    "\x7b\x7bb&lt;\x7d\x7d\x7b\x7b" := by decide

end LiveMarkup.RowTemplate

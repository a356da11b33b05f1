import LiveMarkup.Proofs.Number.Numerals
import LiveMarkup.Proofs.Script.Fitting

/-!
# Texts in pieces

A printed text is made of pieces: blanks, and tokens that are read as such on their own
(`Piece.Sound`). Such a text is read as exactly these tokens if and only if no piece goes on with the
one behind it (`tokensFrom_spelling_iff`). Words, literals and signs are pieces, and a sign or a
blank parts whatever stands before it from whatever stands behind it (`Lays.between`), so of the
punctuation only the point is left to be looked at.
-/

set_option autoImplicit false

namespace LiveMarkup.Script

/-! ## Pieces -/

/-- A part of a printed text. -/
inductive Piece where
  | blank (c : Char)
  | token (kind : TokenKind) (text : List Char)

namespace Piece

/-- The text of a piece. -/
def chars : Piece → List Char
  | .blank c => [c]
  | .token _ text => text

/-- The token that a piece is. -/
def shape? : Piece → Option (TokenKind × List Char)
  | .blank _ => none
  | .token kind text => some (kind, text)

/-- A blank, or a token that is read as such on its own, whatever stands before it. -/
def Sound : Piece → Prop
  | .blank c => isBlank c = true
  | .token kind text => ∃ c rest, text = c :: rest ∧ c ≠ '/' ∧
      ∀ allowed, TokenRead allowed c rest kind ⟨text, []⟩

/-- The piece does not go on with a text behind it. -/
def EndsBefore : Piece → List Char → Prop
  | .blank _, _ => True
  | .token kind text, rest => StopsAt (kind.absorbs text) rest

theorem Sound.chars_ne_nil {piece : Piece} (h : piece.Sound) : piece.chars ≠ [] := by
  cases piece with
  | blank c => exact List.cons_ne_nil _ _
  | token kind text =>
    obtain ⟨c, rest, rfl, -⟩ := h
    exact List.cons_ne_nil _ _

end Piece

/-- The text of pieces. -/
def spelling (pieces : List Piece) : List Char := pieces.flatMap Piece.chars

/-- The tokens among pieces. -/
def shapes (pieces : List Piece) : List (TokenKind × List Char) := pieces.filterMap Piece.shape?

/-- No piece goes on with the one behind it. -/
def Clear (pieces : List Piece) : Prop :=
  pieces.IsChain fun piece next => piece.EndsBefore next.chars

@[simp] theorem spelling_nil : spelling [] = [] := rfl

@[simp] theorem spelling_cons (piece : Piece) (rest : List Piece) :
    spelling (piece :: rest) = piece.chars ++ spelling rest := rfl

@[simp] theorem spelling_append (pieces more : List Piece) :
    spelling (pieces ++ more) = spelling pieces ++ spelling more :=
  List.flatMap_append

@[simp] theorem shapes_append (pieces more : List Piece) :
    shapes (pieces ++ more) = shapes pieces ++ shapes more :=
  List.filterMap_append

@[simp] theorem clear_nil : Clear [] := .nil

@[simp] theorem clear_singleton (piece : Piece) : Clear [piece] := .singleton piece

/-- Of what stands behind a piece only the first piece matters. -/
theorem clear_cons_iff {piece : Piece} {rest : List Piece} (hrest : ∀ next ∈ rest, next.Sound) :
    Clear (piece :: rest) ↔ piece.EndsBefore (spelling rest) ∧ Clear rest := by
  cases rest with
  | nil =>
    refine iff_of_true (clear_singleton piece) ⟨?_, clear_nil⟩
    cases piece with
    | blank c => trivial
    | token kind text => exact stopsAt_nil _
  | cons next rest =>
    obtain ⟨c, text, hnext⟩ := List.exists_cons_of_ne_nil (hrest next List.mem_cons_self).chars_ne_nil
    rw [Clear, List.isChain_cons_cons, spelling_cons, hnext]
    refine and_congr_left fun _ => ?_
    cases piece with
    | blank d => exact Iff.rfl
    | token kind text => simp [Piece.EndsBefore]

/-! ## Reading pieces -/

/-- What is read between tokens starts with a blank or a slash. -/
theorem of_chunk_gap {allowed : Bool} {c : Char} {rest : List Char} {split : Split}
    (h : chunk allowed c rest = .ok (.gap, split)) : isBlank c = true ∨ c = '/' := by
  by_cases hblank : isBlank c = true
  · exact .inl hblank
  by_cases hslash : c = '/'
  · exact .inr hslash
  -- Every other branch reads a token.
  unfold chunk at h
  simp only [hblank, hslash, false_and, Bool.false_eq_true, if_false] at h
  split at h
  · split at h <;> simp at h
  split at h
  · split at h <;> simp at h
  split at h
  · simp at h
  · split at h <;> simp at h

/-- Where no gap starts, a token is read first. -/
theorem tokensFrom_cons_eq_ok {before : List Token} {gap : List Char} {offset : Nat} {c : Char}
    {rest : List Char} {tokens : Tokens} (h : tokensFrom before gap offset (c :: rest) = .ok tokens)
    (hgap : ∀ split, chunk (regexAllowed before) c rest ≠ .ok (.gap, split)) :
    ∃ kind split more, TokenRead (regexAllowed before) c rest kind split ∧
      tokensFrom (⟨gap, kind, split.read⟩ :: before) [] (offset + byteLength split.read)
        split.rest = .ok more ∧
      tokens = more.cons ⟨gap, kind, split.read⟩ := by
  rw [tokensFrom] at h
  split at h
  · cases h
  · rename_i split hchunk
    exact absurd hchunk (hgap split)
  · rename_i kind split hchunk
    obtain ⟨more, hmore, hcons⟩ := map_cons_eq_ok_iff.1 h
    exact ⟨kind, split, more, tokenRead_of_chunk hchunk, hmore, hcons⟩

/-- A sound token is read in front of a text that it does not go on with. -/
theorem tokenRead_of_stopsAt {kind : TokenKind} {c : Char} {text rest : List Char} {allowed : Bool}
    (hread : TokenRead allowed c text kind ⟨c :: text, []⟩)
    (hstop : StopsAt (kind.absorbs (c :: text)) rest) :
    TokenRead allowed c (text ++ rest) kind ⟨c :: text, rest⟩ := by
  obtain ⟨text', htext, hagain⟩ := hread.append_of_stopsAt
  obtain rfl : text = text' := (List.cons.inj htext).2
  exact hagain rest hstop

/-- A text in sound pieces is read as its tokens exactly when no piece goes on with the one behind
it. -/
theorem tokensFrom_spelling_iff {pieces : List Piece} (hsound : ∀ piece ∈ pieces, piece.Sound)
    (before : List Token) (gap : List Char) (offset : Nat) :
    (∃ tokens, tokensFrom before gap offset (spelling pieces) = .ok tokens ∧
        tokens.tokens.map Token.shape = shapes pieces) ↔ Clear pieces := by
  induction pieces generalizing before gap offset with
  | nil =>
    refine iff_of_true ⟨⟨[], gap⟩, ?_, rfl⟩ clear_nil
    rw [spelling_nil, tokensFrom]
  | cons piece rest ih =>
    obtain ⟨hpiece, hrest⟩ := List.forall_mem_cons.1 hsound
    rw [clear_cons_iff hrest]
    cases piece with
    | blank c =>
      have hskip : tokensFrom before gap offset (spelling (.blank c :: rest)) =
          tokensFrom before (gap ++ [c]) (offset + byteLength [c]) (spelling rest) :=
        tokensFrom_gap (chunk_of_isBlank _ hpiece _)
      rw [hskip]
      exact (ih hrest before _ _).trans (true_and _).symm.to_iff
    | token kind text =>
      obtain ⟨c, text, rfl, hslash, hread⟩ := hpiece
      constructor
      · -- The first token has the text of the piece, so it stops where the piece does.
        rintro ⟨tokens, htokens, hshapes⟩
        have hgap : ∀ split, chunk (regexAllowed before) c (text ++ spelling rest) ≠
            .ok (.gap, split) := by
          intro split hchunk
          -- On its own the piece is read as a token, so it starts with no blank.
          have htoken := chunk_of_tokenRead (hread (regexAllowed before))
          rcases of_chunk_gap hchunk with hblank | hsame
          · rw [chunk_of_isBlank _ hblank] at htoken
            cases htoken
          · exact hslash hsame
        obtain ⟨kind', ⟨read, left⟩, more, hfirst, hmore, rfl⟩ :=
          tokensFrom_cons_eq_ok htokens hgap
        obtain ⟨hshape, hothers⟩ := List.cons.inj hshapes
        obtain ⟨rfl, rfl⟩ := Prod.mk.inj hshape
        have happend : (c :: text) ++ left = (c :: text) ++ spelling rest :=
          (chunk_append (chunk_of_tokenRead hfirst)).1
        have hleft := List.append_cancel_left happend
        rw [hleft] at hfirst hmore
        exact ⟨hfirst.stopsAt_absorbs, (ih hrest _ _ _).1 ⟨more, hmore, hothers⟩⟩
      · rintro ⟨hends, hclear⟩
        have hfirst := tokenRead_of_stopsAt (hread (regexAllowed before)) hends
        obtain ⟨more, hmore, hothers⟩ := (ih hrest (⟨gap, kind, c :: text⟩ :: before) []
          (offset + byteLength (c :: text))).2 hclear
        refine ⟨more.cons ⟨gap, kind, c :: text⟩, ?_, congrArg _ hothers⟩
        rw [spelling_cons, Piece.chars, List.cons_append,
          tokensFrom_token (chunk_of_tokenRead hfirst), hmore]
        rfl

/-! ## Signs and blanks -/

/-- The piece that a sign or a blank is. -/
def mark (c : Char) : Piece := if isBlank c then .blank c else .token .punct [c]

/-- The pieces of signs and blanks. -/
def marks (cs : List Char) : List Piece := cs.map mark

@[simp] theorem chars_mark (c : Char) : (mark c).chars = [c] := by
  unfold mark
  split <;> rfl

@[simp] theorem spelling_marks (cs : List Char) : spelling (marks cs) = cs := by
  induction cs with
  | nil => rfl
  | cons c rest ih => rw [marks, List.map_cons, spelling_cons, chars_mark, ← marks, ih]; rfl

theorem sound_mark {c : Char} (hc : isSignOrBlank c = true) : (mark c).Sound := by
  unfold mark
  split
  · rename_i hblank
    exact hblank
  · rename_i hblank
    have hsign : isSign c = true := by
      simpa only [isSignOrBlank, hblank, Bool.or_false] using hc
    obtain ⟨-, -, -, -, -, hslash, -⟩ := isSign_facts hsign
    exact ⟨c, [], rfl, hslash, fun allowed => tokenRead_sign hsign allowed []⟩

theorem sound_marks {cs : List Char} (hcs : cs.all isSignOrBlank = true) :
    ∀ piece ∈ marks cs, piece.Sound := by
  intro piece hpiece
  obtain ⟨c, hc, rfl⟩ := List.mem_map.1 hpiece
  exact sound_mark (List.all_eq_true.1 hcs c hc)

/-- A sign or a blank goes on with nothing. -/
theorem endsBefore_mark {c : Char} (hc : isSignOrBlank c = true) (rest : List Char) :
    (mark c).EndsBefore rest := by
  unfold mark
  split
  · trivial
  · rename_i hblank
    have hsign : isSign c = true := by
      simpa only [isSignOrBlank, hblank, Bool.or_false] using hc
    obtain ⟨-, -, -, -, hpoint, hslash, -⟩ := isSign_facts hsign
    intro d _
    exact (absorbs_punct c d).2 ⟨fun h => absurd h hpoint, fun h => absurd h hslash⟩

/-- No token goes on with a sign or a blank, unless it is a number that ends in an exponent mark. -/
theorem absorbs_eq_false_of_isSignOrBlank (kind : TokenKind) (text : List Char) {c : Char}
    (hc : isSignOrBlank c = true) (hplus : c ≠ '+') : kind.absorbs text c = false := by
  rcases Bool.or_eq_true_iff.1 hc with hsign | hblank
  · obtain ⟨-, -, hword, hdigit, hpoint, hslash, -⟩ := isSign_facts hsign
    have halnum : c.isAlphanum = false ∧ c ≠ '_' ∧ c ≠ '-' ∧ c ≠ '*' := by
      simp only [isSign, List.contains_eq_mem, List.mem_cons, List.not_mem_nil, or_false,
        decide_eq_true_eq] at hsign
      rcases hsign with rfl | rfl | rfl | rfl | rfl | rfl | rfl | rfl | rfl | rfl | rfl | rfl |
        rfl | rfl | rfl
      all_goals decide
    cases kind with
    | word => exact hword
    | number =>
      cases text with
      | nil => rfl
      | cons first rest => simp [TokenKind.absorbs, continuesNumber, halnum, hpoint, hplus]
    | punct => simp [TokenKind.absorbs, hdigit, hslash, halnum]
    | regex =>
      have halpha := (Bool.or_eq_false_iff.1 halnum.1).1
      exact halpha
    | str => rfl
    | template => rfl
  · exact absorbs_eq_false_of_isBlank kind text hblank

/-! ## Pieces one after another -/

/-- The last piece goes on with nothing. -/
def Closed (pieces : List Piece) : Prop :=
  ∀ piece ∈ pieces.getLast?, ∀ rest, piece.EndsBefore rest

/-- No piece goes on with the first one. -/
def Opens (pieces : List Piece) : Prop :=
  ∀ next ∈ pieces.head?, ∀ piece : Piece, piece.EndsBefore next.chars

theorem closed_nil : Closed [] := by
  rintro piece ⟨⟩

theorem Closed.append {pieces more : List Piece} (h : Closed pieces) (hmore : Closed more) :
    Closed (pieces ++ more) := by
  intro piece hpiece
  rw [List.getLast?_append, Option.mem_def, Option.or_eq_some_iff] at hpiece
  rcases hpiece with hlast | ⟨-, hlast⟩
  · exact hmore piece hlast
  · exact h piece hlast

theorem closed_marks {cs : List Char} (hcs : cs.all isSignOrBlank = true) : Closed (marks cs) := by
  intro piece hpiece rest
  obtain ⟨c, hc, rfl⟩ := List.mem_map.1 (List.mem_of_getLast? hpiece)
  exact endsBefore_mark (List.all_eq_true.1 hcs c hc) rest

theorem opens_marks {cs : List Char} (hcs : cs.all isSignOrBlank = true)
    (hplus : cs.head? ≠ some '+') : Opens (marks cs) := by
  intro next hnext piece
  cases cs with
  | nil => cases hnext
  | cons c rest =>
    obtain rfl : mark c = next := Option.some.inj hnext
    cases piece with
    | blank d => trivial
    | token kind text =>
      rw [chars_mark]
      refine (stopsAt_cons _ _ _).2 (absorbs_eq_false_of_isSignOrBlank kind text ?_ ?_)
      · exact List.all_eq_true.1 hcs c List.mem_cons_self
      · rintro rfl
        exact hplus rfl

theorem clear_append_iff {pieces more : List Piece} (h : Closed pieces ∨ Opens more) :
    Clear (pieces ++ more) ↔ Clear pieces ∧ Clear more := by
  rw [Clear, List.isChain_append]
  refine ⟨fun hall => ⟨hall.1, hall.2.1⟩, fun hall => ⟨hall.1, hall.2, ?_⟩⟩
  -- Only the last piece of the first text meets the first one of the second.
  intro piece hpiece next hnext
  rcases h with hclosed | hopens
  · exact hclosed piece hpiece _
  · exact hopens next hnext piece

theorem clear_marks {cs : List Char} (hcs : cs.all isSignOrBlank = true) : Clear (marks cs) := by
  induction cs with
  | nil => exact clear_nil
  | cons c rest ih =>
    rw [List.all_cons, Bool.and_eq_true] at hcs
    have hc : [c].all isSignOrBlank = true := by simpa using hcs.1
    have hfirst : Closed [mark c] := closed_marks hc
    exact (clear_append_iff (.inl hfirst)).2 ⟨clear_singleton _, ih hcs.2⟩

/-! ## Laid out texts -/

/-- The tokens that are no punctuation. -/
def atomsOf (tokens : List (TokenKind × List Char)) : List (TokenKind × List Char) :=
  tokens.filter fun token => token.1 != .punct

/-- The pieces are sound and make up the text `cs`. Apart from punctuation their tokens are `atoms`,
and no piece goes on with the one behind it exactly if `fits`. -/
structure Lays (pieces : List Piece) (cs : List Char) (atoms : List (TokenKind × List Char))
    (fits : Prop) : Prop where
  spells : spelling pieces = cs
  sound : ∀ piece ∈ pieces, piece.Sound
  named : atomsOf (shapes pieces) = atoms
  clear : Clear pieces ↔ fits

theorem Lays.congr {pieces : List Piece} {cs cs' : List Char}
    {atoms atoms' : List (TokenKind × List Char)} {fits fits' : Prop} (h : Lays pieces cs atoms fits)
    (hcs : cs = cs') (hatoms : atoms = atoms') (hfits : fits ↔ fits') :
    Lays pieces cs' atoms' fits' :=
  ⟨h.spells.trans hcs, h.sound, h.named.trans hatoms, h.clear.trans hfits⟩

theorem lays_nil : Lays [] [] [] True := ⟨rfl, by simp, rfl, iff_of_true clear_nil trivial⟩

/-- Two texts in a row, of which only has to be said when no piece goes on with the one behind it. -/
theorem Lays.append_of_clear_iff {pieces more : List Piece} {cs ds : List Char}
    {atoms others : List (TokenKind × List Char)} {fits fit both : Prop}
    (h : Lays pieces cs atoms fits) (hmore : Lays more ds others fit)
    (hclear : Clear (pieces ++ more) ↔ both) :
    Lays (pieces ++ more) (cs ++ ds) (atoms ++ others) both where
  spells := by rw [spelling_append, h.spells, hmore.spells]
  sound := by
    intro piece hpiece
    exact (List.mem_append.1 hpiece).elim (h.sound piece) (hmore.sound piece)
  named := by
    rw [shapes_append, atomsOf, List.filter_append]
    exact congrArg₂ _ h.named hmore.named
  clear := hclear

theorem Lays.append {pieces more : List Piece} {cs ds : List Char}
    {atoms others : List (TokenKind × List Char)} {fits fit : Prop}
    (h : Lays pieces cs atoms fits) (hmore : Lays more ds others fit)
    (hjoin : Closed pieces ∨ Opens more) :
    Lays (pieces ++ more) (cs ++ ds) (atoms ++ others) (fits ∧ fit) :=
  h.append_of_clear_iff hmore ((clear_append_iff hjoin).trans (and_congr h.clear hmore.clear))

theorem lays_token {kind : TokenKind} {text : List Char} (hsound : (Piece.token kind text).Sound)
    (hkind : kind ≠ .punct) : Lays [.token kind text] text [(kind, text)] True where
  spells := List.append_nil text
  sound := by simpa using hsound
  named := by simp [shapes, Piece.shape?, atomsOf, hkind]
  clear := iff_of_true (clear_singleton _) trivial

theorem lays_word {cs : List Char} (hcs : isPlainWord cs = true) :
    Lays [.token .word cs] cs [(.word, cs)] True := by
  refine lays_token ?_ (by decide)
  obtain ⟨c, text, rfl⟩ := exists_cons_of_isPlainWord hcs
  have hc : isWordChar c = true := by
    simp only [isPlainWord, List.all_cons, Bool.and_eq_true] at hcs
    exact hcs.2.1.1
  refine ⟨c, text, rfl, ne_of_isWordChar hc (by decide), fun allowed => ?_⟩
  have hread := tokenRead_word hcs (stopsAt_nil _) allowed
  rwa [List.append_nil] at hread

theorem lays_literal (s : String) :
    Lays [.token .str (literalChars s)] (literalChars s) [(.str, literalChars s)] True := by
  refine lays_token ⟨'"', s.toList.flatMap literalChar ++ ['"'], rfl, by decide, fun allowed => ?_⟩
    (by decide)
  have hread := tokenRead_literal allowed s []
  rwa [List.append_nil] at hread

theorem lays_marks {cs : List Char} (hcs : cs.all isSignOrBlank = true) :
    Lays (marks cs) cs [] True where
  spells := spelling_marks cs
  sound := sound_marks hcs
  named := by
    rw [atomsOf, List.filter_eq_nil_iff]
    intro token htoken
    obtain ⟨piece, hpiece, hshape⟩ := List.mem_filterMap.1 htoken
    obtain ⟨c, -, rfl⟩ := List.mem_map.1 hpiece
    unfold mark at hshape
    split at hshape
    · cases hshape
    · obtain rfl := Option.some.inj hshape
      simp
  clear := iff_of_true (clear_marks hcs) trivial

section Marks

variable {pieces more : List Piece} {cs ds : List Char}
  {atoms others : List (TokenKind × List Char)} {fits fit : Prop}

/-- Signs and blanks may stand before a text, whatever it is. -/
theorem Lays.behind (h : Lays pieces cs atoms fits) (signs : List Char)
    (hsigns : signs.all isSignOrBlank = true) :
    Lays (marks signs ++ pieces) (signs ++ cs) atoms fits :=
  ((lays_marks hsigns).append h (.inl (closed_marks hsigns))).congr rfl rfl (true_and fits).to_iff

/-- Behind it a sum is all that may not stand. -/
theorem Lays.before (h : Lays pieces cs atoms fits) (signs : List Char)
    (hsigns : signs.all isSignOrBlank = true) (hplus : signs.head? ≠ some '+') :
    Lays (pieces ++ marks signs) (cs ++ signs) atoms fits :=
  (h.append (lays_marks hsigns) (.inr (opens_marks hsigns hplus))).congr rfl
    (List.append_nil atoms) (and_true fits).to_iff

/-- Signs and blanks part two texts. -/
theorem Lays.between (h : Lays pieces cs atoms fits) (hmore : Lays more ds others fit)
    (sign : Char) (signs : List Char) (hsigns : (sign :: signs).all isSignOrBlank = true)
    (hplus : sign ≠ '+') :
    Lays (pieces ++ (marks (sign :: signs) ++ more)) (cs ++ (sign :: signs ++ ds)) (atoms ++ others)
      (fits ∧ fit) := by
  refine h.append (hmore.behind _ hsigns) (.inr ?_)
  intro next hnext
  refine opens_marks hsigns (fun h => hplus (Option.some.inj h)) next ?_
  simpa [marks] using hnext

end Marks

/-! ## Numbers -/

/-- Digits and points go on with a number, whatever its last character. -/
theorem numberTail_front {previous : Char} {front rest : List Char}
    (hfront : ∀ c ∈ front, c.isDigit = true ∨ c = '.')
    (hrest : ∀ last, numberTail false last rest = ⟨rest, []⟩) :
    numberTail false previous (front ++ rest) = ⟨front ++ rest, []⟩ := by
  induction front generalizing previous with
  | nil => exact hrest previous
  | cons c front ih =>
    obtain ⟨hc, hfront⟩ := List.forall_mem_cons.1 hfront
    have hon : continuesNumber false previous c = true := by
      rcases hc with hc | rfl
      · simp [continuesNumber, Char.isAlphanum, hc]
      · simp [continuesNumber]
    rw [List.cons_append, numberTail_cons, if_pos hon, ih hfront]
    rfl

/-- So does a power of ten, its sign included. -/
theorem numberTail_scale {sign : Char} {digits : List Char} (hsign : sign = '-' ∨ sign = '+')
    (hdigits : ∀ c ∈ digits, c.isDigit = true) (previous : Char) :
    numberTail false previous ('e' :: sign :: digits) = ⟨'e' :: sign :: digits, []⟩ := by
  have hmark : continuesNumber false previous 'e' = true := rfl
  have hon : continuesNumber false 'e' sign = true := by rcases hsign with rfl | rfl <;> rfl
  have hrest : numberTail false sign (digits ++ []) = ⟨digits ++ [], []⟩ :=
    numberTail_front (fun c hc => .inl (hdigits c hc)) fun _ => rfl
  rw [List.append_nil] at hrest
  rw [numberTail_cons, if_pos hmark, numberTail_cons, if_pos hon, hrest]
  rfl

/-- No letter of another base stands behind the first digit. -/
theorem hasRadix_front (first : Char) {front rest : List Char}
    (hfront : ∀ c ∈ front, c.isDigit = true ∨ c = '.') (hrest : ∀ c ∈ rest.head?, c = 'e') :
    hasRadix first (front ++ rest) = false := by
  have hhead : ∀ c ∈ (front ++ rest).head?, c.isDigit = true ∨ c = '.' ∨ c = 'e' := by
    intro c hc
    cases front with
    | nil => exact .inr (.inr (hrest c hc))
    | cons d front =>
      obtain rfl : d = c := Option.some.inj hc
      exact (hfront d List.mem_cons_self).imp_right .inl
  rw [hasRadix, Bool.and_eq_false_iff]
  right
  rw [Bool.eq_false_iff]
  intro hletter
  obtain ⟨c, hc, hletter⟩ := (Option.any_eq_true _ _).1 hletter
  have hplain := hhead c hc
  simp only [List.contains_eq_mem, List.mem_cons, List.not_mem_nil, or_false,
    decide_eq_true_eq] at hletter
  rcases hletter with rfl | rfl | rfl | rfl | rfl | rfl <;> exact absurd hplain (by decide)

theorem tokenRead_decimal {c : Char} {rest : List Char} (hc : c.isDigit = true)
    (hradix : hasRadix c rest = false) (htail : numberTail false c rest = ⟨rest, []⟩)
    (allowed : Bool) : TokenRead allowed c rest .number ⟨c :: rest, []⟩ := by
  have hread : TokenRead allowed c rest .number _ := .number (by simp [startsNumber, hc])
  rw [hradix, htail] at hread
  exact hread

/-- A numeral is read as one number. -/
theorem tokenRead_numeral {cs : List Char} (h : Numeral cs) :
    ∃ c rest, cs = c :: rest ∧ c.isDigit = true ∧
      ∀ allowed, TokenRead allowed c rest .number ⟨cs, []⟩ := by
  cases h with
  | @plain first front hfirst hfront =>
    have hradix : hasRadix first (front ++ []) = false := by
      apply hasRadix_front first hfront
      rintro c ⟨⟩
    have htail : numberTail false first (front ++ []) = _ := numberTail_front hfront fun _ => rfl
    rw [List.append_nil] at hradix htail
    exact ⟨first, front, rfl, hfirst, tokenRead_decimal hfirst hradix htail⟩
  | @scaled first sign front digits hfirst hfront hsign hdigits =>
    have hradix : hasRadix first (front ++ 'e' :: sign :: digits) = false := by
      apply hasRadix_front first hfront
      exact fun c hc => (Option.some.inj hc).symm
    have htail : numberTail false first (front ++ 'e' :: sign :: digits) = _ :=
      numberTail_front hfront (numberTail_scale hsign hdigits)
    exact ⟨first, _, rfl, hfirst, tokenRead_decimal hfirst hradix htail⟩

/-- A number without its sign. -/
def magnitude (cs : List Char) : List Char := if cs.head? = some '-' then cs.tail else cs

theorem head?_ne_minus {cs : List Char} (h : Numeral cs) : cs.head? ≠ some '-' := by
  obtain ⟨c, rest, rfl, hdigit, -⟩ := tokenRead_numeral h
  intro hminus
  obtain rfl : c = '-' := Option.some.inj hminus
  cases hdigit

theorem numeral_magnitude {cs : List Char} (h : Signed cs) : Numeral (magnitude cs) := by
  obtain ⟨body, hbody, rfl | rfl⟩ := h
  · rwa [magnitude, if_neg (head?_ne_minus hbody)]
  · exact hbody

/-- The pieces of a number: a minus is a piece of its own. -/
def numberPieces (cs : List Char) : List Piece :=
  (if cs.head? = some '-' then [.token .punct ['-']] else []) ++ [.token .number (magnitude cs)]

theorem lays_numberPieces {cs : List Char} (h : Signed cs) :
    Lays (numberPieces cs) cs [(.number, magnitude cs)] True := by
  obtain ⟨c, rest, hsplit, hdigit, hread⟩ := tokenRead_numeral (numeral_magnitude h)
  have hslash : c ≠ '/' := by
    rintro rfl
    cases hdigit
  have hnumber : Lays [.token .number (magnitude cs)] (magnitude cs) [(.number, magnitude cs)] True :=
    lays_token ⟨c, rest, hsplit, hslash, hread⟩ (by decide)
  obtain ⟨body, hbody, rfl | rfl⟩ := h
  · have hplain := head?_ne_minus hbody
    rw [numberPieces, if_neg hplain]
    refine hnumber.congr ?_ rfl Iff.rfl
    rw [magnitude, if_neg hplain]
  · have hminus : Lays [.token .punct ['-']] ['-'] [] True := by
      refine ⟨rfl, ?_, rfl, iff_of_true (clear_singleton _) trivial⟩
      rw [List.forall_mem_singleton]
      exact ⟨'-', [], rfl, by decide, fun allowed =>
        .punct rfl rfl rfl (by decide) fun h => absurd h (by decide)⟩
    have hclosed : Closed [.token .punct ['-']] := by
      intro piece hpiece rest
      obtain rfl := Option.some.inj hpiece
      exact fun d _ => (absorbs_punct '-' d).2
        ⟨fun h => absurd h (by decide), fun h => absurd h (by decide)⟩
    exact (hminus.append hnumber (.inl hclosed)).congr rfl rfl (true_and True).to_iff

end LiveMarkup.Script

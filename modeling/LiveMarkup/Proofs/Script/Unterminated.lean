import LiveMarkup.Proofs.Script.Lossless

/-!
# Where reading gives up

A text that cannot be read is given up where something is opened that lacks its end. What stands in
front of that place was read without a look at anything behind it: a part of a text is read again when
the text is cut off at any place behind the part (`chunk_cut`). So the front can be read on its own, and
the place is the one of the outermost opener (`tokensFrom_eq_error`): a template is given up where it
starts, however deep in it the end is lacking.
-/

set_option autoImplicit false

namespace LiveMarkup.Script

/-! ## Openers -/

/-- The texts that open what may lack its end. -/
def Unterminated.openers : Unterminated → List (List Char)
  | .string => [['"'], ['\'']]
  | .template => [['\x60']]
  | .comment => [['/', '*']]
  | .regex => [['/']]

/-- Whether a text starts with something of this kind. -/
def Unterminated.Opens (kind : Unterminated) (cs : List Char) : Prop :=
  ∃ opener ∈ kind.openers, opener <+: cs

/-- Reading gives up at an opener of what it says. -/
theorem opens_of_chunk_eq_error {allowed : Bool} {c : Char} {rest : List Char} {kind : Unterminated}
    (h : chunk allowed c rest = .error kind) : kind.Opens (c :: rest) := by
  unfold chunk at h
  dsimp only at h
  split at h
  · cases h
  split at h
  · cases h
  split at h
  · rename_i hopen
    obtain ⟨rfl, hnext⟩ := hopen
    obtain ⟨more, rfl⟩ := List.head?_eq_some_iff.mp hnext
    split at h
    · cases h
    · cases h
      exact ⟨_, List.mem_singleton.mpr rfl, more, rfl⟩
  split at h
  · rename_i hopen
    obtain ⟨rfl, -⟩ := hopen
    split at h
    · cases h
    · cases h
      exact ⟨_, List.mem_singleton.mpr rfl, rest, rfl⟩
  split at h
  · rename_i hquote
    split at h
    · cases h
    · cases h
      rcases hquote with rfl | rfl
      · exact ⟨_, List.mem_cons_self, rest, rfl⟩
      · exact ⟨_, List.mem_cons_of_mem _ List.mem_cons_self, rest, rfl⟩
  split at h
  · rename_i hback
    subst hback
    split at h
    · cases h
    · cases h
      exact ⟨_, List.mem_singleton.mpr rfl, rest, rfl⟩
  split at h
  · cases h
  split at h
  · cases h
  · cases h

/-! ## Texts that are cut off -/

/-- A block comment finds its own end. -/
theorem blockTail_local : Local blockTail := by
  intro cs
  induction cs with
  | nil => intro split h; cases h
  | cons c rest ih =>
    intro split h tail
    rw [blockTail] at h
    split at h
    · obtain rfl := Option.some.inj h
      rfl
    · rename_i hopen
      obtain ⟨inner, hinner, rfl⟩ := Option.map_eq_some_iff.mp h
      -- What is read holds the end, so the next character is the same one in front of any tail.
      obtain ⟨body, hread, -⟩ := blockTail_read hinner
      have hnil : inner.read ≠ [] := by simp [hread]
      have hnext : (inner.read ++ tail).head? = rest.head? := by
        rw [← blockTail_append hinner, List.head?_append_of_ne_nil _ hnil,
          List.head?_append_of_ne_nil _ hnil]
      show blockTail (c :: (inner.read ++ tail)) = _
      rw [blockTail, hnext, if_neg hopen, ih inner hinner tail]
      rfl

theorem StopsAt.of_append {p : Char → Bool} {cs more : List Char} (h : StopsAt p (cs ++ more)) :
    StopsAt p cs := by
  cases cs with
  | nil => exact stopsAt_nil p
  | cons c rest => exact h

/-- What is read between tokens is read again when the text is cut off behind it. -/
theorem chunk_gap_cut {allowed : Bool} {c : Char} {rest : List Char} {split : Split}
    (h : chunk allowed c rest = .ok (.gap, split)) {more behind : List Char}
    (hrest : split.rest = more ++ behind) :
    ∃ text, split.read = c :: text ∧
      chunk allowed c (text ++ more) = .ok (.gap, ⟨c :: text, more⟩) := by
  unfold chunk at h
  dsimp only at h
  split at h
  · rename_i hblank
    cases h
    exact ⟨[], rfl, chunk_of_isBlank allowed hblank more⟩
  rename_i hblank
  split at h
  · rename_i hline
    cases h
    obtain ⟨rfl, hnext⟩ := hline
    obtain ⟨tail, rfl⟩ := List.head?_eq_some_iff.mp hnext
    refine ⟨(spanSplit (fun d => !isLineBreak d) ('/' :: tail)).read, rfl, ?_⟩
    -- The line ended at a break, so it ends there or at the cut.
    have hstop : StopsAt (fun d => !isLineBreak d) more := by
      have hwhole := stopsAt_spanSplit (fun d => !isLineBreak d) ('/' :: tail)
      have hsame : (spanSplit (fun d => !isLineBreak d) ('/' :: tail)).rest = more ++ behind := hrest
      rw [hsame] at hwhole
      exact hwhole.of_append
    have hagain := spanSplit_append_of_stopsAt
      (all_spanSplit (fun d => !isLineBreak d) ('/' :: tail)) hstop
    unfold chunk
    rw [if_neg hblank, if_pos ⟨rfl, rfl⟩, hagain]
    rfl
  rename_i hline
  split at h
  · rename_i hblock
    obtain ⟨rfl, hnext⟩ := hblock
    obtain ⟨tail, rfl⟩ := List.head?_eq_some_iff.mp hnext
    split at h
    · rename_i inner hinner
      cases h
      refine ⟨_, rfl, ?_⟩
      have hagain := blockTail_local _ _ hinner more
      simp [chunk, isBlank, isLineBreak, hagain, Split.prepend]
    · cases h
  -- Every other branch reads a token.
  split at h
  · split at h <;> cases h
  split at h
  · split at h <;> cases h
  split at h
  · split at h <;> cases h
  split at h
  · cases h
  split at h
  · cases h
  · cases h

/-- A part of a text is read again when the text is cut off at any place behind it. -/
theorem chunk_cut {allowed : Bool} {c : Char} {rest : List Char} {kind : ChunkKind} {split : Split}
    (h : chunk allowed c rest = .ok (kind, split)) {more behind : List Char}
    (hrest : split.rest = more ++ behind) :
    ∃ text, split.read = c :: text ∧
      chunk allowed c (text ++ more) = .ok (kind, ⟨c :: text, more⟩) := by
  cases kind with
  | gap => exact chunk_gap_cut h hrest
  | token kind =>
    have hread := tokenRead_of_chunk h
    obtain ⟨text, htext, hagain⟩ := hread.append_of_stopsAt
    have hstop := hread.stopsAt_absorbs
    rw [hrest] at hstop
    exact ⟨text, htext, chunk_of_tokenRead (hagain more hstop.of_append)⟩

/-! ## The front of a text that cannot be read -/

/-- Where reading gives up the text opens something, and what is in front of that can be read. -/
theorem tokensFrom_eq_error {before : List Token} {gap : List Char} {offset : Nat} {cs : List Char}
    {error : ScriptError} (h : tokensFrom before gap offset cs = .error error) :
    ∃ front back, cs = front ++ back ∧ error.offset = offset + byteLength front ∧
      error.kind.Opens back ∧ ∃ tokens, tokensFrom before gap offset front = .ok tokens := by
  fun_induction tokensFrom before gap offset cs with
  | case1 => cases h
  | case2 before gap offset c rest kind found =>
    cases h
    refine ⟨[], c :: rest, rfl, rfl, opens_of_chunk_eq_error found, ⟨[], gap⟩, ?_⟩
    rw [tokensFrom]
  | case3 before gap offset c rest split found ih =>
    obtain ⟨front, back, hrest, hoffset, hopens, tokens, hfront⟩ := ih h
    obtain ⟨text, hread, hcut⟩ := chunk_cut found hrest
    refine ⟨split.read ++ front, back, ?_, ?_, hopens, tokens, ?_⟩
    · rw [List.append_assoc, ← hrest, (chunk_append found).1]
    · rw [hoffset, byteLength_append, Nat.add_assoc]
    · rw [hread, List.cons_append, tokensFrom_gap hcut, ← hread]
      exact hfront
  | case4 before gap offset c rest kind split found ih =>
    have herror : tokensFrom (⟨gap, kind, split.read⟩ :: before) []
        (offset + byteLength split.read) split.rest = .error error := by
      cases hmore : tokensFrom (⟨gap, kind, split.read⟩ :: before) []
          (offset + byteLength split.read) split.rest with
      | ok more => rw [hmore] at h; cases h
      | error e => rw [hmore] at h; exact h
    obtain ⟨front, back, hrest, hoffset, hopens, tokens, hfront⟩ := ih herror
    obtain ⟨text, hread, hcut⟩ := chunk_cut found hrest
    refine ⟨split.read ++ front, back, ?_, ?_, hopens, tokens.cons ⟨gap, kind, split.read⟩, ?_⟩
    · rw [List.append_assoc, ← hrest, (chunk_append found).1]
    · rw [hoffset, byteLength_append, Nat.add_assoc]
    · rw [hread, List.cons_append, tokensFrom_token hcut, ← hread, hfront]
      rfl

/-- A text that cannot be read is given up at a place within it, between two characters, where what is
reported to lack its end is opened, and the text in front of that place can be read. Minifying keeps the
text. -/
theorem tokenize_error_at_opener {source : String} {error : ScriptError}
    (h : tokenize source.toList = .error error) :
    String.Pos.Raw.IsValid source ⟨error.offset⟩ ∧ error.offset < source.utf8ByteSize ∧
      (∃ front back : String, source = front ++ back ∧ front.utf8ByteSize = error.offset ∧
        error.kind.Opens back.toList ∧ ∃ tokens, tokenize front.toList = .ok tokens) ∧
      minifyOrKeep source = source := by
  obtain ⟨front, back, hsource, hoffset, hopens, hfront⟩ := tokensFrom_eq_error h
  rw [Nat.zero_add] at hoffset
  have hwithin := (offset_of_tokensFrom_eq_error h).2
  rw [Nat.zero_add, byteLength_toList] at hwithin
  have hplace : source.toList = front ++ [] ++ back := by rw [List.append_nil, hsource]
  refine ⟨?_, hwithin, ⟨String.ofList front, String.ofList back, ?_, ?_, ?_, ?_⟩, ?_⟩
  · rw [hoffset]
    exact (extract_of_toList_eq hplace).1
  · rw [← String.ofList_append, ← hsource, String.ofList_toList]
  · rw [hoffset, ← byteLength_toList, String.toList_ofList]
  · rw [String.toList_ofList]
    exact hopens
  · rw [String.toList_ofList]
    exact hfront
  · rw [minifyOrKeep, minify_eq, minifyChars, h]
    rfl

/-- A string that lacks its end in the code of a template within the code of a template: the outer
template is reported, behind a character of two bytes. -/
theorem tokenize_error_at_opener_nested :
    tokenize "é+`$\x7b`$\x7b\"\x7d`\x7d`".toList = .error ⟨.template, 3⟩ ∧
      ∃ front back : String, "é+`$\x7b`$\x7b\"\x7d`\x7d`" = front ++ back ∧ front.utf8ByteSize = 3 ∧
        Unterminated.template.Opens back.toList ∧ ∃ tokens, tokenize front.toList = .ok tokens := by
  have failed : tokenize "é+`$\x7b`$\x7b\"\x7d`\x7d`".toList = .error ⟨.template, 3⟩ := by decide +kernel
  exact ⟨failed, (tokenize_error_at_opener failed).2.2.1⟩

end LiveMarkup.Script

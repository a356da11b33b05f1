import LiveMarkup.Payload
import LiveMarkup.Proofs.Json.Reader

/-!
# Escaped JSON text

Writing the characters that could end a script block as escapes changes a JSON text but not what it
says: such a character stands only in plain text within a string (`stands_in_string`), where its code
says the same. The reader of the escaped text goes along with the reader of the text itself, string
characters aside (`feed_escape`).
-/

set_option autoImplicit false

namespace LiveMarkup

namespace RawJson

/-! ## Two readers side by side -/

/-- Two readers that agree, except for how the characters of the string they are in are written. -/
inductive Like : Reader → Reader → Prop where
  | same (reader : Reader) : Like reader reader
  | text {isKey : Bool} {units others : List TextUnit} {escape : Escape} {stack : List Frame}
      (alike : List.Forall₂ Alike units others) :
      Like ⟨.text isKey units escape, stack⟩ ⟨.text isKey others escape, stack⟩

/-- Readers that agree go on agreeing. -/
theorem Like.step {reader other after : Reader} (like : Like reader other) {c : Char}
    (stepped : step reader c = some after) :
    ∃ left, RawJson.step other c = some left ∧ Like after left := by
  cases like with
  | same => exact ⟨after, stepped, .same after⟩
  | @text isKey units others escape stack alike =>
    -- No step within a string looks at the characters read before, its end aside.
    cases escape with
    | plain =>
      simp only [RawJson.step, stepMode, stepText] at stepped ⊢
      split
      · rename_i quoted
        rw [if_pos quoted] at stepped
        have same : deliverText isKey units stack = deliverText isKey others stack := by
          simp only [deliverText, decodeUnits_alike (List.forall₂_reverse_iff.mpr alike)]
        exact ⟨after, same.symm.trans stepped, .same after⟩
      · rename_i unquoted
        rw [if_neg unquoted] at stepped
        split
        · rename_i slash
          rw [if_pos slash] at stepped
          obtain rfl := Option.some.inj stepped
          exact ⟨_, rfl, .text alike⟩
        · rename_i unslashed
          rw [if_neg unslashed] at stepped
          split at stepped
          · cases stepped
          · rename_i shown
            obtain rfl := Option.some.inj stepped
            exact ⟨_, if_neg shown, .text (.cons (.same _) alike)⟩
    | slash =>
      simp only [RawJson.step, stepMode, stepText] at stepped ⊢
      split
      · rename_i unicode
        rw [if_pos unicode] at stepped
        obtain rfl := Option.some.inj stepped
        exact ⟨_, rfl, .text alike⟩
      · rename_i simple
        rw [if_neg simple] at stepped
        obtain ⟨d, meant, rfl⟩ := Option.map_eq_some_iff.mp stepped
        exact ⟨_, by rw [meant]; rfl, .text (.cons (.same _) alike)⟩
    | hex left code =>
      simp only [RawJson.step, stepMode, stepText] at stepped ⊢
      obtain ⟨digit, meant, rfl⟩ := Option.map_eq_some_iff.mp stepped
      refine ⟨_, by rw [meant]; rfl, ?_⟩
      cases left with
      | zero => exact .text (.cons (.same _) alike)
      | succ left => exact .text alike

end RawJson

namespace Payload

open RawJson

/-- A character that is written as an escape in a script block. -/
abbrev Escaped (c : Char) : Prop :=
  c = '<' ∨ c = '>' ∨ c = '&' ∨ c = '\u2028' ∨ c = '\u2029'

/-- Such a character means nothing to the reader. -/
theorem Escaped.facts {c : Char} (escaped : Escaped c) :
    isBlank c = false ∧ isBare c = false ∧ hexValue? c = none ∧ simpleEscape? c = none ∧
      c ∉ ['"', '\\', '[', ']', '\x7b', '\x7d', ',', ':', 'u'] ∧ 0x20 ≤ c.toNat ∧
      c.toNat < 0xD800 := by
  rcases escaped with rfl | rfl | rfl | rfl | rfl
  all_goals decide

theorem stepMode_escaped {c : Char} (escaped : Escaped c) {mode : Mode} {stack : List Frame}
    {after : Reader} (stepped : stepMode mode stack c = some after) :
    ∃ isKey units, mode = .text isKey units .plain ∧
      after = ⟨.text isKey (.char c :: units) .plain, stack⟩ := by
  obtain ⟨blank, bare, digit, letter, other, shown, -⟩ := escaped.facts
  simp only [List.mem_cons, List.not_mem_nil, or_false, not_or] at other
  obtain ⟨quote, slash, opening, closing, brace, ended, comma, colon, unicode⟩ := other
  have unclosed : ∀ stack, close c stack = none := by
    intro stack
    cases stack with
    | nil => rfl
    | cons frame stack => cases frame <;> simp [close, closing, ended]
  -- Everywhere else the character is none of those that may stand there.
  cases mode with
  | value mayClose => simp [stepMode, stepValue, blank, bare, quote, opening, closing, brace] at stepped
  | key mayClose => simp [stepMode, blank, quote, ended] at stepped
  | colon => simp [stepMode, blank, colon] at stepped
  | separator => simp [stepMode, blank, comma, unclosed] at stepped
  | complete value => simp [stepMode, blank] at stepped
  | bare reversed => cases stepped
  | text isKey units escape =>
    cases escape with
    | plain =>
      simp only [stepMode, stepText, quote, slash, if_false, if_neg (Nat.not_lt.mpr shown),
        Option.some.injEq] at stepped
      exact ⟨isKey, units, rfl, stepped.symm⟩
    | slash => simp [stepMode, stepText, unicode, letter] at stepped
    | hex left code => simp [stepMode, stepText, digit] at stepped

/-- An escaped character is read only in plain text within a string. -/
theorem stands_in_string {c : Char} (escaped : Escaped c) {reader after : Reader}
    (stepped : step reader c = some after) :
    ∃ isKey units stack, reader = ⟨.text isKey units .plain, stack⟩ ∧
      after = ⟨.text isKey (.char c :: units) .plain, stack⟩ := by
  rw [step_of_not_isBare escaped.facts.2.1] at stepped
  obtain ⟨⟨mode, stack⟩, settled, stepped⟩ := Option.bind_eq_some_iff.mp stepped
  obtain ⟨isKey, units, rfl, rfl⟩ := stepMode_escaped escaped stepped
  refine ⟨isKey, units, stack, ?_, rfl⟩
  obtain ⟨mode, stack⟩ := reader
  cases mode with
  | bare reversed =>
    -- A number or word that ends leaves no reader within a string.
    obtain ⟨raw, -, delivered⟩ := Option.bind_eq_some_iff.mp settled
    cases stack with
    | nil => simp [deliver] at delivered
    | cons frame stack => cases frame <;> simp [deliver] at delivered
  | _ => exact Option.some.inj settled

/-! ## Escaped texts -/

/-- The reader of the escaped text goes along with the reader of the text. -/
theorem feed_escape {cs : List Char} {reader other after : Reader} (like : Like reader other)
    (fed : feed reader cs = some after) :
    ∃ left, feed other (cs.flatMap escapeChar) = some left ∧ Like after left := by
  induction cs generalizing reader other with
  | nil =>
    obtain rfl := Option.some.inj fed
    exact ⟨other, rfl, like⟩
  | cons c rest ih =>
    rw [feed_cons] at fed
    obtain ⟨middle, stepped, fed⟩ := Option.bind_eq_some_iff.mp fed
    rw [List.flatMap_cons, feed_append]
    by_cases escaped : Escaped c
    · -- Both readers are within one string, and the other one reads the code of the character.
      obtain ⟨isKey, units, stack, rfl, rfl⟩ := stands_in_string escaped stepped
      obtain ⟨others, rfl, alike⟩ : ∃ others, other = ⟨.text isKey others .plain, stack⟩ ∧
          List.Forall₂ Alike units others := by
        cases like with
        | same => exact ⟨units, rfl, List.forall₂_refl units⟩
        | text alike => exact ⟨_, rfl, alike⟩
      have low := escaped.facts.2.2.2.2.2.2
      rw [escapeChar, if_pos escaped, feed_unicodeEscape (by omega), Option.bind_some]
      exact ih (.text (.cons (.code low) alike)) fed
    · obtain ⟨left, alongside, like⟩ := like.step stepped
      rw [escapeChar, if_neg escaped, feed_singleton, alongside, Option.bind_some]
      exact ih like fed

/-- An escaped text is read as the text is. -/
theorem ofText?_escape {text : String} {raw : RawJson} (read : RawJson.ofText? text = some raw) :
    RawJson.ofText? (escape text) = some raw := by
  unfold RawJson.ofText? at read
  obtain ⟨reader, ended, complete⟩ := Option.bind_eq_some_iff.mp read
  obtain ⟨last, fed, settled⟩ := Option.bind_eq_some_iff.mp ended
  obtain ⟨left, alongside, like⟩ := feed_escape (.same _) fed
  have same : left = last := by
    cases like with
    | same => rfl
    | text alike =>
      -- Within a string no text is complete.
      obtain rfl := Option.some.inj settled
      cases complete
  rw [feed] at alongside
  rw [RawJson.ofText?, escape, String.toList_ofList, alongside, same, Option.bind_some, settled]
  exact complete

theorem read?_escape {text : String} {value : Json} (read : Json.read? text = some value) :
    Json.read? (escape text) = some value := by
  obtain ⟨raw, tree, value⟩ := Option.bind_eq_some_iff.mp read
  rw [Json.read?, ofText?_escape tree]
  exact value

theorem not_escaped_of_mem_unicodeEscape {code : Nat} {c : Char}
    (member : c ∈ Json.unicodeEscape code) : ¬Escaped c := by
  have digits : ∀ n < 16, ¬Escaped (Json.hexDigit n) := by decide
  simp only [Json.unicodeEscape, List.mem_cons, List.not_mem_nil, or_false] at member
  rcases member with rfl | rfl | rfl | rfl | rfl | rfl
  · decide
  · decide
  all_goals exact digits _ (Nat.mod_lt _ (by decide))

/-- No character that is written as an escape is left. -/
theorem not_escaped_of_mem_escape {text : String} {c : Char} (member : c ∈ (escape text).toList) :
    ¬Escaped c := by
  rw [escape, String.toList_ofList] at member
  obtain ⟨d, -, member⟩ := List.mem_flatMap.mp member
  unfold escapeChar at member
  split at member
  · exact not_escaped_of_mem_unicodeEscape member
  · rename_i plain
    rw [List.mem_singleton.mp member]
    exact plain

end Payload

end LiveMarkup

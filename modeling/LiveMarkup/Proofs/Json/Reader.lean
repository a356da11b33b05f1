import LiveMarkup.Json.Printer
import LiveMarkup.Json.Raw
import Mathlib.Data.List.Forall2

/-!
# The reader at work

The reader takes one character at a time; `feed` gives it several. A number or word ends where a
character comes that cannot stand in it, and what was read then goes to the innermost open array or
object (`step_of_not_isBare`). A character of a string may also be written by its code, which
makes no difference to the text of the string (`decodeUnits_alike`).
-/

set_option autoImplicit false

namespace LiveMarkup.RawJson

/-! ## One character after another -/

/-- Reads characters one after another. -/
def feed (reader : Reader) (cs : List Char) : Option Reader := cs.foldlM step reader

@[simp] theorem feed_nil (reader : Reader) : feed reader [] = some reader := rfl

@[simp] theorem feed_cons (reader : Reader) (c : Char) (cs : List Char) :
    feed reader (c :: cs) = (step reader c).bind (feed · cs) := rfl

theorem feed_singleton (reader : Reader) (c : Char) : feed reader [c] = step reader c :=
  Option.bind_fun_some _

theorem feed_append (reader : Reader) (cs more : List Char) :
    feed reader (cs ++ more) = (feed reader cs).bind (feed · more) :=
  List.foldlM_append

/-- A character that cannot stand in a number or word ends the one that the reader is in. -/
theorem step_of_not_isBare {c : Char} (other : isBare c = false) (reader : Reader) :
    step reader c = (settle reader).bind fun settled => stepMode settled.mode settled.stack c := by
  obtain ⟨mode, stack⟩ := reader
  cases mode with
  | bare reversed => simp [step, other]
  | value mayClose => rfl
  | key mayClose => rfl
  | colon => rfl
  | separator => rfl
  | complete value => rfl
  | text isKey reversed escape => rfl

/-- Nothing is left to be ended behind a value that was handed on. -/
theorem settle_deliver (raw : RawJson) (stack : List Frame) :
    (deliver raw stack).bind settle = deliver raw stack := by
  cases stack with
  | nil => rfl
  | cons frame rest => cases frame <;> rfl

theorem isBlank_of_isBare {c : Char} (bare : isBare c = true) : isBlank c = false := by
  rw [Bool.eq_false_iff]
  intro blank
  simp only [isBlank, Bool.or_eq_true, beq_iff_eq] at blank
  rcases blank with ((rfl | rfl) | rfl) | rfl
  all_goals exact absurd bare (by decide)

/-- A number or word goes on as long as its characters do. -/
theorem feed_bare {cs : List Char} (bare : ∀ c ∈ cs, isBare c = true) (reversed : List Char)
    (stack : List Frame) :
    feed ⟨.bare reversed, stack⟩ cs = some ⟨.bare (cs.reverse ++ reversed), stack⟩ := by
  induction cs generalizing reversed with
  | nil => rfl
  | cons c rest ih =>
    have first : step ⟨.bare reversed, stack⟩ c = some ⟨.bare (c :: reversed), stack⟩ := by
      simp [step, bare c List.mem_cons_self]
    rw [feed_cons, first, Option.bind_some, ih fun c member => bare c (List.mem_cons_of_mem _ member),
      List.reverse_cons, List.append_assoc]
    rfl

/-! ## Characters of strings -/

/-- Two ways to write a character in a string: alike, or by its code the second time. -/
inductive Alike : TextUnit → TextUnit → Prop where
  | same (u : TextUnit) : Alike u u
  | code {c : Char} (low : c.toNat < 0xD800) : Alike (.char c) (.unit c.toNat)

instance : Std.Refl Alike := ⟨.same⟩

theorem not_half_of_low {c : Char} (low : c.toNat < 0xD800) :
    isLowHalf c.toNat = false ∧ isHighHalf c.toNat = false := by
  simp only [isLowHalf, isHighHalf, Bool.and_eq_false_iff, decide_eq_false_iff_not]
  omega

theorem decodeUnits_code {c : Char} (low : c.toNat < 0xD800) (units : List TextUnit) :
    decodeUnits (.unit c.toNat :: units) = (decodeUnits units).map (c :: ·) := by
  have valid : c.toNat.isValidChar := c.valid
  have back : Text.charOfCode c.toNat = c := by
    rw [Text.charOfCode, if_pos valid, Char.ofNat_toNat]
  rw [decodeUnits.eq_def]
  simp only [not_half_of_low low, back, Bool.false_eq_true, if_false]

/-- How a character is written makes no difference to the text. -/
theorem decodeUnits_alike {units others : List TextUnit} (alike : List.Forall₂ Alike units others) :
    decodeUnits units = decodeUnits others := by
  -- The cases are those of `decodeUnits`; only the half of a pair looks at the unit behind it.
  fun_induction decodeUnits units generalizing others with
  | case1 =>
    cases alike
    rfl
  | case2 c rest ih =>
    obtain ⟨_, more, head, tail, rfl⟩ := List.forall₂_cons_left_iff.mp alike
    cases head with
    | same => rw [decodeUnits, ih tail]
    | code low => rw [decodeUnits_code low, ih tail]
  | case3 code rest lowHalf =>
    obtain ⟨_, more, ⟨-⟩, tail, rfl⟩ := List.forall₂_cons_left_iff.mp alike
    rw [decodeUnits.eq_def]
    simp only [lowHalf, if_true]
  | case4 code whole high low more lowHalf joined =>
    rename_i ih
    obtain ⟨_, _, ⟨-⟩, behind, rfl⟩ := List.forall₂_cons_left_iff.mp alike
    obtain ⟨_, others, ⟨-⟩, tail, rfl⟩ := List.forall₂_cons_left_iff.mp behind
    rw [ih tail]
    conv_rhs => rw [decodeUnits.eq_def]
    simp only [whole, high, lowHalf, if_true, if_false, Bool.false_eq_true]
    rfl
  | case5 code whole high low more lowHalf =>
    obtain ⟨_, _, ⟨-⟩, behind, rfl⟩ := List.forall₂_cons_left_iff.mp alike
    obtain ⟨_, others, ⟨-⟩, tail, rfl⟩ := List.forall₂_cons_left_iff.mp behind
    rw [decodeUnits.eq_def]
    simp only [whole, high, lowHalf, if_true, if_false, Bool.false_eq_true]
  | case6 code rest whole high alone =>
    obtain ⟨_, others, ⟨-⟩, tail, rfl⟩ := List.forall₂_cons_left_iff.mp alike
    -- A character written by its code is no half of a pair either.
    rw [decodeUnits.eq_def]
    cases tail with
    | nil => simp [whole, high]
    | cons head tail =>
      cases head with
      | code low => simp [whole, high, not_half_of_low low]
      | same =>
        rename_i u _ _
        cases u with
        | char c => simp [whole, high]
        | unit low => exact (alone low _ rfl).elim
  | case7 code rest whole high ih =>
    obtain ⟨_, others, ⟨-⟩, tail, rfl⟩ := List.forall₂_cons_left_iff.mp alike
    rw [ih tail]
    conv_rhs => rw [decodeUnits.eq_def]
    simp only [whole, high, if_false, Bool.false_eq_true]

theorem decodeUnits_map_char (cs : List Char) : decodeUnits (cs.map .char) = some cs := by
  induction cs with
  | nil => rfl
  | cons c rest ih => rw [List.map_cons, decodeUnits, ih, Option.map_some]

/-! ## Strings -/

/-- A way to write the characters of a string: each reads as itself, or as its code. -/
def Spells (write : Char → List Char) : Prop :=
  ∀ c isKey reversed stack, ∃ u, Alike (.char c) u ∧
    feed ⟨.text isKey reversed .plain, stack⟩ (write c) =
      some ⟨.text isKey (u :: reversed) .plain, stack⟩

/-- The characters of a quoted string read as themselves. -/
theorem Spells.flatMap {write : Char → List Char} (spells : Spells write) (cs : List Char)
    (isKey : Bool) (reversed : List TextUnit) (stack : List Frame) :
    ∃ units, List.Forall₂ Alike (cs.map .char) units ∧
      feed ⟨.text isKey reversed .plain, stack⟩ (cs.flatMap write) =
        some ⟨.text isKey (units.reverse ++ reversed) .plain, stack⟩ := by
  induction cs generalizing reversed with
  | nil => exact ⟨[], .nil, rfl⟩
  | cons c rest ih =>
    obtain ⟨u, written, first⟩ := spells c isKey reversed stack
    obtain ⟨units, more, others⟩ := ih (u :: reversed)
    refine ⟨u :: units, .cons written more, ?_⟩
    rw [List.flatMap_cons, feed_append, first, Option.bind_some, others, List.reverse_cons,
      List.append_assoc]
    rfl

/-- Behind its quotation mark a quoted string is read to its end. -/
theorem Spells.quoted {write : Char → List Char} (spells : Spells write) (cs : List Char)
    (isKey : Bool) (stack : List Frame) :
    feed ⟨.text isKey [] .plain, stack⟩ (cs.flatMap write ++ ['"']) =
      deliverText isKey (cs.map .char).reverse stack := by
  obtain ⟨units, written, fed⟩ := spells.flatMap cs isKey [] stack
  have same := decodeUnits_alike written
  rw [feed_append, fed, Option.bind_some, feed_singleton]
  simp only [step, stepMode, stepText, if_true, List.append_nil, deliverText, List.reverse_reverse,
    same]

/-- A code is read back from its escape, whichever hexadecimal digits it is written in. -/
theorem feed_hexEscape {digit : Nat → Char} (digits : ∀ n < 16, hexValue? (digit n) = some n)
    {code : Nat} (small : code < 65536) (isKey : Bool) (reversed : List TextUnit)
    (stack : List Frame) :
    feed ⟨.text isKey reversed .plain, stack⟩
        ['\\', 'u', digit (code / 4096 % 16), digit (code / 256 % 16), digit (code / 16 % 16),
          digit (code % 16)] =
      some ⟨.text isKey (.unit code :: reversed) .plain, stack⟩ := by
  have first := digits (code / 4096 % 16) (Nat.mod_lt _ (by decide))
  have second := digits (code / 256 % 16) (Nat.mod_lt _ (by decide))
  have third := digits (code / 16 % 16) (Nat.mod_lt _ (by decide))
  have fourth := digits (code % 16) (Nat.mod_lt _ (by decide))
  have sum : 16 * (16 * (16 * (16 * 0 + code / 4096 % 16) + code / 256 % 16) + code / 16 % 16) +
      code % 16 = code := by omega
  simpa [step, stepMode, stepText, first, second, third, fourth] using sum

theorem feed_unicodeEscape {code : Nat} (small : code < 65536) (isKey : Bool)
    (reversed : List TextUnit) (stack : List Frame) :
    feed ⟨.text isKey reversed .plain, stack⟩ (Json.unicodeEscape code) =
      some ⟨.text isKey (.unit code :: reversed) .plain, stack⟩ :=
  feed_hexEscape (by decide) small isKey reversed stack

theorem spells_escapeChar : Spells Json.escapeChar := by
  intro c isKey reversed stack
  unfold Json.escapeChar
  split
  · rename_i quoted
    exact ⟨.char c, .same _, by rw [quoted]; rfl⟩
  split
  · rename_i slash
    exact ⟨.char c, .same _, by rw [slash]; rfl⟩
  split
  · rename_i line
    exact ⟨.char c, .same _, by rw [line]; rfl⟩
  split
  · rename_i line
    exact ⟨.char c, .same _, by rw [line]; rfl⟩
  split
  · rename_i tab
    exact ⟨.char c, .same _, by rw [tab]; rfl⟩
  split
  · rename_i back
    exact ⟨.char c, .same _, by rw [back]; rfl⟩
  split
  · rename_i form
    exact ⟨.char c, .same _, by rw [form]; rfl⟩
  split
  · rename_i control
    exact ⟨.unit c.toNat, .code (by omega), feed_unicodeEscape (by omega) isKey reversed stack⟩
  · rename_i quoted slash _ _ _ _ _ shown
    exact ⟨.char c, .same _, by simp [step, stepMode, stepText, quoted, slash, shown]⟩

end LiveMarkup.RawJson

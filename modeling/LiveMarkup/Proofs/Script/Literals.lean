import LiveMarkup.Proofs.Json.Nesting
import LiveMarkup.Proofs.Script.Fitting

/-!
# Literals read back

What the printer writes for a string or a JSON value is JSON text, and it is read back as that string
or value (`literals_read_back`). The escapes of script literals are not those of the compact text:
angle brackets, ampersands and the two line separators are written by their codes, in upper case. A
reader takes the character for the code (`spells_literalChar`), and arrays and objects are read as
those of the compact text are, with a blank behind each comma and colon. No character of a literal
can be taken for markup (`isGuarded`).
-/

set_option autoImplicit false

namespace LiveMarkup

namespace Json

/-! ## Values without repeated keys -/

/-- No object in the value has a key twice. -/
inductive KeysApart : Json → Prop where
  | null : KeysApart .null
  | bool (b : Bool) : KeysApart (.bool b)
  | number (n : JsonNumber) : KeysApart (.number n)
  | string (s : String) : KeysApart (.string s)
  | array {items : List Json} (each : ∀ item ∈ items, KeysApart item) : KeysApart (.array items)
  | object {fields : Fields} (apart : (fields.map Prod.fst).Nodup)
      (each : ∀ field ∈ fields, KeysApart field.2) : KeysApart (.object fields)

/-- Without repeated keys only the nesting decides whether a value can be read again. -/
theorem KeysApart.readable_iff {value : Json} (h : value.KeysApart) (depth : Nat) :
    Readable depth value ↔ value.nesting ≤ depth := by
  induction h generalizing depth with
  | null => exact iff_of_true rfl (Nat.zero_le depth)
  | bool b => exact iff_of_true rfl (Nat.zero_le depth)
  | number n => exact iff_of_true rfl (Nat.zero_le depth)
  | string s => exact iff_of_true rfl (Nat.zero_le depth)
  | array each ih =>
    rw [nesting_array_le_iff]
    constructor
    · intro hread
      obtain ⟨inner, rfl, hitems⟩ := readable_items_of_array hread
      exact ⟨inner, rfl, fun item member => (ih item member inner).mp (hitems item member)⟩
    · rintro ⟨inner, rfl, hitems⟩
      apply readable_array
      exact fun item member => (ih item member inner).mpr (hitems item member)
  | object apart each ih =>
    rw [nesting_object_le_iff]
    constructor
    · intro hread
      obtain ⟨inner, rfl, -, hfields⟩ := readable_fields_of_object hread
      exact ⟨inner, rfl, fun field member => (ih field member inner).mp (hfields field member)⟩
    · rintro ⟨inner, rfl, hfields⟩
      apply readable_object apart
      exact fun field member => (ih field member inner).mpr (hfields field member)

end Json

namespace Script

/-! ## Guarded characters -/

/-- Whether a character is none that markup or a script could take for something else: no angle
bracket, ampersand, line separator or control character. -/
def isGuarded (c : Char) : Bool :=
  c != '<' && c != '>' && c != '&' && c != '\u2028' && c != '\u2029' && decide (0x20 ≤ c.toNat)

theorem isGuarded_upperHex (n : Nat) : isGuarded (upperHex (n % 16)) = true := by
  have hdigits : ∀ m < 16, isGuarded (upperHex m) = true := by decide
  exact hdigits (n % 16) (Nat.mod_lt n (by decide))

/-- The characters of numbers and words are guarded. -/
theorem isGuarded_of_isBare {c : Char} (h : RawJson.isBare c = true) : isGuarded c = true := by
  have hother : ∀ d, RawJson.isBare d = false → c ≠ d := by
    rintro d hd rfl
    exact Bool.false_ne_true (hd.symm.trans h)
  have hcontrol : 0x20 ≤ c.toNat := by
    apply Nat.le_of_not_lt
    intro hlow
    have hcodes : ∀ n < 0x20, RawJson.isBare (Char.ofNat n) = false := by decide
    apply hother c _ rfl
    rw [← Char.ofNat_toNat c]
    exact hcodes c.toNat hlow
  simp [isGuarded, hcontrol, hother '<' rfl, hother '>' rfl, hother '&' rfl, hother '\u2028' rfl,
    hother '\u2029' rfl]

theorem all_isGuarded_literalChar (c : Char) : (literalChar c).all isGuarded = true := by
  unfold literalChar
  split_ifs with hquote hback hline hreturn htab hother
  · rfl
  · rfl
  · rfl
  · rfl
  · rfl
  · simp only [upperEscape, List.all_cons, isGuarded_upperHex, List.all_nil]
    rfl
  · simp only [not_or, Nat.not_lt] at hother
    simp [isGuarded, hother]

theorem all_isGuarded_literalChars (s : String) : (literalChars s).all isGuarded = true := by
  rw [literalChars, List.all_append, List.all_cons, List.all_flatMap]
  simp only [all_isGuarded_literalChar]
  simp [isGuarded]

theorem all_isGuarded_commaSeparated {texts : List (List Char)}
    (h : ∀ text ∈ texts, text.all isGuarded = true) :
    (commaSeparated texts).all isGuarded = true := by
  fun_induction commaSeparated texts with
  | case1 => rfl
  | case2 text => exact h text List.mem_cons_self
  | case3 text rest _ ih =>
    rw [List.forall_mem_cons] at h
    rw [List.all_append, List.all_cons, List.all_cons, h.1, ih h.2]
    rfl

mutual

/-- No character of a JSON literal can be taken for markup, keys included. -/
theorem all_isGuarded_jsonChars : (value : Json) → (jsonChars value).all isGuarded = true
  | .null => rfl
  | .bool true => rfl
  | .bool false => rfl
  | .number n => List.all_eq_true.mpr fun c hc => isGuarded_of_isBare (n.text_isBare c hc)
  | .string s => all_isGuarded_literalChars s
  | .array items => by
    have hitems := all_isGuarded_commaSeparated (all_isGuarded_jsonItems items)
    simp [jsonChars, hitems, isGuarded]
  | .object fields => by
    have hfields := all_isGuarded_commaSeparated (all_isGuarded_jsonFields fields)
    simp [jsonChars, hfields, isGuarded]

theorem all_isGuarded_jsonItems : (items : List Json) →
    ∀ text ∈ jsonItems items, text.all isGuarded = true
  | [] => by simp [jsonItems]
  | item :: rest => by
    rw [jsonItems]
    exact List.forall_mem_cons.mpr ⟨all_isGuarded_jsonChars item, all_isGuarded_jsonItems rest⟩

theorem all_isGuarded_jsonFields : (fields : List (String × Json)) →
    ∀ text ∈ jsonFields fields, text.all isGuarded = true
  | [] => by simp [jsonFields]
  | (key, value) :: rest => by
    rw [jsonFields]
    refine List.forall_mem_cons.mpr ⟨?_, all_isGuarded_jsonFields rest⟩
    simp only [List.all_append, List.all_cons, all_isGuarded_literalChars,
      all_isGuarded_jsonChars value]
    rfl

end

/-! ## Reading -/

/-- A character of a string literal reads as itself. -/
theorem spells_literalChar : RawJson.Spells literalChar := by
  intro c isKey reversed stack
  unfold literalChar
  split_ifs with hquote hback hline hreturn htab hother
  · exact ⟨.char c, .same _, by rw [hquote]; rfl⟩
  · exact ⟨.char c, .same _, by rw [hback]; rfl⟩
  · exact ⟨.char c, .same _, by rw [hline]; rfl⟩
  · exact ⟨.char c, .same _, by rw [hreturn]; rfl⟩
  · exact ⟨.char c, .same _, by rw [htab]; rfl⟩
  · -- Each of these characters has a code of four digits that is no half of a pair.
    have hlow : c.toNat < 0xD800 := by
      rcases hother with rfl | rfl | rfl | rfl | rfl | hcontrol
      · decide
      · decide
      · decide
      · decide
      · decide
      · omega
    exact ⟨.unit c.toNat, .code hlow,
      RawJson.feed_hexEscape (by decide) (by omega) isKey reversed stack⟩
  · simp only [not_or, Nat.not_lt] at hother
    have hshown : ¬ c.toNat < 0x20 := Nat.not_lt.mpr hother.2.2.2.2.2
    exact ⟨.char c, .same _, by
      simp [RawJson.step, RawJson.stepMode, RawJson.stepText, hquote, hback, hshown]⟩

theorem commaSeparated_eq (texts : List (List Char)) :
    commaSeparated texts = [',', ' '].intercalate texts := by
  fun_induction commaSeparated texts with
  | case1 => rw [List.intercalate_nil]
  | case2 text => rw [List.intercalate_singleton]
  | case3 text rest hsome ih =>
    obtain ⟨second, rest, rfl⟩ := List.exists_cons_of_ne_nil hsome
    rw [ih, List.intercalate_cons_cons, List.append_assoc]
    rfl

mutual

/-- A value is read back from its literal, with whatever may stand behind it. -/
theorem reads_jsonChars : (value : Json) → (∀ n ∈ value.numbers, n.ReadsBack) →
    RawJson.Reads (jsonChars value) (.ofJson value)
  | .null, _ => RawJson.reads_bare (List.all_eq_true.mp (by decide)) rfl
  | .bool true, _ => RawJson.reads_bare (List.all_eq_true.mp (by decide)) rfl
  | .bool false, _ => RawJson.reads_bare (List.all_eq_true.mp (by decide)) rfl
  | .number n, hback =>
    RawJson.reads_bare n.text_isBare (hback n (by simp [Json.numbers])).ofBare?
  | .string s, _ => RawJson.reads_quoted spells_literalChar s
  | .array items, hback => by
    rw [jsonChars, commaSeparated_eq]
    exact RawJson.reads_array rfl (reads_jsonItems items hback)
  | .object fields, hback => by
    rw [jsonChars, commaSeparated_eq]
    exact RawJson.reads_object rfl (reads_jsonFields fields hback)

theorem reads_jsonItems : (items : List Json) → (∀ n ∈ Json.itemNumbers items, n.ReadsBack) →
    List.Forall₂ RawJson.Reads (jsonItems items) (RawJson.ofItems items)
  | [], _ => .nil
  | item :: rest, hback => by
    rw [Json.itemNumbers] at hback
    refine .cons ?_ ?_
    · exact reads_jsonChars item fun n here => hback n (List.mem_append_left _ here)
    · exact reads_jsonItems rest fun n later => hback n (List.mem_append_right _ later)

theorem reads_jsonFields : (fields : List (String × Json)) →
    (∀ n ∈ Json.fieldNumbers fields, n.ReadsBack) →
    List.Forall₂ RawJson.ReadsField (jsonFields fields) (RawJson.ofFields fields)
  | [], _ => .nil
  | (key, value) :: rest, hback => by
    rw [Json.fieldNumbers] at hback
    refine .cons ?_ ?_
    · have hvalue := reads_jsonChars value fun n here => hback n (List.mem_append_left _ here)
      exact hvalue.field spells_literalChar (by decide : [' '].all RawJson.isBlank = true) key
    · exact reads_jsonFields rest fun n later => hback n (List.mem_append_right _ later)

end

/-- A string literal on its own is one string token. -/
theorem tokenize_literalChars (s : String) :
    tokenize (literalChars s) = .ok ⟨[⟨[], .str, literalChars s⟩], []⟩ := by
  have hread := tokenRead_literal (regexAllowed []) s []
  rw [List.append_nil] at hread
  rw [tokenize, literalChars, List.cons_append, tokensFrom_token (chunk_of_tokenRead hread),
    tokensFrom]
  rfl

/-- A string literal is a JSON text that holds the string and one string token, and a JSON literal is
a JSON text with the tree of its value: fields keep their order, and a reader that lets so many arrays
and objects nest takes it for the value exactly when no more do. Neither holds a character that is not
guarded. -/
theorem literals_read_back (s : String) (value : Json) :
    (RawJson.ofText? (stringLiteral s) = some (.string (some s)) ∧
      Json.read? (stringLiteral s) = some (.string s) ∧
      tokenize (stringLiteral s).toList = .ok ⟨[⟨[], .str, (stringLiteral s).toList⟩], []⟩ ∧
      (stringLiteral s).toList.all isGuarded = true) ∧
    (jsonLiteral value).toList.all isGuarded = true ∧
    (value.KeysApart → (∀ n ∈ value.numbers, n.ReadsBack) →
      RawJson.ofText? (jsonLiteral value) = some (RawJson.ofJson value) ∧
      ∀ depth, (RawJson.ofText? (jsonLiteral value)).bind (RawJson.value? depth) = some value ↔
        value.nesting ≤ depth) := by
  refine ⟨?_, ?_, ?_⟩
  · have htree : RawJson.ofText? (stringLiteral s) = some (.string (some s)) :=
      (RawJson.reads_quoted spells_literalChar s).ofText?
    refine ⟨htree, ?_, ?_, ?_⟩
    · rw [Json.read?, htree]
      rfl
    · rw [stringLiteral, String.toList_ofList]
      exact tokenize_literalChars s
    · rw [stringLiteral, String.toList_ofList]
      exact all_isGuarded_literalChars s
  · rw [jsonLiteral, String.toList_ofList]
    exact all_isGuarded_jsonChars value
  · intro hapart hback
    have htree : RawJson.ofText? (jsonLiteral value) = some (RawJson.ofJson value) :=
      (reads_jsonChars value hback).ofText?
    refine ⟨htree, fun depth => ?_⟩
    rw [htree]
    exact hapart.readable_iff depth

/-- Keys are guarded and read back like strings, here in an array within an object. -/
theorem object_literal_read_back :
    Json.read? (jsonLiteral (.object [("</a>", .array [.ofNat 1, .string "b"]), ("&", .null)])) =
      some (.object [("</a>", .array [.ofNat 1, .string "b"]), ("&", .null)]) := by
  have hapart : (Json.object [("</a>", .array [.ofNat 1, .string "b"]), ("&", .null)]).KeysApart := by
    refine .object (by decide) ?_
    simp only [List.forall_mem_cons, List.not_mem_nil, false_imp_iff, implies_true, and_true]
    refine ⟨.array ?_, .null⟩
    simp only [List.forall_mem_cons, List.not_mem_nil, false_imp_iff, implies_true, and_true]
    exact ⟨.number _, .string "b"⟩
  have hback : ∀ n ∈ (Json.object [("</a>", .array [.ofNat 1, .string "b"]), ("&", .null)]).numbers,
      n.ReadsBack := by decide +kernel
  exact (((literals_read_back "" _).2.2 hapart hback).2 RawJson.nestingLimit).mpr (by decide)

end Script

end LiveMarkup

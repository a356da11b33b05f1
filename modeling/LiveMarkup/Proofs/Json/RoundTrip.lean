import LiveMarkup.Proofs.Json.Numbers
import LiveMarkup.Proofs.Json.Reader

/-!
# Compact text read back

The compact text of a value is read as the tree of that value (`ofText?_compact`), if its numbers are
read back. `Reads` says of a text what the reader makes of it wherever a value may start: what is
read behind it does not matter, because a comma, a bracket or the end of the text ends every value.
-/

set_option autoImplicit false

namespace LiveMarkup

/-! ## Values and their text -/

namespace Json

mutual

/-- The numbers in a value. -/
def numbers : Json → List JsonNumber
  | .number n => [n]
  | .array items => itemNumbers items
  | .object fields => fieldNumbers fields
  | .null | .bool _ | .string _ => []

/-- The numbers in a list of values. -/
def itemNumbers : List Json → List JsonNumber
  | [] => []
  | item :: rest => numbers item ++ itemNumbers rest

/-- The numbers in the fields of an object. -/
def fieldNumbers : List (String × Json) → List JsonNumber
  | [] => []
  | (_, value) :: rest => numbers value ++ fieldNumbers rest

end

/-- Items are written with commas between their texts. -/
theorem compactItems_eq (items : List Json) :
    compactItems items = [','].intercalate (items.map compactChars) := by
  induction items with
  | nil => rw [compactItems, List.map_nil, List.intercalate_nil]
  | cons item rest ih =>
    cases rest with
    | nil => rw [compactItems, List.map_cons, List.map_nil, List.intercalate_singleton]
    | cons second rest =>
      rw [compactItems, ih]
      · simp [List.intercalate_cons_cons]
      · simp

/-- A field is its key, a colon and its value. -/
def compactField (field : String × Json) : List Char :=
  quoteChars field.1.toList ++ ':' :: field.2.compactChars

/-- Fields are written with commas between their texts. -/
theorem compactFields_eq (fields : List (String × Json)) :
    compactFields fields = [','].intercalate (fields.map compactField) := by
  induction fields with
  | nil => rw [compactFields, List.map_nil, List.intercalate_nil]
  | cons field rest ih =>
    obtain ⟨key, value⟩ := field
    cases rest with
    | nil => rw [compactFields, List.map_cons, List.map_nil, List.intercalate_singleton, compactField]
    | cons second rest =>
      rw [compactFields, ih]
      · simp [List.intercalate_cons_cons, compactField]
      · simp

end Json

namespace RawJson

/-! ## Values in their place -/

/-- Wherever a value may start, the characters are read as the tree `raw`. -/
def Reads (cs : List Char) (raw : RawJson) : Prop :=
  ∀ mayClose stack, (feed ⟨.value mayClose, stack⟩ cs).bind settle = deliver raw stack

/-- What comes behind a value and cannot go on with it is read in the place behind the value. -/
theorem Reads.feed_append_cons {cs : List Char} {raw : RawJson} (reads : Reads cs raw) {c : Char}
    (other : isBare c = false) (mayClose : Bool) (stack : List Frame) (rest : List Char) :
    feed ⟨.value mayClose, stack⟩ (cs ++ c :: rest) =
      (deliver raw stack).bind fun reader =>
        (stepMode reader.mode reader.stack c).bind (feed · rest) := by
  have ended : (fun reader => feed reader (c :: rest)) = fun reader =>
      (settle reader).bind fun settled =>
        (stepMode settled.mode settled.stack c).bind (feed · rest) := by
    funext reader
    rw [feed_cons, step_of_not_isBare other, Option.bind_assoc]
  rw [feed_append, ended, ← Option.bind_assoc, reads mayClose stack]

/-- A value that ends by itself is read to its end. -/
theorem Reads.of_feed {cs : List Char} {raw : RawJson}
    (fed : ∀ mayClose stack, feed ⟨.value mayClose, stack⟩ cs = deliver raw stack) :
    Reads cs raw := by
  intro mayClose stack
  rw [fed, settle_deliver]

theorem reads_bare {cs : List Char} {raw : RawJson} (bare : ∀ c ∈ cs, isBare c = true)
    (word : ofBare? cs = some raw) : Reads cs raw := by
  intro mayClose stack
  cases cs with
  | nil => cases word.symm.trans (by decide : ofBare? [] = none)
  | cons c rest =>
    -- The first character opens the word, since it opens nothing else.
    have here := bare c List.mem_cons_self
    have other : ∀ d, isBare d = false → c ≠ d := by
      rintro d unbare rfl
      exact Bool.false_ne_true (unbare.symm.trans here)
    have first : step ⟨.value mayClose, stack⟩ c = some ⟨.bare [c], stack⟩ := by
      simp [step, stepMode, stepValue, isBlank_of_isBare here, here, other '"' (by decide),
        other '[' (by decide), other '\x7b' (by decide), other ']' (by decide)]
    rw [feed_cons, first, Option.bind_some,
      feed_bare (fun c member => bare c (List.mem_cons_of_mem _ member)), Option.bind_some]
    simp [settle, word]

theorem reads_quoted {write : Char → List Char} (spells : Spells write) (s : String) :
    Reads ('"' :: s.toList.flatMap write ++ ['"']) (.string (some s)) := by
  refine .of_feed ?_
  intro mayClose stack
  have opened : step ⟨.value mayClose, stack⟩ '"' = some ⟨.text false [] .plain, stack⟩ := rfl
  rw [List.cons_append, feed_cons, opened, Option.bind_some, spells.quoted]
  simp [deliverText, decodeUnits_map_char]

/-- A quoted string where a key may start is read as that key. -/
theorem feed_key {write : Char → List Char} (spells : Spells write) (key : String)
    (mayClose : Bool) (reversed : List (Option String × RawJson)) (stack : List Frame) :
    feed ⟨.key mayClose, .fields reversed :: stack⟩ ('"' :: key.toList.flatMap write ++ ['"']) =
      some ⟨.colon, .field reversed (some key) :: stack⟩ := by
  have opened : step ⟨.key mayClose, .fields reversed :: stack⟩ '"' =
      some ⟨.text true [] .plain, .fields reversed :: stack⟩ := rfl
  rw [List.cons_append, feed_cons, opened, Option.bind_some, spells.quoted]
  simp [deliverText, decodeUnits_map_char]

/-! ## Arrays and objects -/

/-- Blanks are skipped where a value may start, and where a key may. -/
theorem feed_blanks {gap : List Char} (blank : gap.all isBlank = true) (mayClose : Bool)
    (stack : List Frame) (rest : List Char) :
    feed ⟨.value mayClose, stack⟩ (gap ++ rest) = feed ⟨.value mayClose, stack⟩ rest ∧
      feed ⟨.key mayClose, stack⟩ (gap ++ rest) = feed ⟨.key mayClose, stack⟩ rest := by
  induction gap with
  | nil => exact ⟨rfl, rfl⟩
  | cons c gap ih =>
    rw [List.all_cons, Bool.and_eq_true] at blank
    have value : step ⟨.value mayClose, stack⟩ c = some ⟨.value mayClose, stack⟩ := by
      simp [step, stepMode, stepValue, blank.1]
    have key : step ⟨.key mayClose, stack⟩ c = some ⟨.key mayClose, stack⟩ := by
      simp [step, stepMode, blank.1]
    rw [List.cons_append, feed_cons, feed_cons, value, key]
    exact ih blank.2

/-- Items with commas between them and their closing bracket are read into the array that is open.
Blanks may follow each comma. -/
theorem feed_items {gap : List Char} (blank : gap.all isBlank = true) {text : List Char}
    {raw : RawJson} {texts : List (List Char)} {raws : List RawJson}
    (reads : List.Forall₂ Reads (text :: texts) (raw :: raws)) (mayClose : Bool)
    (reversed : List RawJson) (stack : List Frame) :
    feed ⟨.value mayClose, .items reversed :: stack⟩
        ((',' :: gap).intercalate (text :: texts) ++ [']']) =
      deliver (.array (reversed.reverse ++ raw :: raws)) stack := by
  -- A value is handed on only when the comma or bracket behind it comes, so the induction is on the
  -- items behind the first one; those read so far are on the stack.
  obtain ⟨first, others⟩ := List.forall₂_cons.mp reads
  induction others generalizing text raw mayClose reversed with
  | nil =>
    have closed : stepMode .separator (.items (raw :: reversed) :: stack) ']' =
        deliver (.array (raw :: reversed).reverse) stack := rfl
    rw [List.intercalate_singleton, first.feed_append_cons (by decide), deliver, Option.bind_some,
      closed, List.reverse_cons]
    exact Option.bind_fun_some _
  | cons second others ih =>
    have comma : stepMode .separator (.items (raw :: reversed) :: stack) ',' =
        some ⟨.value false, .items (raw :: reversed) :: stack⟩ := rfl
    rw [List.intercalate_cons_cons, List.append_assoc, List.append_assoc, List.cons_append,
      first.feed_append_cons (by decide), deliver, Option.bind_some, comma, Option.bind_some,
      (feed_blanks blank _ _ _).1, ih (.cons second others) false _ second, List.reverse_cons,
      List.append_assoc]
    rfl

theorem reads_array {gap : List Char} (blank : gap.all isBlank = true)
    {texts : List (List Char)} {raws : List RawJson} (reads : List.Forall₂ Reads texts raws) :
    Reads ('[' :: (',' :: gap).intercalate texts ++ [']']) (.array raws) := by
  refine .of_feed ?_
  intro mayClose stack
  have opened : step ⟨.value mayClose, stack⟩ '[' = some ⟨.value true, .items [] :: stack⟩ := rfl
  rw [List.cons_append, feed_cons, opened, Option.bind_some]
  cases reads with
  | nil => exact feed_singleton _ ']'
  | cons first others => exact feed_items blank (.cons first others) true [] stack

/-- Wherever a key may start, the characters are read as this field once something comes behind them
that cannot go on with the value. -/
def ReadsField (cs : List Char) (entry : Option String × RawJson) : Prop :=
  ∀ mayClose reversed stack c rest, isBare c = false →
    feed ⟨.key mayClose, .fields reversed :: stack⟩ (cs ++ c :: rest) =
      (stepMode .separator (.fields (entry :: reversed) :: stack) c).bind (feed · rest)

theorem Reads.field {cs : List Char} {raw : RawJson} (reads : Reads cs raw)
    {write : Char → List Char} (spells : Spells write) {gap : List Char}
    (blank : gap.all isBlank = true) (key : String) :
    ReadsField (('"' :: key.toList.flatMap write ++ ['"']) ++ ':' :: (gap ++ cs))
      (some key, raw) := by
  intro mayClose reversed stack c rest other
  have colon : step ⟨.colon, .field reversed (some key) :: stack⟩ ':' =
      some ⟨.value false, .field reversed (some key) :: stack⟩ := rfl
  rw [List.append_assoc, feed_append, feed_key spells, Option.bind_some, List.cons_append,
    feed_cons, colon, Option.bind_some, List.append_assoc, (feed_blanks blank _ _ _).1,
    reads.feed_append_cons other, deliver, Option.bind_some]

/-- Fields with commas between them and their closing brace are read into the object that is open.
Blanks may follow each comma. -/
theorem feed_fields {gap : List Char} (blank : gap.all isBlank = true) {text : List Char}
    {entry : Option String × RawJson} {texts : List (List Char)}
    {entries : List (Option String × RawJson)}
    (reads : List.Forall₂ ReadsField (text :: texts) (entry :: entries)) (mayClose : Bool)
    (reversed : List (Option String × RawJson)) (stack : List Frame) :
    feed ⟨.key mayClose, .fields reversed :: stack⟩
        ((',' :: gap).intercalate (text :: texts) ++ ['\x7d']) =
      deliver (.object (reversed.reverse ++ entry :: entries)) stack := by
  obtain ⟨first, others⟩ := List.forall₂_cons.mp reads
  induction others generalizing text entry mayClose reversed with
  | nil =>
    have closed : stepMode .separator (.fields (entry :: reversed) :: stack) '\x7d' =
        deliver (.object (entry :: reversed).reverse) stack := rfl
    rw [List.intercalate_singleton, first _ _ _ _ _ (by decide), closed, List.reverse_cons]
    exact Option.bind_fun_some _
  | cons second others ih =>
    have comma : stepMode .separator (.fields (entry :: reversed) :: stack) ',' =
        some ⟨.key false, .fields (entry :: reversed) :: stack⟩ := rfl
    rw [List.intercalate_cons_cons, List.append_assoc, List.append_assoc, List.cons_append,
      first _ _ _ _ _ (by decide), comma, Option.bind_some, (feed_blanks blank _ _ _).2,
      ih (.cons second others) false _ second, List.reverse_cons, List.append_assoc]
    rfl

theorem reads_object {gap : List Char} (blank : gap.all isBlank = true)
    {texts : List (List Char)} {entries : List (Option String × RawJson)}
    (reads : List.Forall₂ ReadsField texts entries) :
    Reads ('\x7b' :: (',' :: gap).intercalate texts ++ ['\x7d']) (.object entries) := by
  refine .of_feed ?_
  intro mayClose stack
  have opened : step ⟨.value mayClose, stack⟩ '\x7b' = some ⟨.key true, .fields [] :: stack⟩ := rfl
  rw [List.cons_append, feed_cons, opened, Option.bind_some]
  cases reads with
  | nil => exact feed_singleton _ '\x7d'
  | cons first others => exact feed_fields blank (.cons first others) true [] stack

/-! ## Whole texts -/

mutual

/-- A value is read back from its compact text, with whatever may stand behind it. -/
theorem reads_compactChars : (value : Json) → (∀ n ∈ value.numbers, n.ReadsBack) →
    Reads value.compactChars (ofJson value)
  | .null, _ => reads_bare (List.all_eq_true.mp (by decide)) rfl
  | .bool true, _ => reads_bare (List.all_eq_true.mp (by decide)) rfl
  | .bool false, _ => reads_bare (List.all_eq_true.mp (by decide)) rfl
  | .number n, back =>
    reads_bare n.text_isBare (back n (by simp [Json.numbers])).ofBare?
  | .string s, _ => reads_quoted spells_escapeChar s
  | .array items, back => by
    rw [Json.compactChars, Json.compactItems_eq]
    exact reads_array rfl (reads_items items back)
  | .object fields, back => by
    rw [Json.compactChars, Json.compactFields_eq]
    exact reads_object rfl (reads_fields fields back)

theorem reads_items : (items : List Json) → (∀ n ∈ Json.itemNumbers items, n.ReadsBack) →
    List.Forall₂ Reads (items.map Json.compactChars) (ofItems items)
  | [], _ => .nil
  | item :: rest, back => by
    rw [Json.itemNumbers] at back
    refine .cons ?_ ?_
    · exact reads_compactChars item fun n here => back n (List.mem_append_left _ here)
    · exact reads_items rest fun n later => back n (List.mem_append_right _ later)

theorem reads_fields : (fields : List (String × Json)) →
    (∀ n ∈ Json.fieldNumbers fields, n.ReadsBack) →
    List.Forall₂ ReadsField (fields.map Json.compactField) (ofFields fields)
  | [], _ => .nil
  | (key, value) :: rest, back => by
    rw [Json.fieldNumbers] at back
    refine .cons ?_ ?_
    · have here := reads_compactChars value fun n here => back n (List.mem_append_left _ here)
      exact here.field spells_escapeChar (List.all_nil : [].all isBlank = true) key
    · exact reads_fields rest fun n later => back n (List.mem_append_right _ later)

end

/-- What is read as a value wherever one may start is read as it on its own. -/
theorem Reads.ofText? {cs : List Char} {raw : RawJson} (reads : Reads cs raw) :
    RawJson.ofText? (String.ofList cs) = some raw := by
  have alone := reads false []
  rw [feed] at alone
  rw [RawJson.ofText?, String.toList_ofList, alone]
  rfl

/-- The compact text of a value is read as the tree of the value. -/
theorem ofText?_compact {value : Json} (back : ∀ n ∈ value.numbers, n.ReadsBack) :
    ofText? value.compact = some (ofJson value) :=
  (reads_compactChars value back).ofText?

end RawJson

end LiveMarkup

import LiveMarkup.Json.Scalar
import LiveMarkup.Proofs.Json.Numbers
import Mathlib.Data.List.Forall2

/-!
# Spellings of numbers

An integer may be spelled as one or as a float, `1` or `1.0`. Two values are `Json.Respelled` when they
differ in nothing but that, at any depth. The numbers and truth values that they spell are the same. Their
texts need not be, but where they differ neither is blank (`Json.Respelled.text`).
-/

set_option autoImplicit false

namespace LiveMarkup

/-- One number, maybe in two spellings: an integer below `2 ^ 53` in size, and the float that has its
value. -/
inductive JsonNumber.Respelled : JsonNumber → JsonNumber → Prop where
  | same (n : JsonNumber) : Respelled n n
  | pointed {n : Int} (fits : FitsWord n) (exact : n.natAbs < 9007199254740992) :
      Respelled (.integer n fits) (.float (.ofInt n))
  | plain {n : Int} (fits : FitsWord n) (exact : n.natAbs < 9007199254740992) :
      Respelled (.float (.ofInt n)) (.integer n fits)

/-- Values that differ in the spelling of numbers only. -/
inductive Json.Respelled : Json → Json → Prop where
  | same (value : Json) : Respelled value value
  | number {m n : JsonNumber} (number : m.Respelled n) : Respelled (.number m) (.number n)
  | array {xs ys : List Json} (items : List.Forall₂ Respelled xs ys) :
      Respelled (.array xs) (.array ys)
  | object {fs gs : Fields} (keys : fs.map Prod.fst = gs.map Prod.fst)
      (values : List.Forall₂ Respelled (fs.map Prod.snd) (gs.map Prod.snd)) :
      Respelled (.object fs) (.object gs)

/-! ## Numbers -/

namespace FloatLayout

theorem point_mem_positional (d : Decimal) : '.' ∈ exact.positional d := by
  rw [positional]
  split
  · exact List.mem_append_right _ (by decide)
  · exact List.mem_append_right _ List.mem_cons_self

theorem mark_mem_scientific (d : Decimal) (power : Int) : 'e' ∈ scientific d power := by
  rw [scientific]
  split <;> simp

/-- The text of a float has a point or a power of ten. -/
theorem mem_write (x : Finite64) : '.' ∈ (exact.write x).toList ∨ 'e' ∈ (exact.write x).toList := by
  simp only [write, String.toList_ofList]
  generalize body : ite (x.isZero = true) _ _ = chars
  have written : '.' ∈ chars ∨ 'e' ∈ chars := by
    rw [← body]
    split
    · exact .inl (point_mem_positional _)
    · split
      · exact .inr (mark_mem_scientific _ _)
      · exact .inl (point_mem_positional _)
  split
  · exact written.imp (List.mem_cons_of_mem _) (List.mem_cons_of_mem _)
  · exact written

end FloatLayout

namespace Text

theorem not_isSpace_of_isDigit {c : Char} (digit : c.isDigit = true) : isSpace c = false := by
  have range : 48 ≤ c.toNat ∧ c.toNat ≤ 57 := by
    simpa [Char.isDigit, UInt32.le_iff_toNat_le] using digit
  simp [isSpace]
  omega

theorem not_isBlank_of_mem {s : String} {c : Char} (member : c ∈ s.toList) (other : isSpace c = false) :
    isBlank s = false := by
  rw [isBlank, List.all_eq_false]
  exact ⟨c, member, by simp [other]⟩

theorem not_isEmpty_of_not_isBlank {s : String} (some : isBlank s = false) : s.isEmpty = false := by
  rw [Bool.eq_false_iff, Ne, String.isEmpty_iff]
  rintro rfl
  cases some

end Text

namespace JsonNumber

variable {m n : JsonNumber}

theorem Respelled.toFinite (h : m.Respelled n) : m.toFinite = n.toFinite := by
  cases h <;> rfl

/-- The text of a number is not blank. -/
theorem not_isBlank_text (n : JsonNumber) : Text.isBlank n.text = false := by
  cases n with
  | integer n fits =>
    obtain ⟨c, rest, shape⟩ := List.exists_cons_of_ne_nil (Nat.toDigits_ne_nil (b := 10) (n := n.natAbs))
    have member : c ∈ Nat.toDigits 10 n.natAbs := shape ▸ List.mem_cons_self
    refine Text.not_isBlank_of_mem (c := c) ?_
      (Text.not_isSpace_of_isDigit (Nat.isDigit_of_mem_toDigits (by decide) (by decide) member))
    rw [text, Int.toList_toString]
    exact List.mem_append_right _ member
  | float x =>
    rcases FloatLayout.mem_write x with member | member
    · exact Text.not_isBlank_of_mem member (by decide)
    · exact Text.not_isBlank_of_mem member (by decide)

end JsonNumber

/-! ## Values -/

namespace Json

variable {a b : Json}

theorem Respelled.number? (h : a.Respelled b) : a.number? = b.number? := by
  cases h with
  | same => rfl
  | number number => rw [Json.number?, Json.number?, number.toFinite]
  | array => rfl
  | object => rfl

theorem Respelled.flag? (h : a.Respelled b) : a.flag? = b.flag? := by
  cases h with
  | same => rfl
  | number number => rw [Json.flag?, Json.flag?, number.toFinite]
  | array => rfl
  | object => rfl

theorem text_singleton (item : Json) : (array [item]).text = item.text := by
  rw [Json.text, texts, texts, String.intercalate_singleton]

/-- The text of an object is not blank. -/
theorem not_isBlank_text_object (fields : Fields) : Text.isBlank (object fields).text = false := by
  refine Text.not_isBlank_of_mem (c := '\x7b') ?_ (by decide)
  rw [Json.text, compact, compactChars, String.toList_ofList]
  exact List.mem_append_left _ List.mem_cons_self

/-- The text of a list with two items or more has a comma. -/
theorem not_isBlank_text_array (first second : Json) (rest : List Json) :
    Text.isBlank (array (first :: second :: rest)).text = false := by
  refine Text.not_isBlank_of_mem (c := ',') ?_ (by decide)
  rw [Json.text, texts, texts, String.intercalate_cons_cons]
  simp

/-- The texts of two spellings are the same, or neither of them is blank. -/
theorem Respelled.text : {a b : Json} → a.Respelled b →
    a.text = b.text ∨ (Text.isBlank a.text = false ∧ Text.isBlank b.text = false)
  | _, _, .same value => .inl rfl
  | _, _, .number _ => .inr ⟨JsonNumber.not_isBlank_text _, JsonNumber.not_isBlank_text _⟩
  | _, _, .array .nil => .inl rfl
  -- A list of one item is written as the item, so this is the one case that looks further down.
  | _, _, .array (.cons item .nil) => by
    rw [text_singleton, text_singleton]
    exact Respelled.text item
  | _, _, .array (.cons first (.cons second rest)) =>
    .inr ⟨not_isBlank_text_array _ _ _, not_isBlank_text_array _ _ _⟩
  | _, _, .object _ _ => .inr ⟨not_isBlank_text_object _, not_isBlank_text_object _⟩

theorem Respelled.isBlank_text (h : a.Respelled b) : Text.isBlank a.text = Text.isBlank b.text := by
  rcases h.text with same | ⟨left, right⟩
  · rw [same]
  · rw [left, right]

theorem Respelled.isEmpty_text (h : a.Respelled b) : a.text.isEmpty = b.text.isEmpty := by
  rcases h.text with same | ⟨left, right⟩
  · rw [same]
  · rw [Text.not_isEmpty_of_not_isBlank left, Text.not_isEmpty_of_not_isBlank right]

end Json

/-! ## Fields -/

/-- Objects that differ in the spelling of numbers only. -/
def Fields.Respelled (fs gs : Fields) : Prop := (Json.object fs).Respelled (.object gs)

namespace Fields

theorem rel_get? {fs gs : Fields} (keys : fs.map Prod.fst = gs.map Prod.fst)
    (values : List.Forall₂ Json.Respelled (fs.map Prod.snd) (gs.map Prod.snd)) (key : String) :
    Option.Rel Json.Respelled (get? fs key) (get? gs key) := by
  induction fs generalizing gs with
  | nil =>
    cases gs with
    | nil => exact .none
    | cons => cases keys
  | cons field fs ih =>
    cases gs with
    | nil => cases keys
    | cons other gs =>
      rw [List.map_cons, List.map_cons, List.cons.injEq] at keys
      rw [List.map_cons, List.map_cons, List.forall₂_cons] at values
      simp only [get?, List.find?_cons, ← keys.1]
      cases field.1 == key with
      | true => exact .some values.1
      | false => exact ih keys.2 values.2

/-- Under every key stand values that differ in the spelling of numbers only, or none. -/
theorem Respelled.get? {fs gs : Fields} (h : Respelled fs gs) (key : String) :
    Option.Rel Json.Respelled (fs.get? key) (gs.get? key) := by
  cases h with
  | same =>
    cases fs.get? key with
    | none => exact .none
    | some value => exact .some (.same value)
  | object keys values => exact rel_get? keys values key

end Fields

end LiveMarkup

import LiveMarkup.Json.Raw
import LiveMarkup.Proofs.Number.Numerals
import LiveMarkup.Text.Space

/-!
# The text of a number

A number is written in characters that stand in numbers and words only (`JsonNumber.text_isBare`), so
its text ends where another token begins. `JsonNumber.ReadsBack` says of a number that its text is
read as that number again, which every integer is (`readsBack_integer`). Not every float is: scaling
rounds a second time.
-/

set_option autoImplicit false

namespace LiveMarkup

/-! ## Digits -/

theorem RawJson.isBare_of_isDigit {c : Char} (digit : c.isDigit = true) : isBare c = true := by
  simp [isBare, Char.isAlphanum, digit]

theorem digitsValue_toDigits (n : Nat) : digitsValue 0 (Nat.toDigits 10 n) = n :=
  Nat.ofDigitChars_ten_toDigits

/-- Only zero begins with a zero. -/
theorem head?_toDigits_ne_zero {n : Nat} (positive : 0 < n) :
    (Nat.toDigits 10 n).head? ≠ some '0' := by
  induction n using Nat.strongRecOn with
  | ind n ih =>
    rw [Nat.toDigits_eq_if (by decide)]
    split
    · simp only [List.head?_cons, ne_eq, Option.some.injEq, Nat.digitChar_eq_zero]
      omega
    · rw [List.head?_append, Option.or_of_isSome (by simp [Nat.toDigits_ne_nil])]
      exact ih (n / 10) (by omega) (by omega)

/-! ## Characters -/

/-- Every character of a number can stand in a number or word. -/
theorem Signed.isBare {cs : List Char} (signed : Signed cs) : ∀ c ∈ cs, RawJson.isBare c = true := by
  have shown : ∀ c, c.isDigit = true ∨ c = '.' → RawJson.isBare c = true := by
    rintro c (digit | rfl)
    · exact RawJson.isBare_of_isDigit digit
    · rfl
  obtain ⟨body, numeral, whole⟩ := signed
  have bare : ∀ c ∈ body, RawJson.isBare c = true := by
    cases numeral with
    | plain leads front =>
      exact List.forall_mem_cons.mpr
        ⟨RawJson.isBare_of_isDigit leads, fun c member => shown c (front c member)⟩
    | scaled leads front sign digits =>
      refine List.forall_mem_cons.mpr ⟨RawJson.isBare_of_isDigit leads, ?_⟩
      refine List.forall_mem_append.mpr ⟨fun c member => shown c (front c member), ?_⟩
      refine List.forall_mem_cons.mpr ⟨rfl, List.forall_mem_cons.mpr ⟨?_, ?_⟩⟩
      · rcases sign with rfl | rfl <;> rfl
      · exact fun c member => RawJson.isBare_of_isDigit (digits c member)
  rcases whole with rfl | rfl
  · exact bare
  · exact List.forall_mem_cons.mpr ⟨rfl, bare⟩

theorem JsonNumber.text_isBare (n : JsonNumber) : ∀ c ∈ n.text.toList, RawJson.isBare c = true :=
  n.signed_text.isBare

/-! ## Integers -/

theorem span_toDigits (n : Nat) :
    (Nat.toDigits 10 n).takeWhile Char.isDigit = Nat.toDigits 10 n ∧
      (Nat.toDigits 10 n).dropWhile Char.isDigit = [] := by
  have digits : ∀ c ∈ Nat.toDigits 10 n, c.isDigit = true := fun _ member =>
    Nat.isDigit_of_mem_toDigits (by decide) (by decide) member
  have none : (Nat.toDigits 10 n).dropWhile Char.isDigit = [] := by
    rw [Text.dropWhile_eq_nil_iff_all, List.all_eq_true]
    exact digits
  have split := List.takeWhile_append_dropWhile (p := Char.isDigit) (l := Nat.toDigits 10 n)
  rw [none, List.append_nil] at split
  exact ⟨split, none⟩

/-- Digits with or without a sign are a number token without fraction and exponent. -/
theorem NumberText.ofChars?_toDigits (negative : Bool) (n : Nat) :
    ofChars? ((if negative then ['-'] else []) ++ Nat.toDigits 10 n) =
      some ⟨negative, Nat.toDigits 10 n, none, none⟩ := by
  obtain ⟨whole, rest⟩ := span_toDigits n
  have first : ∀ c ∈ (Nat.toDigits 10 n).head?, c ≠ '-' := by
    rintro c member rfl
    exact absurd (Nat.isDigit_of_mem_toDigits (b := 10) (n := n) (by decide) (by decide)
      (List.mem_of_mem_head? member)) (by decide)
  have plain : (Nat.toDigits 10 n).head? ≠ some '0' ∨ (Nat.toDigits 10 n).length = 1 := by
    by_cases zero : n = 0
    · exact .inr (by rw [zero]; rfl)
    · exact .inl (head?_toDigits_ne_zero (Nat.pos_of_ne_zero zero))
  have some := Nat.toDigits_ne_nil (n := n) (b := 10)
  generalize Nat.toDigits 10 n = digits at whole rest first plain some ⊢
  obtain ⟨c, more, rfl⟩ := List.exists_cons_of_ne_nil some
  have single : c = '0' → more = [] := by
    rintro rfl
    simpa using plain
  cases negative with
  | true => simpa [ofChars?, whole, rest] using single
  | false => simpa [ofChars?, whole, rest, first c rfl] using single

/-- The digits of an integer stand for it. -/
theorem NumberText.value?_toDigits (n : Int) (fits : FitsWord n) :
    value? ⟨decide (n < 0), Nat.toDigits 10 n.natAbs, none, none⟩ = some (.integer n fits) := by
  have signed : (if decide (n < 0) = true then -((n.natAbs : Nat) : Int) else n.natAbs) = n := by
    simp only [decide_eq_true_eq]
    split <;> omega
  have nonzero : (decide (n < 0) && ((n.natAbs : Nat) : Int) == 0) = false := by
    simp only [Bool.and_eq_false_iff, decide_eq_false_iff_not, beq_eq_false_iff_ne]
    omega
  simp only [value?, digitsValue_toDigits, nonzero, Option.isNone_none, Bool.and_true, Bool.not_false,
    if_true]
  simp only [signed]
  rw [dif_pos fits]

/-- No number is a word. -/
theorem RawJson.ofBare?_of_ofChars? {cs : List Char} {token : NumberText}
    (number : NumberText.ofChars? cs = some token) : ofBare? cs = some (.number token.value?) := by
  have other : ∀ word ∈ ["null".toList, "true".toList, "false".toList], cs ≠ word := by
    rintro word member rfl
    have unread : ∀ word ∈ ["null".toList, "true".toList, "false".toList],
        NumberText.ofChars? word = none := by decide
    cases number.symm.trans (unread cs member)
  unfold ofBare?
  rw [if_neg (other _ (by simp)), if_neg (other _ (by simp)), if_neg (other _ (by simp)), number]
  rfl

/-! ## Reading back -/

namespace JsonNumber

/-- The number that a text writes as a JSON number. -/
def ofText? (s : String) : Option JsonNumber :=
  (NumberText.ofChars? s.toList).bind NumberText.value?

/-- A number that is read back from its own text. -/
def ReadsBack (n : JsonNumber) : Prop := ofText? n.text = some n

instance (n : JsonNumber) : Decidable n.ReadsBack :=
  inferInstanceAs (Decidable (ofText? n.text = some n))

theorem readsBack_integer (n : Int) (fits : FitsWord n) : (integer n fits).ReadsBack := by
  have token : NumberText.ofChars? (integer n fits).text.toList =
      some ⟨decide (n < 0), Nat.toDigits 10 n.natAbs, none, none⟩ := by
    have signed := NumberText.ofChars?_toDigits (decide (n < 0)) n.natAbs
    rw [text, Int.toList_toString]
    simpa only [decide_eq_true_eq] using signed
  rw [ReadsBack, ofText?, token, Option.bind_some, NumberText.value?_toDigits n fits]

theorem ReadsBack.ofBare? {n : JsonNumber} (back : n.ReadsBack) :
    RawJson.ofBare? n.text.toList = some (.number (some n)) := by
  obtain ⟨token, read, value⟩ := Option.bind_eq_some_iff.mp back
  rw [RawJson.ofBare?_of_ofChars? read, value]

end JsonNumber

end LiveMarkup

import LiveMarkup.Number.Reading

/-!
# How numbers are written

Whatever the layout, a number is written as its sign and a numeral: a digit, further digits and
points, and a signed power of ten where the layout asks for one (`FloatLayout.signed_write`). What
other modules need of the text of a number follows from that alone.
-/

set_option autoImplicit false

namespace LiveMarkup

/-- A number without its sign: a digit, further digits and points, and a power of ten or none. -/
inductive Numeral : List Char → Prop where
  | plain {first : Char} {front : List Char} (hfirst : first.isDigit = true)
      (hfront : ∀ c ∈ front, c.isDigit = true ∨ c = '.') : Numeral (first :: front)
  | scaled {first sign : Char} {front digits : List Char} (hfirst : first.isDigit = true)
      (hfront : ∀ c ∈ front, c.isDigit = true ∨ c = '.') (hsign : sign = '-' ∨ sign = '+')
      (hdigits : ∀ c ∈ digits, c.isDigit = true) :
      Numeral (first :: (front ++ 'e' :: sign :: digits))

/-- A numeral, or a minus and a numeral. -/
def Signed (cs : List Char) : Prop := ∃ body, Numeral body ∧ (cs = body ∨ cs = '-' :: body)

theorem FloatLayout.isDigit_of_mem_digitsOf {n : Nat} {c : Char} (member : c ∈ digitsOf n) :
    c.isDigit = true :=
  Nat.isDigit_of_mem_toDigits (by decide) (by decide) member

/-- The digits of a natural number are a first one and the others. -/
theorem FloatLayout.digitsOf_eq_cons (n : Nat) : ∃ first rest, digitsOf n = first :: rest ∧
    first.isDigit = true ∧ ∀ c ∈ rest, c.isDigit = true := by
  obtain ⟨first, rest, split⟩ := List.exists_cons_of_ne_nil (Nat.toDigits_ne_nil (b := 10) (n := n))
  have digits : ∀ c ∈ first :: rest, c.isDigit = true := by
    rw [← split]
    exact fun c => isDigit_of_mem_digitsOf
  exact ⟨first, rest, split, List.forall_mem_cons.mp digits⟩

theorem numeral_digitsOf (n : Nat) : Numeral (FloatLayout.digitsOf n) := by
  obtain ⟨first, rest, split, leads, digits⟩ := FloatLayout.digitsOf_eq_cons n
  rw [split]
  exact .plain leads fun c member => .inl (digits c member)

theorem FloatLayout.numeral_positional {layout : FloatLayout}
    (marks : ∀ c ∈ layout.wholeMark.toList, c.isDigit = true ∨ c = '.') (d : Decimal) :
    Numeral (layout.positional d) := by
  have zeros : ∀ count, ∀ c ∈ List.replicate count '0', c.isDigit = true := by
    intro count c member
    rw [List.eq_of_mem_replicate member]
    rfl
  unfold positional
  dsimp only
  split
  · obtain ⟨first, rest, split, leads, digits⟩ := digitsOf_eq_cons d.digits
    rw [split, List.cons_append, List.cons_append]
    refine .plain leads ?_
    intro c member
    rcases List.mem_append.mp member with shown | mark
    · rcases List.mem_append.mp shown with digit | zero
      · exact .inl (digits c digit)
      · exact .inl (zeros _ c zero)
    · exact marks c mark
  · -- At least one of the digits, padded with zeros, stands before the point.
    generalize places : (-d.exponent).toNat = k
    have padded : ∀ c ∈ List.replicate (k + 1 - (digitsOf d.digits).length) '0' ++ digitsOf d.digits,
        c.isDigit = true := by
      intro c member
      rcases List.mem_append.mp member with zero | digit
      · exact zeros _ c zero
      · exact isDigit_of_mem_digitsOf digit
    have long : k + 1 ≤ (List.replicate (k + 1 - (digitsOf d.digits).length) '0' ++
        digitsOf d.digits).length := by
      rw [List.length_append, List.length_replicate]
      omega
    generalize List.replicate (k + 1 - (digitsOf d.digits).length) '0' ++ digitsOf d.digits = shown
      at padded long
    cases shown with
    | nil => exact absurd long (by simp)
    | cons first rest =>
      obtain ⟨before, whole⟩ : ∃ before, (first :: rest).length - k = before + 1 :=
        ⟨(first :: rest).length - k - 1, by omega⟩
      rw [whole, List.take_succ_cons, List.cons_append]
      obtain ⟨leads, digits⟩ := List.forall_mem_cons.mp padded
      refine .plain leads ?_
      intro c member
      rcases List.mem_append.mp member with front | behind
      · exact .inl (digits c (List.mem_of_mem_take front))
      · rcases List.mem_cons.mp behind with point | fraction
        · exact .inr point
        · exact .inl (padded c (List.mem_of_mem_drop fraction))

theorem FloatLayout.numeral_scientific (d : Decimal) (power : Int) :
    Numeral (scientific d power) := by
  have sign : (if power < 0 then '-' else '+') = '-' ∨ (if power < 0 then '-' else '+') = '+' := by
    split
    · exact .inl rfl
    · exact .inr rfl
  have scale : ∀ c ∈ digitsOf power.natAbs, c.isDigit = true := fun c => isDigit_of_mem_digitsOf
  obtain ⟨first, rest, split, leads, digits⟩ := digitsOf_eq_cons d.digits
  unfold scientific
  rw [split]
  cases rest with
  | nil => exact @Numeral.scaled first _ [] _ leads (by simp) sign scale
  | cons second rest =>
    refine @Numeral.scaled first _ ('.' :: second :: rest) _ leads ?_ sign scale
    intro c member
    rcases List.mem_cons.mp member with point | digit
    · exact .inr point
    · exact .inl (digits c digit)

/-- A finite number is written as its sign and a numeral. -/
theorem FloatLayout.signed_write {layout : FloatLayout}
    (marks : ∀ c ∈ layout.wholeMark.toList, c.isDigit = true ∨ c = '.') (x : Finite64) :
    Signed (layout.write x).toList := by
  simp only [write, String.toList_ofList]
  generalize shown : ite (x.isZero = true) _ _ = body
  have numeral : Numeral body := by
    rw [← shown]
    split
    · exact numeral_positional marks _
    · split
      · exact numeral_scientific _ _
      · exact numeral_positional marks _
  refine ⟨body, numeral, ?_⟩
  split
  · exact .inr rfl
  · exact .inl rfl

theorem FloatLayout.marks_plain :
    ∀ c ∈ plain.wholeMark.toList, c.isDigit = true ∨ c = '.' := by
  intro c member
  cases member

theorem FloatLayout.marks_exact :
    ∀ c ∈ exact.wholeMark.toList, c.isDigit = true ∨ c = '.' := by
  have chars : exact.wholeMark.toList = ['.', '0'] := rfl
  rw [chars]
  intro c member
  rcases List.mem_cons.mp member with rfl | member
  · exact .inr rfl
  · obtain rfl := List.mem_singleton.mp member
    exact .inl rfl

/-- An integer is written as its sign and the digits of its magnitude. -/
theorem Int.toList_toString (n : Int) :
    (toString n).toList = (if n < 0 then ['-'] else []) ++ Nat.toDigits 10 n.natAbs := by
  cases n with
  | ofNat m => simp [Int.toString_eq_repr, Int.repr, Nat.repr_eq_ofList_toDigits]
  | negSucc m =>
    simp [Int.toString_eq_repr, Int.repr, Nat.repr_eq_ofList_toDigits, String.toList_append,
      Int.negSucc_lt_zero]

theorem signed_toString (n : Int) : Signed (toString n).toList := by
  refine ⟨FloatLayout.digitsOf n.natAbs, numeral_digitsOf n.natAbs, ?_⟩
  rw [Int.toList_toString]
  split
  · exact .inr rfl
  · exact .inl rfl

theorem JsonNumber.signed_text (n : JsonNumber) : Signed n.text.toList := by
  cases n with
  | integer n fits => exact signed_toString n
  | float x => exact FloatLayout.signed_write FloatLayout.marks_exact x

end LiveMarkup

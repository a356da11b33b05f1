import LiveMarkup.Text.Case

/-!
# Lower case of ASCII

Only the capital letters of ASCII have another form in lower case, which is a small letter
(`toLower_cases`). So every other character is the lower-case form of itself alone.
-/

set_option autoImplicit false

namespace LiveMarkup.Text

/-- A character is left as it is, or is a capital letter that becomes a small one. -/
theorem toLower_cases (c : Char) :
    c.toLower = c ∨ c.isUpper = true ∧ c.toLower.isLower = true := by
  by_cases upper : c.val ≥ 'A'.val ∧ c.val ≤ 'Z'.val
  · have lower : c.toLower.val = c.val + 32 := congrArg Char.val (dif_pos upper)
    have range : c.toLower.val ≥ 'a'.val ∧ c.toLower.val ≤ 'z'.val := by
      rw [lower]
      have first : 'A'.val.toNat = 65 := rfl
      have last : 'Z'.val.toNat = 90 := rfl
      have first' : 'a'.val.toNat = 97 := rfl
      have last' : 'z'.val.toNat = 122 := rfl
      grind [UInt32.toNat_add, UInt32.le_iff_toNat_le]
    exact .inr ⟨decide_eq_true upper,
      Bool.and_eq_true_iff.mpr ⟨decide_eq_true range.1, decide_eq_true range.2⟩⟩
  · exact .inl (dif_neg upper)

theorem toLower_of_isLower {c : Char} (lower : c.isLower = true) : c.toLower = c := by
  have first : 'a'.val ≤ c.val := of_decide_eq_true (Bool.and_eq_true_iff.mp lower).1
  refine dif_neg fun upper => ?_
  have last : 'Z'.val < 'a'.val := by decide
  exact absurd (UInt32.le_trans first upper.2) (UInt32.not_le.mpr last)

theorem toLower_toLower (c : Char) : c.toLower.toLower = c.toLower := by
  rcases toLower_cases c with same | ⟨-, lower⟩
  · rw [same, same]
  · exact toLower_of_isLower lower

theorem isAlpha_of_toLower {c : Char} (letter : c.toLower.isAlpha = true) : c.isAlpha = true := by
  rcases toLower_cases c with same | ⟨upper, -⟩
  · rwa [same] at letter
  · exact Bool.or_eq_true_iff.mpr (.inl upper)

theorem isAlpha_toLower {c : Char} (letter : c.isAlpha = true) : c.toLower.isAlpha = true := by
  rcases toLower_cases c with same | ⟨-, lower⟩
  · rwa [same]
  · exact Bool.or_eq_true_iff.mpr (.inr lower)

/-- What is no letter is the lower-case form of itself alone. -/
theorem eq_of_toLower_eq {c d : Char} (same : c.toLower = d) (other : d.isAlpha = false) : c = d := by
  rcases toLower_cases c with kept | ⟨-, lower⟩
  · rw [← same, kept]
  · have letter : d.isAlpha = true := same ▸ Bool.or_eq_true_iff.mpr (.inr lower)
    rw [other] at letter
    cases letter

theorem asciiLower_append (s t : String) :
    asciiLower (s ++ t) = asciiLower s ++ asciiLower t := by
  rw [← String.toList_inj]
  simp only [asciiLower, String.toList_ofList, String.toList_append, List.map_append]

/-- What is in lower case stays as it is. -/
theorem asciiLower_asciiLower (s : String) : asciiLower (asciiLower s) = asciiLower s := by
  simp only [asciiLower, String.toList_ofList, List.map_map, Function.comp_def, toLower_toLower]

end LiveMarkup.Text

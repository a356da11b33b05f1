/-!
# White space

White space is the Unicode property `White_Space`. A text is blank when it holds nothing else, and
trimming drops white space from both ends.
-/

set_option autoImplicit false

namespace LiveMarkup.Text

/-- The code points with the property `White_Space`. -/
def isSpace (c : Char) : Bool :=
  let code := c.toNat
  (9 ≤ code && code ≤ 13) || code == 0x20 || code == 0x85 || code == 0xA0 || code == 0x1680
    || (0x2000 ≤ code && code ≤ 0x200A) || code == 0x2028 || code == 0x2029 || code == 0x202F
    || code == 0x205F || code == 0x3000

/-- The characters without the white space at either end. -/
def trimChars (cs : List Char) : List Char :=
  ((cs.dropWhile isSpace).reverse.dropWhile isSpace).reverse

/-- The text without the white space at either end. -/
def trim (s : String) : String := String.ofList (trimChars s.toList)

/-- Whether a text holds nothing but white space. -/
def isBlank (s : String) : Bool := s.toList.all isSpace

theorem dropWhile_eq_nil_iff_all {α : Type} (p : α → Bool) (l : List α) :
    l.dropWhile p = [] ↔ l.all p := by
  induction l with
  | nil => simp
  | cons a l ih => by_cases h : p a <;> simp [h, ih]

/-- A text is blank iff trimming leaves nothing of it. -/
theorem isBlank_iff_trim_eq_empty (s : String) : isBlank s = true ↔ trim s = "" := by
  unfold isBlank trim trimChars
  rw [← String.toList_inj, String.toList_ofList]
  have empty : ("" : String).toList = [] := rfl
  rw [empty, List.reverse_eq_nil_iff, dropWhile_eq_nil_iff_all]
  constructor
  · intro h
    have none : s.toList.dropWhile isSpace = [] := (dropWhile_eq_nil_iff_all _ _).2 h
    simp [none]
  · intro h
    have rest : (s.toList.dropWhile isSpace).all isSpace := by simpa using h
    by_cases nothing : s.toList.dropWhile isSpace = []
    · exact (dropWhile_eq_nil_iff_all _ _).1 nothing
    · have first := List.head_dropWhile_not isSpace nothing
      have := List.all_eq_true.1 rest _ (List.head_mem nothing)
      simp [this] at first

end LiveMarkup.Text

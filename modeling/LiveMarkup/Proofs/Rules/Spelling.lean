import LiveMarkup.Proofs.Json.Spelling
import LiveMarkup.Rules.Condition

/-!
# Comparisons and spellings of numbers

An order, a truth value and emptiness do not depend on how numbers are spelled. Loose equality does, and
with it everything that looks for an equal value or a text: an integer is neither equal to the float that
has its value nor written like it (`Comparison.respelled_iff`).
-/

set_option autoImplicit false

namespace LiveMarkup

namespace Comparison

variable {actual actual' expected expected' : Json}

theorem order?_respelled (h : actual.Respelled actual') (h' : expected.Respelled expected') :
    order? actual expected = order? actual' expected' := by
  rw [order?, order?, h.number?, h'.number?]

theorem blank_respelled (h : actual.Respelled actual') : blank actual = blank actual' := by
  cases h with
  | same => rfl
  | number => rfl
  | array items => cases items <;> rfl
  | object keys => rw [blank, blank, ← List.isEmpty_map, keys, List.isEmpty_map]

/-- Whether a comparison looks for an equal value or a text. -/
def Textual (comparison : Comparison) : Prop :=
  comparison ∈ [.equals, .notEquals, .contains, .notContains, .oneOf]

instance (comparison : Comparison) : Decidable comparison.Textual :=
  inferInstanceAs (Decidable (_ ∈ [_, _, _, _, _]))

/-- A comparison that looks for neither gives one answer for all spellings. -/
theorem holds_respelled {comparison : Comparison} (plain : ¬ comparison.Textual)
    (h : actual.Respelled actual') (h' : expected.Respelled expected') :
    comparison.holds actual expected = comparison.holds actual' expected' := by
  cases comparison with
  | equals | notEquals | contains | notContains | oneOf => exact absurd (by decide) plain
  | greaterThan | lessThan => simp only [holds, order?_respelled h h']
  | isEmpty | isNotEmpty => simp only [holds, blank_respelled h]
  | checked | unchecked => simp only [holds, h.flag?]
  | unknown => rfl

/-- The number one, spelled as a float. -/
def pointedOne : Json := .number (.float (.ofInt 1))

theorem respelled_one : (Json.ofNat 1).Respelled pointedOne :=
  .number (.pointed (by decide) (by decide))

/-- Comparisons that look for an equal value or a text tell `1` from `1.0`. -/
theorem holds_one {comparison : Comparison} (textual : comparison.Textual) :
    comparison.holds (.ofNat 1) (.ofNat 1) ≠ comparison.holds (.ofNat 1) pointedOne := by
  cases comparison with
  | equals | notEquals | contains | notContains | oneOf => decide +kernel
  | _ => exact absurd textual (by decide)

/-- A comparison gives one answer for all spellings exactly when it looks for neither an equal value nor
a text. -/
theorem respelled_iff (comparison : Comparison) :
    (∀ actual actual' expected expected' : Json, actual.Respelled actual' →
      expected.Respelled expected' →
        comparison.holds actual expected = comparison.holds actual' expected') ↔
      ¬ comparison.Textual := by
  constructor
  · intro same textual
    exact holds_one textual (same _ _ _ _ (.same _) respelled_one)
  · intro plain actual actual' expected expected' h h'
    exact holds_respelled plain h h'

end Comparison

end LiveMarkup

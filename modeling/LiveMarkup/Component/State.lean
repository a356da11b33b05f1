import LiveMarkup.Component.Content
import LiveMarkup.Component.Rule
import LiveMarkup.Text.Space

/-!
# States

A state is one of the alternative views of a component. At any time one of them is active.
-/

set_option autoImplicit false

namespace LiveMarkup

/-- An alternative view with its panel content. A state with a condition can only be entered while
the condition holds. -/
structure State where
  id : String
  label : String
  icon : Option String
  active : Bool
  disabled : Bool
  condition : Option Condition
  content : Content

namespace State

/-- A state that is neither active nor disabled and has no content. -/
def ofId (id label : String) : State := ⟨id, label, none, false, false, none, .text ""⟩

/-- The label, or the id when the label is blank. -/
def displayLabel (state : State) : String :=
  if Text.isBlank state.label then state.id else state.label

/-- The id of the state that filters without results lead to. -/
def noResults : String := "no-results"

/-- The state that starts active: the first one marked active, else the first one. -/
def initial? (states : List State) : Option State :=
  (states.find? State.active).or states.head?

end State

end LiveMarkup

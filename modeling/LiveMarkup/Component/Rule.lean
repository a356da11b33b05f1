import LiveMarkup.Json.Value

/-!
# Conditions and dependency rules

A condition compares the current value of an element with an expected value. A rule watches one
element and, depending on its condition, acts on other elements.
-/

set_option autoImplicit false

namespace LiveMarkup

/-- How an element's value is compared with the expected one. -/
inductive Comparison where
  | equals
  | notEquals
  | contains
  | notContains
  | greaterThan
  | lessThan
  | isEmpty
  | isNotEmpty
  | checked
  | unchecked
  | oneOf
  | unknown
deriving DecidableEq, Inhabited

/-- The browser event that makes a rule look at its element. -/
inductive TriggerEvent where
  | change
  | input
  | click
deriving DecidableEq, Inhabited

/-- What an action does to its target. -/
inductive Effect where
  | show
  | hide
  | enable
  | disable
  | addClass
  | removeClass
  | setValue
  | setText
  | setMarkup
  | focus
  | blur
  | unknown
deriving DecidableEq, Inhabited

namespace Comparison

/-- Every comparison that has a name of its own. -/
def all : List Comparison :=
  [.equals, .notEquals, .contains, .notContains, .greaterThan, .lessThan, .isEmpty, .isNotEmpty,
    .checked, .unchecked, .oneOf]

/-- The name of a comparison in a specification. -/
def name : Comparison → String
  | .equals => "equals"
  | .notEquals => "notEquals"
  | .contains => "contains"
  | .notContains => "notContains"
  | .greaterThan => "greaterThan"
  | .lessThan => "lessThan"
  | .isEmpty => "isEmpty"
  | .isNotEmpty => "isNotEmpty"
  | .checked => "checked"
  | .unchecked => "unchecked"
  | .oneOf => "in"
  | .unknown => "unknown"

end Comparison

namespace TriggerEvent

/-- Every event. -/
def all : List TriggerEvent := [.change, .input, .click]

/-- The name of an event. -/
def name : TriggerEvent → String
  | .change => "change"
  | .input => "input"
  | .click => "click"

end TriggerEvent

namespace Effect

/-- Every effect that has a name of its own. -/
def all : List Effect :=
  [.show, .hide, .enable, .disable, .addClass, .removeClass, .setValue, .setText, .setMarkup,
    .focus, .blur]

/-- The name of an effect in a specification. -/
def name : Effect → String
  | .show => "show"
  | .hide => "hide"
  | .enable => "enable"
  | .disable => "disable"
  | .addClass => "addClass"
  | .removeClass => "removeClass"
  | .setValue => "setValue"
  | .setText => "setText"
  | .setMarkup => "setHTML"
  | .focus => "focus"
  | .blur => "blur"
  | .unknown => "unknown"

end Effect

/-- A comparison of an element's value with an expected value. -/
structure Condition where
  element : String
  comparison : Comparison
  expected : Json

/-- The element a rule watches, and the condition on its value. -/
structure Trigger where
  element : String
  event : TriggerEvent
  comparison : Comparison
  expected : Json

/-- An effect on one target element. -/
structure Action where
  target : String
  effect : Effect
  value : Option Json

/-- A rule; of the rules of one element those of higher priority come first. -/
structure Rule where
  id : String
  priority : Int
  trigger : Trigger
  actions : List Action

namespace Rule

/-- A rule with one action, named after its verb, target and trigger. -/
def single (verb : String) (effect : Effect) (element : String) (comparison : Comparison)
    (expected : Json) (target : String) : Rule where
  id := verb ++ "-" ++ target ++ "-when-" ++ element
  priority := 0
  trigger := ⟨element, .change, comparison, expected⟩
  actions := [⟨target, effect, none⟩]

/-- Shows the target while the condition holds. -/
def showWhen : String → Comparison → Json → String → Rule := single "show" .show

/-- Hides the target while the condition holds. -/
def hideWhen : String → Comparison → Json → String → Rule := single "hide" .hide

/-- A rule without actions. -/
def ofTrigger (id : String) (trigger : Trigger) : Rule := ⟨id, 0, trigger, []⟩

/-- The rule with one more action at the end. -/
def withAction (rule : Rule) (action : Action) : Rule :=
  { rule with actions := rule.actions ++ [action] }

end Rule

end LiveMarkup

import LiveMarkup.Component.Basic

/-!
# Specifications

A specification is the written description of one component: its parts before they are checked, and
the theme settings that go with them.
-/

set_option autoImplicit false

namespace LiveMarkup

/-- The description of one component. -/
structure Spec where
  id : String
  states : Option (List State)
  data : Option Dataset
  rules : Option (List Rule)
  options : Options
  /-- Theme settings, understood by the theme. -/
  theme : Option Json

/-- The component that a specification describes, or its first fault. -/
def Spec.component (spec : Spec) : Except ComponentError Component :=
  Component.make spec.id (Inputs.ofParts spec.states spec.data spec.rules) spec.options

end LiveMarkup

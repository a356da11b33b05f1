import LiveMarkup.Component.Dataset
import LiveMarkup.Component.Options
import LiveMarkup.Component.State

/-!
# Components

A component is an id with up to three inputs (states, a dataset, rules) and options that belong
together. `Component.make` checks them and reports the first fault; every component that exists has
passed the check.
-/

set_option autoImplicit false

namespace LiveMarkup

/-- Which of the three inputs a component carries. -/
structure Inputs where
  states : Option (List State)
  data : Option Dataset
  rules : Option (List Rule)

namespace Inputs

/-- The inputs that are given and not empty. -/
def ofParts (states : Option (List State)) (data : Option Dataset) (rules : Option (List Rule)) :
    Inputs where
  states := states.filter fun states => !states.isEmpty
  data := data.filter fun data => !data.isEmpty
  rules := rules.filter fun rules => !rules.isEmpty

/-- The presence and sizes of the inputs. -/
def facts (inputs : Inputs) : Facts where
  hasStates := inputs.states.isSome
  hasData := inputs.data.isSome
  hasRules := inputs.rules.isSome
  hasRenderer := inputs.data.any fun data => data.options.itemTemplate.isSome
  stateCount := (inputs.states.getD []).length
  dataSize := (inputs.data.map fun data => data.items.length).getD 0
  ruleCount := (inputs.rules.getD []).length
  paginationRequested := inputs.data.any fun data => data.options.pagination

/-- The pattern of the inputs, or the one that the options force on them. A forced name that no
pattern has stands for the fallback pattern. -/
def resolve (inputs : Inputs) (options : Options) : Detected :=
  let detected := inputs.facts.detect options.thresholds
  match options.forcePattern with
  | none => detected
  | some name => { detected with pattern := (Pattern.ofName? name).getD options.fallbackPattern }

end Inputs

/-- What is wrong with a field. -/
inductive FieldFault where
  | blankName
  | rangeMissing
  | rangeReversed
  | rangeOnOther (kind : FieldKind)
deriving DecidableEq

/-- What is wrong with a component. -/
inductive ComponentError where
  | emptyId
  | emptyStateId (index : Nat)
  | duplicateStateId (id : String)
  | unknownStateHook (state : String)
  | invalidField (field : String) (fault : FieldFault)
  | missingTrigger (rule : String)
deriving DecidableEq

namespace FieldFault

/-- What is said about the fault. -/
def message : FieldFault → String
  | .blankName => "name must not be empty"
  | .rangeMissing => "range fields require min/max"
  | .rangeReversed => "range min exceeds max"
  | .rangeOnOther kind => "only range fields may carry a range (type is " ++ kind.name ++ ")"

end FieldFault

namespace ComponentError

/-- What is said about the error. -/
def message : ComponentError → String
  | .emptyId => "component id must not be empty"
  | .emptyStateId index => "state id must not be empty (state #" ++ toString index ++ ")"
  | .duplicateStateId id => "duplicate state id '" ++ id ++ "'"
  | .unknownStateHook state => "state hook references unknown state '" ++ state ++ "'"
  | .invalidField field fault => "invalid field '" ++ field ++ "': " ++ fault.message
  | .missingTrigger rule => "rule '" ++ rule ++ "' has no trigger component id"

end ComponentError

/-- The first fault of a field: it needs a name, and it carries a range iff it is a range field,
with bounds in order. -/
def Field.fault? (field : Field) : Option FieldFault :=
  if Text.isBlank field.name then some .blankName
  else match field.kind, field.range with
    | .range, none => some .rangeMissing
    | .range, some range => if range.max.less range.min then some .rangeReversed else none
    | other, some _ => some (.rangeOnOther other)
    | _, none => none

namespace Inputs

/-- The first state whose id is blank or repeats one of the ids before it. -/
def stateError? (seen : List String) (index : Nat) : List State → Option ComponentError
  | [] => none
  | state :: rest =>
    if Text.isBlank state.id then some (.emptyStateId index)
    else if seen.contains state.id then some (.duplicateStateId state.id)
    else stateError? (seen ++ [state.id]) (index + 1) rest

/-- The first fault of the inputs: states, then hooks of states that do not exist, then fields, then
rules. -/
def error? (inputs : Inputs) (options : Options) : Option ComponentError :=
  let states := inputs.states.getD []
  let ids := states.map State.id
  let schema := (inputs.data.map Dataset.schema).getD []
  (stateError? [] 0 states)
    |>.or ((options.hooks.stateHooks.keys.find? fun id => !ids.contains id).map .unknownStateHook)
    |>.or (schema.findSome? fun field => field.fault?.map (.invalidField field.name))
    |>.or (((inputs.rules.getD []).find? fun rule => Text.isBlank rule.trigger.element).map
      fun rule => .missingTrigger rule.id)

end Inputs

/-- The first fault of a component, its id before its inputs. -/
def componentError? (id : String) (inputs : Inputs) (options : Options) : Option ComponentError :=
  if Text.isBlank id then some .emptyId else inputs.error? options

/-- A component that has passed the check. -/
structure Component where
  id : String
  inputs : Inputs
  options : Options
  accepted : componentError? id inputs options = none

namespace Component

/-- The component of these parts, or its first fault. -/
def make (id : String) (inputs : Inputs) (options : Options) : Except ComponentError Component :=
  match h : componentError? id inputs options with
  | none => .ok ⟨id, inputs, options, h⟩
  | some error => .error error

/-- The pattern of the component and the facts behind it. -/
def detected (component : Component) : Detected := component.inputs.resolve component.options

/-- The pattern of the component. -/
def pattern (component : Component) : Pattern := component.detected.pattern

/-- The states, none when there are no states. -/
def states (component : Component) : List State := component.inputs.states.getD []

/-- The dataset. -/
def data (component : Component) : Option Dataset := component.inputs.data

/-- The rules, none when there are no rules. -/
def rules (component : Component) : List Rule := component.inputs.rules.getD []

/-- The state that starts active. -/
def initialState (component : Component) : Option State := State.initial? component.states

end Component

end LiveMarkup

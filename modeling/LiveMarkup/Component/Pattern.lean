import LiveMarkup.Text.Case
import LiveMarkup.Text.Space

/-!
# Patterns

A component is classified by which of its three inputs (states, data, rules) are present and how
large they are. The pattern decides what the client has to do; the optimizations are advice and never
change the pattern.
-/

set_option autoImplicit false

namespace LiveMarkup

/-- The classes of components. -/
inductive Pattern where
  | preRenderedStates
  | dynamicStates
  | clientFilterable
  | serverFilterable
  | dependencyOnly
  | statefulData
  | filterableStates
  | dependentStates
  | dependentData
  | complete
  | empty
deriving DecidableEq

instance : Inhabited Pattern := ⟨.empty⟩

namespace Pattern

/-- Every pattern. -/
def all : List Pattern :=
  [.preRenderedStates, .dynamicStates, .clientFilterable, .serverFilterable, .dependencyOnly,
    .statefulData, .filterableStates, .dependentStates, .dependentData, .complete, .empty]

/-- The name of a pattern. -/
def name : Pattern → String
  | .preRenderedStates => "pre-rendered-states"
  | .dynamicStates => "dynamic-states"
  | .clientFilterable => "client-filterable"
  | .serverFilterable => "server-filterable"
  | .dependencyOnly => "dependency-only"
  | .statefulData => "stateful-data"
  | .filterableStates => "filterable-states"
  | .dependentStates => "dependent-states"
  | .dependentData => "dependent-data"
  | .complete => "complete"
  | .empty => "empty"

/-- Whether components of the pattern switch between states. -/
def usesStates : Pattern → Bool
  | .preRenderedStates | .dynamicStates | .statefulData | .filterableStates | .dependentStates
  | .complete => true
  | _ => false

/-- Whether components of the pattern filter records. -/
def usesData : Pattern → Bool
  | .clientFilterable | .serverFilterable | .statefulData | .filterableStates | .dependentData
  | .complete => true
  | _ => false

/-- Whether components of the pattern evaluate rules. -/
def usesRules : Pattern → Bool
  | .dependencyOnly | .dependentStates | .dependentData | .complete => true
  | _ => false

/-- The pattern with a name, white space around it and ASCII letter case aside. -/
def ofName? (s : String) : Option Pattern :=
  let wanted := Text.asciiLower (Text.trim s)
  all.find? fun pattern => pattern.name == wanted

/-- What is said of a name that no pattern has. -/
def unknownMessage (s : String) : String := "unknown pattern '" ++ s ++ "'"

end Pattern

/-- Advice for the client. -/
inductive Optimization where
  | pagination
  | lazyStateLoading
  | ruleGrouping
  | stateDataCoordination
  | ruleCoordination
deriving DecidableEq

namespace Optimization

/-- Every optimization. -/
def all : List Optimization :=
  [.pagination, .lazyStateLoading, .ruleGrouping, .stateDataCoordination, .ruleCoordination]

/-- The name of an optimization. -/
def name : Optimization → String
  | .pagination => "pagination"
  | .lazyStateLoading => "lazy-state-loading"
  | .ruleGrouping => "rule-grouping"
  | .stateDataCoordination => "state-data-coordination"
  | .ruleCoordination => "rule-coordination"

end Optimization

/-- The sizes up to which the cheaper patterns are chosen. -/
structure Thresholds where
  /-- States up to this count are rendered up front. -/
  prerenderedStates : Nat
  /-- Datasets up to this size are filtered in memory. -/
  clientItems : Nat
  /-- Datasets up to this size may accompany states. -/
  statefulItems : Nat
  /-- Datasets up to this size need no pages. -/
  paginationItems : Nat
  /-- Rules up to this count need no grouping. -/
  groupedRules : Nat
deriving DecidableEq

/-- The thresholds of a component that gives none. -/
def Thresholds.standard : Thresholds := ⟨10, 50, 100, 500, 20⟩

/-- Which inputs a component has and how large they are. -/
structure Facts where
  hasStates : Bool
  hasData : Bool
  hasRules : Bool
  hasRenderer : Bool
  stateCount : Nat
  dataSize : Nat
  ruleCount : Nat
  paginationRequested : Bool
deriving DecidableEq

/-- Facts with the pattern and the optimizations that follow from them. -/
structure Detected where
  facts : Facts
  pattern : Pattern
  optimizations : List Optimization
deriving DecidableEq

namespace Facts

/-- The cheapest pattern that covers the inputs. -/
def pattern (facts : Facts) (limits : Thresholds) : Pattern :=
  match facts.hasStates, facts.hasData, facts.hasRules with
  | true, true, true => .complete
  | true, true, false =>
    if facts.dataSize > limits.statefulItems then .filterableStates else .statefulData
  | true, false, true => .dependentStates
  | false, true, true => .dependentData
  | true, false, false =>
    if facts.stateCount ≤ limits.prerenderedStates then .preRenderedStates else .dynamicStates
  | false, true, false =>
    if facts.dataSize ≤ limits.clientItems then .clientFilterable else .serverFilterable
  | false, false, true => .dependencyOnly
  | false, false, false => .empty

/-- Whether an optimization applies. -/
def suggests (facts : Facts) (limits : Thresholds) : Optimization → Bool
  | .pagination =>
    facts.hasData && (facts.dataSize > limits.paginationItems || facts.paginationRequested)
  | .lazyStateLoading => facts.hasStates && facts.stateCount > limits.prerenderedStates
  | .ruleGrouping => facts.hasRules && facts.ruleCount > limits.groupedRules
  | .stateDataCoordination => facts.hasStates && facts.hasData
  | .ruleCoordination => facts.hasRules && (facts.hasStates || facts.hasData)

/-- The pattern and the optimizations that the facts lead to. -/
def detect (facts : Facts) (limits : Thresholds) : Detected :=
  ⟨facts, facts.pattern limits, Optimization.all.filter (facts.suggests limits)⟩

end Facts

/-- Whether an optimization is advised. -/
def Detected.has (detected : Detected) (optimization : Optimization) : Bool :=
  detected.optimizations.contains optimization

end LiveMarkup

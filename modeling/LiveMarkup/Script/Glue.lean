import LiveMarkup.Component.Basic
import LiveMarkup.Markup.Structure
import LiveMarkup.Script.Minify
import LiveMarkup.Script.Printer

/-!
# Glue scripts

The script of one component. It defines a controller class whose `setup` creates the managers that
the pattern needs and connects them, and starts an instance once the document is there.
-/

set_option autoImplicit false

namespace LiveMarkup.Script.Glue

/-- An identifier of the browser or of the runtime. -/
def named (name : String) (valid : isIdentifier name = true) : Identifier := ⟨name, valid⟩

/-- The namespace of the runtime. -/
def runtime : Identifier := named "Strata" (by decide)

/-- The parameter of listeners. -/
def detail : Identifier := named "detail" (by decide)

/-- The constant that holds filters. -/
def filters : Identifier := named "filters" (by decide)

/-- The constant that holds the instance. -/
def controller : Identifier := named "controller" (by decide)

/-- The constant that holds the starting function. -/
def start : Identifier := named "start" (by decide)

/-- The browser's document. -/
def document : Expr := .ident (named "document" (by decide))

/-- The manager of states. -/
def states : Expr := .member .this (named "states" (by decide))

/-- The manager of data. -/
def data : Expr := .member .this (named "data" (by decide))

/-- The manager of rules. -/
def rules : Expr := .member .this (named "rules" (by decide))

/-- A class of the runtime. -/
def runtimeClass (name : Identifier) : Expr := .member (.ident runtime) name

/-- Calls the listener on notifications of this name. -/
def listen (event : String) (body : List Stmt) : Stmt :=
  .expr (Expr.method .this (named "on" (by decide)) [.str event, .arrow [detail] body])

/-- Creates the manager of states. -/
def createStates (lazyPanels : Bool) : Stmt :=
  .expr (.assign states (.construct (runtimeClass (named "StatesManager" (by decide)))
    [.this, .object [("lazy", .bool lazyPanels)]]))

/-- Creates the manager of data. -/
def createData : Stmt :=
  .expr (.assign data (.construct (runtimeClass (named "DataManager" (by decide))) [.this]))

/-- Creates the manager of rules. -/
def createRules : Stmt :=
  .expr (.assign rules (.construct (runtimeClass (named "RulesManager" (by decide))) [.this]))

/-- Hands the states to the rules. -/
def delegateStates : Stmt :=
  .expr (Expr.method rules (named "delegateStates" (by decide)) [states])

/-- Applies the filters kept for a state on entering it. -/
def applyStateFilters : Stmt :=
  listen "state-change" [
    .const filters (.index (.member .this (named "stateFilters" (by decide)))
      (.member (.ident detail) (named "to" (by decide)))),
    .branch (.ident filters)
      [.expr (Expr.method data (named "apply" (by decide)) [.ident filters])] []]

/-- Enters the state for empty results when a filter leaves nothing. -/
def enterNoResults (state : String) : Stmt :=
  listen "filter" [
    .branch
      (.binary
        (.binary (.member (.ident detail) (named "visible" (by decide))) .strictEqual
          (.num (.finite .zero)))
        .and (Expr.method states (named "has" (by decide)) [.str state]))
      [.expr (Expr.method states (named "switchTo" (by decide)) [.str state])] []]

/-- Evaluates every rule. -/
def evaluateRules : Stmt := .expr (Expr.method rules (named "evaluateAll" (by decide)) [])

/-- The body of a component's `setup`. -/
def setupBody (component : Component) : List Stmt :=
  let pattern := component.pattern
  (if pattern.usesStates then [createStates (Structure.lazyPanels component)] else [])
    ++ (if pattern.usesData then [createData] else [])
    ++ (if pattern.usesRules then [createRules] else [])
    ++ (if pattern.usesStates && pattern.usesRules then [delegateStates] else [])
    ++ (if pattern.usesStates && pattern.usesData then [applyStateFilters] else [])
    ++ (if pattern = .complete then [enterNoResults State.noResults] else [])
    ++ (if pattern.usesRules then [evaluateRules] else [])

/-- Gives up when the runtime is not there. -/
def guard (id : String) : Stmt :=
  .branch
    (.not (.binary (.ident runtime) .and (runtimeClass (named "Controller" (by decide)))))
    [.expr (Expr.method (.ident (named "console" (by decide))) (named "error" (by decide))
        [.str "[strata]", .str "runtime not loaded for", .str id]),
      .return none] []

/-- The function that creates and starts the instance. -/
def starter (id : String) : Expr :=
  .arrow [] [
    .const controller (.construct (.ident (Identifier.className id)) [.str id]),
    .expr (Expr.method (.ident controller) (named "init" (by decide)) [])]

/-- Starts the instance once the document is there. -/
def schedule : Stmt :=
  .branch
    (.binary (.member document (named "readyState" (by decide))) .strictEqual (.str "loading"))
    [.expr (Expr.method document (named "addEventListener" (by decide))
      [.str "DOMContentLoaded", .ident start])]
    [.expr (.call (.ident start) [])]

/-- The statements of a component's script. -/
def program (component : Component) : List Stmt := [.isolated [
  .const runtime (.member (.ident (named "window" (by decide))) runtime),
  guard component.id,
  .classDef (Identifier.className component.id)
    (some (runtimeClass (named "Controller" (by decide))))
    [.mk (named "setup" (by decide)) [] (setupBody component)],
  .const start (starter component.id),
  schedule]]

/-- The readable script of a component. -/
def generate (component : Component) : String := print (program component)

/-- The script of a component, minified if its options say so. -/
def script (component : Component) : String :=
  if component.options.minify then minifyOrKeep (generate component) else generate component

end LiveMarkup.Script.Glue

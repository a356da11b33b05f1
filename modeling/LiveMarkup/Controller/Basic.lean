import LiveMarkup.Controller.DataView
import LiveMarkup.Controller.Surroundings
import LiveMarkup.Rules.Index

/-!
# Controllers

A controller runs a component on a document: it loads scripts, switches states, filters records and
applies rules, calling hooks and reporting what happened. A `Controller` is what stays fixed during a
run and a `Session` what changes; every operation is a function on sessions.

Entering a state applies the filters kept for it, and filters that leave no record may enter the
state `no-results`, which may apply filters in turn. The second entry leaves that state active, so it
ends there, and `switchTo` is built in two layers without recursion.
-/

set_option autoImplicit false

namespace LiveMarkup

/-- A component with its surroundings, and the filter inputs that entering a state repeats. -/
structure Controller where
  component : Component
  hooks : Hooks
  loader : Loader
  stateFilters : StringMap Fields

/-- Why a controller did not start. -/
inductive StartFailure where
  | containerMissing (id : String)
  | script (error : LoadError)
deriving DecidableEq

/-- What is said about the failure. -/
def StartFailure.message : StartFailure → String
  | .containerMissing id => "container '" ++ id ++ "' not found"
  | .script error => error.message

/-- The phases of a controller's life. -/
inductive Lifecycle where
  | uninitialized
  | loadingExternals
  | initializing
  | ready
  | failed (failure : StartFailure)
  | destroyed
deriving DecidableEq

/-- The name of a phase. -/
def Lifecycle.name : Lifecycle → String
  | .uninitialized => "uninitialized"
  | .loadingExternals => "loading-externals"
  | .initializing => "initializing"
  | .ready => "ready"
  | .failed _ => "error"
  | .destroyed => "destroyed"

/-- A report of what happened. -/
structure Notification where
  name : String
  detail : Json

/-- What a switch of states came to. -/
inductive SwitchOutcome where
  | switched (previous : Option String) (next : String)
  | ignored
  | cancelled
deriving DecidableEq

/-- The states of a component: which one is active. -/
structure StatesView where
  active : Option String
deriving DecidableEq

/-- A state entered: the document it was entered in, the state left, and the state itself. -/
structure Entry where
  document : Document
  previous : Option String
  next : String

/-- The changing part of a run. -/
structure Session where
  lifecycle : Lifecycle
  document : Document
  registry : Registry
  states : Option StatesView
  data : Option DataView
  rules : Option RuleIndex
  /-- The states entered so far. -/
  entries : List Entry
  notifications : List Notification
  /-- The hook calls so far. -/
  calls : List HookCall
  /-- The scripts asked for so far. -/
  requests : List ExternalScript
  /-- The objects torn down so far. -/
  tornDown : List (String × ExternalObject)

namespace Session

/-- A session before its start. -/
def start (component : Component) (doc : Document) : Session where
  lifecycle := .uninitialized
  document := doc
  registry := .reserve component.options.externalRegistry
  states := none
  data := none
  rules := none
  entries := []
  notifications := []
  calls := []
  requests := []
  tornDown := []

/-- Adds a report. -/
def notify (session : Session) (name : String) (detail : Fields) : Session :=
  { session with notifications := session.notifications ++ [⟨name, .object detail⟩] }

/-- The active state. -/
def activeState (session : Session) : Option String := session.states.bind StatesView.active

/-- How many records match. -/
def visibleCount (session : Session) : Option Nat := session.data.map DataView.visibleCount

end Session

namespace Controller

/-- Calls the hook of a point, if there is one; false only for a cancel that is honoured. -/
def callHook (c : Controller) (session : Session) (point : HookPoint) (context : Fields) :
    Session × Bool :=
  if c.hooks.bound point then
    let call : HookCall := ⟨point, .object context⟩
    let outcome := c.hooks.respond session.calls call
    ({ session with calls := session.calls ++ [call] },
      !(outcome == .cancel && point.canCancel))
  else (session, true)

/-- Asks for a script. -/
def load (c : Controller) (session : Session) (script : ExternalScript) :
    Session × Option LoadError :=
  ({ session with requests := session.requests ++ [script] }, c.loader session.requests script)

/-- Asks for one more script and keeps the first error. -/
def loadNext (c : Controller) (asked : Session × Option LoadError) (script : ExternalScript) :
    Session × Option LoadError :=
  let (session, error) := c.load asked.1 script
  (session, asked.2.or error)

/-- Asks for scripts one after another and keeps the first error. -/
def loadAll (c : Controller) (session : Session) (scripts : List ExternalScript) :
    Session × Option LoadError :=
  scripts.foldl c.loadNext (session, none)

/-- The declared state of an id. -/
def state? (c : Controller) (id : String) : Option State :=
  c.component.states.find? fun state => state.id == id

/-- Whether a state can be entered: it is declared, not disabled, and its condition holds. -/
def available (c : Controller) (doc : Document) (id : String) : Bool :=
  (c.state? id).any fun state =>
    !state.disabled && state.condition.all fun condition =>
      condition.comparison.holds (doc.value condition.element) condition.expected

/-- Shows or hides a state's panel and marks its tab. -/
def showState (c : Controller) (doc : Document) (id : String) (shown : Bool) : Document :=
  (doc.setVisible (panelId c.component.id id) shown).setSelected (tabId c.component.id id) shown

/-- Applies filters and shows their result; the number of matching records is the answer. -/
def applyFilters (source : DataSource) (filters : FilterSet) (session : Session) : Session × Nat :=
  let view := DataView.refilter filters source session.document
  ({ session with data := some view, document := view.render source session.document },
    view.visibleCount)

/-- What follows on filtering: the report, the hook, and `onEmpty` when no record is left and the
component has a state for that. -/
def afterFilter (c : Controller) (onEmpty : Session → Session) (session : Session)
    (field value : Json) (visible : Nat) : Session :=
  let total := ((session.data.bind fun _ => c.component.source?).map fun s => s.items.length).getD 0
  let session := session.notify "filter"
    [("visible", Json.ofNat visible), ("total", Json.ofNat total)]
  let (session, _) := c.callHook session .afterFilter
    [("field", field), ("value", value), ("visible", Json.ofNat visible),
      ("total", Json.ofNat total)]
  if visible = 0 ∧ c.component.pattern = .complete ∧ session.states.isSome
      ∧ (c.state? State.noResults).isSome then
    onEmpty session
  else session

/-- Repeats the filter inputs kept for a state. -/
def applyStateFilters (c : Controller) (onEmpty : Session → Session) (session : Session)
    (id : String) : Session :=
  match c.stateFilters.find? id, session.data, c.component.source? with
  | some updates, some view, some source =>
    let (session, visible) := applyFilters source (DataView.inputs view.filters updates) session
    c.afterFilter onEmpty session .null (.object updates) visible
  | _, _, _ => session

/-- What a switch of states tells of itself. -/
def switchContext (previous : Option String) (next : String) : Fields :=
  [("from", Json.ofOption previous), ("to", .string next)]

/-- Puts a state in the place of the active one: its panel is shown instead, its hook is called and
the change is reported. -/
def enter (c : Controller) (session : Session) (previous : Option String) (id : String) : Session :=
  let hidden := previous.elim session.document fun previous =>
    c.showState session.document previous false
  let session : Session :=
    { session with
      document := c.showState hidden id true
      states := some ⟨some id⟩
      entries := session.entries ++ [⟨session.document, previous, id⟩] }
  let (session, _) := c.callHook session (.state id) (switchContext previous id)
  session.notify "state-change" (switchContext previous id)

/-- Enters a state that is not active, or does nothing. -/
def switchWith (c : Controller) (onEmpty : Session → Session) (session : Session) (id : String) :
    Session × SwitchOutcome :=
  match session.states with
  | none => (session, .ignored)
  | some view =>
    if ¬(session.lifecycle = .ready ∨ session.lifecycle = .initializing) then (session, .ignored)
    else if view.active = some id ∨ !c.available session.document id then (session, .ignored)
    else
      let context := switchContext view.active id
      let (session, proceed) := c.callHook session .beforeStateChange context
      if !proceed then (session, .cancelled)
      else
        let session := c.applyStateFilters onEmpty (c.enter session view.active id) id
        let (session, _) := c.callHook session .afterStateChange context
        (session, .switched view.active id)

/-- Enters the state for empty results. Its own filters cannot lead further, because it is active by
then. -/
def enterNoResults (c : Controller) (session : Session) : Session :=
  (c.switchWith id session State.noResults).1

/-- Enters a state. -/
def switchTo (c : Controller) (session : Session) (id : String) : Session × SwitchOutcome :=
  c.switchWith c.enterNoResults session id

/-- Applies new filters to the data, if there are any, and reports them. -/
def filterWith (c : Controller) (session : Session) (change : FilterSet → FilterSet)
    (field value : Json) : Session × Option Nat :=
  match session.lifecycle, session.data, c.component.source? with
  | .ready, some view, some source =>
    let (session, visible) := applyFilters source (change view.filters) session
    (c.afterFilter c.enterNoResults session field value visible, some visible)
  | _, _, _ => (session, none)

/-- An input of one filter; the number of matching records is the answer. -/
def updateFilter (c : Controller) (session : Session) (field : String) (raw : Json) :
    Session × Option Nat :=
  c.filterWith session (fun filters => filters.update field raw) (.string field) raw

/-- Clears every filter; the number of matching records is the answer. -/
def clearFilters (c : Controller) (session : Session) : Session × Option Nat :=
  c.filterWith session FilterSet.clear .null .null

/-- Turns to a page. -/
def setPage (c : Controller) (session : Session) (page : Nat) : Session :=
  match session.data, c.component.source? with
  | some view, some source =>
    let view := view.turnTo source page
    { session with data := some view, document := view.render source session.document }.notify
      "page-change" [("page", Json.ofNat view.page)]
  | _, _ => session

/-- Changes one element as an action says. -/
def applyEffect (effect : Effect) (value : Option Json) (element : Element) : Element :=
  let text := (value.map Json.text).getD ""
  match effect with
  | .show => { element with visible := true }
  | .hide => { element with visible := false }
  | .enable => { element with enabled := true }
  | .disable => { element with enabled := false }
  | .addClass => { element with classes := element.classes.insert text () }
  | .removeClass => { element with classes := element.classes.erase text }
  | .setValue => { element with value := value.getD .null }
  | .setText => { element with text := text }
  | .setMarkup => { element with markup := text }
  | .focus => { element with focused := true }
  | .blur => { element with focused := false }
  | .unknown => element

/-- Does one planned action. Showing a state enters it, and hiding the active state returns to the
initial one; every other action changes its target element. -/
def execute (c : Controller) (session : Session) (action : PlannedAction) : Session :=
  let isState := session.states.isSome && (c.state? action.target).isSome
  if isState ∧ action.effect = .show then (c.switchTo session action.target).1
  else if isState ∧ action.effect = .hide then
    match c.component.initialState with
    | some initial =>
      if session.activeState = some action.target ∧ initial.id ≠ action.target then
        (c.switchTo session initial.id).1
      else session
    | none => session
  else
    { session with
      document := session.document.modify action.target (applyEffect action.effect action.value) }

/-- Does what the rules of an element plan for its present value. -/
def evaluateTrigger (c : Controller) (session : Session) (element : String) : Session :=
  match session.rules with
  | none => session
  | some index =>
    let plan := index.plan element (session.document.value element)
    if plan.isEmpty then session
    else (plan.foldl c.execute session).notify "rules-applied"
      [("trigger", .string element), ("actions", Json.ofNat plan.length)]

/-- Sets an element's value, as a user would. -/
def setValue (c : Controller) (session : Session) (element : String) (value : Json) : Session :=
  let session := { session with
    document := session.document.put element fun e => { e with value := value } }
  if session.lifecycle = .ready then c.evaluateTrigger session element else session

/-- Gives a session its states, its data and its rules, as far as the pattern uses them. -/
def equip (c : Controller) (session : Session) : Session :=
  let pattern := c.component.pattern
  { session with
    states := if pattern.usesStates then some ⟨c.component.initialState.map State.id⟩ else none
    data := if pattern.usesData then c.component.source?.map DataView.ofSource else none
    rules := if pattern.usesRules then some (.ofRules c.component.rules) else none }

/-- Equips a session and evaluates every rule. -/
def setUp (c : Controller) (session : Session) : Session :=
  let session := c.equip session
  ((session.rules.map RuleIndex.triggers).getD []).foldl c.evaluateTrigger session

/-- Starts the component behind its required scripts, unless the first hook cancels that. -/
def launch (c : Controller) (session : Session) : Session :=
  let (session, proceed) := c.callHook { session with lifecycle := .initializing } .beforeInit []
  if !proceed then { session with lifecycle := .uninitialized }
  else
    let session := { c.setUp session with lifecycle := .ready }
    let (session, _) := c.callHook session .afterInit []
    let session := session.notify "ready" [("pattern", .string c.component.pattern.name)]
    (c.loadAll session (c.component.options.externalScripts.filter fun s => !s.required)).1

/-- Starts a session: the container must be there and every required script must load. -/
def init (c : Controller) (session : Session) : Session :=
  if session.lifecycle ≠ .uninitialized then session
  else if !session.document.contains c.component.id then
    { session with lifecycle := .failed (.containerMissing c.component.id) }
  else
    let required := c.component.options.externalScripts.filter ExternalScript.required
    match c.loadAll { session with lifecycle := .loadingExternals } required with
    | (session, some error) =>
      { session with lifecycle := .failed (.script error) }.notify "error"
        [("error", .string error.message)]
    | (session, none) => c.launch session

/-- Registers an object under a reserved name. -/
def register (session : Session) (name : String) (object : ExternalObject) :
    Session × Except RegistryError Unit :=
  match session.registry.register name object with
  | .ok registry =>
    ({ session with registry := registry }.notify "external-registered" [("name", .string name)],
      .ok ())
  | .error error => (session, .error error)

/-- Ends a session: every object that can be torn down is, once. The number of them is the answer. -/
def destroy (c : Controller) (session : Session) : Session × Nat :=
  if session.lifecycle = .destroyed then (session, 0)
  else
    let objects := session.registry.destroyable
    let session : Session :=
      { session with
        lifecycle := .destroyed
        registry := .closed
        tornDown := session.tornDown ++ objects
        states := none
        data := none
        rules := none }
    let session := session.notify "destroy" [("externals", Json.ofNat objects.length)]
    ((c.callHook session .destroy []).1, objects.length)

end Controller

end LiveMarkup

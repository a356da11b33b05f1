import LiveMarkup.Component.Basic

/-!
# Documents

A document holds the state of page elements by id. The scaffold of a component holds the elements
that its markup would contain, and the elements that its rules mention.
-/

set_option autoImplicit false

namespace LiveMarkup

/-- The state of one element. -/
structure Element where
  value : Json
  visible : Bool
  enabled : Bool
  focused : Bool
  classes : StringMap Unit
  text : String
  markup : String
  attributes : Fields

/-- A visible, enabled element without content. -/
def Element.fresh : Element := ⟨.null, true, true, false, .empty, "", "", []⟩

/-- Elements by id. -/
abbrev Document := StringMap Element

/-- The id of a state's panel. -/
def panelId (component state : String) : String := component ++ "-panel-" ++ state

/-- The id of a state's tab. -/
def tabId (component state : String) : String := component ++ "-tab-" ++ state

/-- The id of the element that lists a component's records. -/
def resultsId (component : String) : String := component ++ "-results"

/-- The id of the row of a record. -/
def rowId (component : String) (index : Nat) : String := component ++ "-row-" ++ toString index

namespace Document

/-- The document with an element of this id, a fresh one unless there is one already. -/
def ensure (doc : Document) (id : String) : Document := doc.insertNew id .fresh

/-- Changes an element, a fresh one unless there is one already. -/
def put (doc : Document) (id : String) (change : Element → Element) : Document :=
  (doc.ensure id).modify id change

/-- The value of an element; a missing element has none. -/
def value (doc : Document) (id : String) : Json := ((doc.find? id).map Element.value).getD .null

/-- Whether there is an element of this id that is visible. -/
def isVisible (doc : Document) (id : String) : Bool := (doc.find? id).any Element.visible

/-- Sets an element's visibility. -/
def setVisible (doc : Document) (id : String) (visible : Bool) : Document :=
  doc.modify id fun element => { element with visible := visible }

/-- Marks a tab as selected or not. -/
def setSelected (doc : Document) (id : String) (selected : Bool) : Document :=
  doc.modify id fun element =>
    { element with attributes := element.attributes.put "aria-selected" (.bool selected) }

/-- Adds the panel and the tab of a state. -/
def addState (component : String) (initial : Option String) (doc : Document) (state : State) :
    Document :=
  let active := initial == some state.id
  let doc := doc.put (panelId component state.id) fun panel => { panel with visible := active }
  doc.put (tabId component state.id) fun tab =>
    { tab with
      enabled := !state.disabled
      attributes := tab.attributes.put "aria-selected" (.bool active) }

/-- Adds the results element and the rows of a dataset. -/
def addData (component : String) (doc : Document) (data : Dataset) : Document :=
  data.items.zipIdx.foldl
    (fun doc (item, index) => doc.put (rowId component index) fun row =>
      { row with attributes := item })
    (doc.ensure (resultsId component))

/-- Adds the elements that a rule watches and acts on. -/
def addRule (doc : Document) (rule : Rule) : Document :=
  rule.actions.foldl (fun doc action => doc.ensure action.target)
    (doc.ensure rule.trigger.element)

/-- The elements of a component's markup, and those its rules mention. -/
def scaffold (component : Component) : Document :=
  let root := ensure .empty component.id
  let initial := component.initialState.map State.id
  let withStates := component.states.foldl (addState component.id initial) root
  let withData := component.data.toList.foldl (addData component.id) withStates
  component.rules.foldl addRule withData

end Document

end LiveMarkup

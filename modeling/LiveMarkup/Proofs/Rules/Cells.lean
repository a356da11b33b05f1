import LiveMarkup.Proofs.Controller.Shown
import LiveMarkup.Proofs.Lists
import LiveMarkup.Proofs.StringMap

/-!
# Cells of elements

An action changes one thing about its target: whether it is visible, enabled or focused, its text, markup
or value, or whether it is in one class. These are its cells (`Cell`), and `Cell.prescribed?` says what an
effect writes to each of them. Actions that are done one after another leave in a cell what the last one
that writes to it prescribes (`Element.read_follow`), and every element receives its own actions and no
others (`Document.find?_follow`). So what a plan makes of a document is known cell by cell
(`Document.follow_written`), and a plan that is done again changes nothing (`Document.follow_put_follow`).
-/

set_option autoImplicit false

namespace LiveMarkup

/-! ## Cells -/

/-- One thing that actions write to: a property of an element, or whether it is in a class. -/
inductive Cell where
  | visible
  | enabled
  | focused
  | text
  | markup
  | value
  | inClass (name : String)
deriving DecidableEq

namespace Cell

/-- What a cell holds. -/
abbrev Content : Cell → Type
  | .visible | .enabled | .focused | .inClass _ => Bool
  | .text | .markup => String
  | .value => Json

/-- What a cell of an element holds. -/
def read (element : Element) : (cell : Cell) → cell.Content
  | .visible => element.visible
  | .enabled => element.enabled
  | .focused => element.focused
  | .text => element.text
  | .markup => element.markup
  | .value => element.value
  | .inClass name => element.classes.contains name

/-- The text that an effect writes, or the name of the class that it is about. -/
def written (value : Option Json) : String := (value.map Json.text).getD ""

/-- What an effect prescribes for a cell, if it writes to it. -/
def prescribed? (effect : Effect) (value : Option Json) : (cell : Cell) → Option cell.Content
  | .visible => match effect with
    | .show => some true
    | .hide => some false
    | _ => none
  | .enabled => match effect with
    | .enable => some true
    | .disable => some false
    | _ => none
  | .focused => match effect with
    | .focus => some true
    | .blur => some false
    | _ => none
  | .text => if effect = .setText then some (written value) else none
  | .markup => if effect = .setMarkup then some (written value) else none
  | .value => if effect = .setValue then some (value.getD .null) else none
  | .inClass name => match effect with
    | .addClass => if name = written value then some true else none
    | .removeClass => if name = written value then some false else none
    | _ => none

/-- An effect writes what it prescribes, and no cell besides. -/
theorem read_applyEffect (effect : Effect) (value : Option Json) (element : Element) (cell : Cell) :
    cell.read (Controller.applyEffect effect value element) =
      (cell.prescribed? effect value).getD (cell.read element) := by
  cases cell with
  | visible | enabled | focused | text | markup | value => cases effect <;> rfl
  | inClass name =>
    cases effect with
    | addClass =>
      have inserted := StringMap.contains_insert element.classes (written value) name ()
      rw [prescribed?]
      refine Eq.trans inserted ?_
      split <;> rfl
    | removeClass =>
      have erased := StringMap.contains_erase element.classes (written value) name
      rw [prescribed?]
      refine Eq.trans erased ?_
      split <;> rfl
    | _ => rfl

theorem read_withValue {element : Element} {cell : Cell} (other : cell ≠ .value) (value : Json) :
    cell.read { element with value := value } = cell.read element := by
  cases cell with
  | value => exact absurd rfl other
  | _ => rfl

end Cell

/-! ## Elements -/

namespace Element

/-- Does actions to an element, whatever their targets, one after another. -/
def follow (element : Element) (actions : List PlannedAction) : Element :=
  actions.foldl (fun element action => Controller.applyEffect action.effect action.value element) element

/-- What the last of these actions that writes to a cell prescribes for it. -/
def lastWrite? (actions : List PlannedAction) (cell : Cell) : Option cell.Content :=
  (actions.filterMap fun action => cell.prescribed? action.effect action.value).getLast?

theorem read_follow (element : Element) (actions : List PlannedAction) (cell : Cell) :
    cell.read (element.follow actions) = (lastWrite? actions cell).getD (cell.read element) := by
  have reads : ∀ (element : Element) (action : PlannedAction),
      cell.read (Controller.applyEffect action.effect action.value element) =
        (cell.prescribed? action.effect action.value).getD (cell.read element) :=
    fun element action => cell.read_applyEffect action.effect action.value element
  exact @read_foldl Element PlannedAction cell.Content (Cell.read · cell) _ _ reads element actions

theorem attributes_applyEffect (effect : Effect) (value : Option Json) (element : Element) :
    (Controller.applyEffect effect value element).attributes = element.attributes := by
  cases effect <;> rfl

theorem attributes_follow (element : Element) (actions : List PlannedAction) :
    (element.follow actions).attributes = element.attributes := by
  induction actions generalizing element with
  | nil => rfl
  | cons action rest ih =>
    exact (ih _).trans (attributes_applyEffect action.effect action.value element)

/-- An element is what its cells and attributes hold. -/
theorem ext_cells {element other : Element} (cells : ∀ cell : Cell, cell.read element = cell.read other)
    (attributes : element.attributes = other.attributes) : element = other := by
  have classes : element.classes = other.classes :=
    StringMap.ext_contains fun name => cells (.inClass name)
  obtain ⟨value, visible, enabled, focused, _, text, markup, _⟩ := element
  obtain ⟨value', visible', enabled', focused', _, text', markup', _⟩ := other
  obtain rfl : value = value' := cells .value
  obtain rfl : visible = visible' := cells .visible
  obtain rfl : enabled = enabled' := cells .enabled
  obtain rfl : focused = focused' := cells .focused
  obtain rfl : text = text' := cells .text
  obtain rfl : markup = markup' := cells .markup
  obtain rfl := classes
  obtain rfl := attributes
  rfl

/-- Actions that are done again change nothing, even if the value was set back in between. -/
theorem follow_again (element : Element) (actions : List PlannedAction) :
    follow { element.follow actions with value := element.value } actions = element.follow actions := by
  apply ext_cells
  · intro cell
    rw [read_follow]
    cases last : lastWrite? actions cell with
    | some content => rw [read_follow, last, Option.getD_some, Option.getD_some]
    | none =>
      rw [Option.getD_none, read_follow, last, Option.getD_none]
      by_cases value : cell = .value
      · subst value
        rfl
      · rw [Cell.read_withValue value, read_follow, last, Option.getD_none]
  · rw [attributes_follow]

theorem follow_follow (element : Element) (actions : List PlannedAction) :
    (element.follow actions).follow actions = element.follow actions := by
  apply ext_cells
  · intro cell
    rw [read_follow]
    cases last : lastWrite? actions cell with
    | some content => rw [read_follow, last, Option.getD_some, Option.getD_some]
    | none => rw [Option.getD_none]
  · rw [attributes_follow]

end Element

/-! ## Documents -/

/-- The planned actions on an element, in their order. -/
def actionsOn (id : String) (plan : List PlannedAction) : List PlannedAction :=
  plan.filter fun action => action.target == id

namespace Document

/-- Does planned actions on a document, one after another. -/
def follow (doc : Document) (plan : List PlannedAction) : Document :=
  plan.foldl (fun doc action =>
    doc.modify action.target (Controller.applyEffect action.effect action.value)) doc

/-- Every element receives its own actions and no others, and none comes or goes. -/
theorem find?_follow (doc : Document) (plan : List PlannedAction) (id : String) :
    (doc.follow plan).find? id = (doc.find? id).map fun element => element.follow (actionsOn id plan) := by
  induction plan generalizing doc with
  | nil => exact Option.map_id'.symm
  | cons action rest ih =>
    refine (ih _).trans ?_
    rw [StringMap.find?_modify]
    by_cases here : id = action.target
    · rw [if_pos here, actionsOn, actionsOn, List.filter_cons_of_pos (by simpa using here.symm),
        Option.map_map]
      rfl
    · rw [if_neg here, actionsOn, actionsOn, List.filter_cons_of_neg (by simpa using Ne.symm here)]

/-- What a plan makes of a document: the same elements are there, each with what the last action on it that
writes to a cell prescribes for that cell, and with what it had in all others. -/
structure Written (before : Document) (plan : List PlannedAction) (after : Document) : Prop where
  present : ∀ id, after.contains id = before.contains id
  cells : ∀ id element, before.find? id = some element → ∃ written, after.find? id = some written ∧
    (∀ cell : Cell, cell.read written =
      (Element.lastWrite? (actionsOn id plan) cell).getD (cell.read element)) ∧
    written.attributes = element.attributes

theorem follow_written (doc : Document) (plan : List PlannedAction) :
    doc.Written plan (doc.follow plan) where
  present id := by
    rw [StringMap.contains_eq_isSome, StringMap.contains_eq_isSome, find?_follow, Option.isSome_map]
  cells id element found := by
    refine ⟨element.follow (actionsOn id plan), ?_, element.read_follow _, element.attributes_follow _⟩
    rw [find?_follow, found, Option.map_some]

/-- Actions on elements that are missing count for nothing. -/
theorem follow_present (doc : Document) (plan : List PlannedAction) :
    doc.follow (plan.filter fun action => doc.contains action.target) = doc.follow plan := by
  refine StringMap.ext_find? fun id => ?_
  rw [find?_follow, find?_follow]
  cases found : doc.find? id with
  | none => rfl
  | some element =>
    have present : doc.contains id = true := by rw [StringMap.contains_eq_isSome, found]; rfl
    have same : actionsOn id (plan.filter fun action => doc.contains action.target) =
        actionsOn id plan := by
      rw [actionsOn, List.filter_filter, actionsOn]
      refine List.filter_congr fun action _ => ?_
      by_cases here : action.target = id
      · simp [here, present]
      · simp [here]
    rw [same]

/-- A plan that is done again changes nothing, even if one element was given back its value in between. -/
theorem follow_put_follow {doc : Document} {id : String} {element : Element}
    (found : doc.find? id = some element) (plan : List PlannedAction) :
    follow ((doc.follow plan).put id fun e => { e with value := element.value }) plan =
      doc.follow plan := by
  refine StringMap.ext_find? fun other => ?_
  rw [find?_follow, find?_put]
  split
  · rename_i same
    subst same
    rw [find?_follow, found]
    exact congrArg some (element.follow_again _)
  · rw [find?_follow, Option.map_map]
    congr 1
    funext element
    exact element.follow_follow _

end Document

end LiveMarkup

import LiveMarkup.Controller.Document
import LiveMarkup.Filter.Set
import LiveMarkup.Markup.Content
import LiveMarkup.Markup.RowTemplate
import LiveMarkup.Theme

/-!
# Markup of a component

The markup of a component works without a script: every panel is there and the active one visible,
filter controls are form controls, and rows that the server renders are in place.
-/

set_option autoImplicit false

namespace LiveMarkup

/-- Whether the rows of a component are rendered with its markup and filtered in place. -/
def Component.serverMode (component : Component) : Bool :=
  component.data.any (fun data => data.options.serverRendered)
    || component.pattern == .serverFilterable

/-- Whether a component's records are shown in pages. -/
def Component.paginates (component : Component) : Bool :=
  component.data.any (fun data => data.options.pagination) || component.detected.has .pagination

namespace Structure

open Markup

/-- Whether an attribute can be set on the root element: it is no event handler and none of the
attributes that the root has anyway. -/
def isCustomAttribute (name : String) : Bool :=
  let lower := Text.asciiLower name
  isAttributeName lower && !"on".toList.isPrefixOf lower.toList
    && !(["id", "data-pattern", "data-strata-component"].contains lower)

/-- The tab of a state. -/
def tab (component : String) (theme : Theme) (active : Bool) (state : State) : Markup :=
  .tag "button"
    ([attr "type" "button", attr "id" (tabId component state.id)]
      ++ classAttr [theme.classOf "tab", if active then theme.classOf "active" else "",
        if state.disabled then theme.classOf "disabled" else ""]
      ++ [attr "role" "tab", attr "data-client-action" "switch-state",
        attr "data-state-target" state.id,
        attr "aria-selected" (if active then "true" else "false"),
        attr "aria-controls" (panelId component state.id)]
      ++ if state.disabled then [flag "disabled"] else [])
    ((state.icon.toList.map fun icon =>
        Markup.tag "span" [attr "aria-hidden" "true", attr "data-icon" icon] [])
      ++ [.text state.displayLabel])

/-- The panel of a state. Lazy content waits in a template while the state is not active. -/
def panel (component : String) (theme : Theme) (several lazy active : Bool) (state : State) :
    Markup :=
  .tag "div"
    ([attr "id" (panelId component state.id)]
      ++ classAttr [theme.classOf "panel",
        if active then theme.classOf "active" else theme.classOf "hidden"]
      ++ [attr "role" "tabpanel", attr "data-state" state.id]
      ++ (if several then [attr "aria-labelledby" (tabId component state.id)] else [])
      ++ if active then [] else [flag "hidden"])
    [if lazy && !active then .tag "template" [flag "data-lazy-state"] [state.content.tree]
      else state.content.tree]

/-- Whether the content of inactive panels is left in templates. -/
def lazyPanels (component : Component) : Bool :=
  component.pattern == .dynamicStates || component.detected.has .lazyStateLoading

/-- The tabs and panels of a component; a single state has no tab. -/
def states (component : Component) (theme : Theme) : List Markup :=
  let states := component.states
  let initial := component.initialState.map State.id
  let isActive (state : State) : Bool := initial == some state.id
  let several := decide (1 < states.length)
  let tabs := states.map fun state => tab component.id theme (isActive state) state
  (if several then
    [.tag "div" (classAttr [theme.classOf "nav"] ++ [attr "role" "tablist"]) tabs]
  else [])
  ++ states.map fun state =>
    panel component.id theme several (lazyPanels component) (isActive state) state

/-- A choice of a select control. -/
def choice (value text : String) : Markup := .tag "option" [attr "value" value] [.text text]

/-- The attributes that every filter control starts with. -/
def controlAttributes (theme : Theme) (field : Field) : List Attribute :=
  classAttr [theme.classOf "input"]
    ++ [attr "data-filter-field" field.name, attr "data-filter-type" field.kind.name]

/-- The number input for one bound of a range. -/
def boundInput (theme : Theme) (field : Field) (range : FieldRange) (which : String) : Markup :=
  .tag "input" (controlAttributes theme field ++ [
    attr "type" "number", attr "data-filter-bound" which,
    attr "min" (FloatLayout.plain.write range.min),
    attr "max" (FloatLayout.plain.write range.max),
    attr "step" (FloatLayout.plain.write range.step),
    attr "placeholder" which]) []

/-- The form controls of a field; none for a field that cannot be filtered. -/
def controls (theme : Theme) (field : Field) : Option (List Markup) :=
  let attributes := controlAttributes theme field
  let choices := field.choices.map fun c => choice c.value c.label
  match field.kind with
  | .text => some [.tag "input"
      (attributes ++ [attr "type" "search", attr "placeholder" field.displayLabel]) []]
  | .select => some [.tag "select" attributes (choice "" "All" :: choices)]
  | .multiselect => some [.tag "select" (attributes ++ [flag "multiple"]) choices]
  | .boolean => some [.tag "select" attributes
      [choice "" "Any", choice "true" "Yes", choice "false" "No"]]
  | .range => field.range.map fun range =>
      [boundInput theme field range "min", boundInput theme field range "max"]
  | .unknown => none

/-- The labelled controls of a field. -/
def filter (theme : Theme) (field : Field) : Option Markup :=
  (controls theme field).map fun controls =>
    .tag "label" (classAttr [theme.classOf "filter"])
      (.tag "span" [] [.text field.displayLabel] :: controls)

/-- The search box. -/
def searchBox (theme : Theme) : Markup :=
  .tag "input" ([attr "type" "search"] ++ classAttr [theme.classOf "input"] ++ [
    attr "placeholder" "Search", attr "aria-label" "Search",
    attr "data-filter-field" FilterSet.searchField, attr "data-filter-type" "text"]) []

/-- The attribute that holds a field's value on a row, when the field's name can be part of one and
is not taken by the row itself. -/
def rowAttribute? (field : String) : Option String :=
  let name := Text.asciiLower field
  let valid := !name.isEmpty && (name.toList.all fun c => c.isAlphanum || c == '-' || c == '_')
    && !(["row", "index", "record"].contains name)
  if valid then some ("data-" ++ name) else none

/-- The value of a row attribute: the items of a list with commas between them, else the text. -/
def rowValue : Json → String
  | .array items => ",".intercalate (items.map Json.text)
  | value => value.text

/-- The cell of a field in a row without a template. -/
def cell (record : Fields) (field : Field) : Markup :=
  .tag "span" [attr "data-field" field.name]
    [.text (((Fields.get? record field.name).map Json.text).getD "")]

/-- The row of a record. -/
def row (theme : Theme) (schema : List Field) (template : Option String) (index : Nat)
    (record : Fields) : Markup :=
  let body := match template with
    | some template => [.trusted ((RowTemplate.ofText template).fill record)]
    | none => schema.map (cell record)
  let values := schema.filterMap fun field =>
    (rowAttribute? field.name).bind fun name =>
      (Fields.get? record field.name).map fun value => attr name (rowValue value)
  .tag "div"
    (classAttr [theme.classOf "row"]
      ++ [flag "data-row", attr "data-index" (toString index)]
      ++ values ++ [attr "data-record" (Json.compact (.object record))])
    body

/-- The rows of a dataset. -/
def rows (theme : Theme) (data : Dataset) : List Markup :=
  let schema := data.effectiveSchema
  data.items.zipIdx.map fun (record, index) =>
    row theme schema data.options.itemTemplate index record

/-- The element that lists the records; the rows are in it when the server renders them. -/
def results (component : Component) (theme : Theme) (data : Dataset) : Markup :=
  .tag "div"
    ([attr "id" (resultsId component.id)] ++ classAttr [theme.classOf "results"]
      ++ [flag "data-strata-results"])
    (if component.serverMode then rows theme data else [])

/-- The filters, the summary, the results and the pages of a dataset. -/
def data (component : Component) (theme : Theme) (data : Dataset) : List Markup :=
  let total := toString data.items.length
  [.tag "div" (classAttr [theme.classOf "filters"] ++ [flag "data-strata-filters"])
      ((if data.options.search then [searchBox theme] else [])
        ++ data.effectiveSchema.filterMap (filter theme)),
    .tag "div"
      (classAttr [theme.classOf "summary"]
        ++ [attr "aria-live" "polite", flag "data-strata-summary"])
      [.text ("Showing " ++ total ++ " of " ++ total)],
    results component theme data]
  ++ if component.paginates then
    [.tag "nav" (classAttr [theme.classOf "pagination"]
      ++ [attr "aria-label" "Pagination", flag "data-strata-pagination"]) []]
  else []

/-- What stands in for a component without anything to show. -/
def placeholder (component : Component) (theme : Theme) : List Markup :=
  match component.pattern with
  | .dependencyOnly =>
    [.tag "div" (classAttr [theme.classOf "placeholder"]
      ++ [attr "role" "status", attr "aria-live" "polite", flag "data-strata-status"]) []]
  | .empty =>
    [.tag "div" (classAttr [theme.classOf "placeholder"] ++ [flag "data-strata-empty"]) []]
  | _ => []

/-- The attributes of the root element. -/
def rootAttributes (component : Component) (theme : Theme) : List Attribute :=
  [attr "id" component.id] ++ classAttr [theme.classOf "component"]
    ++ [attr "data-pattern" component.pattern.name, flag "data-strata-component"]
    ++ (component.options.customAttributes.entries.filter fun entry =>
      isCustomAttribute entry.1).map fun entry => attr entry.1 entry.2

/-- The markup of a component. -/
def root (component : Component) (theme : Theme) : Markup :=
  .tag "div" (rootAttributes component theme)
    ((if component.pattern.usesStates then states component theme else [])
      ++ (if component.pattern.usesData then component.data.toList.flatMap (data component theme)
        else [])
      ++ placeholder component theme)

end Structure

end LiveMarkup

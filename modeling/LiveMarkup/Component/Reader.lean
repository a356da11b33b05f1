import LiveMarkup.Component.Spec
import LiveMarkup.Json.Decode

/-!
# Reading specifications

Decoders for the parts of a specification. Panel content and choices have two spellings each, so
their trees are checked as a whole before one of the spellings is tried.
-/

set_option autoImplicit false

namespace LiveMarkup

/-- The choice between the listed values by their names. -/
def Decoder.named {α : Type} (all : List α) (name : α → String) (other : Option α) : Decoder α :=
  Decoder.choice (all.map fun value => (name value, value)) other

namespace Decoder

/-- A pattern. -/
def pattern : Decoder Pattern := named Pattern.all Pattern.name none

/-- An optimization. -/
def optimization : Decoder Optimization := named Optimization.all Optimization.name none

/-- A kind of field; names that no kind has are unknown kinds. -/
def fieldKind : Decoder FieldKind := named FieldKind.all FieldKind.name (some .unknown)

/-- A comparison; names that no comparison has are unknown comparisons. -/
def comparison : Decoder Comparison := named Comparison.all Comparison.name (some .unknown)

/-- An effect; names that no effect has are unknown effects. -/
def effect : Decoder Effect := named Effect.all Effect.name (some .unknown)

/-- A trigger event. -/
def triggerEvent : Decoder TriggerEvent := named TriggerEvent.all TriggerEvent.name none

/-- A condition. -/
def condition : Decoder Condition := fun depth raw => do
  let members ← Members.ofRaw? ["componentId", "condition", "value"] [] depth raw
  return {
    element := ← members.required "componentId" string
    comparison := ← members.withDefault "condition" comparison .equals
    expected := ← members.withDefault "value" json .null }

mutual

/-- Panel content in a checked tree: a text, or an object whose only key names the kind. -/
def contentOf : RawJson → Option Content
  | .string s => s.map .text
  | .object [(some "text", .string s)] => s.map .text
  | .object [(some "html", .string s)] => s.map .markup
  | .object [(some "element", raw)] => elementOf raw
  | _ => none

/-- An element in a checked tree. -/
def elementOf : RawJson → Option Content
  | .array [.string (some tag)] => some (.element tag .empty [])
  | .array [.string (some tag), attributes] =>
    (stringMap string 1 attributes).map fun attributes => .element tag attributes []
  | .array [.string (some tag), attributes, .array children] =>
    (stringMap string 1 attributes).bind fun attributes =>
      (contentsOf children).map fun children => .element tag attributes children
  | .object fields =>
    (Members.ofFields? ["tag", "attrs", "children"] [] 1 fields).bind fun members =>
      (members.required "tag" string).bind fun tag =>
        (members.withDefault "attrs" (stringMap string) .empty).bind fun attributes =>
          (childrenIn fields).map fun children => .element tag attributes children
  | _ => none

/-- The children that an element's fields give; none are given without such a field. -/
def childrenIn : List (Option String × RawJson) → Option (List Content)
  | [] => some []
  | (key, raw) :: rest =>
    if key = some "children" then
      match raw with
      | .array items => contentsOf items
      | _ => none
    else childrenIn rest

/-- A list of contents in checked trees. -/
def contentsOf : List RawJson → Option (List Content)
  | [] => some []
  | raw :: rest =>
    (contentOf raw).bind fun content => (contentsOf rest).map (content :: ·)

end

/-- Panel content. -/
def content : Decoder Content := fun depth raw =>
  (raw.value? depth).bind fun _ => contentOf raw

/-- A state. -/
def state : Decoder State := fun depth raw => do
  let members ← Members.ofRaw?
    ["id", "label", "icon", "active", "disabled", "condition", "content"] [] depth raw
  return {
    id := ← members.required "id" string
    label := ← members.withDefault "label" string ""
    icon := ← members.optional "icon" string
    active := ← members.withDefault "active" bool false
    disabled := ← members.withDefault "disabled" bool false
    condition := ← members.optional "condition" condition
    content := ← members.withDefault "content" content (.text "") }

/-- A choice in a checked tree: a text, or an object with a value and an optional label. -/
def choiceOf : RawJson → Option Choice
  | .string s => s.map Choice.ofValue
  | .object fields =>
    (Members.ofFields? ["value", "label"] [] 0 fields).bind fun members =>
      (members.required "value" string).bind fun value =>
        (members.optional "label" string).map fun label => ⟨value, label.getD value⟩
  | _ => none

/-- A choice of a select field. -/
def fieldChoice : Decoder Choice := fun depth raw =>
  (raw.value? depth).bind fun _ => choiceOf raw

/-- A range; steps of one unless told otherwise. -/
def fieldRange : Decoder FieldRange := fun depth raw => do
  let members ← Members.ofRaw? ["min", "max", "step"] [] depth raw
  return {
    min := ← members.required "min" float
    max := ← members.required "max" float
    step := ← members.withDefault "step" float (.ofInt 1) }

/-- A field. -/
def field : Decoder Field := fun depth raw => do
  let members ← Members.ofRaw?
    ["name", "type", "label", "options", "range", "searchable"] [] depth raw
  let kind ← members.required "type" fieldKind
  return {
    name := ← members.required "name" string
    kind := kind
    label := ← members.withDefault "label" string ""
    choices := ← members.withDefault "options" (list fieldChoice) []
    range := ← members.optional "range" fieldRange
    searchable := (← members.optional "searchable" bool).getD kind.searchable }

/-- Dataset options. -/
def datasetOptions : Decoder DatasetOptions := fun depth raw => do
  let members ← Members.ofRaw?
    ["enableSearch", "enablePagination", "itemsPerPage", "serverRendered", "rowSelector",
      "counterSelector", "itemTemplate"] [] depth raw
  let standard := DatasetOptions.standard
  return {
    search := ← members.withDefault "enableSearch" bool standard.search
    pagination := ← members.withDefault "enablePagination" bool standard.pagination
    itemsPerPage := ← members.withDefault "itemsPerPage" natural standard.itemsPerPage
    serverRendered := ← members.withDefault "serverRendered" bool standard.serverRendered
    rowSelector := ← members.withDefault "rowSelector" string standard.rowSelector
    counterSelector := ← members.optional "counterSelector" string
    itemTemplate := ← members.optional "itemTemplate" string }

/-- A dataset. -/
def dataset : Decoder Dataset := fun depth raw => do
  let members ← Members.ofRaw? ["items", "schema", "options"] [] depth raw
  return {
    items := ← members.withDefault "items" (list fields) []
    schema := ← members.withDefault "schema" (list field) []
    options := ← members.withDefault "options" datasetOptions .standard }

/-- A trigger. -/
def trigger : Decoder Trigger := fun depth raw => do
  let members ← Members.ofRaw? ["componentId", "event", "condition", "value"] [] depth raw
  return {
    element := ← members.required "componentId" string
    event := ← members.withDefault "event" triggerEvent .change
    comparison := ← members.withDefault "condition" comparison .equals
    expected := ← members.withDefault "value" json .null }

/-- An action. -/
def action : Decoder Action := fun depth raw => do
  let members ← Members.ofRaw? ["targetId", "action", "value"] [] depth raw
  return {
    target := ← members.required "targetId" string
    effect := ← members.required "action" effect
    value := ← members.optional "value" json }

/-- A rule. -/
def rule : Decoder Rule := fun depth raw => do
  let members ← Members.ofRaw? ["id", "priority", "trigger", "actions"] [] depth raw
  return {
    id := ← members.required "id" string
    priority := ← members.withDefault "priority" int32 0
    trigger := ← members.required "trigger" trigger
    actions := ← members.withDefault "actions" (list action) [] }

/-- Thresholds. -/
def thresholds : Decoder Thresholds := fun depth raw => do
  let members ← Members.ofRaw?
    ["maxPrerenderedStates", "maxClientItems", "maxStatefulItems", "paginationItems",
      "ruleGroupingRules"] [] depth raw
  let standard := Thresholds.standard
  return {
    prerenderedStates :=
      ← members.withDefault "maxPrerenderedStates" natural standard.prerenderedStates
    clientItems := ← members.withDefault "maxClientItems" natural standard.clientItems
    statefulItems := ← members.withDefault "maxStatefulItems" natural standard.statefulItems
    paginationItems := ← members.withDefault "paginationItems" natural standard.paginationItems
    groupedRules := ← members.withDefault "ruleGroupingRules" natural standard.groupedRules }

/-- An external script. -/
def externalScript : Decoder ExternalScript := fun depth raw => do
  let members ← Members.ofRaw? ["src", "required", "async", "defer", "onLoad"] [] depth raw
  return {
    src := ← members.required "src" string
    required := ← members.withDefault "required" bool false
    asynchronous := ← members.withDefault "async" bool false
    deferred := ← members.withDefault "defer" bool false
    onLoad := ← members.optional "onLoad" string }

/-- Hook code. -/
def hookCode : Decoder HookCode := fun depth raw => do
  let members ← Members.ofRaw?
    ["beforeInit", "afterInit", "beforeStateChange", "afterStateChange", "stateHooks",
      "afterFilter", "onDestroy"] [] depth raw
  return {
    beforeInit := ← members.optional "beforeInit" string
    afterInit := ← members.optional "afterInit" string
    beforeStateChange := ← members.optional "beforeStateChange" string
    afterStateChange := ← members.optional "afterStateChange" string
    stateHooks := ← members.withDefault "stateHooks" (stringMap string) .empty
    afterFilter := ← members.optional "afterFilter" string
    onDestroy := ← members.optional "onDestroy" string }

/-- The second spelling of the minifying option. -/
def minifyAlias : List (String × String) := [("minifyJs", "minifyJS")]

/-- Options. -/
def options : Decoder Options := fun depth raw => do
  let members ← Members.ofRaw?
    ["thresholds", "fallbackPattern", "forcePattern", "minifyJS", "externalScripts",
      "externalRegistry", "hooks", "customAttributes"] minifyAlias depth raw
  return {
    thresholds := ← members.withDefault "thresholds" thresholds .standard
    fallbackPattern := ← members.withDefault "fallbackPattern" pattern .empty
    forcePattern := ← members.optional "forcePattern" string
    minify := ← members.withDefault "minifyJS" bool false
    externalScripts := ← members.withDefault "externalScripts" (list externalScript) []
    externalRegistry := ← members.withDefault "externalRegistry" (list string) []
    hooks := ← members.withDefault "hooks" hookCode .empty
    customAttributes := ← members.withDefault "customAttributes" (stringMap string) .empty }

/-- Partial options, from their members. -/
def optionsLayerOf (members : Members) : Option OptionsLayer := do
  return {
    minify := ← members.optional "minifyJS" bool
    thresholds := ← members.nullable "thresholds" thresholds
    fallbackPattern := ← members.nullable "fallbackPattern" pattern
    externalRegistry := ← members.nullable "externalRegistry" (list string)
    customAttributes := ← members.withDefault "customAttributes" (stringMap string) .empty }

/-- The field names of partial options. -/
def optionsLayerNames : List String :=
  ["minifyJS", "thresholds", "fallbackPattern", "externalRegistry", "customAttributes"]

/-- Partial options. -/
def optionsLayer : Decoder OptionsLayer := fun depth raw => do
  optionsLayerOf (← Members.ofRaw? optionsLayerNames minifyAlias depth raw)

/-- A specification. -/
def spec : Decoder Spec := fun depth raw => do
  let members ← Members.ofRaw?
    ["id", "states", "data", "rules", "options", "theme"] [] depth raw
  return {
    id := ← members.required "id" string
    states := ← members.optional "states" (list state)
    data := ← members.optional "data" dataset
    rules := ← members.optional "rules" (list rule)
    options := ← members.withDefault "options" options .standard
    theme := ← members.optional "theme" json }

end Decoder

/-- The specification that a JSON text writes. -/
def Spec.ofText? (s : String) : Option Spec :=
  (RawJson.ofText? s).bind (Decoder.spec RawJson.nestingLimit)

end LiveMarkup

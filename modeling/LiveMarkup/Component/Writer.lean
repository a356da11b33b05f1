import LiveMarkup.Component.Spec

/-!
# Writing specifications

The JSON form of the parts of a specification. Fields come in one fixed order; choices, ranges, load
code, hooks and action values are left out when there is nothing to say, and every other empty
setting is written as null.
-/

set_option autoImplicit false

namespace LiveMarkup

namespace Json

/-- A list of values. -/
def ofList {α : Type} (write : α → Json) (items : List α) : Json := .array (items.map write)

/-- A value, or null without one. -/
def ofOptional {α : Type} (write : α → Json) : Option α → Json
  | some value => write value
  | none => .null

/-- A map from keys to texts, in key order. -/
def ofTexts (map : StringMap String) : Json :=
  .object (map.entries.map fun entry => (entry.1, .string entry.2))

/-- A field that is left out without a value. -/
def fieldIf {α : Type} (key : String) (write : α → Json) : Option α → Fields
  | some value => [(key, write value)]
  | none => []

end Json

/-- The JSON form of a condition. -/
def Condition.toJson (condition : Condition) : Json := .object [
  ("componentId", .string condition.element),
  ("condition", .string condition.comparison.name),
  ("value", condition.expected)]

mutual

/-- The JSON form of panel content. -/
def Content.toJson : Content → Json
  | .text s => .object [("text", .string s)]
  | .markup s => .object [("html", .string s)]
  | .element tag attributes children => .object [("element", .object [
      ("tag", .string tag),
      ("attrs", Json.ofTexts attributes),
      ("children", .array (Content.listToJson children))])]

/-- The JSON forms of a list of contents. -/
def Content.listToJson : List Content → List Json
  | [] => []
  | content :: rest => content.toJson :: Content.listToJson rest

end

/-- The JSON form of a state. -/
def State.toJson (state : State) : Json := .object [
  ("id", .string state.id),
  ("label", .string state.label),
  ("icon", Json.ofOption state.icon),
  ("active", .bool state.active),
  ("disabled", .bool state.disabled),
  ("condition", Json.ofOptional Condition.toJson state.condition),
  ("content", state.content.toJson)]

/-- The JSON form of a choice. -/
def Choice.toJson (choice : Choice) : Json := .object [
  ("value", .string choice.value),
  ("label", .string choice.label)]

/-- The JSON form of a range. -/
def FieldRange.toJson (range : FieldRange) : Json := .object [
  ("min", .number (.float range.min)),
  ("max", .number (.float range.max)),
  ("step", .number (.float range.step))]

/-- The JSON form of a field. -/
def Field.toJson (field : Field) : Json := .object (
  [("name", .string field.name), ("type", .string field.kind.name),
    ("label", .string field.label)]
  ++ (if field.choices.isEmpty then [] else [("options", Json.ofList Choice.toJson field.choices)])
  ++ Json.fieldIf "range" FieldRange.toJson field.range
  ++ [("searchable", .bool field.searchable)])

/-- The JSON form of dataset options. -/
def DatasetOptions.toJson (options : DatasetOptions) : Json := .object [
  ("enableSearch", .bool options.search),
  ("enablePagination", .bool options.pagination),
  ("itemsPerPage", Json.ofNat options.itemsPerPage),
  ("serverRendered", .bool options.serverRendered),
  ("rowSelector", .string options.rowSelector),
  ("counterSelector", Json.ofOption options.counterSelector),
  ("itemTemplate", Json.ofOption options.itemTemplate)]

/-- The JSON form of a dataset. -/
def Dataset.toJson (data : Dataset) : Json := .object [
  ("items", Json.ofList Json.object data.items),
  ("schema", Json.ofList Field.toJson data.schema),
  ("options", data.options.toJson)]

/-- The JSON form of a trigger. -/
def Trigger.toJson (trigger : Trigger) : Json := .object [
  ("componentId", .string trigger.element),
  ("event", .string trigger.event.name),
  ("condition", .string trigger.comparison.name),
  ("value", trigger.expected)]

/-- The JSON form of an action. -/
def Action.toJson (action : Action) : Json := .object (
  [("targetId", .string action.target), ("action", .string action.effect.name)]
  ++ Json.fieldIf "value" id action.value)

/-- The JSON form of a rule. -/
def Rule.toJson (rule : Rule) : Json := .object [
  ("id", .string rule.id),
  ("priority", .number (.ofInt rule.priority)),
  ("trigger", rule.trigger.toJson),
  ("actions", Json.ofList Action.toJson rule.actions)]

/-- The JSON form of thresholds. -/
def Thresholds.toJson (thresholds : Thresholds) : Json := .object [
  ("maxPrerenderedStates", Json.ofNat thresholds.prerenderedStates),
  ("maxClientItems", Json.ofNat thresholds.clientItems),
  ("maxStatefulItems", Json.ofNat thresholds.statefulItems),
  ("paginationItems", Json.ofNat thresholds.paginationItems),
  ("ruleGroupingRules", Json.ofNat thresholds.groupedRules)]

/-- The JSON form of an external script. -/
def ExternalScript.toJson (script : ExternalScript) : Json := .object (
  [("src", .string script.src), ("required", .bool script.required),
    ("async", .bool script.asynchronous), ("defer", .bool script.deferred)]
  ++ Json.fieldIf "onLoad" Json.string script.onLoad)

/-- The JSON form of hook code. -/
def HookCode.toJson (hooks : HookCode) : Json := .object (
  Json.fieldIf "beforeInit" Json.string hooks.beforeInit
  ++ Json.fieldIf "afterInit" Json.string hooks.afterInit
  ++ Json.fieldIf "beforeStateChange" Json.string hooks.beforeStateChange
  ++ Json.fieldIf "afterStateChange" Json.string hooks.afterStateChange
  ++ (if hooks.stateHooks.isEmpty then [] else [("stateHooks", Json.ofTexts hooks.stateHooks)])
  ++ Json.fieldIf "afterFilter" Json.string hooks.afterFilter
  ++ Json.fieldIf "onDestroy" Json.string hooks.onDestroy)

/-- The JSON form of options. -/
def Options.toJson (options : Options) : Json := .object [
  ("thresholds", options.thresholds.toJson),
  ("fallbackPattern", .string options.fallbackPattern.name),
  ("forcePattern", Json.ofOption options.forcePattern),
  ("minifyJS", .bool options.minify),
  ("externalScripts", Json.ofList ExternalScript.toJson options.externalScripts),
  ("externalRegistry", Json.ofList Json.string options.externalRegistry),
  ("hooks", options.hooks.toJson),
  ("customAttributes", Json.ofTexts options.customAttributes)]

/-- The JSON form of partial options. -/
def OptionsLayer.toJson (layer : OptionsLayer) : Json := .object [
  ("minifyJS", Json.ofOptional Json.bool layer.minify),
  ("thresholds", Json.ofOptional Thresholds.toJson layer.thresholds),
  ("fallbackPattern", Json.ofOptional (fun p => .string p.name) layer.fallbackPattern),
  ("externalRegistry", Json.ofOptional (Json.ofList Json.string) layer.externalRegistry),
  ("customAttributes", Json.ofTexts layer.customAttributes)]

/-- The JSON form of a detected pattern. -/
def Detected.toJson (detected : Detected) : Json := .object [
  ("hasStates", .bool detected.facts.hasStates),
  ("hasData", .bool detected.facts.hasData),
  ("hasRules", .bool detected.facts.hasRules),
  ("hasRenderer", .bool detected.facts.hasRenderer),
  ("stateCount", Json.ofNat detected.facts.stateCount),
  ("dataSize", Json.ofNat detected.facts.dataSize),
  ("ruleCount", Json.ofNat detected.facts.ruleCount),
  ("primaryPattern", .string detected.pattern.name),
  ("optimizations", Json.ofList (fun o => .string o.name) detected.optimizations)]

/-- The JSON form of a specification. -/
def Spec.toJson (spec : Spec) : Json := .object [
  ("id", .string spec.id),
  ("states", Json.ofOptional (Json.ofList State.toJson) spec.states),
  ("data", Json.ofOptional Dataset.toJson spec.data),
  ("rules", Json.ofOptional (Json.ofList Rule.toJson) spec.rules),
  ("options", spec.options.toJson),
  ("theme", spec.theme.getD .null)]

end LiveMarkup

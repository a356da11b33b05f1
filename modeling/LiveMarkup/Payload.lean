import LiveMarkup.Component.Writer
import LiveMarkup.Json.Raw
import LiveMarkup.Markup.Structure
import LiveMarkup.Rules.Index

/-!
# Payloads

What the browser has to know of a component besides its markup travels as JSON in a script block
behind the root element. The characters that could end the block are written as escapes, so the block
can be found again and read back.
-/

set_option autoImplicit false

namespace LiveMarkup

/-- The data part of a payload. The records are left out when their rows are in the markup. -/
structure DataPayload where
  schema : List Field
  options : DatasetOptions
  total : Nat
  items : Option (List Fields)

/-- What the browser has to know of a component. -/
structure Payload where
  id : String
  detected : Detected
  serverMode : Bool
  classes : StringMap String
  states : List State
  initialState : Option String
  data : Option DataPayload
  rules : List Rule
  options : Options

namespace Payload

/-- The payload of a component. Inputs that the pattern does not use are left out. -/
def ofComponent (component : Component) (theme : Theme) : Payload :=
  let pattern := component.pattern
  { id := component.id
    detected := component.detected
    serverMode := component.serverMode
    classes := theme.classes
    states := if pattern.usesStates then component.states else []
    initialState :=
      if pattern.usesStates then component.initialState.map State.id else none
    data := if pattern.usesData then component.data.map fun data =>
        { schema := data.effectiveSchema
          options := data.options
          total := data.items.length
          items := if component.serverMode then none else some data.items }
      else none
    rules := if pattern.usesRules then (RuleIndex.ofRules component.rules).ordered else []
    options := component.options }

/-- A field that is left out when its list is empty. -/
def listField {α : Type} (key : String) (write : α → Json) (items : List α) : Fields :=
  if items.isEmpty then [] else [(key, Json.ofList write items)]

/-- What a payload says of a state; its content is in the markup. -/
def stateJson (state : State) : Json := .object (
  [("id", .string state.id), ("label", .string state.displayLabel)]
  ++ Json.fieldIf "icon" Json.string state.icon
  ++ (if state.disabled then [("disabled", .bool true)] else [])
  ++ Json.fieldIf "condition" Condition.toJson state.condition)

/-- The JSON form of the data part. -/
def dataJson (data : DataPayload) : Json := .object (
  [("schema", Json.ofList Field.toJson data.schema), ("options", data.options.toJson),
    ("total", Json.ofNat data.total)]
  ++ Json.fieldIf "items" (Json.ofList Json.object) data.items)

/-- The JSON form of a payload. -/
def toJson (payload : Payload) : Json := .object (
  [("id", .string payload.id),
    ("pattern", .string payload.detected.pattern.name),
    ("flags", .object [
      ("hasStates", .bool payload.detected.facts.hasStates),
      ("hasData", .bool payload.detected.facts.hasData),
      ("hasRules", .bool payload.detected.facts.hasRules),
      ("hasRenderer", .bool payload.detected.facts.hasRenderer)]),
    ("optimizations", Json.ofList (fun o => .string o.name) payload.detected.optimizations),
    ("serverMode", .bool payload.serverMode),
    ("theme", Json.ofTexts payload.classes)]
  ++ listField "states" stateJson payload.states
  ++ Json.fieldIf "initialState" Json.string payload.initialState
  ++ Json.fieldIf "data" dataJson payload.data
  ++ listField "rules" Rule.toJson payload.rules
  ++ (if payload.options.hooks.isEmpty then [] else [("hooks", payload.options.hooks.toJson)])
  ++ listField "externalScripts" ExternalScript.toJson payload.options.externalScripts
  ++ listField "externalRegistry" Json.string payload.options.externalRegistry)

/-- A character of a JSON text as it stands in a script block. -/
def escapeChar (c : Char) : List Char :=
  if c = '<' ∨ c = '>' ∨ c = '&' ∨ c = '\u2028' ∨ c = '\u2029' then Json.unicodeEscape c.toNat
  else [c]

/-- A JSON text as it stands in a script block. -/
def escape (json : String) : String := String.ofList (json.toList.flatMap escapeChar)

/-- The JSON text of a component's payload. -/
def text (component : Component) (theme : Theme) : String :=
  (ofComponent component theme).toJson.compact

/-- The id of a component's script block. -/
def blockId (component : String) : String := component ++ "-config"

/-- The script block with a component's payload. -/
def block (component : Component) (theme : Theme) : Markup :=
  .tag "script"
    [Markup.attr "type" "application/json", Markup.attr "id" (blockId component.id),
      Markup.flag "data-strata-config"]
    [.trusted (escape (text component theme))]

/-- The payload of a component in a text that contains its script block. -/
def extract? (html component : String) : Option Json :=
  let mark := "id=\"" ++ Markup.escape component ++ "-config\""
  (Text.cutAt mark.toList html.toList).bind fun (_, behindId) =>
    (Text.cutAt ['>'] (mark.toList ++ behindId)).bind fun (_, body) =>
      (Text.cutAt "</script>".toList body).bind fun (json, _) => Json.read? (String.ofList json)

end Payload

end LiveMarkup

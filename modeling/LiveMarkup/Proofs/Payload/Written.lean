import LiveMarkup.Payload
import LiveMarkup.Proofs.Payload.Parsed

/-!
# Payloads that can be read again

The JSON form of a payload is built of objects with different keys, and what a parsed specification
carries along stands in it no deeper than in the specification. So the payload of a component of a
parsed specification can be read again (`Payload.readable_toJson`).
-/

set_option autoImplicit false

namespace LiveMarkup

open Json

/-! ## Parts of payloads -/

theorem Condition.readable_toJson {depth : Nat} {condition : Condition}
    (readable : Readable depth condition.expected) : Readable (depth + 1) condition.toJson :=
  readable_object (by simp) (by simp [readable])

theorem Choice.readable_toJson (depth : Nat) (choice : Choice) :
    Readable (depth + 1) choice.toJson :=
  readable_object (by simp) (by simp)

theorem FieldRange.readable_toJson (depth : Nat) (range : FieldRange) :
    Readable (depth + 1) range.toJson :=
  readable_object (by simp) (by simp)

theorem Field.readable_toJson (depth : Nat) (field : Field) : Readable (depth + 3) field.toJson := by
  have named : Within (depth + 2) _ [("name", .string field.name),
      ("type", .string field.kind.name), ("label", .string field.label)] :=
    within_fields (by simp)
  have choices : Readable (depth + 2) (Json.ofList Choice.toJson field.choices) :=
    readable_ofList fun choice _ => choice.readable_toJson depth
  have range : Within (depth + 2) ["range"] (fieldIf "range" FieldRange.toJson field.range) :=
    within_fieldIf (fun range _ => range.readable_toJson (depth + 1)) "range"
  have searchable : Within (depth + 2) ["searchable"] [("searchable", .bool field.searchable)] :=
    within_single (readable_bool _ _) "searchable"
  exact (((named.append ((within_single choices "options").unless _)).append range).append
    searchable).readable (by simp)

theorem DatasetOptions.readable_toJson (depth : Nat) (options : DatasetOptions) :
    Readable (depth + 1) options.toJson :=
  readable_object (by simp) (by simp)

theorem Trigger.readable_toJson {depth : Nat} {trigger : Trigger}
    (readable : Readable depth trigger.expected) : Readable (depth + 1) trigger.toJson :=
  readable_object (by simp) (by simp [readable])

theorem Action.readable_toJson {depth : Nat} {action : Action}
    (readable : ∀ value, action.value = some value → Readable depth value) :
    Readable (depth + 1) action.toJson := by
  have named : Within depth _ [("targetId", .string action.target),
      ("action", .string action.effect.name)] :=
    within_fields (by simp)
  exact (named.append (within_fieldIf readable "value")).readable (by simp)

theorem Rule.readable_toJson {depth : Nat} {rule : Rule}
    (watched : Readable (depth + 1) rule.trigger.expected)
    (readable : ∀ action ∈ rule.actions, ∀ value, action.value = some value →
      Readable depth value) : Readable (depth + 3) rule.toJson := by
  have actions : Readable (depth + 2) (Json.ofList Action.toJson rule.actions) :=
    readable_ofList fun action listed => Action.readable_toJson (readable action listed)
  exact readable_object (by simp) (by simp [Trigger.readable_toJson watched, actions])

theorem ExternalScript.readable_toJson (depth : Nat) (script : ExternalScript) :
    Readable (depth + 1) script.toJson := by
  have named : Within depth _ [("src", .string script.src), ("required", .bool script.required),
      ("async", .bool script.asynchronous), ("defer", .bool script.deferred)] :=
    within_fields (by simp)
  exact (named.append (within_fieldIf (fun _ _ => readable_string _ _) "onLoad")).readable (by simp)

theorem HookCode.readable_toJson (depth : Nat) (hooks : HookCode) :
    Readable (depth + 2) hooks.toJson := by
  have code : ∀ (key : String) (value : Option String),
      Within (depth + 1) [key] (fieldIf key Json.string value) := fun key _ =>
    within_fieldIf (fun _ _ => readable_string _ _) key
  have states : Within (depth + 1) ["stateHooks"]
      [("stateHooks", Json.ofTexts hooks.stateHooks)] :=
    within_single (readable_ofTexts depth hooks.stateHooks) "stateHooks"
  exact (((((((code "beforeInit" _).append (code "afterInit" _)).append
    (code "beforeStateChange" _)).append (code "afterStateChange" _)).append
    (states.unless _)).append (code "afterFilter" _)).append (code "onDestroy" _)).readable (by simp)

namespace Payload

/-! ## Whole payloads -/

theorem readable_stateJson {depth : Nat} {state : State}
    (readable : ∀ condition, state.condition = some condition →
      Readable depth condition.expected) : Readable (depth + 2) (stateJson state) := by
  have named : Within (depth + 1) _ [("id", .string state.id),
      ("label", .string state.displayLabel)] :=
    within_fields (by simp)
  have icon : Within (depth + 1) ["icon"] (fieldIf "icon" Json.string state.icon) :=
    within_fieldIf (fun _ _ => readable_string _ _) "icon"
  have disabled : Within (depth + 1) ["disabled"]
      (if state.disabled then [("disabled", .bool true)] else []) := by
    cases state.disabled with
    | true => exact within_single (readable_bool _ _) "disabled"
    | false => exact ⟨List.nil_sublist _, by simp⟩
  have condition : Within (depth + 1) ["condition"]
      (fieldIf "condition" Condition.toJson state.condition) :=
    within_fieldIf (fun condition given => Condition.readable_toJson (readable condition given)) _
  exact (((named.append icon).append disabled).append condition).readable (by simp)

theorem readable_dataJson {depth : Nat} {data : DataPayload}
    (readable : ∀ items, data.items = some items →
      ∀ record ∈ items, Readable (depth + 3) (.object record)) :
    Readable (depth + 5) (dataJson data) := by
  have schema : Readable (depth + 4) (Json.ofList Field.toJson data.schema) :=
    readable_ofList fun field _ => field.readable_toJson depth
  have described : Within (depth + 4) _ [("schema", Json.ofList Field.toJson data.schema),
      ("options", data.options.toJson), ("total", Json.ofNat data.total)] :=
    within_fields (by simp [schema, data.options.readable_toJson (depth + 3)])
  have items : Within (depth + 4) ["items"]
      (fieldIf "items" (Json.ofList Json.object) data.items) :=
    within_fieldIf (fun items given => readable_ofList (readable items given)) "items"
  exact (described.append items).readable (by simp)

theorem within_listField {α : Type} {depth : Nat} {write : α → Json} {items : List α}
    (readable : ∀ item ∈ items, Readable depth (write item)) (key : String) :
    Within (depth + 1) [key] (listField key write items) :=
  (within_single (readable_ofList readable) key).unless _

theorem within_states {component : Component} (readable : component.inputs.Readable)
    (theme : Theme) :
    Within 126 ["states"] (listField "states" stateJson (ofComponent component theme).states) := by
  refine within_listField ?_ "states"
  intro state listed
  refine readable_stateJson ?_
  simp only [ofComponent] at listed
  split at listed
  · cases given : component.inputs.states with
    | none => simp [Component.states, given] at listed
    | some states =>
      rw [Component.states, given, Option.getD_some] at listed
      exact readable.conditions states given state listed
  · cases listed

theorem within_data {component : Component} (readable : component.inputs.Readable)
    (theme : Theme) :
    Within 126 ["data"] (fieldIf "data" dataJson (ofComponent component theme).data) := by
  refine within_fieldIf ?_ "data"
  intro data shown
  simp only [ofComponent, Option.ite_none_right_eq_some] at shown
  obtain ⟨source, given, rfl⟩ := Option.map_eq_some_iff.mp shown.2
  have shallow : ∀ items, (if component.serverMode = true then none else some source.items) =
      some items → ∀ record ∈ items, Readable (121 + 3) (.object record) := by
    intro items embedded
    simp only [Option.ite_none_left_eq_some, Option.some.injEq] at embedded
    rw [← embedded.2]
    exact readable.records source given
  exact readable_dataJson shallow

theorem within_rules {component : Component} (readable : component.inputs.Readable)
    (theme : Theme) :
    Within 126 ["rules"] (listField "rules" Rule.toJson (ofComponent component theme).rules) := by
  refine within_listField ?_ "rules"
  intro rule listed
  simp only [ofComponent] at listed
  split at listed
  · have member := RuleIndex.mem_of_mem_ordered listed
    cases given : component.inputs.rules with
    | none => simp [Component.rules, given] at member
    | some rules =>
      rw [Component.rules, given, Option.getD_some] at member
      exact Rule.readable_toJson (readable.triggers rules given rule member)
        (readable.actions rules given rule member)
  · cases listed

/-- The payload of a component can be read again if what its inputs carry along can. -/
theorem readable_toJson {component : Component} (readable : component.inputs.Readable)
    (theme : Theme) : Readable RawJson.nestingLimit (ofComponent component theme).toJson := by
  have flags : Readable 126 (.object [
      ("hasStates", .bool component.detected.facts.hasStates),
      ("hasData", .bool component.detected.facts.hasData),
      ("hasRules", .bool component.detected.facts.hasRules),
      ("hasRenderer", .bool component.detected.facts.hasRenderer)]) :=
    readable_object (by simp) (by simp)
  have optimizations : Readable 126
      (Json.ofList (fun o => .string o.name) component.detected.optimizations) :=
    readable_ofList fun _ _ => readable_string _ _
  have described : Within 126 _ [("id", .string component.id),
      ("pattern", .string component.detected.pattern.name),
      ("flags", .object [
        ("hasStates", .bool component.detected.facts.hasStates),
        ("hasData", .bool component.detected.facts.hasData),
        ("hasRules", .bool component.detected.facts.hasRules),
        ("hasRenderer", .bool component.detected.facts.hasRenderer)]),
      ("optimizations", Json.ofList (fun o => .string o.name) component.detected.optimizations),
      ("serverMode", .bool component.serverMode), ("theme", Json.ofTexts theme.classes)] :=
    within_fields (by simp [flags, optimizations, readable_ofTexts 125])
  have initial : Within 126 ["initialState"]
      (fieldIf "initialState" Json.string (ofComponent component theme).initialState) :=
    within_fieldIf (fun _ _ => readable_string _ _) "initialState"
  have hooks : Within 126 ["hooks"] (if component.options.hooks.isEmpty then []
      else [("hooks", component.options.hooks.toJson)]) :=
    (within_single (component.options.hooks.readable_toJson 124) "hooks").unless _
  have scripts : Within 126 ["externalScripts"]
      (listField "externalScripts" ExternalScript.toJson component.options.externalScripts) :=
    within_listField (fun script _ => script.readable_toJson 124) "externalScripts"
  have registry : Within 126 ["externalRegistry"]
      (listField "externalRegistry" Json.string component.options.externalRegistry) :=
    within_listField (fun _ _ => readable_string _ _) "externalRegistry"
  exact (((((((described.append (within_states readable theme)).append initial).append
    (within_data readable theme)).append (within_rules readable theme)).append hooks).append
    scripts).append registry).readable (by simp)

end Payload

end LiveMarkup

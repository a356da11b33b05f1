import LiveMarkup.Proofs.Json.Decoding

/-!
# Specifications read back

What is written for a parsed specification is read as the same specification
(`Decoder.lossless_spec`), so its text is a normal form of all the texts that say the same. Each part
is lossless, whatever spelling it came in: choices that had an unknown name keep standing for one,
settings that were left out are written with their default, and null stands for what is absent.
-/

set_option autoImplicit false

namespace LiveMarkup

open Members

/-! ## Names -/

theorem rereads_pattern (p : Pattern) :
    Rereads Decoder.pattern (fun p => .string p.name) p := by
  refine rereads_named ?_
  cases p <;> decide

theorem rereads_fieldKind (k : FieldKind) :
    Rereads Decoder.fieldKind (fun k => .string k.name) k := by
  refine rereads_named ?_
  cases k <;> decide

theorem rereads_comparison (c : Comparison) :
    Rereads Decoder.comparison (fun c => .string c.name) c := by
  refine rereads_named ?_
  cases c <;> decide

theorem rereads_effect (e : Effect) : Rereads Decoder.effect (fun e => .string e.name) e := by
  refine rereads_named ?_
  cases e <;> decide

theorem rereads_triggerEvent (e : TriggerEvent) :
    Rereads Decoder.triggerEvent (fun e => .string e.name) e := by
  refine rereads_named ?_
  cases e <;> decide

/-! ## Panel content -/

namespace Content

/-- The fields of a written element. -/
def elementFields (tag : String) (attributes : StringMap String) (children : List Json) : Fields :=
  [("tag", .string tag), ("attrs", Json.ofTexts attributes), ("children", .array children)]

theorem elementOf_elementFields {tag : String} {attributes : StringMap String}
    {children : List Content}
    (h : Decoder.contentsOf (RawJson.ofItems (Content.listToJson children)) = some children) :
    Decoder.elementOf (.object (RawJson.ofFields
        (elementFields tag attributes (Content.listToJson children)))) =
      some (.element tag attributes children) := by
  have hmembers : Members.ofFields? ["tag", "attrs", "children"] [] 1
      (RawJson.ofFields (elementFields tag attributes (Content.listToJson children))) =
        some (written 1 (elementFields tag attributes (Content.listToJson children))) := by
    refine ofFields?_written ?_ (by decide) (by simp) 1
    exact .refl _
  have htag : (written 1 (elementFields tag attributes (Content.listToJson children))).required
      "tag" Decoder.string = some tag := rfl
  have hattributes : (written 1 (elementFields tag attributes
      (Content.listToJson children))).withDefault "attrs" (Decoder.stringMap Decoder.string) .empty =
        some attributes := by
    refine rereads_texts attributes 1 (Json.nesting_object_le_iff.mpr ⟨0, rfl, ?_⟩)
    intro field member
    obtain ⟨entry, -, rfl⟩ := List.mem_map.mp member
    exact Nat.le_refl 0
  -- Children are decoded by the recursion on contents and not as a member of the record.
  have hchildren : Decoder.childrenIn (RawJson.ofFields
      (elementFields tag attributes (Content.listToJson children))) = some children := h
  rw [Decoder.elementOf, hmembers, Option.bind_some, htag, Option.bind_some, hattributes,
    Option.bind_some, hchildren, Option.map_some]

mutual

/-- Every content is read back from its tagged form. -/
theorem contentOf_toJson : (content : Content) →
    Decoder.contentOf (RawJson.ofJson content.toJson) = some content
  | .text _ => rfl
  | .markup _ => rfl
  | .element _ _ children => elementOf_elementFields (contentsOf_listToJson children)

theorem contentsOf_listToJson : (contents : List Content) →
    Decoder.contentsOf (RawJson.ofItems (Content.listToJson contents)) = some contents
  | [] => rfl
  | content :: rest => by
    rw [Content.listToJson, RawJson.ofItems, Decoder.contentsOf, contentOf_toJson content,
      Option.bind_some, contentsOf_listToJson rest, Option.map_some]

end

mutual

/-- Written content repeats no key, so it can be read wherever it nests no deeper than allowed. -/
theorem readable_toJson : (content : Content) → {limit : Nat} → content.toJson.nesting ≤ limit →
    Json.Readable limit content.toJson
  | .text s, limit, hfits => by
    obtain ⟨inner, rfl, -⟩ := Json.nesting_object_le_iff.mp hfits
    exact Json.readable_object (by simp) (by simp)
  | .markup s, limit, hfits => by
    obtain ⟨inner, rfl, -⟩ := Json.nesting_object_le_iff.mp hfits
    exact Json.readable_object (by simp) (by simp)
  | .element tag attributes children, limit, hfits => by
    -- The tag that says what it is, the fields of the element and the list of its children.
    obtain ⟨outer, rfl, houter⟩ := Json.nesting_object_le_iff.mp hfits
    obtain ⟨middle, rfl, hmiddle⟩ := Json.nesting_object_le_iff.mp (houter _ List.mem_cons_self)
    simp only [List.forall_mem_cons] at hmiddle
    obtain ⟨-, hattributes, hchildren, -⟩ := hmiddle
    obtain ⟨inner, rfl, hinner⟩ := Json.nesting_array_le_iff.mp hchildren
    refine Json.readable_object (by simp) (List.forall_mem_singleton.mpr ?_)
    refine Json.readable_object (by simp) ?_
    simp only [List.forall_mem_cons]
    exact ⟨Json.readable_string _ tag, Json.readable_ofTexts _ attributes,
      Json.readable_array (readable_listToJson children hinner), by simp⟩

theorem readable_listToJson : (contents : List Content) → {limit : Nat} →
    (∀ value ∈ Content.listToJson contents, value.nesting ≤ limit) →
    ∀ value ∈ Content.listToJson contents, Json.Readable limit value
  | [], _, _ => by simp [Content.listToJson]
  | content :: rest, limit, hfits => by
    rw [Content.listToJson, List.forall_mem_cons] at hfits ⊢
    exact ⟨readable_toJson content hfits.1, readable_listToJson rest hfits.2⟩

end

end Content

theorem rereads_content (content : Content) : Rereads Decoder.content Content.toJson content := by
  intro limit hfits
  have hvalue : RawJson.value? limit (RawJson.ofJson content.toJson) = some content.toJson :=
    content.readable_toJson hfits
  rw [Decoder.content, hvalue, Option.bind_some, Content.contentOf_toJson]

/-! ## States -/

theorem rereads_condition {condition : Condition}
    (h : Rereads Decoder.json id condition.expected) :
    Rereads Decoder.condition Condition.toJson condition := by
  refine rereads_record rfl (.refl _) (by decide) (by simp) ?_
  intro limit hfits
  have helement := required_written hfits "componentId" (rereads_string condition.element) rfl
  have hcomparison :=
    withDefault_written hfits "condition" (rereads_comparison condition.comparison) rfl .equals
  have hexpected := withDefault_written hfits "value" h rfl .null
  simp only [helement, hcomparison, hexpected]
  rfl

theorem Decoder.lossless_condition : Decoder.condition.Lossless Condition.toJson := by
  intro depth raw condition read
  unfold Decoder.condition at read
  simp only [Option.bind_eq_bind, Option.bind_eq_some_iff, Option.pure_def, Option.some.injEq] at read
  -- Of all members only the expected value can be of any shape; the others have one written form.
  obtain ⟨members, -, _, -, _, -, expected, given, rfl⟩ := read
  exact rereads_condition (rereads_of_withDefault lossless_json (fun _ _ => rfl) given)

theorem rereads_state {state : State}
    (h : ∀ condition, state.condition = some condition →
      Rereads Decoder.condition Condition.toJson condition) :
    Rereads Decoder.state State.toJson state := by
  refine rereads_record rfl (.refl _) (by decide) (by simp) ?_
  intro limit hfits
  have hid := required_written hfits "id" (rereads_string state.id) rfl
  have hlabel := withDefault_written hfits "label" (rereads_string state.label) rfl ""
  have hicon := optional_text_written hfits "icon" state.icon rfl
  have hactive := withDefault_written hfits "active" (rereads_bool state.active) rfl false
  have hdisabled := withDefault_written hfits "disabled" (rereads_bool state.disabled) rfl false
  have hcondition := optional_written hfits "condition"
    (fun condition given => ⟨h condition given, by simp [Condition.toJson]⟩) rfl
  have hcontent := withDefault_written hfits "content" (rereads_content state.content) rfl (.text "")
  simp only [hid, hlabel, hicon, hactive, hdisabled, hcondition, hcontent]
  rfl

theorem Decoder.lossless_state : Decoder.state.Lossless State.toJson := by
  intro depth raw state read
  unfold Decoder.state at read
  simp only [Option.bind_eq_bind, Option.bind_eq_some_iff, Option.pure_def, Option.some.injEq] at read
  obtain ⟨members, -, _, -, _, -, _, -, _, -, _, -, condition, given, _, -, rfl⟩ := read
  exact rereads_state (rereads_of_optional lossless_condition given)

/-! ## Datasets -/

theorem choiceOf_toJson (choice : Choice) :
    Decoder.choiceOf (RawJson.ofJson choice.toJson) = some choice := rfl

theorem rereads_choice (choice : Choice) :
    Rereads Decoder.fieldChoice Choice.toJson choice := by
  intro limit hfits
  obtain ⟨inner, rfl, -⟩ := Json.nesting_object_le_iff.mp hfits
  have hvalue : Json.Readable (inner + 1) choice.toJson :=
    Json.readable_object (by simp) (by simp)
  rw [Json.Readable] at hvalue
  rw [Decoder.fieldChoice, hvalue, Option.bind_some, choiceOf_toJson]

theorem rereads_choices (choices : List Choice) :
    Rereads (Decoder.list Decoder.fieldChoice) (Json.ofList Choice.toJson) choices :=
  rereads_list fun choice _ => rereads_choice choice

theorem rereads_range (range : FieldRange) :
    Rereads Decoder.fieldRange FieldRange.toJson range := by
  refine rereads_record rfl (.refl _) (by decide) (by simp) ?_
  intro limit hfits
  have hmin := required_written hfits "min" (rereads_float range.min) rfl
  have hmax := required_written hfits "max" (rereads_float range.max) rfl
  have hstep := withDefault_written hfits "step" (rereads_float range.step) rfl (.ofInt 1)
  simp only [hmin, hmax, hstep]
  rfl

theorem rereads_field (field : Field) : Rereads Decoder.field Field.toJson field := by
  refine rereads_record rfl ?_ (by decide) (by simp) ?_
  · simp only [List.map_append]
    have hfirst := List.Sublist.refl ["name", "type", "label"]
    exact ((hfirst.append (Json.sublist_unless _ "options" _)).append
      (Json.sublist_fieldIf "range" _ _)).append (.refl ["searchable"])
  intro limit hfits
  have hname := required_written hfits "name" (rereads_string field.name) rfl
  have hkind := required_written hfits "type" (rereads_fieldKind field.kind) rfl
  have hlabel := withDefault_written hfits "label" (rereads_string field.label) rfl ""
  have hchoices := withDefault_unless hfits "options" (rereads_choices field.choices)
    List.isEmpty_iff.mp (by cases field.choices.isEmpty <;> cases field.range <;> rfl)
  have hrange := optional_fieldIf hfits "range" field.range
    (fun range _ => ⟨rereads_range range, by simp [FieldRange.toJson]⟩)
    (by cases field.choices.isEmpty <;> cases field.range <;> rfl)
  have hsearchable := optional_given hfits "searchable" (rereads_bool field.searchable) nofun
    (by cases field.choices.isEmpty <;> cases field.range <;> rfl)
  simp only [hname, hkind, hlabel, hchoices, hrange, hsearchable]
  rfl

theorem rereads_datasetOptions {options : DatasetOptions}
    (h : Rereads Decoder.natural Json.ofNat options.itemsPerPage) :
    Rereads Decoder.datasetOptions DatasetOptions.toJson options := by
  refine rereads_record rfl (.refl _) (by decide) (by simp) ?_
  intro limit hfits
  have hsearch := withDefault_written hfits "enableSearch" (rereads_bool options.search) rfl
    DatasetOptions.standard.search
  have hpagination := withDefault_written hfits "enablePagination"
    (rereads_bool options.pagination) rfl DatasetOptions.standard.pagination
  have hitems :=
    withDefault_written hfits "itemsPerPage" h rfl DatasetOptions.standard.itemsPerPage
  have hserver := withDefault_written hfits "serverRendered" (rereads_bool options.serverRendered)
    rfl DatasetOptions.standard.serverRendered
  have hrows := withDefault_written hfits "rowSelector" (rereads_string options.rowSelector) rfl
    DatasetOptions.standard.rowSelector
  have hcounter := optional_text_written hfits "counterSelector" options.counterSelector rfl
  have htemplate := optional_text_written hfits "itemTemplate" options.itemTemplate rfl
  simp only [hsearch, hpagination, hitems, hserver, hrows, hcounter, htemplate]
  rfl

theorem rereads_standard_datasetOptions :
    Rereads Decoder.datasetOptions DatasetOptions.toJson .standard :=
  rereads_datasetOptions (rereads_natural (by decide))

theorem Decoder.lossless_datasetOptions :
    Decoder.datasetOptions.Lossless DatasetOptions.toJson := by
  intro depth raw options read
  unfold Decoder.datasetOptions at read
  simp only [Option.bind_eq_bind, Option.bind_eq_some_iff, Option.pure_def, Option.some.injEq] at read
  obtain ⟨members, -, _, -, _, -, items, given, _, -, _, -, _, -, _, -, rfl⟩ := read
  exact rereads_datasetOptions
    (rereads_of_withDefault lossless_natural (rereads_natural (by decide)) given)

theorem rereads_dataset {data : Dataset}
    (hitems : Rereads (Decoder.list Decoder.fields) (Json.ofList Json.object) data.items)
    (hoptions : Rereads Decoder.datasetOptions DatasetOptions.toJson data.options) :
    Rereads Decoder.dataset Dataset.toJson data := by
  refine rereads_record rfl (.refl _) (by decide) (by simp) ?_
  intro limit hfits
  have hrecords := withDefault_written hfits "items" hitems rfl []
  have hschema := withDefault_written hfits "schema"
    (rereads_list fun field (_ : field ∈ data.schema) => rereads_field field) rfl []
  have hshown := withDefault_written hfits "options" hoptions rfl .standard
  simp only [hrecords, hschema, hshown]
  rfl

theorem Decoder.lossless_dataset : Decoder.dataset.Lossless Dataset.toJson := by
  intro depth raw data read
  unfold Decoder.dataset at read
  simp only [Option.bind_eq_bind, Option.bind_eq_some_iff, Option.pure_def, Option.some.injEq] at read
  obtain ⟨members, -, items, hitems, _, -, options, hoptions, rfl⟩ := read
  refine rereads_dataset ?_ ?_
  · exact rereads_of_withDefault lossless_fields.list (rereads_list (by simp)) hitems
  · exact rereads_of_withDefault lossless_datasetOptions rereads_standard_datasetOptions hoptions

/-! ## Rules -/

theorem rereads_trigger {trigger : Trigger} (h : Rereads Decoder.json id trigger.expected) :
    Rereads Decoder.trigger Trigger.toJson trigger := by
  refine rereads_record rfl (.refl _) (by decide) (by simp) ?_
  intro limit hfits
  have helement := required_written hfits "componentId" (rereads_string trigger.element) rfl
  have hevent := withDefault_written hfits "event" (rereads_triggerEvent trigger.event) rfl .change
  have hcomparison :=
    withDefault_written hfits "condition" (rereads_comparison trigger.comparison) rfl .equals
  have hexpected := withDefault_written hfits "value" h rfl .null
  simp only [helement, hevent, hcomparison, hexpected]
  rfl

theorem Decoder.lossless_trigger : Decoder.trigger.Lossless Trigger.toJson := by
  intro depth raw trigger read
  unfold Decoder.trigger at read
  simp only [Option.bind_eq_bind, Option.bind_eq_some_iff, Option.pure_def, Option.some.injEq] at read
  obtain ⟨members, -, _, -, _, -, _, -, expected, given, rfl⟩ := read
  exact rereads_trigger (rereads_of_withDefault lossless_json (fun _ _ => rfl) given)

theorem rereads_action {action : Action}
    (h : ∀ value, action.value = some value → Rereads Decoder.json id value ∧ value ≠ .null) :
    Rereads Decoder.action Action.toJson action := by
  refine rereads_record rfl ?_ (by decide) (by simp) ?_
  · rw [List.map_append]
    exact (List.Sublist.refl ["targetId", "action"]).append (Json.sublist_fieldIf "value" _ _)
  intro limit hfits
  have htarget := required_written hfits "targetId" (rereads_string action.target) rfl
  have heffect := required_written hfits "action" (rereads_effect action.effect) rfl
  have hvalue := optional_fieldIf hfits "value" action.value h (by cases action.value <;> rfl)
  simp only [htarget, heffect, hvalue]
  rfl

theorem Decoder.lossless_action : Decoder.action.Lossless Action.toJson := by
  intro depth raw action read
  unfold Decoder.action at read
  simp only [Option.bind_eq_bind, Option.bind_eq_some_iff, Option.pure_def, Option.some.injEq] at read
  obtain ⟨members, -, _, -, _, -, value, given, rfl⟩ := read
  refine rereads_action ?_
  -- A value that was null has been read as absent, so what is written is not null.
  rintro x rfl
  exact ⟨rereads_of_optional lossless_json given x rfl, ne_null_of_optional given⟩

theorem rereads_rule {rule : Rule}
    (hpriority : Rereads Decoder.int32 (fun n => .number (.ofInt n)) rule.priority)
    (htrigger : Rereads Decoder.trigger Trigger.toJson rule.trigger)
    (hactions : Rereads (Decoder.list Decoder.action) (Json.ofList Action.toJson) rule.actions) :
    Rereads Decoder.rule Rule.toJson rule := by
  refine rereads_record rfl (.refl _) (by decide) (by simp) ?_
  intro limit hfits
  have hid := required_written hfits "id" (rereads_string rule.id) rfl
  have horder := withDefault_written hfits "priority" hpriority rfl 0
  have hwatched := required_written hfits "trigger" htrigger rfl
  have hdone := withDefault_written hfits "actions" hactions rfl []
  simp only [hid, horder, hwatched, hdone]
  rfl

theorem Decoder.lossless_rule : Decoder.rule.Lossless Rule.toJson := by
  intro depth raw rule read
  unfold Decoder.rule at read
  simp only [Option.bind_eq_bind, Option.bind_eq_some_iff, Option.pure_def, Option.some.injEq] at read
  obtain ⟨members, -, _, -, _, hpriority, _, htrigger, _, hactions, rfl⟩ := read
  refine rereads_rule ?_ ?_ ?_
  · exact rereads_of_withDefault lossless_int32 rereads_int32_zero hpriority
  · exact rereads_of_required lossless_trigger htrigger
  · exact rereads_of_withDefault lossless_action.list (rereads_list (by simp)) hactions

/-! ## Options -/

theorem rereads_thresholds {thresholds : Thresholds}
    (hstates : Rereads Decoder.natural Json.ofNat thresholds.prerenderedStates)
    (hclient : Rereads Decoder.natural Json.ofNat thresholds.clientItems)
    (hstateful : Rereads Decoder.natural Json.ofNat thresholds.statefulItems)
    (hpages : Rereads Decoder.natural Json.ofNat thresholds.paginationItems)
    (hrules : Rereads Decoder.natural Json.ofNat thresholds.groupedRules) :
    Rereads Decoder.thresholds Thresholds.toJson thresholds := by
  refine rereads_record rfl (.refl _) (by decide) (by simp) ?_
  intro limit hfits
  have h1 := withDefault_written hfits "maxPrerenderedStates" hstates rfl
    Thresholds.standard.prerenderedStates
  have h2 := withDefault_written hfits "maxClientItems" hclient rfl Thresholds.standard.clientItems
  have h3 := withDefault_written hfits "maxStatefulItems" hstateful rfl
    Thresholds.standard.statefulItems
  have h4 := withDefault_written hfits "paginationItems" hpages rfl
    Thresholds.standard.paginationItems
  have h5 := withDefault_written hfits "ruleGroupingRules" hrules rfl
    Thresholds.standard.groupedRules
  simp only [h1, h2, h3, h4, h5]
  rfl

theorem rereads_standard_thresholds :
    Rereads Decoder.thresholds Thresholds.toJson .standard := by
  refine rereads_thresholds ?_ ?_ ?_ ?_ ?_
  all_goals exact rereads_natural (by decide)

theorem Decoder.lossless_thresholds : Decoder.thresholds.Lossless Thresholds.toJson := by
  intro depth raw thresholds read
  unfold Decoder.thresholds at read
  simp only [Option.bind_eq_bind, Option.bind_eq_some_iff, Option.pure_def, Option.some.injEq] at read
  obtain ⟨members, -, _, h1, _, h2, _, h3, _, h4, _, h5, rfl⟩ := read
  have hnatural : ∀ {name : String} {n default : Nat}, FitsWord default →
      members.withDefault name natural default = some n → Rereads natural Json.ofNat n :=
    fun fits given => rereads_of_withDefault lossless_natural (rereads_natural fits) given
  exact rereads_thresholds (hnatural (by decide) h1) (hnatural (by decide) h2)
    (hnatural (by decide) h3) (hnatural (by decide) h4) (hnatural (by decide) h5)

theorem rereads_externalScript (script : ExternalScript) :
    Rereads Decoder.externalScript ExternalScript.toJson script := by
  refine rereads_record rfl ?_ (by decide) (by simp) ?_
  · rw [List.map_append]
    exact (List.Sublist.refl ["src", "required", "async", "defer"]).append
      (Json.sublist_fieldIf "onLoad" _ _)
  intro limit hfits
  have hsrc := required_written hfits "src" (rereads_string script.src) rfl
  have hrequired := withDefault_written hfits "required" (rereads_bool script.required) rfl false
  have hasync := withDefault_written hfits "async" (rereads_bool script.asynchronous) rfl false
  have hdefer := withDefault_written hfits "defer" (rereads_bool script.deferred) rfl false
  have honLoad := optional_text_fieldIf hfits "onLoad" script.onLoad
    (by cases script.onLoad <;> rfl)
  simp only [hsrc, hrequired, hasync, hdefer, honLoad]
  rfl

theorem rereads_hookCode (hooks : HookCode) : Rereads Decoder.hookCode HookCode.toJson hooks := by
  refine rereads_record rfl ?_ (by decide) (by simp) ?_
  · simp only [List.map_append]
    have hbefore := Json.sublist_fieldIf "beforeInit" Json.string hooks.beforeInit
    have hafter := Json.sublist_fieldIf "afterInit" Json.string hooks.afterInit
    have hleave := Json.sublist_fieldIf "beforeStateChange" Json.string hooks.beforeStateChange
    have henter := Json.sublist_fieldIf "afterStateChange" Json.string hooks.afterStateChange
    have hstates :=
      Json.sublist_unless hooks.stateHooks.isEmpty "stateHooks" (Json.ofTexts hooks.stateHooks)
    have hfilter := Json.sublist_fieldIf "afterFilter" Json.string hooks.afterFilter
    have hdestroy := Json.sublist_fieldIf "onDestroy" Json.string hooks.onDestroy
    exact (((((hbefore.append hafter).append hleave).append henter).append hstates).append
      hfilter).append hdestroy
  intro limit hfits
  have h1 := optional_text_fieldIf hfits "beforeInit" hooks.beforeInit
    (by simp [List.lookup_append, Json.lookup_fieldIf, Json.lookup_unless])
  have h2 := optional_text_fieldIf hfits "afterInit" hooks.afterInit
    (by simp [List.lookup_append, Json.lookup_fieldIf, Json.lookup_unless])
  have h3 := optional_text_fieldIf hfits "beforeStateChange" hooks.beforeStateChange
    (by simp [List.lookup_append, Json.lookup_fieldIf, Json.lookup_unless])
  have h4 := optional_text_fieldIf hfits "afterStateChange" hooks.afterStateChange
    (by simp [List.lookup_append, Json.lookup_fieldIf, Json.lookup_unless])
  have h5 := withDefault_unless hfits "stateHooks" (rereads_texts hooks.stateHooks)
    StringMap.eq_empty_of_isEmpty
    (by simp [List.lookup_append, Json.lookup_fieldIf, Json.lookup_unless])
  have h6 := optional_text_fieldIf hfits "afterFilter" hooks.afterFilter
    (by simp [List.lookup_append, Json.lookup_fieldIf, Json.lookup_unless])
  have h7 := optional_text_fieldIf hfits "onDestroy" hooks.onDestroy
    (by simp [List.lookup_append, Json.lookup_fieldIf, Json.lookup_unless])
  simp only [h1, h2, h3, h4, h5, h6, h7]
  rfl

theorem rereads_options {options : Options}
    (h : Rereads Decoder.thresholds Thresholds.toJson options.thresholds) :
    Rereads Decoder.options Options.toJson options := by
  refine rereads_record rfl (.refl _) (by decide) (by decide) ?_
  intro limit hfits
  have hthresholds := withDefault_written hfits "thresholds" h rfl .standard
  have hfallback :=
    withDefault_written hfits "fallbackPattern" (rereads_pattern options.fallbackPattern) rfl .empty
  have hforce := optional_text_written hfits "forcePattern" options.forcePattern rfl
  have hminify := withDefault_written hfits "minifyJS" (rereads_bool options.minify) rfl false
  have hscripts := withDefault_written hfits "externalScripts" (rereads_list
    fun script (_ : script ∈ options.externalScripts) => rereads_externalScript script) rfl []
  have hregistry := withDefault_written hfits "externalRegistry" (rereads_list
    fun name (_ : name ∈ options.externalRegistry) => rereads_string name) rfl []
  have hhooks := withDefault_written hfits "hooks" (rereads_hookCode options.hooks) rfl .empty
  have hattributes := withDefault_written hfits "customAttributes"
    (rereads_texts options.customAttributes) rfl .empty
  simp only [hthresholds, hfallback, hforce, hminify, hscripts, hregistry, hhooks, hattributes]
  rfl

theorem Decoder.lossless_options : Decoder.options.Lossless Options.toJson := by
  intro depth raw options read
  unfold Decoder.options at read
  simp only [Option.bind_eq_bind, Option.bind_eq_some_iff, Option.pure_def, Option.some.injEq] at read
  obtain ⟨members, -, _, given, _, -, _, -, _, -, _, -, _, -, _, -, _, -, rfl⟩ := read
  exact rereads_options
    (rereads_of_withDefault lossless_thresholds rereads_standard_thresholds given)

/-! ## Specifications -/

theorem rereads_standard_options : Rereads Decoder.options Options.toJson .standard :=
  rereads_options rereads_standard_thresholds

theorem rereads_spec {spec : Spec}
    (hstates : ∀ states, spec.states = some states →
      Rereads (Decoder.list Decoder.state) (Json.ofList State.toJson) states)
    (hdata : ∀ data, spec.data = some data → Rereads Decoder.dataset Dataset.toJson data)
    (hrules : ∀ rules, spec.rules = some rules →
      Rereads (Decoder.list Decoder.rule) (Json.ofList Rule.toJson) rules)
    (hoptions : Rereads Decoder.options Options.toJson spec.options)
    (htheme : ∀ theme, spec.theme = some theme → Rereads Decoder.json id theme ∧ theme ≠ .null) :
    Rereads Decoder.spec Spec.toJson spec := by
  refine rereads_record rfl (.refl _) (by decide) (by simp) ?_
  intro limit hfits
  have hid := required_written hfits "id" (rereads_string spec.id) rfl
  have hviews := optional_written hfits "states"
    (fun states given => ⟨hstates states given, nofun⟩) rfl
  have hrecords := optional_written hfits "data"
    (fun data given => ⟨hdata data given, nofun⟩) rfl
  have hwatches := optional_written hfits "rules"
    (fun rules given => ⟨hrules rules given, nofun⟩) rfl
  have hsettings := withDefault_written hfits "options" hoptions rfl .standard
  have hlook := optional_written hfits "theme" htheme (by cases spec.theme <;> rfl)
  simp only [hid, hviews, hrecords, hwatches, hsettings, hlook]
  rfl

/-- Whatever was read as a specification is read back from what is written for it. -/
theorem Decoder.lossless_spec : Decoder.spec.Lossless Spec.toJson := by
  intro depth raw spec read
  unfold Decoder.spec at read
  simp only [Option.bind_eq_bind, Option.bind_eq_some_iff, Option.pure_def, Option.some.injEq] at read
  obtain ⟨members, -, _, -, states, hstates, data, hdata, rules, hrules, options, hoptions, theme,
    htheme, rfl⟩ := read
  refine rereads_spec ?_ ?_ ?_ ?_ ?_
  · exact rereads_of_optional lossless_state.list hstates
  · exact rereads_of_optional lossless_dataset hdata
  · exact rereads_of_optional lossless_rule.list hrules
  · exact rereads_of_withDefault lossless_options rereads_standard_options hoptions
  · rintro x rfl
    exact ⟨rereads_of_optional lossless_json htheme x rfl, ne_null_of_optional htheme⟩

/-- A specification that can be written: its JSON form nests no deeper than a reader allows, and its
floats are read back from their texts. -/
structure Spec.Writable (spec : Spec) : Prop where
  nesting : spec.toJson.nesting ≤ RawJson.nestingLimit
  floats : ∀ x, .float x ∈ spec.toJson.numbers → (JsonNumber.float x).ReadsBack

theorem Spec.Writable.ofText?_compact {text : String} {spec : Spec} (writable : spec.Writable)
    (parsed : Spec.ofText? text = some spec) : Spec.ofText? spec.toJson.compact = some spec := by
  obtain ⟨raw, -, read⟩ := Option.bind_eq_some_iff.mp parsed
  have back := Json.readsBack_of_floats writable.floats
  rw [Spec.ofText?, RawJson.ofText?_compact back, Option.bind_some]
  exact Decoder.lossless_spec _ raw spec read _ writable.nesting

/-- A parsed specification that can be written is read back from its compact text, and no other such
specification has that text. -/
theorem Spec.compact_canonical {text : String} {spec : Spec}
    (parsed : Spec.ofText? text = some spec) (writable : spec.Writable) :
    Spec.ofText? spec.toJson.compact = some spec ∧
      ∀ source other, Spec.ofText? source = some other → other.Writable →
        (other.toJson.compact = spec.toJson.compact ↔ other = spec) := by
  have hspec := writable.ofText?_compact parsed
  refine ⟨hspec, ?_⟩
  intro source other hother hwritable
  constructor
  · intro same
    have hback := hwritable.ofText?_compact hother
    rw [same, hspec] at hback
    exact (Option.some.inj hback).symm
  · rintro rfl
    rfl

/-- A specification in short spellings: an element as an array, an unknown kind of field, bounds as
integers and the second spelling of an option. -/
def Spec.shortText : String :=
  "\x7b\"id\":\"a\",\"states\":[" ++
    "\x7b\"id\":\"s\",\"content\":\x7b\"element\":[\"p\",\x7b\x7d,[\"x\"]]\x7d\x7d]," ++
    "\"data\":\x7b\"schema\":[" ++
    "\x7b\"type\":\"dial\",\"name\":\"n\",\"range\":\x7b\"min\":0,\"max\":2.5\x7d\x7d]\x7d," ++
    "\"options\":\x7b\"minifyJs\":true\x7d\x7d"

/-- It is written in full, and read back. -/
theorem Spec.compact_canonical_short :
    ∃ spec, Spec.ofText? shortText = some spec ∧ spec.toJson.compact ≠ shortText ∧ spec.Writable ∧
      Spec.ofText? spec.toJson.compact = some spec := by
  have known : (Spec.ofText? shortText).any (fun spec => spec.toJson.compact != shortText &&
      decide (spec.toJson.nesting ≤ RawJson.nestingLimit) &&
      spec.toJson.numbers.all fun n => decide n.ReadsBack) = true := by
    decide +kernel
  obtain ⟨spec, parsed, known⟩ := (Option.any_eq_true _ _).mp known
  simp only [Bool.and_eq_true, bne_iff_ne, decide_eq_true_eq] at known
  obtain ⟨⟨longer, nesting⟩, back⟩ := known
  have writable : spec.Writable :=
    ⟨nesting, fun x member => of_decide_eq_true (List.all_eq_true.mp back _ member)⟩
  exact ⟨spec, parsed, longer, writable, (compact_canonical parsed writable).1⟩

end LiveMarkup

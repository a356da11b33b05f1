import LiveMarkup.Component.Reader
import LiveMarkup.Proofs.Component.Acceptance
import LiveMarkup.Proofs.Json.Readable

/-!
# What a parsed specification carries along

Records, expected values and values of actions are carried along as they were read. A payload puts
each of them where at least as many arrays and objects may nest as where it was read, so it can be
read again there: `Inputs.Readable` counts for each place what may nest in it
(`Spec.inputs_readable`).
-/

set_option autoImplicit false

namespace LiveMarkup

/-! ## Members of records -/

namespace Members

/-- The members of a record may nest one level less than the record. -/
theorem depth_of_ofRaw? {names : List String} {aliases : List (String × String)} {depth : Nat}
    {raw : RawJson} {members : Members} (read : ofRaw? names aliases depth raw = some members) :
    members.depth = depth - 1 := by
  unfold ofRaw? at read
  split at read
  · obtain ⟨present, -, rfl⟩ := Option.map_eq_some_iff.mp read
    rfl
  · obtain ⟨-, same⟩ := Option.ite_none_right_eq_some.mp read
    obtain rfl := Option.some.inj same
    rfl
  · cases read

theorem exists_of_required {α : Type} {members : Members} {name : String} {decode : Decoder α}
    {value : α} (read : members.required name decode = some value) :
    ∃ raw, decode members.depth raw = some value := by
  obtain ⟨raw, -, read⟩ := Option.bind_eq_some_iff.mp read
  exact ⟨raw, read⟩

theorem exists_of_withDefault {α : Type} {members : Members} {name : String} {decode : Decoder α}
    {default value : α} (read : members.withDefault name decode default = some value) :
    value = default ∨ ∃ raw, decode members.depth raw = some value := by
  unfold withDefault at read
  split at read
  · exact .inr ⟨_, read⟩
  · exact .inl (Option.some.inj read).symm

theorem exists_of_optional {α : Type} {members : Members} {name : String} {decode : Decoder α}
    {value : α} (read : members.optional name decode = some (some value)) :
    ∃ raw, decode members.depth raw = some value := by
  rcases exists_of_withDefault read with none | ⟨raw, read⟩
  · cases none
  · unfold Decoder.nullable at read
    split at read
    · cases read
    · obtain ⟨given, decoded, same⟩ := Option.map_eq_some_iff.mp read
      obtain rfl := Option.some.inj same
      exact ⟨_, decoded⟩

/-- A value that may be left out for null can be read again. -/
theorem readable_of_withDefault {members : Members} {name : String} {value : Json}
    (read : members.withDefault name Decoder.json .null = some value) :
    Json.Readable members.depth value := by
  rcases exists_of_withDefault read with rfl | ⟨raw, read⟩
  · exact Json.readable_null _
  · exact Json.readable_of_value? raw read

end Members

namespace Decoder

/-! ## Parts of specifications -/

theorem exists_mem_of_mem_mapM {α β : Type} {f : α → Option β} {list : List α} {images : List β}
    (mapped : list.mapM f = some images) : ∀ y ∈ images, ∃ x ∈ list, f x = some y := by
  induction list generalizing images with
  | nil =>
    obtain rfl := Option.some.inj mapped
    simp
  | cons x rest ih =>
    simp only [List.mapM_cons, Option.bind_eq_bind, Option.bind_eq_some_iff, Option.pure_def,
      Option.some.injEq] at mapped
    obtain ⟨y, first, others, mapped, rfl⟩ := mapped
    refine List.forall_mem_cons.mpr ⟨⟨x, List.mem_cons_self, first⟩, ?_⟩
    intro y member
    obtain ⟨x, later, image⟩ := ih mapped y member
    exact ⟨x, List.mem_cons_of_mem _ later, image⟩

/-- The items of a list may nest one level less than the list. -/
theorem exists_of_list {α : Type} {decode : Decoder α} {depth : Nat} {raw : RawJson}
    {values : List α} (read : list decode depth raw = some values) :
    ∀ value ∈ values, ∃ item, decode (depth - 1) item = some value := by
  intro value member
  unfold list at read
  split at read
  · obtain ⟨item, -, decoded⟩ := exists_mem_of_mem_mapM read value member
    exact ⟨item, decoded⟩
  · cases read

/-- A record of any values can be read again. -/
theorem readable_of_fields {depth : Nat} {raw : RawJson} {record : Fields}
    (read : fields depth raw = some record) : Json.Readable depth (.object record) := by
  obtain ⟨given, listed, rfl⟩ := Option.map_eq_some_iff.mp read
  unfold entries at listed
  split at listed
  · obtain ⟨apart, among⟩ := Fields.ofList_facts given
    refine Json.readable_object apart ?_
    intro field member
    obtain ⟨⟨key, item⟩, -, decoded⟩ := exists_mem_of_mem_mapM listed field (among field member)
    obtain ⟨key, -, decoded⟩ := Option.bind_eq_some_iff.mp decoded
    obtain ⟨value, inner, rfl⟩ := Option.map_eq_some_iff.mp decoded
    exact Json.readable_of_value? item inner
  · cases listed

theorem readable_of_condition {depth : Nat} {raw : RawJson} {condition : Condition}
    (read : Decoder.condition depth raw = some condition) :
    Json.Readable (depth - 1) condition.expected := by
  unfold Decoder.condition at read
  simp only [Option.bind_eq_bind, Option.bind_eq_some_iff, Option.pure_def, Option.some.injEq] at read
  obtain ⟨members, ofRaw, element, -, comparison, -, expected, given, rfl⟩ := read
  rw [← Members.depth_of_ofRaw? ofRaw]
  exact Members.readable_of_withDefault given

theorem readable_of_state {depth : Nat} {raw : RawJson} {state : State}
    (read : Decoder.state depth raw = some state) :
    ∀ condition, state.condition = some condition →
      Json.Readable (depth - 1 - 1) condition.expected := by
  unfold Decoder.state at read
  simp only [Option.bind_eq_bind, Option.bind_eq_some_iff, Option.pure_def, Option.some.injEq] at read
  obtain ⟨members, ofRaw, _, -, _, -, _, -, _, -, _, -, condition, given, _, -, rfl⟩ := read
  rintro condition rfl
  obtain ⟨raw, decoded⟩ := Members.exists_of_optional given
  rw [← Members.depth_of_ofRaw? ofRaw]
  exact readable_of_condition decoded

theorem readable_of_dataset {depth : Nat} {raw : RawJson} {data : Dataset}
    (read : Decoder.dataset depth raw = some data) :
    ∀ record ∈ data.items, Json.Readable (depth - 1 - 1) (.object record) := by
  unfold Decoder.dataset at read
  simp only [Option.bind_eq_bind, Option.bind_eq_some_iff, Option.pure_def, Option.some.injEq] at read
  obtain ⟨members, ofRaw, items, given, _, -, _, -, rfl⟩ := read
  intro record member
  rcases Members.exists_of_withDefault given with rfl | ⟨raw, decoded⟩
  · cases member
  · obtain ⟨item, decoded⟩ := exists_of_list decoded record member
    rw [← Members.depth_of_ofRaw? ofRaw]
    exact readable_of_fields decoded

theorem readable_of_trigger {depth : Nat} {raw : RawJson} {trigger : Trigger}
    (read : Decoder.trigger depth raw = some trigger) :
    Json.Readable (depth - 1) trigger.expected := by
  unfold Decoder.trigger at read
  simp only [Option.bind_eq_bind, Option.bind_eq_some_iff, Option.pure_def, Option.some.injEq] at read
  obtain ⟨members, ofRaw, _, -, _, -, _, -, expected, given, rfl⟩ := read
  rw [← Members.depth_of_ofRaw? ofRaw]
  exact Members.readable_of_withDefault given

theorem readable_of_action {depth : Nat} {raw : RawJson} {action : Action}
    (read : Decoder.action depth raw = some action) :
    ∀ value, action.value = some value → Json.Readable (depth - 1) value := by
  unfold Decoder.action at read
  simp only [Option.bind_eq_bind, Option.bind_eq_some_iff, Option.pure_def, Option.some.injEq] at read
  obtain ⟨members, ofRaw, _, -, _, -, value, given, rfl⟩ := read
  rintro value rfl
  obtain ⟨raw, decoded⟩ := Members.exists_of_optional given
  rw [← Members.depth_of_ofRaw? ofRaw]
  exact Json.readable_of_value? raw decoded

theorem readable_of_rule {depth : Nat} {raw : RawJson} {rule : Rule}
    (read : Decoder.rule depth raw = some rule) :
    Json.Readable (depth - 1 - 1) rule.trigger.expected ∧
      ∀ action ∈ rule.actions, ∀ value, action.value = some value →
        Json.Readable (depth - 1 - 1 - 1) value := by
  unfold Decoder.rule at read
  simp only [Option.bind_eq_bind, Option.bind_eq_some_iff, Option.pure_def, Option.some.injEq] at read
  obtain ⟨members, ofRaw, _, -, _, -, trigger, watched, actions, given, rfl⟩ := read
  rw [← Members.depth_of_ofRaw? ofRaw]
  obtain ⟨raw, decoded⟩ := Members.exists_of_required watched
  refine ⟨readable_of_trigger decoded, ?_⟩
  intro action member
  rcases Members.exists_of_withDefault given with rfl | ⟨raw, decoded⟩
  · cases member
  · obtain ⟨item, decoded⟩ := exists_of_list decoded action member
    exact readable_of_action decoded

end Decoder

/-! ## Specifications -/

/-- What inputs carry along can be read again in its place in a payload, which nests as the
specification does. -/
structure Inputs.Readable (inputs : Inputs) : Prop where
  conditions : ∀ states, inputs.states = some states → ∀ state ∈ states,
    ∀ condition, state.condition = some condition → Json.Readable 123 condition.expected
  records : ∀ data, inputs.data = some data →
    ∀ record ∈ data.items, Json.Readable 124 (.object record)
  triggers : ∀ rules, inputs.rules = some rules → ∀ rule ∈ rules,
    Json.Readable 123 rule.trigger.expected
  actions : ∀ rules, inputs.rules = some rules → ∀ rule ∈ rules, ∀ action ∈ rule.actions,
    ∀ value, action.value = some value → Json.Readable 122 value

/-- The inputs of a parsed specification can be read again, whatever options it is built with. -/
theorem Spec.inputs_readable {text : String} {spec : Spec} {options : Options}
    {component : Component} (parsed : Spec.ofText? text = some spec)
    (built : Spec.component { spec with options } = .ok component) :
    component.inputs.Readable := by
  rw [(Component.make_eq_ok_iff.mp built).2.1]
  obtain ⟨raw, -, read⟩ := Option.bind_eq_some_iff.mp parsed
  unfold Decoder.spec at read
  simp only [Option.bind_eq_bind, Option.bind_eq_some_iff, Option.pure_def, Option.some.injEq] at read
  obtain ⟨members, ofRaw, _, -, states, hstates, data, hdata, rules, hrules, _, -, _, -, rfl⟩ := read
  have depth : members.depth = 126 := Members.depth_of_ofRaw? ofRaw
  -- Without inputs that are empty these are the lists and the dataset that were read.
  have ruleRead : ∀ given, rules.filter (fun rules => !rules.isEmpty) = some given →
      ∀ rule ∈ given, ∃ item, Decoder.rule 125 item = some rule := by
    intro given kept
    obtain ⟨rfl, -⟩ := Option.filter_eq_some_iff.mp kept
    obtain ⟨raw, decoded⟩ := Members.exists_of_optional hrules
    rw [depth] at decoded
    exact Decoder.exists_of_list decoded
  refine ⟨?_, ?_, ?_, ?_⟩
  · intro given kept state member
    obtain ⟨rfl, -⟩ := Option.filter_eq_some_iff.mp kept
    obtain ⟨raw, decoded⟩ := Members.exists_of_optional hstates
    rw [depth] at decoded
    obtain ⟨item, decoded⟩ := Decoder.exists_of_list decoded state member
    exact Decoder.readable_of_state decoded
  · intro given kept
    obtain ⟨rfl, -⟩ := Option.filter_eq_some_iff.mp kept
    obtain ⟨raw, decoded⟩ := Members.exists_of_optional hdata
    rw [depth] at decoded
    exact Decoder.readable_of_dataset decoded
  · intro given kept rule member
    obtain ⟨item, decoded⟩ := ruleRead given kept rule member
    exact (Decoder.readable_of_rule decoded).1
  · intro given kept rule member
    obtain ⟨item, decoded⟩ := ruleRead given kept rule member
    exact (Decoder.readable_of_rule decoded).2

end LiveMarkup

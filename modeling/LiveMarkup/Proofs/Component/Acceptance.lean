import LiveMarkup.Component.Basic
import Mathlib.Data.List.Induction
import Mathlib.Data.List.Nodup

/-!
# Accepted components

`Valid` says which parts make a component, and `FirstFault` what is reported of all others: of everything
that is wrong with them the first, in the order id, states, hooks of states, fields, rules, and in each
list by position. The check goes through the list of states with the ids before each of them in mind, so
states that are in order up to a place are passed (`stateError?_append`). The other lists are searched for
their first fault. `Component.make` accepts exactly the valid parts and reports the first fault of the
others (`Component.make_reports_first_fault`).
-/

set_option autoImplicit false

namespace LiveMarkup

/-! ## Fields -/

namespace Field

/-- A field to filter by: it has a name, and it carries bounds in order exactly if it is a range field. -/
structure Valid (field : Field) : Prop where
  named : Text.isBlank field.name = false
  bounded : field.range.isSome = true ↔ field.kind = .range
  ordered : ∀ range, field.range = some range → range.min.position ≤ range.max.position

/-- What is wrong with a field: its name first, then its bounds. -/
inductive Faulty (field : Field) : FieldFault → Prop where
  | blankName (blank : Text.isBlank field.name = true) : Faulty field .blankName
  | rangeMissing (named : Text.isBlank field.name = false) (kind : field.kind = .range)
      (missing : field.range = none) : Faulty field .rangeMissing
  | rangeReversed {range : FieldRange} (named : Text.isBlank field.name = false)
      (kind : field.kind = .range) (given : field.range = some range)
      (reversed : range.max.position < range.min.position) : Faulty field .rangeReversed
  | rangeOnOther (named : Text.isBlank field.name = false) (kind : field.kind ≠ .range)
      (given : field.range.isSome = true) : Faulty field (.rangeOnOther field.kind)

variable {field : Field}

theorem fault?_of_blank (blank : Text.isBlank field.name = true) :
    field.fault? = some .blankName := if_pos blank

/-- The check of the bounds, behind that of the name. -/
theorem fault?_of_named (named : Text.isBlank field.name = false) :
    field.fault? =
      if field.kind = .range then
        match field.range with
        | none => some .rangeMissing
        | some range => if range.max.less range.min then some .rangeReversed else none
      else field.range.map fun _ => .rangeOnOther field.kind := by
  rw [fault?, if_neg (by rw [named]; exact Bool.false_ne_true)]
  cases field.kind <;> cases field.range <;> rfl

theorem fault?_eq_some_iff {fault : FieldFault} : field.fault? = some fault ↔ field.Faulty fault := by
  constructor
  · intro found
    cases blank : Text.isBlank field.name with
    | true =>
      rw [fault?_of_blank blank, Option.some.injEq] at found
      exact found ▸ .blankName blank
    | false =>
      rw [fault?_of_named blank] at found
      by_cases kind : field.kind = .range
      · rw [if_pos kind] at found
        cases given : field.range with
        | none =>
          rw [given] at found
          exact Option.some.inj found ▸ .rangeMissing blank kind given
        | some range =>
          rw [given] at found
          simp only [Option.ite_none_right_eq_some, Option.some.injEq] at found
          exact found.2 ▸ .rangeReversed blank kind given (of_decide_eq_true found.1)
      · rw [if_neg kind, Option.map_eq_some_iff] at found
        obtain ⟨range, given, rfl⟩ := found
        exact .rangeOnOther blank kind (by rw [given]; rfl)
  · intro faulty
    cases faulty with
    | blankName blank => exact fault?_of_blank blank
    | rangeMissing named kind missing => rw [fault?_of_named named, if_pos kind, missing]
    | rangeReversed named kind given reversed =>
      rw [fault?_of_named named, if_pos kind, given]
      exact if_pos (decide_eq_true reversed)
    | rangeOnOther named kind given =>
      obtain ⟨range, given⟩ := Option.isSome_iff_exists.mp given
      rw [fault?_of_named named, if_neg kind, given]
      rfl

theorem fault?_eq_none_iff : field.fault? = none ↔ field.Valid := by
  constructor
  · intro sound
    have unfaulty : ∀ fault, ¬field.Faulty fault := by
      intro fault faulty
      rw [fault?_eq_some_iff.mpr faulty] at sound
      cases sound
    have named : Text.isBlank field.name = false := by
      rw [← Bool.not_eq_true]
      exact fun blank => unfaulty _ (.blankName blank)
    refine ⟨named, ⟨fun given => ?_, fun kind => ?_⟩, fun range given => ?_⟩
    · exact Decidable.not_not.mp fun kind => unfaulty _ (.rangeOnOther named kind given)
    · rw [Option.isSome_iff_ne_none]
      exact fun missing => unfaulty _ (.rangeMissing named kind missing)
    · apply Int.not_lt.mp
      intro reversed
      have kind : field.kind = .range := Decidable.not_not.mp fun kind =>
        unfaulty _ (.rangeOnOther named kind (by rw [given]; rfl))
      exact unfaulty _ (.rangeReversed named kind given reversed)
  · rintro ⟨named, bounded, ordered⟩
    rw [Option.eq_none_iff_forall_ne_some]
    intro fault found
    cases fault?_eq_some_iff.mp found with
    | blankName blank => cases named.symm.trans blank
    | rangeMissing _ kind missing =>
      have given := bounded.mpr kind
      rw [missing] at given
      cases given
    | rangeReversed _ _ given reversed => exact Int.not_lt.mpr (ordered _ given) reversed
    | rangeOnOther _ kind given => exact kind (bounded.mp given)

end Field

/-! ## States -/

/-- States with ids that differ from one another, none of them blank. -/
structure StatesValid (states : List State) : Prop where
  named : ∀ state ∈ states, Text.isBlank state.id = false
  distinct : (states.map State.id).Nodup

/-- What is wrong with the first state that does not go with those before it. -/
inductive StateFault (states : List State) : ComponentError → Prop where
  | empty {before after : List State} {state : State} (split : states = before ++ state :: after)
      (earlier : StatesValid before) (blank : Text.isBlank state.id = true) :
      StateFault states (.emptyStateId before.length)
  | duplicate {before after : List State} {state : State} (split : states = before ++ state :: after)
      (earlier : StatesValid before) (named : Text.isBlank state.id = false)
      (repeated : state.id ∈ before.map State.id) :
      StateFault states (.duplicateStateId state.id)

theorem statesValid_nil : StatesValid [] := ⟨by simp, .nil⟩

theorem statesValid_concat_iff {states : List State} {last : State} :
    StatesValid (states ++ [last]) ↔ StatesValid states ∧ Text.isBlank last.id = false ∧
      last.id ∉ states.map State.id := by
  constructor
  · rintro ⟨named, distinct⟩
    rw [List.map_append, List.map_singleton, List.nodup_append] at distinct
    obtain ⟨earlier, -, apart⟩ := distinct
    refine ⟨⟨fun state member => named state (List.mem_append_left _ member), earlier⟩,
      named last (by simp), fun repeated => apart _ repeated _ (List.mem_singleton_self _) rfl⟩
  · rintro ⟨⟨named, distinct⟩, lastNamed, fresh⟩
    refine ⟨?_, ?_⟩
    · intro state member
      rcases List.mem_append.mp member with earlier | last
      · exact named state earlier
      · rw [List.mem_singleton.mp last]
        exact lastNamed
    · rw [List.map_append, List.map_singleton]
      refine distinct.append (List.nodup_singleton _) ?_
      intro id earlier last
      rw [List.mem_singleton.mp last] at earlier
      exact fresh earlier

theorem StateFault.append {states : List State} {error : ComponentError}
    (fault : StateFault states error) (more : List State) : StateFault (states ++ more) error := by
  cases fault with
  | empty split earlier blank =>
    exact .empty (by rw [split, List.append_assoc, List.cons_append]) earlier blank
  | duplicate split earlier named repeated =>
    exact .duplicate (by rw [split, List.append_assoc, List.cons_append]) earlier named repeated

/-- Something is wrong with states that are not in order. -/
theorem statesValid_or_fault (states : List State) :
    StatesValid states ∨ ∃ error, StateFault states error := by
  induction states using List.reverseRecOn with
  | nil => exact .inl statesValid_nil
  | append_singleton states last ih =>
    rcases ih with earlier | ⟨error, fault⟩
    · cases blank : Text.isBlank last.id with
      | true => exact .inr ⟨_, .empty rfl earlier blank⟩
      | false =>
        by_cases repeated : last.id ∈ states.map State.id
        · exact .inr ⟨_, .duplicate rfl earlier blank repeated⟩
        · exact .inl (statesValid_concat_iff.mpr ⟨earlier, blank, repeated⟩)
    · exact .inr ⟨error, fault.append [last]⟩

namespace Inputs

/-- States that are in order with those before them are passed. -/
theorem stateError?_append {passed before : List State} (valid : StatesValid (passed ++ before))
    (states : List State) :
    stateError? (passed.map State.id) passed.length (before ++ states) =
      stateError? ((passed ++ before).map State.id) (passed ++ before).length states := by
  induction before generalizing passed with
  | nil => rw [List.nil_append, List.append_nil]
  | cons state rest ih =>
    rw [List.append_cons] at valid
    have step : StatesValid (passed ++ [state]) :=
      ⟨fun other member => valid.named other (List.mem_append_left _ member),
        (List.map_append ▸ valid.distinct).of_append_left⟩
    obtain ⟨-, named, fresh⟩ := statesValid_concat_iff.mp step
    have rest := ih valid
    rw [← List.append_cons, List.map_append, List.length_append] at rest
    rw [← rest, List.cons_append, stateError?, if_neg (by rw [named]; exact Bool.false_ne_true),
      if_neg (by rw [List.contains_iff_mem]; exact fresh)]
    rfl

/-- Where states stop being in order, the check finds it. -/
theorem stateError?_of_fault {states : List State} {error : ComponentError}
    (fault : StateFault states error) : stateError? [] 0 states = some error := by
  cases fault with
  | empty split earlier blank =>
    rw [split]
    exact (@stateError?_append [] _ earlier _).trans (if_pos blank)
  | duplicate split earlier named repeated =>
    rw [split]
    refine (@stateError?_append [] _ earlier _).trans ((if_neg ?_).trans (if_pos ?_))
    · rw [named]
      exact Bool.false_ne_true
    · exact List.contains_iff_mem.mpr repeated

theorem stateError?_of_valid {states : List State} (valid : StatesValid states) :
    stateError? [] 0 states = none := by
  have passed := @stateError?_append [] _ valid []
  rw [List.append_nil] at passed
  exact passed

theorem stateError?_eq_none_iff {states : List State} :
    stateError? [] 0 states = none ↔ StatesValid states := by
  refine ⟨fun sound => ?_, stateError?_of_valid⟩
  rcases statesValid_or_fault states with valid | ⟨error, fault⟩
  · exact valid
  · cases (stateError?_of_fault fault).symm.trans sound

theorem stateError?_eq_some_iff {states : List State} {error : ComponentError} :
    stateError? [] 0 states = some error ↔ StateFault states error := by
  refine ⟨fun found => ?_, stateError?_of_fault⟩
  rcases statesValid_or_fault states with valid | ⟨other, fault⟩
  · cases (stateError?_of_valid valid).symm.trans found
  · exact Option.some.inj ((stateError?_of_fault fault).symm.trans found) ▸ fault

/-! ## Inputs -/

/-- The states of the inputs. -/
def stateList (inputs : Inputs) : List State := inputs.states.getD []

/-- The declared fields of the inputs. -/
def fieldList (inputs : Inputs) : List Field := (inputs.data.map Dataset.schema).getD []

/-- The rules of the inputs. -/
def ruleList (inputs : Inputs) : List Rule := inputs.rules.getD []

/-- Whether a state has the id. -/
def Declares (inputs : Inputs) (id : String) : Prop := ∃ state ∈ inputs.stateList, state.id = id

/-- Every hook of a state is one of a declared state. -/
def HooksKnown (inputs : Inputs) (options : Options) : Prop :=
  ∀ id ∈ options.hooks.stateHooks.keys, inputs.Declares id

/-- Every declared field is valid. -/
def FieldsValid (inputs : Inputs) : Prop := ∀ field ∈ inputs.fieldList, field.Valid

/-- Every rule names what triggers it. -/
def TriggersNamed (inputs : Inputs) : Prop :=
  ∀ rule ∈ inputs.ruleList, Text.isBlank rule.trigger.element = false

variable {inputs : Inputs} {options : Options} {error : ComponentError}

theorem declares_iff {id : String} :
    (!(inputs.stateList.map State.id).contains id) = true ↔ ¬inputs.Declares id := by
  rw [Bool.not_eq_true', ← Bool.not_eq_true, List.contains_iff_mem, List.mem_map, Declares]

end Inputs

/-- The parts make a component. -/
structure Inputs.Valid (inputs : Inputs) (id : String) (options : Options) : Prop where
  named : Text.isBlank id = false
  states : StatesValid inputs.stateList
  hooks : inputs.HooksKnown options
  fields : inputs.FieldsValid
  triggers : inputs.TriggersNamed

/-- The first thing that is wrong with the parts of a component: all that is looked at before it is
in order. -/
inductive Inputs.FirstFault (inputs : Inputs) (id : String) (options : Options) :
    ComponentError → Prop where
  | emptyId (blank : Text.isBlank id = true) : FirstFault inputs id options .emptyId
  | state {error : ComponentError} (named : Text.isBlank id = false)
      (fault : StateFault inputs.stateList error) : FirstFault inputs id options error
  | unknownStateHook {before after : List String} {state : String} (named : Text.isBlank id = false)
      (states : StatesValid inputs.stateList)
      (split : options.hooks.stateHooks.keys = before ++ state :: after)
      (earlier : ∀ known ∈ before, inputs.Declares known) (unknown : ¬inputs.Declares state) :
      FirstFault inputs id options (.unknownStateHook state)
  | invalidField {before after : List Field} {field : Field} {fault : FieldFault}
      (named : Text.isBlank id = false) (states : StatesValid inputs.stateList)
      (hooks : inputs.HooksKnown options) (split : inputs.fieldList = before ++ field :: after)
      (earlier : ∀ valid ∈ before, valid.Valid) (faulty : field.Faulty fault) :
      FirstFault inputs id options (.invalidField field.name fault)
  | missingTrigger {before after : List Rule} {rule : Rule} (named : Text.isBlank id = false)
      (states : StatesValid inputs.stateList) (hooks : inputs.HooksKnown options)
      (fields : inputs.FieldsValid) (split : inputs.ruleList = before ++ rule :: after)
      (earlier : ∀ sound ∈ before, Text.isBlank sound.trigger.element = false)
      (blank : Text.isBlank rule.trigger.element = true) :
      FirstFault inputs id options (.missingTrigger rule.id)

namespace Inputs

variable {inputs : Inputs} {options : Options}

/-- The first hook of a state that does not exist. -/
def hookError? (inputs : Inputs) (options : Options) : Option ComponentError :=
  (options.hooks.stateHooks.keys.find? fun id => !(inputs.stateList.map State.id).contains id).map
    .unknownStateHook

/-- The first fault of a declared field. -/
def fieldError? (inputs : Inputs) : Option ComponentError :=
  inputs.fieldList.findSome? fun field => field.fault?.map (.invalidField field.name)

/-- The first rule without a trigger. -/
def ruleError? (inputs : Inputs) : Option ComponentError :=
  (inputs.ruleList.find? fun rule => Text.isBlank rule.trigger.element).map
    fun rule => .missingTrigger rule.id

theorem error?_eq (inputs : Inputs) (options : Options) :
    inputs.error? options =
      (((stateError? [] 0 inputs.stateList).or (inputs.hookError? options)).or
        inputs.fieldError?).or inputs.ruleError? := rfl

theorem hookError?_eq_none_iff : inputs.hookError? options = none ↔ inputs.HooksKnown options := by
  rw [hookError?, Option.map_eq_none_iff, List.find?_eq_none]
  exact forall₂_congr fun id _ => (not_congr declares_iff).trans Classical.not_not

theorem hookError?_eq_some_iff {error : ComponentError} :
    inputs.hookError? options = some error ↔ ∃ before state after,
      options.hooks.stateHooks.keys = before ++ state :: after ∧
        (∀ known ∈ before, inputs.Declares known) ∧ ¬inputs.Declares state ∧
        error = .unknownStateHook state := by
  rw [hookError?, Option.map_eq_some_iff]
  constructor
  · rintro ⟨state, found, rfl⟩
    obtain ⟨unknown, before, after, split, earlier⟩ := List.find?_eq_some_iff_append.mp found
    refine ⟨before, state, after, split, fun known member => ?_, declares_iff.mp unknown, rfl⟩
    refine Classical.not_not.mp fun missing => ?_
    have passed := earlier known member
    rw [declares_iff.mpr missing] at passed
    cases passed
  · rintro ⟨before, state, after, split, earlier, unknown, rfl⟩
    refine ⟨state, List.find?_eq_some_iff_append.mpr
      ⟨declares_iff.mpr unknown, before, after, split, fun known member => ?_⟩, rfl⟩
    rw [Bool.not_eq_true', ← Bool.not_eq_true, declares_iff]
    exact Classical.not_not.mpr (earlier known member)

theorem fieldError?_eq_none_iff : inputs.fieldError? = none ↔ inputs.FieldsValid := by
  rw [fieldError?, List.findSome?_eq_none_iff]
  exact forall₂_congr fun field _ => Option.map_eq_none_iff.trans Field.fault?_eq_none_iff

theorem fieldError?_eq_some_iff {error : ComponentError} :
    inputs.fieldError? = some error ↔ ∃ before field after fault,
      inputs.fieldList = before ++ field :: after ∧ (∀ valid ∈ before, valid.Valid) ∧
        field.Faulty fault ∧ error = .invalidField field.name fault := by
  rw [fieldError?, List.findSome?_eq_some_iff]
  constructor
  · rintro ⟨before, field, after, split, found, earlier⟩
    obtain ⟨fault, faulty, rfl⟩ := Option.map_eq_some_iff.mp found
    exact ⟨before, field, after, fault, split, fun valid member =>
      Field.fault?_eq_none_iff.mp (Option.map_eq_none_iff.mp (earlier valid member)),
      Field.fault?_eq_some_iff.mp faulty, rfl⟩
  · rintro ⟨before, field, after, fault, split, earlier, faulty, rfl⟩
    exact ⟨before, field, after, split,
      Option.map_eq_some_iff.mpr ⟨fault, Field.fault?_eq_some_iff.mpr faulty, rfl⟩,
      fun valid member =>
        Option.map_eq_none_iff.mpr (Field.fault?_eq_none_iff.mpr (earlier valid member))⟩

theorem ruleError?_eq_none_iff : inputs.ruleError? = none ↔ inputs.TriggersNamed := by
  rw [ruleError?, Option.map_eq_none_iff, List.find?_eq_none]
  exact forall₂_congr fun rule _ => Bool.not_eq_true _ ▸ Iff.rfl

theorem ruleError?_eq_some_iff {error : ComponentError} :
    inputs.ruleError? = some error ↔ ∃ before rule after,
      inputs.ruleList = before ++ rule :: after ∧
        (∀ sound ∈ before, Text.isBlank sound.trigger.element = false) ∧
        Text.isBlank rule.trigger.element = true ∧ error = .missingTrigger rule.id := by
  rw [ruleError?, Option.map_eq_some_iff]
  simp only [List.find?_eq_some_iff_append, Bool.not_eq_true']
  constructor
  · rintro ⟨rule, ⟨blank, before, after, split, earlier⟩, rfl⟩
    exact ⟨before, rule, after, split, earlier, blank, rfl⟩
  · rintro ⟨before, rule, after, split, earlier, blank, rfl⟩
    exact ⟨rule, ⟨blank, before, after, split, earlier⟩, rfl⟩

theorem componentError?_of_named {id : String} (named : Text.isBlank id = false) (inputs : Inputs)
    (options : Options) : componentError? id inputs options = inputs.error? options :=
  if_neg (by rw [named]; exact Bool.false_ne_true)

theorem componentError?_eq_none_iff {id : String} :
    componentError? id inputs options = none ↔ inputs.Valid id options := by
  constructor
  · intro sound
    cases blank : Text.isBlank id with
    | true => cases (if_pos blank).symm.trans sound
    | false =>
      rw [componentError?_of_named blank, error?_eq, Option.or_eq_none_iff, Option.or_eq_none_iff,
        Option.or_eq_none_iff] at sound
      obtain ⟨⟨⟨states, hooks⟩, fields⟩, rules⟩ := sound
      exact ⟨blank, stateError?_eq_none_iff.mp states, hookError?_eq_none_iff.mp hooks,
        fieldError?_eq_none_iff.mp fields, ruleError?_eq_none_iff.mp rules⟩
  · rintro ⟨named, states, hooks, fields, triggers⟩
    rw [componentError?_of_named named, error?_eq, stateError?_eq_none_iff.mpr states,
      hookError?_eq_none_iff.mpr hooks, fieldError?_eq_none_iff.mpr fields,
      ruleError?_eq_none_iff.mpr triggers]
    rfl

theorem componentError?_eq_some_iff {id : String} {error : ComponentError} :
    componentError? id inputs options = some error ↔ inputs.FirstFault id options error := by
  cases blank : Text.isBlank id with
  | true =>
    rw [componentError?, if_pos blank, Option.some.injEq]
    constructor
    · rintro rfl
      exact .emptyId blank
    · intro fault
      -- Every other fault is one of parts with an id.
      cases fault with
      | emptyId => rfl
      | state named | unknownStateHook named | invalidField named | missingTrigger named =>
        cases blank.symm.trans named
  | false =>
    rw [componentError?_of_named blank, error?_eq]
    simp only [Option.or_eq_some_iff, Option.or_eq_none_iff, stateError?_eq_some_iff,
      stateError?_eq_none_iff, hookError?_eq_some_iff, hookError?_eq_none_iff,
      fieldError?_eq_some_iff, fieldError?_eq_none_iff, ruleError?_eq_some_iff]
    constructor
    · rintro (((fault | ⟨states, before, state, after, split, earlier, unknown, rfl⟩) |
        ⟨⟨states, hooks⟩, before, field, after, fault, split, earlier, faulty, rfl⟩) |
        ⟨⟨⟨states, hooks⟩, fields⟩, before, rule, after, split, earlier, missing, rfl⟩)
      · exact .state blank fault
      · exact .unknownStateHook blank states split earlier unknown
      · exact .invalidField blank states hooks split earlier faulty
      · exact .missingTrigger blank states hooks fields split earlier missing
    · intro fault
      cases fault with
      | emptyId empty => cases blank.symm.trans empty
      | state _ fault => exact .inl (.inl (.inl fault))
      | unknownStateHook _ states split earlier unknown =>
        exact .inl (.inl (.inr ⟨states, _, _, _, split, earlier, unknown, rfl⟩))
      | invalidField _ states hooks split earlier faulty =>
        exact .inl (.inr ⟨⟨states, hooks⟩, _, _, _, _, split, earlier, faulty, rfl⟩)
      | missingTrigger _ states hooks fields split earlier missing =>
        exact .inr ⟨⟨⟨states, hooks⟩, fields⟩, _, _, _, split, earlier, missing, rfl⟩

end Inputs

/-! ## Components -/

namespace Component

/-- Every component that exists is made of valid parts. -/
theorem valid (component : Component) : component.inputs.Valid component.id component.options :=
  Inputs.componentError?_eq_none_iff.mp component.accepted

theorem make_eq_ok_iff {id : String} {inputs : Inputs} {options : Options} {component : Component} :
    make id inputs options = .ok component ↔
      component.id = id ∧ component.inputs = inputs ∧ component.options = options := by
  unfold make
  split
  · rename_i accepted
    rw [Except.ok.injEq]
    constructor
    · rintro rfl
      exact ⟨rfl, rfl, rfl⟩
    · obtain ⟨ownId, ownInputs, ownOptions, _⟩ := component
      rintro ⟨rfl, rfl, rfl⟩
      rfl
  · rename_i error found
    constructor
    · intro failed
      cases failed
    · rintro ⟨rfl, rfl, rfl⟩
      cases component.accepted.symm.trans found

theorem make_eq_error_iff {id : String} {inputs : Inputs} {options : Options}
    {error : ComponentError} :
    make id inputs options = .error error ↔ componentError? id inputs options = some error := by
  unfold make
  split
  · rename_i accepted
    constructor
    · intro failed
      cases failed
    · intro found
      cases accepted.symm.trans found
  · rename_i other found
    rw [found, Except.error.injEq, Option.some.injEq]

/-- Exactly the valid parts make a component, which has them; of all others the first fault is
reported. -/
theorem make_reports_first_fault (id : String) (inputs : Inputs) (options : Options) :
    ((∃ component, make id inputs options = .ok component) ↔ inputs.Valid id options) ∧
      (∀ component, make id inputs options = .ok component ↔
        component.id = id ∧ component.inputs = inputs ∧ component.options = options) ∧
      ∀ error, make id inputs options = .error error ↔ inputs.FirstFault id options error := by
  refine ⟨⟨?_, fun valid => ?_⟩, fun component => make_eq_ok_iff, fun error =>
    make_eq_error_iff.trans Inputs.componentError?_eq_some_iff⟩
  · rintro ⟨component, made⟩
    obtain ⟨rfl, rfl, rfl⟩ := make_eq_ok_iff.mp made
    exact component.valid
  · have accepted := Inputs.componentError?_eq_none_iff.mpr valid
    exact ⟨⟨id, inputs, options, accepted⟩, make_eq_ok_iff.mpr ⟨rfl, rfl, rfl⟩⟩

end Component

end LiveMarkup

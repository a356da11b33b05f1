import LiveMarkup.Proofs.Component.Acceptance
import LiveMarkup.Proofs.Controller.Lifecycle
import LiveMarkup.Proofs.Markup.Parts
import LiveMarkup.Proofs.Payload.Records
import LiveMarkup.Proofs.Rules.Grouping
import LiveMarkup.Proofs.Script.Setup

/-!
# Given inputs

A component has up to three inputs, and four places decide for themselves whether an input is there: the
pattern, the controller with its views, the payload with its sections, and the script with the managers
that its `setup` creates, in its statements as in its text. All of them come to what the specification
gives, for each input alike (`Spec.given_iff_used`), as long as no pattern is forced: the pattern uses the
inputs that are given, and the other places go by the pattern.
-/

set_option autoImplicit false

namespace LiveMarkup

/-- The three inputs of a component. -/
inductive InputKind where
  | states
  | data
  | rules
deriving DecidableEq

namespace InputKind

/-- The key of an input in a payload, and the member of a controller that holds its manager. -/
def key : InputKind → String
  | .states => "states"
  | .data => "data"
  | .rules => "rules"

theorem key_injective : Function.Injective key := by
  intro input other same
  cases input <;> cases other <;> first | rfl | exact absurd same (by decide)

/-- The class of the manager of an input. -/
def manager : InputKind → String
  | .states => "StatesManager"
  | .data => "DataManager"
  | .rules => "RulesManager"

/-- Whether components of a pattern use the input. -/
def usedBy (pattern : Pattern) : InputKind → Bool
  | .states => pattern.usesStates
  | .data => pattern.usesData
  | .rules => pattern.usesRules

/-- Whether a session has a view of the input. -/
def viewedBy (session : Session) : InputKind → Bool
  | .states => session.states.isSome
  | .data => session.data.isSome
  | .rules => session.rules.isSome

end InputKind

/-- Whether a specification gives an input: a list with an entry, or a dataset with a record or a
field. -/
def Spec.Gives (spec : Spec) : InputKind → Prop
  | .states => spec.states.getD [] ≠ []
  | .data => ∃ data, spec.data = some data ∧ (data.items ≠ [] ∨ data.schema ≠ [])
  | .rules => spec.rules.getD [] ≠ []

/-! ## The pattern -/

/-- Without the lists that are empty a list is there exactly when it has an entry, which is then the
same one. -/
theorem filter_nonempty_facts {α : Type} (list : Option (List α)) :
    ((list.filter fun items => !items.isEmpty).isSome = true ↔ list.getD [] ≠ []) ∧
      (list.filter fun items => !items.isEmpty).getD [] = list.getD [] := by
  rcases list with _ | _ | ⟨item, rest⟩
  · exact ⟨by simp, rfl⟩
  · exact ⟨by simp, rfl⟩
  · exact ⟨by simp, rfl⟩

namespace Component

variable {spec : Spec} {component : Component}

/-- The states, the dataset and the rules of a component are those that its specification gives. -/
theorem inputs_of_described (described : spec.component = .ok component) :
    component.states = spec.states.getD [] ∧
      (component.data.isSome = true ↔ spec.Gives .data) ∧
      component.rules = spec.rules.getD [] := by
  obtain ⟨-, inputs, -⟩ := make_eq_ok_iff.mp described
  rw [states, data, rules, inputs]
  refine ⟨(filter_nonempty_facts _).2, ?_, (filter_nonempty_facts _).2⟩
  cases given : spec.data with
  | none => simp [Inputs.ofParts, Spec.Gives, given]
  | some data => simp [Inputs.ofParts, Spec.Gives, given, Dataset.isEmpty, Classical.or_iff_not_imp_left]

/-- A pattern that is not forced uses the inputs that are given. -/
theorem usedBy_pattern_iff (described : spec.component = .ok component)
    (unforced : spec.options.forcePattern = none) (input : InputKind) :
    input.usedBy component.pattern = true ↔ spec.Gives input := by
  obtain ⟨-, inputs, options⟩ := make_eq_ok_iff.mp described
  obtain ⟨usesStates, usesData, usesRules⟩ :=
    component.inputs.facts.pattern_uses component.options.thresholds
  rw [← pattern_of_unforced (options ▸ unforced)] at usesStates usesData usesRules
  cases input with
  | states =>
    rw [InputKind.usedBy, usesStates, Inputs.facts, inputs]
    exact (filter_nonempty_facts _).1
  | data =>
    rw [InputKind.usedBy, usesData]
    exact (inputs_of_described described).2.1
  | rules =>
    rw [InputKind.usedBy, usesRules, Inputs.facts, inputs]
    exact (filter_nonempty_facts _).1

end Component

/-! ## The controller -/

namespace Controller

variable {spec : Spec} {c : Controller}

/-- A session that is ready has a view of the inputs that are given. -/
theorem viewedBy_run_iff (described : spec.component = .ok c.component)
    (unforced : spec.options.forcePattern = none) (doc : Document) (operations : List Operation)
    (ready : (c.run (.start c.component doc) operations).lifecycle = .ready) (input : InputKind) :
    input.viewedBy (c.run (.start c.component doc) operations) = true ↔ spec.Gives input := by
  have sound := c.run_sound doc operations
  rw [← Component.usedBy_pattern_iff described unforced input]
  cases input with
  | states => exact sound.states.trans (and_iff_right ready)
  | data =>
    -- Data is viewed where it is used and there, but used only where it is given.
    refine (sound.data.trans (and_iff_right ready)).trans (and_iff_left_of_imp fun used => ?_)
    exact (Component.inputs_of_described described).2.1.mpr
      ((Component.usedBy_pattern_iff described unforced .data).mp used)
  | rules => exact sound.rules.trans (and_iff_right ready)

end Controller

/-! ## The payload -/

namespace Payload

theorem isSome_get?_listField {α : Type} (key : String) (write : α → Json) (items : List α) :
    (Fields.get? (listField key write items) key).isSome = true ↔ items ≠ [] := by
  cases items with
  | nil => simp [listField, Fields.get?]
  | cons item rest => simp [listField, Fields.get?]

/-- The list under a key of its own is what stands there. -/
theorem member?_states (payload : Payload) :
    payload.toJson.member? "states" =
      Fields.get? (listField "states" stateJson payload.states) "states" := by
  simp (disch := decide) only [toJson, Json.member?, Fields.get?_append, get?_hooks_of_ne,
    get?_listField_of_ne, Json.get?_fieldIf_of_ne, Option.or_none]
  rfl

theorem member?_rules (payload : Payload) :
    payload.toJson.member? "rules" =
      Fields.get? (listField "rules" Rule.toJson payload.rules) "rules" := by
  simp (disch := decide) only [toJson, Json.member?, Fields.get?_append, get?_hooks_of_ne,
    get?_listField_of_ne, Json.get?_fieldIf_of_ne, Option.or_none]
  rfl

variable {spec : Spec} {component : Component}

/-- A payload has a section for the inputs that are given. -/
theorem isSome_member?_iff (described : spec.component = .ok component)
    (unforced : spec.options.forcePattern = none) (theme : Theme) (input : InputKind) :
    ((ofComponent component theme).toJson.member? input.key).isSome = true ↔ spec.Gives input := by
  have used := Component.usedBy_pattern_iff described unforced input
  obtain ⟨states, data, rules⟩ := Component.inputs_of_described described
  cases input with
  | states =>
    rw [InputKind.key, member?_states, isSome_get?_listField, ofComponent, ne_eq, ite_eq_right_iff,
      Classical.not_imp, states]
    exact and_iff_right_of_imp used.mpr
  | data =>
    rw [InputKind.key, member?_data, Option.isSome_map, ofComponent]
    cases shown : component.pattern.usesData with
    | true => rw [if_pos rfl, Option.isSome_map, data]
    | false =>
      refine iff_of_false (by simp) fun given => ?_
      exact absurd (used.mpr given) (by rw [InputKind.usedBy, shown]; decide)
  | rules =>
    -- The payload has the rules in another order, but all of them.
    have same := (RuleIndex.ordered_perm component.rules).length_eq
    rw [InputKind.key, member?_rules, isSome_get?_listField, ofComponent, ne_eq, ite_eq_right_iff,
      Classical.not_imp, ← ne_eq, ← List.length_pos_iff, same, List.length_pos_iff, rules]
    exact and_iff_right_of_imp used.mpr

end Payload

/-! ## The script -/

namespace Script

/-- The statements of a function that is called at once. -/
def Stmt.isolatedBody : Stmt → List Stmt
  | .isolated body => body
  | _ => []

/-- The methods of a class that a statement defines. -/
def Stmt.methods : Stmt → List Method
  | .classDef _ _ methods => methods
  | _ => []

/-- The body of a method of this name. -/
def Method.bodyOf? (name : String) : Method → Option (List Stmt)
  | .mk method _ body => if method.name = name then some body else none

namespace Glue

/-- The bodies of the methods `setup` that a script defines. -/
def setups (program : List Stmt) : List (List Stmt) :=
  ((program.flatMap Stmt.isolatedBody).flatMap Stmt.methods).filterMap (Method.bodyOf? "setup")

/-- The manager that a statement creates for the instance: the member that holds it, and its class. -/
def created? : Stmt → Option (String × String)
  | .expr (.assign (.member .this holder) (.construct (.member (.ident space) manager) (.this :: _))) =>
    if space = runtime then some (holder.name, manager.name) else none
  | _ => none

/-- A script defines one `setup`. -/
theorem setups_program (component : Component) :
    setups (program component) = [setupBody component] := rfl

/-- A statement that stands under a condition creates its manager under it. -/
theorem filterMap_created?_ite (p : Prop) [Decidable p] (stmt : Stmt) :
    (if p then [stmt] else []).filterMap created? = if p then (created? stmt).toList else [] := by
  split
  · cases created : created? stmt <;> simp [created]
  · rfl

/-- What a `setup` creates are the managers of the inputs that the pattern uses. -/
theorem filterMap_created?_setupBody (component : Component) :
    (setupBody component).filterMap created? =
      ([InputKind.states, .data, .rules].filter (InputKind.usedBy component.pattern)).map
        fun input => (input.key, input.manager) := by
  have states : created? (createStates (Structure.lazyPanels component)) =
      some ("states", "StatesManager") := rfl
  have data : created? createData = some ("data", "DataManager") := rfl
  have rules : created? createRules = some ("rules", "RulesManager") := rfl
  -- The other statements connect the managers and create none.
  have connections : created? delegateStates = none ∧ created? applyStateFilters = none ∧
      created? (enterNoResults State.noResults) = none ∧ created? evaluateRules = none :=
    ⟨rfl, rfl, rfl, rfl⟩
  simp only [setupBody, List.filterMap_append, filterMap_created?_ite, states, data, rules,
    connections, Option.toList_some, Option.toList_none, ite_self, List.append_nil]
  generalize component.pattern = pattern
  cases pattern <;> rfl

/-- The tokens of a `setup` create the managers that its statements create. -/
theorem managersIn_setupBody (component : Component) :
    managersIn (shapes (stmtsPieces 3 (setupBody component))) =
      (setupBody component).filterMap created? := by
  unfold setupBody
  generalize component.pattern = pattern
  generalize Structure.lazyPanels component = lazyPanels
  cases pattern <;> cases lazyPanels <;> decide +kernel

variable {spec : Spec} {component : Component}

/-- The `setup` of a script creates the manager of the inputs that are given. -/
theorem created_iff (described : spec.component = .ok component)
    (unforced : spec.options.forcePattern = none) (input : InputKind) :
    (input.key, input.manager) ∈ (setupBody component).filterMap created? ↔ spec.Gives input := by
  have listed : input ∈ [InputKind.states, .data, .rules] := by cases input <;> decide
  rw [filterMap_created?_setupBody, ← Component.usedBy_pattern_iff described unforced input]
  constructor
  · intro member
    obtain ⟨other, used, same⟩ := List.mem_map.mp member
    obtain rfl : other = input := InputKind.key_injective (congrArg Prod.fst same)
    exact (List.mem_filter.mp used).2
  · intro used
    exact List.mem_map_of_mem (List.mem_filter.mpr ⟨listed, used⟩)

end Glue

end Script

/-! ## Main result -/

/-- A component without a forced pattern uses each of its inputs exactly when its specification gives it,
whatever the thresholds. Exactly then a controller that is ready has a view of the input, the payload has
a section for it, and the one `setup` of the script creates its manager. The text of the script, minified
or not, has the same managers created between the braces of the one `setup` that stands in it. -/
theorem Spec.given_iff_used {spec : Spec} {component : Component}
    (described : spec.component = .ok component) (unforced : spec.options.forcePattern = none)
    (input : InputKind) :
    (input.usedBy component.pattern = true ↔ spec.Gives input) ∧
      (∀ (c : Controller), c.component = component → ∀ doc operations,
        (c.run (.start component doc) operations).lifecycle = .ready →
          (input.viewedBy (c.run (.start component doc) operations) = true ↔ spec.Gives input)) ∧
      (∀ theme, ((Payload.ofComponent component theme).toJson.member? input.key).isSome = true ↔
        spec.Gives input) ∧
      (∃ body, Script.Glue.setups (Script.Glue.program component) = [body] ∧
        ((input.key, input.manager) ∈ body.filterMap Script.Glue.created? ↔ spec.Gives input)) ∧
      ∀ text ∈ [Script.Glue.generate component, Script.Glue.script component],
        ∃ found body, Script.tokenize text.toList = .ok found ∧
          Script.methodsIn "setup" (found.tokens.map Script.Token.shape) = [body] ∧
          ((input.key, input.manager) ∈ Script.managersIn body ↔ spec.Gives input) := by
  have created := Script.Glue.created_iff described unforced input
  refine ⟨Component.usedBy_pattern_iff described unforced input, ?_, fun theme => ?_, ?_, ?_⟩
  · rintro c rfl doc operations ready
    exact Controller.viewedBy_run_iff described unforced doc operations ready input
  · exact Payload.isSome_member?_iff described unforced theme input
  · exact ⟨_, Script.Glue.setups_program component, created⟩
  · intro text member
    obtain ⟨found, read, bodies⟩ := Script.Glue.methodsIn_script component text member
    rw [← Script.Glue.managersIn_setupBody] at created
    exact ⟨found, _, read, bodies, created⟩

/-- A specification with a state, with a dataset that has a field and no records, and with an empty list of
rules. -/
def shelf : Spec where
  id := "shelf"
  states := some [.ofId "all" "All"]
  data := some ⟨[], [.ofKind .text "title"], .standard⟩
  rules := some []
  options := .standard
  theme := none

/-- What `shelf` describes. -/
def shelfComponent : Component where
  id := "shelf"
  inputs := .ofParts shelf.states shelf.data shelf.rules
  options := .standard
  accepted := by decide +kernel

/-- A controller of `shelf` without surroundings. -/
def shelfController : Controller := ⟨shelfComponent, .none, .preloaded, .empty⟩

/-- The dataset of `shelf` is given without a record, and its rules are not given. The text of its script
creates a manager of the dataset and none of the rules. -/
theorem Spec.given_iff_used_shelf :
    shelf.component = .ok shelfComponent ∧ shelf.options.forcePattern = none ∧
      shelfComponent.pattern.usesData = true ∧ shelfComponent.pattern.usesRules = false ∧
      (let session := shelfController.run (.start shelfComponent (.scaffold shelfComponent)) [.init]
      session.lifecycle = .ready ∧ session.data.isSome = true ∧ session.rules.isSome = false) ∧
      ((Payload.ofComponent shelfComponent .standard).toJson.member? "data").isSome = true ∧
      ("data", "DataManager") ∈
        (Script.Glue.setupBody shelfComponent).filterMap Script.Glue.created? ∧
      ∃ found body, Script.tokenize (Script.Glue.generate shelfComponent).toList = .ok found ∧
        Script.methodsIn "setup" (found.tokens.map Script.Token.shape) = [body] ∧
        ("data", "DataManager") ∈ Script.managersIn body ∧
        ("rules", "RulesManager") ∉ Script.managersIn body := by
  have described : shelf.component = .ok shelfComponent := Component.make_eq_ok_iff.mpr ⟨rfl, rfl, rfl⟩
  have ready : (shelfController.run
      (.start shelfComponent (.scaffold shelfComponent)) [.init]).lifecycle = .ready := by
    decide +kernel
  have field : shelf.Gives .data := ⟨_, rfl, .inr (List.cons_ne_nil _ _)⟩
  have ruleless : ¬shelf.Gives .rules := fun given => given rfl
  obtain ⟨used, viewed, carried, ⟨body, defined, created⟩, written⟩ :=
    Spec.given_iff_used described rfl .data
  obtain ⟨unused, unviewed, -, -, unwritten⟩ := Spec.given_iff_used described rfl .rules
  obtain ⟨found, tokens, read, only, some_manager⟩ := written _ List.mem_cons_self
  obtain ⟨others, same, reread, also, no_manager⟩ := unwritten _ List.mem_cons_self
  obtain rfl : found = others := Except.ok.inj (read.symm.trans reread)
  obtain rfl : tokens = same := List.singleton_inj.mp (only.symm.trans also)
  obtain rfl : Script.Glue.setupBody shelfComponent = body :=
    (List.cons.inj ((Script.Glue.setups_program shelfComponent).symm.trans defined)).1
  refine ⟨described, rfl, used.mpr field, ?_, ⟨ready, ?_, ?_⟩, (carried _).mpr field,
    created.mpr field, found, tokens, read, only, some_manager.mpr field,
    fun manager => ruleless (no_manager.mp manager)⟩
  · exact Bool.eq_false_iff.mpr fun uses => ruleless (unused.mp uses)
  · exact (viewed shelfController rfl _ _ ready).mpr field
  · exact Bool.eq_false_iff.mpr fun views =>
      ruleless ((unviewed shelfController rfl _ _ ready).mp views)

end LiveMarkup

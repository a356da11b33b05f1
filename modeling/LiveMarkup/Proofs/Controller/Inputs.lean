import LiveMarkup.Proofs.Controller.Complement
import LiveMarkup.Proofs.Rules.Cells

/-!
# What an input makes of a document

In a component with rules and without states an input to an element evaluates the rules that watch it: by
descending priority, in declaration order among equals, and the actions of each in their order
(`RuleIndex.Ordering`). The plan is made before the first action is done. What it makes of the document is
what the last writer of each cell prescribes (`Document.Written`), from the document that has the input
alone (`setValue_eq`), and the same input leaves the same document a second time
(`run_setValue_written`).
-/

set_option autoImplicit false

namespace LiveMarkup

namespace RuleIndex

/-- Rules in the order in which they are evaluated: by descending priority, and those of one priority in
their given order. -/
structure Ordering (rules ordered : List Rule) : Prop where
  perm : ordered.Perm rules
  descending : ordered.Pairwise Precedes
  stable : ∀ priority, (ordered.filter fun rule => rule.priority == priority) =
    rules.filter fun rule => rule.priority == priority

theorem byPriority_ordering (rules : List Rule) : Ordering rules (byPriority rules) where
  perm := byPriority_perm rules
  descending := byPriority_pairwise rules
  stable := filter_byPriority rules

theorem plan_ofRules (rules : List Rule) (element : String) (value : Json) :
    (ofRules rules).plan element value =
      (byPriority (rules.filter (watches element))).flatMap (planRule value) := by
  rw [plan, rulesFor_ofRules]

end RuleIndex

namespace Document

/-- The document with an input to an element. -/
def withInput (doc : Document) (element : String) (value : Json) : Document :=
  doc.put element fun e => { e with value := value }

theorem find?_withInput (doc : Document) (element id : String) (value : Json) :
    (doc.withInput element value).find? id =
      if id = element then some { (doc.find? id).getD .fresh with value := value }
      else doc.find? id :=
  find?_put doc element id _

theorem value_withInput (doc : Document) (element : String) (value : Json) :
    (doc.withInput element value).value element = value := by
  rw [Document.value, find?_withInput, if_pos rfl]
  rfl

/-- The same input and plan a second time change nothing. -/
theorem follow_withInput_again (doc : Document) (element : String) (value : Json)
    (plan : List PlannedAction) :
    follow (((doc.withInput element value).follow plan).withInput element value) plan =
      (doc.withInput element value).follow plan := by
  have received : (doc.withInput element value).find? element =
      some { (doc.find? element).getD .fresh with value := value } := by
    rw [find?_withInput, if_pos rfl]
  exact follow_put_follow received plan

end Document

namespace Controller

/-- In a ready session with rules and without states an input does what the rules of its element plan. -/
theorem setValue_eq (c : Controller) {session : Session} (ready : session.lifecycle = .ready)
    (states : session.states = none) {index : RuleIndex} (rules : session.rules = some index)
    (element : String) (value : Json) :
    ∃ notifications, c.setValue session element value =
      { session with
        document := (session.document.withInput element value).follow (index.plan element value)
        notifications := notifications } := by
  have evaluated := c.evaluateTrigger_react
    { session with document := session.document.withInput element value } states rules element
  rw [Document.react, Document.value_withInput] at evaluated
  rw [setValue, if_pos ready]
  exact evaluated

/-- A ready session of a component with rules and without states has its rules and no states. -/
theorem run_rules_of_ready (c : Controller) (usesRules : c.component.pattern.usesRules = true)
    (stateless : c.component.pattern.usesStates = false) (doc : Document) (operations : List Operation)
    (ready : (c.run (.start c.component doc) operations).lifecycle = .ready) :
    (c.run (.start c.component doc) operations).states = none ∧
      (c.run (.start c.component doc) operations).rules = some (.ofRules c.component.rules) := by
  have sound := c.run_sound doc operations
  have own := c.run_ownRules doc operations
  generalize c.run (.start c.component doc) operations = session at ready sound own ⊢
  constructor
  · rw [← Option.not_isSome_iff_eq_none, sound.states, stateless]
    exact fun uses => Bool.false_ne_true uses.2
  · obtain ⟨index, present⟩ := Option.isSome_iff_exists.mp (sound.rules.mpr ⟨ready, usesRules⟩)
    rw [present, own index present]

/-- In a component with rules and without states an input in a ready session leaves in every cell of every
element what the last planned action on it prescribes, and in every other cell what was there, which is the
input for the value of the element that received it. Actions on missing elements count for nothing and
create none, the rest of the session stays but for its reports, and the same input a second time leaves the
same document. -/
theorem run_setValue_written (c : Controller) (usesRules : c.component.pattern.usesRules = true)
    (stateless : c.component.pattern.usesStates = false) (doc : Document) (operations : List Operation)
    (ready : (c.run (.start c.component doc) operations).lifecycle = .ready) (element : String)
    (value : Json) :
    ∃ watching,
      RuleIndex.Ordering (c.component.rules.filter (RuleIndex.watches element)) watching ∧
        let before := c.run (.start c.component doc) operations
        let after := c.setValue before element value
        let given := before.document.withInput element value
        let plan := watching.flatMap (RuleIndex.planRule value)
        given.Written plan after.document ∧
          given.Written (plan.filter fun action => given.contains action.target) after.document ∧
          (c.setValue after element value).document = after.document ∧
          ∃ notifications, after =
            { before with document := after.document, notifications := notifications } := by
  obtain ⟨states, rules⟩ := c.run_rules_of_ready usesRules stateless doc operations ready
  generalize c.run (.start c.component doc) operations = before at ready states rules
  refine ⟨_, RuleIndex.byPriority_ordering _, ?_⟩
  rw [← RuleIndex.plan_ofRules]
  obtain ⟨notifications, worked⟩ := c.setValue_eq ready states rules element value
  intro before after given plan
  have document : after.document = given.follow plan := congrArg Session.document worked
  refine ⟨?_, ?_, ?_, notifications, ?_⟩
  · rw [document]
    exact given.follow_written plan
  · rw [document, ← given.follow_present plan]
    exact given.follow_written _
  · have same : after.lifecycle = .ready ∧ after.states = none ∧
        after.rules = some (.ofRules c.component.rules) := by
      rw [show after = _ from worked]
      exact ⟨ready, states, rules⟩
    obtain ⟨_, again⟩ := c.setValue_eq same.1 same.2.1 same.2.2 element value
    rw [again, document]
    exact before.document.follow_withInput_again element value plan
  · rw [document]
    exact worked

/-- An order form whose rules write one note; the one of lower priority writes to it last. -/
def order : Controller where
  component :=
    { id := "order"
      inputs := ⟨none, none, some
        [⟨"price", 0, ⟨"plan", .change, .equals, .string "pro"⟩,
            [⟨"note", .setText, some (.string "Pro")⟩]⟩,
          ⟨"choice", 5, ⟨"plan", .change, .isNotEmpty, .null⟩,
            [⟨"note", .setText, some (.string "Chosen")⟩, ⟨"help", .hide, none⟩]⟩]⟩
      options := .standard
      accepted := by decide +kernel }
  hooks := .none
  loader := .preloaded
  stateFilters := .empty

/-- A page with the form and its note, and without the help that a rule hides. -/
def orderPage : Document := Document.ensure (Document.ensure .empty "order") "note"

/-- A plan is chosen on the page. -/
theorem run_setValue_written_order :
    order.component.pattern.usesRules = true ∧ order.component.pattern.usesStates = false ∧
      (order.run (.start order.component orderPage) [.init]).lifecycle = .ready ∧
      ∃ watching,
        RuleIndex.Ordering (order.component.rules.filter (RuleIndex.watches "plan")) watching ∧
          let before := order.run (.start order.component orderPage) [.init]
          let after := order.setValue before "plan" (.string "pro")
          let plan := watching.flatMap (RuleIndex.planRule (.string "pro"))
          (before.document.withInput "plan" (.string "pro")).Written plan after.document ∧
            (after.document.find? "note").map Element.text = some "Pro" ∧
            after.document.contains "help" = false ∧
            (order.setValue after "plan" (.string "pro")).document = after.document := by
  have usesRules : order.component.pattern.usesRules = true := by decide +kernel
  have stateless : order.component.pattern.usesStates = false := by decide +kernel
  have ready : (order.run (.start order.component orderPage) [.init]).lifecycle = .ready := by
    decide +kernel
  obtain ⟨watching, ordering, written, -, again, -⟩ :=
    order.run_setValue_written usesRules stateless orderPage [.init] ready "plan" (.string "pro")
  exact ⟨usesRules, stateless, ready, watching, ordering, written, by decide +kernel,
    by decide +kernel, again⟩

end Controller

end LiveMarkup

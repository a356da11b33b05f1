import LiveMarkup.Proofs.Rules.Settling

/-!
# Showing and hiding by rules

A component that only has rules evaluates those of every watched element at its start, and those of an
element at each input to it. Both settle the target of an action that alone decides about it, and
nothing else that can be done touches it (`Decided.perform`). So in every ready session the target is
visible exactly while the condition says so (`run_complementary`).
-/

set_option autoImplicit false

namespace LiveMarkup

namespace Controller

/-! ## Evaluating rules without states -/

/-- Without states every action only changes its target. -/
theorem execute_of_states_eq_none (c : Controller) {session : Session}
    (states : session.states = none) (action : PlannedAction) :
    c.execute session action =
      { session with
        document :=
          session.document.modify action.target (applyEffect action.effect action.value) } := by
  simp [execute, states]

theorem foldl_execute_of_states_eq_none (c : Controller) {session : Session}
    (states : session.states = none) (plan : List PlannedAction) :
    plan.foldl c.execute session = { session with document := session.document.follow plan } := by
  induction plan generalizing session with
  | nil => rfl
  | cons action rest ih =>
    rw [List.foldl_cons, c.execute_of_states_eq_none states]
    exact ih states

theorem evaluateTrigger_react (c : Controller) (session : Session) {index : RuleIndex}
    (states : session.states = none) (rules : session.rules = some index) (element : String) :
    ∃ notifications, c.evaluateTrigger session element =
      { session with
        document := session.document.react index element
        notifications := notifications } := by
  unfold evaluateTrigger
  split
  · rename_i missing
    cases missing.symm.trans rules
  · rename_i present
    obtain rfl := Option.some.inj (present.symm.trans rules)
    simp only [Document.react]
    split
    · rename_i idle
      rw [List.isEmpty_iff.mp idle]
      exact ⟨session.notifications, rfl⟩
    · rw [c.foldl_execute_of_states_eq_none states]
      exact ⟨_, rfl⟩

theorem foldl_evaluateTrigger_react (c : Controller) {session : Session} {index : RuleIndex}
    (states : session.states = none) (rules : session.rules = some index)
    (elements : List String) :
    ∃ notifications, elements.foldl c.evaluateTrigger session =
      { session with
        document := elements.foldl (Document.react index) session.document
        notifications := notifications } := by
  induction elements generalizing session with
  | nil => exact ⟨session.notifications, rfl⟩
  | cons element rest ih =>
    obtain ⟨notifications, reacted⟩ := c.evaluateTrigger_react session states rules element
    rw [List.foldl_cons, reacted]
    exact ih states rules

/-! ## Runs -/

/-- The target is there, and in a ready session the rules are those of the component and have settled
it. -/
structure Decided (c : Controller) (rule : Rule) (action : Action) (session : Session) : Prop where
  present : (session.document.visible? action.target).isSome = true
  ready : session.lifecycle = .ready →
    session.rules = some (.ofRules c.component.rules) ∧ session.document.Settled rule action

section Runs

variable {c : Controller} {session : Session} {rule : Rule} {action : Action}

theorem start_decided (decides : action.DecidesAlone c.component.rules rule) :
    c.Decided rule action (.start c.component (.scaffold c.component)) where
  present := Document.isSome_visible?_scaffold decides.declared decides.listed
  ready := by simp [Session.start]

theorem equip_of_dependencyOnly (only : c.component.pattern = .dependencyOnly) (session : Session) :
    (c.equip session).states = none ∧
      (c.equip session).rules = some (.ofRules c.component.rules) ∧
        (c.equip session).document = session.document := by
  simp [equip, only, Pattern.usesStates, Pattern.usesRules]

/-- Setting up settles the target: the rules of every watched element are evaluated. -/
theorem settled_setUp (only : c.component.pattern = .dependencyOnly)
    (decides : action.DecidesAlone c.component.rules rule) (session : Session)
    (present : (session.document.visible? action.target).isSome = true) :
    (c.setUp session).rules = some (.ofRules c.component.rules) ∧
      ((c.setUp session).document.visible? action.target).isSome = true ∧
        (c.setUp session).document.Settled rule action := by
  obtain ⟨states, rules, document⟩ := equip_of_dependencyOnly only session
  have watched : rule.trigger.element ∈ (RuleIndex.ofRules c.component.rules).triggers := by
    rw [RuleIndex.triggers_ofRules, RuleIndex.mem_firstSeen]
    exact RuleIndex.mem_watched.mpr ⟨rule, decides.declared, rfl⟩
  obtain ⟨notifications, worked⟩ := c.foldl_evaluateTrigger_react states rules
    (RuleIndex.ofRules c.component.rules).triggers
  have settled : ((RuleIndex.ofRules c.component.rules).triggers.foldl
      (Document.react (.ofRules c.component.rules)) session.document).Settled rule action :=
    decides.settled_foldl_react present (.inl watched)
  simp only [setUp, rules, Option.map_some, Option.getD_some, worked, document]
  refine ⟨trivial, ?_, settled⟩
  rw [settled, Option.isSome_some]

theorem Decided.init (only : c.component.pattern = .dependencyOnly)
    (decides : action.DecidesAlone c.component.rules rule)
    (decided : c.Decided rule action session) : c.Decided rule action (c.init session) := by
  by_cases unstarted : session.lifecycle = .uninitialized
  · rcases c.init_cases unstarted with ⟨lifecycle, requests, calls, notifications, unready, halted⟩ |
      ⟨requests, later, calls, done, notifications, ready⟩
    · rw [halted]
      exact ⟨decided.present, fun ready => absurd ready unready⟩
    · obtain ⟨rules, present, settled⟩ := settled_setUp only decides
        { session with requests := requests, calls := calls, lifecycle := .initializing }
        decided.present
      rw [ready]
      exact ⟨present, fun _ => ⟨rules, settled⟩⟩
  · rw [c.init_of_ne unstarted]
    exact decided

/-- An input to an element settles its target with the rules of that element, or it changes nothing
that the target depends on. -/
theorem Decided.setValue (decides : action.DecidesAlone c.component.rules rule)
    (states : session.states = none) (decided : c.Decided rule action session) (element : String)
    (value : Json) : c.Decided rule action (c.setValue session element value) := by
  simp only [Controller.setValue]
  have visible := Document.visible?_put_value decided.present element value
  have unwatched : rule.trigger.element ≠ element →
      (session.document.put element fun e => { e with value := value }).value
        rule.trigger.element = session.document.value rule.trigger.element :=
    fun differs => Document.value_put_of_ne differs
  generalize session.document.put element (fun e => { e with value := value }) = doc
    at visible unwatched ⊢
  have present : (doc.visible? action.target).isSome = true := by
    rw [visible]
    exact decided.present
  split
  · rename_i ready
    obtain ⟨rules, settled⟩ := decided.ready ready
    obtain ⟨notifications, reacted⟩ := c.evaluateTrigger_react { session with document := doc }
      states rules element
    rw [reacted]
    refine ⟨Document.isSome_visible?_follow present _, fun _ => ⟨rules, ?_⟩⟩
    -- An input unsettles the target only at the watched element, whose rules are evaluated then.
    apply decides.settled_react present
    by_cases watched : element = rule.trigger.element
    · exact .inl watched
    · right
      rw [Document.Settled, visible, unwatched (Ne.symm watched)]
      exact settled
  · rename_i unready
    exact ⟨present, fun ready => absurd ready unready⟩

theorem Decided.register (decided : c.Decided rule action session) (name : String)
    (object : ExternalObject) :
    c.Decided rule action (Controller.register session name object).1 := by
  unfold Controller.register
  split
  · exact ⟨decided.present, decided.ready⟩
  · exact decided

theorem Decided.destroy (decided : c.Decided rule action session) :
    c.Decided rule action (c.destroy session).1 := by
  simp only [Controller.destroy]
  split
  · exact decided
  · generalize hended : Session.notify _ _ _ = ended
    obtain ⟨calls, hcalls⟩ := c.callHook_eq ended .destroy []
    rw [hcalls, ← hended]
    exact ⟨decided.present, fun ready => nomatch ready⟩

/-- Without states and without data there is nothing to switch and nothing to filter. -/
theorem Sound.views_of_dependencyOnly (sound : c.Sound session)
    (only : c.component.pattern = .dependencyOnly) :
    session.states = none ∧ session.data = none := by
  constructor
  · rw [← Option.not_isSome_iff_eq_none, sound.states]
    simp [only, Pattern.usesStates]
  · rw [← Option.not_isSome_iff_eq_none, sound.data]
    simp [only, Pattern.usesData]

theorem Decided.perform (only : c.component.pattern = .dependencyOnly)
    (decides : action.DecidesAlone c.component.rules rule)
    (sound : c.Sound session) (decided : c.Decided rule action session) (operation : Operation) :
    c.Decided rule action (c.perform session operation) := by
  obtain ⟨states, data⟩ := sound.views_of_dependencyOnly only
  cases operation with
  | init => exact decided.init only decides
  | switchTo id =>
    have idle : c.perform session (.switchTo id) = session :=
      congrArg Prod.fst (c.switchTo_of_states_eq_none states id)
    rw [idle]
    exact decided
  | updateFilter field raw =>
    have idle : c.perform session (.updateFilter field raw) = session :=
      congrArg Prod.fst (c.filterWith_of_data_eq_none data _ _ _)
    rw [idle]
    exact decided
  | clearFilters =>
    have idle : c.perform session .clearFilters = session :=
      congrArg Prod.fst (c.filterWith_of_data_eq_none data _ _ _)
    rw [idle]
    exact decided
  | setPage page =>
    have idle : c.perform session (.setPage page) = session := c.setPage_of_data_eq_none data page
    rw [idle]
    exact decided
  | setValue element value => exact decided.setValue decides states element value
  | register name object => exact decided.register name object
  | destroy => exact decided.destroy

theorem run_decided (only : c.component.pattern = .dependencyOnly)
    (decides : action.DecidesAlone c.component.rules rule) (operations : List Operation) :
    c.Decided rule action
      (c.run (.start c.component (.scaffold c.component)) operations) := by
  have both : ∀ session operation, c.Sound session ∧ c.Decided rule action session →
      c.Sound (c.perform session operation) ∧
        c.Decided rule action (c.perform session operation) := by
    intro session operation
    rintro ⟨sound, decided⟩
    exact ⟨sound.perform operation, decided.perform only decides sound operation⟩
  exact (run_invariant both ⟨c.start_sound _, start_decided decides⟩ operations).2

end Runs

/-- In a component that only has rules, what one action alone shows is visible in every ready session
exactly while the condition of its rule holds, and what it hides exactly while the condition fails. -/
theorem run_complementary (c : Controller) (only : c.component.pattern = .dependencyOnly)
    {rule : Rule} {action : Action} (decides : action.DecidesAlone c.component.rules rule)
    (operations : List Operation) :
    let session := c.run (.start c.component (.scaffold c.component)) operations
    let holds := rule.trigger.comparison.holds
      (session.document.value rule.trigger.element) rule.trigger.expected
    session.lifecycle = .ready →
      (action.effect = .show →
          (session.document.isVisible action.target = true ↔ holds = true)) ∧
        (action.effect = .hide →
          (session.document.isVisible action.target = true ↔ holds = false)) := by
  intro session holds ready
  obtain ⟨-, settled⟩ := (run_decided only decides operations).ready ready
  have visible : session.document.isVisible action.target = true ↔
      action.effect.showing holds = true := by
    rw [Document.isVisible_iff, settled, Option.some.injEq]
  constructor
  · intro shows
    rw [visible, shows, Effect.showing, if_pos rfl]
  · intro hides
    rw [visible, hides, Effect.showing, if_neg (by decide), Bool.not_eq_true']

/-- Shows the field for a number plate to the owner of a car. -/
def plateRule : Rule := .showWhen "owns" .checked .null "plate"

/-- A form with rules alone: two of them watch one box, and the later one comes first. -/
def registration : Controller where
  component :=
    { id := "registration"
      inputs := ⟨none, none, some
        [plateRule, .hideWhen "fuel" .equals (.string "electric") "emissions",
          ⟨"ask", 5, ⟨"owns", .change, .checked, .null⟩,
            [⟨"plate", .enable, none⟩, ⟨"plate", .focus, none⟩]⟩]⟩
      options := .standard
      accepted := by decide +kernel }
  hooks := .none
  loader := .preloaded
  stateFilters := .empty

/-- The box is ticked after the start. -/
def registrationRun : Session :=
  registration.run (.start registration.component (.scaffold registration.component))
    [.init, .setValue "owns" (.bool true)]

/-- The field is shown, since the box is ticked and nothing else shows or hides it. -/
theorem run_complementary_registration :
    registration.component.pattern = .dependencyOnly ∧
      Action.DecidesAlone registration.component.rules plateRule ⟨"plate", .show, none⟩ ∧
      registrationRun.lifecycle = .ready ∧ registrationRun.document.isVisible "plate" = true := by
  have only : registration.component.pattern = .dependencyOnly := by decide +kernel
  have decides :
      Action.DecidesAlone registration.component.rules plateRule ⟨"plate", .show, none⟩ :=
    { declared := List.mem_cons_self
      listed := List.mem_singleton_self _
      twoSided := .inl rfl
      alone := by
        simp [registration, Component.rules, plateRule, Rule.showWhen, Rule.hideWhen, Rule.single,
          Effect.TwoSided]
      unset := by
        simp [registration, Component.rules, plateRule, Rule.showWhen, Rule.hideWhen, Rule.single] }
  have ready : registrationRun.lifecycle = .ready := by decide +kernel
  have holds : plateRule.trigger.comparison.holds
      (registrationRun.document.value plateRule.trigger.element) plateRule.trigger.expected =
        true := by decide +kernel
  obtain ⟨shown, -⟩ := registration.run_complementary only decides
    [.init, .setValue "owns" (.bool true)] ready
  exact ⟨only, decides, ready, (shown rfl).mpr holds⟩

end Controller

end LiveMarkup

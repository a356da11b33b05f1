import LiveMarkup.Proofs.Controller.Scaffold
import LiveMarkup.Proofs.Rules.Cells
import LiveMarkup.Proofs.Rules.Grouping

/-!
# Settled targets

A rule that shows or hides an element is two-sided: it does the opposite while its condition fails. If
one action alone decides about its target, and no rule sets what its condition looks at
(`Action.DecidesAlone`), the target may be as visible as the condition says, which `Document.Settled`
states of a document. Evaluating the rules of the watched element settles the target, and evaluating
those of another one keeps it settled (`settled_react`).
-/

set_option autoImplicit false

namespace LiveMarkup

/-! ## Plans -/

namespace RuleIndex

/-- An action is planned by a rule that watches the element, for one of its own actions. -/
theorem exists_of_mem_plan {rules : List Rule} {element : String} {value : Json}
    {planned : PlannedAction} (member : planned ∈ (ofRules rules).plan element value) :
    ∃ rule ∈ rules, rule.trigger.element = element ∧ ∃ action ∈ rule.actions,
      planned.target = action.target ∧
        effective action.effect (rule.trigger.comparison.holds value rule.trigger.expected) =
          some planned.effect := by
  obtain ⟨rule, watching, member⟩ := List.mem_flatMap.mp member
  obtain ⟨action, listed, same⟩ := List.mem_filterMap.mp member
  obtain ⟨effect, effective, rfl⟩ := Option.map_eq_some_iff.mp same
  obtain ⟨declared, watches⟩ := mem_rulesFor.mp watching
  exact ⟨rule, declared, watches, action, listed, rfl, effective⟩

theorem mem_plan_of_effective {rules : List Rule} {rule : Rule} {action : Action} {effect : Effect}
    (value : Json) (declared : rule ∈ rules) (listed : action ∈ rule.actions)
    (effective : effective action.effect
      (rule.trigger.comparison.holds value rule.trigger.expected) = some effect) :
    ⟨rule.id, action.target, effect, action.value⟩ ∈
      (ofRules rules).plan rule.trigger.element value := by
  refine List.mem_flatMap.mpr ⟨rule, mem_rulesFor.mpr ⟨declared, rfl⟩, ?_⟩
  refine List.mem_filterMap.mpr ⟨action, listed, ?_⟩
  rw [effective]
  rfl

end RuleIndex

/-- Whether an effect decides about the visibility of its target. -/
def Effect.TwoSided (effect : Effect) : Prop := effect = .show ∨ effect = .hide

instance (effect : Effect) : Decidable effect.TwoSided := inferInstanceAs (Decidable (_ ∨ _))

/-- Whether a target is visible that is shown, or hidden, while a condition holds. -/
def Effect.showing (effect : Effect) (holds : Bool) : Bool :=
  if effect = .show then holds else !holds

/-- What a two-sided effect comes to. -/
theorem Effect.TwoSided.effective_eq {effect : Effect} (twoSided : effect.TwoSided) (holds : Bool) :
    RuleIndex.effective effect holds = some (if effect.showing holds then .show else .hide) := by
  rcases twoSided with rfl | rfl <;> cases holds <;> rfl

/-- Only two-sided effects show or hide. -/
theorem Effect.twoSided_of_effective {effect done : Effect} {holds : Bool}
    (effective : RuleIndex.effective effect holds = some done) (twoSided : done.TwoSided) :
    effect.TwoSided := by
  rcases twoSided with rfl | rfl
  all_goals revert effective
  all_goals cases effect <;> cases holds <;> decide

theorem Effect.eq_setValue_of_effective {effect : Effect} {holds : Bool}
    (effective : RuleIndex.effective effect holds = some .setValue) : effect = .setValue := by
  revert effective
  cases effect <;> cases holds <;> decide

/-! ## Documents -/

namespace Document

/-- Whether an element is visible; nothing without one. -/
def visible? (doc : Document) (id : String) : Option Bool := (doc.find? id).map Element.visible

theorem isVisible_iff {doc : Document} {id : String} :
    doc.isVisible id = true ↔ doc.visible? id = some true := by
  rw [isVisible, visible?]
  cases doc.find? id with
  | none => simp
  | some element => simp

/-- What no action sets keeps its value. -/
theorem value_follow {plan : List PlannedAction} {id : String}
    (unset : ∀ action ∈ plan, action.effect = .setValue → action.target ≠ id) (doc : Document) :
    (doc.follow plan).value id = doc.value id := by
  have unwritten : Element.lastWrite? (actionsOn id plan) .value = none := by
    rw [Element.lastWrite?, List.getLast?_eq_none_iff, List.filterMap_eq_nil_iff]
    intro action member
    obtain ⟨planned, target⟩ := List.mem_filter.mp member
    exact if_neg fun sets => unset action planned sets (beq_iff_eq.mp target)
  have kept : ∀ element : Element,
      (element.follow (actionsOn id plan)).value = element.value := by
    intro element
    have reads := element.read_follow (actionsOn id plan) .value
    rw [unwritten] at reads
    exact reads
  rw [value, value, find?_follow, Option.map_map]
  exact congrArg (fun read => ((doc.find? id).map read).getD .null) (funext kept)

/-- An action decides about the visibility of its target only by showing or hiding it. -/
theorem prescribed?_visible (effect : Effect) (value : Option Json) :
    Cell.prescribed? effect value .visible =
      if effect.TwoSided then some (decide (effect = .show)) else none := by
  cases effect <;> rfl

/-- An element is as visible as the last action says that decides about it. -/
theorem visible?_follow (doc : Document) (plan : List PlannedAction) (id : String) :
    (doc.follow plan).visible? id = (doc.visible? id).map fun shown =>
      (Element.lastWrite? (actionsOn id plan) .visible).getD shown := by
  have reads : ∀ element : Element, (element.follow (actionsOn id plan)).visible =
      (Element.lastWrite? (actionsOn id plan) .visible).getD element.visible :=
    fun element => element.read_follow _ .visible
  rw [visible?, visible?, find?_follow, Option.map_map, Option.map_map]
  exact congrArg (Option.map · (doc.find? id)) (funext reads)

theorem isSome_visible?_follow {id : String} {doc : Document}
    (present : (doc.visible? id).isSome = true) (plan : List PlannedAction) :
    ((doc.follow plan).visible? id).isSome = true := by
  rw [visible?_follow, Option.isSome_map, present]

/-- Whether an action leaves an element as visible as given, if it decides about it. -/
def Agrees (id : String) (shown : Bool) (action : PlannedAction) : Prop :=
  action.target = id → action.effect.TwoSided → decide (action.effect = .show) = shown

/-- Where every action agrees, so does the last one that decides. -/
theorem lastWrite?_of_agrees {plan : List PlannedAction} {id : String} {shown : Bool}
    (agrees : ∀ action ∈ plan, Agrees id shown action) {written : Bool}
    (last : Element.lastWrite? (actionsOn id plan) .visible = some written) : written = shown := by
  obtain ⟨action, member, prescribed⟩ := List.mem_filterMap.mp (List.mem_of_getLast? last)
  obtain ⟨planned, target⟩ := List.mem_filter.mp member
  rw [prescribed?_visible, Option.ite_none_right_eq_some, Option.some.injEq] at prescribed
  exact prescribed.2.symm.trans (agrees action planned (beq_iff_eq.mp target) prescribed.1)

/-- What is as visible as every action says stays so. -/
theorem visible?_follow_of_agrees {plan : List PlannedAction} {id : String} {shown : Bool}
    (agrees : ∀ action ∈ plan, Agrees id shown action) {doc : Document}
    (visible : doc.visible? id = some shown) : (doc.follow plan).visible? id = some shown := by
  rw [visible?_follow, visible, Option.map_some]
  cases last : Element.lastWrite? (actionsOn id plan) .visible with
  | none => rfl
  | some written => exact congrArg some (lastWrite?_of_agrees agrees last)

/-- With an action that decides about it an element becomes as visible as every action says. -/
theorem visible?_follow_of_mem {plan : List PlannedAction} {id : String} {shown : Bool}
    (agrees : ∀ action ∈ plan, Agrees id shown action) {action : PlannedAction}
    (member : action ∈ plan) (target : action.target = id) (twoSided : action.effect.TwoSided)
    {doc : Document} (present : (doc.visible? id).isSome = true) :
    (doc.follow plan).visible? id = some shown := by
  obtain ⟨before, found⟩ := Option.isSome_iff_exists.mp present
  rw [visible?_follow, found, Option.map_some]
  cases last : Element.lastWrite? (actionsOn id plan) .visible with
  | some written => exact congrArg some (lastWrite?_of_agrees agrees last)
  | none =>
    -- The action is one that writes to the cell, so there is a last one.
    rw [Element.lastWrite?, List.getLast?_eq_none_iff, List.filterMap_eq_nil_iff] at last
    have unwritten := last action (List.mem_filter.mpr ⟨member, beq_iff_eq.mpr target⟩)
    rw [prescribed?_visible, if_pos twoSided] at unwritten
    cases unwritten

/-- Does what the rules of an element plan for its present value. -/
def react (index : RuleIndex) (doc : Document) (element : String) : Document :=
  doc.follow (index.plan element (doc.value element))

/-- Whether the target of an action is as visible as its rule says of the value that it looks at. -/
def Settled (rule : Rule) (action : Action) (doc : Document) : Prop :=
  doc.visible? action.target = some (action.effect.showing
    (rule.trigger.comparison.holds (doc.value rule.trigger.element) rule.trigger.expected))

theorem value_put_of_ne {doc : Document} {id other : String} {change : Element → Element}
    (differs : other ≠ id) : (doc.put id change).value other = doc.value other := by
  rw [value, value, find?_put_of_ne differs]

/-- An input leaves what is there as visible as it was. -/
theorem visible?_put_value {doc : Document} {id : String}
    (present : (doc.visible? id).isSome = true) (element : String) (input : Json) :
    (doc.put element fun e => { e with value := input }).visible? id = doc.visible? id := by
  rw [visible?, Option.isSome_map, Option.isSome_iff_exists] at present
  obtain ⟨before, found⟩ := present
  obtain ⟨after, kept, visible, -⟩ := find?_put_value found element input
  rw [visible?, visible?, found, kept, Option.map_some, visible, Option.map_some]

/-- The scaffold holds the targets of all rules. -/
theorem isSome_visible?_scaffold {component : Component} {rule : Rule} {action : Action}
    (declared : rule ∈ component.rules) (listed : action ∈ rule.actions) :
    ((scaffold component).visible? action.target).isSome = true := by
  have mentioned : component.Mentions action.target := ⟨rule, declared, .inr ⟨action, listed, rfl⟩⟩
  rw [visible?, Option.isSome_map, ← StringMap.contains_eq_isSome]
  exact contains_scaffold_iff.mpr (.inr (.inr (.inr mentioned)))

end Document

/-! ## A target with one rule -/

/-- One action alone shows or hides its target, and no rule sets what its condition looks at. -/
structure Action.DecidesAlone (rules : List Rule) (rule : Rule) (action : Action) : Prop where
  declared : rule ∈ rules
  listed : action ∈ rule.actions
  twoSided : action.effect.TwoSided
  alone : ∀ other ∈ rules, ∀ rival ∈ other.actions, rival.target = action.target →
    rival.effect.TwoSided → other = rule ∧ rival = action
  unset : ∀ other ∈ rules, ∀ setter ∈ other.actions, setter.effect = .setValue →
    setter.target ≠ rule.trigger.element

namespace Action.DecidesAlone

variable {rules : List Rule} {rule : Rule} {action : Action}
  (decides : DecidesAlone rules rule action)

include decides

/-- Whatever is planned leaves the target as visible as its rule says. -/
theorem agrees {element : String} {doc : Document} :
    ∀ planned ∈ (RuleIndex.ofRules rules).plan element (doc.value element),
      Document.Agrees action.target (action.effect.showing
        (rule.trigger.comparison.holds (doc.value rule.trigger.element) rule.trigger.expected))
        planned := by
  intro planned member target twoSided
  obtain ⟨other, declared, watches, rival, listed, aims, effective⟩ :=
    RuleIndex.exists_of_mem_plan member
  -- What shows or hides the target can only be the one action, at the element of its own rule.
  obtain ⟨rfl, rfl⟩ := decides.alone other declared rival listed (aims.symm.trans target)
    (Effect.twoSided_of_effective effective twoSided)
  rw [← watches, decides.twoSided.effective_eq, Option.some.injEq] at effective
  rw [← effective]
  cases rival.effect.showing _ with
  | true => rfl
  | false => rfl

theorem value_react (element : String) (doc : Document) :
    (doc.react (.ofRules rules) element).value rule.trigger.element =
      doc.value rule.trigger.element := by
  apply Document.value_follow
  intro planned member sets
  obtain ⟨other, declared, -, setter, listed, aims, effective⟩ :=
    RuleIndex.exists_of_mem_plan member
  rw [sets] at effective
  rw [aims]
  exact decides.unset other declared setter listed (Effect.eq_setValue_of_effective effective)

/-- Evaluating the rules of the watched element settles its target, and evaluating those of another
element keeps it settled. -/
theorem settled_react {element : String} {doc : Document}
    (present : (doc.visible? action.target).isSome = true)
    (reached : element = rule.trigger.element ∨ doc.Settled rule action) :
    (doc.react (.ofRules rules) element).Settled rule action := by
  rw [Document.Settled, decides.value_react]
  rcases reached with rfl | settled
  -- The action that decides is planned itself, and it finds its target.
  · have planned := RuleIndex.mem_plan_of_effective (doc.value rule.trigger.element)
      decides.declared decides.listed (decides.twoSided.effective_eq _)
    apply Document.visible?_follow_of_mem decides.agrees planned rfl ?_ present
    cases action.effect.showing _ with
    | true => exact .inl rfl
    | false => exact .inr rfl
  · exact Document.visible?_follow_of_agrees decides.agrees settled

/-- Evaluating the rules of several elements settles the target if the watched one is among them. -/
theorem settled_foldl_react {elements : List String} {doc : Document}
    (present : (doc.visible? action.target).isSome = true)
    (reached : rule.trigger.element ∈ elements ∨ doc.Settled rule action) :
    (elements.foldl (Document.react (.ofRules rules)) doc).Settled rule action := by
  induction elements generalizing doc with
  | nil => exact reached.resolve_left List.not_mem_nil
  | cons element rest ih =>
    apply ih (Document.isSome_visible?_follow present _)
    rcases reached with member | settled
    · rcases List.mem_cons.mp member with same | later
      · exact .inr (decides.settled_react present (.inl same.symm))
      · exact .inl later
    · exact .inr (decides.settled_react present (.inr settled))

end Action.DecidesAlone

end LiveMarkup

import LiveMarkup.Rules.Condition

/-!
# Rule index

Rules grouped by the element they watch, each group by descending priority and in declaration order
among equals. Showing and hiding are two-sided: when the condition fails the opposite is done. Every
other effect happens only while the condition holds.
-/

set_option autoImplicit false

namespace LiveMarkup

/-- Rules grouped by watched element, in evaluation order. -/
structure RuleIndex where
  groups : List (String × List Rule)

/-- What a rule does to one target after its condition was evaluated. -/
structure PlannedAction where
  rule : String
  target : String
  effect : Effect
  value : Option Json

namespace RuleIndex

/-- Inserts a rule into rules of descending priority, before those of its own priority. -/
def insertRule (rule : Rule) : List Rule → List Rule
  | [] => [rule]
  | head :: rest =>
    if rule.priority < head.priority then head :: insertRule rule rest else rule :: head :: rest

/-- The rules by descending priority, in their order among equals. -/
def byPriority (rules : List Rule) : List Rule := rules.foldr insertRule []

/-- The elements of a list, each at its first place only. -/
def firstSeen (names : List String) : List String :=
  names.foldl (fun seen name => if seen.contains name then seen else seen ++ [name]) []

/-- The index of a list of rules. -/
def ofRules (rules : List Rule) : RuleIndex where
  groups := (firstSeen (rules.map fun rule => rule.trigger.element)).map fun element =>
    (element, byPriority (rules.filter fun rule => rule.trigger.element == element))

/-- The watched elements in the order of their first rules. -/
def triggers (index : RuleIndex) : List String := index.groups.map Prod.fst

/-- The rules that watch an element. -/
def rulesFor (index : RuleIndex) (element : String) : List Rule :=
  (index.groups.lookup element).getD []

/-- All rules, group after group. -/
def ordered (index : RuleIndex) : List Rule := index.groups.flatMap Prod.snd

/-- How many rules there are. -/
def size (index : RuleIndex) : Nat :=
  index.groups.foldl (fun size group => size + group.2.length) 0

/-- Whether there are no rules. -/
def isEmpty (index : RuleIndex) : Bool := index.groups.isEmpty

/-- What is done in place of an effect when its rule's condition holds or fails. -/
def effective (effect : Effect) (holds : Bool) : Option Effect :=
  match effect, holds with
  | .show, false => some .hide
  | .hide, false => some .show
  | .unknown, _ => none
  | effect, true => some effect
  | _, false => none

/-- What a rule does when the watched element holds `value`. -/
def planRule (value : Json) (rule : Rule) : List PlannedAction :=
  let holds := rule.trigger.comparison.holds value rule.trigger.expected
  rule.actions.filterMap fun action =>
    (effective action.effect holds).map fun effect => ⟨rule.id, action.target, effect, action.value⟩

/-- What is to be done when an element holds `value`. -/
def plan (index : RuleIndex) (element : String) (value : Json) : List PlannedAction :=
  (index.rulesFor element).flatMap (planRule value)

theorem mem_insertRule {rule other : Rule} {rules : List Rule} :
    other ∈ insertRule rule rules ↔ other = rule ∨ other ∈ rules := by
  induction rules with
  | nil => simp [insertRule]
  | cons head rest ih =>
    unfold insertRule
    split
    · simp only [List.mem_cons, ih, or_left_comm]
    · exact List.mem_cons

theorem mem_byPriority {rule : Rule} {rules : List Rule} : rule ∈ byPriority rules ↔ rule ∈ rules := by
  induction rules with
  | nil => exact Iff.rfl
  | cons head rest ih =>
    rw [byPriority, List.foldr_cons, mem_insertRule, List.mem_cons]
    exact or_congr_right ih

theorem mem_of_mem_group {rules : List Rule} {group : String × List Rule}
    (indexed : group ∈ (ofRules rules).groups) {rule : Rule} (member : rule ∈ group.2) :
    rule ∈ rules := by
  obtain ⟨watched, -, rfl⟩ := List.mem_map.mp indexed
  exact (List.mem_filter.mp (mem_byPriority.mp member)).1

theorem mem_of_mem_ordered {rules : List Rule} {rule : Rule}
    (listed : rule ∈ (ofRules rules).ordered) : rule ∈ rules := by
  obtain ⟨group, indexed, member⟩ := List.mem_flatMap.mp listed
  exact mem_of_mem_group indexed member

theorem mem_of_mem_rulesFor {rules : List Rule} {element : String} {rule : Rule}
    (watching : rule ∈ (ofRules rules).rulesFor element) : rule ∈ rules := by
  unfold rulesFor at watching
  cases found : (ofRules rules).groups.lookup element with
  | none => simp [found] at watching
  | some group =>
    rw [found, Option.getD_some] at watching
    obtain ⟨before, after, split, -⟩ := List.lookup_eq_some_iff.mp found
    have indexed : (element, group) ∈ (ofRules rules).groups := by simp [split]
    exact mem_of_mem_group indexed watching

/-- Whatever is planned acts on the target of an action of one of the rules. -/
theorem exists_action_of_mem_plan {rules : List Rule} {element : String} {value : Json}
    {planned : PlannedAction} (member : planned ∈ (ofRules rules).plan element value) :
    ∃ rule ∈ rules, ∃ action ∈ rule.actions, planned.target = action.target := by
  obtain ⟨rule, watching, member⟩ := List.mem_flatMap.mp member
  obtain ⟨action, listed, same⟩ := List.mem_filterMap.mp member
  obtain ⟨effect, -, rfl⟩ := Option.map_eq_some_iff.mp same
  exact ⟨rule, mem_of_mem_rulesFor watching, action, listed, rfl⟩

end RuleIndex

end LiveMarkup

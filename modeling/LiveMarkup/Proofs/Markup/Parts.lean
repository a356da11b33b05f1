import LiveMarkup.Proofs.Controller.Scaffold
import LiveMarkup.Proofs.Markup.Ids

/-!
# Parts of the markup and of the scaffold

The scaffold stands for the markup where there is no browser. Which panels are visible is the same in
both. Which parts there are need not be: the scaffold has a panel and a tab for every declared state and
the results of every dataset, while the markup follows the pattern and gives a single state no tab
(`Structure.panelId_mem_ids_root_iff` and those behind it). So the two agree exactly for the components
that have every part drawn (`Document.scaffold_agrees_iff`).
-/

set_option autoImplicit false

namespace LiveMarkup

namespace Component

/-- Whether an id is that of a panel, of a tab or of the results of the component. -/
def OwnsPart (component : Component) (id : String) : Prop :=
  component.OwnsView id ∨ id = resultsId component.id

/-- Every part of the component is in its markup, but for those that a rule mentions: the pattern shows
the states that are declared, there are several of them, as a single one has no tab, and the pattern
shows the records if there are any. The content of a panel may bring an element with the id of a tab or
of the results. -/
structure Drawn (component : Component) : Prop where
  panels : ∀ state ∈ component.states, ¬component.Mentions (panelId component.id state.id) →
    component.pattern.usesStates = true
  tabs : ∀ state ∈ component.states, ¬component.Mentions (tabId component.id state.id) →
    component.pattern.usesStates = true ∧ 1 < component.states.length ∨
      tabId component.id state.id ∈ component.contentIds
  results : ¬component.Mentions (resultsId component.id) →
    (component.data.isSome = true ↔
      component.pattern.usesData = true ∧ component.data.isSome = true ∨
        resultsId component.id ∈ component.contentIds)

end Component

/-! ## Ids in the markup -/

/-- An id with something behind that of the component is not that of the component. -/
theorem append_ne_id {component mark : String} (marked : mark.toList ≠ []) :
    component ++ mark ≠ component := by
  intro same
  have lists := congrArg String.toList same
  rw [String.toList_append, List.append_right_eq_self] at lists
  exact marked lists

theorem panelId_ne_id (component state : String) : panelId component state ≠ component := by
  rw [panelId, String.append_assoc]
  exact append_ne_id (by simp)

theorem tabId_ne_id (component state : String) : tabId component state ≠ component := by
  rw [tabId, String.append_assoc]
  exact append_ne_id (by simp)

theorem resultsId_ne_id (component : String) : resultsId component ≠ component :=
  append_ne_id (by simp)

namespace Structure

open Markup

variable {component : Component} {theme : Theme}

/-- The ids of an element in the markup: those of the root, of the tabs, of the panels with what their
content brings along, and of the results. -/
theorem mem_ids_root_iff {id : String} :
    id ∈ (root component theme).ids ↔
      id = component.id ∨
        (component.pattern.usesStates = true ∧ 1 < component.states.length ∧
          ∃ state ∈ component.states, id = tabId component.id state.id) ∨
        (component.pattern.usesStates = true ∧
          ∃ state ∈ component.states, id = panelId component.id state.id) ∨
        id ∈ component.contentIds ∨
        ((component.pattern.usesData = true ∧ component.data.isSome = true) ∧
          id = resultsId component.id) := by
  have tabs : id ∈ (if 1 < component.states.length then
      component.states.map fun state => tabId component.id state.id else []) ↔
        1 < component.states.length ∧ ∃ state ∈ component.states, id = tabId component.id state.id := by
    split
    · rename_i several
      simp only [List.mem_map, several, true_and, eq_comm]
    · rename_i few
      simp only [List.not_mem_nil, few, false_and]
  have panels : id ∈ component.states.flatMap (fun state =>
      panelId component.id state.id :: state.content.tree.ids) ↔
        (∃ state ∈ component.states, id = panelId component.id state.id) ∨
          ∃ state ∈ component.states, id ∈ state.content.tree.ids := by
    simp only [List.mem_flatMap, List.mem_cons, and_or_left, exists_or]
  have results : id ∈ (if component.pattern.usesData then
      component.data.toList.map fun _ => resultsId component.id else []) ↔
        (component.pattern.usesData = true ∧ component.data.isSome = true) ∧
          id = resultsId component.id := by
    cases component.data <;> cases component.pattern.usesData <;> simp
  rw [ids_root, List.mem_cons, List.mem_append, results, Component.contentIds]
  cases component.pattern.usesStates with
  | false => simp
  | true =>
    simp only [if_true, true_and]
    rw [ids_states, List.mem_append, tabs, panels, List.mem_flatMap]
    simp only [or_assoc]

/-- Panels that are not shown bring nothing along. -/
theorem usesStates_of_mem_contentIds {id : String} (content : id ∈ component.contentIds) :
    component.pattern.usesStates = true := by
  rw [Component.contentIds] at content
  split at content
  · assumption
  · cases content

theorem panelId_mem_ids_root_iff {state : State} (declared : state ∈ component.states) :
    panelId component.id state.id ∈ (root component theme).ids ↔
      component.pattern.usesStates = true := by
  rw [mem_ids_root_iff]
  constructor
  · rintro (root | ⟨shown, -⟩ | ⟨shown, -⟩ | content | ⟨-, results⟩)
    · exact absurd root (panelId_ne_id _ _)
    · exact shown
    · exact shown
    · exact usesStates_of_mem_contentIds content
    · exact absurd ⟨state, declared, .inl results.symm⟩ (not_ownsView_resultsId component)
  · intro shown
    exact .inr (.inr (.inl ⟨shown, state, declared, rfl⟩))

theorem tabId_mem_ids_root_iff {state : State} (declared : state ∈ component.states) :
    tabId component.id state.id ∈ (root component theme).ids ↔
      component.pattern.usesStates = true ∧ 1 < component.states.length ∨
        tabId component.id state.id ∈ component.contentIds := by
  rw [mem_ids_root_iff]
  constructor
  · rintro (root | ⟨shown, several, -⟩ | ⟨-, other, -, panel⟩ | content | ⟨-, results⟩)
    · exact absurd root (tabId_ne_id _ _)
    · exact .inl ⟨shown, several⟩
    · exact absurd panel (tabId_ne_panelId _ _ _)
    · exact .inr content
    · exact absurd ⟨state, declared, .inr results.symm⟩ (not_ownsView_resultsId component)
  · rintro (⟨shown, several⟩ | content)
    · exact .inr (.inl ⟨shown, several, state, declared, rfl⟩)
    · exact .inr (.inr (.inr (.inl content)))

theorem resultsId_mem_ids_root_iff :
    resultsId component.id ∈ (root component theme).ids ↔
      component.pattern.usesData = true ∧ component.data.isSome = true ∨
        resultsId component.id ∈ component.contentIds := by
  rw [mem_ids_root_iff]
  constructor
  · rintro (root | ⟨-, -, state, declared, tab⟩ | ⟨-, state, declared, panel⟩ | content | ⟨shown, -⟩)
    · exact absurd root (resultsId_ne_id _)
    · exact absurd ⟨state, declared, .inr tab⟩ (not_ownsView_resultsId component)
    · exact absurd ⟨state, declared, .inl panel⟩ (not_ownsView_resultsId component)
    · exact .inr content
    · exact .inl shown
  · rintro (shown | content)
    · exact .inr (.inr (.inr (.inr ⟨shown, rfl⟩)))
    · exact .inr (.inr (.inr (.inl content)))

/-! ## Panels -/

/-- A panel is hidden by a flag unless it is the active one. -/
theorem hidden_panel (id : String) (several lazy active : Bool) (state : State) :
    valuesOf "hidden" (panel id theme several lazy active state).attributes = [] ↔ active = true := by
  have front : valuesOf "hidden" [attr "id" (panelId id state.id)] = [] := valuesOf_fixed _ rfl
  have role : valuesOf "hidden" [attr "role" "tabpanel", attr "data-state" state.id] = [] :=
    valuesOf_fixed _ rfl
  have labelled : valuesOf "hidden"
      (if several then [attr "aria-labelledby" (tabId id state.id)] else []) = [] := by
    cases several <;> exact valuesOf_fixed _ rfl
  have classes := valuesOf_classAttr (show "hidden" ≠ "class" by decide)
    [theme.classOf "panel", if active then theme.classOf "active" else theme.classOf "hidden"]
  simp only [panel, Markup.attributes, valuesOf_append, front, classes, role, labelled, List.nil_append]
  cases active with
  | true => exact iff_of_true (valuesOf_fixed _ rfl) rfl
  | false =>
    have flagged : valuesOf "hidden" [flag "hidden"] = [none] := valuesOf_fixed _ rfl
    exact iff_of_false (by simp [flagged]) Bool.false_ne_true

/-- A child of the root with the id of a panel is that panel. -/
theorem eq_panel_of_hasId {state : State} (declared : state ∈ component.states) {child : Markup}
    (member : child ∈ (root component theme).children)
    (found : child.hasId (panelId component.id state.id) = true) :
    ∃ several lazy, child = panel component.id theme several lazy
      (component.initialState.map State.id == some state.id) state := by
  rw [root, Markup.children, List.mem_append, List.mem_append] at member
  rcases member with (inStates | inData) | inPlaceholder
  · split at inStates
    · rcases List.mem_append.mp inStates with nav | panels
      · split at nav
        · obtain rfl := List.mem_singleton.mp nav
          rw [hasId_tag_of_idless (idless_classed _ rfl rfl)] at found
          cases found
        · cases nav
      · obtain ⟨other, listed, rfl⟩ := List.mem_map.mp panels
        have same : panelId component.id state.id = panelId component.id other.id := by
          simpa [hasId, ids_panelAttributes] using found
        obtain rfl := Component.state_eq_of_id_eq declared listed (panelId_inj.mp same)
        exact ⟨_, _, rfl⟩
    · cases inStates
  · -- Of the elements for a dataset only the one that lists the records has an id.
    split at inData
    · obtain ⟨given, -, inData⟩ := List.mem_flatMap.mp inData
      have listed := mem_listIds_of_hasId inData found
      rw [ids_data, List.mem_singleton] at listed
      exact absurd ⟨state, declared, .inl listed.symm⟩ (not_ownsView_resultsId component)
    · cases inData
  · have listed := mem_listIds_of_hasId inPlaceholder found
    rw [ids_placeholder] at listed
    cases listed

end Structure

/-! ## Patterns that are not forced -/

/-- The pattern that facts lead to uses the inputs that there are. -/
theorem Facts.pattern_uses (facts : Facts) (limits : Thresholds) :
    (facts.pattern limits).usesStates = facts.hasStates ∧
      (facts.pattern limits).usesData = facts.hasData ∧
      (facts.pattern limits).usesRules = facts.hasRules := by
  unfold Facts.pattern
  cases facts.hasStates <;> cases facts.hasData <;> cases facts.hasRules
  -- Only the size of a single kind of input, or of records beside states, makes a difference.
  all_goals first
    | exact ⟨rfl, rfl, rfl⟩
    | dsimp only
      split <;> exact ⟨rfl, rfl, rfl⟩

namespace Component

variable {component : Component}

theorem pattern_of_unforced (unforced : component.options.forcePattern = none) :
    component.pattern = component.inputs.facts.pattern component.options.thresholds := by
  rw [pattern, detected, Inputs.resolve, unforced]
  rfl

/-- With a pattern of its own, and not with a single state, a component has every part drawn. -/
theorem drawn_of_unforced (unforced : component.options.forcePattern = none)
    (several : component.states.length ≠ 1)
    (foreign : ∀ id ∈ component.contentIds, ¬component.OwnsPart id) : component.Drawn := by
  have shown : ∀ state ∈ component.states, component.pattern.usesStates = true := by
    intro state declared
    have given : component.inputs.facts.hasStates = true := by
      cases states : component.inputs.states with
      | none =>
        rw [Component.states, states] at declared
        cases declared
      | some list => rw [Inputs.facts, states]; rfl
    rw [pattern_of_unforced unforced, (Facts.pattern_uses _ _).1, given]
  have listed : component.data.isSome = true → component.pattern.usesData = true := by
    intro given
    rw [pattern_of_unforced unforced, (Facts.pattern_uses _ _).2.1]
    exact given
  refine ⟨fun state declared _ => shown state declared, fun state declared _ => ?_, fun _ => ?_⟩
  · have positive : 0 < component.states.length := List.length_pos_of_mem declared
    exact .inl ⟨shown state declared, by omega⟩
  · have absent : resultsId component.id ∉ component.contentIds := fun content =>
      foreign _ content (.inr rfl)
    rw [or_iff_left absent]
    exact ⟨fun given => ⟨listed given, given⟩, And.right⟩

end Component

namespace Document

open Structure

/-- The results are in the scaffold of a component with a dataset. -/
theorem contains_resultsId_iff {component : Component}
    (unmentioned : ¬component.Mentions (resultsId component.id)) :
    (scaffold component).contains (resultsId component.id) = true ↔ component.data.isSome = true := by
  rw [contains_scaffold_iff]
  constructor
  · rintro (root | view | ⟨data, given, -⟩ | mentioned)
    · exact absurd root (resultsId_ne_id _)
    · exact absurd view (not_ownsView_resultsId component)
    · rw [given]
      rfl
    · exact absurd mentioned unmentioned
  · intro given
    obtain ⟨data, given⟩ := Option.isSome_iff_exists.mp given
    exact .inr (.inr (.inl ⟨data, given, .inl rfl⟩))

/-- The scaffold has the parts that the markup has exactly when every part is drawn. -/
theorem agrees_iff_drawn (component : Component) (theme : Theme) :
    (∀ id, component.OwnsPart id → ¬component.Mentions id →
      ((scaffold component).contains id = true ↔ id ∈ (root component theme).ids)) ↔
        component.Drawn := by
  -- Every panel and every tab is in the scaffold, so what counts is whether the markup has it.
  have view : ∀ id, component.OwnsView id → (scaffold component).contains id = true := fun id owned =>
    contains_scaffold_iff.mpr (.inr (.inl owned))
  constructor
  · intro agrees
    refine ⟨fun state declared unmentioned => ?_, fun state declared unmentioned => ?_,
      fun unmentioned => ?_⟩
    · have owned : component.OwnsView (panelId component.id state.id) := ⟨state, declared, .inl rfl⟩
      exact (panelId_mem_ids_root_iff declared).mp
        ((agrees _ (.inl owned) unmentioned).mp (view _ owned))
    · have owned : component.OwnsView (tabId component.id state.id) := ⟨state, declared, .inr rfl⟩
      exact (tabId_mem_ids_root_iff declared).mp
        ((agrees _ (.inl owned) unmentioned).mp (view _ owned))
    · exact (contains_resultsId_iff unmentioned).symm.trans
        ((agrees _ (.inr rfl) unmentioned).trans resultsId_mem_ids_root_iff)
  · rintro drawn id (⟨state, declared, rfl | rfl⟩ | rfl) unmentioned
    · exact iff_of_true (view _ ⟨state, declared, .inl rfl⟩)
        ((panelId_mem_ids_root_iff declared).mpr (drawn.panels state declared unmentioned))
    · exact iff_of_true (view _ ⟨state, declared, .inr rfl⟩)
        ((tabId_mem_ids_root_iff declared).mpr (drawn.tabs state declared unmentioned))
    · rw [contains_resultsId_iff unmentioned, resultsId_mem_ids_root_iff]
      exact drawn.results unmentioned

/-- A panel in the markup is as visible as it is in the scaffold. -/
theorem isVisible_iff_of_hasId {component : Component} {theme : Theme} {state : State}
    (declared : state ∈ component.states) {child : Markup}
    (member : child ∈ (root component theme).children)
    (found : child.hasId (panelId component.id state.id) = true) :
    (scaffold component).isVisible (panelId component.id state.id) = true ↔
      Markup.valuesOf "hidden" child.attributes = [] := by
  obtain ⟨several, lazy, rfl⟩ := eq_panel_of_hasId declared member found
  obtain ⟨element, held, visible⟩ :=
    Option.map_eq_some_iff.mp (scaffold_shows component state declared).1
  rw [hidden_panel, isVisible, held, Option.any_some, visible, decide_eq_true_eq, beq_iff_eq]

/-- A panel in the markup is hidden exactly when the scaffold has it invisible. Of the panels, tabs and
results that no rule mentions, the scaffold has those that are in the markup exactly for the components
that have every part drawn; without a forced pattern these are all but the ones with a single state,
content with such ids aside. -/
theorem scaffold_agrees_iff (component : Component) (theme : Theme) :
    (∀ state ∈ component.states, ∀ child ∈ (root component theme).children,
      child.hasId (panelId component.id state.id) = true →
        ((scaffold component).isVisible (panelId component.id state.id) = true ↔
          Markup.valuesOf "hidden" child.attributes = [])) ∧
      ((∀ id, component.OwnsPart id → ¬component.Mentions id →
          ((scaffold component).contains id = true ↔ id ∈ (root component theme).ids)) ↔
        component.Drawn) ∧
      (component.options.forcePattern = none → component.states.length ≠ 1 →
        (∀ id ∈ component.contentIds, ¬component.OwnsPart id) → component.Drawn) :=
  ⟨fun _ declared _ member found => isVisible_iff_of_hasId declared member found,
    agrees_iff_drawn component theme, Component.drawn_of_unforced⟩

/-- A component with two states, a record and a rule that mentions a tab. -/
def shop : Component where
  id := "shop"
  inputs :=
    ⟨some [.ofId "list" "List", .ofId "map" "Map"],
      some ⟨[[("name", .string "Ada")]], [.ofKind .text "name"], .standard⟩,
      some [.showWhen "box" .checked .null "shop-tab-map"]⟩
  options := .standard
  accepted := by decide +kernel

/-- The parts of `shop` are in its scaffold exactly when they are in its markup, and the panel of its
second state is hidden in both. -/
theorem scaffold_agrees_iff_shop :
    (shop.options.forcePattern = none ∧ shop.states.length ≠ 1 ∧ shop.contentIds = []) ∧
      (∀ id, shop.OwnsPart id → ¬shop.Mentions id →
        ((scaffold shop).contains id = true ↔ id ∈ (root shop .standard).ids)) ∧
      (scaffold shop).isVisible "shop-panel-map" = false ∧
      ∀ child ∈ (root shop .standard).children, child.hasId "shop-panel-map" = true →
        Markup.valuesOf "hidden" child.attributes ≠ [] := by
  have plain : shop.contentIds = [] := by decide +kernel
  have hidden : (scaffold shop).isVisible "shop-panel-map" = false := by decide +kernel
  have declared : State.ofId "map" "Map" ∈ shop.states := List.mem_cons_of_mem _ List.mem_cons_self
  obtain ⟨visible, agrees, drawn⟩ := scaffold_agrees_iff shop .standard
  have every : shop.Drawn := drawn rfl (by decide +kernel) fun id content => by
    rw [plain] at content
    cases content
  refine ⟨⟨rfl, by decide +kernel, plain⟩, agrees.mpr every, hidden, fun child member found => ?_⟩
  have same := visible (.ofId "map" "Map") declared child member found
  exact same.not.mp (Bool.eq_false_iff.mp hidden)

/-- A component with a single state. -/
def lone : Component where
  id := "c"
  inputs := ⟨some [.ofId "a" "a"], none, none⟩
  options := .standard
  accepted := by decide +kernel

/-- The scaffold of `lone` has a tab, which no rule mentions and which is not in the markup. -/
theorem scaffold_lone :
    lone.OwnsPart "c-tab-a" ∧ ¬lone.Mentions "c-tab-a" ∧
      (scaffold lone).contains "c-tab-a" = true ∧ "c-tab-a" ∉ (root lone .standard).ids := by
  refine ⟨.inl (by decide +kernel), ?_, by decide +kernel, by decide +kernel⟩
  rintro ⟨rule, declared, -⟩
  cases declared

end Document

end LiveMarkup

import LiveMarkup.Proofs.Component.Acceptance
import LiveMarkup.Proofs.Controller.Lifecycle
import LiveMarkup.Proofs.Controller.StatePath
import Mathlib.Data.List.Nodup

/-!
# What is shown of the states

Panels, tabs, rows, results and the targets of rules are elements of one document, told apart by
their ids. The ids of a component's own elements never coincide (`ownId_ne`), so rows and results
leave panels and tabs alone, and rules do when none of them acts on a panel or a tab. The scaffold
`Shows` the initial state, entering a state makes the document show it instead (`Shows.enter`), and
every other act keeps what is shown (`Displayed.act`). Hence a ready session shows its active state
and no other one (`run_shows_active`).
-/

set_option autoImplicit false

namespace LiveMarkup

/-! ## Ids -/

/-- Ids of one component with different marks differ when neither mark begins the other. -/
theorem ownId_ne {component mark other rest more : String}
    (apart : ¬(mark.toList <+: other.toList ∨ other.toList <+: mark.toList)) :
    component ++ mark ++ rest ≠ component ++ other ++ more := by
  intro same
  have lists := congrArg String.toList same
  simp only [String.toList_append, List.append_assoc, List.append_cancel_left_eq] at lists
  refine apart (List.prefix_or_prefix_of_prefix (List.prefix_append _ rest.toList) ?_)
  rw [lists]
  exact List.prefix_append _ _

theorem panelId_inj {component state other : String} :
    panelId component state = panelId component other ↔ state = other := by
  constructor
  · intro same
    have lists := congrArg String.toList same
    simp only [panelId, String.toList_append, List.append_cancel_left_eq] at lists
    exact String.toList_inj.mp lists
  · exact congrArg _

theorem tabId_inj {component state other : String} :
    tabId component state = tabId component other ↔ state = other := by
  constructor
  · intro same
    have lists := congrArg String.toList same
    simp only [tabId, String.toList_append, List.append_cancel_left_eq] at lists
    exact String.toList_inj.mp lists
  · exact congrArg _

theorem tabId_ne_panelId (component state other : String) :
    tabId component state ≠ panelId component other := ownId_ne (by decide)

/-- Whether an id is that of a panel or a tab of the component. -/
def Component.OwnsView (component : Component) (id : String) : Prop :=
  ∃ state ∈ component.states, id = panelId component.id state.id ∨ id = tabId component.id state.id

instance (component : Component) (id : String) : Decidable (component.OwnsView id) :=
  inferInstanceAs (Decidable (∃ state ∈ component.states, _ ∨ _))

theorem not_ownsView_rowId (component : Component) (index : Nat) :
    ¬component.OwnsView (rowId component.id index) := by
  rintro ⟨state, -, same | same⟩
  · exact ownId_ne (by decide) same
  · exact ownId_ne (by decide) same

theorem not_ownsView_resultsId (component : Component) :
    ¬component.OwnsView (resultsId component.id) := by
  have padded : resultsId component.id = component.id ++ "-results" ++ "" := by simp [resultsId]
  rw [padded]
  rintro ⟨state, -, same | same⟩
  · exact ownId_ne (by decide) same
  · exact ownId_ne (by decide) same

/-! ## Documents -/

namespace Document

/-- Whether a state's panel is visible; nothing without a panel. -/
def panelVisible? (doc : Document) (component state : String) : Option Bool :=
  (doc.find? (panelId component state)).map Element.visible

/-- What a state's tab says of being selected. -/
def tabSelected? (doc : Document) (component state : String) : Option Json :=
  (doc.find? (tabId component state)).bind fun tab => Fields.get? tab.attributes "aria-selected"

/-- Every panel is visible and every tab selected exactly when its state is the active one. -/
def Shows (doc : Document) (component : Component) (active : Option String) : Prop :=
  ∀ state ∈ component.states,
    doc.panelVisible? component.id state.id = some (decide (active = some state.id)) ∧
      doc.tabSelected? component.id state.id = some (.bool (decide (active = some state.id)))

/-- Every panel and tab of one document is in the other, as visible and with the same attributes. -/
def Keeps (component : Component) (before after : Document) : Prop :=
  ∀ id, component.OwnsView id → ∀ element, before.find? id = some element →
    ∃ kept, after.find? id = some kept ∧ kept.visible = element.visible ∧
      kept.attributes = element.attributes

variable {component : Component} {before after : Document}

theorem Keeps.refl (component : Component) (doc : Document) : Keeps component doc doc :=
  fun _ _ element found => ⟨element, found, rfl, rfl⟩

theorem Keeps.trans {last : Document} (h : Keeps component before after)
    (k : Keeps component after last) : Keeps component before last := by
  intro id owned element found
  obtain ⟨kept, hkept, visible, attributes⟩ := h id owned element found
  obtain ⟨still, hstill, visible', attributes'⟩ := k id owned kept hkept
  exact ⟨still, hstill, visible'.trans visible, attributes'.trans attributes⟩

theorem Keeps.foldl {α : Type} {change : Document → α → Document}
    (keeps : ∀ doc item, Keeps component doc (change doc item)) (items : List α) (doc : Document) :
    Keeps component doc (items.foldl change doc) := by
  induction items generalizing doc with
  | nil => exact .refl component doc
  | cons item rest ih => exact (keeps doc item).trans (ih _)

theorem Shows.keep {active : Option String} (showing : before.Shows component active)
    (keeps : Keeps component before after) : after.Shows component active := by
  intro state declared
  obtain ⟨visible, selected⟩ := showing state declared
  obtain ⟨panel, hpanel, hvisible⟩ := Option.map_eq_some_iff.mp visible
  obtain ⟨tab, htab, hselected⟩ := Option.bind_eq_some_iff.mp selected
  obtain ⟨panel', hpanel', same, -⟩ := keeps _ ⟨state, declared, .inl rfl⟩ panel hpanel
  obtain ⟨tab', htab', -, attributes⟩ := keeps _ ⟨state, declared, .inr rfl⟩ tab htab
  refine ⟨?_, ?_⟩
  · rw [panelVisible?, hpanel', Option.map_some, same, hvisible]
  · rw [tabSelected?, htab', Option.bind_some, attributes, hselected]

theorem keeps_modify_of_not_ownsView {id : String} (foreign : ¬component.OwnsView id)
    (change : Element → Element) (doc : Document) : Keeps component doc (doc.modify id change) := by
  intro other owned element found
  have others : other ≠ id := fun same => foreign (same ▸ owned)
  exact ⟨element, by rw [StringMap.find?_modify, if_neg others, found], rfl, rfl⟩

/-- A change that concerns neither visibility nor attributes may be made to any element. -/
theorem keeps_modify {change : Element → Element}
    (same : ∀ element, (change element).visible = element.visible ∧
      (change element).attributes = element.attributes) (id : String) (doc : Document) :
    Keeps component doc (doc.modify id change) := by
  intro other owned element found
  rw [StringMap.find?_modify, found]
  split
  · exact ⟨change element, rfl, same element⟩
  · exact ⟨element, rfl, rfl, rfl⟩

theorem keeps_ensure (id : String) (doc : Document) : Keeps component doc (doc.ensure id) := by
  intro other owned element found
  refine ⟨element, ?_, rfl, rfl⟩
  rw [ensure, StringMap.find?_insertNew, found]
  split <;> rfl

/-! ## The scaffold -/

theorem find?_put (doc : Document) (id other : String) (change : Element → Element) :
    (doc.put id change).find? other =
      if other = id then some (change ((doc.find? other).getD .fresh)) else doc.find? other := by
  rw [put, ensure, StringMap.find?_modify, StringMap.find?_insertNew]
  split
  · cases doc.find? other <;> rfl
  · rfl

theorem find?_put_of_ne {id other : String} (differs : other ≠ id) (doc : Document)
    (change : Element → Element) : (doc.put id change).find? other = doc.find? other := by
  rw [find?_put, if_neg differs]

/-- An input to an element is no matter of visibility or attributes. -/
theorem find?_put_value {doc : Document} {id : String} {before : Element}
    (found : doc.find? id = some before) (target : String) (input : Json) :
    ∃ after, (doc.put target fun e => { e with value := input }).find? id = some after ∧
      after.visible = before.visible ∧ after.attributes = before.attributes := by
  rw [find?_put, found]
  split
  · exact ⟨_, rfl, rfl, rfl⟩
  · exact ⟨before, rfl, rfl, rfl⟩

theorem addState_panelVisible? (component : String) (initial : Option String) (doc : Document)
    (state : State) (other : String) :
    (addState component initial doc state).panelVisible? component other =
      if other = state.id then some (decide (initial = some state.id))
      else doc.panelVisible? component other := by
  simp only [addState, panelVisible?]
  rw [find?_put_of_ne (tabId_ne_panelId component state.id other).symm, find?_put]
  simp only [panelId_inj, Bool.beq_eq_decide_eq]
  split
  · rfl
  · rfl

theorem addState_tabSelected? (component : String) (initial : Option String) (doc : Document)
    (state : State) (other : String) :
    (addState component initial doc state).tabSelected? component other =
      if other = state.id then some (.bool (decide (initial = some state.id)))
      else doc.tabSelected? component other := by
  simp only [addState, tabSelected?]
  rw [find?_put]
  simp only [tabId_inj, Bool.beq_eq_decide_eq]
  split
  · rw [Option.bind_some, Fields.get?_put, if_pos rfl]
  · rw [find?_put_of_ne (tabId_ne_panelId component other state.id)]

/-- Adding states shows the initial one of them, whatever was there before. -/
theorem foldl_addState_shows (component : String) (initial : Option String) (states : List State)
    (doc : Document) :
    ∀ state ∈ states,
      (states.foldl (addState component initial) doc).panelVisible? component state.id =
          some (decide (initial = some state.id)) ∧
        (states.foldl (addState component initial) doc).tabSelected? component state.id =
          some (.bool (decide (initial = some state.id))) := by
  induction states using List.reverseRecOn with
  | nil => simp
  | append_singleton earlier last ih =>
    intro state declared
    rw [List.foldl_append, List.foldl_cons, List.foldl_nil, addState_panelVisible?,
      addState_tabSelected?]
    -- A later state of the same id is added with the same mark, so the last one of an id counts.
    by_cases same : state.id = last.id
    · rw [if_pos same, if_pos same, same]
      exact ⟨rfl, rfl⟩
    · rw [if_neg same, if_neg same]
      have before : state ∈ earlier := by
        rcases List.mem_append.mp declared with h | h
        · exact h
        · exact absurd (congrArg State.id (List.mem_singleton.mp h)) same
      exact ih state before

theorem addData_keeps (component : Component) (doc : Document) (data : Dataset) :
    Keeps component doc (addData component.id doc data) := by
  refine (keeps_ensure (resultsId component.id) doc).trans (.foldl ?_ _ _)
  intro doc item
  exact (keeps_ensure _ doc).trans
    (keeps_modify_of_not_ownsView (not_ownsView_rowId component item.2) _ _)

theorem addRule_keeps (component : Component) (doc : Document) (rule : Rule) :
    Keeps component doc (addRule doc rule) :=
  (keeps_ensure rule.trigger.element doc).trans
    (.foldl (fun doc (action : Action) => keeps_ensure action.target doc) _ _)

theorem scaffold_shows (component : Component) :
    (scaffold component).Shows component (component.initialState.map State.id) := by
  have withStates : Shows (component.states.foldl
      (addState component.id (component.initialState.map State.id)) (ensure .empty component.id))
      component (component.initialState.map State.id) :=
    foldl_addState_shows component.id _ component.states _
  have withData := withStates.keep (.foldl (addData_keeps component) component.data.toList _)
  exact withData.keep (.foldl (addRule_keeps component) component.rules _)

end Document

namespace Controller

open Document

/-! ## Entering a state -/

theorem showState_panelVisible? (c : Controller) (doc : Document) (id other : String)
    (shown : Bool) :
    (c.showState doc id shown).panelVisible? c.component.id other =
      if other = id then (doc.panelVisible? c.component.id other).map fun _ => shown
      else doc.panelVisible? c.component.id other := by
  simp only [showState, setSelected, setVisible, panelVisible?]
  rw [StringMap.find?_modify, if_neg (tabId_ne_panelId c.component.id id other).symm,
    StringMap.find?_modify]
  simp only [panelId_inj]
  split
  · rw [Option.map_map, Option.map_map]
    rfl
  · rfl

theorem showState_tabSelected? (c : Controller) (doc : Document) (id other : String)
    (shown : Bool) :
    (c.showState doc id shown).tabSelected? c.component.id other =
      if other = id then (doc.find? (tabId c.component.id other)).map fun _ => .bool shown
      else doc.tabSelected? c.component.id other := by
  simp only [showState, setSelected, setVisible, tabSelected?]
  rw [StringMap.find?_modify, StringMap.find?_modify,
    if_neg (tabId_ne_panelId c.component.id other id)]
  simp only [tabId_inj]
  split
  · cases doc.find? (tabId c.component.id other) with
    | none => rfl
    | some tab => rw [Option.map_some, Option.bind_some, Fields.get?_put, if_pos rfl, Option.map_some]
  · rfl

/-- Showing or hiding one state gives its elements that mark and leaves those of the others. -/
theorem showState_shown {c : Controller} {doc : Document} {visible : Bool} {other : String}
    (panel : doc.panelVisible? c.component.id other = some visible)
    (tab : doc.tabSelected? c.component.id other = some (.bool visible)) (id : String)
    (shown : Bool) :
    (c.showState doc id shown).panelVisible? c.component.id other =
        some (if other = id then shown else visible) ∧
      (c.showState doc id shown).tabSelected? c.component.id other =
        some (.bool (if other = id then shown else visible)) := by
  rw [showState_panelVisible?, showState_tabSelected?, panel, tab]
  obtain ⟨element, found, -⟩ := Option.bind_eq_some_iff.mp tab
  rw [found]
  split <;> exact ⟨rfl, rfl⟩

/-- Hiding the state that is shown and showing another one shows that one instead. -/
theorem shows_showState (c : Controller) {doc : Document} {active : Option String}
    (showing : doc.Shows c.component active) (id : String) :
    (c.showState (active.elim doc fun previous => c.showState doc previous false) id true).Shows
      c.component (some id) := by
  intro state declared
  obtain ⟨panel, tab⟩ := showing state declared
  -- Behind the first half no state is shown any more.
  have hidden : (active.elim doc fun previous => c.showState doc previous false).panelVisible?
        c.component.id state.id = some false ∧
      (active.elim doc fun previous => c.showState doc previous false).tabSelected?
        c.component.id state.id = some (.bool false) := by
    cases active with
    | none => exact ⟨panel, tab⟩
    | some previous =>
      have half := showState_shown panel tab previous false
      by_cases same : state.id = previous
      · simpa [same] using half
      · simpa [same, Ne.symm same] using half
  have entered := showState_shown hidden.1 hidden.2 id true
  by_cases same : state.id = id
  · simpa [same] using entered
  · simpa [same, Ne.symm same] using entered

/-- The document behind entering a state. -/
theorem enter_document (c : Controller) (session : Session) (previous : Option String)
    (id : String) :
    (c.enter session previous id).document =
      c.showState (previous.elim session.document fun previous =>
        c.showState session.document previous false) id true := by
  unfold enter
  generalize previous.elim session.document _ = hidden
  obtain ⟨calls, hcalls⟩ := c.callHook_eq
    { session with
      document := c.showState hidden id true
      states := some ⟨some id⟩
      entries := session.entries ++ [⟨session.document, previous, id⟩] }
    (.state id) (switchContext previous id)
  simp only [hcalls, Session.notify]

/-! ## Other acts -/

/-- Rows and results are no panels and no tabs. -/
theorem render_keeps (c : Controller) {source : DataSource}
    (records : c.component.source? = some source) (view : DataView) (doc : Document) :
    Keeps c.component doc (view.render source doc) := by
  obtain ⟨data, -, rfl⟩ := Option.map_eq_some_iff.mp records
  unfold DataView.render
  split
  · exact .foldl (fun doc index =>
      keeps_modify_of_not_ownsView (not_ownsView_rowId c.component index) _ doc) _ doc
  · exact keeps_modify_of_not_ownsView (not_ownsView_resultsId c.component) _ doc

/-- No rule acts on a panel or a tab of the component. -/
def RulesApart (component : Component) : Prop :=
  ∀ rule ∈ component.rules, ∀ action ∈ rule.actions, ¬component.OwnsView action.target

instance (component : Component) : Decidable (RulesApart component) :=
  inferInstanceAs (Decidable (∀ rule ∈ component.rules, ∀ action ∈ rule.actions, ¬_))

/-- The document of a session shows its active state, before a start and without states the initial
one. -/
structure Displayed (c : Controller) (session : Session) : Prop where
  rules : ∀ index, session.rules = some index → index = .ofRules c.component.rules
  unstarted : session.lifecycle = .uninitialized → session.states = none
  shown : session.lifecycle ≠ .destroyed → session.document.Shows c.component
    (session.states.elim (c.component.initialState.map State.id) StatesView.active)

/-- What is shown stays while the panels, the tabs and the active state stay. -/
theorem Displayed.still {c : Controller} {before after : Session} (displayed : c.Displayed before)
    (lifecycle : after.lifecycle = before.lifecycle) (rules : after.rules = before.rules)
    (states : after.states = before.states)
    (keeps : Keeps c.component before.document after.document) : c.Displayed after where
  rules := by rw [rules]; exact displayed.rules
  unstarted := by rw [lifecycle, states]; exact displayed.unstarted
  shown := by
    intro alive
    rw [lifecycle] at alive
    rw [states]
    exact (displayed.shown alive).keep keeps

theorem Displayed.act {c : Controller} {before after : Session} (apart : RulesApart c.component)
    (displayed : c.Displayed before) (act : Act c before after) : c.Displayed after := by
  cases act with
  | call call => exact displayed.still rfl rfl rfl (.refl _ _)
  | report name detail work => exact displayed.still rfl rfl rfl (.refl _ _)
  | @enter view id states inactive available =>
    have document := c.enter_document before view.active id
    obtain ⟨unused, calls, entered⟩ := c.enter_eq before view.active id
    rw [entered] at document ⊢
    refine ⟨displayed.rules, ?_, ?_⟩
    · intro unstarted
      cases (displayed.unstarted unstarted).symm.trans states
    · intro alive
      have shown := displayed.shown alive
      rw [states] at shown
      rw [document]
      exact c.shows_showState shown id
  | filter filters data records =>
    exact displayed.still rfl rfl rfl (c.render_keeps records _ _)
  | turn page data records => exact displayed.still rfl rfl rfl (c.render_keeps records _ _)
  | @effect index trigger value action rules planned =>
    rw [displayed.rules index rules] at planned
    obtain ⟨rule, listed, source, acts, target⟩ := RuleIndex.exists_action_of_mem_plan planned
    refine displayed.still rfl rfl rfl (keeps_modify_of_not_ownsView ?_ _ _)
    rw [target]
    exact apart rule listed source acts
  | input element value =>
    refine displayed.still rfl rfl rfl ((keeps_ensure element _).trans ?_)
    refine keeps_modify ?_ element _
    exact fun _ => ⟨rfl, rfl⟩

theorem Displayed.acts {c : Controller} {before after : Session} (apart : RulesApart c.component)
    (displayed : c.Displayed before) (acts : Acts c before after) : c.Displayed after := by
  induction acts with
  | refl => exact displayed
  | tail _ act ih => exact ih.act apart act

/-- A session that was not started has shown the initial state so far. -/
theorem Displayed.equip {c : Controller} {before after : Session} (displayed : c.Displayed before)
    (unstarted : before.lifecycle = .uninitialized) (document : after.document = before.document)
    (started : after.lifecycle ≠ .uninitialized) : c.Displayed (c.equip after) where
  rules := c.equip_ownRules after
  unstarted := fun h => absurd h started
  shown := by
    intro _
    have shown := displayed.shown (by simp [unstarted])
    rw [displayed.unstarted unstarted, Option.elim_none, ← document] at shown
    cases uses : c.component.pattern.usesStates with
    | true => simpa [Controller.equip, uses] using shown
    | false => simpa [Controller.equip, uses] using shown

theorem Displayed.launched {c : Controller} {before after : Session}
    (apart : RulesApart c.component) (displayed : c.Displayed before)
    (unstarted : before.lifecycle = .uninitialized) (launched : Launched c before after) :
    c.Displayed after := by
  have none := displayed.unstarted unstarted
  have shown := displayed.shown (by simp [unstarted])
  cases launched with
  | containerMissing absent => exact ⟨displayed.rules, fun _ => none, fun _ => shown⟩
  | unloaded requests error => exact ⟨displayed.rules, fun _ => none, fun _ => shown⟩
  | cancelled requests calls => exact ⟨displayed.rules, fun _ => none, fun _ => shown⟩
  | @ready requests later calls done worked acts =>
    have equipped : c.Displayed (c.equip
        { before with requests := requests, calls := calls, lifecycle := .initializing }) :=
      displayed.equip unstarted rfl (by simp)
    have worked := equipped.acts apart acts
    refine ⟨worked.rules, by simp, fun _ => worked.shown ?_⟩
    rw [acts.kept.lifecycle]
    simp [Controller.equip]

theorem Displayed.perform {c : Controller} {session : Session} (apart : RulesApart c.component)
    (displayed : c.Displayed session) (operation : Operation) :
    c.Displayed (c.perform session operation) := by
  have performed := c.performed session operation
  generalize c.perform session operation = after at performed ⊢
  cases performed with
  | work acts => exact displayed.acts apart acts
  | init unstarted launched => exact displayed.launched apart unstarted launched
  | register accepted => exact displayed.still rfl rfl rfl (.refl _ _)
  | destroy calls alive => exact ⟨by simp, by simp, by simp⟩

theorem run_displayed {c : Controller} (apart : RulesApart c.component)
    (operations : List Operation) :
    c.Displayed (c.run (.start c.component (.scaffold c.component)) operations) := by
  refine run_invariant (fun _ operation displayed => displayed.perform apart operation) ?_ operations
  exact ⟨by simp [Session.start], fun _ => rfl, fun _ => scaffold_shows c.component⟩

/-! ## The active state -/

theorem Path.active_declared {c : Controller} {entries : List Entry} {active : Option String}
    (path : c.Path entries active) {id : String} (reached : active = some id) :
    ∃ state ∈ c.component.states, state.id = id := by
  cases path with
  | start =>
    obtain ⟨state, initial, rfl⟩ := Option.map_eq_some_iff.mp reached
    refine ⟨state, ?_, rfl⟩
    unfold Component.initialState State.initial? at initial
    rcases Option.or_eq_some_iff.mp initial with h | ⟨-, h⟩
    · exact List.mem_of_find?_eq_some h
    · exact List.mem_of_mem_head? h
  | enter path moves available =>
    obtain ⟨state, found, -⟩ := available_iff.mp available
    obtain ⟨declared, same⟩ := mem_states_of_state? found
    exact ⟨state, declared, same.trans (Option.some.inj reached)⟩

theorem Path.active_isSome {c : Controller} {entries : List Entry} {active : Option String}
    (path : c.Path entries active) {state : State} (declared : state ∈ c.component.states) :
    active.isSome = true := by
  cases path with
  | start =>
    obtain ⟨initial, hinitial⟩ := exists_initialState declared
    rw [hinitial]
    rfl
  | enter path moves available => rfl

end Controller

/-! ## Declared states -/

theorem Component.nodup_stateIds (component : Component) : (component.states.map State.id).Nodup :=
  component.valid.states.distinct

/-- No two states of a component have one id. -/
theorem Component.state_eq_of_id_eq {component : Component} {state other : State}
    (declared : state ∈ component.states) (hother : other ∈ component.states)
    (same : state.id = other.id) : state = other :=
  List.inj_on_of_nodup_map component.nodup_stateIds declared hother same

namespace Controller

/-! ## Runs -/

/-- While a session on the scaffold is ready, a state's panel is visible and its tab is selected
exactly when the state is active, provided that no rule acts on a panel or a tab. A component with
states shows exactly one panel then and has exactly one tab selected. -/
theorem run_shows_active (c : Controller) (apart : RulesApart c.component)
    (uses : c.component.pattern.usesStates = true) (operations : List Operation) :
    let session := c.run (.start c.component (.scaffold c.component)) operations
    session.lifecycle = .ready →
      (∀ state ∈ c.component.states,
        session.document.panelVisible? c.component.id state.id =
            some (decide (session.activeState = some state.id)) ∧
          session.document.tabSelected? c.component.id state.id =
            some (.bool (decide (session.activeState = some state.id)))) ∧
      (c.component.states ≠ [] →
        (∃! state, state ∈ c.component.states ∧
          session.document.panelVisible? c.component.id state.id = some true) ∧
        ∃! state, state ∈ c.component.states ∧
          session.document.tabSelected? c.component.id state.id = some (.bool true)) := by
  intro session ready
  have displayed : c.Displayed session := run_displayed apart operations
  obtain ⟨-, ⟨active, path, agrees⟩, -⟩ := c.run_tracked (.scaffold c.component) operations
  have sound := c.run_sound (.scaffold c.component) operations
  obtain ⟨view, states⟩ := Option.isSome_iff_exists.mp (sound.states.mpr ⟨ready, uses⟩)
  have shown := displayed.shown (by simp [ready])
  have reached : session.activeState = active := by
    rw [Session.activeState, states]
    exact agrees view states
  rw [states, Option.elim_some, agrees view states, ← reached] at shown
  refine ⟨shown, ?_⟩
  intro nonempty
  obtain ⟨first, declared⟩ := List.exists_mem_of_ne_nil _ nonempty
  obtain ⟨id, hid⟩ := Option.isSome_iff_exists.mp (path.active_isSome declared)
  obtain ⟨state, hstate, rfl⟩ := path.active_declared hid
  rw [reached, hid] at shown
  refine ⟨⟨state, ⟨hstate, by simpa using (shown state hstate).1⟩, ?_⟩,
    ⟨state, ⟨hstate, by simpa using (shown state hstate).2⟩, ?_⟩⟩
  · rintro other ⟨hother, visible⟩
    rw [(shown other hother).1] at visible
    exact Component.state_eq_of_id_eq hother hstate (by simpa [eq_comm] using visible)
  · rintro other ⟨hother, selected⟩
    rw [(shown other hother).2] at selected
    exact Component.state_eq_of_id_eq hother hstate (by simpa [eq_comm] using selected)

/-- Two states, the second of which is shown while a box is checked. -/
def archiveTabs : Controller where
  component :=
    { id := "tabs"
      inputs := ⟨some [.ofId "list" "List", .ofId "archive" "Archive"], none,
        some [.showWhen "box" .checked .null "archive"]⟩
      options := .standard
      accepted := by decide +kernel }
  hooks := .none
  loader := .preloaded
  stateFilters := .empty

/-- The start of `archiveTabs`, and the box is checked. -/
def archiveTabsRun : Session :=
  archiveTabs.run (.start archiveTabs.component (.scaffold archiveTabs.component))
    [.init, .setValue "box" (.bool true)]

/-- The rule enters the second state, and the panel of the first one is hidden. -/
theorem run_shows_active_archive :
    RulesApart archiveTabs.component ∧ archiveTabs.component.pattern.usesStates = true ∧
      archiveTabsRun.lifecycle = .ready ∧ archiveTabsRun.activeState = some "archive" ∧
      archiveTabsRun.document.panelVisible? "tabs" "list" = some false ∧
      ∃! state, state ∈ archiveTabs.component.states ∧
        archiveTabsRun.document.tabSelected? "tabs" state.id = some (.bool true) := by
  have apart : RulesApart archiveTabs.component := by decide +kernel
  have uses : archiveTabs.component.pattern.usesStates = true := by decide +kernel
  have ready : archiveTabsRun.lifecycle = .ready := by decide +kernel
  have active : archiveTabsRun.activeState = some "archive" := by decide +kernel
  obtain ⟨shown, exactly⟩ := archiveTabs.run_shows_active apart uses
    [.init, .setValue "box" (.bool true)] ready
  refine ⟨apart, uses, ready, active, ?_, (exactly (by decide +kernel)).2⟩
  have first := (shown (.ofId "list" "List") List.mem_cons_self).1
  rw [show (archiveTabs.run _ _).activeState = some "archive" from active] at first
  exact first

end Controller

end LiveMarkup

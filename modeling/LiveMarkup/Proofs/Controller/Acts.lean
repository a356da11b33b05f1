import LiveMarkup.Controller.Basic
import Mathlib.Logic.Relation
import Mathlib.Tactic.ByContra

/-!
# What a controller does, act by act

Switching states, filtering, turning pages and evaluating rules call one another: an action of a
rule may enter a state, a state repeats its filters, and filters without results may enter another
state. Whatever the nesting, a session changes by a few kinds of acts, one after another. `Act` lists
the kinds, theorems such as `switchTo_acts` and `setValue_acts` show that an operation is a sequence
of them, and `Acts.kept` says what no such sequence changes. A property of every operation is then
proved once for each kind of act.
-/

set_option autoImplicit false

namespace LiveMarkup

namespace Controller

/-! ## Acts -/

/-- The reports that acts make besides that of an entered state. -/
def workReports : List String := ["filter", "page-change", "rules-applied"]

/-- One change of a session: a hook is called, something is reported, an available state is entered,
the records are filtered anew or another page of them is shown, an action of a rule changes its
target, or an element receives a value. -/
inductive Act (c : Controller) (session : Session) : Session → Prop where
  | call (call : HookCall) : Act c session { session with calls := session.calls ++ [call] }
  | report (name : String) (detail : Fields) (work : name ∈ workReports) :
      Act c session (session.notify name detail)
  | enter {view : StatesView} {id : String} (states : session.states = some view)
      (inactive : view.active ≠ some id) (available : c.available session.document id = true) :
      Act c session (c.enter session view.active id)
  | filter {source : DataSource} (filters : FilterSet) (data : session.data.isSome = true)
      (records : c.component.source? = some source) :
      Act c session (applyFilters source filters session).1
  | turn {view : DataView} {source : DataSource} (page : Nat) (data : session.data = some view)
      (records : c.component.source? = some source) :
      Act c session
        { session with
          data := some (view.turnTo source page)
          document := (view.turnTo source page).render source session.document }
  | effect {index : RuleIndex} {trigger : String} {value : Json} {action : PlannedAction}
      (rules : session.rules = some index) (planned : action ∈ index.plan trigger value) :
      Act c session
        { session with
          document :=
            session.document.modify action.target (applyEffect action.effect action.value) }
  | input (element : String) (value : Json) :
      Act c session
        { session with
          document := session.document.put element fun e => { e with value := value } }

/-- A sequence of acts. -/
abbrev Acts (c : Controller) : Session → Session → Prop := Relation.ReflTransGen (Act c)

/-- A hook call leaves a trace in the calls and nowhere else. -/
theorem callHook_eq (c : Controller) (session : Session) (point : HookPoint) (context : Fields) :
    ∃ calls, (c.callHook session point context).1 = { session with calls := calls } := by
  unfold callHook
  split
  · exact ⟨_, rfl⟩
  · exact ⟨session.calls, rfl⟩

/-- Everything that entering a state changes. -/
theorem enter_eq (c : Controller) (session : Session) (previous : Option String) (id : String) :
    ∃ document calls, c.enter session previous id =
      { session with
        document := document
        states := some ⟨some id⟩
        entries := session.entries ++ [⟨session.document, previous, id⟩]
        calls := calls
        notifications :=
          session.notifications ++ [⟨"state-change", .object (switchContext previous id)⟩] } := by
  unfold enter
  generalize previous.elim session.document _ = hidden
  obtain ⟨calls, hcalls⟩ := c.callHook_eq
    { session with
      document := c.showState hidden id true
      states := some ⟨some id⟩
      entries := session.entries ++ [⟨session.document, previous, id⟩] }
    (.state id) (switchContext previous id)
  refine ⟨c.showState hidden id true, calls, ?_⟩
  simp only [hcalls, Session.notify]

/-! ## What acts keep -/

/-- What stays as it is while a session runs: its phase, its registry, its rules, the scripts asked
for, and which views it has. -/
structure Kept (before after : Session) : Prop where
  lifecycle : after.lifecycle = before.lifecycle
  registry : after.registry = before.registry
  rules : after.rules = before.rules
  requests : after.requests = before.requests
  tornDown : after.tornDown = before.tornDown
  states : after.states.isSome = before.states.isSome
  data : after.data.isSome = before.data.isSome

theorem Kept.refl (session : Session) : Kept session session :=
  ⟨rfl, rfl, rfl, rfl, rfl, rfl, rfl⟩

theorem Kept.trans {first second third : Session} (h : Kept first second) (k : Kept second third) :
    Kept first third where
  lifecycle := k.lifecycle.trans h.lifecycle
  registry := k.registry.trans h.registry
  rules := k.rules.trans h.rules
  requests := k.requests.trans h.requests
  tornDown := k.tornDown.trans h.tornDown
  states := k.states.trans h.states
  data := k.data.trans h.data

theorem Act.kept {c : Controller} {before after : Session} (act : Act c before after) :
    Kept before after := by
  cases act with
  | call call => exact ⟨rfl, rfl, rfl, rfl, rfl, rfl, rfl⟩
  | report name detail work => exact ⟨rfl, rfl, rfl, rfl, rfl, rfl, rfl⟩
  | @enter view id states inactive available =>
    obtain ⟨document, calls, entered⟩ := c.enter_eq before view.active id
    rw [entered]
    exact ⟨rfl, rfl, rfl, rfl, rfl, by simp [states], rfl⟩
  | filter filters data records => exact ⟨rfl, rfl, rfl, rfl, rfl, rfl, data.symm⟩
  | turn page data records => exact ⟨rfl, rfl, rfl, rfl, rfl, rfl, by simp [data]⟩
  | effect rules planned => exact ⟨rfl, rfl, rfl, rfl, rfl, rfl, rfl⟩
  | input element value => exact ⟨rfl, rfl, rfl, rfl, rfl, rfl, rfl⟩

theorem Acts.kept {c : Controller} {before after : Session} (acts : Acts c before after) :
    Kept before after := by
  induction acts with
  | refl => exact .refl before
  | tail _ act ih => exact ih.trans act.kept

/-- Acts add reports of their work and of the states entered, and no others. -/
theorem Act.notifications {c : Controller} {before after : Session} (act : Act c before after) :
    ∃ reports, after.notifications = before.notifications ++ reports ∧
      ∀ report ∈ reports, report.name ∈ "state-change" :: workReports := by
  cases act with
  | report name detail work =>
    refine ⟨[_], rfl, ?_⟩
    intro report member
    rw [List.mem_singleton.mp member]
    exact List.mem_cons_of_mem _ work
  | @enter view id states inactive available =>
    obtain ⟨document, calls, entered⟩ := c.enter_eq before view.active id
    rw [entered]
    refine ⟨[_], rfl, ?_⟩
    intro report member
    rw [List.mem_singleton.mp member]
    exact List.mem_cons_self
  | call call => exact ⟨[], (List.append_nil _).symm, by simp⟩
  | filter filters data records => exact ⟨[], (List.append_nil _).symm, by simp⟩
  | turn page data records => exact ⟨[], (List.append_nil _).symm, by simp⟩
  | effect rules planned => exact ⟨[], (List.append_nil _).symm, by simp⟩
  | input element value => exact ⟨[], (List.append_nil _).symm, by simp⟩

theorem Acts.notifications {c : Controller} {before after : Session} (acts : Acts c before after) :
    ∃ reports, after.notifications = before.notifications ++ reports ∧
      ∀ report ∈ reports, report.name ∈ "state-change" :: workReports := by
  induction acts with
  | refl => exact ⟨[], (List.append_nil _).symm, by simp⟩
  | tail _ act ih =>
    obtain ⟨earlier, heq, hearlier⟩ := ih
    obtain ⟨later, leq, hlater⟩ := act.notifications
    refine ⟨earlier ++ later, ?_, ?_⟩
    · rw [leq, heq, List.append_assoc]
    · intro report member
      rcases List.mem_append.mp member with member | member
      · exact hearlier report member
      · exact hlater report member

/-! ## Operations as sequences of acts -/

theorem callHook_acts (c : Controller) (session : Session) (point : HookPoint) (context : Fields) :
    Acts c session (c.callHook session point context).1 := by
  unfold callHook
  split
  · exact .single (.call ⟨point, .object context⟩)
  · exact .refl

theorem afterFilter_acts (c : Controller) {onEmpty : Session → Session}
    (honEmpty : ∀ session, Acts c session (onEmpty session)) (session : Session)
    (field value : Json) (visible : Nat) :
    Acts c session (c.afterFilter onEmpty session field value visible) := by
  simp only [afterFilter]
  generalize Option.getD _ 0 = total
  -- `onEmpty` stands for either layer of switching; only that it is a sequence of acts matters.
  have reported : Acts c session
      (session.notify "filter" [("visible", Json.ofNat visible), ("total", Json.ofNat total)]) :=
    .single (.report "filter" _ (by decide))
  split
  · exact (reported.trans (c.callHook_acts _ .afterFilter _)).trans (honEmpty _)
  · exact reported.trans (c.callHook_acts _ .afterFilter _)

theorem applyStateFilters_acts (c : Controller) {onEmpty : Session → Session}
    (honEmpty : ∀ session, Acts c session (onEmpty session)) (session : Session) (id : String) :
    Acts c session (c.applyStateFilters onEmpty session id) := by
  unfold applyStateFilters
  split
  · rename_i updates view source hupdates data records
    refine .head (.filter (DataView.inputs view.filters updates) (by simp [data]) records) ?_
    exact c.afterFilter_acts honEmpty _ _ _ _
  · exact .refl

theorem switchWith_acts (c : Controller) {onEmpty : Session → Session}
    (honEmpty : ∀ session, Acts c session (onEmpty session)) (session : Session) (id : String) :
    Acts c session (c.switchWith onEmpty session id).1 := by
  unfold switchWith
  split
  · exact .refl
  · rename_i view states
    split
    · exact .refl
    · split
      · exact .refl
      · rename_i enterable
        have inactive : view.active ≠ some id := fun h => enterable (.inl h)
        have available : c.available session.document id = true := by
          by_contra h
          exact enterable (.inr (by simpa using h))
        -- The hook may only have added its call, so the state is still there to be entered.
        obtain ⟨calls, hcalls⟩ := c.callHook_eq session .beforeStateChange
          (switchContext view.active id)
        have called := c.callHook_acts session .beforeStateChange (switchContext view.active id)
        simp only [hcalls] at called ⊢
        split
        · exact called
        · refine called.trans (.head (.enter states inactive available) ?_)
          refine .trans (c.applyStateFilters_acts honEmpty _ id) ?_
          exact c.callHook_acts _ .afterStateChange _

theorem enterNoResults_acts (c : Controller) (session : Session) :
    Acts c session (c.enterNoResults session) :=
  c.switchWith_acts (fun _ => .refl) session State.noResults

theorem switchTo_acts (c : Controller) (session : Session) (id : String) :
    Acts c session (c.switchTo session id).1 :=
  c.switchWith_acts c.enterNoResults_acts session id

theorem filterWith_acts (c : Controller) (session : Session) (change : FilterSet → FilterSet)
    (field value : Json) : Acts c session (c.filterWith session change field value).1 := by
  unfold filterWith
  split
  · rename_i view source ready data records
    refine .head (.filter (change view.filters) (by simp [data]) records) ?_
    exact c.afterFilter_acts c.enterNoResults_acts _ _ _ _
  · exact .refl

theorem setPage_acts (c : Controller) (session : Session) (page : Nat) :
    Acts c session (c.setPage session page) := by
  unfold setPage
  split
  · rename_i view source data records
    exact .head (.turn page data records) (.single (.report "page-change" _ (by decide)))
  · exact .refl

theorem execute_acts (c : Controller) (session : Session) {index : RuleIndex} {trigger : String}
    {value : Json} {action : PlannedAction} (rules : session.rules = some index)
    (planned : action ∈ index.plan trigger value) :
    Acts c session (c.execute session action) := by
  simp only [execute]
  split
  · exact c.switchTo_acts session action.target
  · split
    · split
      · rename_i initial hinitial
        split
        · exact c.switchTo_acts session initial.id
        · exact .refl
      · exact .refl
    · exact .single (.effect rules planned)

/-- Doing any part of a plan is a sequence of acts: the rules that made the plan stay. -/
theorem foldl_execute_acts (c : Controller) {index : RuleIndex} {trigger : String} {value : Json}
    {actions : List PlannedAction} (planned : ∀ action ∈ actions, action ∈ index.plan trigger value)
    {session : Session} (rules : session.rules = some index) :
    Acts c session (actions.foldl c.execute session) := by
  induction actions generalizing session with
  | nil => exact .refl
  | cons action rest ih =>
    -- The rules are kept by the first action, so the rest is still planned by them.
    have first := c.execute_acts session rules (planned action List.mem_cons_self)
    refine first.trans (ih (fun a ha => planned a (List.mem_cons_of_mem _ ha)) ?_)
    rw [first.kept.rules, rules]

theorem evaluateTrigger_acts (c : Controller) (session : Session) (element : String) :
    Acts c session (c.evaluateTrigger session element) := by
  unfold evaluateTrigger
  split
  · exact .refl
  · rename_i index rules
    simp only
    split
    · exact .refl
    · have planned : ∀ action ∈ index.plan element (session.document.value element),
          action ∈ index.plan element (session.document.value element) := fun _ member => member
      exact (c.foldl_execute_acts planned rules).tail (.report "rules-applied" _ (by decide))

theorem foldl_evaluateTrigger_acts (c : Controller) (elements : List String) (session : Session) :
    Acts c session (elements.foldl c.evaluateTrigger session) := by
  induction elements generalizing session with
  | nil => exact .refl
  | cons element rest ih => exact (c.evaluateTrigger_acts session element).trans (ih _)

theorem setValue_acts (c : Controller) (session : Session) (element : String) (value : Json) :
    Acts c session (c.setValue session element value) := by
  simp only [setValue]
  refine .head (.input element value) ?_
  split
  · exact c.evaluateTrigger_acts _ element
  · exact .refl

end Controller

end LiveMarkup

import LiveMarkup.Proofs.Controller.Acts
import LiveMarkup.Proofs.Lists
import Mathlib.Data.List.Induction

/-!
# Runs of a controller

A controller is used through eight operations, in any order and any number of times. `Operation` is
one of them with its inputs, `perform` does it and `run` does a list of them; `Answer` is what its
user is told, and `answers` what he is told by a list of them. Most operations are sequences of acts; `Launched` says what a start can come to besides, and `Performed` what any
operation can do (`performed`). After the end of a session only its document changes
(`perform_of_closed`).
-/

set_option autoImplicit false

namespace LiveMarkup

/-- Something a user of a controller does. -/
inductive Operation where
  | init
  | switchTo (id : String)
  | updateFilter (field : String) (raw : Json)
  | clearFilters
  | setPage (page : Nat)
  | setValue (element : String) (value : Json)
  | register (name : String) (object : ExternalObject)
  | destroy

/-- What the user of a controller is told by an operation. -/
inductive Answer where
  | phase (lifecycle : Lifecycle)
  | entered (outcome : SwitchOutcome)
  | matching (count : Option Nat)
  | registered (result : Except RegistryError Unit)
  | tornDown (count : Nat)
  | nothing

namespace Session

/-- The reports of a name. -/
def reports (session : Session) (name : String) : List Notification :=
  session.notifications.filter fun report => report.name == name

/-- A session after its end: it has neither views nor places for objects. -/
structure Closed (session : Session) : Prop where
  lifecycle : session.lifecycle = .destroyed
  registry : session.registry = .closed
  states : session.states = none
  data : session.data = none
  rules : session.rules = none

theorem Closed.with_document {session : Session} (closed : session.Closed) (document : Document) :
    { session with document := document }.Closed :=
  ⟨closed.lifecycle, closed.registry, closed.states, closed.data, closed.rules⟩

/-- Reports under other names do not count. -/
theorem reports_append {before after : Session} {added : List Notification} {name : String}
    (appended : after.notifications = before.notifications ++ added)
    (others : ∀ report ∈ added, report.name ≠ name) : after.reports name = before.reports name := by
  have none : added.filter (fun report => report.name == name) = [] := by
    rw [List.filter_eq_nil_iff]
    intro report member
    simpa using others report member
  rw [reports, appended, List.filter_append, none, List.append_nil, reports]

theorem reports_concat {before after : Session} {report : Notification}
    (appended : after.notifications = before.notifications ++ [report]) :
    after.reports report.name = before.reports report.name ++ [report] := by
  rw [reports, appended, List.filter_append, List.filter_cons_of_pos (by simp), List.filter_nil,
    reports]

end Session

namespace Controller

/-- Does an operation. -/
def perform (c : Controller) (session : Session) : Operation → Session
  | .init => c.init session
  | .switchTo id => (c.switchTo session id).1
  | .updateFilter field raw => (c.updateFilter session field raw).1
  | .clearFilters => (c.clearFilters session).1
  | .setPage page => c.setPage session page
  | .setValue element value => c.setValue session element value
  | .register name object => (register session name object).1
  | .destroy => (c.destroy session).1

/-- Does operations one after another. -/
def run (c : Controller) (session : Session) (operations : List Operation) : Session :=
  operations.foldl c.perform session

/-- What an operation answers. -/
def answer (c : Controller) (session : Session) : Operation → Answer
  | .init => .phase (c.init session).lifecycle
  | .switchTo id => .entered (c.switchTo session id).2
  | .updateFilter field raw => .matching (c.updateFilter session field raw).2
  | .clearFilters => .matching (c.clearFilters session).2
  | .setPage _ => .nothing
  | .setValue _ _ => .nothing
  | .register name object => .registered (register session name object).2
  | .destroy => .tornDown (c.destroy session).2

/-- What operations answer one after another. -/
def answers (c : Controller) (session : Session) : List Operation → List Answer
  | [] => []
  | operation :: rest =>
    c.answer session operation :: c.answers (c.perform session operation) rest

theorem run_snoc (c : Controller) (session : Session) (operations : List Operation)
    (operation : Operation) :
    c.run session (operations ++ [operation]) =
      c.perform (c.run session operations) operation := by
  simp only [run, List.foldl_append, List.foldl_cons, List.foldl_nil]

/-- What holds at first and is kept by every operation holds after every run. -/
theorem run_invariant {c : Controller} {holds : Session → Prop}
    (keeps : ∀ session operation, holds session → holds (c.perform session operation))
    {session : Session} (first : holds session) (operations : List Operation) :
    holds (c.run session operations) := by
  induction operations using List.reverseRecOn with
  | nil => exact first
  | append_singleton earlier operation ih =>
    rw [run_snoc]
    exact keeps _ operation ih

/-! ## Start -/

theorem foldl_loadNext_eq (c : Controller) (scripts : List ExternalScript)
    (asked : Session × Option LoadError) :
    (scripts.foldl c.loadNext asked).1 =
      { asked.1 with requests := asked.1.requests ++ scripts } := by
  induction scripts generalizing asked with
  | nil => simp
  | cons script rest ih =>
    rw [List.foldl_cons, ih]
    simp [loadNext, load]

/-- Every script is asked for, whatever became of those before it. -/
theorem loadAll_eq (c : Controller) (session : Session) (scripts : List ExternalScript) :
    (c.loadAll session scripts).1 =
      { session with requests := session.requests ++ scripts } :=
  c.foldl_loadNext_eq scripts (session, none)

/-- The acts of setting up follow on equipping the session. -/
theorem setUp_acts (c : Controller) (session : Session) :
    Acts c (c.equip session) (c.setUp session) :=
  c.foldl_evaluateTrigger_acts _ (c.equip session)

/-- What the start of a session that was not started before can come to: its container is missing, a
required script does not load, the first hook cancels the start, or it is ready. -/
inductive Launched (c : Controller) (session : Session) : Session → Prop where
  | containerMissing (absent : session.document.contains c.component.id = false) :
      Launched c session
        { session with lifecycle := .failed (.containerMissing c.component.id) }
  | unloaded (requests : List ExternalScript) (error : LoadError) :
      Launched c session
        ({ session with requests := requests, lifecycle := .failed (.script error) }.notify "error"
          [("error", .string error.message)])
  | cancelled (requests : List ExternalScript) (calls : List HookCall) :
      Launched c session
        { session with requests := requests, calls := calls, lifecycle := .uninitialized }
  | ready {requests later : List ExternalScript} {calls done : List HookCall} {worked : Session}
      (acts : Acts c
        (c.equip
          { session with requests := requests, calls := calls, lifecycle := .initializing })
        worked) :
      Launched c session
        { worked with
          lifecycle := .ready
          calls := done
          notifications := worked.notifications ++
            [⟨"ready", .object [("pattern", .string c.component.pattern.name)]⟩]
          requests := later }

theorem init_of_ne (c : Controller) {session : Session}
    (started : session.lifecycle ≠ .uninitialized) : c.init session = session := by
  unfold init
  rw [if_pos started]

/-- Behind its scripts a session is equipped and works before it is ready, or it is cancelled. -/
theorem launch_launched (c : Controller) {session : Session} {requests : List ExternalScript}
    {lifecycle : Lifecycle} :
    Launched c session
      (c.launch { session with requests := requests, lifecycle := lifecycle }) := by
  simp only [launch]
  obtain ⟨calls, hcalls⟩ := c.callHook_eq
    { session with requests := requests, lifecycle := .initializing } .beforeInit []
  rw [hcalls]
  split
  · exact .cancelled requests calls
  -- Between the equipment and the report there are only acts; what follows changes the logs.
  · have acts := c.setUp_acts
      { session with requests := requests, calls := calls, lifecycle := .initializing }
    generalize c.setUp _ = worked at acts ⊢
    obtain ⟨done, hdone⟩ := c.callHook_eq { worked with lifecycle := .ready } .afterInit []
    rw [hdone, loadAll_eq]
    exact .ready acts

theorem init_launched (c : Controller) {session : Session}
    (unstarted : session.lifecycle = .uninitialized) : Launched c session (c.init session) := by
  unfold init
  rw [if_neg (by simp [unstarted])]
  split
  · rename_i absent
    exact .containerMissing (by simpa using absent)
  · simp only
    -- Loading leaves everything but the requests alone, so its outcome alone decides what follows.
    have loaded := c.loadAll_eq { session with lifecycle := .loadingExternals }
      (c.component.options.externalScripts.filter ExternalScript.required)
    split
    · rename_i error heq
      rw [heq] at loaded
      simp only at loaded
      subst loaded
      exact .unloaded _ error
    · rename_i heq
      rw [heq] at loaded
      simp only at loaded
      subst loaded
      exact c.launch_launched

/-- Behind its scripts a session is set up and ready, or the first hook cancels that. -/
theorem launch_cases (c : Controller) (session : Session) :
    (∃ calls, c.launch session = { session with calls := calls, lifecycle := .uninitialized }) ∨
      ∃ calls done notifications later, c.launch session =
        { c.setUp { session with calls := calls, lifecycle := .initializing } with
          lifecycle := .ready
          calls := done
          notifications := notifications
          requests := later } := by
  simp only [launch, loadAll_eq]
  obtain ⟨calls, hcalls⟩ := c.callHook_eq { session with lifecycle := .initializing } .beforeInit []
  rw [hcalls]
  split
  · exact .inl ⟨calls, rfl⟩
  · obtain ⟨done, hdone⟩ := c.callHook_eq
      { c.setUp { session with calls := calls, lifecycle := .initializing } with
        lifecycle := .ready } .afterInit []
    rw [hdone]
    exact .inr ⟨calls, done, _, _, rfl⟩

/-- A start that does not make the session ready changes its phase and its logs alone, and one that
does sets the session up in between. -/
theorem init_cases (c : Controller) {session : Session}
    (unstarted : session.lifecycle = .uninitialized) :
    (∃ lifecycle requests calls notifications, lifecycle ≠ .ready ∧ c.init session =
      { session with
        lifecycle := lifecycle
        requests := requests
        calls := calls
        notifications := notifications }) ∨
      ∃ requests later calls done notifications, c.init session =
        { c.setUp
            { session with requests := requests, calls := calls, lifecycle := .initializing } with
          lifecycle := .ready
          calls := done
          notifications := notifications
          requests := later } := by
  unfold init
  rw [if_neg (by simp [unstarted])]
  split
  · exact .inl ⟨_, _, _, _, by simp, rfl⟩
  · simp only
    have loaded := c.loadAll_eq { session with lifecycle := .loadingExternals }
      (c.component.options.externalScripts.filter ExternalScript.required)
    split
    · rename_i error heq
      rw [heq] at loaded
      simp only at loaded
      subst loaded
      exact .inl ⟨_, _, _, _, by simp, rfl⟩
    · rename_i heq
      rw [heq] at loaded
      simp only at loaded
      subst loaded
      rcases c.launch_cases
          { session with lifecycle := .loadingExternals, requests := _ } with
        ⟨calls, cancelled⟩ | ⟨calls, done, notifications, later, ready⟩
      · exact .inl ⟨.uninitialized, _, calls, _, by simp, cancelled⟩
      · exact .inr ⟨_, later, calls, done, notifications, ready⟩

/-! ## Any operation -/

/-- What an operation can do to a session. -/
inductive Performed (c : Controller) (session : Session) : Operation → Session → Prop where
  | work {operation : Operation} {after : Session} (acts : Acts c session after) :
      Performed c session operation after
  | init {after : Session} (unstarted : session.lifecycle = .uninitialized)
      (launched : Launched c session after) : Performed c session .init after
  | register {name : String} {object : ExternalObject} {registry : Registry}
      (accepted : session.registry.register name object = .ok registry) :
      Performed c session (.register name object)
        ({ session with registry := registry }.notify "external-registered"
          [("name", .string name)])
  | destroy (calls : List HookCall) (alive : session.lifecycle ≠ .destroyed) :
      Performed c session .destroy
        { session with
          lifecycle := .destroyed
          registry := .closed
          tornDown := session.tornDown ++ session.registry.destroyable
          states := none
          data := none
          rules := none
          notifications := session.notifications ++
            [⟨"destroy", .object [("externals", Json.ofNat session.registry.destroyable.length)]⟩]
          calls := calls }

theorem init_performed (c : Controller) (session : Session) :
    Performed c session .init (c.init session) := by
  by_cases unstarted : session.lifecycle = .uninitialized
  · exact .init unstarted (c.init_launched unstarted)
  · rw [c.init_of_ne unstarted]
    exact .work .refl

theorem register_performed (c : Controller) (session : Session) (name : String)
    (object : ExternalObject) :
    Performed c session (.register name object) (register session name object).1 := by
  unfold register
  split
  · rename_i registry accepted
    exact .register accepted
  · exact .work .refl

theorem destroy_performed (c : Controller) (session : Session) :
    Performed c session .destroy (c.destroy session).1 := by
  unfold destroy
  split
  · exact .work .refl
  · rename_i alive
    simp only
    generalize hended : Session.notify _ _ _ = ended
    obtain ⟨calls, hcalls⟩ := c.callHook_eq ended .destroy []
    rw [hcalls, ← hended]
    exact .destroy calls alive

theorem performed (c : Controller) (session : Session) (operation : Operation) :
    Performed c session operation (c.perform session operation) := by
  cases operation with
  | init => exact c.init_performed session
  | switchTo id => exact .work (c.switchTo_acts session id)
  | updateFilter field raw => exact .work (c.filterWith_acts session _ _ _)
  | clearFilters => exact .work (c.filterWith_acts session _ _ _)
  | setPage page => exact .work (c.setPage_acts session page)
  | setValue element value => exact .work (c.setValue_acts session element value)
  | register name object => exact c.register_performed session name object
  | destroy => exact c.destroy_performed session

/-! ## Rules -/

/-- The rules of a session, if it has any, are those of its component. -/
def OwnRules (c : Controller) (session : Session) : Prop :=
  ∀ index, session.rules = some index → index = .ofRules c.component.rules

section OwnRules

variable {c : Controller} {before after : Session}

theorem Acts.ownRules (acts : Acts c before after) (own : c.OwnRules before) : c.OwnRules after := by
  rw [OwnRules, acts.kept.rules]
  exact own

theorem equip_ownRules (c : Controller) (session : Session) : c.OwnRules (c.equip session) := by
  intro index present
  cases uses : c.component.pattern.usesRules with
  | true => simpa [equip, uses] using present.symm
  | false => simp [equip, uses] at present

theorem OwnRules.perform {session : Session} (own : c.OwnRules session) (operation : Operation) :
    c.OwnRules (c.perform session operation) := by
  have performed := c.performed session operation
  generalize c.perform session operation = after at performed ⊢
  cases performed with
  | work acts => exact acts.ownRules own
  | init unstarted launched =>
    cases launched with
    | containerMissing | unloaded | cancelled => exact own
    | ready acts => exact acts.ownRules (c.equip_ownRules _)
  | register => exact own
  | destroy =>
    intro index present
    cases present

theorem run_ownRules (c : Controller) (doc : Document) (operations : List Operation) :
    c.OwnRules (c.run (.start c.component doc) operations) := by
  refine run_invariant (fun _ operation own => own.perform operation) ?_ operations
  intro index present
  cases present

end OwnRules

/-! ## After the end -/

theorem destroy_of_destroyed (c : Controller) {session : Session}
    (ended : session.lifecycle = .destroyed) : c.destroy session = (session, 0) := by
  unfold destroy
  rw [if_pos ended]

theorem switchTo_of_states_eq_none (c : Controller) {session : Session}
    (states : session.states = none) (id : String) :
    c.switchTo session id = (session, .ignored) := by
  unfold switchTo switchWith
  split
  · rfl
  · rename_i view present
    cases states.symm.trans present

theorem filterWith_of_data_eq_none (c : Controller) {session : Session}
    (data : session.data = none) (change : FilterSet → FilterSet) (field value : Json) :
    c.filterWith session change field value = (session, none) := by
  unfold filterWith
  split
  · rename_i view source ready present records
    cases data.symm.trans present
  · rfl

theorem setPage_of_data_eq_none (c : Controller) {session : Session} (data : session.data = none)
    (page : Nat) : c.setPage session page = session := by
  unfold setPage
  split
  · rename_i view source present records
    cases data.symm.trans present
  · rfl

theorem register_of_registry_eq_closed {session : Session} (registry : session.registry = .closed)
    (name : String) (object : ExternalObject) :
    register session name object = (session, .error .cleared) := by
  unfold register
  rw [registry]
  rfl

/-- After the end of a session only the document changes, by inputs to its elements. -/
theorem perform_of_closed (c : Controller) {session : Session} (closed : session.Closed)
    (operation : Operation) :
    ∃ document, c.perform session operation = { session with document := document } := by
  cases operation with
  | init => exact ⟨session.document, c.init_of_ne (by simp [closed.lifecycle])⟩
  | switchTo id =>
    exact ⟨session.document, congrArg Prod.fst (c.switchTo_of_states_eq_none closed.states id)⟩
  | updateFilter field raw =>
    exact ⟨session.document, congrArg Prod.fst (c.filterWith_of_data_eq_none closed.data _ _ _)⟩
  | clearFilters =>
    exact ⟨session.document, congrArg Prod.fst (c.filterWith_of_data_eq_none closed.data _ _ _)⟩
  | setPage page => exact ⟨session.document, c.setPage_of_data_eq_none closed.data page⟩
  | setValue element value =>
    refine ⟨session.document.put element fun e => { e with value := value }, ?_⟩
    simp [perform, setValue, closed.lifecycle]
  | register name object =>
    refine ⟨session.document, ?_⟩
    exact congrArg Prod.fst (register_of_registry_eq_closed closed.registry name object)
  | destroy =>
    exact ⟨session.document, congrArg Prod.fst (c.destroy_of_destroyed closed.lifecycle)⟩

end Controller

end LiveMarkup

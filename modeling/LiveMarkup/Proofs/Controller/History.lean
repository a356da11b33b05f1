import LiveMarkup.Proofs.Controller.Run

/-!
# A session and what happened before it

Hooks and loaders answer by what they were asked before, and a session keeps logs of what happened. Apart
from that a start does not look back: a session with a past starts as one without it does, under hooks
and a loader that go on from there (`Controller.since`), and the past stands in front of the logs
(`Session.behind`). The proof follows the start down to its parts, each of which does the same to both
sessions (`init_behind`).
-/

set_option autoImplicit false

namespace LiveMarkup

/-- The hooks that answer as these do behind some calls. -/
def Hooks.since (hooks : Hooks) (calls : List HookCall) : Hooks :=
  ⟨hooks.bound, fun earlier call => hooks.respond (calls ++ earlier) call⟩

/-- The loader that answers as this one does behind some requests. -/
def Loader.since (loader : Loader) (requests : List ExternalScript) : Loader :=
  fun earlier script => loader (requests ++ earlier) script

/-- The controller whose hooks and loader go on from where a session has come to. -/
def Controller.since (c : Controller) (past : Session) : Controller :=
  { c with hooks := c.hooks.since past.calls, loader := c.loader.since past.requests }

/-- The session with what happened before it in front of its logs, and with the registry there was. -/
def Session.behind (session past : Session) : Session where
  lifecycle := session.lifecycle
  document := session.document
  registry := past.registry
  states := session.states
  data := session.data
  rules := session.rules
  entries := past.entries ++ session.entries
  notifications := past.notifications ++ session.notifications
  calls := past.calls ++ session.calls
  requests := past.requests ++ session.requests
  tornDown := past.tornDown ++ session.tornDown

namespace Session

section Fields

variable (session past : Session)

@[simp] theorem behind_lifecycle : (session.behind past).lifecycle = session.lifecycle := by
  cases session
  rfl

@[simp] theorem behind_document : (session.behind past).document = session.document := by
  cases session
  rfl

@[simp] theorem behind_states : (session.behind past).states = session.states := by
  cases session
  rfl

@[simp] theorem behind_data : (session.behind past).data = session.data := by
  cases session
  rfl

@[simp] theorem behind_rules : (session.behind past).rules = session.rules := by
  cases session
  rfl

@[simp] theorem behind_activeState : (session.behind past).activeState = session.activeState := by
  cases session
  rfl

end Fields

theorem notify_behind (session past : Session) (name : String) (detail : Fields) :
    (session.behind past).notify name detail = (session.notify name detail).behind past := by
  simp only [notify, behind, List.append_assoc]

end Session

namespace Controller

section Behind

variable (c : Controller) (past : Session)

@[simp] theorem since_component : (c.since past).component = c.component := by
  cases c
  rfl

@[simp] theorem since_stateFilters : (c.since past).stateFilters = c.stateFilters := by
  cases c
  rfl

@[simp] theorem since_state? : (c.since past).state? = c.state? := funext fun _ => rfl

@[simp] theorem since_available : (c.since past).available = c.available := funext fun _ => rfl

@[simp] theorem since_showState : (c.since past).showState = c.showState := rfl

/-! ## Parts of a start -/

theorem callHook_behind (session : Session) (point : HookPoint) (context : Fields) :
    c.callHook (session.behind past) point context =
      (((c.since past).callHook session point context).1.behind past,
        ((c.since past).callHook session point context).2) := by
  unfold callHook
  have bound : (c.since past).hooks.bound = c.hooks.bound := rfl
  rw [bound]
  split
  · simp only [Session.behind, List.append_assoc]
    rfl
  · rfl

theorem loadAll_behind (session : Session) (scripts : List ExternalScript) :
    c.loadAll (session.behind past) scripts =
      (((c.since past).loadAll session scripts).1.behind past,
        ((c.since past).loadAll session scripts).2) := by
  have asked : ∀ (error : Option LoadError) (session : Session),
      scripts.foldl c.loadNext (session.behind past, error) =
        ((scripts.foldl (c.since past).loadNext (session, error)).1.behind past,
          (scripts.foldl (c.since past).loadNext (session, error)).2) := by
    induction scripts with
    | nil => exact fun _ _ => rfl
    | cons script rest ih =>
      intro error session
      have next : c.loadNext (session.behind past, error) script =
          (((c.since past).loadNext (session, error) script).1.behind past,
            ((c.since past).loadNext (session, error) script).2) := by
        simp only [loadNext, load, Session.behind, List.append_assoc]
        rfl
      rw [List.foldl_cons, next]
      exact ih _ _
  exact asked none session

theorem enter_behind (session : Session) (previous : Option String) (id : String) :
    c.enter (session.behind past) previous id =
      ((c.since past).enter session previous id).behind past := by
  simp only [enter, Session.behind_document, since_showState]
  generalize previous.elim session.document _ = hidden
  have entered : ({ session.behind past with
      document := c.showState hidden id true
      states := some ⟨some id⟩
      entries := (session.behind past).entries ++ [⟨session.document, previous, id⟩] } : Session) =
        Session.behind { session with
          document := c.showState hidden id true
          states := some ⟨some id⟩
          entries := session.entries ++ [⟨session.document, previous, id⟩] } past := by
    simp only [Session.behind, List.append_assoc]
  rw [entered, callHook_behind, Session.notify_behind]

/-! `onEmpty` is what follows on an empty result; with and without the past it does the same. -/

theorem afterFilter_behind {onEmpty other : Session → Session}
    (same : ∀ session, onEmpty (session.behind past) = (other session).behind past)
    (session : Session) (field value : Json) (visible : Nat) :
    c.afterFilter onEmpty (session.behind past) field value visible =
      ((c.since past).afterFilter other session field value visible).behind past := by
  simp only [afterFilter, Session.behind_data, since_component, since_state?]
  generalize ((session.data.bind fun _ => c.component.source?).map fun source =>
    source.items.length).getD 0 = total
  rw [Session.notify_behind, callHook_behind]
  generalize (c.since past).callHook _ _ _ = called
  simp only [Session.behind_states]
  split
  · exact same called.1
  · rfl

theorem applyStateFilters_behind {onEmpty other : Session → Session}
    (same : ∀ session, onEmpty (session.behind past) = (other session).behind past)
    (session : Session) (id : String) :
    c.applyStateFilters onEmpty (session.behind past) id =
      ((c.since past).applyStateFilters other session id).behind past := by
  simp only [applyStateFilters, Session.behind_data, since_component, since_stateFilters]
  split
  · rename_i updates view source kept present records
    exact c.afterFilter_behind past same
      (applyFilters source (DataView.inputs view.filters updates) session).1 _ _ _
  · rfl

theorem switchWith_behind {onEmpty other : Session → Session}
    (same : ∀ session, onEmpty (session.behind past) = (other session).behind past)
    (session : Session) (id : String) :
    c.switchWith onEmpty (session.behind past) id =
      (((c.since past).switchWith other session id).1.behind past,
        ((c.since past).switchWith other session id).2) := by
  simp only [switchWith, Session.behind_states, Session.behind_lifecycle, Session.behind_document,
    since_available]
  cases session.states with
  | none => rfl
  | some view =>
    simp only
    split
    · rfl
    · split
      · rfl
      · rw [callHook_behind]
        generalize (c.since past).callHook session .beforeStateChange _ = called
        simp only
        split
        · rfl
        · rw [enter_behind, c.applyStateFilters_behind past same, callHook_behind]

theorem enterNoResults_behind (session : Session) :
    c.enterNoResults (session.behind past) = ((c.since past).enterNoResults session).behind past :=
  congrArg Prod.fst (c.switchWith_behind past (fun _ => rfl) session State.noResults)

theorem switchTo_behind (session : Session) (id : String) :
    (c.switchTo (session.behind past) id).1 = ((c.since past).switchTo session id).1.behind past :=
  congrArg Prod.fst (c.switchWith_behind past (c.enterNoResults_behind past) session id)

theorem execute_behind (session : Session) (action : PlannedAction) :
    c.execute (session.behind past) action = ((c.since past).execute session action).behind past := by
  simp only [execute, Session.behind_states, Session.behind_activeState, since_component,
    since_state?]
  split
  · exact c.switchTo_behind past session action.target
  · split
    · split
      · split
        · exact c.switchTo_behind past session _
        · rfl
      · rfl
    · rfl

/-- What is done step by step does the same with and without the past when each step does. -/
theorem foldl_behind {α : Type} {step other : Session → α → Session}
    (same : ∀ session item, step (session.behind past) item = (other session item).behind past)
    (items : List α) (session : Session) :
    items.foldl step (session.behind past) = (items.foldl other session).behind past := by
  induction items generalizing session with
  | nil => rfl
  | cons item rest ih => rw [List.foldl_cons, List.foldl_cons, same, ih]

theorem evaluateTrigger_behind (session : Session) (element : String) :
    c.evaluateTrigger (session.behind past) element =
      ((c.since past).evaluateTrigger session element).behind past := by
  rw [evaluateTrigger, evaluateTrigger, Session.behind_rules, Session.behind_document]
  split
  · rfl
  · simp only
    split
    · rfl
    · rw [foldl_behind past (c.execute_behind past), Session.notify_behind]

theorem setUp_behind (session : Session) :
    c.setUp (session.behind past) = ((c.since past).setUp session).behind past := by
  have equipped : c.equip (session.behind past) = ((c.since past).equip session).behind past := rfl
  simp only [setUp, equipped, Session.behind_rules]
  exact foldl_behind past (c.evaluateTrigger_behind past) _ _

theorem launch_behind (session : Session) :
    c.launch (session.behind past) = ((c.since past).launch session).behind past := by
  have first : c.callHook { session.behind past with lifecycle := .initializing } .beforeInit [] = _ :=
    c.callHook_behind past { session with lifecycle := .initializing } .beforeInit []
  simp only [launch, since_component, first]
  generalize (c.since past).callHook { session with lifecycle := .initializing } .beforeInit [] = called
  split
  · rfl
  · rw [setUp_behind]
    generalize (c.since past).setUp called.1 = worked
    have last : c.callHook { worked.behind past with lifecycle := .ready } .afterInit [] = _ :=
      c.callHook_behind past { worked with lifecycle := .ready } .afterInit []
    simp only [last]
    rw [Session.notify_behind, loadAll_behind]

/-- A session with a past starts as one without it does, under hooks and a loader that go on from
there. -/
theorem init_behind (session : Session) :
    c.init (session.behind past) = ((c.since past).init session).behind past := by
  have asked : c.loadAll { session.behind past with lifecycle := .loadingExternals }
      (c.component.options.externalScripts.filter ExternalScript.required) = _ :=
    c.loadAll_behind past { session with lifecycle := .loadingExternals } _
  simp only [init, Session.behind_lifecycle, since_component, asked]
  -- Only now: before it `asked` would not be found in the session that it speaks of.
  rw [Session.behind_document]
  split
  · rfl
  · split
    · rfl
    · generalize (c.since past).loadAll _ _ = loaded
      obtain ⟨loaded, error⟩ := loaded
      cases error with
      | some error => exact Session.notify_behind { loaded with lifecycle := _ } past _ _
      | none => exact c.launch_behind past loaded

end Behind

end Controller

end LiveMarkup

import LiveMarkup.Proofs.Controller.Run

/-!
# What hooks can do

A hook is told what happens and may answer with a cancel at two of the points; a failure, and a cancel
anywhere else, is ignored. Two controllers whose hooks differ in ignored answers alone therefore run in
lockstep. The proof follows the operations: calls are only ever added (`Act.calls`), so whatever an
operation calls on its way is among the calls of the whole run, where the hooks are known to come to
the same, and then each part of the operation does the same for both controllers.
-/

set_option autoImplicit false

namespace LiveMarkup

/-- An answer that changes nothing: a failure, or a cancel where no cancel is honoured. -/
inductive HookOutcome.Ignored (point : HookPoint) : HookOutcome → Prop where
  | failed (reason : String) : Ignored point (.fail reason)
  | cancelled (unable : point.canCancel = false) : Ignored point .cancel

/-- Hooks that stand in for others along a list of calls: they are called at the same points, and
they answer each call in the same way, or with `proceed` where the answer of the others is ignored. -/
structure Hooks.StandIn (hooks others : Hooks) (calls : List HookCall) : Prop where
  bound : hooks.bound = others.bound
  respond : ∀ earlier call, earlier ++ [call] <+: calls →
    hooks.respond earlier call = others.respond earlier call ∨
      hooks.respond earlier call = .proceed ∧ (others.respond earlier call).Ignored call.point

/-- An ignored answer cancels nothing. -/
theorem HookOutcome.Ignored.cancels {point : HookPoint} {outcome : HookOutcome}
    (ignored : outcome.Ignored point) : (outcome == .cancel && point.canCancel) = false := by
  cases ignored with
  | failed reason => rfl
  | cancelled unable =>
    rw [unable]
    rfl

theorem Hooks.StandIn.cancels {hooks others : Hooks} {calls earlier : List HookCall}
    {call : HookCall} (standIn : hooks.StandIn others calls) (made : earlier ++ [call] <+: calls) :
    (hooks.respond earlier call == .cancel && call.point.canCancel) =
      (others.respond earlier call == .cancel && call.point.canCancel) := by
  rcases standIn.respond earlier call made with same | ⟨proceeds, ignored⟩
  · rw [same]
  · rw [ignored.cancels, proceeds]
    rfl

namespace Controller

/-- The controller with other hooks. -/
def withHooks (c : Controller) (hooks : Hooks) : Controller := { c with hooks := hooks }

section Parts

variable (c : Controller) (hooks : Hooks)

@[simp] theorem withHooks_hooks : (c.withHooks hooks).hooks = hooks := by
  cases c
  rfl

@[simp] theorem withHooks_component : (c.withHooks hooks).component = c.component := by
  cases c
  rfl

@[simp] theorem withHooks_stateFilters : (c.withHooks hooks).stateFilters = c.stateFilters := by
  cases c
  rfl

@[simp] theorem withHooks_state? : (c.withHooks hooks).state? = c.state? := funext fun _ => rfl

@[simp] theorem withHooks_available : (c.withHooks hooks).available = c.available :=
  funext fun _ => rfl

@[simp] theorem withHooks_showState : (c.withHooks hooks).showState = c.showState := rfl

@[simp] theorem withHooks_loadAll : (c.withHooks hooks).loadAll = c.loadAll := rfl

@[simp] theorem withHooks_equip : (c.withHooks hooks).equip = c.equip := rfl

end Parts

/-! ## Calls are added -/

theorem callHook_calls (c : Controller) (session : Session) (point : HookPoint) (context : Fields) :
    session.calls <+: (c.callHook session point context).1.calls := by
  unfold callHook
  split
  · exact List.prefix_append _ _
  · exact List.prefix_rfl

theorem enter_calls (c : Controller) (session : Session) (previous : Option String) (id : String) :
    session.calls <+: (c.enter session previous id).calls := by
  simp only [enter, Session.notify]
  generalize previous.elim session.document _ = hidden
  exact c.callHook_calls
    { session with
      document := c.showState hidden id true
      states := some ⟨some id⟩
      entries := session.entries ++ [⟨session.document, previous, id⟩] } _ _

theorem Act.calls {c : Controller} {before after : Session} (act : Act c before after) :
    before.calls <+: after.calls := by
  cases act with
  | call call => exact List.prefix_append _ _
  | enter states inactive available => exact c.enter_calls before _ _
  | report name detail work => exact List.prefix_rfl
  | filter filters data records => exact List.prefix_rfl
  | turn page data records => exact List.prefix_rfl
  | effect rules planned => exact List.prefix_rfl
  | input element value => exact List.prefix_rfl

theorem Acts.calls {c : Controller} {before after : Session} (acts : Acts c before after) :
    before.calls <+: after.calls := by
  induction acts with
  | refl => exact List.prefix_rfl
  | tail _ act ih => exact ih.trans act.calls

theorem execute_calls (c : Controller) (session : Session) (action : PlannedAction) :
    session.calls <+: (c.execute session action).calls := by
  simp only [execute]
  split
  · exact (c.switchTo_acts session action.target).calls
  · split
    · split
      · rename_i initial hinitial
        split
        · exact (c.switchTo_acts session initial.id).calls
        · exact List.prefix_rfl
      · exact List.prefix_rfl
    · exact List.prefix_rfl

theorem foldl_calls {α : Type} {step : Session → α → Session}
    (grows : ∀ session item, session.calls <+: (step session item).calls) (items : List α)
    (session : Session) : session.calls <+: (items.foldl step session).calls := by
  induction items generalizing session with
  | nil => exact List.prefix_rfl
  | cons item rest ih => exact (grows session item).trans (ih _)

theorem setUp_calls (c : Controller) (session : Session) :
    session.calls <+: (c.setUp session).calls :=
  (c.setUp_acts session).calls

theorem launch_calls (c : Controller) (session : Session) :
    session.calls <+: (c.launch session).calls := by
  simp only [launch, loadAll_eq]
  have asked := c.callHook_calls { session with lifecycle := .initializing } .beforeInit []
  split
  · exact asked
  · exact asked.trans ((c.setUp_calls _).trans
      (c.callHook_calls { c.setUp _ with lifecycle := .ready } .afterInit []))

theorem init_calls (c : Controller) (session : Session) :
    session.calls <+: (c.init session).calls := by
  unfold init
  split
  · exact List.prefix_rfl
  · split
    · exact List.prefix_rfl
    · simp only
      -- Asking for scripts calls no hook.
      have loaded := c.loadAll_eq { session with lifecycle := .loadingExternals }
        (c.component.options.externalScripts.filter ExternalScript.required)
      split
      · rename_i heq
        rw [heq] at loaded
        simp only at loaded
        subst loaded
        exact List.prefix_rfl
      · rename_i heq
        rw [heq] at loaded
        simp only at loaded
        subst loaded
        exact c.launch_calls
          { session with lifecycle := .loadingExternals, requests := _ }

theorem perform_calls (c : Controller) (session : Session) (operation : Operation) :
    session.calls <+: (c.perform session operation).calls := by
  cases operation with
  | init => exact c.init_calls session
  | switchTo id => exact (c.switchTo_acts session id).calls
  | updateFilter field raw => exact (c.filterWith_acts session _ _ _).calls
  | clearFilters => exact (c.filterWith_acts session _ _ _).calls
  | setPage page => exact (c.setPage_acts session page).calls
  | setValue element value => exact (c.setValue_acts session element value).calls
  | register name object =>
    simp only [perform, register]
    split <;> exact List.prefix_rfl
  | destroy =>
    simp only [perform, destroy]
    split
    · exact List.prefix_rfl
    · simp only [Session.notify]
      exact c.callHook_calls
        { session with
          lifecycle := .destroyed
          registry := .closed
          tornDown := session.tornDown ++ session.registry.destroyable
          states := none
          data := none
          rules := none
          notifications := _ } .destroy []

/-! ## Lockstep -/

section Lockstep

variable {c : Controller} {hooks : Hooks} {calls : List HookCall}
  (standIn : hooks.StandIn c.hooks calls)

include standIn

theorem callHook_withHooks (session : Session) (point : HookPoint) (context : Fields)
    (made : (c.callHook session point context).1.calls <+: calls) :
    (c.withHooks hooks).callHook session point context = c.callHook session point context := by
  unfold callHook at made ⊢
  simp only [withHooks_hooks, standIn.bound]
  split
  · rename_i bound
    rw [if_pos bound] at made
    rw [standIn.cancels made]
  · rfl

theorem enter_withHooks {session : Session} {previous : Option String} {id : String}
    (made : (c.enter session previous id).calls <+: calls) :
    (c.withHooks hooks).enter session previous id = c.enter session previous id := by
  simp only [enter, Session.notify, withHooks_showState] at made ⊢
  rw [callHook_withHooks standIn _ _ _ made]

theorem afterFilter_withHooks {onEmpty other : Session → Session}
    (grows : ∀ session, Acts c session (onEmpty session))
    (same : ∀ session, (onEmpty session).calls <+: calls → other session = onEmpty session)
    {session : Session} {field value : Json} {visible : Nat}
    (made : (c.afterFilter onEmpty session field value visible).calls <+: calls) :
    (c.withHooks hooks).afterFilter other session field value visible =
      c.afterFilter onEmpty session field value visible := by
  simp only [afterFilter, withHooks_component, withHooks_state?] at made ⊢
  generalize ((session.data.bind fun _ => c.component.source?).map fun source =>
    source.items.length).getD 0 = total at made ⊢
  -- Whether or not something follows on the hook, its call has been made by then.
  have called : (c.callHook
      (session.notify "filter" [("visible", Json.ofNat visible), ("total", Json.ofNat total)])
      .afterFilter
      [("field", field), ("value", value), ("visible", Json.ofNat visible),
        ("total", Json.ofNat total)]).1.calls <+: calls := by
    split at made
    · exact (grows _).calls.trans made
    · exact made
  rw [callHook_withHooks standIn _ _ _ called]
  split
  · rename_i empty
    rw [if_pos empty] at made
    exact same _ made
  · rfl

theorem applyStateFilters_withHooks {onEmpty other : Session → Session}
    (grows : ∀ session, Acts c session (onEmpty session))
    (same : ∀ session, (onEmpty session).calls <+: calls → other session = onEmpty session)
    {session : Session} {id : String}
    (made : (c.applyStateFilters onEmpty session id).calls <+: calls) :
    (c.withHooks hooks).applyStateFilters other session id =
      c.applyStateFilters onEmpty session id := by
  unfold applyStateFilters at made ⊢
  simp only [withHooks_component, withHooks_stateFilters] at made ⊢
  split
  · rename_i updates view source kept data records
    simp only [kept, data, records] at made
    exact afterFilter_withHooks standIn grows same made
  · rfl

theorem switchWith_withHooks {onEmpty other : Session → Session}
    (grows : ∀ session, Acts c session (onEmpty session))
    (same : ∀ session, (onEmpty session).calls <+: calls → other session = onEmpty session)
    {session : Session} {id : String}
    (made : (c.switchWith onEmpty session id).1.calls <+: calls) :
    (c.withHooks hooks).switchWith other session id = c.switchWith onEmpty session id := by
  unfold switchWith at made ⊢
  simp only [withHooks_available] at made ⊢
  split
  · rfl
  · rename_i view states
    simp only [states] at made
    split
    · rfl
    · rename_i running
      rw [if_neg running] at made
      split
      · rfl
      · rename_i enterable
        rw [if_neg enterable] at made
        -- The calls behind the first one are those of entering, of the filters and of the last hook.
        have asked : (c.callHook session .beforeStateChange
            (switchContext view.active id)).1.calls <+: calls := by
          split at made
          · exact made
          · exact (c.enter_calls _ _ _).trans
              ((c.applyStateFilters_acts grows _ id).calls.trans ((c.callHook_calls _ _ _).trans made))
        rw [callHook_withHooks standIn _ _ _ asked]
        generalize c.callHook session .beforeStateChange (switchContext view.active id) = called
          at made ⊢
        split
        · rfl
        · rename_i proceeds
          rw [if_neg proceeds] at made
          have filtered := (c.callHook_calls _ _ _).trans made
          have entered := (c.applyStateFilters_acts grows _ id).calls.trans filtered
          rw [enter_withHooks standIn entered,
            applyStateFilters_withHooks standIn grows same filtered,
            callHook_withHooks standIn _ _ _ made]

theorem enterNoResults_withHooks (session : Session)
    (made : (c.enterNoResults session).calls <+: calls) :
    (c.withHooks hooks).enterNoResults session = c.enterNoResults session := by
  have same : (c.withHooks hooks).switchWith id session State.noResults =
      c.switchWith id session State.noResults :=
    switchWith_withHooks standIn (fun _ => .refl) (fun _ _ => rfl) made
  exact congrArg Prod.fst same

theorem switchTo_withHooks {session : Session} {id : String}
    (made : (c.switchTo session id).1.calls <+: calls) :
    (c.withHooks hooks).switchTo session id = c.switchTo session id :=
  switchWith_withHooks standIn c.enterNoResults_acts (enterNoResults_withHooks standIn) made

theorem filterWith_withHooks {session : Session} {change : FilterSet → FilterSet}
    {field value : Json} (made : (c.filterWith session change field value).1.calls <+: calls) :
    (c.withHooks hooks).filterWith session change field value =
      c.filterWith session change field value := by
  unfold filterWith at made ⊢
  simp only [withHooks_component] at made ⊢
  split
  · rename_i view source ready data records
    simp only [ready, data, records] at made
    rw [afterFilter_withHooks standIn c.enterNoResults_acts (enterNoResults_withHooks standIn) made]
  · rfl

theorem execute_withHooks (session : Session) (action : PlannedAction)
    (made : (c.execute session action).calls <+: calls) :
    (c.withHooks hooks).execute session action = c.execute session action := by
  simp only [execute, withHooks_component, withHooks_state?] at made ⊢
  by_cases shown : (session.states.isSome && (c.state? action.target).isSome) = true ∧
      action.effect = .show
  · rw [if_pos shown] at made
    rw [if_pos shown, if_pos shown, switchTo_withHooks standIn made]
  · rw [if_neg shown] at made
    rw [if_neg shown, if_neg shown]
    by_cases hidden : (session.states.isSome && (c.state? action.target).isSome) = true ∧
        action.effect = .hide
    · rw [if_pos hidden] at made
      rw [if_pos hidden, if_pos hidden]
      cases hinitial : c.component.initialState with
      | none => rfl
      | some initial =>
        simp only [hinitial] at made ⊢
        by_cases leaves : session.activeState = some action.target ∧ initial.id ≠ action.target
        · rw [if_pos leaves] at made
          rw [if_pos leaves, if_pos leaves, switchTo_withHooks standIn made]
        · rw [if_neg leaves, if_neg leaves]
    · rw [if_neg hidden, if_neg hidden]

omit standIn in
/-- Steps that do the same as long as their calls are known do so one after another. -/
theorem foldl_lockstep {α : Type} {step other : Session → α → Session}
    (grows : ∀ session item, session.calls <+: (step session item).calls)
    (same : ∀ session item, (step session item).calls <+: calls →
      other session item = step session item) (items : List α) (session : Session)
    (made : (items.foldl step session).calls <+: calls) :
    items.foldl other session = items.foldl step session := by
  induction items generalizing session with
  | nil => rfl
  | cons item rest ih =>
    rw [List.foldl_cons] at made
    rw [List.foldl_cons, List.foldl_cons,
      same session item ((foldl_calls grows rest _).trans made)]
    exact ih _ made

theorem evaluateTrigger_withHooks (session : Session) (element : String)
    (made : (c.evaluateTrigger session element).calls <+: calls) :
    (c.withHooks hooks).evaluateTrigger session element = c.evaluateTrigger session element := by
  unfold evaluateTrigger at made ⊢
  split
  · rfl
  · rename_i index rules
    simp only [rules] at made ⊢
    split
    · rfl
    · rename_i planned
      rw [if_neg planned] at made
      rw [foldl_lockstep c.execute_calls (execute_withHooks standIn) _ _ made]

theorem setValue_withHooks {session : Session} {element : String} {value : Json}
    (made : (c.setValue session element value).calls <+: calls) :
    (c.withHooks hooks).setValue session element value = c.setValue session element value := by
  simp only [setValue] at made ⊢
  split
  · rename_i ready
    rw [if_pos ready] at made
    exact evaluateTrigger_withHooks standIn _ element made
  · rfl

theorem setUp_withHooks {session : Session} (made : (c.setUp session).calls <+: calls) :
    (c.withHooks hooks).setUp session = c.setUp session := by
  simp only [setUp, withHooks_equip] at made ⊢
  exact foldl_lockstep (fun session element => (c.evaluateTrigger_acts session element).calls)
    (evaluateTrigger_withHooks standIn) _ _ made

theorem launch_withHooks {session : Session} (made : (c.launch session).calls <+: calls) :
    (c.withHooks hooks).launch session = c.launch session := by
  simp only [launch, loadAll_eq, withHooks_component] at made ⊢
  -- Unless the first hook cancels the start, its call and those of the set-up come before the last.
  have asked : (c.callHook { session with lifecycle := .initializing } .beforeInit []).1.calls <+:
      calls := by
    split at made
    · exact made
    · exact (c.setUp_calls _).trans
        ((c.callHook_calls { c.setUp _ with lifecycle := .ready } .afterInit []).trans made)
  rw [callHook_withHooks standIn _ _ _ asked]
  generalize c.callHook { session with lifecycle := .initializing } .beforeInit [] = called
    at made ⊢
  split
  · rfl
  · rename_i proceeds
    rw [if_neg proceeds] at made
    have last : (c.callHook { c.setUp called.1 with lifecycle := .ready } .afterInit []).1.calls <+:
        calls := made
    have worked := (c.callHook_calls _ .afterInit []).trans last
    rw [setUp_withHooks standIn worked, callHook_withHooks standIn _ _ _ last]

theorem init_withHooks {session : Session} (made : (c.init session).calls <+: calls) :
    (c.withHooks hooks).init session = c.init session := by
  simp only [init, withHooks_component, withHooks_loadAll] at made ⊢
  split
  · rfl
  · rename_i unstarted
    rw [if_neg unstarted] at made
    split
    · rfl
    · rename_i present
      rw [if_neg present] at made
      split
      · rfl
      · rename_i loaded heq
        simp only [heq] at made
        exact launch_withHooks standIn made

theorem destroy_withHooks {session : Session} (made : (c.destroy session).1.calls <+: calls) :
    (c.withHooks hooks).destroy session = c.destroy session := by
  simp only [destroy] at made ⊢
  split
  · rfl
  · rename_i alive
    rw [if_neg alive] at made
    rw [callHook_withHooks standIn _ _ _ made]

/-- Any operation does the same with hooks that stand in along its calls, and answers the same. -/
theorem perform_withHooks (session : Session) (operation : Operation)
    (made : (c.perform session operation).calls <+: calls) :
    (c.withHooks hooks).perform session operation = c.perform session operation ∧
      (c.withHooks hooks).answer session operation = c.answer session operation := by
  cases operation with
  | init =>
    have same := init_withHooks standIn made
    exact ⟨same, congrArg (fun after : Session => Answer.phase after.lifecycle) same⟩
  | switchTo id =>
    have same := switchTo_withHooks standIn made
    exact ⟨congrArg Prod.fst same, congrArg (Answer.entered ∘ Prod.snd) same⟩
  | updateFilter field raw =>
    have same := filterWith_withHooks standIn made
    exact ⟨congrArg Prod.fst same, congrArg (Answer.matching ∘ Prod.snd) same⟩
  | clearFilters =>
    have same := filterWith_withHooks standIn made
    exact ⟨congrArg Prod.fst same, congrArg (Answer.matching ∘ Prod.snd) same⟩
  | setPage page => exact ⟨rfl, rfl⟩
  | setValue element value => exact ⟨setValue_withHooks standIn made, rfl⟩
  | register name object => exact ⟨rfl, rfl⟩
  | destroy =>
    have same := destroy_withHooks standIn made
    exact ⟨congrArg Prod.fst same, congrArg (Answer.tornDown ∘ Prod.snd) same⟩

/-- A run does the same with hooks that stand in along its calls, and answers the same. -/
theorem lockstep (session : Session) (operations : List Operation)
    (made : (c.run session operations).calls <+: calls) :
    (c.withHooks hooks).run session operations = c.run session operations ∧
      (c.withHooks hooks).answers session operations = c.answers session operations := by
  induction operations generalizing session with
  | nil => exact ⟨rfl, rfl⟩
  | cons operation rest ih =>
    have first : (c.perform session operation).calls <+: calls :=
      (foldl_calls c.perform_calls rest _).trans made
    obtain ⟨performed, answered⟩ := perform_withHooks standIn session operation first
    obtain ⟨left, told⟩ := ih (c.perform session operation) made
    refine ⟨?_, ?_⟩
    · rw [run, List.foldl_cons, performed]
      exact left
    · rw [answers, answers, performed, answered, told]

end Lockstep

/-! ## Runs -/

/-- Hooks act on a run only by a cancel that is honoured: other hooks that differ in ignored answers
alone, along the calls of the run, lead to the same session with the same calls, and every operation
answers the same. -/
theorem run_withHooks (c : Controller) (hooks : Hooks) (doc : Document)
    (operations : List Operation)
    (standIn : hooks.StandIn c.hooks (c.run (.start c.component doc) operations).calls) :
    (c.withHooks hooks).run (.start c.component doc) operations =
        c.run (.start c.component doc) operations ∧
      (c.withHooks hooks).answers (.start c.component doc) operations =
        c.answers (.start c.component doc) operations :=
  lockstep standIn _ operations List.prefix_rfl

/-- Two states whose hooks refuse to leave the first one, would also refuse the end, and fail at
everything else. -/
def guardedTabs : Controller where
  component :=
    { id := "tabs"
      inputs := ⟨some [.ofId "list" "List", .ofId "archive" "Archive"], none, none⟩
      options := .standard
      accepted := by decide +kernel }
  hooks := ⟨fun _ => true, fun _ call =>
    if call.point = .beforeStateChange ∨ call.point = .destroy then .cancel
    else .fail "out of order"⟩
  loader := .preloaded
  stateFilters := .empty

/-- Hooks that refuse to leave the first state and let everything else pass. -/
def quietGuard : Hooks :=
  ⟨fun _ => true, fun _ call => if call.point = .beforeStateChange then .cancel else .proceed⟩

/-- The start of `guardedTabs`, an attempt to leave the first state, and the end. -/
def guardedTabsRun : Session :=
  guardedTabs.run (.start guardedTabs.component (.scaffold guardedTabs.component))
    [.init, .switchTo "archive", .destroy]

/-- Of four calls two failed and one refused the end in vain; with none of that the run is the
same. -/
theorem run_withHooks_guarded :
    quietGuard.StandIn guardedTabs.hooks guardedTabsRun.calls ∧
      guardedTabsRun.calls.map HookCall.point =
        [.beforeInit, .afterInit, .beforeStateChange, .destroy] ∧
      (guardedTabs.withHooks quietGuard).run
          (.start guardedTabs.component (.scaffold guardedTabs.component))
          [.init, .switchTo "archive", .destroy] = guardedTabsRun := by
  have standIn : quietGuard.StandIn guardedTabs.hooks guardedTabsRun.calls := by
    refine ⟨rfl, ?_⟩
    rintro earlier ⟨point, context⟩ _
    by_cases leaves : point = .beforeStateChange
    · exact .inl (by simp [quietGuard, guardedTabs, leaves])
    · refine .inr ⟨by simp [quietGuard, leaves], ?_⟩
      by_cases ends : point = .destroy
      · subst ends
        exact .cancelled rfl
      · have fails : guardedTabs.hooks.respond earlier ⟨point, context⟩ = .fail "out of order" := by
          simp [guardedTabs, leaves, ends]
        rw [fails]
        exact .failed _
  exact ⟨standIn, by decide +kernel, (guardedTabs.run_withHooks quietGuard _ _ standIn).1⟩

end Controller

end LiveMarkup

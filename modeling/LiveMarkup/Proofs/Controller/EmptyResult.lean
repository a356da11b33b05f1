import LiveMarkup.Proofs.Controller.Lifecycle
import LiveMarkup.Proofs.Controller.Recursion
import LiveMarkup.Proofs.Controller.Shown
import LiveMarkup.Proofs.Controller.StatePath

/-!
# Results without records

A filtering that leaves no record leads a complete component to its state `no-results`. It gets there
whenever that state can always be entered: it is enabled and has no condition, and no hook refuses
(`run_shows_emptyResult`). Without such a pattern, or with that state missing or disabled, filtering never
changes the active state, and with a condition on the state only where the condition holds in the document
in which it is entered (`run_enters_emptyResult`). Both hold since a filtering either leaves the active
state or enters `no-results` (`filterWith_activeState`).
-/

set_option autoImplicit false

namespace LiveMarkup

namespace Controller

/-- The declared state of an id is the only one of that id. -/
theorem state?_eq_some_of_mem {c : Controller} {state : State}
    (declared : state ∈ c.component.states) : c.state? state.id = some state := by
  cases found : c.state? state.id with
  | none =>
    rw [state?, List.find?_eq_none] at found
    exact absurd (beq_self_eq_true state.id) (found state declared)
  | some other =>
    obtain ⟨member, same⟩ := mem_states_of_state? found
    rw [Component.state_eq_of_id_eq member declared same]

/-! ## Requests -/

/-- A hook that never cancels lets everything proceed. -/
theorem callHook_of_ne_cancel (c : Controller) (session : Session) {point : HookPoint}
    (context : Fields)
    (proceeds : ∀ earlier call, call.point = point → c.hooks.respond earlier call ≠ .cancel) :
    (c.callHook session point context).2 = true := by
  unfold callHook
  split
  · have outcome := proceeds session.calls ⟨point, .object context⟩ rfl
    simp [outcome]
  · rfl

/-- An available state is entered, unless it is active or a hook refuses. -/
theorem switchWith_of_available (c : Controller) (onEmpty : Session → Session) {session : Session}
    {view : StatesView} {id : String} (states : session.states = some view)
    (working : session.lifecycle = .ready) (inactive : view.active ≠ some id)
    (available : c.available session.document id = true)
    (proceeds : (c.callHook session .beforeStateChange (switchContext view.active id)).2 = true) :
    (c.switchWith onEmpty session id).2 = .switched view.active id := by
  unfold switchWith
  simp only [states, working, available, proceeds, inactive]
  simp

/-- A request for `no-results` leaves that state active if it can be entered and no hook refuses. -/
theorem enterNoResults_activeState (c : Controller) {session : Session}
    (working : session.lifecycle = .ready) (stateful : session.states.isSome = true)
    (available : c.available session.document State.noResults = true)
    (proceeds : ∀ earlier call, call.point = .beforeStateChange →
      c.hooks.respond earlier call ≠ .cancel) :
    (c.enterNoResults session).activeState = some State.noResults := by
  obtain ⟨view, states⟩ := Option.isSome_iff_exists.mp stateful
  have active : session.activeState = view.active := by rw [Session.activeState, states]; rfl
  unfold enterNoResults
  rcases c.switchWith_cases id session State.noResults with ⟨calls, stayed, other⟩ |
    ⟨entered, calls, -, -, -, entering, -, -, switched⟩
  · -- Nothing happens only where the state is active already.
    by_cases inactive : view.active = some State.noResults
    · rw [stayed]
      exact active.trans inactive
    · exact absurd (c.switchWith_of_available id states working inactive available
        (c.callHook_of_ne_cancel session _ proceeds)) (other _ _)
  · obtain ⟨reached, unchanged, left⟩ := c.applyStateFilters_unchanged id entered State.noResults
    have settled : (c.applyStateFilters id entered State.noResults).activeState =
        some State.noResults := by
      have same : c.applyStateFilters id entered State.noResults = reached := left.elim id id
      rw [same, unchanged.activeState_eq, Session.activeState, entering]
      rfl
    rw [switched]
    exact settled

/-! ## Filterings -/

/-- A filtering that leaves no record asks for `no-results`, if the component is complete and declares
that state, with the phase and the states that the session had. -/
theorem filterWith_of_empty (c : Controller) {session after : Session}
    {change : FilterSet → FilterSet} {field value : Json}
    (answer : c.filterWith session change field value = (after, some 0))
    (complete : c.component.pattern = .complete) (stateful : session.states.isSome = true)
    (declared : (c.state? State.noResults).isSome = true) :
    ∃ asked, asked.lifecycle = .ready ∧ asked.states = session.states ∧
      after = c.enterNoResults asked := by
  unfold filterWith at answer
  split at answer
  · rename_i view source ready data records
    generalize hfiltered : applyFilters source (change view.filters) session = filtered at answer
    obtain ⟨filtered, visible⟩ := filtered
    obtain ⟨left, none⟩ := Prod.mk.inj answer
    obtain rfl : visible = 0 := Option.some.inj none
    have unswitched : filtered.lifecycle = .ready ∧ filtered.states = session.states := by
      have first : (applyFilters source (change view.filters) session).1 = filtered := by
        rw [hfiltered]
      rw [← first]
      exact ⟨ready, rfl⟩
    obtain ⟨detail, calls, reported⟩ := c.filterReported_eq filtered field value 0
    have states : (c.filterReported filtered field value 0).states = session.states := by
      rw [reported]
      exact unswitched.2
    have asks : c.AsksNoResults (c.filterReported filtered field value 0) 0 :=
      ⟨rfl, complete, by rw [states]; exact stateful, declared⟩
    rw [afterFilter_eq, if_pos asks] at left
    refine ⟨_, ?_, states, left.symm⟩
    rw [reported]
    exact unswitched.1
  · cases answer

/-- A filtering changes the active state only if it leaves no record, in a complete component, and only by
entering `no-results`. -/
theorem filterWith_activeState (c : Controller) (session : Session) (change : FilterSet → FilterSet)
    (field value : Json) :
    (c.filterWith session change field value).1.activeState = session.activeState ∨
      (c.filterWith session change field value).2 = some 0 ∧ c.component.pattern = .complete ∧
        ∃ document,
          (c.filterWith session change field value).1.activeState = some State.noResults ∧
          (c.filterWith session change field value).1.entries =
            session.entries ++ [⟨document, session.activeState, State.noResults⟩] := by
  cases answer : c.filterWith session change field value with
  | mk after count =>
    cases count with
    | none =>
      -- Without an answer nothing was filtered.
      unfold filterWith at answer
      split at answer
      · cases answer
      · obtain ⟨rfl, -⟩ := Prod.mk.inj answer
        exact .inl rfl
    | some visible =>
      obtain ⟨view, source, filtered, -, -, -, -, fellBack, empty⟩ := c.filterWith_fellBack answer
      cases fellBack with
      | stayed entries states data =>
        exact .inl (by rw [Session.activeState, states]; rfl)
      | entered inactive entries states data =>
        obtain ⟨none, complete⟩ := empty.resolve_right (by simp [entries])
        refine .inr ⟨congrArg some none, complete, _, ?_, entries⟩
        rw [Session.activeState, states]
        rfl

/-- Only filterings answer how many records match. -/
theorem eq_filterWith_of_answer {c : Controller} {session : Session} {operation : Operation}
    {count : Option Nat} (answer : c.answer session operation = .matching count) :
    ∃ change field value, c.filterWith session change field value =
      (c.perform session operation, count) := by
  cases operation with
  | updateFilter field raw =>
    have counted : (c.updateFilter session field raw).2 = count := Answer.matching.inj answer
    exact ⟨fun filters => filters.update field raw, .string field, raw, Prod.ext rfl counted⟩
  | clearFilters =>
    have counted : (c.clearFilters session).2 = count := Answer.matching.inj answer
    exact ⟨FilterSet.clear, .null, .null, Prod.ext rfl counted⟩
  | init | switchTo | setPage | setValue | register | destroy => cases answer

/-! ## Runs -/

/-- In a session of a run, an answer that no record is left comes with `no-results` active, if the
component is complete and that state can always be entered. -/
theorem run_shows_emptyResult (c : Controller) (doc : Document) (operations : List Operation)
    (complete : c.component.pattern = .complete)
    (enterable : ∃ state ∈ c.component.states, state.id = State.noResults ∧ state.disabled = false ∧
      state.condition = none)
    (proceeds : ∀ earlier call, call.point = .beforeStateChange →
      c.hooks.respond earlier call ≠ .cancel) :
    let session := c.run (.start c.component doc) operations
    session.lifecycle = .ready →
      ∀ operation, c.answer session operation = .matching (some 0) →
        (c.perform session operation).activeState = some State.noResults := by
  intro session ready operation answer
  obtain ⟨state, declared, same, enabled, free⟩ := enterable
  have found : c.state? State.noResults = some state := same ▸ state?_eq_some_of_mem declared
  have stateful : session.states.isSome = true :=
    (c.run_sound doc operations).states.mpr ⟨ready, by rw [complete]; rfl⟩
  obtain ⟨change, field, value, filtered⟩ := eq_filterWith_of_answer answer
  obtain ⟨asked, working, states, after⟩ :=
    c.filterWith_of_empty filtered complete stateful (by rw [found]; rfl)
  have available : c.available asked.document State.noResults = true :=
    available_iff.mpr ⟨state, found, enabled, by simp [free]⟩
  rw [after]
  exact c.enterNoResults_activeState working (by rw [states]; exact stateful) available proceeds

/-- In a session of a run, a filtering that changes the active state leaves no record, in a complete
component, and it enters `no-results`, which is enabled, in a document in which its condition holds. -/
theorem run_enters_emptyResult (c : Controller) (doc : Document) (operations : List Operation) :
    let session := c.run (.start c.component doc) operations
    ∀ operation count, c.answer session operation = .matching count →
      (c.perform session operation).activeState ≠ session.activeState →
      count = some 0 ∧ c.component.pattern = .complete ∧
        ∃ document, ∃ state ∈ c.component.states,
          (c.perform session operation).activeState = some State.noResults ∧
            (c.perform session operation).entries =
              session.entries ++ [⟨document, session.activeState, State.noResults⟩] ∧
            state.id = State.noResults ∧ state.disabled = false ∧
            ∀ condition, state.condition = some condition →
              condition.comparison.holds (document.value condition.element)
                condition.expected = true := by
  intro session operation count answer moved
  obtain ⟨change, field, value, filtered⟩ := eq_filterWith_of_answer answer
  rcases c.filterWith_activeState session change field value with
    same | ⟨none, complete, document, active, entries⟩
  · rw [filtered] at same
    exact absurd same moved
  · rw [filtered] at none active entries
    -- Every entry of a run found its state available, the last one included.
    obtain ⟨-, ⟨last, path, -⟩, -⟩ := c.run_tracked doc (operations ++ [operation])
    rw [run_snoc] at path
    obtain ⟨-, available⟩ := path.of_mem ⟨document, session.activeState, State.noResults⟩
      (by rw [entries]; exact List.mem_concat_self)
    obtain ⟨state, found, enabled, holds⟩ := available_iff.mp available
    obtain ⟨declared, same⟩ := mem_states_of_state? found
    exact ⟨none, complete, document, state, declared, active, entries, same, enabled, holds⟩

/-- In a complete component with a state `no-results` that is enabled and has no condition, a filtering
that leaves no record leaves that state active, if no hook cancels a change of states. Filtering never
changes the active state of a component that is not complete, or where that state is missing or disabled.
With a condition on it, filtering changes the active state only if no record is left, and only by entering
`no-results` in a document in which the condition holds. -/
theorem run_emptyResult (c : Controller) (doc : Document) (operations : List Operation) :
    let session := c.run (.start c.component doc) operations
    (c.component.pattern = .complete →
      (∃ state ∈ c.component.states, state.id = State.noResults ∧ state.disabled = false ∧
        state.condition = none) →
      (∀ earlier call, call.point = .beforeStateChange →
        c.hooks.respond earlier call ≠ .cancel) →
      session.lifecycle = .ready →
      ∀ operation, c.answer session operation = .matching (some 0) →
        (c.perform session operation).activeState = some State.noResults) ∧
    (∀ operation count, c.answer session operation = .matching count →
      (c.component.pattern ≠ .complete ∨
        ∀ state ∈ c.component.states, state.id = State.noResults → state.disabled = true) →
      (c.perform session operation).activeState = session.activeState) ∧
    ∀ operation count, c.answer session operation = .matching count →
      (c.perform session operation).activeState ≠ session.activeState →
      count = some 0 ∧ ∃ document, ∃ state ∈ c.component.states,
        (c.perform session operation).activeState = some State.noResults ∧
          (c.perform session operation).entries =
            session.entries ++ [⟨document, session.activeState, State.noResults⟩] ∧
          state.id = State.noResults ∧ ∀ condition, state.condition = some condition →
            condition.comparison.holds (document.value condition.element)
              condition.expected = true := by
  refine ⟨?_, ?_, ?_⟩
  · exact c.run_shows_emptyResult doc operations
  · intro operation count answer unfit
    by_contra moved
    obtain ⟨-, complete, -, state, declared, -, -, same, enabled, -⟩ :=
      c.run_enters_emptyResult doc operations operation count answer moved
    rcases unfit with other | disabled
    · exact other complete
    · exact absurd (disabled state declared same) (by rw [enabled]; decide)
  · intro operation count answer moved
    obtain ⟨none, -, document, state, declared, active, entries, same, -, holds⟩ :=
      c.run_enters_emptyResult doc operations operation count answer moved
    exact ⟨none, document, state, declared, active, entries, same, holds⟩

/-- One record, with a state for empty results that can be guarded: it is then entered only while the box
is empty. -/
def crew (guarded : Bool) : Controller where
  component :=
    { id := "crew"
      inputs :=
        ⟨some [.ofId "list" "List",
            { State.ofId State.noResults "Nothing" with
              condition := if guarded then some ⟨"box", .isEmpty, .null⟩ else none }],
          some ⟨[[("name", .string "Ada")]], [.ofKind .text "name"], .standard⟩,
          some [.showWhen "box" .checked .null "note"]⟩
      options := .standard
      accepted := by cases guarded <;> decide +kernel }
  hooks := .none
  loader := .preloaded
  stateFilters := .empty

/-- The start of `crew` on its scaffold. -/
def crewStarted (guarded : Bool) : Session :=
  (crew guarded).run (.start (crew guarded).component (.scaffold (crew guarded).component)) [.init]

/-- A search that finds nobody. -/
def searchNobody : Operation := .updateFilter FilterSet.searchField (.string "nobody")

/-- Nobody is found, guarded or not. -/
theorem crew_answer (guarded : Bool) :
    (crew guarded).answer (crewStarted guarded) searchNobody = .matching (some 0) := by
  have none : ((crew guarded).updateFilter (crewStarted guarded) FilterSet.searchField
      (.string "nobody")).2 = some 0 := by
    cases guarded <;> decide +kernel
  exact congrArg Answer.matching none

/-- The search leads `crew` to its unguarded state for empty results. -/
theorem run_emptyResult_crew :
    (crew false).component.pattern = .complete ∧
      (crewStarted false).lifecycle = .ready ∧
      (crewStarted false).activeState = some "list" ∧
      (crew false).answer (crewStarted false) searchNobody = .matching (some 0) ∧
      ((crew false).perform (crewStarted false) searchNobody).activeState =
        some State.noResults := by
  have complete : (crew false).component.pattern = .complete := by decide +kernel
  have ready : (crewStarted false).lifecycle = .ready := by decide +kernel
  refine ⟨complete, ready, by decide +kernel, crew_answer false, ?_⟩
  obtain ⟨shown, -, -⟩ :=
    (crew false).run_emptyResult (.scaffold (crew false).component) [.init]
  refine shown complete ⟨_, List.mem_cons_of_mem _ (List.mem_singleton_self _), rfl, rfl, rfl⟩ ?_
    ready searchNobody (crew_answer false)
  intro _ _ _ cancelled
  cases cancelled

/-- A state for empty results that is guarded is entered as well, where its condition holds. -/
theorem guarded_emptyResult :
    ¬ ∀ (c : Controller) (doc : Document) (operations : List Operation),
      let session := c.run (.start c.component doc) operations
      let shows := c.component.pattern = .complete ∧
        ∃ state ∈ c.component.states, state.id = State.noResults ∧ state.disabled = false ∧
          state.condition = none
      (shows →
        (∀ earlier call, call.point = .beforeStateChange →
          c.hooks.respond earlier call ≠ .cancel) →
        session.lifecycle = .ready →
        ∀ operation, c.answer session operation = .matching (some 0) →
          (c.perform session operation).activeState = some State.noResults) ∧
      (¬ shows → ∀ operation count, c.answer session operation = .matching count →
        (c.perform session operation).activeState = session.activeState) := by
  intro claimed
  obtain ⟨-, unchanged⟩ :=
    claimed (crew true) (.scaffold (crew true).component) [.init]
  have stays := unchanged (by decide +kernel) searchNobody (some 0) (crew_answer true)
  have moved : ((crew true).perform (crewStarted true) searchNobody).activeState ≠
      (crewStarted true).activeState := by
    decide +kernel
  exact moved stays

end Controller

end LiveMarkup

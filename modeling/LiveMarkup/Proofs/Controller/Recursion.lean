import LiveMarkup.Proofs.Controller.Fallback

/-!
# Switching and filtering call each other

Entering a state repeats the filters kept for it, filters that leave no record ask for the state
`no-results`, and that request is a switch again: nothing gets smaller on the way. `switchWithin`,
`stateFiltersWithin` and `afterFilterWithin` are this recursion as it stands, with `none` where more calls
are nested than allowed. The second request finds `no-results` active, whatever the hooks and the filters
do, so seven calls are enough for every switch, and it is the one of two layers (`switchWithin_eq`). Each
layer reports at most one change of states (`switchWith_reports`), which bounds what a call reports
(`switching_ends`).
-/

set_option autoImplicit false

namespace LiveMarkup

namespace Controller

/-- A session behind the report of a filtering and the call of its hook. -/
def filterReported (c : Controller) (session : Session) (field value : Json) (visible : Nat) :
    Session :=
  let total := ((session.data.bind fun _ => c.component.source?).map fun s => s.items.length).getD 0
  (c.callHook
    (session.notify "filter" [("visible", Json.ofNat visible), ("total", Json.ofNat total)])
    .afterFilter
    [("field", field), ("value", value), ("visible", Json.ofNat visible),
      ("total", Json.ofNat total)]).1

/-- Whether a filtering that leaves this many records asks for the state `no-results`. -/
def AsksNoResults (c : Controller) (session : Session) (visible : Nat) : Prop :=
  visible = 0 ∧ c.component.pattern = .complete ∧ session.states.isSome = true ∧
    (c.state? State.noResults).isSome = true

instance (c : Controller) (session : Session) (visible : Nat) :
    Decidable (c.AsksNoResults session visible) :=
  inferInstanceAs (Decidable (_ ∧ _ ∧ _ ∧ _))

mutual

/-- Enters a state, if no more calls than these are nested for it. -/
def switchWithin (c : Controller) : Nat → Session → String → Option (Session × SwitchOutcome)
  | 0, _, _ => none
  | depth + 1, session, id =>
    match session.states with
    | none => some (session, .ignored)
    | some view =>
      if ¬(session.lifecycle = .ready ∨ session.lifecycle = .initializing) then
        some (session, .ignored)
      else if view.active = some id ∨ !c.available session.document id then some (session, .ignored)
      else
        let context := switchContext view.active id
        let called := c.callHook session .beforeStateChange context
        if !called.2 then some (called.1, .cancelled)
        else do
          let session ← c.stateFiltersWithin depth (c.enter called.1 view.active id) id
          return ((c.callHook session .afterStateChange context).1, .switched view.active id)

/-- Repeats the filter inputs kept for a state, if no more calls than these are nested for it. -/
def stateFiltersWithin (c : Controller) : Nat → Session → String → Option Session
  | 0, _, _ => none
  | depth + 1, session, id =>
    match c.stateFilters.find? id, session.data, c.component.source? with
    | some updates, some view, some source =>
      let filtered := applyFilters source (DataView.inputs view.filters updates) session
      c.afterFilterWithin depth filtered.1 .null (.object updates) filtered.2
    | _, _, _ => some session

/-- What follows on filtering, if no more calls than these are nested for it. -/
def afterFilterWithin (c : Controller) : Nat → Session → Json → Json → Nat → Option Session
  | 0, _, _, _, _ => none
  | depth + 1, session, field, value, visible =>
    let session := c.filterReported session field value visible
    if c.AsksNoResults session visible then do
      let switched ← c.switchWithin depth session State.noResults
      return switched.1
    else some session

end

/-- Applies new filters to the data, if no more calls than these are nested for what follows. -/
def filterWithin (c : Controller) (depth : Nat) (session : Session)
    (change : FilterSet → FilterSet) (field value : Json) : Option (Session × Option Nat) :=
  match session.lifecycle, session.data, c.component.source? with
  | .ready, some view, some source =>
    let filtered := applyFilters source (change view.filters) session
    (c.afterFilterWithin depth filtered.1 field value filtered.2).map fun after =>
      (after, some filtered.2)
  | _, _, _ => some (session, none)

theorem afterFilter_eq (c : Controller) (onEmpty : Session → Session) (session : Session)
    (field value : Json) (visible : Nat) :
    c.afterFilter onEmpty session field value visible =
      if c.AsksNoResults (c.filterReported session field value visible) visible then
        onEmpty (c.filterReported session field value visible)
      else c.filterReported session field value visible := rfl

/-- The report of a filtering and the call of its hook are all that is new behind it. -/
theorem filterReported_eq (c : Controller) (session : Session) (field value : Json)
    (visible : Nat) :
    ∃ detail calls, c.filterReported session field value visible =
      { session.notify "filter" detail with calls := calls } := by
  unfold filterReported
  generalize Option.getD _ 0 = total
  obtain ⟨calls, hcalls⟩ := c.callHook_eq
    (session.notify "filter" [("visible", Json.ofNat visible), ("total", Json.ofNat total)])
    .afterFilter [("field", field), ("value", value), ("visible", Json.ofNat visible),
      ("total", Json.ofNat total)]
  exact ⟨_, calls, hcalls⟩

/-! ## Every switch comes to its end -/

section Within

variable {c : Controller} {onEmpty : Session → Session} {states : Option StatesView} {depth : Nat}

/-- If the requests that come up while these states are active come to their end, so does what follows
on a filtering, with one more call. -/
theorem afterFilterWithin_succ
    (ends : ∀ session, session.states = states →
      (c.switchWithin depth session State.noResults).map Prod.fst = some (onEmpty session))
    {session : Session} (active : session.states = states) (field value : Json) (visible : Nat) :
    c.afterFilterWithin (depth + 1) session field value visible =
      some (c.afterFilter onEmpty session field value visible) := by
  rw [afterFilterWithin, afterFilter_eq]
  obtain ⟨detail, calls, reported⟩ := c.filterReported_eq session field value visible
  have still : (c.filterReported session field value visible).states = states := by
    rw [reported]
    exact active
  split
  · rw [← ends _ still, Option.map_eq_bind]
    rfl
  · rfl

theorem stateFiltersWithin_add_two
    (ends : ∀ session, session.states = states →
      (c.switchWithin depth session State.noResults).map Prod.fst = some (onEmpty session))
    {session : Session} (active : session.states = states) (id : String) :
    c.stateFiltersWithin (depth + 2) session id = some (c.applyStateFilters onEmpty session id) := by
  rw [stateFiltersWithin, applyStateFilters]
  cases c.stateFilters.find? id with
  | none => rfl
  | some updates =>
    cases session.data with
    | none => rfl
    | some view =>
      cases c.component.source? with
      | none => rfl
      | some source =>
        have filtered : (applyFilters source (DataView.inputs view.filters updates)
            session).1.states = states := active
        exact afterFilterWithin_succ ends filtered _ _ _

/-- A switch comes to its end if the requests do that come up behind it, when its state is active. -/
theorem switchWithin_add_three {id : String}
    (ends : ∀ session, session.states = some ⟨some id⟩ →
      (c.switchWithin depth session State.noResults).map Prod.fst = some (onEmpty session))
    (session : Session) :
    c.switchWithin (depth + 3) session id = some (c.switchWith onEmpty session id) := by
  rw [switchWithin, switchWith]
  cases session.states with
  | none => rfl
  | some view =>
    simp only
    split
    · rfl
    split
    · rfl
    split
    · rfl
    · obtain ⟨entered, -⟩ := c.enter_facts
        (c.callHook session .beforeStateChange (switchContext view.active id)).1 view.active id
      rw [stateFiltersWithin_add_two ends entered]
      rfl

end Within

section Ends

variable (c : Controller) (depth : Nat) (session : Session)

/-- A request that finds `no-results` active is ignored. -/
theorem switchWithin_of_active {id : String} (active : session.states = some ⟨some id⟩) :
    c.switchWithin (depth + 1) session id = some (session, .ignored) := by
  rw [switchWithin, active]
  simp

/-- A request comes to its end, since the next one would find `no-results` active. -/
theorem switchWithin_noResults :
    (c.switchWithin (depth + 4) session State.noResults).map Prod.fst =
      some (c.enterNoResults session) := by
  have ends : ∀ session : Session, session.states = some ⟨some State.noResults⟩ →
      (c.switchWithin (depth + 1) session State.noResults).map Prod.fst = some (id session) := by
    intro session active
    rw [c.switchWithin_of_active depth session active]
    rfl
  rw [switchWithin_add_three ends]
  rfl

/-- The recursion comes to its end, and to what the two layers come to. -/
theorem switchWithin_eq (id : String) :
    c.switchWithin (depth + 7) session id = some (c.switchTo session id) :=
  switchWithin_add_three (fun session _ => c.switchWithin_noResults depth session) session

theorem afterFilterWithin_eq (field value : Json) (visible : Nat) :
    c.afterFilterWithin (depth + 5) session field value visible =
      some (c.afterFilter c.enterNoResults session field value visible) :=
  afterFilterWithin_succ (fun session _ => c.switchWithin_noResults depth session) rfl field value
    visible

theorem filterWithin_eq (change : FilterSet → FilterSet) (field value : Json) :
    c.filterWithin (depth + 5) session change field value =
      some (c.filterWith session change field value) := by
  rw [filterWithin, filterWith]
  cases session.lifecycle with
  | ready =>
    cases session.data with
    | none => rfl
    | some view =>
      cases c.component.source? with
      | none => rfl
      | some source =>
        simp only [afterFilterWithin_eq]
        rfl
  | _ => rfl

end Ends

/-! ## Reports of changes -/

/-- The report of a change of states. -/
def changeReport (previous : Option String) (next : String) : Notification :=
  ⟨"state-change", .object (switchContext previous next)⟩

/-- Between two sessions the states stay, and no change of them is reported. -/
def Unchanged (before after : Session) : Prop :=
  after.states = before.states ∧ after.reports "state-change" = before.reports "state-change"

theorem Unchanged.activeState_eq {before after : Session} (h : Unchanged before after) :
    after.activeState = before.activeState := by
  rw [Session.activeState, h.1, Session.activeState]

theorem filterReported_unchanged (c : Controller) (session : Session) (field value : Json)
    (visible : Nat) : Unchanged session (c.filterReported session field value visible) := by
  obtain ⟨detail, calls, reported⟩ := c.filterReported_eq session field value visible
  rw [reported]
  exact ⟨rfl, Session.reports_append rfl (by simp)⟩

/-- A filtering reports no change of states, unless it asks for `no-results` in the end. -/
theorem afterFilter_unchanged (c : Controller) (onEmpty : Session → Session) (session : Session)
    (field value : Json) (visible : Nat) :
    ∃ reached, Unchanged session reached ∧
      (c.afterFilter onEmpty session field value visible = reached ∨
        c.afterFilter onEmpty session field value visible = onEmpty reached) := by
  refine ⟨_, c.filterReported_unchanged session field value visible, ?_⟩
  rw [afterFilter_eq]
  split
  · exact .inr rfl
  · exact .inl rfl

theorem applyStateFilters_unchanged (c : Controller) (onEmpty : Session → Session)
    (session : Session) (id : String) :
    ∃ reached, Unchanged session reached ∧
      (c.applyStateFilters onEmpty session id = reached ∨
        c.applyStateFilters onEmpty session id = onEmpty reached) := by
  unfold applyStateFilters
  split
  · rename_i updates view source kept data records
    exact c.afterFilter_unchanged onEmpty
      (applyFilters source (DataView.inputs view.filters updates) session).1 _ _ _
  · exact ⟨session, ⟨rfl, rfl⟩, .inl rfl⟩

/-- A switch reports nothing, or it reports its change and then what a request for `no-results` behind
it reports, if there is one. -/
theorem switchWith_reports (c : Controller) (onEmpty : Session → Session) (session : Session)
    (id : String) :
    (c.switchWith onEmpty session id).1.reports "state-change" = session.reports "state-change" ∨
    ∃ reached, session.activeState ≠ some id ∧ reached.activeState = some id ∧
      reached.reports "state-change" =
        session.reports "state-change" ++ [changeReport session.activeState id] ∧
      ((c.switchWith onEmpty session id).1.reports "state-change" =
          reached.reports "state-change" ∨
        (c.switchWith onEmpty session id).1.reports "state-change" =
          (onEmpty reached).reports "state-change") := by
  unfold switchWith
  split
  · exact .inl rfl
  rename_i view states
  have active : session.activeState = view.active := by rw [Session.activeState, states]; rfl
  split
  · exact .inl rfl
  split
  · exact .inl rfl
  rename_i enterable
  obtain ⟨calls, hcalls⟩ := c.callHook_eq session .beforeStateChange (switchContext view.active id)
  simp only [hcalls]
  split
  · exact .inl rfl
  obtain ⟨document, entering, entered⟩ := c.enter_eq { session with calls := calls } view.active id
  obtain ⟨reached, unchanged, left⟩ := c.applyStateFilters_unchanged onEmpty
    (c.enter { session with calls := calls } view.active id) id
  obtain ⟨done, hdone⟩ := c.callHook_eq
    (c.applyStateFilters onEmpty (c.enter { session with calls := calls } view.active id) id)
    .afterStateChange (switchContext view.active id)
  rw [hdone]
  refine .inr ⟨reached, ?_, ?_, ?_, ?_⟩
  · rw [active]
    exact fun same => enterable (.inl same)
  · rw [unchanged.activeState_eq, entered]
    rfl
  · have added : (c.enter { session with calls := calls } view.active id).notifications =
        session.notifications ++ [changeReport view.active id] := by
      rw [entered]
      rfl
    have reported := Session.reports_concat added
    rw [unchanged.2, active]
    exact reported
  · rcases left with still | asked
    · exact .inl (congrArg (fun left => left.reports "state-change") still)
    · exact .inr (congrArg (fun left => left.reports "state-change") asked)

/-- A request reports its change at most, and none when it finds `no-results` active. -/
theorem enterNoResults_reports (c : Controller) (session : Session) :
    (c.enterNoResults session).reports "state-change" = session.reports "state-change" ∨
      session.activeState ≠ some State.noResults ∧
        (c.enterNoResults session).reports "state-change" =
          session.reports "state-change" ++
            [changeReport session.activeState State.noResults] := by
  unfold enterNoResults
  rcases c.switchWith_reports id session State.noResults with
    still | ⟨reached, inactive, -, changed, left | left⟩
  · exact .inl still
  · exact .inr ⟨inactive, left.trans changed⟩
  · exact .inr ⟨inactive, left.trans changed⟩

/-- A switch reports its own change, then perhaps that to `no-results`, and no others. -/
theorem switchTo_reports (c : Controller) (session : Session) (id : String) :
    ∃ added, (c.switchTo session id).1.reports "state-change" =
        session.reports "state-change" ++ added ∧
      (added = [] ∨ added = [changeReport session.activeState id] ∨
        id ≠ State.noResults ∧ added =
          [changeReport session.activeState id, changeReport (some id) State.noResults]) := by
  rcases c.switchWith_reports c.enterNoResults session id with
    still | ⟨reached, -, active, changed, left | left⟩
  · exact ⟨[], by rw [List.append_nil]; exact still, .inl rfl⟩
  · exact ⟨_, left.trans changed, .inr (.inl rfl)⟩
  · rcases c.enterNoResults_reports reached with ignored | ⟨inactive, fallen⟩
    · exact ⟨_, (left.trans ignored).trans changed, .inr (.inl rfl)⟩
    · rw [active] at inactive fallen
      refine ⟨_, ?_, .inr (.inr ⟨fun same => inactive (congrArg some same), rfl⟩)⟩
      calc (c.switchTo session id).1.reports "state-change"
        _ = reached.reports "state-change" ++ [changeReport (some id) State.noResults] :=
          left.trans fallen
        _ = _ := by rw [changed, List.append_assoc]; rfl

/-- A filtering reports one change at most, that to `no-results`. -/
theorem filterWith_reports (c : Controller) (session : Session) (change : FilterSet → FilterSet)
    (field value : Json) :
    ∃ added, (c.filterWith session change field value).1.reports "state-change" =
        session.reports "state-change" ++ added ∧
      (added = [] ∨ added = [changeReport session.activeState State.noResults]) := by
  unfold filterWith
  split
  · rename_i view source ready data records
    obtain ⟨reached, unchanged, left⟩ := c.afterFilter_unchanged c.enterNoResults
      (applyFilters source (change view.filters) session).1 field value
      (applyFilters source (change view.filters) session).2
    have before : reached.reports "state-change" = session.reports "state-change" := unchanged.2
    have active : reached.activeState = session.activeState := unchanged.activeState_eq
    rcases left with still | asked
    · exact ⟨[], by rw [List.append_nil, ← before, ← still], .inl rfl⟩
    · rcases c.enterNoResults_reports reached with ignored | ⟨-, fallen⟩
      · exact ⟨[], by rw [List.append_nil, ← before, ← ignored, ← asked], .inl rfl⟩
      · exact ⟨_, by rw [← active, ← before, ← fallen, ← asked], .inr rfl⟩
  · exact ⟨[], (List.append_nil _).symm, .inl rfl⟩

/-- Switching and filtering call each other and come to their end all the same, in every session: at most
seven calls are nested for a switch, and at most five for what follows on a filtering. A switch reports the
change to its own state, then perhaps that to `no-results`, and no others; an input of a filter and a
clearing report at most the change to `no-results`. -/
theorem switching_ends (c : Controller) (session : Session) :
    (∀ id, (∀ depth, 7 ≤ depth → c.switchWithin depth session id = some (c.switchTo session id)) ∧
      ∃ added, (c.switchTo session id).1.reports "state-change" =
          session.reports "state-change" ++ added ∧
        (added = [] ∨ added = [changeReport session.activeState id] ∨
          id ≠ State.noResults ∧ added =
            [changeReport session.activeState id, changeReport (some id) State.noResults])) ∧
    (∀ field raw,
      (∀ depth, 5 ≤ depth →
        c.filterWithin depth session (fun filters => filters.update field raw) (.string field) raw =
          some (c.updateFilter session field raw)) ∧
        ∃ added, (c.updateFilter session field raw).1.reports "state-change" =
            session.reports "state-change" ++ added ∧
          (added = [] ∨ added = [changeReport session.activeState State.noResults])) ∧
    (∀ depth, 5 ≤ depth →
      c.filterWithin depth session FilterSet.clear .null .null = some (c.clearFilters session)) ∧
      ∃ added, (c.clearFilters session).1.reports "state-change" =
          session.reports "state-change" ++ added ∧
        (added = [] ∨ added = [changeReport session.activeState State.noResults]) := by
  have filtering : ∀ change field value depth, 5 ≤ depth →
      c.filterWithin depth session change field value =
        some (c.filterWith session change field value) := by
    intro change field value depth enough
    obtain ⟨more, rfl⟩ := Nat.exists_eq_add_of_le' enough
    exact c.filterWithin_eq more session change field value
  refine ⟨fun id => ⟨?_, c.switchTo_reports session id⟩, ?_, ?_, ?_⟩
  · intro depth enough
    obtain ⟨more, rfl⟩ := Nat.exists_eq_add_of_le' enough
    exact c.switchWithin_eq more session id
  · intro field raw
    exact ⟨filtering _ _ _, c.filterWith_reports session _ _ _⟩
  · exact filtering _ _ _
  · exact c.filterWith_reports session _ _ _

end Controller

end LiveMarkup

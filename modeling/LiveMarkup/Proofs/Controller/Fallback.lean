import LiveMarkup.Proofs.Controller.Run

/-!
# What filtering and switching come to

Filtering that leaves no record may enter the state `no-results`, and entering a state repeats the
filters kept for it. Here stands once what each of these operations can come to, besides reports and
hook calls: `switchWith_cases` for entering a state, `applyStateFilters_cases` for the filters kept
for it, and `filterWith_fellBack` for filtering with all that follows on it.
-/

set_option autoImplicit false

namespace LiveMarkup

namespace DataView

/-- Rows are admitted by their attributes, which bringing a document in line leaves alone. -/
theorem admits_render (view : DataView) (filters : FilterSet) (source : DataSource)
    (doc : Document) (index : Nat) :
    admits filters source (view.render source doc) index = admits filters source doc index := by
  unfold admits render
  split
  · have rows : ∀ (shown : List Nat) (doc : Document),
        ((shown.foldl (fun doc i =>
          doc.setVisible (rowId source.component i) (view.matched.contains i)) doc).find?
            (rowId source.component index)).map Element.attributes =
          (doc.find? (rowId source.component index)).map Element.attributes := by
      intro shown
      induction shown with
      | nil => exact fun _ => rfl
      | cons i rest ih =>
        intro doc
        rw [List.foldl_cons, ih, Document.setVisible, StringMap.find?_modify]
        split
        · rw [Option.map_map]
          rfl
        · rfl
    have same := rows (List.range source.items.length) doc
    generalize (List.range source.items.length).foldl _ doc = rendered at same ⊢
    cases found : doc.find? (rowId source.component index) with
    | none =>
      rw [found, Option.map_none, Option.map_eq_none_iff] at same
      rw [same]
    | some row =>
      rw [found, Option.map_some] at same
      obtain ⟨shown, present, attributes⟩ := Option.map_eq_some_iff.mp same
      rw [present]
      simp only [attributes]
  · rfl

theorem refilter_render (view : DataView) (filters : FilterSet) (source : DataSource)
    (doc : Document) :
    refilter filters source (view.render source doc) = refilter filters source doc := by
  have same : admits filters source (view.render source doc) = admits filters source doc :=
    funext (view.admits_render filters source doc)
  rw [refilter, refilter, same]

end DataView

namespace Controller

/-! ## Entering a state -/

/-- Entering a state adds to the states entered and leaves the data alone. -/
theorem enter_facts (c : Controller) (session : Session) (previous : Option String) (id : String) :
    (c.enter session previous id).states = some ⟨some id⟩ ∧
      (c.enter session previous id).entries =
        session.entries ++ [⟨session.document, previous, id⟩] ∧
      (c.enter session previous id).data = session.data := by
  obtain ⟨document, calls, entered⟩ := c.enter_eq session previous id
  rw [entered]
  exact ⟨rfl, rfl, rfl⟩

/-- Switching leaves everything but the calls of hooks alone, or it enters the state and repeats its
filters. -/
theorem switchWith_cases (c : Controller) (onEmpty : Session → Session) (session : Session)
    (id : String) :
    (∃ calls, (c.switchWith onEmpty session id).1 = { session with calls := calls } ∧
      ∀ previous next, (c.switchWith onEmpty session id).2 ≠ .switched previous next) ∨
    ∃ entered calls, session.states.isSome = true ∧ session.activeState ≠ some id ∧
      (c.switchWith onEmpty session id).2 = .switched session.activeState id ∧
      entered.states = some ⟨some id⟩ ∧
      entered.entries = session.entries ++ [⟨session.document, session.activeState, id⟩] ∧
      entered.data = session.data ∧
      (c.switchWith onEmpty session id).1 =
        { c.applyStateFilters onEmpty entered id with calls := calls } := by
  unfold switchWith
  split
  · exact .inl ⟨session.calls, rfl, by simp⟩
  · rename_i view states
    have active : session.activeState = view.active := by rw [Session.activeState, states]; rfl
    split
    · exact .inl ⟨session.calls, rfl, by simp⟩
    · split
      · exact .inl ⟨session.calls, rfl, by simp⟩
      · rename_i enterable
        obtain ⟨calls, hcalls⟩ := c.callHook_eq session .beforeStateChange
          (switchContext view.active id)
        simp only [hcalls]
        split
        · exact .inl ⟨calls, rfl, by simp⟩
        · obtain ⟨hstates, hentries, hdata⟩ :=
            c.enter_facts { session with calls := calls } view.active id
          generalize c.enter { session with calls := calls } view.active id = entered
            at hstates hentries hdata ⊢
          obtain ⟨done, hdone⟩ := c.callHook_eq (c.applyStateFilters onEmpty entered id)
            .afterStateChange (switchContext view.active id)
          rw [hdone, states, active]
          exact .inr ⟨entered, done, rfl, fun h => enterable (.inl h), rfl, hstates, hentries,
            hdata, rfl⟩

/-- Filtering reports and calls its hook; what is left to do, it does when no record is left, if the
component is complete and declares the state for that. -/
theorem afterFilter_cases (c : Controller) (onEmpty : Session → Session) (session : Session)
    (field value : Json) (visible : Nat) :
    ∃ notifications calls,
      c.afterFilter onEmpty session field value visible =
          { session with notifications := notifications, calls := calls } ∨
        visible = 0 ∧ c.component.pattern = .complete ∧
          c.afterFilter onEmpty session field value visible =
            onEmpty { session with notifications := notifications, calls := calls } := by
  simp only [afterFilter]
  generalize Option.getD _ 0 = total
  obtain ⟨calls, hcalls⟩ := c.callHook_eq
    (session.notify "filter" [("visible", Json.ofNat visible), ("total", Json.ofNat total)])
    .afterFilter [("field", field), ("value", value), ("visible", Json.ofNat visible),
      ("total", Json.ofNat total)]
  rw [hcalls]
  refine ⟨session.notifications ++
    [⟨"filter", .object [("visible", Json.ofNat visible), ("total", Json.ofNat total)]⟩], calls, ?_⟩
  split
  · rename_i empty
    exact .inr ⟨empty.1, empty.2.1, rfl⟩
  · exact .inl rfl

/-- Entering a state changes nothing more without filters for it or without data, and else filters
anew by them. -/
theorem applyStateFilters_cases (c : Controller) (onEmpty : Session → Session) (session : Session)
    (id : String) :
    ((∀ updates, c.stateFilters.find? id = some updates →
        session.data = none ∨ c.component.source? = none) ∧
      c.applyStateFilters onEmpty session id = session) ∨
    ∃ updates view source, c.stateFilters.find? id = some updates ∧ session.data = some view ∧
      c.component.source? = some source ∧
      c.applyStateFilters onEmpty session id =
        c.afterFilter onEmpty
          (applyFilters source (DataView.inputs view.filters updates) session).1 .null
          (.object updates)
          (DataView.refilter (DataView.inputs view.filters updates) source
            session.document).visibleCount := by
  unfold applyStateFilters
  split
  · rename_i updates view source kept data records
    exact .inr ⟨updates, view, source, kept, data, records, rfl⟩
  · rename_i idle
    refine .inl ⟨?_, rfl⟩
    intro updates kept
    by_contra present
    rw [not_or] at present
    obtain ⟨view, data⟩ := Option.ne_none_iff_exists'.mp present.1
    obtain ⟨source, records⟩ := Option.ne_none_iff_exists'.mp present.2
    exact idle updates view source kept data records

/-! ## Falling back -/

/-- What becomes of a session whose view leaves no record: it stays as it is, or it enters the state
`no-results` and filters anew if filters are kept for that state. -/
inductive FellBack (c : Controller) (source : DataSource) (view : DataView) (session : Session) :
    Session → Prop where
  | stayed {after : Session} (entries : after.entries = session.entries)
      (states : after.states = session.states) (data : after.data = some view) :
      FellBack c source view session after
  | entered {after : Session} (inactive : session.activeState ≠ some State.noResults)
      (entries : after.entries =
        session.entries ++ [⟨session.document, session.activeState, State.noResults⟩])
      (states : after.states = some ⟨some State.noResults⟩)
      (data : after.data = some ((c.stateFilters.find? State.noResults).elim view fun updates =>
        DataView.refilter (DataView.inputs view.filters updates) source after.document)) :
      FellBack c source view session after

theorem enterNoResults_fellBack (c : Controller) {source : DataSource} {view : DataView}
    (session : Session) (data : session.data = some view)
    (records : c.component.source? = some source) :
    FellBack c source view session (c.enterNoResults session) := by
  unfold enterNoResults
  rcases c.switchWith_cases id session State.noResults with ⟨calls, stayed, -⟩ |
    ⟨entered, calls, -, inactive, -, states, entries, kept, switched⟩
  · rw [stayed]
    exact .stayed rfl rfl data
  · rw [data] at kept
    rw [switched]
    rcases c.applyStateFilters_cases id entered State.noResults with
      ⟨idle, unfiltered⟩ | ⟨updates, shown, source', found, hshown, hsource, filtered⟩
    · -- Data and records are there, so nothing to repeat means that no filters are kept.
      have none : c.stateFilters.find? State.noResults = none := by
        by_contra present
        obtain ⟨updates, found⟩ := Option.ne_none_iff_exists'.mp present
        rcases idle updates found with h | h
        · cases h.symm.trans kept
        · cases h.symm.trans records
      rw [unfiltered]
      refine .entered inactive entries states ?_
      rw [none]
      exact kept
    · obtain rfl : source' = source := Option.some.inj (hsource.symm.trans records)
      obtain rfl : shown = view := Option.some.inj (hshown.symm.trans kept)
      -- No state is entered from here, so whatever the count is, the filtered session is left.
      obtain ⟨notifications, calls, plain | ⟨-, -, plain⟩⟩ := c.afterFilter_cases id
        (applyFilters source' (DataView.inputs shown.filters updates) entered).1 .null
        (.object updates)
        (DataView.refilter (DataView.inputs shown.filters updates) source'
          entered.document).visibleCount
      all_goals
        rw [filtered, plain]
        refine .entered inactive entries states ?_
        rw [found]
        simp only [applyFilters, id_eq, Option.elim_some, DataView.refilter_render]

/-- Filtering leaves the records that pass, unless there are none and a complete component falls
back. -/
theorem afterFilter_fellBack (c : Controller) {source : DataSource} {view : DataView}
    (session : Session) (data : session.data = some view)
    (records : c.component.source? = some source) (field value : Json) (visible : Nat) :
    FellBack c source view session
        (c.afterFilter c.enterNoResults session field value visible) ∧
      (visible = 0 ∧ c.component.pattern = .complete ∨
        (c.afterFilter c.enterNoResults session field value visible).entries =
          session.entries) := by
  obtain ⟨notifications, calls, plain | ⟨empty, complete, fallen⟩⟩ :=
    c.afterFilter_cases c.enterNoResults session field value visible
  · rw [plain]
    exact ⟨.stayed rfl rfl data, .inr rfl⟩
  · rw [fallen]
    refine ⟨?_, .inl ⟨empty, complete⟩⟩
    have fellBack := c.enterNoResults_fellBack
      { session with notifications := notifications, calls := calls } data records
    generalize c.enterNoResults _ = after at fellBack ⊢
    cases fellBack with
    | stayed entries states data => exact .stayed entries states data
    | entered inactive entries states data => exact .entered inactive entries states data

/-- An answered filtering has shown the records that pass the changed filters, before what followed
on it. -/
theorem filterWith_fellBack (c : Controller) {session after : Session}
    {change : FilterSet → FilterSet} {field value : Json} {visible : Nat}
    (answer : c.filterWith session change field value = (after, some visible)) :
    ∃ view source filtered, session.data = some view ∧ c.component.source? = some source ∧
      filtered = DataView.refilter (change view.filters) source session.document ∧
      visible = filtered.visibleCount ∧
      FellBack c source filtered
        { session with data := some filtered, document := filtered.render source session.document }
        after ∧
      (visible = 0 ∧ c.component.pattern = .complete ∨ after.entries = session.entries) := by
  unfold filterWith at answer
  split at answer
  · rename_i view source ready data records
    simp only [Prod.mk.injEq, Option.some.injEq] at answer
    obtain ⟨settled, counted⟩ := answer
    refine ⟨view, source, _, data, records, rfl, counted.symm, ?_⟩
    have fellBack := c.afterFilter_fellBack
      (applyFilters source (change view.filters) session).1 rfl records field value visible
    rw [counted] at settled
    rw [settled] at fellBack
    exact fellBack
  · simp at answer

end Controller

end LiveMarkup

import LiveMarkup.Proofs.Controller.Fallback
import Mathlib.Data.Prod.Basic

/-!
# What operations answer

Filtering answers how many records match, and switching which state it entered. Both are said of the
moment before the filters that follow on it: a complete component that falls back to the state
`no-results` may let records through again by the filters kept for that state, and a state whose own
filters leave no record is left again at once. The answers are those of the session that is left
exactly apart from these two cases, which `Refilled` and `MovedOn` describe.
-/

set_option autoImplicit false

namespace LiveMarkup

namespace Controller

/-- A complete component that `filters` left without records has fallen back, and the filters kept for
the state `no-results` let a record through again. -/
def Refilled (c : Controller) (filters : FilterSet) (before after : Session) : Prop :=
  c.component.pattern = .complete ∧ ∃ updates source document,
    c.stateFilters.find? State.noResults = some updates ∧ c.component.source? = some source ∧
    after.entries = before.entries ++ [⟨document, before.activeState, State.noResults⟩] ∧
    (DataView.refilter filters source document).visibleCount = 0 ∧
    (DataView.refilter (DataView.inputs filters updates) source after.document).visibleCount ≠ 0

/-- A complete component has entered the state `id`, was left without records by the filters kept for
that state, and has fallen back from it. -/
def MovedOn (c : Controller) (id : String) (before after : Session) : Prop :=
  c.component.pattern = .complete ∧ ∃ updates view source entry document,
    c.stateFilters.find? id = some updates ∧ before.data = some view ∧
    c.component.source? = some source ∧
    after.entries = before.entries ++ [entry, ⟨document, some id, State.noResults⟩] ∧
    (DataView.refilter (DataView.inputs view.filters updates) source document).visibleCount = 0

/-- Without an entry nothing is filled again. -/
theorem not_refilled_of_entries {c : Controller} {filters : FilterSet} {before after : Session}
    (still : after.entries = before.entries) : ¬c.Refilled filters before after := by
  rintro ⟨-, updates, source, document, -, -, entered, -, -⟩
  have more := congrArg List.length (still.symm.trans entered)
  simp at more

/-- With one entry nothing is left again. -/
theorem not_movedOn_of_entries {c : Controller} {id : String} {before after : Session}
    {entry : Entry} (once : after.entries = before.entries ++ [entry]) :
    ¬c.MovedOn id before after := by
  rintro ⟨-, updates, view, source, other, document, -, -, -, twice, -⟩
  have more := congrArg List.length (once.symm.trans twice)
  simp at more

/-- The answer to filtering is the count that is left, unless the component was filled again. -/
theorem filterWith_visibleCount_iff (c : Controller) {session after : Session}
    {change : FilterSet → FilterSet} {field value : Json} {visible : Nat}
    (answer : c.filterWith session change field value = (after, some visible)) :
    ∃ view, session.data = some view ∧
      (after.visibleCount = some visible ↔ ¬c.Refilled (change view.filters) session after) := by
  obtain ⟨view, source, filtered, data, records, shown, counted, fellBack, empty⟩ :=
    c.filterWith_fellBack answer
  refine ⟨view, data, ?_⟩
  have filters : filtered.filters = change view.filters := by rw [shown]; rfl
  cases fellBack with
  | stayed entries states left =>
    have same : after.visibleCount = some visible := by
      rw [Session.visibleCount, left, counted]
      rfl
    exact iff_of_true same (not_refilled_of_entries entries)
  | entered inactive entries states left =>
    obtain ⟨none, complete⟩ := empty.resolve_right (by simp [entries])
    have unfilled : (DataView.refilter (change view.filters) source
        (filtered.render source session.document)).visibleCount = 0 := by
      rw [DataView.refilter_render, ← shown, ← counted, none]
    rw [filters] at left
    cases kept : c.stateFilters.find? State.noResults with
    | none =>
      have same : after.visibleCount = some visible := by
        rw [Session.visibleCount, left, kept, counted]
        rfl
      refine iff_of_true same ?_
      rintro ⟨-, updates, -, -, found, -⟩
      cases kept.symm.trans found
    | some updates =>
      rw [kept, Option.elim_some] at left
      rw [none, Session.visibleCount, left, Option.map_some, Option.some.injEq]
      constructor
      · rintro still ⟨-, updates', source', document, found, hsource, -, -, refilled⟩
        obtain rfl : updates = updates' := Option.some.inj (kept.symm.trans found)
        obtain rfl : source = source' := Option.some.inj (records.symm.trans hsource)
        exact refilled still
      · intro notRefilled
        by_contra refilled
        exact notRefilled ⟨complete, updates, source, _, kept, records, entries, unfilled, refilled⟩

/-- The answer to switching is the state that is left active, unless the session moved on. -/
theorem switchTo_activeState_iff (c : Controller) {session after : Session} {id next : String}
    {previous : Option String}
    (answer : c.switchTo session id = (after, .switched previous next)) :
    next = id ∧ previous = session.activeState ∧
      (after.activeState = some next ↔ ¬c.MovedOn id session after) := by
  unfold switchTo at answer
  rcases c.switchWith_cases c.enterNoResults session id with ⟨calls, -, other⟩ |
    ⟨entered, calls, -, inactive, outcome, states, entries, data, switched⟩
  · exact absurd (congrArg Prod.snd answer) (other previous next)
  rw [answer] at outcome switched
  dsimp only at outcome switched
  obtain ⟨rfl, rfl⟩ := SwitchOutcome.switched.inj outcome
  refine ⟨rfl, rfl, ?_⟩
  have active : entered.activeState = some next := by rw [Session.activeState, states]; rfl
  -- A session that has entered `next` and nothing else is as the answer says.
  have settled : ∀ left : Session, left.states = entered.states → left.entries = entered.entries →
      (left.activeState = some next ↔ ¬c.MovedOn next session left) := fun left same once =>
    iff_of_true (by rw [Session.activeState, same]; exact active)
      (not_movedOn_of_entries (once.trans entries))
  rw [switched]
  rcases c.applyStateFilters_cases c.enterNoResults entered next with
    ⟨-, unfiltered⟩ | ⟨updates, view, source, found, shown, records, filtered⟩
  · rw [unfiltered]
    exact settled _ rfl rfl
  · rw [filtered]
    obtain ⟨fellBack, empty⟩ := c.afterFilter_fellBack
      (applyFilters source (DataView.inputs view.filters updates) entered).1 rfl records .null
      (.object updates) (DataView.refilter (DataView.inputs view.filters updates) source
        entered.document).visibleCount
    generalize c.afterFilter _ _ _ _ _ = left at fellBack empty ⊢
    cases fellBack with
    | stayed hentries hstates hdata => exact settled _ hstates hentries
    | entered other hentries hstates hdata =>
      obtain ⟨none, complete⟩ := empty.resolve_right (by simp [hentries])
      have fallen : left.activeState = some State.noResults := by
        rw [Session.activeState, hstates]
        rfl
      have differs : next ≠ State.noResults := by
        rintro rfl
        exact other active
      have twice : left.entries = session.entries ++
          [⟨session.document, session.activeState, next⟩,
            ⟨(DataView.refilter (DataView.inputs view.filters updates) source
              entered.document).render source entered.document, some next, State.noResults⟩] := by
        have still : (applyFilters source (DataView.inputs view.filters updates)
            entered).1.activeState = some next := active
        have before : (applyFilters source (DataView.inputs view.filters updates)
            entered).1.entries = entered.entries := rfl
        rw [hentries, still, before, entries, List.append_assoc]
        rfl
      rw [← DataView.refilter_render] at none
      refine iff_of_false ?_ (not_not_intro ⟨complete, updates, view, source, _, _, found,
        data.symm.trans shown, records, twice, none⟩)
      intro same
      exact differs (Option.some.inj (same.symm.trans fallen))

/-- The count that an input of a filter answers is the one that is left, and so is the count that
clearing answers, unless the component fell back and was filled again; the state that a switch names
is the one that is left active, unless the session moved on from it. -/
theorem answers_iff (c : Controller) (session : Session) :
    (∀ field raw after visible, c.updateFilter session field raw = (after, some visible) →
      ∃ view, session.data = some view ∧ (after.visibleCount = some visible ↔
        ¬c.Refilled (view.filters.update field raw) session after)) ∧
    (∀ after visible, c.clearFilters session = (after, some visible) →
      ∃ view, session.data = some view ∧ (after.visibleCount = some visible ↔
        ¬c.Refilled view.filters.clear session after)) ∧
    ∀ id after previous next, c.switchTo session id = (after, .switched previous next) →
      next = id ∧ previous = session.activeState ∧
        (after.activeState = some next ↔ ¬c.MovedOn id session after) := by
  refine ⟨?_, ?_, ?_⟩
  · intro field raw after visible answer
    exact c.filterWith_visibleCount_iff answer
  · intro after visible answer
    exact c.filterWith_visibleCount_iff answer
  · intro id after previous next answer
    exact c.switchTo_activeState_iff answer

/-- One record with a state for empty results, which forgets the search, and an archive, which searches
for what is not there. -/
def people : Controller where
  component :=
    { id := "people"
      inputs :=
        ⟨some [.ofId "list" "List", .ofId "archive" "Archive", .ofId State.noResults "Nothing"],
          some ⟨[[("name", .string "Ada")]], [.ofKind .text "name"], .standard⟩,
          some [.showWhen "box" .checked .null "note"]⟩
      options := .standard
      accepted := by decide +kernel }
  hooks := .none
  loader := .preloaded
  stateFilters := .ofList
    [("archive", [(FilterSet.searchField, .string "nobody")]),
      (State.noResults, [(FilterSet.searchField, .string "")])]

/-- The start of `people` on its scaffold. -/
def peopleStarted : Session :=
  people.run (.start people.component (.scaffold people.component)) [.init]

/-- A search that finds nobody, on `peopleStarted`. -/
def peopleSearched : Session × Option Nat :=
  people.updateFilter peopleStarted FilterSet.searchField (.string "nobody")

theorem peopleSearched_answer :
    peopleSearched = (peopleSearched.1, some 0) ∧ peopleSearched.1.visibleCount = some 1 := by
  have answer : peopleSearched.2 = some 0 ∧ peopleSearched.1.visibleCount = some 1 := by
    decide +kernel
  exact answer.imp_left Prod.snd_eq_iff.mp

/-- The archive entered, on `peopleStarted`. -/
def peopleArchived : Session × SwitchOutcome := people.switchTo peopleStarted "archive"

theorem peopleArchived_answer :
    peopleArchived = (peopleArchived.1, .switched (some "list") "archive") ∧
      peopleArchived.1.activeState = some State.noResults := by
  have answer : peopleArchived.2 = .switched (some "list") "archive" ∧
      peopleArchived.1.activeState = some State.noResults := by
    decide +kernel
  exact answer.imp_left Prod.snd_eq_iff.mp

/-- A search that finds nothing fills the list again, and the archive is left as it is entered. -/
theorem answers_iff_people :
    peopleSearched = (peopleSearched.1, some 0) ∧
      (∃ view, peopleStarted.data = some view ∧
        people.Refilled (view.filters.update FilterSet.searchField (.string "nobody")) peopleStarted
          peopleSearched.1) ∧
      peopleArchived = (peopleArchived.1, .switched (some "list") "archive") ∧
      people.MovedOn "archive" peopleStarted peopleArchived.1 := by
  obtain ⟨ofInput, -, ofSwitch⟩ := people.answers_iff peopleStarted
  obtain ⟨none, one⟩ := peopleSearched_answer
  obtain ⟨entered, fallen⟩ := peopleArchived_answer
  obtain ⟨view, data, exactly⟩ := ofInput FilterSet.searchField (.string "nobody") peopleSearched.1 0
    none
  obtain ⟨-, -, remains⟩ := ofSwitch "archive" peopleArchived.1 (some "list") "archive" entered
  rw [one] at exactly
  rw [fallen] at remains
  refine ⟨none, ⟨view, data, ?_⟩, entered, ?_⟩
  · by_contra unfilled
    exact absurd (exactly.mpr unfilled) (by decide)
  · by_contra stayed
    exact absurd (remains.mpr stayed) (by decide)

/-- Answers may be outdated: no record is said to match where one does. -/
theorem outdated_answers :
    ¬ ∀ (c : Controller) (doc : Document) (operations : List Operation),
      let session := c.run (.start c.component doc) operations
      session.lifecycle = .ready →
        (∀ field raw after visible, c.updateFilter session field raw = (after, some visible) →
          after.visibleCount = some visible) ∧
        (∀ after visible, c.clearFilters session = (after, some visible) →
          after.visibleCount = some visible) ∧
        ∀ id after previous next, c.switchTo session id = (after, .switched previous next) →
          after.activeState = some next := by
  intro current
  have ready : peopleStarted.lifecycle = .ready := by decide +kernel
  obtain ⟨none, one⟩ := peopleSearched_answer
  obtain ⟨counts, -, -⟩ := current people (.scaffold people.component) [.init] ready
  have zero := counts FilterSet.searchField (.string "nobody") peopleSearched.1 0
    none
  exact absurd (one.symm.trans zero) (by decide)

end Controller

end LiveMarkup

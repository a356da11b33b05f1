import LiveMarkup.Proofs.Controller.Pages
import LiveMarkup.Proofs.Controller.Rendered

/-!
# Filtering rows and filtering records

A component with data alone filters the rows in its document or, without them, its records. Two
sessions, one for each, stay side by side (`Mirrors`): they differ in their documents alone, and the
rows are as visible as the view says. What does not look at documents does the same to both
(`callHook_withDocument`, `init_withDocument`), and filtering and turning pages bring both documents
in line with one view (`Mirrors.render`). So every operation keeps them side by side and answers the
same (`Mirrors.perform`).
-/

set_option autoImplicit false

namespace LiveMarkup

/-! ## Sessions that differ in their documents -/

/-- The session with another document. -/
def Session.withDocument (session : Session) (doc : Document) : Session :=
  { session with document := doc }

namespace Controller

/-- The controller with the rows in the document. -/
def rendered (c : Controller) : Controller := { c with component := c.component.rendered }

theorem rendered_pattern (c : Controller) :
    c.rendered.component.pattern = c.component.pattern :=
  c.component.pattern_rendered

theorem rendered_source? (c : Controller) :
    c.rendered.component.source? = c.component.source?.map DataSource.rendered :=
  c.component.source?_rendered

theorem callHook_withDocument (c : Controller) (session : Session) (doc : Document)
    (point : HookPoint) (context : Fields) :
    c.rendered.callHook (session.withDocument doc) point context =
      ((c.callHook session point context).1.withDocument doc,
        (c.callHook session point context).2) := by
  unfold callHook
  by_cases bound : c.hooks.bound point = true
  · have bound' : c.rendered.hooks.bound point = true := bound
    rw [if_pos bound, if_pos bound']
    rfl
  · have bound' : ¬c.rendered.hooks.bound point = true := bound
    rw [if_neg bound, if_neg bound']

theorem loadAll_withDocument (c : Controller) (session : Session) (doc : Document)
    (scripts : List ExternalScript) :
    c.rendered.loadAll (session.withDocument doc) scripts =
      ((c.loadAll session scripts).1.withDocument doc, (c.loadAll session scripts).2) := by
  have asked : ∀ (error : Option LoadError) (session : Session),
      scripts.foldl c.rendered.loadNext (session.withDocument doc, error) =
        ((scripts.foldl c.loadNext (session, error)).1.withDocument doc,
          (scripts.foldl c.loadNext (session, error)).2) := by
    induction scripts with
    | nil => exact fun _ _ => rfl
    | cons script rest ih =>
      intro error session
      exact ih (c.loadNext (session, error) script).2 (c.loadNext (session, error) script).1
  exact asked none session

theorem equip_withDocument (c : Controller) (session : Session) (doc : Document) :
    c.rendered.equip (session.withDocument doc) = (c.equip session).withDocument doc := by
  -- The untouched view does not depend on where the rows are.
  have views : c.rendered.component.source?.map DataView.ofSource =
      c.component.source?.map DataView.ofSource := by
    rw [rendered_source?, Option.map_map]
    rfl
  simp only [equip, rendered_pattern, views]
  rfl

end Controller

/-! ## Components with data alone -/

/-- A component has neither states nor rules, and it filters these records in memory. -/
structure Component.DataAlone (component : Component) (source : DataSource) : Prop where
  states : component.states = []
  rules : component.rules = []
  records : component.source? = some source
  memory : source.serverRows = false

namespace Controller

section DataAlone

variable {c : Controller}

theorem state?_eq_none (states : c.component.states = []) (id : String) : c.state? id = none := by
  rw [state?, states]
  rfl

theorem switchTo_of_states_eq_nil (states : c.component.states = []) (session : Session)
    (id : String) : c.switchTo session id = (session, .ignored) := by
  have closed : c.available session.document id = false := by
    rw [available, state?_eq_none states]
    rfl
  unfold switchTo switchWith
  split
  · rfl
  · rename_i view present
    split
    · rfl
    · rw [if_pos (.inr (by rw [closed]; rfl))]

theorem setUp_of_rules_eq_nil (rules : c.component.rules = []) (session : Session) :
    c.setUp session = c.equip session := by
  cases uses : c.component.pattern.usesRules with
  | false => simp [setUp, equip, uses]
  | true =>
    simp [setUp, equip, uses, rules, RuleIndex.ofRules, RuleIndex.triggers, RuleIndex.firstSeen]

/-- Without rules no element has anything planned for it. -/
theorem evaluateTrigger_of_nil (session : Session)
    (rules : ∀ index, session.rules = some index → index = .ofRules []) (element : String) :
    c.evaluateTrigger session element = session := by
  unfold evaluateTrigger
  split
  · rfl
  · rename_i index present
    rw [rules index present]
    rfl

theorem setValue_of_nil (session : Session)
    (rules : ∀ index, session.rules = some index → index = .ofRules []) (element : String)
    (value : Json) :
    c.setValue session element value =
      { session with
        document := session.document.put element fun e => { e with value := value } } := by
  simp only [setValue]
  split
  · apply evaluateTrigger_of_nil
    exact rules
  · rfl

/-- Without states nothing follows on filtering but its report and its hook. -/
theorem afterFilter_withDocument (states : c.component.states = [])
    (onEmpty other : Session → Session) (session : Session) (doc : Document)
    (field value : Json) (visible : Nat) :
    c.rendered.afterFilter other (session.withDocument doc) field value visible =
      (c.afterFilter onEmpty session field value visible).withDocument doc := by
  have states' : c.rendered.component.states = [] := states
  have total : (((session.withDocument doc).data.bind fun _ => c.rendered.component.source?).map
      fun source => source.items.length).getD 0 =
        ((session.data.bind fun _ => c.component.source?).map
          fun source => source.items.length).getD 0 := by
    rw [rendered_source?, Session.withDocument]
    cases session.data with
    | none => rfl
    | some view =>
      rw [Option.bind_some, Option.bind_some, Option.map_map]
      rfl
  simp only [afterFilter, state?_eq_none states, state?_eq_none states', total]
  generalize ((session.data.bind fun _ => c.component.source?).map
    fun source => source.items.length).getD 0 = total
  have called := c.callHook_withDocument
    (session.notify "filter" [("visible", Json.ofNat visible), ("total", Json.ofNat total)]) doc
    .afterFilter [("field", field), ("value", value), ("visible", Json.ofNat visible),
      ("total", Json.ofNat total)]
  rw [if_neg (by simp), if_neg (by simp)]
  exact congrArg Prod.fst called

theorem launch_withDocument (rules : c.component.rules = []) (session : Session) (doc : Document) :
    c.rendered.launch (session.withDocument doc) = (c.launch session).withDocument doc := by
  have rules' : c.rendered.component.rules = [] := rules
  simp only [launch, setUp_of_rules_eq_nil rules, setUp_of_rules_eq_nil rules', loadAll_eq]
  -- Another phase and another document may be given in either order, so the calls are alike.
  have asked : c.rendered.callHook { session.withDocument doc with lifecycle := .initializing }
      .beforeInit [] = _ :=
    c.callHook_withDocument { session with lifecycle := .initializing } doc .beforeInit []
  rw [asked]
  generalize c.callHook { session with lifecycle := .initializing } .beforeInit [] = called
  obtain ⟨called, proceed⟩ := called
  split
  · rfl
  · rw [equip_withDocument]
    generalize c.equip called = worked
    have told : c.rendered.callHook { worked.withDocument doc with lifecycle := .ready }
        .afterInit [] = _ :=
      c.callHook_withDocument { worked with lifecycle := .ready } doc .afterInit []
    rw [told, rendered_pattern]
    rfl

theorem init_withDocument (rules : c.component.rules = []) {session : Session} {doc : Document}
    (container : doc.contains c.component.id = session.document.contains c.component.id) :
    c.rendered.init (session.withDocument doc) = (c.init session).withDocument doc := by
  unfold init
  have phase : (session.withDocument doc).lifecycle = session.lifecycle := rfl
  have contains : (session.withDocument doc).document.contains c.rendered.component.id =
      session.document.contains c.component.id := container
  have loaded : c.rendered.loadAll { session.withDocument doc with lifecycle := .loadingExternals }
      (c.rendered.component.options.externalScripts.filter ExternalScript.required) = _ :=
    c.loadAll_withDocument { session with lifecycle := .loadingExternals } doc
      (c.component.options.externalScripts.filter ExternalScript.required)
  simp only [phase, contains, loaded]
  split
  · rfl
  · split
    · rfl
    · generalize c.loadAll { session with lifecycle := .loadingExternals } _ = asked
      obtain ⟨asked, error⟩ := asked
      cases error with
      | none => exact launch_withDocument rules asked doc
      | some error => rfl

theorem destroy_withDocument (session : Session) (doc : Document) :
    c.rendered.destroy (session.withDocument doc) =
      ((c.destroy session).1.withDocument doc, (c.destroy session).2) := by
  unfold destroy
  have phase : (session.withDocument doc).lifecycle = session.lifecycle := rfl
  simp only [phase]
  split
  · rfl
  · have told := c.callHook_withDocument
      (Session.notify
        { session with
          lifecycle := .destroyed
          registry := .closed
          tornDown := session.tornDown ++ session.registry.destroyable
          states := none
          data := none
          rules := none }
        "destroy" [("externals", Json.ofNat session.registry.destroyable.length)]) doc .destroy []
    exact congrArg (fun told => (told.1, session.registry.destroyable.length)) told

theorem afterFilter_of_states_eq_nil (states : c.component.states = [])
    (onEmpty : Session → Session) (session : Session) (field value : Json) (visible : Nat) :
    ∃ notifications calls, c.afterFilter onEmpty session field value visible =
      { session with notifications := notifications, calls := calls } := by
  simp only [afterFilter, state?_eq_none states]
  generalize Option.getD _ 0 = total
  obtain ⟨calls, hcalls⟩ := c.callHook_eq
    (session.notify "filter" [("visible", Json.ofNat visible), ("total", Json.ofNat total)])
    .afterFilter [("field", field), ("value", value), ("visible", Json.ofNat visible),
      ("total", Json.ofNat total)]
  rw [hcalls, if_neg (by simp)]
  exact ⟨_, calls, rfl⟩

theorem filterWith_of_not_ready {session : Session} (unready : session.lifecycle ≠ .ready)
    (change : FilterSet → FilterSet) (field value : Json) :
    c.filterWith session change field value = (session, none) := by
  unfold filterWith
  split
  · rename_i ready data records
    exact absurd ready unready
  · rfl

theorem filterWith_of_data {session : Session} {view : DataView} {source : DataSource}
    (ready : session.lifecycle = .ready) (data : session.data = some view)
    (records : c.component.source? = some source) (change : FilterSet → FilterSet)
    (field value : Json) :
    c.filterWith session change field value =
      (c.afterFilter c.enterNoResults (applyFilters source (change view.filters) session).1 field
        value (applyFilters source (change view.filters) session).2,
        some (applyFilters source (change view.filters) session).2) := by
  simp only [filterWith, ready, data, records]

/-! ## Runs side by side -/

/-- A session with the rows in its document beside one without: they differ in their documents alone,
and every row is there and visible as the view says. -/
structure Mirrors (c : Controller) (source : DataSource) (server client : Session) : Prop where
  same : server = client.withDocument server.document
  container : server.document.contains c.component.id = client.document.contains c.component.id
  rules : ∀ index, client.rules = some index → index = .ofRules []
  rows : source.RowsIn server.document
  shown : ∀ view, client.data = some view → source.RowsShow view.matched server.document
  /-- Before the start all rows are visible. -/
  fresh : client.lifecycle = .uninitialized →
    source.RowsShow (DataView.ofSource source).matched server.document

variable {source : DataSource} {server client : Session}

theorem Mirrors.lifecycle_eq (mirrors : c.Mirrors source server client) :
    server.lifecycle = client.lifecycle := by
  rw [mirrors.same]
  rfl

theorem Mirrors.data_eq (mirrors : c.Mirrors source server client) :
    server.data = client.data := by
  rw [mirrors.same]
  rfl

theorem Mirrors.notifications_eq (mirrors : c.Mirrors source server client) :
    server.notifications = client.notifications := by
  rw [mirrors.same]
  rfl

theorem start_mirrors (alone : c.component.DataAlone source) :
    c.Mirrors source
      (.start c.rendered.component (.scaffold c.rendered.component))
      (.start c.component (.scaffold c.component)) := by
  have scaffolded : Document.scaffold c.rendered.component = Document.scaffold c.component :=
    c.component.scaffold_rendered
  obtain ⟨rows, shown⟩ := Document.rowsIn_scaffold alone.states alone.rules alone.records
  rw [scaffolded]
  exact ⟨rfl, rfl, nofun, rows, nofun, fun _ => shown⟩

/-- What leaves the documents alone does the same to both sessions. -/
theorem Mirrors.carry (mirrors : c.Mirrors source server client) {after : Session}
    (document : after.document = client.document)
    (rules : ∀ index, after.rules = some index → index = .ofRules [])
    (shown : ∀ view, after.data = some view → source.RowsShow view.matched server.document)
    (phase : after.lifecycle = .uninitialized → client.lifecycle = .uninitialized) :
    c.Mirrors source (after.withDocument server.document) after where
  same := rfl
  container := by
    rw [document]
    exact mirrors.container
  rules := rules
  rows := mirrors.rows
  shown := shown
  fresh := fun unstarted => mirrors.fresh (phase unstarted)

theorem Mirrors.still (mirrors : c.Mirrors source server client) {after : Session}
    (document : after.document = client.document) (rules : after.rules = client.rules)
    (data : after.data = client.data) (lifecycle : after.lifecycle = client.lifecycle) :
    c.Mirrors source (after.withDocument server.document) after :=
  mirrors.carry document (rules ▸ mirrors.rules) (data ▸ mirrors.shown) (lifecycle ▸ id)

theorem Mirrors.notify (mirrors : c.Mirrors source server client) (name : String)
    (detail : Fields) : c.Mirrors source (server.notify name detail) (client.notify name detail) := by
  rw [mirrors.same]
  have after : (client.notify name detail).document = client.document := rfl
  exact mirrors.still after rfl rfl rfl

theorem Mirrors.init (alone : c.component.DataAlone source)
    (mirrors : c.Mirrors source server client) :
    c.Mirrors source (c.rendered.init server) (c.init client) := by
  rw [mirrors.same, init_withDocument alone.rules mirrors.container]
  by_cases unstarted : client.lifecycle = .uninitialized
  · rcases c.init_cases unstarted with ⟨lifecycle, requests, calls, notifications, -, halted⟩ |
      ⟨requests, later, calls, done, notifications, ready⟩
    · rw [halted]
      exact mirrors.carry rfl mirrors.rules mirrors.shown fun _ => unstarted
    -- Setting up evaluates no rules, so the rows are all visible still, and the new view has them all.
    · rw [setUp_of_rules_eq_nil alone.rules] at ready
      rw [ready]
      refine mirrors.carry rfl ?_ ?_ fun _ => unstarted
      · intro index indexed
        simp only [equip, alone.rules, Option.ite_none_right_eq_some, Option.some.injEq] at indexed
        exact indexed.2.symm
      · intro view shown
        simp only [equip, alone.records, Option.map_some, Option.ite_none_right_eq_some,
          Option.some.injEq] at shown
        rw [← shown.2]
        exact mirrors.fresh unstarted
  · rw [c.init_of_ne unstarted]
    exact mirrors.still rfl rfl rfl rfl

/-- Bringing both documents in line with one view keeps the sessions side by side. -/
theorem Mirrors.render (mirrors : c.Mirrors source server client)
    (started : client.lifecycle ≠ .uninitialized) (view : DataView) :
    c.Mirrors source
      { server with
        data := some view
        document := view.render source.rendered server.document }
      { client with
        data := some view
        document := view.render source client.document } where
  same := by
    rw [mirrors.same]
    rfl
  container := by
    rw [DataView.contains_render, DataView.contains_render]
    exact mirrors.container
  rules := mirrors.rules
  rows := view.rowsIn_render mirrors.rows
  shown := by
    intro shown present
    obtain rfl := Option.some.inj present
    exact view.rowsShow_render mirrors.rows
  fresh := fun unstarted => absurd unstarted started

theorem source?_rendered (records : c.component.source? = some source) :
    c.rendered.component.source? = some source.rendered := by
  rw [rendered_source?, records, Option.map_some]

theorem Mirrors.afterFilter (alone : c.component.DataAlone source)
    (mirrors : c.Mirrors source server client) (onEmpty other : Session → Session)
    (field value : Json) (visible : Nat) :
    c.Mirrors source (c.rendered.afterFilter other server field value visible)
      (c.afterFilter onEmpty client field value visible) := by
  rw [mirrors.same, afterFilter_withDocument alone.states onEmpty other]
  obtain ⟨notifications, calls, reported⟩ :=
    afterFilter_of_states_eq_nil alone.states onEmpty client field value visible
  rw [reported]
  exact mirrors.still rfl rfl rfl rfl

/-- Filtering the rows of one session and the records of the other leaves the same records. -/
theorem Mirrors.filterWith (alone : c.component.DataAlone source)
    (mirrors : c.Mirrors source server client) (change : FilterSet → FilterSet)
    (field value : Json) :
    c.Mirrors source (c.rendered.filterWith server change field value).1
        (c.filterWith client change field value).1 ∧
      (c.rendered.filterWith server change field value).2 =
        (c.filterWith client change field value).2 := by
  by_cases ready : client.lifecycle = .ready
  · cases data : client.data with
    | none =>
      rw [filterWith_of_data_eq_none c data,
        filterWith_of_data_eq_none c.rendered (mirrors.data_eq.trans data)]
      exact ⟨mirrors, rfl⟩
    | some view =>
      rw [filterWith_of_data ready data alone.records, filterWith_of_data
        (mirrors.lifecycle_eq.trans ready) (mirrors.data_eq.trans data)
        (source?_rendered alone.records)]
      -- One view for both: the rows of the server say what the records of the client say.
      simp only [applyFilters,
        DataView.refilter_rendered alone.memory mirrors.rows _ client.document]
      have started : client.lifecycle ≠ .uninitialized := by simp [ready]
      exact ⟨(mirrors.render started _).afterFilter alone _ _ _ _ _, trivial⟩
  · rw [filterWith_of_not_ready ready,
      filterWith_of_not_ready (fun readied => ready (mirrors.lifecycle_eq.symm.trans readied))]
    exact ⟨mirrors, rfl⟩

theorem Mirrors.setPage (alone : c.component.DataAlone source) (sound : c.Sound client)
    (mirrors : c.Mirrors source server client) (page : Nat) :
    c.Mirrors source (c.rendered.setPage server page) (c.setPage client page) := by
  cases data : client.data with
  | none =>
    rw [setPage_of_data_eq_none c data,
      setPage_of_data_eq_none c.rendered (mirrors.data_eq.trans data)]
    exact mirrors
  | some view =>
    have started : client.lifecycle ≠ .uninitialized := by
      intro unstarted
      have ready := (sound.data.mp (by simp [data])).1
      cases unstarted.symm.trans ready
    have turn : view.turnTo source.rendered page = view.turnTo source page := rfl
    simp only [Controller.setPage, data, mirrors.data_eq, alone.records,
      source?_rendered alone.records, turn]
    exact (mirrors.render started (view.turnTo source page)).notify _ _

/-- An input to an element changes neither what the rows say nor what is visible. -/
theorem Mirrors.setValue (mirrors : c.Mirrors source server client) (element : String)
    (value : Json) :
    c.Mirrors source (c.rendered.setValue server element value)
      (c.setValue client element value) := by
  have rules : ∀ index, server.rules = some index → index = .ofRules [] := by
    rw [mirrors.same]
    exact mirrors.rules
  rw [setValue_of_nil server rules, setValue_of_nil client mirrors.rules]
  refine ⟨?_, ?_, mirrors.rules, mirrors.rows.input element value, ?_, ?_⟩
  · rw [mirrors.same]
    rfl
  · rw [Document.contains_put, Document.contains_put, mirrors.container]
  · intro view shown
    exact (mirrors.shown view shown).input mirrors.rows element value
  · intro unstarted
    exact (mirrors.fresh unstarted).input mirrors.rows element value

theorem Mirrors.register (mirrors : c.Mirrors source server client) (name : String)
    (object : ExternalObject) :
    c.Mirrors source (Controller.register server name object).1
        (Controller.register client name object).1 ∧
      (Controller.register server name object).2 = (Controller.register client name object).2 := by
  rw [mirrors.same]
  have slots : (client.withDocument server.document).registry = client.registry := rfl
  simp only [Controller.register, slots]
  cases client.registry.register name object with
  | error error => exact ⟨mirrors.still rfl rfl rfl rfl, rfl⟩
  | ok registry =>
    have document : ({ client with registry := registry } : Session).document = client.document :=
      rfl
    exact ⟨(mirrors.still document rfl rfl rfl).notify _ _, rfl⟩

theorem Mirrors.destroy (mirrors : c.Mirrors source server client) :
    c.Mirrors source (c.rendered.destroy server).1 (c.destroy client).1 ∧
      (c.rendered.destroy server).2 = (c.destroy client).2 := by
  rw [mirrors.same, destroy_withDocument]
  refine ⟨?_, rfl⟩
  simp only [Controller.destroy]
  split
  · exact mirrors.still rfl rfl rfl rfl
  -- At the end there is no view any more, and no start comes after it.
  · generalize hended : Session.notify _ _ _ = ended
    obtain ⟨calls, hcalls⟩ := c.callHook_eq ended .destroy []
    rw [hcalls, ← hended]
    exact mirrors.carry rfl nofun nofun nofun

theorem Mirrors.perform (alone : c.component.DataAlone source) (sound : c.Sound client)
    (mirrors : c.Mirrors source server client) (operation : Operation) :
    c.Mirrors source (c.rendered.perform server operation) (c.perform client operation) ∧
      c.rendered.answer server operation = c.answer client operation := by
  cases operation with
  | init =>
    have started := mirrors.init alone
    refine ⟨started, ?_⟩
    simp only [answer]
    rw [started.same]
    rfl
  | switchTo id =>
    have states : c.rendered.component.states = [] := alone.states
    simp only [Controller.perform, answer, switchTo_of_states_eq_nil alone.states,
      switchTo_of_states_eq_nil states]
    exact ⟨mirrors, trivial⟩
  | updateFilter field raw =>
    obtain ⟨filtered, counted⟩ := mirrors.filterWith alone
      (fun filters => filters.update field raw) (.string field) raw
    exact ⟨filtered, congrArg Answer.matching counted⟩
  | clearFilters =>
    obtain ⟨filtered, counted⟩ := mirrors.filterWith alone FilterSet.clear .null .null
    exact ⟨filtered, congrArg Answer.matching counted⟩
  | setPage page => exact ⟨mirrors.setPage alone sound page, rfl⟩
  | setValue element value => exact ⟨mirrors.setValue element value, rfl⟩
  | register name object =>
    obtain ⟨registered, answered⟩ := mirrors.register name object
    exact ⟨registered, congrArg Answer.registered answered⟩
  | destroy =>
    obtain ⟨ended, counted⟩ := mirrors.destroy
    exact ⟨ended, congrArg Answer.tornDown counted⟩

theorem Mirrors.run (alone : c.component.DataAlone source) (sound : c.Sound client)
    (mirrors : c.Mirrors source server client) (operations : List Operation) :
    c.Mirrors source (c.rendered.run server operations) (c.run client operations) ∧
      c.rendered.answers server operations = c.answers client operations := by
  induction operations generalizing server client with
  | nil => exact ⟨mirrors, rfl⟩
  | cons operation rest ih =>
    obtain ⟨performed, answered⟩ := mirrors.perform alone sound operation
    obtain ⟨mirrors, told⟩ := ih (sound.perform operation) performed
    refine ⟨mirrors, ?_⟩
    rw [answers, answers, answered, told]

end DataAlone

/-! ## Runs -/

/-- How many pages a session has. -/
def pageCount (c : Controller) (session : Session) : Option Nat :=
  session.data.bind fun view =>
    c.component.source?.map fun source => view.pageCount source.perPage

/-- A component with data alone behaves the same whether its rows stand in the document and are shown
and hidden or its records are filtered in memory: every operation answers the same, and the sessions
have the same views, pages, records on the page and reports. Of the rows those are visible that
match. -/
theorem run_rendered (c : Controller) {data : Dataset} (records : c.component.data = some data)
    (states : c.component.states = []) (rules : c.component.rules = [])
    (memory : c.component.serverMode = false) (operations : List Operation) :
    let first := Session.start c.rendered.component (.scaffold c.rendered.component)
    let server := c.rendered.run first operations
    let client := c.run (.start c.component (.scaffold c.component)) operations
    c.rendered.answers first operations =
        c.answers (.start c.component (.scaffold c.component)) operations ∧
      server.data = client.data ∧ c.rendered.pageCount server = c.pageCount client ∧
      c.rendered.shownRecords server = c.shownRecords client ∧
      server.notifications = client.notifications ∧
      ∀ view, server.data = some view → ∀ index < data.items.length,
        (server.document.isVisible (rowId c.component.id index) = true ↔ index ∈ view.matched) := by
  intro first server client
  obtain ⟨source, sourced⟩ : ∃ source, c.component.source? = some source := by
    rw [Component.source?, records]
    exact ⟨_, rfl⟩
  obtain ⟨data', present, id, items⟩ := c.component.data_of_source? sourced
  obtain rfl : data' = data := Option.some.inj (present.symm.trans records)
  have alone : c.component.DataAlone source :=
    ⟨states, rules, sourced, c.component.serverRows_eq_false memory sourced⟩
  obtain ⟨mirrors, answered⟩ := (start_mirrors alone).run alone (c.start_sound _) operations
  change c.Mirrors source server client at mirrors
  -- Only that they are side by side matters from here on, not how they came there.
  clear_value server client
  refine ⟨answered, mirrors.data_eq, ?_, ?_, mirrors.notifications_eq, ?_⟩
  · simp only [pageCount, mirrors.data_eq, source?_rendered sourced, sourced]
    rfl
  · simp only [shownRecords, mirrors.data_eq, source?_rendered sourced, sourced]
    cases client.data with
    | none => rfl
    | some view => rfl
  · intro view shown index within
    rw [← id]
    rw [← items] at within
    exact mirrors.shown view (mirrors.data_eq.symm.trans shown) index within

/-- The names with an `a` in a directory whose rows stand in the document. -/
def renderedDirectoryRun : Session :=
  directory.rendered.run
    (.start directory.rendered.component (.scaffold directory.rendered.component))
    [.init, .updateFilter "name" (.string "a")]

/-- Three of the four names have an `a`, as they do where the records are filtered, and the row of the
other one is hidden. -/
theorem run_rendered_directory :
    directory.component.states = [] ∧ directory.component.rules = [] ∧
      directory.component.serverMode = false ∧
      ∃ data view, directory.component.data = some data ∧ renderedDirectoryRun.data = some view ∧
        view.matched = [0, 2, 3] ∧
        directory.rendered.shownRecords renderedDirectoryRun =
          directory.shownRecords (directory.run
            (.start directory.component (.scaffold directory.component))
            [.init, .updateFilter "name" (.string "a")]) ∧
        renderedDirectoryRun.document.isVisible (rowId "directory" 0) = true ∧
        renderedDirectoryRun.document.isVisible (rowId "directory" 1) = false := by
  have memory : directory.component.serverMode = false := by decide +kernel
  obtain ⟨data, records⟩ : ∃ data, directory.component.data = some data := ⟨_, rfl⟩
  have size : directory.component.data.map (fun data => data.items.length) = some 4 := by
    decide +kernel
  rw [records, Option.map_some, Option.some.injEq] at size
  have reached : renderedDirectoryRun.data.map DataView.matched = some [0, 2, 3] := by
    decide +kernel
  obtain ⟨view, shown, matched⟩ := Option.map_eq_some_iff.mp reached
  obtain ⟨-, -, -, page, -, rows⟩ := directory.run_rendered records rfl rfl memory
    [.init, .updateFilter "name" (.string "a")]
  have visible := rows view shown
  refine ⟨rfl, rfl, memory, data, view, records, shown, matched, page, ?_, ?_⟩
  · have first := visible 0 (by omega)
    rw [matched] at first
    exact first.mpr (by decide)
  · have second := visible 1 (by omega)
    rw [matched] at second
    rw [← Bool.not_eq_true]
    exact fun still => absurd (second.mp still) (by decide)

end Controller

end LiveMarkup

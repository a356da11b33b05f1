import LiveMarkup.Proofs.Controller.Scaffold

/-!
# Rows in the document

The rows of a component may stand in the document already, each with its record as its attributes
(`DataSource.RowsIn`). Filtering then looks at the attributes (`refilter_rendered`), and the rows are
shown and hidden instead of counted (`rowsShow_render`). `Component.rendered` is a component whose
rows are there, and the scaffold has them (`rowsIn_scaffold`).
-/

set_option autoImplicit false

namespace LiveMarkup

theorem rowId_inj {component : String} {index other : Nat} :
    rowId component index = rowId component other ↔ index = other := by
  constructor
  · intro same
    have lists := congrArg String.toList same
    simp only [rowId, String.toList_append, List.append_cancel_left_eq, Nat.toString_eq_repr,
      Nat.toList_repr] at lists
    have values := congrArg (fun digits => Nat.ofDigitChars 10 digits 0) lists
    simpa only [Nat.ofDigitChars_ten_toDigits] using values
  · exact congrArg _

/-! ## Components with rows in the document -/

/-- The dataset with its rows in the document. -/
def Dataset.rendered (data : Dataset) : Dataset :=
  { data with options := { data.options with serverRendered := true } }

/-- The inputs with their rows in the document. -/
def Inputs.rendered (inputs : Inputs) : Inputs :=
  { inputs with data := inputs.data.map Dataset.rendered }

theorem Inputs.componentError?_rendered (id : String) (inputs : Inputs) (options : Options) :
    componentError? id inputs.rendered options = componentError? id inputs options := by
  unfold componentError? Inputs.error? Inputs.rendered
  rw [Option.map_map]
  rfl

theorem Inputs.facts_rendered (inputs : Inputs) : inputs.rendered.facts = inputs.facts := by
  obtain ⟨states, data, rules⟩ := inputs
  cases data with
  | none => rfl
  | some data => rfl

/-- The component with its rows in the document. -/
def Component.rendered (component : Component) : Component where
  id := component.id
  inputs := component.inputs.rendered
  options := component.options
  accepted := by
    rw [Inputs.componentError?_rendered]
    exact component.accepted

theorem Component.detected_rendered (component : Component) :
    component.rendered.detected = component.detected := by
  unfold Component.detected Inputs.resolve Component.rendered
  rw [Inputs.facts_rendered]

theorem Component.pattern_rendered (component : Component) :
    component.rendered.pattern = component.pattern :=
  congrArg Detected.pattern component.detected_rendered

theorem Component.scaffold_rendered (component : Component) :
    Document.scaffold component.rendered = Document.scaffold component := by
  obtain ⟨id, ⟨states, data, rules⟩, options, accepted⟩ := component
  cases data with
  | none => rfl
  | some data => rfl

/-- The source with its rows in the document. -/
def DataSource.rendered (source : DataSource) : DataSource := { source with serverRows := true }

theorem Component.source?_rendered (component : Component) :
    component.rendered.source? = component.source?.map DataSource.rendered := by
  unfold source?
  rw [component.detected_rendered, show component.rendered.data = component.data.map .rendered from rfl,
    Option.map_map, Option.map_map]
  rfl

theorem Component.data_of_source? (component : Component) {source : DataSource}
    (records : component.source? = some source) :
    ∃ data, component.data = some data ∧ source.component = component.id ∧
      source.items = data.items := by
  obtain ⟨data, present, rfl⟩ := Option.map_eq_some_iff.mp records
  exact ⟨data, present, rfl, rfl⟩

/-! ## Rows -/

namespace DataSource

/-- The row of every record is in the document and says what the record says. -/
def RowsIn (source : DataSource) (doc : Document) : Prop :=
  ∀ index item, source.items[index]? = some item →
    (doc.find? (rowId source.component index)).map Element.attributes = some item

/-- The visible rows are those of these records. -/
def RowsShow (source : DataSource) (matched : List Nat) (doc : Document) : Prop :=
  ∀ index < source.items.length,
    doc.isVisible (rowId source.component index) = true ↔ index ∈ matched

variable {source : DataSource} {doc : Document}

theorem RowsIn.exists_row (rows : source.RowsIn doc) {index : Nat}
    (within : index < source.items.length) :
    ∃ row, doc.find? (rowId source.component index) = some row ∧
      row.attributes = source.items[index] :=
  Option.map_eq_some_iff.mp (rows index _ (List.getElem?_eq_getElem within))

end DataSource

namespace Document

theorem contains_modify (doc : Document) (id other : String) (change : Element → Element) :
    StringMap.contains (doc.modify id change) other = doc.contains other := by
  rw [StringMap.contains_eq_isSome, StringMap.contains_eq_isSome, StringMap.find?_modify]
  split
  · exact Option.isSome_map
  · rfl

/-- Shows those of some rows that stand in a list and hides the others. -/
def markRows (component : String) (matched rows : List Nat) (doc : Document) : Document :=
  rows.foldl (fun doc row => doc.setVisible (rowId component row) (matched.contains row)) doc

/-- Each row receives its mark and keeps what else there is to it. -/
theorem find?_markRows (component : String) (matched rows : List Nat) (index : Nat)
    (doc : Document) :
    (doc.markRows component matched rows).find? (rowId component index) =
      (doc.find? (rowId component index)).map fun element =>
        if index ∈ rows then { element with visible := matched.contains index } else element := by
  induction rows generalizing doc with
  | nil => simp [markRows]
  | cons row rest ih =>
    rw [markRows, List.foldl_cons, ← markRows, ih, setVisible, StringMap.find?_modify]
    -- A row that stands twice in the list receives the same mark twice.
    by_cases same : index = row
    · subst same
      rw [if_pos rfl, Option.map_map]
      congr 1
      funext element
      simp
    · have differs : rowId component index ≠ rowId component row := fun h => same (rowId_inj.mp h)
      simp [differs, same]

theorem contains_markRows (component : String) (matched rows : List Nat) (id : String)
    (doc : Document) : (doc.markRows component matched rows).contains id = doc.contains id := by
  induction rows generalizing doc with
  | nil => rfl
  | cons row rest ih =>
    rw [markRows, List.foldl_cons, ← markRows, ih, setVisible, contains_modify]

end Document

namespace DataSource

variable {source : DataSource} {doc : Document}

/-- An input to an element leaves what the rows say. -/
theorem RowsIn.input (rows : source.RowsIn doc) (element : String) (value : Json) :
    source.RowsIn (doc.put element fun e => { e with value := value }) := by
  intro index item listed
  obtain ⟨row, found, record⟩ := Option.map_eq_some_iff.mp (rows index item listed)
  obtain ⟨kept, present, -, attributes⟩ := Document.find?_put_value found element value
  rw [present, Option.map_some, attributes, record]

theorem RowsShow.input {matched : List Nat} (shown : source.RowsShow matched doc)
    (rows : source.RowsIn doc) (element : String) (value : Json) :
    source.RowsShow matched (doc.put element fun e => { e with value := value }) := by
  intro index within
  obtain ⟨row, found, -⟩ := rows.exists_row within
  obtain ⟨kept, present, visible, -⟩ := Document.find?_put_value found element value
  have before := shown index within
  rw [Document.isVisible, found] at before
  rw [Document.isVisible, present, Option.any_some, visible]
  exact before

end DataSource

namespace DataView

variable {source : DataSource} {doc : Document}

theorem render_rendered (view : DataView) (source : DataSource) (doc : Document) :
    view.render source.rendered doc =
      doc.markRows source.component view.matched (List.range source.items.length) :=
  rfl

/-- Bringing a document in line keeps its elements. -/
theorem contains_render (view : DataView) (source : DataSource) (doc : Document) (id : String) :
    (view.render source doc).contains id = doc.contains id := by
  unfold render
  split
  · exact Document.contains_markRows source.component view.matched _ id doc
  · exact doc.contains_modify _ _ _

theorem rowsIn_render (view : DataView) (rows : source.RowsIn doc) :
    source.RowsIn (view.render source.rendered doc) := by
  intro index item listed
  have row := rows index item listed
  rw [render_rendered, Document.find?_markRows, Option.map_map, ← row]
  congr 1
  funext element
  simp only [Function.comp_apply]
  split
  · rfl
  · rfl

theorem rowsShow_render (view : DataView) (rows : source.RowsIn doc) :
    source.RowsShow view.matched (view.render source.rendered doc) := by
  intro index within
  obtain ⟨row, found, -⟩ := rows.exists_row within
  rw [render_rendered, Document.isVisible, Document.find?_markRows, found, Option.map_some,
    if_pos (List.mem_range.mpr within)]
  exact List.contains_iff_mem

/-- Rows are admitted like their records. -/
theorem admits_rendered (client : source.serverRows = false) (rows : source.RowsIn doc)
    (filters : FilterSet) (other : Document) {index : Nat} (within : index < source.items.length) :
    admits filters source.rendered doc index = admits filters source other index := by
  obtain ⟨row, found, record⟩ := rows.exists_row within
  have here : admits filters source.rendered doc index =
      filters.admitsWith (Fields.get? row.attributes) := by
    simp [admits, DataSource.rendered, found]
  have there : admits filters source other index = filters.admits source.items[index] := by
    simp [admits, client, within]
  rw [here, there, record]
  rfl

/-- Filtering the rows leaves the records that filtering the records leaves. -/
theorem refilter_rendered (client : source.serverRows = false) (rows : source.RowsIn doc)
    (filters : FilterSet) (other : Document) :
    refilter filters source.rendered doc = refilter filters source other := by
  have same : (List.range source.items.length).filter (admits filters source.rendered doc) =
      (List.range source.items.length).filter (admits filters source other) := by
    apply List.filter_congr
    intro index member
    exact admits_rendered client rows filters other (List.mem_range.mp member)
  rw [refilter, refilter, ← same]
  rfl

end DataView

namespace Document

/-- Whether every element is visible. -/
def AllVisible (doc : Document) : Prop :=
  ∀ id element, doc.find? id = some element → element.visible = true

theorem allVisible_ensure {doc : Document} (visible : doc.AllVisible) (id : String) :
    (doc.ensure id).AllVisible := by
  intro other element found
  rw [ensure, StringMap.find?_insertNew] at found
  split at found
  · cases before : doc.find? other with
    | none =>
      rw [before, Option.none_or, Option.some.injEq] at found
      rw [← found]
      rfl
    | some present =>
      rw [before, Option.some_or, Option.some.injEq] at found
      exact found ▸ visible other present before
  · exact visible other element found

theorem allVisible_modify {doc : Document} (visible : doc.AllVisible) (id : String)
    {change : Element → Element} (keeps : ∀ element, (change element).visible = element.visible) :
    AllVisible (doc.modify id change) := by
  intro other element found
  rw [StringMap.find?_modify] at found
  split at found
  · obtain ⟨before, present, rfl⟩ := Option.map_eq_some_iff.mp found
    rw [keeps]
    exact visible other before present
  · exact visible other element found

/-- Adding rows one after another puts each record into its row. -/
theorem rows_foldl_put (component : String) {doc : Document} (visible : doc.AllVisible)
    (items : List Fields) :
    let added := items.zipIdx.foldl
      (fun (doc : Document) item => doc.put (rowId component item.2) fun row =>
        { row with attributes := item.1 }) doc
    added.AllVisible ∧ ∀ index item, items[index]? = some item →
      (added.find? (rowId component index)).map Element.attributes = some item := by
  induction items using List.reverseRecOn with
  | nil => exact ⟨visible, by simp⟩
  | append_singleton items last ih =>
    obtain ⟨earlier, rows⟩ := ih
    rw [List.zipIdx_append, List.foldl_append, List.zipIdx_singleton, List.foldl_cons,
      List.foldl_nil, Nat.zero_add]
    generalize items.zipIdx.foldl _ doc = before at earlier rows ⊢
    -- The new row has an id of its own, so the rows before it keep their records.
    refine ⟨allVisible_modify (allVisible_ensure earlier _) _ fun _ => rfl, ?_⟩
    intro index item listed
    rw [find?_put]
    by_cases behind : index = items.length
    · subst behind
      rw [List.getElem?_concat_length, Option.some.injEq] at listed
      rw [if_pos rfl, ← listed]
      rfl
    · have differs : rowId component index ≠ rowId component items.length :=
        fun same => behind (rowId_inj.mp same)
      have among : index < items.length := by
        obtain ⟨within, -⟩ := List.getElem?_eq_some_iff.mp listed
        rw [List.length_append, List.length_singleton] at within
        omega
      rw [if_neg differs]
      exact rows index item ((List.getElem?_append_left among).symm.trans listed)

/-- The scaffold of a component with data alone has a visible row for every record. -/
theorem rows_scaffold {component : Component} {data : Dataset} (states : component.states = [])
    (rules : component.rules = []) (records : component.data = some data) :
    (scaffold component).AllVisible ∧ ∀ index item, data.items[index]? = some item →
      ((scaffold component).find? (rowId component.id index)).map Element.attributes =
        some item := by
  have plain : AllVisible ((ensure .empty component.id).ensure (resultsId component.id)) := by
    apply allVisible_ensure
    apply allVisible_ensure
    intro id element found
    cases found
  have scaffolded : scaffold component =
      addData component.id (ensure .empty component.id) data := by
    rw [scaffold, states, rules, records]
    rfl
  rw [scaffolded]
  exact rows_foldl_put component.id plain data.items

end Document

namespace DataSource

theorem RowsIn.rowsShow_of_allVisible {source : DataSource} {doc : Document}
    (rows : source.RowsIn doc) (visible : doc.AllVisible) :
    source.RowsShow (DataView.ofSource source).matched doc := by
  intro index within
  obtain ⟨row, found, -⟩ := rows.exists_row within
  rw [Document.isVisible, found, Option.any_some, visible _ row found]
  exact ⟨fun _ => List.mem_range.mpr within, fun _ => rfl⟩

end DataSource

namespace Document

theorem rowsIn_scaffold {component : Component} {source : DataSource}
    (states : component.states = []) (rules : component.rules = [])
    (records : component.source? = some source) :
    source.RowsIn (scaffold component) ∧
      source.RowsShow (DataView.ofSource source).matched (scaffold component) := by
  obtain ⟨data, present, id, items⟩ := component.data_of_source? records
  obtain ⟨visible, added⟩ := rows_scaffold states rules present
  rw [← id, ← items] at added
  have rows : source.RowsIn (scaffold component) := added
  exact ⟨rows, rows.rowsShow_of_allVisible visible⟩

end Document

end LiveMarkup

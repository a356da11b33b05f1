import LiveMarkup.Proofs.Controller.Shown
import LiveMarkup.Proofs.Json.Readable
import LiveMarkup.Proofs.Markup.Attributes
import LiveMarkup.Proofs.Markup.Trusted
import Mathlib.Data.List.Forall2
import Mathlib.Logic.Basic

/-!
# Records on their way to the browser

Where records are shown, the root element has one child that lists them. Either the payload carries the
records and that child is empty, or the payload carries none and the child has a row for each of them
(`Structure.records_reach_once`). A row is read back with the attributes that it was given. Those that
mark it as a row are there once, whatever the fields of the record are called, because the attributes of
fields keep clear of them (`Structure.rowAttribute?_ne`).

What a template makes of a record is written into its row as it is. Where that closes what it opens, the
text of the child that lists the records is read with the rows in it and nothing else. Where it does not,
it may close the row and the elements around it (`Structure.template_ends_results`), and it may just as
well hide what follows in a tag or a value. The attributes of the rows are what they are in any case, and
so is the payload.
-/

set_option autoImplicit false

namespace LiveMarkup

/-! ## Members of objects -/

namespace Fields

theorem get?_append (fields more : Fields) (key : String) :
    get? (fields ++ more) key = (get? fields key).or (get? more key) := by
  rw [get?, get?, get?, List.find?_append]
  cases fields.find? fun field => field.1 == key <;> rfl

end Fields

namespace Json

/-- The value of a key; nothing if this is no object with the key. -/
def member? (value : Json) (key : String) : Option Json :=
  match value with
  | .object fields => Fields.get? fields key
  | _ => none

theorem get?_fieldIf {α : Type} (key : String) (write : α → Json) (value : Option α) :
    Fields.get? (fieldIf key write value) key = value.map write := by
  cases value with
  | none => rfl
  | some value => simp [fieldIf, Fields.get?]

theorem get?_fieldIf_of_ne {α : Type} {key other : String} (differs : key ≠ other)
    (write : α → Json) (value : Option α) : Fields.get? (fieldIf key write value) other = none := by
  cases value with
  | none => rfl
  | some value => simp [fieldIf, Fields.get?, differs]

end Json

namespace Payload

theorem get?_listField_of_ne {α : Type} {key other : String} (differs : key ≠ other)
    (write : α → Json) (items : List α) : Fields.get? (listField key write items) other = none := by
  rw [listField]
  split
  · rfl
  · simp [Fields.get?, differs]

theorem get?_hooks_of_ne {key : String} (differs : "hooks" ≠ key) (hooks : HookCode) :
    Fields.get? (if hooks.isEmpty then [] else [("hooks", hooks.toJson)]) key = none := by
  split
  · rfl
  · simp [Fields.get?, differs]

/-- The data part of a payload is what stands under this key. -/
theorem member?_data (payload : Payload) :
    payload.toJson.member? "data" = payload.data.map dataJson := by
  simp only [toJson, Json.member?, Fields.get?_append]
  rw [get?_hooks_of_ne (by decide), get?_listField_of_ne (by decide), get?_listField_of_ne (by decide),
    get?_listField_of_ne (by decide), get?_listField_of_ne (by decide),
    Json.get?_fieldIf_of_ne (by decide), Json.get?_fieldIf]
  simp only [Option.or_none]
  rfl

theorem member?_data_ofComponent {component : Component} {data : Dataset}
    (given : component.data = some data) (shown : component.pattern.usesData = true)
    (theme : Theme) :
    (ofComponent component theme).toJson.member? "data" =
      some (dataJson
        { schema := data.effectiveSchema
          options := data.options
          total := data.items.length
          items := if component.serverMode then none else some data.items }) := by
  rw [member?_data]
  simp only [ofComponent, if_pos shown, given, Option.map_some]

theorem member?_total (data : DataPayload) :
    (dataJson data).member? "total" = some (Json.ofNat data.total) := rfl

theorem member?_items (data : DataPayload) :
    (dataJson data).member? "items" = data.items.map (Json.ofList Json.object) := by
  rw [dataJson, Json.member?, Fields.get?_append, Json.get?_fieldIf]
  rfl

end Payload

/-! ## Rows -/

namespace Structure

open Markup

/-- A row that holds a record: a reader of tags that comes upon it enters an element with the attributes
of the row. The marks of a row are among them once, in whatever letter case, with its index and with JSON
that is read as the record wherever enough of it may nest. -/
structure RowOf (tree : Markup) (index : Nat) (record : Fields) : Prop where
  read : ∀ frame outer rest,
    TagReader.feed ⟨.text [], frame, outer⟩ (tree.chars ++ rest) =
      TagReader.feed ⟨.text [], ⟨⟨"div", tree.attributes⟩, []⟩, frame :: outer⟩
        (listChars tree.children ++ closeChars "div" ++ rest)
  marked : valuesOf "data-row" tree.attributes = [none]
  indexed : valuesOf "data-index" tree.attributes = [some (toString index)]
  recorded : ∃ text, valuesOf "data-record" tree.attributes = [some text] ∧
    ∀ depth, Json.Readable depth (.object record) →
      (RawJson.ofText? text).bind (RawJson.value? depth) = some (.object record)

section Rows

variable {component : Component} {theme : Theme}

/-- No class and no attribute of a field stands under the name of a mark. -/
theorem valuesOf_row {mark : String} (own : mark ∈ rowMarks) (schema : List Field)
    (template : Option String) (index : Nat) (record : Fields) :
    valuesOf mark (row theme schema template index record).attributes =
      ([flag "data-row", attr "data-index" (toString index),
        attr "data-record" (Json.compact (.object record))].filter fun entry =>
          entry.1 == mark).map Prod.snd := by
  -- Between the marks there are a class and the attributes of fields, and neither counts.
  have unclassed : mark ≠ "class" := by
    rintro rfl
    simp [rowMarks] at own
  have fields : valuesOf mark (schema.filterMap fun field =>
      (rowAttribute? field.name).bind fun name =>
        (Fields.get? record field.name).map fun value => attr name (rowValue value)) = [] := by
    refine valuesOf_eq_nil fun entry member => ?_
    obtain ⟨field, -, hentry⟩ := List.mem_filterMap.mp member
    obtain ⟨name, named, hentry⟩ := Option.bind_eq_some_iff.mp hentry
    obtain ⟨value, -, rfl⟩ := Option.map_eq_some_iff.mp hentry
    exact rowAttribute?_ne named own
  rw [← valuesOf_fixed mark rfl]
  simp only [row, Markup.attributes, valuesOf_append, valuesOf_classAttr unclassed, fields,
    List.nil_append, List.append_nil]
  rw [← valuesOf_append]
  rfl

theorem row_rowOf {data : Dataset} (given : component.data = some data) (template : Option String)
    (index : Nat) {record : Fields}
    (floats : ∀ x, .float x ∈ (Json.object record).numbers → (JsonNumber.float x).ReadsBack) :
    RowOf (row theme data.effectiveSchema template index record) index record where
  read := by
    intro frame outer rest
    have names : ∀ entry ∈ (row theme data.effectiveSchema template index record).attributes,
        isAttributeName entry.1 = true := fun entry member =>
      (named_row given template index record entry member).isAttributeName
    exact TagReader.feed_tag rfl rfl names _ frame outer rest
  marked := by
    rw [valuesOf_row (by simp [rowMarks])]
    rfl
  indexed := by
    rw [valuesOf_row (by simp [rowMarks])]
    rfl
  recorded := by
    refine ⟨Json.compact (.object record), ?_, fun depth readable => ?_⟩
    · rw [valuesOf_row (by simp [rowMarks])]
      rfl
    · rw [RawJson.ofText?_compact (Json.readsBack_of_floats floats)]
      exact readable

end Rows

/-! ## The element that lists the records -/

section Results

variable {component : Component} {theme : Theme}

theorem hasId_states (component : Component) (theme : Theme) :
    ∀ child ∈ states component theme, child.hasId (resultsId component.id) = false := by
  refine List.forall_mem_append.mpr ⟨fun child member => ?_, fun child member => ?_⟩
  · split at member
    · obtain rfl := List.mem_singleton.mp member
      exact hasId_tag_of_idless (idless_classed _ rfl rfl)
    · cases member
  · obtain ⟨state, listed, rfl⟩ := List.mem_map.mp member
    have other : resultsId component.id ≠ panelId component.id state.id := fun same =>
      not_ownsView_resultsId component ⟨state, listed, .inl same⟩
    simpa [hasId, ids_panelAttributes] using other

theorem filter_hasId_data (component : Component) (theme : Theme) (given : Dataset) :
    (data component theme given).filter (hasId (resultsId component.id)) =
      [results component theme given] := by
  have pages : (if component.paginates then
      [Markup.tag "nav" (classAttr [theme.classOf "pagination"] ++
        [attr "aria-label" "Pagination", flag "data-strata-pagination"]) []] else []).filter
      (hasId (resultsId component.id)) = [] := by
    split
    · rw [List.filter_singleton, hasId_tag_of_idless (idless_classed _ rfl rfl)]
      rfl
    · rfl
  have found : (results component theme given).hasId (resultsId component.id) = true := by
    simp [hasId, ids_resultsAttributes]
  rw [data, List.filter_append, pages, List.append_nil,
    List.filter_cons_of_neg (Bool.eq_false_iff.mp (hasId_tag_of_idless (idless_classed _ rfl rfl))),
    List.filter_cons_of_neg (Bool.eq_false_iff.mp (hasId_tag_of_idless (idless_classed _ rfl rfl))),
    List.filter_singleton, found]
  rfl

/-- Of the children of the root one is known by the id of the element that lists the records. -/
theorem filter_hasId_root {given : Dataset} (some_data : component.data = some given)
    (shown : component.pattern.usesData = true) :
    (root component theme).children.filter (hasId (resultsId component.id)) =
      [results component theme given] := by
  have states : (if component.pattern.usesStates then states component theme else []).filter
      (hasId (resultsId component.id)) = [] := by
    split
    · exact List.filter_eq_nil_iff.mpr fun child member =>
        Bool.eq_false_iff.mp (hasId_states component theme child member)
    · rfl
  have placeholder : (placeholder component theme).filter (hasId (resultsId component.id)) = [] := by
    refine List.filter_eq_nil_iff.mpr fun child member found => ?_
    have listed := mem_listIds_of_hasId member found
    rw [ids_placeholder] at listed
    cases listed
  rw [root, Markup.children, List.filter_append, List.filter_append, states, placeholder,
    if_pos shown, some_data, Option.toList_some, List.flatMap_singleton, filter_hasId_data]
  rfl

/-- The row of a record stands where the record stands. -/
theorem getElem?_rows {given : Dataset} {index : Nat} {record : Fields}
    (held : given.items[index]? = some record) :
    (rows theme given)[index]? =
      some (row theme given.effectiveSchema given.options.itemTemplate index record) := by
  have numbered : given.items.zipIdx[index]? = some (record, index) := by
    rw [List.getElem?_zipIdx, held, Nat.zero_add]
    rfl
  rw [rows, List.getElem?_map, numbered]
  rfl

/-- The rows stand in the order of the records, one for each. -/
theorem rows_rowOf {given : Dataset} (some_data : component.data = some given)
    (floats : ∀ record ∈ given.items, ∀ x, .float x ∈ (Json.object record).numbers →
      (JsonNumber.float x).ReadsBack) :
    (rows theme given).length = given.items.length ∧
      ∀ index record, given.items[index]? = some record →
        ∃ row, (rows theme given)[index]? = some row ∧ RowOf row index record := by
  refine ⟨by rw [rows, List.length_map, List.length_zipIdx], fun index record held => ?_⟩
  exact ⟨_, getElem?_rows held,
    row_rowOf some_data _ index (floats record (List.mem_of_getElem? held))⟩

end Results

/-! ## The rows as they are read -/

section Reading

variable {component : Component} {theme : Theme}

/-- Whether what the template makes of each record closes what it opens can be computed. -/
theorem closes_of_rowMarkup {given : Dataset} (some_data : component.data = some given)
    (closed : (given.options.itemTemplate.all fun template => given.items.all fun record =>
      TagReader.closes ((RowTemplate.ofText template).fill record)) = true) {s : String}
    (row : component.RowMarkup s) : TagReader.closes s = true := by
  obtain ⟨-, data, template, record, same, some_template, held, rfl⟩ := row
  obtain rfl := Option.some.inj (some_data.symm.trans same)
  rw [some_template, Option.all_some, List.all_eq_true] at closed
  exact closed record held

theorem hasId_of_readsTags {trees : List Markup} {nodes : List Node}
    (read : List.Forall₂ TagReader.ReadsTag trees nodes) {id : String}
    (free : ∀ tree ∈ trees, tree.hasId id = false) : ∀ node ∈ nodes, node.hasId id = false := by
  induction read with
  | nil => simp
  | cons first _ ih =>
    rw [List.forall_mem_cons] at free
    refine List.forall_mem_cons.mpr ⟨?_, ih free.2⟩
    cases first
    exact free.1

/-- The element that lists the records is read with the rows in it, and with nothing else, if what the
template makes of each record closes what it opens. -/
theorem exists_readAs_results {given : Dataset} (some_data : component.data = some given)
    (closed : ∀ s, component.RowMarkup s → TagReader.closes s = true) :
    ∃ listed, List.Forall₂ TagReader.ReadsTag (results component theme given).children listed ∧
      TagReader.ReadAs (results component theme given)
        (.element "div" (results component theme given).attributes listed) := by
  have elements : ∀ tree ∈ (results component theme given).children, tree.node.isElement = true := by
    rw [results, Markup.children]
    split
    · exact List.forall_mem_map.mpr fun numbered _ => rfl
    · simp
  have sound : ∀ tree ∈ (results component theme given).children,
      tree.Over (isTagName · = true) (isAttributeName · = true) (TagReader.closes · = true) := by
    rw [results, Markup.children]
    split
    · rename_i server
      exact fun tree member => (built_rows some_data server closed tree member).valid
    · simp
  have names : ∀ entry ∈ (results component theme given).attributes,
      isAttributeName entry.1 = true := fun entry member =>
    (named_results given entry member).isAttributeName
  obtain ⟨listed, rows⟩ := TagReader.exists_readsTags elements sound
  exact ⟨listed, rows, TagReader.readAs_listed rfl names rfl (rows.imp fun _ _ row => row.readAs)⟩

/-- With such content in the panels as well, the whole text is read as the root, and of its children the
element that lists the records is the only one with its id. -/
theorem read?_root_results {given : Dataset} (some_data : component.data = some given)
    (shown : component.pattern.usesData = true)
    (rows : ∀ s, component.RowMarkup s → TagReader.closes s = true)
    (panels : ∀ s, component.PanelMarkup s → TagReader.closes s = true) {found : Node}
    (read : TagReader.ReadAs (results component theme given) found) :
    ∃ before after, TagReader.read? (root component theme).render =
        some (.element "div" (rootAttributes component theme) (before ++ found :: after)) ∧
      ∀ node ∈ before ++ after, node.hasId (resultsId component.id) = false := by
  have alone : (root component theme).children.filter (hasId (resultsId component.id)) =
      [results component theme given] := filter_hasId_root some_data shown
  obtain ⟨front, back, parts, ahead, -, behind⟩ := List.filter_eq_cons_iff.mp alone
  have sound : ∀ tree ∈ (root component theme).children,
      tree.Over (isTagName · = true) (isAttributeName · = true) (TagReader.closes · = true) := by
    have built : Built component (TagReader.closes · = true) (root component theme) :=
      built_root panels rows
    cases built.valid with
    | tag _ _ children => exact children
  have each : ∀ trees : List Markup, trees ⊆ (root component theme).children →
      ∃ nodes, List.Forall₂ TagReader.ReadsTag trees nodes := fun trees within =>
    TagReader.exists_readsTags (fun tree member => isElement_of_mem_root (within member))
      fun tree member => sound tree (within member)
  rw [parts] at each
  obtain ⟨before, first⟩ := each front (List.subset_append_left _ _)
  obtain ⟨after, last⟩ := each back (List.subset_append_of_subset_right _ (List.subset_cons_self _ _))
  have names : ∀ entry ∈ rootAttributes component theme, isAttributeName entry.1 = true :=
    fun entry member => (named_rootAttributes entry member).isAttributeName
  have whole : List.Forall₂ TagReader.ReadAs (root component theme).children
      (before ++ found :: after) := by
    rw [parts]
    exact List.rel_append (first.imp fun _ _ tag => tag.readAs)
      (.cons read (last.imp fun _ _ tag => tag.readAs))
  refine ⟨before, after, (TagReader.readAs_listed rfl names rfl whole).read?, ?_⟩
  refine List.forall_mem_append.mpr ⟨hasId_of_readsTags first ?_, hasId_of_readsTags last ?_⟩
  · exact fun tree member => Bool.eq_false_iff.mpr (ahead tree member)
  · exact fun tree member => Bool.eq_false_iff.mpr (List.filter_eq_nil_iff.mp behind tree member)

end Reading

/-- Where records are shown, one child of the root lists them, and the payload says how many there are.
Exactly one of the two holds: the payload carries the records in their order and the child is empty, or
the payload carries none and the child has a row for each record, in their order. If there is no template
for rows, or what it makes of each record closes what it opens, a reader that comes upon the text of the
child finds one element with the rows in it and nothing else. If the trusted markup of the panels closes
what it opens, too, the whole text is read as the root, and of its children that element alone has its
id. -/
theorem records_reach_once {component : Component} {data : Dataset}
    (given : component.data = some data) (shown : component.pattern.usesData = true)
    (floats : ∀ record ∈ data.items, ∀ x, .float x ∈ (Json.object record).numbers →
      (JsonNumber.float x).ReadsBack) (theme : Theme) :
    ∃ list carried,
      (root component theme).children.filter (hasId (resultsId component.id)) = [list] ∧
        (Payload.ofComponent component theme).toJson.member? "data" = some carried ∧
        carried.member? "total" = some (Json.ofNat data.items.length) ∧
        Xor
          (carried.member? "items" = some (Json.ofList Json.object data.items) ∧ list.children = [])
          (carried.member? "items" = none ∧ list.children.length = data.items.length ∧
            ∀ index record, data.items[index]? = some record →
              ∃ row, list.children[index]? = some row ∧ RowOf row index record) ∧
        ((∀ s, component.RowMarkup s → TagReader.closes s = true) →
          ∃ listed, List.Forall₂ TagReader.ReadsTag list.children listed ∧
            TagReader.ReadAs list (.element "div" list.attributes listed) ∧
            ((∀ s, component.PanelMarkup s → TagReader.closes s = true) →
              ∃ before after, TagReader.read? (root component theme).render =
                  some (.element "div" (rootAttributes component theme)
                    (before ++ .element "div" list.attributes listed :: after)) ∧
                ∀ node ∈ before ++ after, node.hasId (resultsId component.id) = false)) := by
  refine ⟨_, _, filter_hasId_root given shown, Payload.member?_data_ofComponent given shown theme,
    Payload.member?_total _, ?_, fun rows => ?_⟩
  · rw [Payload.member?_items, results, Markup.children]
    cases component.serverMode with
    | true => exact .inr ⟨⟨rfl, rows_rowOf given floats⟩, fun both => Option.some_ne_none _ both.1.symm⟩
    | false => exact .inl ⟨⟨rfl, rfl⟩, fun both => Option.some_ne_none _ both.1⟩
  · obtain ⟨listed, each, read⟩ := exists_readAs_results given rows
    exact ⟨listed, each, read, fun panels => read?_root_results given shown rows panels read⟩

/-- A record with keys that are called like the marks of a row, and with a float, which is one and a
half. -/
def ledgerRecord : Fields :=
  [("Record", .string "\"<b>\" & more"), ("row", .array [.bool true, .null]),
    ("price", .number (.float ⟨false, ⟨4609434218613702656, by decide⟩⟩))]

/-- A dataset whose rows the server renders from a template. -/
def ledgerData : Dataset :=
  ⟨[ledgerRecord], [.ofKind .text "Record", .ofKind .text "row"],
    { DatasetOptions.standard with
      serverRendered := true
      itemTemplate := some "<b>\x7b\x7bRecord\x7d\x7d</b><br>" }⟩

def ledger : Component where
  id := "ledger"
  inputs := ⟨none, some ledgerData, none⟩
  options := .standard
  accepted := by decide +kernel

/-- The record of `ledger` stands in the only row and not in the payload, and can be read back. What the
row is read as is the only node in the element that lists the records. -/
theorem records_reach_once_ledger :
    ledger.data = some ledgerData ∧ ledger.pattern.usesData = true ∧
      Json.Readable RawJson.nestingLimit (.object ledgerRecord) ∧
      ∃ list carried row node before after,
        (root ledger .standard).children.filter (hasId "ledger-results") = [list] ∧
          (Payload.ofComponent ledger .standard).toJson.member? "data" = some carried ∧
          carried.member? "items" = none ∧
          list.children[0]? = some row ∧ RowOf row 0 ledgerRecord ∧ TagReader.ReadsTag row node ∧
          TagReader.read? (root ledger .standard).render =
            some (.element "div" (rootAttributes ledger .standard)
              (before ++ .element "div" list.attributes [node] :: after)) := by
  have given : ledger.data = some ledgerData := rfl
  have shown : ledger.pattern.usesData = true := by decide +kernel
  have back : (ledgerData.items.all fun record =>
      (Json.object record).numbers.all fun n => decide n.ReadsBack) = true := by
    decide +kernel
  have floats : ∀ record ∈ ledgerData.items, ∀ x, .float x ∈ (Json.object record).numbers →
      (JsonNumber.float x).ReadsBack := fun record held x member =>
    of_decide_eq_true (List.all_eq_true.mp (List.all_eq_true.mp back record held) _ member)
  have rows : ∀ s, ledger.RowMarkup s → TagReader.closes s = true := fun s row =>
    closes_of_rowMarkup given (by decide +kernel) row
  have panels : ∀ s, ledger.PanelMarkup s → TagReader.closes s = true := by
    rintro s ⟨-, state, declared, -⟩
    cases declared
  obtain ⟨list, carried, found, payload, -, sent, read⟩ := records_reach_once given shown floats .standard
  obtain ⟨listed, each, -, whole⟩ := read rows
  obtain ⟨before, after, whole, -⟩ := whole panels
  obtain ⟨⟨-, empty⟩, -⟩ | ⟨⟨unsent, count, held⟩, -⟩ := sent
  · have same := List.singleton_inj.mp (found.symm.trans (filter_hasId_root given shown))
    rw [same] at empty
    cases empty
  · obtain ⟨row, first, rowOf⟩ := held 0 ledgerRecord rfl
    obtain ⟨only, children⟩ := List.length_eq_one_iff.mp count
    rw [children] at first each
    obtain rfl := Option.some.inj first
    obtain ⟨node, rest, tag, none, rfl⟩ := List.forall₂_cons_left_iff.mp each
    obtain rfl := List.forall₂_nil_left_iff.mp none
    exact ⟨given, shown, rfl, list, carried, only, node, before, after, found, payload, unsent,
      congrArg (·[0]?) children, rowOf, tag, whole⟩

/-- A component with a template that closes an element it did not open. -/
def torn : Component where
  id := "c"
  inputs := ⟨none, some ⟨[[("a", .string "x")], [("a", .string "y")], [("a", .string "z")]],
    [.ofKind .text "a"],
    { DatasetOptions.standard with serverRendered := true, itemTemplate := some "</div>" }⟩, none⟩
  options := .standard
  accepted := by decide +kernel

/-- The children of the element with this id that a reader of tags has just left. -/
def left? (id : String) (state : TagReader.State) : Option (List Node) :=
  match state.mode, state.frame.reversed with
  | .text [], .element _ attributes inside :: _ =>
    if (attributes.filterMap idOf?).contains id then some inside else none
  | _, _ => none

/-- A reader of the markup of `torn` leaves the element that lists the records with a single node in it. -/
theorem left?_torn :
    (((TagReader.feed TagReader.start ((root torn .standard).chars.take 556)).bind
      (left? "c-results")).map List.length) = some 1 := by
  decide +kernel

/-- What follows closes elements that are not open any more. -/
theorem read?_torn : TagReader.read? (root torn .standard).render = none := by
  have refused : (TagReader.feed TagReader.start (root torn .standard).chars).isNone = true := by
    decide +kernel
  rw [TagReader.read?, Markup.render, String.toList_ofList, Option.isNone_iff_eq_none.mp refused]
  rfl

/-- The payload of `torn` leaves its three records to the rows, but a reader of its markup finds one row
in the element that lists the records, and does not get to the end of the text. -/
theorem template_ends_results :
    ∃ carried front back state inside,
      (Payload.ofComponent torn .standard).toJson.member? "data" = some carried ∧
        carried.member? "total" = some (Json.ofNat 3) ∧ carried.member? "items" = none ∧
        (root torn .standard).chars = front ++ back ∧
        TagReader.feed TagReader.start front = some state ∧
        left? "c-results" state = some inside ∧ inside.length = 1 ∧
        TagReader.read? (root torn .standard).render = none := by
  have shown : torn.pattern.usesData = true := by decide +kernel
  have server : torn.serverMode = true := by decide +kernel
  obtain ⟨inside, found, length⟩ := Option.map_eq_some_iff.mp left?_torn
  obtain ⟨state, fed, found⟩ := Option.bind_eq_some_iff.mp found
  refine ⟨_, _, _, state, inside, Payload.member?_data_ofComponent rfl shown .standard, ?_, ?_,
    (List.take_append_drop 556 _).symm, fed, found, length, read?_torn⟩
  · rw [Payload.member?_total]
    rfl
  · rw [Payload.member?_items, if_pos server]
    rfl

end Structure

end LiveMarkup

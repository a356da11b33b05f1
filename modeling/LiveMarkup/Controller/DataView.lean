import LiveMarkup.Controller.Document
import LiveMarkup.Filter.Set

/-!
# Filtered data

The state of a component's records under its filters: which records match, and which page of them is
shown. Rows that the server rendered are shown and hidden; otherwise the results element receives the
number of records on the page.
-/

set_option autoImplicit false

namespace LiveMarkup

/-- The filters of a component, the page shown, and the indices of the matching records. -/
structure DataView where
  filters : FilterSet
  page : Nat
  matched : List Nat
deriving DecidableEq

/-- What a data view works on: the component's id and records, whether their rows are in the
document, and the page size when there are pages. -/
structure DataSource where
  component : String
  items : List Fields
  schema : List Field
  serverRows : Bool
  perPage : Option Nat

/-- The data source of a component with a dataset. -/
def Component.source? (component : Component) : Option DataSource :=
  component.data.map fun data =>
    let paginate := data.options.pagination || component.detected.has .pagination
    { component := component.id
      items := data.items
      schema := data.effectiveSchema
      serverRows := data.options.serverRendered || component.pattern == .serverFilterable
      perPage := if paginate then some (max data.options.itemsPerPage 1) else none }

namespace DataView

/-- The untouched view: every record matches. -/
def ofSource (source : DataSource) : DataView :=
  ⟨.ofSchema source.schema, 1, List.range source.items.length⟩

/-- How many records match. -/
def visibleCount (view : DataView) : Nat := view.matched.length

/-- How many pages the matching records fill, at least one. -/
def pageCount (view : DataView) (perPage : Option Nat) : Nat :=
  match perPage with
  | some per => max ((view.matched.length + per - 1) / per) 1
  | none => 1

/-- Where the current page starts and where it ends among the matching records. -/
def pageBounds (view : DataView) (perPage : Option Nat) : Nat × Nat :=
  match perPage with
  | some per =>
    let start := min ((view.page - 1) * per) view.matched.length
    (start, min (start + per) view.matched.length)
  | none => (0, view.matched.length)

/-- The indices of the records on the current page. -/
def pageIndices (view : DataView) (perPage : Option Nat) : List Nat :=
  (view.matched.take (view.pageBounds perPage).2).drop (view.pageBounds perPage).1

/-- The records on the current page. -/
def pageItems (view : DataView) (source : DataSource) : List Fields :=
  (view.pageIndices source.perPage).filterMap fun index => source.items[index]?

/-- Brings the document in line with the view. -/
def render (view : DataView) (source : DataSource) (doc : Document) : Document :=
  if source.serverRows then
    (List.range source.items.length).foldl
      (fun doc index => doc.setVisible (rowId source.component index) (view.matched.contains index))
      doc
  else
    doc.modify (resultsId source.component) fun results =>
      { results with value := Json.ofNat (view.pageIndices source.perPage).length }

/-- Turns to a page, or to the nearest one there is. -/
def turnTo (view : DataView) (source : DataSource) (page : Nat) : DataView :=
  { view with page := min (max page 1) (view.pageCount source.perPage) }

/-- Whether the record of an index passes: as its row says where the rows are in the document, else
as the record itself says. -/
def admits (filters : FilterSet) (source : DataSource) (doc : Document) (index : Nat) : Bool :=
  if source.serverRows then
    match doc.find? (rowId source.component index) with
    | some row => filters.admitsWith (Fields.get? row.attributes)
    | none => false
  else (source.items[index]?).any filters.admits

/-- The first page of the records that pass these filters. -/
def refilter (filters : FilterSet) (source : DataSource) (doc : Document) : DataView where
  filters := filters
  page := 1
  matched := (List.range source.items.length).filter (admits filters source doc)

/-- The filters after several inputs. -/
def inputs (filters : FilterSet) (updates : Fields) : FilterSet :=
  updates.foldl (fun filters (field, raw) => filters.update field raw) filters

end DataView

end LiveMarkup

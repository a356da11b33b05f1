import LiveMarkup.Markup.Structure
import LiveMarkup.Proofs.Controller.Fallback
import LiveMarkup.Proofs.Controller.Lifecycle
import Mathlib.Data.List.Basic

/-!
# Pages of records

A component whose rows are not in the document filters its records itself and shows them page by
page. `DataView.Fits` says what holds of its view between any two acts: the matching records are those
that the filters admit, and the page is one of those there are. `Paged` says so of a session, and
`flatMap_pageIndices` that turning all pages shows every matching record once.
-/

set_option autoImplicit false

namespace LiveMarkup

/-! ## Filters that hold nothing -/

namespace FilterSet

/-- Without an active filter and without a search every record passes. -/
theorem admits_of_idle {set : FilterSet} (idle : ∀ entry ∈ set.entries, entry.active = false)
    (search : set.search = "") (record : Fields) : set.admits record = true := by
  have inactive : set.entries.filter FilterEntry.active = [] := by
    rw [List.filter_eq_nil_iff]
    intro entry member
    simp [idle entry member]
  simp [admits, admitsWith, inactive, search]

theorem admits_ofSchema (schema : List Field) (record : Fields) :
    (ofSchema schema).admits record = true :=
  admits_of_idle (by simp [ofSchema]) rfl record

theorem admits_clear (set : FilterSet) (record : Fields) : set.clear.admits record = true :=
  admits_of_idle (by simp [clear]) rfl record

end FilterSet

/-- A page has room for at least one record. -/
theorem Component.one_le_perPage {component : Component} {source : DataSource} {per : Nat}
    (records : component.source? = some source) (paged : source.perPage = some per) : 1 ≤ per := by
  obtain ⟨data, -, rfl⟩ := Option.map_eq_some_iff.mp records
  simp only [Option.ite_none_right_eq_some, Option.some.injEq] at paged
  omega

/-- Outside server mode the rows of a component are not in the document. -/
theorem Component.serverRows_eq_false {component : Component} {source : DataSource}
    (client : component.serverMode = false) (records : component.source? = some source) :
    source.serverRows = false := by
  obtain ⟨data, dataset, rfl⟩ := Option.map_eq_some_iff.mp records
  simpa [Component.serverMode, Component.data, show component.inputs.data = some data from dataset]
    using client

namespace DataView

/-! ## The records of a page -/

theorem pageIndices_some (view : DataView) (per : Nat) :
    view.pageIndices (some per) = (view.matched.drop ((view.page - 1) * per)).take per := by
  simp only [pageIndices, pageBounds]
  generalize (view.page - 1) * per = skipped
  rw [← List.take_eq_take_min, List.drop_take]
  by_cases within : skipped ≤ view.matched.length
  · rw [Nat.min_eq_left within, Nat.add_sub_cancel_left]
  · have beyond : view.matched.length ≤ skipped := Nat.le_of_not_le within
    rw [Nat.min_eq_right beyond, List.drop_length, List.drop_eq_nil_of_le beyond, List.take_nil,
      List.take_nil]

/-- The first pieces of a list, put together. -/
theorem flatMap_pieces {α : Type} (list : List α) (per count : Nat) :
    ((List.range count).flatMap fun page => (list.drop (page * per)).take per) =
      list.take (count * per) := by
  induction count with
  | zero => simp
  | succ count ih =>
    rw [List.range_succ, List.flatMap_append, ih, List.flatMap_singleton, Nat.succ_mul,
      List.take_add]

/-- The pages have room for every matching record. -/
theorem length_le_pageCount_mul (view : DataView) {per : Nat} (positive : 1 ≤ per) :
    view.matched.length ≤ view.pageCount (some per) * per := by
  have divided := Nat.div_add_mod (view.matched.length + per - 1) per
  have rest := Nat.mod_lt (view.matched.length + per - 1) positive
  have filled := Nat.mul_le_mul_right per
    (Nat.le_max_left ((view.matched.length + per - 1) / per) 1)
  rw [Nat.mul_comm] at divided
  simp only [pageCount]
  omega

/-- All pages, one after another, show the matching records in order. -/
theorem flatMap_pageIndices (view : DataView) {perPage : Option Nat}
    (positive : ∀ per, perPage = some per → 1 ≤ per) :
    ((List.range' 1 (view.pageCount perPage)).flatMap fun page =>
      pageIndices { view with page := page } perPage) = view.matched := by
  cases perPage with
  | none => simp [pageCount, pageIndices, pageBounds]
  | some per =>
    have pieces := flatMap_pieces view.matched per (view.pageCount (some per))
    rw [List.take_of_length_le (view.length_le_pageCount_mul (positive per rfl))] at pieces
    simp only [List.range'_eq_map_range, List.flatMap_map, pageIndices_some, Nat.add_sub_cancel_left]
    exact pieces

/-! ## Views that fit their records -/

/-- The view shows one of its pages of the records that its filters admit. -/
structure Fits (view : DataView) (source : DataSource) : Prop where
  matched : view.matched = (List.range source.items.length).filter fun index =>
    (source.items[index]?).any view.filters.admits
  first : 1 ≤ view.page
  last : view.page ≤ view.pageCount source.perPage

theorem one_le_pageCount (view : DataView) (perPage : Option Nat) : 1 ≤ view.pageCount perPage := by
  cases perPage with
  | none => exact Nat.le_refl 1
  | some per => exact Nat.le_max_right _ 1

theorem ofSource_fits (source : DataSource) : (ofSource source).Fits source where
  matched := by
    refine (List.filter_eq_self.mpr ?_).symm
    intro index member
    rw [List.getElem?_eq_getElem (List.mem_range.mp member)]
    exact FilterSet.admits_ofSchema source.schema _
  first := Nat.le_refl 1
  last := one_le_pageCount _ _

theorem refilter_fits {source : DataSource} (client : source.serverRows = false)
    (filters : FilterSet) (doc : Document) : (refilter filters source doc).Fits source where
  matched := by
    have own : admits filters source doc = fun index => (source.items[index]?).any filters.admits := by
      funext index
      rw [admits, client]
      rfl
    rw [refilter, own]
  first := Nat.le_refl 1
  last := one_le_pageCount _ _

theorem Fits.turnTo {view : DataView} {source : DataSource} (fits : view.Fits source) (page : Nat) :
    (view.turnTo source page).Fits source where
  matched := fits.matched
  first := Nat.le_min.mpr ⟨Nat.le_max_right page 1, view.one_le_pageCount _⟩
  last := Nat.min_le_right _ _

theorem Fits.mem_matched_iff {view : DataView} {source : DataSource} (fits : view.Fits source)
    {index : Nat} :
    index ∈ view.matched ↔
      ∃ record, source.items[index]? = some record ∧ view.filters.admits record = true := by
  rw [fits.matched, List.mem_filter, List.mem_range, Option.any_eq_true]
  constructor
  · rintro ⟨-, admitted⟩
    exact admitted
  · rintro ⟨record, found, admitted⟩
    exact ⟨(List.getElem?_eq_some_iff.mp found).1, record, found, admitted⟩

theorem Fits.matched_increasing {view : DataView} {source : DataSource} (fits : view.Fits source) :
    view.matched.Pairwise (· < ·) := by
  rw [fits.matched]
  exact List.pairwise_lt_range.filter _

theorem Fits.length_matched_le {view : DataView} {source : DataSource} (fits : view.Fits source) :
    view.matched.length ≤ source.items.length := by
  have filtered := List.length_filter_le
    (fun index => (source.items[index]?).any view.filters.admits) (List.range source.items.length)
  rwa [← fits.matched, List.length_range] at filtered

/-- Every matching index is that of a record. -/
theorem Fits.isSome_of_mem_matched {view : DataView} {source : DataSource} (fits : view.Fits source)
    {index : Nat} (member : index ∈ view.matched) : (source.items[index]?).isSome = true := by
  obtain ⟨record, present, -⟩ := fits.mem_matched_iff.mp member
  rw [present, Option.isSome_some]

/-- The current page lies within the matching records. -/
theorem pageBounds_le (view : DataView) (perPage : Option Nat) :
    (view.pageBounds perPage).1 ≤ (view.pageBounds perPage).2 ∧
      (view.pageBounds perPage).2 ≤ view.matched.length := by
  cases perPage with
  | none => exact ⟨Nat.zero_le _, Nat.le_refl _⟩
  | some per =>
    exact ⟨Nat.le_min.mpr ⟨Nat.le_add_right _ _, Nat.min_le_right _ _⟩, Nat.min_le_right _ _⟩

theorem Fits.length_pageItems {view : DataView} {source : DataSource} (fits : view.Fits source) :
    (view.pageItems source).length =
      (view.pageBounds source.perPage).2 - (view.pageBounds source.perPage).1 := by
  have found : ∀ index ∈ view.pageIndices source.perPage, (source.items[index]?).isSome = true := by
    intro index member
    exact fits.isSome_of_mem_matched (List.mem_of_mem_take (List.mem_of_mem_drop member))
  rw [pageItems, List.length_filterMap_eq_countP, List.countP_eq_length.mpr found, pageIndices,
    List.length_drop, List.length_take, Nat.min_eq_left (view.pageBounds_le _).2]

/-- What the pages before the current one take, and the end of the current one, fit a word. -/
theorem Fits.fits_word {view : DataView} {source : DataSource} (fits : view.Fits source) {per : Nat}
    (paged : source.perPage = some per) (few : source.items.length < 9223372036854775808)
    (word : per < UInt64.size) :
    (view.page - 1) * per < UInt64.size ∧
      (view.pageBounds (some per)).1 + per < UInt64.size := by
  have last := fits.last
  have short := fits.length_matched_le
  rw [paged, pageCount] at last
  simp only [pageBounds, UInt64.size] at word ⊢
  by_cases only : view.page = 1
  · rw [only, Nat.sub_self, Nat.zero_mul, Nat.zero_min]
    omega
  · -- A page behind the first one begins within the matching records, and they exceed a page.
    have first := fits.first
    have second : 2 ≤ (view.matched.length + per - 1) / per := by omega
    have reached : view.page ≤ (view.matched.length + per - 1) / per := by omega
    have divided := Nat.div_mul_le_self (view.matched.length + per - 1) per
    have twice := Nat.mul_le_mul_right per second
    have before := Nat.mul_le_mul_right per reached
    rw [Nat.sub_mul, Nat.one_mul]
    omega

end DataView

namespace Controller

/-! ## Sessions -/

/-- The records that a session shows. -/
def shownRecords (c : Controller) (session : Session) : List Fields :=
  match session.data, c.component.source? with
  | some view, some source => view.pageItems source
  | _, _ => []

/-- The view of a session fits the records of its component. -/
def Paged (c : Controller) (session : Session) : Prop :=
  ∀ view source, session.data = some view → c.component.source? = some source → view.Fits source

theorem Paged.still {c : Controller} {before after : Session} (paged : c.Paged before)
    (data : after.data = before.data) : c.Paged after := by
  intro view source present
  exact paged view source (data ▸ present)

theorem Paged.act {c : Controller} {before after : Session}
    (client : c.component.serverMode = false) (paged : c.Paged before) (act : Act c before after) :
    c.Paged after := by
  cases act with
  | call call => exact paged.still rfl
  | report name detail work => exact paged.still rfl
  | enter states inactive available => exact paged.still (c.enter_facts before _ _).2.2
  | @filter source filters data records =>
    intro view source' present records'
    obtain rfl : source = source' := Option.some.inj (records.symm.trans records')
    obtain rfl := Option.some.inj present
    exact DataView.refilter_fits (c.component.serverRows_eq_false client records) filters _
  | @turn view source page data records =>
    intro turned source' present records'
    obtain rfl : source = source' := Option.some.inj (records.symm.trans records')
    obtain rfl := Option.some.inj present
    exact (paged view source data records).turnTo page
  | effect rules planned => exact paged.still rfl
  | input element value => exact paged.still rfl

theorem Paged.acts {c : Controller} {before after : Session}
    (client : c.component.serverMode = false) (paged : c.Paged before) (acts : Acts c before after) :
    c.Paged after := by
  induction acts with
  | refl => exact paged
  | tail _ act ih => exact ih.act client act

theorem equip_paged (c : Controller) (session : Session) : c.Paged (c.equip session) := by
  intro view source present records
  simp only [equip, records, Option.map_some, Option.ite_none_right_eq_some, Option.some.injEq]
    at present
  rw [← present.2]
  exact DataView.ofSource_fits source

theorem Paged.perform {c : Controller} {session : Session}
    (client : c.component.serverMode = false) (paged : c.Paged session) (operation : Operation) :
    c.Paged (c.perform session operation) := by
  have performed := c.performed session operation
  generalize c.perform session operation = after at performed ⊢
  cases performed with
  | work acts => exact paged.acts client acts
  | init unstarted launched =>
    cases launched with
    | containerMissing absent => exact paged.still rfl
    | unloaded requests error => exact paged.still rfl
    | cancelled requests calls => exact paged.still rfl
    | ready acts => exact ((c.equip_paged _).acts client acts).still rfl
  | register accepted => exact paged.still rfl
  | destroy calls alive =>
    intro view source present
    cases present

theorem run_paged {c : Controller} (client : c.component.serverMode = false) (doc : Document)
    (operations : List Operation) : c.Paged (c.run (.start c.component doc) operations) := by
  refine run_invariant (fun _ operation paged => paged.perform client operation) ?_ operations
  intro view source present
  cases present

/-! ## Runs -/

/-- Turning to a page there is shows that page. -/
theorem shownRecords_setPage (c : Controller) {session : Session} {view : DataView}
    {source : DataSource} (data : session.data = some view)
    (records : c.component.source? = some source) {page : Nat} (first : 1 ≤ page)
    (last : page ≤ view.pageCount source.perPage) :
    c.shownRecords (c.setPage session page) =
      (DataView.pageIndices { view with page := page } source.perPage).filterMap fun index =>
        source.items[index]? := by
  have turned : view.turnTo source page = { view with page := page } := by
    rw [DataView.turnTo, Nat.max_eq_left first, Nat.min_eq_left last]
  simp only [setPage, data, records, turned, shownRecords, Session.notify]
  rfl

/-- Clearing the filters of a component that filters its records itself brings every record back, on
the first page. -/
theorem clearFilters_shows_all (c : Controller) {session : Session} {view : DataView}
    {source : DataSource} (client : c.component.serverMode = false)
    (ready : session.lifecycle = .ready) (data : session.data = some view)
    (records : c.component.source? = some source) :
    ∃ after cleared, c.clearFilters session = (after, some source.items.length) ∧
      after.data = some cleared ∧ cleared.page = 1 := by
  have every : (DataView.refilter view.filters.clear source session.document).visibleCount =
      source.items.length := by
    have fits := DataView.refilter_fits (c.component.serverRows_eq_false client records)
      view.filters.clear session.document
    rw [DataView.visibleCount, fits.matched, List.filter_eq_self.mpr, List.length_range]
    intro index member
    rw [List.getElem?_eq_getElem (List.mem_range.mp member)]
    exact FilterSet.admits_clear view.filters _
  obtain ⟨after, answer⟩ : ∃ after,
      c.clearFilters session = (after, some source.items.length) := by
    rw [← every]
    simp only [clearFilters, filterWith, ready, data, records]
    exact ⟨_, rfl⟩
  obtain ⟨view', source', filtered, -, -, rfl, -, fellBack, -⟩ := c.filterWith_fellBack answer
  cases fellBack with
  | stayed entries states left => exact ⟨after, _, answer, left, rfl⟩
  | entered inactive entries states left =>
    refine ⟨after, _, answer, left, ?_⟩
    cases c.stateFilters.find? State.noResults with
    | none => rfl
    | some updates => rfl

/-- Turning to every page in turn shows every matching record once, in order. -/
theorem Paged.flatMap_shownRecords {c : Controller} {session : Session} {view : DataView}
    {source : DataSource} (paged : c.Paged session) (data : session.data = some view)
    (records : c.component.source? = some source) :
    ((List.range' 1 (view.pageCount source.perPage)).flatMap fun page =>
        c.shownRecords (c.setPage session page)).map some =
      view.matched.map fun index => source.items[index]? := by
  have shown : ∀ page ∈ List.range' 1 (view.pageCount source.perPage),
      c.shownRecords (c.setPage session page) =
        (DataView.pageIndices { view with page := page } source.perPage).filterMap fun index =>
          source.items[index]? := by
    intro page member
    rw [List.mem_range'_1] at member
    exact c.shownRecords_setPage data records member.1 (by omega)
  rw [List.flatMap_congr shown, ← List.filterMap_flatMap,
    view.flatMap_pageIndices (fun per => c.component.one_le_perPage records),
    List.map_filterMap_some_eq_filter_map_isSome, List.filter_eq_self]
  intro found member
  obtain ⟨index, matching, rfl⟩ := List.mem_map.mp member
  exact (paged view source data records).isSome_of_mem_matched matching

/-- While a component that filters its records itself is ready, exactly the records that its filters
admit match, in order. The page is one of those there are and lies within the matching records;
finding it takes no number beyond a word. All pages together show every matching record once, and
clearing the filters answers the number of all records and leads to the first page. -/
theorem run_pages (c : Controller) (doc : Document) (operations : List Operation) {data : Dataset}
    (dataset : c.component.data = some data) (client : c.component.serverMode = false)
    (few : data.items.length < 9223372036854775808)
    (word : data.options.itemsPerPage < UInt64.size) :
    let session := c.run (.start c.component doc) operations
    session.lifecycle = .ready → c.component.pattern.usesData = true →
      ∃ view source, session.data = some view ∧ c.component.source? = some source ∧
        view.matched.Pairwise (· < ·) ∧
        (∀ index, index ∈ view.matched ↔
          ∃ record, data.items[index]? = some record ∧ view.filters.admits record = true) ∧
        1 ≤ view.page ∧ view.page ≤ view.pageCount source.perPage ∧
        (view.pageBounds source.perPage).1 ≤ (view.pageBounds source.perPage).2 ∧
        (view.pageBounds source.perPage).2 ≤ view.matched.length ∧
        (c.shownRecords session).length =
          (view.pageBounds source.perPage).2 - (view.pageBounds source.perPage).1 ∧
        (∀ per, source.perPage = some per → (view.page - 1) * per < UInt64.size ∧
          (view.pageBounds source.perPage).1 + per < UInt64.size) ∧
        ((List.range' 1 (view.pageCount source.perPage)).flatMap fun page =>
            c.shownRecords (c.setPage session page)).map some =
          view.matched.map (fun index => data.items[index]?) ∧
        ∃ after cleared, c.clearFilters session = (after, some data.items.length) ∧
          after.data = some cleared ∧ cleared.page = 1 := by
  intro session ready uses
  have paged : c.Paged session := run_paged client doc operations
  have sound : c.Sound session := c.run_sound doc operations
  obtain ⟨view, shown⟩ :=
    Option.isSome_iff_exists.mp (sound.data.mpr ⟨ready, uses, by rw [dataset]; rfl⟩)
  obtain ⟨source, records⟩ : ∃ source, c.component.source? = some source := by
    rw [Component.source?, dataset]
    exact ⟨_, rfl⟩
  have own : source.items = data.items ∧
      ∀ per, source.perPage = some per → per = max data.options.itemsPerPage 1 := by
    rw [Component.source?, dataset, Option.map_some, Option.some.injEq] at records
    rw [← records]
    refine ⟨rfl, ?_⟩
    intro per given
    simp only [Option.ite_none_right_eq_some, Option.some.injEq] at given
    exact given.2.symm
  obtain ⟨items, size⟩ := own
  have fits := paged view source shown records
  obtain ⟨ordered, within⟩ := view.pageBounds_le source.perPage
  refine ⟨view, source, shown, records, fits.matched_increasing, ?_, fits.first, fits.last, ordered,
    within, ?_, ?_, ?_, ?_⟩
  · intro index
    rw [← items]
    exact fits.mem_matched_iff
  · rw [shownRecords, shown, records]
    exact fits.length_pageItems
  · intro per given
    have small : per < UInt64.size := by
      rw [size per given]
      simp only [UInt64.size] at word ⊢
      omega
    rw [given]
    exact fits.fits_word given (by rw [items]; exact few) small
  · rw [← items]
    exact paged.flatMap_shownRecords shown records
  · rw [← items]
    exact c.clearFilters_shows_all client ready shown records

/-- Four records on pages of two. -/
def directory : Controller where
  component :=
    { id := "directory"
      inputs :=
        ⟨none,
          some ⟨["Ada", "Emmy", "Grace", "Hanna"].map fun name => [("name", .string name)],
            [.ofKind .text "name"],
            { DatasetOptions.standard with pagination := true, itemsPerPage := 2 }⟩,
          none⟩
      options := .standard
      accepted := by decide +kernel }
  hooks := .none
  loader := .preloaded
  stateFilters := .empty

/-- The second page of the names with an `a`. -/
def directoryRun : Session :=
  directory.run (.start directory.component (.scaffold directory.component))
    [.init, .updateFilter "name" (.string "a"), .setPage 2]

/-- Three names have an `a`, the second page shows one of them, and clearing leads back to the first
page of all. -/
theorem run_pages_directory :
    directory.component.serverMode = false ∧ directoryRun.lifecycle = .ready ∧
      directory.component.pattern.usesData = true ∧
      ∃ view, directoryRun.data = some view ∧ view.matched = [0, 2, 3] ∧ view.page = 2 ∧
        (directory.shownRecords directoryRun).length = 1 ∧
        ∃ after cleared, directory.clearFilters directoryRun = (after, some 4) ∧
          after.data = some cleared ∧ cleared.page = 1 := by
  have client : directory.component.serverMode = false := by decide +kernel
  have ready : directoryRun.lifecycle = .ready := by decide +kernel
  have uses : directory.component.pattern.usesData = true := by decide +kernel
  have reached : directoryRun.data.map (fun view => (view.matched, view.page)) =
      some ([0, 2, 3], 2) := by decide +kernel
  obtain ⟨view, source, shown, records, -, -, -, -, -, -, length, -, -, clearing⟩ :=
    directory.run_pages (.scaffold directory.component)
      [.init, .updateFilter "name" (.string "a"), .setPage 2] rfl client (by decide) (by decide)
      ready uses
  have size : directory.component.source?.map DataSource.perPage = some (some 2) := by
    decide +kernel
  rw [show directoryRun.data = some view from shown, Option.map_some, Option.some.injEq,
    Prod.mk.injEq] at reached
  rw [records, Option.map_some, Option.some.injEq] at size
  refine ⟨client, ready, uses, view, shown, reached.1, reached.2, ?_, clearing⟩
  rw [directoryRun, length, size, DataView.pageBounds, reached.1, reached.2]
  rfl

end Controller

end LiveMarkup

import LiveMarkup.Proofs.Controller.Shown

/-!
# What the scaffold holds

The scaffold has the root of a component, a panel and a tab for each of its states, the element that
lists its records with a row for each of them, whatever its rules watch and act on, and nothing else
(`Document.contains_scaffold_iff`). Each part of it is added by a fold, so it is enough to say what one
step of the fold adds (`Document.contains_foldl_iff`).
-/

set_option autoImplicit false

namespace LiveMarkup

namespace Component

/-- Whether an id is that of the element that lists the records, or that of a row. -/
def OwnsRecords (component : Component) (id : String) : Prop :=
  ∃ data, component.data = some data ∧
    (id = resultsId component.id ∨ ∃ index < data.items.length, id = rowId component.id index)

/-- Whether a rule watches an element or acts on it. -/
def Mentions (component : Component) (id : String) : Prop :=
  ∃ rule ∈ component.rules, id = rule.trigger.element ∨ ∃ action ∈ rule.actions, id = action.target

end Component

namespace Document

theorem contains_put (doc : Document) (id other : String) (change : Element → Element) :
    (doc.put id change).contains other = (decide (other = id) || doc.contains other) := by
  rw [StringMap.contains_eq_isSome, StringMap.contains_eq_isSome, find?_put]
  by_cases same : other = id
  · simp [same]
  · simp [same]

theorem contains_ensure (doc : Document) (id other : String) :
    (doc.ensure id).contains other = (decide (other = id) || doc.contains other) := by
  rw [ensure, StringMap.contains_eq_isSome, StringMap.contains_eq_isSome, StringMap.find?_insertNew]
  by_cases same : other = id
  · simp [same]
  · simp [same]

/-- What a fold adds is what its steps add. -/
theorem contains_foldl_iff {α : Type} {add : Document → α → Document} {adds : α → Prop} {id : String}
    (step : ∀ doc item, (add doc item).contains id = true ↔ doc.contains id = true ∨ adds item)
    (items : List α) (doc : Document) :
    (items.foldl add doc).contains id = true ↔
      doc.contains id = true ∨ ∃ item ∈ items, adds item := by
  induction items generalizing doc with
  | nil => simp
  | cons item rest ih => rw [List.foldl_cons, ih, step, or_assoc, List.exists_mem_cons_iff]

theorem contains_addState_iff {component : String} {initial : Option String} {id : String}
    (doc : Document) (state : State) :
    (addState component initial doc state).contains id = true ↔
      doc.contains id = true ∨ (id = panelId component state.id ∨ id = tabId component state.id) := by
  simp only [addState, contains_put, Bool.or_eq_true, decide_eq_true_eq]
  rw [← or_assoc, or_comm, or_comm (b := id = panelId component state.id)]

theorem contains_addData_iff {component id : String} (doc : Document) (data : Dataset) :
    (addData component doc data).contains id = true ↔
      doc.contains id = true ∨
        (id = resultsId component ∨ ∃ index < data.items.length, id = rowId component index) := by
  have row : ∀ (doc : Document) (entry : Fields × Nat),
      (doc.put (rowId component entry.2) fun row => { row with attributes := entry.1 }).contains id =
          true ↔
        doc.contains id = true ∨ id = rowId component entry.2 := by
    intro doc entry
    rw [contains_put, Bool.or_eq_true, decide_eq_true_eq, or_comm]
  have rows : (∃ entry ∈ data.items.zipIdx, id = rowId component entry.2) ↔
      ∃ index < data.items.length, id = rowId component index := by
    constructor
    · rintro ⟨⟨item, index⟩, member, same⟩
      exact ⟨index, (List.getElem?_eq_some_iff.mp (List.mk_mem_zipIdx_iff_getElem?.mp member)).1, same⟩
    · rintro ⟨index, within, same⟩
      exact ⟨(data.items[index], index), List.mk_mem_zipIdx_iff_getElem?.mpr
        (List.getElem?_eq_getElem within), same⟩
  rw [addData, contains_foldl_iff row, contains_ensure, Bool.or_eq_true, decide_eq_true_eq, rows,
    or_assoc, or_left_comm]

theorem contains_addRule_iff {id : String} (doc : Document) (rule : Rule) :
    (addRule doc rule).contains id = true ↔
      doc.contains id = true ∨
        (id = rule.trigger.element ∨ ∃ action ∈ rule.actions, id = action.target) := by
  have target : ∀ (doc : Document) (action : Action), (doc.ensure action.target).contains id = true ↔
      doc.contains id = true ∨ id = action.target := by
    intro doc action
    rw [contains_ensure, Bool.or_eq_true, decide_eq_true_eq, or_comm]
  rw [addRule, contains_foldl_iff target, contains_ensure, Bool.or_eq_true, decide_eq_true_eq, or_assoc,
    or_left_comm]

/-- The elements of the scaffold. -/
theorem contains_scaffold_iff {component : Component} {id : String} :
    (scaffold component).contains id = true ↔
      id = component.id ∨ component.OwnsView id ∨ component.OwnsRecords id ∨ component.Mentions id := by
  have data : (∃ data ∈ component.data.toList, id = resultsId component.id ∨
      ∃ index < data.items.length, id = rowId component.id index) ↔ component.OwnsRecords id := by
    simp only [Option.mem_toList, Component.OwnsRecords]
  have root : (ensure .empty component.id).contains id = true ↔ id = component.id := by
    rw [contains_ensure, Bool.or_eq_true, decide_eq_true_eq]
    exact or_iff_left Bool.false_ne_true
  rw [scaffold, contains_foldl_iff contains_addRule_iff, contains_foldl_iff contains_addData_iff,
    contains_foldl_iff contains_addState_iff, root, data, or_assoc, or_assoc]
  rfl

end Document

end LiveMarkup

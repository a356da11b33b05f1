import LiveMarkup.Payload
import LiveMarkup.Proofs.Markup.Structure
import Mathlib.Data.List.Perm.Basic

/-!
# Ids in markup

An element is found by its id, which is an attribute whose name may be written in any letter case. The
ids in the markup of a component are those of its root, of its tabs and panels and of its results, and
beside them only what the content of its panels brings along (`Structure.ids_root`). The form controls,
the rows and the custom attributes bring none, whatever their fields and attributes are called.
-/

set_option autoImplicit false

namespace LiveMarkup

namespace Markup

/-- The id that an attribute gives its element. -/
def idOf? (entry : Attribute) : Option String :=
  if Text.asciiLower entry.1 = "id" then entry.2 else none

mutual

/-- The ids of the elements in a tree, in the order of its text. What is below a void tag is not
written, and trusted markup is not looked into. -/
def ids : Markup → List String
  | .text _ => []
  | .trusted _ => []
  | .tag name attributes children =>
    attributes.filterMap idOf? ++ if voidTags.contains name then [] else listIds children

/-- The ids of the elements in trees. -/
def listIds : List Markup → List String
  | [] => []
  | tree :: rest => tree.ids ++ listIds rest

end

theorem listIds_eq_flatMap (trees : List Markup) : listIds trees = trees.flatMap ids := by
  induction trees with
  | nil => rfl
  | cons tree rest ih => rw [listIds, ih, List.flatMap_cons]

theorem listIds_append (trees more : List Markup) :
    listIds (trees ++ more) = listIds trees ++ listIds more := by
  simp only [listIds_eq_flatMap, List.flatMap_append]

theorem listIds_singleton (tree : Markup) : listIds [tree] = tree.ids := by
  rw [listIds, listIds, List.append_nil]

theorem listIds_eq_nil {trees : List Markup} (h : ∀ tree ∈ trees, tree.ids = []) :
    listIds trees = [] := by
  rw [listIds_eq_flatMap, List.flatMap_eq_nil_iff]
  exact h

theorem ids_text (s : String) : (Markup.text s).ids = [] := by rw [ids]

theorem ids_trusted (s : String) : (Markup.trusted s).ids = [] := by rw [ids]

theorem ids_tag {name : String} (written : voidTags.contains name = false)
    (entries : List Attribute) (children : List Markup) :
    (Markup.tag name entries children).ids = entries.filterMap idOf? ++ listIds children := by
  rw [ids, written]
  rfl

/-- The fixed names are in lower case. -/
theorem asciiLower_fixed {name : String} (fixed : name ∈ Structure.attributeNames) :
    Text.asciiLower name = name := by
  have all : ∀ name ∈ Structure.attributeNames, Text.asciiLower name = name := by decide
  exact all name fixed

/-- The ids that attributes with fixed names give. -/
theorem ids_fixed {entries : List Attribute} {found : List String}
    (h : (entries.map Prod.fst).all Structure.attributeNames.contains = true)
    (found_eq : entries.filterMap (fun entry => if entry.1 = "id" then entry.2 else none) = found) :
    entries.filterMap idOf? = found := by
  rw [← found_eq]
  refine List.filterMap_congr fun entry member => ?_
  have fixed := List.all_eq_true.mp h entry.1 (List.mem_map_of_mem member)
  rw [idOf?, asciiLower_fixed (List.contains_iff_mem.mp fixed)]

theorem idless_classAttr (classes : List String) : (classAttr classes).filterMap idOf? = [] := by
  rw [classAttr]
  split
  · rfl
  · exact ids_fixed rfl rfl

theorem idless_append {entries more : List Attribute} (h : entries.filterMap idOf? = [])
    (hmore : more.filterMap idOf? = []) : (entries ++ more).filterMap idOf? = [] := by
  rw [List.filterMap_append, h, hmore, List.append_nil]

/-- Classes, and attributes with fixed names that are no id. -/
theorem idless_classed (classes : List String) {entries : List Attribute}
    (h : (entries.map Prod.fst).all Structure.attributeNames.contains = true)
    (none : entries.filterMap (fun entry => if entry.1 = "id" then entry.2 else none) = []) :
    (classAttr classes ++ entries).filterMap idOf? = [] :=
  idless_append (idless_classAttr classes) (ids_fixed h none)

/-- A tag without an id, around elements without one. -/
theorem idless_tag {name : String} {entries : List Attribute} {children : List Markup}
    (own : entries.filterMap idOf? = []) (below : ∀ child ∈ children, child.ids = []) :
    (Markup.tag name entries children).ids = [] := by
  rw [ids, own, listIds_eq_nil below, ite_self, List.append_nil]

/-! ## Attributes by name -/

/-- Whether a tree is an element with this id. -/
def hasId (id : String) (tree : Markup) : Bool := (tree.attributes.filterMap idOf?).contains id

theorem mem_ids_of_hasId {id : String} {tree : Markup} (found : tree.hasId id = true) :
    id ∈ tree.ids := by
  have own := List.contains_iff_mem.mp found
  cases tree with
  | text s => cases own
  | trusted s => cases own
  | tag name entries children =>
    rw [ids]
    exact List.mem_append_left _ own

theorem mem_listIds_of_hasId {id : String} {tree : Markup} {trees : List Markup}
    (member : tree ∈ trees) (found : tree.hasId id = true) : id ∈ listIds trees := by
  rw [listIds_eq_flatMap]
  exact List.mem_flatMap.mpr ⟨tree, member, mem_ids_of_hasId found⟩

theorem hasId_tag_of_idless {name id : String} {entries : List Attribute} {children : List Markup}
    (idless : entries.filterMap idOf? = []) : (tag name entries children).hasId id = false := by
  rw [hasId, attributes, idless]
  rfl

/-- The values of all attributes with a name, in whatever letter case; a flag has none. -/
def valuesOf (name : String) (entries : List Attribute) : List (Option String) :=
  (entries.filter fun entry => Text.asciiLower entry.1 == name).map Prod.snd

theorem valuesOf_append (name : String) (entries more : List Attribute) :
    valuesOf name (entries ++ more) = valuesOf name entries ++ valuesOf name more := by
  rw [valuesOf, List.filter_append, List.map_append]
  rfl

theorem valuesOf_eq_nil {name : String} {entries : List Attribute}
    (others : ∀ entry ∈ entries, Text.asciiLower entry.1 ≠ name) : valuesOf name entries = [] := by
  rw [valuesOf, List.map_eq_nil_iff, List.filter_eq_nil_iff]
  intro entry member
  simpa using others entry member

theorem valuesOf_fixed (name : String) {entries : List Attribute}
    (fixed : (entries.map Prod.fst).all Structure.attributeNames.contains = true) :
    valuesOf name entries = (entries.filter fun entry => entry.1 == name).map Prod.snd := by
  refine congrArg (List.map Prod.snd) (List.filter_congr fun entry member => ?_)
  have known := List.all_eq_true.mp fixed entry.1 (List.mem_map_of_mem member)
  rw [asciiLower_fixed (List.contains_iff_mem.mp known)]

theorem valuesOf_classAttr {name : String} (other : name ≠ "class") (classes : List String) :
    valuesOf name (classAttr classes) = [] := by
  rw [classAttr]
  split
  · rfl
  · rw [valuesOf_fixed _ rfl]
    simp [attr, Ne.symm other]

end Markup

/-- Whether what was read is an element with this id. -/
def Node.hasId (id : String) : Node → Bool
  | .text _ => false
  | .element _ attributes _ => (attributes.filterMap Markup.idOf?).contains id

namespace Structure

open Markup

variable {component : Component} {theme : Theme}

/-! ## States -/

theorem ids_tab (id : String) (active : Bool) (state : State) :
    (tab id theme active state).ids = [tabId id state.id] := by
  have icon : listIds (state.icon.toList.map fun icon =>
      Markup.tag "span" [attr "aria-hidden" "true", attr "data-icon" icon] []) = [] := by
    refine listIds_eq_nil fun tree member => ?_
    obtain ⟨icon, -, rfl⟩ := List.mem_map.mp member
    exact idless_tag (ids_fixed rfl rfl) (by simp)
  have disabled : (if state.disabled then [flag "disabled"] else []).filterMap idOf? = [] := by
    split
    · exact ids_fixed rfl rfl
    · rfl
  have front : [attr "type" "button", attr "id" (tabId id state.id)].filterMap idOf? =
      [tabId id state.id] := ids_fixed rfl rfl
  have rest : [attr "role" "tab", attr "data-client-action" "switch-state",
      attr "data-state-target" state.id, attr "aria-selected" (if active then "true" else "false"),
      attr "aria-controls" (panelId id state.id)].filterMap idOf? = [] := ids_fixed rfl rfl
  rw [tab, ids_tag rfl, listIds_append, icon, listIds_singleton, ids_text]
  simp only [List.filterMap_append, front, idless_classAttr, rest, disabled, List.append_nil]

theorem ids_panelAttributes (theme : Theme) (id : String) (several lazy active : Bool) (state : State) :
    (panel id theme several lazy active state).attributes.filterMap idOf? = [panelId id state.id] := by
  have front : [attr "id" (panelId id state.id)].filterMap idOf? = [panelId id state.id] :=
    ids_fixed rfl rfl
  have role : [attr "role" "tabpanel", attr "data-state" state.id].filterMap idOf? = [] :=
    ids_fixed rfl rfl
  have labelled : (if several then [attr "aria-labelledby" (tabId id state.id)] else []).filterMap
      idOf? = [] := by
    cases several <;> exact ids_fixed rfl rfl
  have hidden : (if active then [] else [flag "hidden"]).filterMap idOf? = [] := by
    cases active <;> exact ids_fixed rfl rfl
  simp only [panel, Markup.attributes, List.filterMap_append, front, idless_classAttr, role, labelled,
    hidden, List.append_nil]

theorem ids_panel (id : String) (several lazy active : Bool) (state : State) :
    (panel id theme several lazy active state).ids = panelId id state.id :: state.content.tree.ids := by
  have own := ids_panelAttributes theme id several lazy active state
  have body : listIds [if lazy && !active then
      .tag "template" [flag "data-lazy-state"] [state.content.tree] else state.content.tree] =
        state.content.tree.ids := by
    have waiting : [flag "data-lazy-state"].filterMap idOf? = [] := ids_fixed rfl rfl
    rw [listIds_singleton]
    split
    · rw [ids_tag rfl, waiting, listIds_singleton, List.nil_append]
    · rfl
  rw [panel, Markup.attributes] at own
  rw [panel, ids_tag rfl, own, body]
  rfl

/-- The tabs come first, one for each state when there are several; each panel is followed by what its
content brings along. -/
theorem ids_states (component : Component) (theme : Theme) :
    listIds (states component theme) =
      (if 1 < component.states.length then
        component.states.map fun state => tabId component.id state.id else []) ++
      component.states.flatMap fun state =>
        panelId component.id state.id :: state.content.tree.ids := by
  rw [states, listIds_append]
  congr 1
  · by_cases several : 1 < component.states.length
    · rw [if_pos several, if_pos (decide_eq_true several), listIds_singleton, ids_tag rfl,
        idless_classed _ rfl rfl, listIds_eq_flatMap, List.flatMap_map]
      simp only [ids_tab, List.nil_append, ← List.map_eq_flatMap]
    · rw [if_neg several, if_neg (by simpa using several)]
      rfl
  · rw [listIds_eq_flatMap, List.flatMap_map]
    simp only [ids_panel]

/-! ## Data -/

theorem ids_choice (value text : String) : (choice value text).ids = [] :=
  idless_tag (ids_fixed rfl rfl) (by simp [ids_text])

theorem idless_controlAttributes (field : Field) :
    (controlAttributes theme field).filterMap idOf? = [] :=
  idless_classed _ rfl rfl

theorem ids_boundInput (field : Field) (range : FieldRange) (which : String) :
    (boundInput theme field range which).ids = [] :=
  idless_tag (idless_append (idless_controlAttributes field) (ids_fixed rfl rfl)) (by simp)

theorem ids_controls {field : Field} {inputs : List Markup}
    (h : controls theme field = some inputs) : ∀ tree ∈ inputs, tree.ids = [] := by
  have choices : ∀ child ∈ field.choices.map fun c => choice c.value c.label, child.ids = [] := by
    intro child member
    obtain ⟨c, -, rfl⟩ := List.mem_map.mp member
    exact ids_choice _ _
  have own : (controlAttributes theme field).filterMap idOf? = [] := idless_controlAttributes field
  unfold controls at h
  cases kind : field.kind with
  | text =>
    rw [kind] at h
    obtain rfl := Option.some.inj h
    exact List.forall_mem_singleton.mpr (idless_tag (idless_append own (ids_fixed rfl rfl)) (by simp))
  | select =>
    rw [kind] at h
    obtain rfl := Option.some.inj h
    exact List.forall_mem_singleton.mpr
      (idless_tag own (List.forall_mem_cons.mpr ⟨ids_choice _ _, choices⟩))
  | multiselect =>
    rw [kind] at h
    obtain rfl := Option.some.inj h
    exact List.forall_mem_singleton.mpr (idless_tag (idless_append own (ids_fixed rfl rfl)) choices)
  | boolean =>
    rw [kind] at h
    obtain rfl := Option.some.inj h
    refine List.forall_mem_singleton.mpr (idless_tag own ?_)
    simp [ids_choice]
  | range =>
    rw [kind] at h
    obtain ⟨range, -, rfl⟩ := Option.map_eq_some_iff.mp h
    simp [ids_boundInput]
  | unknown =>
    rw [kind] at h
    cases h

theorem ids_filter {field : Field} {tree : Markup} (h : filter theme field = some tree) :
    tree.ids = [] := by
  obtain ⟨inputs, given, rfl⟩ := Option.map_eq_some_iff.mp h
  refine idless_tag (idless_classAttr _) (List.forall_mem_cons.mpr ⟨?_, ids_controls given⟩)
  exact idless_tag rfl (by simp [ids_text])

theorem ids_searchBox : (searchBox theme).ids = [] :=
  idless_tag (idless_append (idless_append (ids_fixed rfl rfl) (idless_classAttr _))
    (ids_fixed rfl rfl)) (by simp)

/-- An attribute that holds a field's value is no id, because its name begins with `data-`. -/
theorem asciiLower_rowAttribute? {field name : String} (h : rowAttribute? field = some name) :
    Text.asciiLower name ≠ "id" := by
  obtain ⟨-, same⟩ := Option.ite_none_right_eq_some.mp h
  obtain rfl := Option.some.inj same
  intro lower
  -- The first letter is enough, and it stays as it is in lower case.
  have first := congrArg (fun s => s.toList.head?) lower
  simp [Text.asciiLower] at first

theorem ids_row (schema : List Field) (template : Option String) (index : Nat) (record : Fields) :
    (row theme schema template index record).ids = [] := by
  refine idless_tag (idless_append (idless_append (idless_classed _ rfl rfl) ?_)
    (ids_fixed rfl rfl)) ?_
  · rw [List.filterMap_eq_nil_iff]
    intro entry member
    obtain ⟨field, -, entry_eq⟩ := List.mem_filterMap.mp member
    obtain ⟨name, named, entry_eq⟩ := Option.bind_eq_some_iff.mp entry_eq
    obtain ⟨value, -, rfl⟩ := Option.map_eq_some_iff.mp entry_eq
    exact if_neg (asciiLower_rowAttribute? named)
  · cases template with
    | some template => simp [ids_trusted]
    | none =>
      intro child member
      obtain ⟨field, -, rfl⟩ := List.mem_map.mp member
      exact idless_tag (ids_fixed rfl rfl) (by simp [ids_text])

theorem ids_resultsAttributes (component : Component) (theme : Theme) (data : Dataset) :
    (results component theme data).attributes.filterMap idOf? = [resultsId component.id] := by
  have front : [attr "id" (resultsId component.id)].filterMap idOf? = [resultsId component.id] :=
    ids_fixed rfl rfl
  have last : [flag "data-strata-results"].filterMap idOf? = [] := ids_fixed rfl rfl
  simp only [results, Markup.attributes, List.filterMap_append, front, idless_classAttr, last,
    List.append_nil]

theorem ids_results (data : Dataset) :
    (results component theme data).ids = [resultsId component.id] := by
  have own := ids_resultsAttributes component theme data
  have rows : listIds (if component.serverMode then rows theme data else []) = [] := by
    refine listIds_eq_nil fun tree member => ?_
    split at member
    · obtain ⟨⟨record, index⟩, -, rfl⟩ := List.mem_map.mp member
      exact ids_row _ _ _ _
    · cases member
  rw [results, Markup.attributes] at own
  rw [results, ids_tag rfl, own, rows]
  rfl

theorem ids_data (given : Dataset) :
    listIds (data component theme given) = [resultsId component.id] := by
  have filters : ∀ tree ∈ (if given.options.search then [searchBox theme] else []) ++
      given.effectiveSchema.filterMap (filter theme), tree.ids = [] := by
    refine List.forall_mem_append.mpr ⟨?_, ?_⟩
    · split
      · exact List.forall_mem_singleton.mpr ids_searchBox
      · simp
    · intro tree member
      obtain ⟨field, -, shown⟩ := List.mem_filterMap.mp member
      exact ids_filter shown
  have pages : listIds (if component.paginates then
      [Markup.tag "nav" (classAttr [theme.classOf "pagination"] ++
        [attr "aria-label" "Pagination", flag "data-strata-pagination"]) []] else []) = [] := by
    refine listIds_eq_nil fun tree member => ?_
    split at member
    · rw [List.mem_singleton.mp member]
      exact idless_tag (idless_classed _ rfl rfl) (by simp)
    · cases member
  rw [data, listIds_append, pages, listIds, listIds, listIds, ids_results,
    idless_tag (idless_classed _ rfl rfl) filters,
    idless_tag (idless_classed _ rfl rfl) (by simp [ids_text])]
  rfl

/-! ## Whole components -/

theorem ids_placeholder : listIds (placeholder component theme) = [] := by
  refine listIds_eq_nil ?_
  unfold placeholder
  split
  · exact List.forall_mem_singleton.mpr (idless_tag (idless_classed _ rfl rfl) (by simp))
  · exact List.forall_mem_singleton.mpr (idless_tag (idless_classed _ rfl rfl) (by simp))
  · simp

/-- A custom attribute is no id, in whatever letter case. -/
theorem idless_customAttributes (entries : List (String × String)) :
    ((entries.filter fun entry => isCustomAttribute entry.1).map fun entry =>
      attr entry.1 entry.2).filterMap idOf? = [] := by
  rw [List.filterMap_eq_nil_iff]
  intro entry member
  obtain ⟨given, hgiven, rfl⟩ := List.mem_map.mp member
  obtain ⟨-, custom⟩ := List.mem_filter.mp hgiven
  refine if_neg fun id => ?_
  simp [isCustomAttribute, show Text.asciiLower given.1 = "id" from id] at custom

theorem ids_rootAttributes :
    (rootAttributes component theme).filterMap idOf? = [component.id] := by
  have front : [attr "id" component.id].filterMap idOf? = [component.id] := ids_fixed rfl rfl
  have marks : [attr "data-pattern" component.pattern.name, flag "data-strata-component"].filterMap
      idOf? = [] := ids_fixed rfl rfl
  rw [rootAttributes]
  simp only [List.filterMap_append, front, idless_classAttr, marks, idless_customAttributes,
    List.append_nil]

theorem ids_root (component : Component) (theme : Theme) :
    (root component theme).ids =
      component.id ::
        ((if component.pattern.usesStates then listIds (states component theme) else []) ++
        if component.pattern.usesData then component.data.toList.map fun _ => resultsId component.id
        else []) := by
  have listed : listIds (if component.pattern.usesData then
      component.data.toList.flatMap (data component theme) else []) =
        if component.pattern.usesData then component.data.toList.map fun _ => resultsId component.id
        else [] := by
    rw [apply_ite listIds]
    cases component.data with
    | none => rfl
    | some given =>
      rw [Option.toList_some, List.flatMap_singleton, ids_data]
      rfl
  rw [root, ids_tag rfl, ids_rootAttributes, listIds_append, listIds_append, apply_ite listIds, listed,
    ids_placeholder, List.append_nil]
  rfl

end Structure

namespace Payload

theorem ids_block (component : Component) (theme : Theme) :
    (block component theme).ids = [blockId component.id] := by
  have front : [Markup.attr "type" "application/json", Markup.attr "id" (blockId component.id)].filterMap
      Markup.idOf? = [blockId component.id] := Markup.ids_fixed rfl rfl
  have last : [Markup.flag "data-strata-config"].filterMap Markup.idOf? = [] :=
    List.filterMap_cons_none (ite_self none)
  have entries := congrArg₂ (· ++ ·) front last
  simp only [← List.filterMap_append] at entries
  rw [block, Markup.ids_tag rfl, Markup.listIds_singleton, Markup.ids_trusted, List.append_nil]
  exact entries

end Payload

namespace Component

/-- What the ids of a component's states add to its own id, for what the states are marked with. -/
def stateMarks (component : Component) (front : String) : List String :=
  if component.pattern.usesStates then component.states.map fun state => front ++ state.id else []

/-- What the ids of a component's tabs add to its own id. A single state has no tab. -/
def tabMarks (component : Component) : List String :=
  if 1 < component.states.length then component.stateMarks "-tab-" else []

/-- What the id of the element that lists a component's records adds to its own id. -/
def resultMarks (component : Component) : List String :=
  if component.pattern.usesData then component.data.toList.map fun _ => "-results" else []

/-- What the ids that a component has for itself add to its own id: nothing for its root, then its tabs,
its panels, its results and its payload. -/
def ownMarks (component : Component) : List String :=
  "" :: (component.tabMarks ++ (component.stateMarks "-panel-" ++ (component.resultMarks ++ ["-config"])))

/-- The ids that a component has for itself. -/
def ownIds (component : Component) : List String := component.ownMarks.map (component.id ++ ·)

/-- The ids that the content of a component's panels brings along. -/
def contentIds (component : Component) : List String :=
  if component.pattern.usesStates then component.states.flatMap fun state => state.content.tree.ids
  else []

/-- The ids in the markup and the payload block of a component. -/
def writtenIds (component : Component) (theme : Theme) : List String :=
  (Structure.root component theme).ids ++ (Payload.block component theme).ids

theorem ownIds_eq (component : Component) :
    component.ownIds = component.id ::
      ((if component.pattern.usesStates then
          (if 1 < component.states.length then
            component.states.map fun state => tabId component.id state.id else []) ++
          component.states.map fun state => panelId component.id state.id
        else []) ++
      (if component.pattern.usesData then component.data.toList.map fun _ => resultsId component.id
        else []) ++
      [Payload.blockId component.id]) := by
  rw [ownIds, ownMarks, tabMarks, stateMarks, stateMarks, resultMarks]
  cases component.pattern.usesStates <;>
    simp [apply_ite (List.map (component.id ++ ·)), Function.comp_def, tabId, panelId, resultsId,
      Payload.blockId, String.append_assoc]

/-- A component is written with the ids that it has for itself and those of its panels' content. -/
theorem writtenIds_perm (component : Component) (theme : Theme) :
    (component.writtenIds theme).Perm (component.ownIds ++ component.contentIds) := by
  rw [writtenIds, Structure.ids_root, Payload.ids_block, ownIds_eq, contentIds]
  by_cases shown : component.pattern.usesStates = true
  · simp only [if_pos shown, Structure.ids_states]
    generalize (if 1 < component.states.length then _ else []) = tabs
    generalize (if component.pattern.usesData then _ else []) = results
    generalize [Payload.blockId component.id] = block
    -- Only the ids in the content of a panel stand elsewhere: right behind the panel that it is in.
    have panels : (component.states.flatMap fun state =>
        panelId component.id state.id :: state.content.tree.ids).Perm
          ((component.states.map fun state => panelId component.id state.id) ++
            component.states.flatMap fun state => state.content.tree.ids) := by
      rw [List.map_eq_flatMap]
      exact (List.flatMap_append_perm component.states (fun state => [panelId component.id state.id])
        fun state => state.content.tree.ids).symm
    generalize component.states.map (fun state => panelId component.id state.id) = own at panels ⊢
    generalize component.states.flatMap (fun state => state.content.tree.ids) = content at panels ⊢
    simp only [List.cons_append, List.append_assoc]
    refine .cons _ (.append_left tabs ((panels.append_right _).trans ?_))
    rw [List.append_assoc, ← List.append_assoc results]
    exact .append_left own List.perm_append_comm
  · simp only [if_neg shown, List.nil_append, List.append_nil, List.cons_append]
    exact .refl _

end Component

end LiveMarkup

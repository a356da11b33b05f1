import LiveMarkup.Proofs.Markup.Ids
import LiveMarkup.Proofs.Text.AsciiCase
import Mathlib.Data.List.Nodup

/-!
# Attributes of tags

Attribute names are one name in whatever letter case they are written, and of two attributes with one
name only the first counts. The opening tags that a component makes itself are those of the component
with its panels emptied (`Component.ownOpenings`). None of them repeats an attribute if and only if the
custom attributes keep clear of each other and of the class of the root, and the fields that a row
holds as attributes keep clear of each other (`Component.distinct_ownOpenings_iff`).
-/

set_option autoImplicit false

namespace LiveMarkup

namespace Markup

/-! ## Opening tags -/

mutual

/-- The attributes of each opening tag in a tree, in the order of its text. What is below a void tag
is not written, and trusted markup is not looked into. -/
def openings : Markup → List (List Attribute)
  | .text _ => []
  | .trusted _ => []
  | .tag name attributes children =>
    attributes :: if voidTags.contains name then [] else listOpenings children

/-- The attributes of each opening tag in trees. -/
def listOpenings : List Markup → List (List Attribute)
  | [] => []
  | tree :: rest => tree.openings ++ listOpenings rest

end

theorem listOpenings_eq_flatMap (trees : List Markup) :
    listOpenings trees = trees.flatMap openings := by
  induction trees with
  | nil => rfl
  | cons tree rest ih => rw [listOpenings, ih, List.flatMap_cons]

theorem listOpenings_append (trees more : List Markup) :
    listOpenings (trees ++ more) = listOpenings trees ++ listOpenings more := by
  simp only [listOpenings_eq_flatMap, List.flatMap_append]

theorem listOpenings_singleton (tree : Markup) : listOpenings [tree] = tree.openings := by
  rw [listOpenings, listOpenings, List.append_nil]

theorem openings_tag {name : String} (written : voidTags.contains name = false)
    (entries : List Attribute) (children : List Markup) :
    (Markup.tag name entries children).openings = entries :: listOpenings children := by
  rw [openings, written]
  rfl

/-! ## Names of attributes -/

/-- The names of attributes in lower case. -/
def lowerNames (entries : List Attribute) : List String :=
  entries.map fun entry => Text.asciiLower entry.1

/-- No two attributes have one name, in whatever letter case. -/
def Distinct (entries : List Attribute) : Prop := (lowerNames entries).Nodup

instance (entries : List Attribute) : Decidable (Distinct entries) :=
  inferInstanceAs (Decidable (lowerNames entries).Nodup)

theorem lowerNames_append (entries more : List Attribute) :
    lowerNames (entries ++ more) = lowerNames entries ++ lowerNames more :=
  List.map_append

theorem lowerNames_fixed {entries : List Attribute}
    (fixed : (entries.map Prod.fst).all Structure.attributeNames.contains = true) :
    lowerNames entries = entries.map Prod.fst := by
  refine List.map_congr_left fun entry member => ?_
  have known := List.all_eq_true.mp fixed entry.1 (List.mem_map_of_mem member)
  exact asciiLower_fixed (List.contains_iff_mem.mp known)

theorem distinct_append_iff {entries more : List Attribute}
    (apart : ∀ name ∈ lowerNames entries, name ∉ lowerNames more) :
    Distinct (entries ++ more) ↔ Distinct entries ∧ Distinct more := by
  rw [Distinct, lowerNames_append, List.nodup_append']
  exact ⟨fun h => ⟨h.1, h.2.1⟩, fun h => ⟨h.1, h.2, apart⟩⟩

/-- An attribute that is not repeated is the only one under its name. -/
theorem valuesOf_of_distinct {entries : List Attribute} (distinct : Distinct entries)
    {entry : Attribute} (member : entry ∈ entries) :
    valuesOf (Text.asciiLower entry.1) entries = [entry.2] := by
  induction entries with
  | nil => cases member
  | cons first rest ih =>
    obtain ⟨fresh, apart⟩ : Text.asciiLower first.1 ∉ lowerNames rest ∧ Distinct rest :=
      List.nodup_cons.mp distinct
    rcases List.mem_cons.mp member with rfl | member
    · have others : valuesOf (Text.asciiLower entry.1) rest = [] := by
        refine valuesOf_eq_nil fun other held same => fresh ?_
        rw [← same]
        exact List.mem_map_of_mem held
      rw [valuesOf, List.filter_cons_of_pos (by simp), List.map_cons]
      exact congrArg (entry.2 :: ·) others
    · have differs : Text.asciiLower first.1 ≠ Text.asciiLower entry.1 := by
        intro same
        rw [same] at fresh
        exact fresh (List.mem_map_of_mem member)
      rw [valuesOf, List.filter_cons_of_neg (by simpa using differs)]
      exact ih apart member

theorem names_classAttr (classes : List String) :
    ((classAttr classes).map Prod.fst).Sublist ["class"] := by
  rw [classAttr]
  split
  · exact List.nil_sublist _
  · exact List.Sublist.refl _

/-- A class that is not blank is an attribute. -/
theorem class_mem_classAttr_iff (name : String) :
    "class" ∈ lowerNames (classAttr [name]) ↔ Text.trim name ≠ "" := by
  rw [classAttr]
  by_cases blank : Text.trim name = ""
  · simp [blank, lowerNames]
  · have lower : Text.asciiLower "class" = "class" := by decide
    simp [blank, lowerNames, attr, lower]

theorem lowerNames_sublist {entries : List Attribute} (names : List String)
    (within : (entries.map Prod.fst).Sublist names)
    (fixed : names.all Structure.attributeNames.contains = true) :
    (lowerNames entries).Sublist names := by
  have known : (entries.map Prod.fst).all Structure.attributeNames.contains = true := by
    rw [List.all_eq_true] at fixed ⊢
    exact fun name member => fixed name (within.subset member)
  rwa [lowerNames_fixed known]

/-- Attributes with fixed names, each of them at most once. -/
theorem distinct_of_sublist {entries : List Attribute} (names : List String)
    (within : (entries.map Prod.fst).Sublist names)
    (fixed : names.all Structure.attributeNames.contains = true) (nodup : names.Nodup) :
    Distinct entries :=
  (lowerNames_sublist names within fixed).nodup nodup

/-- Classes, and attributes with other fixed names. -/
theorem distinct_classed (classes : List String) {entries : List Attribute}
    (fixed : (entries.map Prod.fst).all Structure.attributeNames.contains = true)
    (nodup : ("class" :: entries.map Prod.fst).Nodup) :
    Distinct (classAttr classes ++ entries) := by
  refine distinct_of_sublist (["class"] ++ entries.map Prod.fst) ?_ ?_ nodup
  · rw [List.map_append]
    exact (names_classAttr classes).append (.refl _)
  · rw [List.all_append, fixed]
    rfl

/-! ## Trees without repetitions -/

/-- No opening tag in a tree repeats an attribute. -/
def Unrepeated (tree : Markup) : Prop := ∀ entries ∈ tree.openings, Distinct entries

theorem unrepeated_text (s : String) : (Markup.text s).Unrepeated := by
  intro entries member
  rw [openings] at member
  cases member

theorem unrepeated_trusted (s : String) : (Markup.trusted s).Unrepeated := by
  intro entries member
  rw [openings] at member
  cases member

theorem unrepeated_tag_iff {name : String} (written : voidTags.contains name = false)
    {entries : List Attribute} {children : List Markup} :
    (Markup.tag name entries children).Unrepeated ↔
      Distinct entries ∧ ∀ child ∈ children, child.Unrepeated := by
  rw [Unrepeated, openings_tag written, List.forall_mem_cons, listOpenings_eq_flatMap]
  refine and_congr_right fun _ => ?_
  simp only [List.mem_flatMap, forall_exists_index, and_imp, Unrepeated]
  exact forall_comm.trans (forall_congr' fun _ => forall_comm)

/-- Void or not, a tag repeats no attribute if it and the trees in it repeat none. -/
theorem unrepeated_tag {name : String} {entries : List Attribute} {children : List Markup}
    (own : Distinct entries) (below : ∀ child ∈ children, child.Unrepeated) :
    (Markup.tag name entries children).Unrepeated := by
  cases written : voidTags.contains name with
  | false => exact (unrepeated_tag_iff written).mpr ⟨own, below⟩
  | true =>
    rw [Unrepeated, openings, written]
    exact List.forall_mem_singleton.mpr own

end Markup

namespace Structure

open Markup

/-! ## Attributes of fields -/

/-- The attributes that mark a row, without their values. -/
def rowMarks : List String := ["data-row", "data-index", "data-record"]

theorem exists_of_mem_rowMarks {mark : String} (own : mark ∈ rowMarks) :
    ∃ kept ∈ ["row", "index", "record"], mark = "data-" ++ kept := by
  simp only [rowMarks, List.mem_cons, List.not_mem_nil, or_false] at own
  rcases own with rfl | rfl | rfl
  · exact ⟨"row", by simp, by decide⟩
  · exact ⟨"index", by simp, by decide⟩
  · exact ⟨"record", by simp, by decide⟩

/-- The attribute of a field is its name in lower case behind a fixed front. -/
theorem asciiLower_of_rowAttribute? {field name : String} (given : rowAttribute? field = some name) :
    Text.asciiLower name = "data-" ++ Text.asciiLower field := by
  obtain ⟨-, same⟩ := Option.ite_none_right_eq_some.mp given
  obtain rfl := Option.some.inj same
  have front : Text.asciiLower "data-" = "data-" := by decide
  rw [Text.asciiLower_append, Text.asciiLower_asciiLower, front]

/-- The attribute of a field is none of those that mark a row. -/
theorem rowAttribute?_ne {field name mark : String} (given : rowAttribute? field = some name)
    (own : mark ∈ rowMarks) : Text.asciiLower name ≠ mark := by
  obtain ⟨valid, -⟩ := Option.ite_none_right_eq_some.mp given
  -- The check of the field knows the marks without their common front.
  obtain ⟨kept, member, rfl⟩ := exists_of_mem_rowMarks own
  simp only [Bool.and_eq_true, Bool.not_eq_true', List.contains_eq_mem, decide_eq_false_iff_not]
    at valid
  rw [asciiLower_of_rowAttribute? given]
  intro clash
  obtain same : Text.asciiLower field = kept := by simpa using clash
  exact valid.2 (same ▸ member)

variable {component : Component} {theme : Theme}

/-! ## States -/

theorem unrepeated_tab (id : String) (active : Bool) (state : State) :
    (tab id theme active state).Unrepeated := by
  refine unrepeated_tag (distinct_of_sublist (["type", "id"] ++ ["class"] ++ ["role",
    "data-client-action", "data-state-target", "aria-selected", "aria-controls"] ++ ["disabled"])
    ?_ rfl (by decide)) ?_
  · have disabled : ((if state.disabled then [flag "disabled"] else []).map Prod.fst).Sublist
        ["disabled"] := by
      split
      · exact .refl _
      · exact List.nil_sublist _
    simp only [List.map_append]
    exact (((List.Sublist.refl _).append (names_classAttr _)).append (.refl _)).append disabled
  · refine List.forall_mem_append.mpr ⟨?_, List.forall_mem_singleton.mpr (unrepeated_text _)⟩
    intro tree member
    obtain ⟨icon, -, rfl⟩ := List.mem_map.mp member
    exact unrepeated_tag
      (distinct_of_sublist ["aria-hidden", "data-icon"] (.refl _) rfl (by decide)) (by simp)

theorem unrepeated_panel (id : String) (several lazy active : Bool) {state : State}
    (content : state.content.tree.Unrepeated) :
    (panel id theme several lazy active state).Unrepeated := by
  refine unrepeated_tag (distinct_of_sublist (["id"] ++ ["class"] ++ ["role", "data-state"] ++
    ["aria-labelledby"] ++ ["hidden"]) ?_ rfl (by decide)) (List.forall_mem_singleton.mpr ?_)
  · have labelled : ((if several then [attr "aria-labelledby" (tabId id state.id)] else []).map
        Prod.fst).Sublist ["aria-labelledby"] := by
      split
      · exact .refl _
      · exact List.nil_sublist _
    have hidden : ((if active then [] else [flag "hidden"]).map Prod.fst).Sublist ["hidden"] := by
      split
      · exact List.nil_sublist _
      · exact .refl _
    simp only [List.map_append]
    exact ((((List.Sublist.refl _).append (names_classAttr _)).append (.refl _)).append
      labelled).append hidden
  · split
    · exact unrepeated_tag (by decide) (List.forall_mem_singleton.mpr content)
    · exact content

theorem unrepeated_states (contents : ∀ state ∈ component.states, state.content.tree.Unrepeated) :
    ∀ tree ∈ states component theme, tree.Unrepeated := by
  refine List.forall_mem_append.mpr ⟨?_, ?_⟩
  · intro tree member
    split at member
    · obtain rfl := List.mem_singleton.mp member
      refine unrepeated_tag (distinct_classed _ rfl (by decide)) ?_
      intro tree member
      obtain ⟨state, -, rfl⟩ := List.mem_map.mp member
      exact unrepeated_tab _ _ state
    · cases member
  · intro tree member
    obtain ⟨state, given, rfl⟩ := List.mem_map.mp member
    exact unrepeated_panel _ _ _ _ (contents state given)

/-! ## Filters -/

theorem unrepeated_choice (value text : String) : (choice value text).Unrepeated :=
  unrepeated_tag (distinct_of_sublist ["value"] (.refl _) rfl (by decide))
    (List.forall_mem_singleton.mpr (unrepeated_text _))

/-- The attributes of a control, with some that are no class and say nothing about the field. -/
theorem distinct_control (field : Field) {entries : List Attribute} (names : List String)
    (named : entries.map Prod.fst = names) (within : names.Sublist
      ["type", "data-filter-bound", "min", "max", "step", "placeholder", "multiple"]) :
    Distinct (controlAttributes theme field ++ entries) := by
  refine distinct_of_sublist (["class"] ++ ["data-filter-field", "data-filter-type"] ++ ["type",
    "data-filter-bound", "min", "max", "step", "placeholder", "multiple"]) ?_ rfl (by decide)
  rw [controlAttributes, List.map_append, List.map_append]
  exact ((names_classAttr _).append (.refl _)).append (named ▸ within)

theorem unrepeated_boundInput (field : Field) (range : FieldRange) (which : String) :
    (boundInput theme field range which).Unrepeated :=
  unrepeated_tag (distinct_control field
    ["type", "data-filter-bound", "min", "max", "step", "placeholder"] rfl (by decide)) (by simp)

theorem unrepeated_controls {field : Field} {inputs : List Markup}
    (given : controls theme field = some inputs) : ∀ tree ∈ inputs, tree.Unrepeated := by
  have choices : ∀ child ∈ field.choices.map fun c => choice c.value c.label,
      child.Unrepeated := by
    intro child member
    obtain ⟨c, -, rfl⟩ := List.mem_map.mp member
    exact unrepeated_choice _ _
  have own : Distinct (controlAttributes theme field) := by
    rw [← List.append_nil (controlAttributes theme field)]
    exact distinct_control field [] rfl (List.nil_sublist _)
  unfold controls at given
  cases kind : field.kind with
  | text =>
    rw [kind] at given
    obtain rfl := Option.some.inj given
    exact List.forall_mem_singleton.mpr
      (unrepeated_tag (distinct_control field ["type", "placeholder"] rfl (by decide)) (by simp))
  | select =>
    rw [kind] at given
    obtain rfl := Option.some.inj given
    exact List.forall_mem_singleton.mpr
      (unrepeated_tag own (List.forall_mem_cons.mpr ⟨unrepeated_choice _ _, choices⟩))
  | multiselect =>
    rw [kind] at given
    obtain rfl := Option.some.inj given
    exact List.forall_mem_singleton.mpr
      (unrepeated_tag (distinct_control field ["multiple"] rfl (by decide)) choices)
  | boolean =>
    rw [kind] at given
    obtain rfl := Option.some.inj given
    refine List.forall_mem_singleton.mpr (unrepeated_tag own ?_)
    simp [unrepeated_choice]
  | range =>
    rw [kind] at given
    obtain ⟨range, -, rfl⟩ := Option.map_eq_some_iff.mp given
    simp [unrepeated_boundInput]
  | unknown =>
    rw [kind] at given
    cases given

/-- A tag with nothing but classes. -/
theorem distinct_classAttr (classes : List String) : Distinct (classAttr classes) :=
  distinct_of_sublist ["class"] (names_classAttr classes) rfl (by decide)

theorem unrepeated_filter {field : Field} {tree : Markup} (given : filter theme field = some tree) :
    tree.Unrepeated := by
  obtain ⟨inputs, offered, rfl⟩ := Option.map_eq_some_iff.mp given
  refine unrepeated_tag (distinct_classAttr _)
    (List.forall_mem_cons.mpr ⟨?_, unrepeated_controls offered⟩)
  exact unrepeated_tag (by decide) (List.forall_mem_singleton.mpr (unrepeated_text _))

theorem unrepeated_searchBox : (searchBox theme).Unrepeated := by
  refine unrepeated_tag (distinct_of_sublist (["type"] ++ ["class"] ++ ["placeholder", "aria-label",
    "data-filter-field", "data-filter-type"]) ?_ rfl (by decide)) (by simp)
  rw [List.map_append, List.map_append]
  exact ((List.Sublist.refl _).append (names_classAttr _)).append (.refl _)

/-! ## Rows -/

/-- The fields that the row of a record holds as attributes. -/
def rowFields (schema : List Field) (record : Fields) : List Field :=
  schema.filter fun field =>
    (rowAttribute? field.name).isSome && (Fields.get? record field.name).isSome

/-- No two fields that the row of a record holds have one name, in whatever letter case. -/
def RowApart (schema : List Field) (record : Fields) : Prop :=
  ((rowFields schema record).map fun field => Text.asciiLower field.name).Nodup

instance (schema : List Field) (record : Fields) : Decidable (RowApart schema record) :=
  inferInstanceAs (Decidable (List.Nodup _))

/-- The attributes of a row that hold the values of fields. -/
def rowValues (schema : List Field) (record : Fields) : List Attribute :=
  schema.filterMap fun field =>
    (rowAttribute? field.name).bind fun name =>
      (Fields.get? record field.name).map fun value => attr name (rowValue value)

/-- The names that a row takes from fields, in the order of the schema. -/
theorem lowerNames_rowValues (schema : List Field) (record : Fields) :
    lowerNames (rowValues schema record) =
      (rowFields schema record).map fun field => "data-" ++ Text.asciiLower field.name := by
  induction schema with
  | nil => rfl
  | cons field rest ih =>
    rw [rowValues, rowFields] at ih
    rw [rowValues, rowFields, List.filterMap_cons, List.filter_cons]
    cases named : rowAttribute? field.name with
    | none => exact ih
    | some name =>
      cases held : Fields.get? record field.name with
      | none => simpa using ih
      | some value =>
        refine (congrArg₂ List.cons ?_ ih : _)
        exact asciiLower_of_rowAttribute? named

/-- The attributes of fields repeat none exactly if the names of the fields are apart. -/
theorem distinct_rowValues_iff (schema : List Field) (record : Fields) :
    Distinct (rowValues schema record) ↔ RowApart schema record := by
  have front : (fun field : Field => "data-" ++ Text.asciiLower field.name) =
      ("data-" ++ ·) ∘ fun field => Text.asciiLower field.name := rfl
  rw [Distinct, lowerNames_rowValues, RowApart, front, ← List.map_map]
  refine List.nodup_map_iff fun name other same => ?_
  simpa using same

theorem not_mem_rowValues {mark : String} (own : mark ∈ rowMarks ∨ mark = "class")
    (schema : List Field) (record : Fields) : mark ∉ lowerNames (rowValues schema record) := by
  intro member
  obtain ⟨entry, held, same⟩ := List.mem_map.mp member
  obtain ⟨field, -, given⟩ := List.mem_filterMap.mp held
  obtain ⟨name, named, given⟩ := Option.bind_eq_some_iff.mp given
  obtain ⟨value, -, rfl⟩ := Option.map_eq_some_iff.mp given
  rcases own with own | rfl
  · exact rowAttribute?_ne named own same
  · -- The attribute of a field begins with another letter.
    have lists := congrArg String.toList ((asciiLower_of_rowAttribute? named).symm.trans same)
    rw [String.toList_append] at lists
    exact absurd (congrArg List.head? lists) (by simp)

theorem unrepeated_cell (record : Fields) (field : Field) : (cell record field).Unrepeated :=
  unrepeated_tag (distinct_of_sublist ["data-field"] (.refl _) rfl (by decide))
    (List.forall_mem_singleton.mpr (unrepeated_text _))

theorem distinct_rowAttributes_iff (schema : List Field) (template : Option String) (index : Nat)
    (record : Fields) :
    Distinct (row theme schema template index record).attributes ↔ RowApart schema record := by
  have front : (lowerNames (classAttr [theme.classOf "row"] ++
      [flag "data-row", attr "data-index" (toString index)])).Sublist
        (["class"] ++ ["data-row", "data-index"]) := by
    refine lowerNames_sublist _ ?_ rfl
    rw [List.map_append]
    exact (names_classAttr _).append (.refl _)
  have last : lowerNames [attr "data-record" (Json.compact (.object record))] = ["data-record"] :=
    lowerNames_fixed rfl
  have held (name : String) (own : name ∈ "class" :: rowMarks) :
      name ∉ lowerNames (rowValues schema record) :=
    not_mem_rowValues ((List.mem_cons.mp own).symm) schema record
  -- Classes and marks in front, then the values of fields, then the record.
  have parts : (row theme schema template index record).attributes =
      classAttr [theme.classOf "row"] ++ [flag "data-row", attr "data-index" (toString index)] ++
        rowValues schema record ++ [attr "data-record" (Json.compact (.object record))] := rfl
  rw [parts, distinct_append_iff, distinct_append_iff, distinct_rowValues_iff, and_iff_left,
    and_iff_right]
  · exact front.nodup (by decide)
  · rw [Distinct, last]
    exact List.nodup_singleton _
  · intro name member
    have marks : ["class"] ++ ["data-row", "data-index"] ⊆ "class" :: rowMarks := by decide
    exact held name (marks (front.subset member))
  · intro name member clash
    rw [last, List.mem_singleton] at clash
    subst clash
    rw [lowerNames_append, List.mem_append] at member
    rcases member with member | member
    · exact absurd (front.subset member) (by decide)
    · exact held _ (by decide) member

/-- The row of a record repeats an attribute exactly if two of the fields that it holds have one
name. -/
theorem unrepeated_row_iff (schema : List Field) (template : Option String) (index : Nat)
    (record : Fields) :
    (row theme schema template index record).Unrepeated ↔ RowApart schema record := by
  refine (unrepeated_tag_iff rfl).trans ?_
  rw [and_iff_left]
  · exact distinct_rowAttributes_iff schema template index record
  · cases template with
    | some template => exact List.forall_mem_singleton.mpr (unrepeated_trusted _)
    | none =>
      intro child member
      obtain ⟨field, -, rfl⟩ := List.mem_map.mp member
      exact unrepeated_cell record field

/-! ## Data -/

theorem unrepeated_results_iff (given : Dataset) :
    (results component theme given).Unrepeated ↔
      (component.serverMode = true →
        ∀ record ∈ given.items, RowApart given.effectiveSchema record) := by
  have own : Distinct (results component theme given).attributes := by
    refine distinct_of_sublist (["id"] ++ ["class"] ++ ["data-strata-results"]) ?_ rfl (by decide)
    rw [results, Markup.attributes, List.map_append, List.map_append]
    exact ((List.Sublist.refl _).append (names_classAttr _)).append (.refl _)
  refine (unrepeated_tag_iff rfl).trans ((and_iff_right own).trans ?_)
  cases component.serverMode with
  | false => simp
  | true =>
    rw [if_pos rfl, rows, List.forall_mem_map]
    simp only [unrepeated_row_iff, forall_const]
    -- Each record has one row, whatever its place.
    conv_rhs => rw [← List.zipIdx_map_fst 0 given.items, List.forall_mem_map]

/-- Of what shows a dataset only the rows may repeat an attribute. -/
theorem unrepeated_data_iff (given : Dataset) :
    (∀ tree ∈ data component theme given, tree.Unrepeated) ↔
      (component.serverMode = true →
        ∀ record ∈ given.items, RowApart given.effectiveSchema record) := by
  have filters : (Markup.tag "div" (classAttr [theme.classOf "filters"] ++
      [flag "data-strata-filters"]) ((if given.options.search then [searchBox theme] else []) ++
        given.effectiveSchema.filterMap (filter theme))).Unrepeated := by
    refine unrepeated_tag (distinct_classed _ rfl (by decide)) (List.forall_mem_append.mpr ⟨?_, ?_⟩)
    · split
      · exact List.forall_mem_singleton.mpr unrepeated_searchBox
      · simp
    · intro tree member
      obtain ⟨field, -, shown⟩ := List.mem_filterMap.mp member
      exact unrepeated_filter shown
  have summary (text : String) : (Markup.tag "div" (classAttr [theme.classOf "summary"] ++
      [attr "aria-live" "polite", flag "data-strata-summary"]) [.text text]).Unrepeated :=
    unrepeated_tag (distinct_classed _ rfl (by decide))
      (List.forall_mem_singleton.mpr (unrepeated_text _))
  have pages : ∀ tree ∈ (if component.paginates then
      [Markup.tag "nav" (classAttr [theme.classOf "pagination"] ++
        [attr "aria-label" "Pagination", flag "data-strata-pagination"]) []] else []),
      tree.Unrepeated := by
    split
    · exact List.forall_mem_singleton.mpr
        (unrepeated_tag (distinct_classed _ rfl (by decide)) (by simp))
    · simp
  rw [data, List.forall_mem_append, and_iff_left pages, List.forall_mem_cons, and_iff_right filters,
    List.forall_mem_cons, and_iff_right (summary _), List.forall_mem_singleton,
    unrepeated_results_iff]

/-! ## Whole components -/

theorem unrepeated_placeholder : ∀ tree ∈ placeholder component theme, tree.Unrepeated := by
  have alone {entries : List Attribute} (own : Distinct entries) :
      ∀ tree ∈ [Markup.tag "div" entries []], tree.Unrepeated :=
    List.forall_mem_singleton.mpr (unrepeated_tag own (by simp))
  unfold placeholder
  split
  · exact alone (distinct_classed _ rfl (by decide))
  · exact alone (distinct_classed _ rfl (by decide))
  · simp

/-- The names of the custom attributes that the root takes, in lower case. -/
def customNames (component : Component) : List String :=
  (component.options.customAttributes.keys.filter isCustomAttribute).map Text.asciiLower

/-- The custom attributes keep clear of each other, and of the class that the root may have. -/
structure RootApart (component : Component) (theme : Theme) : Prop where
  customs : (customNames component).Nodup
  unclassed : Text.trim (theme.classOf "component") ≠ "" → "class" ∉ customNames component

/-- A custom attribute is none of those that every root has. -/
theorem not_mem_customNames {name : String}
    (own : name ∈ ["id", "data-pattern", "data-strata-component"]) :
    name ∉ customNames component := by
  intro member
  obtain ⟨given, held, rfl⟩ := List.mem_map.mp member
  have custom := (List.mem_filter.mp held).2
  rw [isCustomAttribute, Bool.and_eq_true, List.contains_iff_mem.mpr own] at custom
  exact absurd custom.2 (by simp)

theorem lowerNames_customAttributes (component : Component) :
    lowerNames ((component.options.customAttributes.entries.filter fun entry =>
      isCustomAttribute entry.1).map fun entry => attr entry.1 entry.2) =
      customNames component := by
  rw [customNames, StringMap.keys, List.filter_map, List.map_map, lowerNames, List.map_map]
  rfl

/-- The root repeats an attribute exactly if two custom attributes have one name or one of them is the
class that it has. -/
theorem distinct_rootAttributes_iff :
    Distinct (rootAttributes component theme) ↔ RootApart component theme := by
  -- What every root has is told apart by its names; the custom attributes come behind it.
  have front : (lowerNames ([attr "id" component.id] ++ classAttr [theme.classOf "component"] ++
      [attr "data-pattern" component.pattern.name, flag "data-strata-component"])).Sublist
        (["id"] ++ ["class"] ++ ["data-pattern", "data-strata-component"]) := by
    refine lowerNames_sublist _ ?_ rfl
    rw [List.map_append, List.map_append]
    exact ((List.Sublist.refl _).append (names_classAttr _)).append (.refl _)
  have classed : "class" ∈ lowerNames ([attr "id" component.id] ++
      classAttr [theme.classOf "component"] ++ [attr "data-pattern" component.pattern.name,
        flag "data-strata-component"]) ↔ Text.trim (theme.classOf "component") ≠ "" := by
    have id : lowerNames [attr "id" component.id] = ["id"] := lowerNames_fixed rfl
    have marks : lowerNames [attr "data-pattern" component.pattern.name,
        flag "data-strata-component"] = ["data-pattern", "data-strata-component"] :=
      lowerNames_fixed rfl
    rw [lowerNames_append, lowerNames_append, id, marks, List.mem_append, List.mem_append,
      class_mem_classAttr_iff]
    simp
  rw [Distinct, rootAttributes, lowerNames_append, lowerNames_customAttributes, List.nodup_append']
  constructor
  · rintro ⟨-, customs, apart⟩
    exact ⟨customs, fun given => apart (classed.mpr given)⟩
  · rintro ⟨customs, unclassed⟩
    refine ⟨front.nodup (by decide), customs, fun name own member => ?_⟩
    -- The check of a custom attribute knows all names in front of it but the class.
    by_cases same : name = "class"
    · subst same
      exact unclassed (classed.mp own) member
    · refine not_mem_customNames ?_ member
      simpa [same] using front.subset own

/-- Whether the rows that a component is written with repeat no attribute. -/
def RowsApart (component : Component) : Prop :=
  component.pattern.usesData = true → component.serverMode = true →
    ∀ data ∈ component.data, ∀ record ∈ data.items, RowApart data.effectiveSchema record

/-- With nothing repeated in its panels, a component repeats attributes at its root and in its rows
only. -/
theorem unrepeated_root_iff
    (contents : ∀ state ∈ component.states, state.content.tree.Unrepeated) :
    (root component theme).Unrepeated ↔ RootApart component theme ∧ RowsApart component := by
  have panels : ∀ tree ∈ (if component.pattern.usesStates then states component theme else []),
      tree.Unrepeated := by
    split
    · exact unrepeated_states contents
    · simp
  have shown : (∀ tree ∈ (if component.pattern.usesData then
      component.data.toList.flatMap (data component theme) else []), tree.Unrepeated) ↔
        RowsApart component := by
    rw [RowsApart]
    cases component.pattern.usesData with
    | false => simp
    | true =>
      cases component.data with
      | none => simp
      | some given => 
        rw [if_pos rfl, Option.toList_some, List.flatMap_singleton, unrepeated_data_iff]
        simp
  rw [root, unrepeated_tag_iff rfl, distinct_rootAttributes_iff, List.forall_mem_append,
    and_iff_left unrepeated_placeholder, List.forall_mem_append, and_iff_right panels, shown]

end Structure

/-! ## Components without content -/

/-- The state with an empty panel. -/
def State.emptied (state : State) : State := { state with content := .text "" }

/-- The inputs with empty panels. -/
def Inputs.emptied (inputs : Inputs) : Inputs :=
  { inputs with states := inputs.states.map (List.map State.emptied) }

theorem Inputs.stateError?_emptied (seen : List String) (index : Nat) (states : List State) :
    stateError? seen index (states.map State.emptied) = stateError? seen index states := by
  induction states generalizing seen index with
  | nil => rfl
  | cons state rest ih =>
    rw [List.map_cons, stateError?, stateError?, ih]
    rfl

theorem Inputs.componentError?_emptied (id : String) (inputs : Inputs) (options : Options) :
    componentError? id inputs.emptied options = componentError? id inputs options := by
  obtain ⟨states, data, rules⟩ := inputs
  cases states with
  | none => rfl
  | some states =>
    unfold componentError? Inputs.error? Inputs.emptied
    simp only [Option.map_some, Option.getD_some, List.map_map, stateError?_emptied]
    rfl

theorem Inputs.facts_emptied (inputs : Inputs) : inputs.emptied.facts = inputs.facts := by
  obtain ⟨states, data, rules⟩ := inputs
  cases states with
  | none => rfl
  | some states => simp [Inputs.facts, Inputs.emptied]

namespace Component

/-- The component with empty panels. -/
def emptied (component : Component) : Component where
  id := component.id
  inputs := component.inputs.emptied
  options := component.options
  accepted := (Inputs.componentError?_emptied _ _ _).trans component.accepted

theorem detected_emptied (component : Component) :
    component.emptied.detected = component.detected := by
  rw [detected, detected, Inputs.resolve, Inputs.resolve]
  unfold emptied
  rw [Inputs.facts_emptied]

theorem states_emptied (component : Component) :
    component.emptied.states = component.states.map State.emptied := by
  obtain ⟨id, ⟨states, data, rules⟩, options, accepted⟩ := component
  cases states with
  | none => rfl
  | some states => rfl

theorem pattern_emptied (component : Component) : component.emptied.pattern = component.pattern :=
  congrArg Detected.pattern component.detected_emptied

theorem paginates_emptied (component : Component) :
    component.emptied.paginates = component.paginates := by
  rw [paginates, paginates, detected_emptied]
  rfl

theorem serverMode_emptied (component : Component) :
    component.emptied.serverMode = component.serverMode := by
  rw [serverMode, serverMode, pattern_emptied]
  rfl

theorem initialState_emptied (component : Component) :
    component.emptied.initialState = component.initialState.map State.emptied := by
  rw [initialState, initialState, states_emptied, State.initial?, State.initial?, List.find?_map,
    List.head?_map, Option.map_or]
  rfl

/-- The attributes of each opening tag that a component makes itself: those of its markup when its
panels are empty. -/
def ownOpenings (component : Component) (theme : Theme) : List (List Attribute) :=
  (Structure.root component.emptied theme).openings

/-- The attributes of each opening tag in the content of a component's panels. -/
def contentOpenings (component : Component) : List (List Attribute) :=
  if component.pattern.usesStates then
    component.states.flatMap fun state => state.content.tree.openings
  else []

end Component

namespace Structure

open Markup

variable {component : Component} {theme : Theme}

/-- Only what is in a panel tells it from an empty one. -/
theorem openings_panel (id : String) (several lazy active : Bool) (state : State) :
    (panel id theme several lazy active state).openings =
      (panel id theme several lazy active state.emptied).openings ++
        state.content.tree.openings := by
  have empty : state.emptied.content.tree.openings = [] := by
    rw [State.emptied, Content.tree, openings]
  have body : (if lazy && !active then tag "template" [flag "data-lazy-state"] [state.content.tree]
      else state.content.tree).openings =
        (if lazy && !active then tag "template" [flag "data-lazy-state"] [state.emptied.content.tree]
          else state.emptied.content.tree).openings ++ state.content.tree.openings := by
    split
    · rw [openings_tag rfl, openings_tag rfl, listOpenings_singleton, listOpenings_singleton, empty]
      rfl
    · rw [empty, List.nil_append]
  rw [panel, panel, openings_tag rfl, openings_tag rfl, listOpenings_singleton,
    listOpenings_singleton, body]
  rfl

theorem openings_states_perm (component : Component) (theme : Theme) :
    (listOpenings (states component theme)).Perm
      (listOpenings (states component.emptied theme) ++
        component.states.flatMap fun state => state.content.tree.openings) := by
  have initial : component.emptied.initialState.map State.id =
      component.initialState.map State.id := by
    rw [component.initialState_emptied, Option.map_map]
    rfl
  have lazy : lazyPanels component.emptied = lazyPanels component := by
    rw [lazyPanels, lazyPanels, component.pattern_emptied, component.detected_emptied]
  -- No tab shows the content of its state.
  have tabs (isActive : String → Bool) :
      ((component.states.map State.emptied).map fun state =>
        tab component.emptied.id theme (isActive state.id) state) =
        component.states.map fun state => tab component.id theme (isActive state.id) state := by
    rw [List.map_map]
    rfl
  have panels (isActive : String → Bool) (several lazy : Bool) :
      (listOpenings (component.states.map fun state =>
        panel component.id theme several lazy (isActive state.id) state)).Perm
      (listOpenings ((component.states.map State.emptied).map fun state =>
        panel component.emptied.id theme several lazy (isActive state.id) state) ++
        component.states.flatMap fun state => state.content.tree.openings) := by
    rw [listOpenings_eq_flatMap, listOpenings_eq_flatMap, List.flatMap_map, List.flatMap_map,
      List.flatMap_map]
    refine .trans (.of_eq (List.flatMap_congr fun state _ => openings_panel _ _ _ _ state)) ?_
    exact (List.flatMap_append_perm component.states _ _).symm
  unfold states
  dsimp only
  rw [listOpenings_append, listOpenings_append, initial, lazy, component.states_emptied,
    List.length_map, tabs fun id => component.initialState.map State.id == some id,
    List.append_assoc]
  exact .append_left _ (panels (fun id => component.initialState.map State.id == some id) _ _)

theorem data_emptied (component : Component) (theme : Theme) :
    data component.emptied theme = data component theme := by
  funext given
  rw [data, data, results, results, component.serverMode_emptied, component.paginates_emptied]
  rfl

/-- Beside the opening tags that a component makes itself there are those of its panels' content. -/
theorem openings_root_perm (component : Component) (theme : Theme) :
    (root component theme).openings.Perm
      (component.ownOpenings theme ++ component.contentOpenings) := by
  have own : rootAttributes component.emptied theme = rootAttributes component theme := by
    rw [rootAttributes, rootAttributes, component.pattern_emptied]
    rfl
  have rest : placeholder component.emptied theme = placeholder component theme := by
    rw [placeholder, placeholder, component.pattern_emptied]
  have given : component.emptied.data = component.data := rfl
  rw [Component.ownOpenings, Component.contentOpenings, root, root, openings_tag rfl,
    openings_tag rfl, own, rest, given, data_emptied, component.pattern_emptied, List.cons_append]
  have panels : (listOpenings (if component.pattern.usesStates then states component theme
      else [])).Perm
        (listOpenings (if component.pattern.usesStates then states component.emptied theme else []) ++
          if component.pattern.usesStates then
            component.states.flatMap fun state => state.content.tree.openings
          else []) := by
    split
    · exact openings_states_perm component theme
    · exact .refl _
  refine .cons _ ?_
  rw [listOpenings_append, listOpenings_append, listOpenings_append, listOpenings_append]
  refine ((panels.append_right _).append_right _).trans ?_
  simp only [List.append_assoc]
  -- What is in the panels comes before the data and the placeholder.
  refine .append_left _ ?_
  rw [← List.append_assoc (listOpenings (if component.pattern.usesData then _ else []))]
  exact List.perm_append_comm

end Structure

namespace Component

open Markup

/-- The opening tags in a component's markup are those that it makes itself and those of its panels'
content. Of its own tags only the root and the rows may repeat an attribute: the root if two custom
attributes have one name or one of them is the class, and a row if two fields that it holds have one
name. -/
theorem distinct_ownOpenings_iff (component : Component) (theme : Theme) :
    (Structure.root component theme).openings.Perm
      (component.ownOpenings theme ++ component.contentOpenings) ∧
    ((∀ entries ∈ component.ownOpenings theme, Distinct entries) ↔
      Structure.RootApart component theme ∧ Structure.RowsApart component) := by
  refine ⟨Structure.openings_root_perm component theme, ?_⟩
  have contents : ∀ state ∈ component.emptied.states, state.content.tree.Unrepeated := by
    rw [component.states_emptied, List.forall_mem_map]
    intro state _
    rw [State.emptied, Content.tree]
    exact unrepeated_text ""
  refine (Structure.unrepeated_root_iff contents).trans (and_congr ?_ ?_)
  · exact ⟨fun h => ⟨h.customs, h.unclassed⟩, fun h => ⟨h.customs, h.unclassed⟩⟩
  · rw [Structure.RowsApart, Structure.RowsApart, component.pattern_emptied,
      component.serverMode_emptied]
    rfl

/-- A custom class stands beside the class that the theme gives the root. -/
theorem custom_class_repeats :
    ¬ ∀ (component : Component) (theme : Theme),
      ∀ entries ∈ component.ownOpenings theme, Distinct entries := by
  intro all
  have root (component : Component) (theme : Theme) :
      Distinct (Structure.rootAttributes component.emptied theme) := by
    refine all component theme _ ?_
    rw [ownOpenings, Structure.root, openings_tag rfl]
    exact List.mem_cons_self
  have repeated := root ⟨"c", ⟨some [State.ofId "a" "a"], none, none⟩,
    { Options.standard with customAttributes := .ofList [("class", "x")] }, by decide +kernel⟩
    .standard
  revert repeated
  decide +kernel

end Component

end LiveMarkup

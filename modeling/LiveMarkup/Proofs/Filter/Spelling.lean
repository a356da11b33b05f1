import LiveMarkup.Filter.Set
import LiveMarkup.Proofs.Rules.Spelling

/-!
# Filters and spellings of numbers

Inputs of filters and records may spell their numbers in two ways. Whether a filter constrains anything
does not depend on that, nor does what a filter for truth values or ranges admits. Filters for texts and
choices and the search look at the text of a value, and they tell `1` from `1.0`. So the answers for a
schema are the same for all spellings exactly when nothing textual can be reached (`FilterSet.Plain`), and
those of a set also while nothing textual is active in it (`Spelling.independent_iff`).

Two sets that have come from the same inputs, spelled in two ways, are `FilterSet.Alike`.
-/

set_option autoImplicit false

namespace LiveMarkup

/-- Whether the filter of a field looks at the texts of values. -/
def FieldKind.Textual (kind : FieldKind) : Prop := kind ∈ [.text, .select, .multiselect]

instance (kind : FieldKind) : Decidable kind.Textual := inferInstanceAs (Decidable (_ ∈ [_, _, _]))

namespace Text

/-- No character is lost in lower case. -/
theorem lowerAfter_eq_nil_iff {before cs : List Char} : lowerAfter before cs = [] ↔ cs = [] := by
  cases cs with
  | nil => simp [lowerAfter]
  | cons c rest =>
    refine iff_of_false ?_ (List.cons_ne_nil c rest)
    rw [lowerAfter, List.append_eq_nil_iff, not_and_or]
    refine .inl ?_
    split
    · split <;> simp
    · unfold lowerChar
      split
      · simp
      · split <;> simp

/-- Of a text that is not blank something is left to search for. -/
theorem isEmpty_lower_trim (s : String) : (lower (trim s)).isEmpty = isBlank s := by
  rw [Bool.eq_iff_iff, String.isEmpty_iff, isBlank_iff_trim_eq_empty, lower, ← String.toList_inj,
    String.toList_ofList, ← @String.toList_inj (trim s)]
  exact lowerAfter_eq_nil_iff

end Text

namespace FilterValue

variable {raw raw' : Json}

/-! ## One filter -/

/-- The choices that are wanted: none when every text is empty. -/
theorem isEmpty_wanted (texts : List String) :
    (texts.filter fun text => !text.isEmpty).isEmpty = texts.all String.isEmpty := by
  induction texts with
  | nil => rfl
  | cons text rest ih => cases empty : text.isEmpty <;> simp [empty, ih]

theorem all_isEmpty_text {xs ys : List Json} (items : List.Forall₂ Json.Respelled xs ys) :
    (xs.all fun item => item.text.isEmpty) = ys.all fun item => item.text.isEmpty := by
  induction items with
  | nil => rfl
  | cons item _ ih => rw [List.all_cons, List.all_cons, item.isEmpty_text, ih]

theorem isEmpty_choicesOf_respelled (h : raw.Respelled raw') :
    (choicesOf raw).isEmpty = (choicesOf raw').isEmpty := by
  have text := h.isEmpty_text
  cases h with
  | same => rfl
  | number => simp only [choicesOf, isEmpty_wanted, List.all_cons, text]
  | array items =>
    simp only [choicesOf, isEmpty_wanted, List.all_map]
    exact all_isEmpty_text items
  | object => simp only [choicesOf, isEmpty_wanted, List.all_cons, text]

theorem number?_of_rel {value value' : Option Json} (rel : Option.Rel Json.Respelled value value') :
    value.bind Json.number? = value'.bind Json.number? := by
  cases rel with
  | none => rfl
  | some value => exact value.number?

theorem boundsOf_respelled (h : raw.Respelled raw') : boundsOf raw = boundsOf raw' := by
  cases h with
  | same => rfl
  | number => rfl
  | array items =>
    cases items with
    | nil => rfl
    | cons first rest =>
      cases rest with
      | nil => simp [boundsOf, first.number?]
      | cons second rest => simp [boundsOf, first.number?, second.number?]
  | object keys values =>
    have bound := fun key => number?_of_rel (Fields.rel_get? keys values key)
    rw [boundsOf, boundsOf, bound, bound]

/-- Whether an input constrains anything does not depend on its spelling. -/
theorem isActive_ofInput_respelled (kind : FieldKind) (h : raw.Respelled raw') :
    (ofInput kind raw).isActive = (ofInput kind raw').isActive := by
  cases kind with
  -- The texts may differ, but a text that is blank is blank in both spellings.
  | text | select => simp only [ofInput, isActive, h.isBlank_text]
  | multiselect => simp only [ofInput, isActive, isEmpty_choicesOf_respelled h]
  | boolean => simp only [ofInput, h.flag?]
  | range => simp only [ofInput, boundsOf_respelled h]
  | unknown => rfl

/-- A filter that is not textual admits a value in all spellings or in none. -/
theorem admits_ofInput_respelled {kind : FieldKind} (plain : ¬ kind.Textual) (h : raw.Respelled raw')
    {candidate candidate' : Option Json} (rel : Option.Rel Json.Respelled candidate candidate') :
    (ofInput kind raw).admits candidate = (ofInput kind raw').admits candidate' := by
  have value : (candidate.getD .null).Respelled (candidate'.getD .null) := by
    cases rel with
    | none => exact .same _
    | some value => exact value
  cases kind with
  | text | select | multiselect => exact absurd (by decide) plain
  | boolean => simp only [ofInput, admits, passes, h.flag?, value.flag?]
  | range => simp only [ofInput, admits, passes, boundsOf_respelled h, value.number?]
  | unknown => rfl

theorem isActive_empty (kind : FieldKind) : (empty kind).isActive = false := by
  cases kind <;> rfl

end FilterValue

namespace FilterEntry

/-- Filters of one field that have come from one input in two spellings. -/
structure Alike (entry other : FilterEntry) : Prop where
  field : entry.field = other.field
  kind : entry.kind = other.kind
  active : entry.active = other.active
  admits : ¬ entry.kind.Textual → ∀ {candidate candidate' : Option Json},
    Option.Rel Json.Respelled candidate candidate' →
      entry.value.admits candidate = other.value.admits candidate'

end FilterEntry

namespace FilterEntry

variable {entry other : FilterEntry} {raw raw' : Json}

theorem Alike.refresh (alike : entry.Alike other) (h : raw.Respelled raw') :
    (FilterSet.refresh raw entry).Alike (FilterSet.refresh raw' other) where
  field := alike.field
  kind := alike.kind
  active := by
    simp only [FilterSet.refresh, ← alike.kind]
    exact FilterValue.isActive_ofInput_respelled _ h
  admits plain _ _ rel := by
    simp only [FilterSet.refresh, ← alike.kind]
    exact FilterValue.admits_ofInput_respelled plain h rel

/-- Untouched filters of one field are alike. -/
theorem alike_empty (field : String) (kind : FieldKind) :
    Alike ⟨field, kind, .empty kind, false⟩ ⟨field, kind, .empty kind, false⟩ where
  field := rfl
  kind := rfl
  active := rfl
  admits _ _ _ _ := by
    simp only [FilterValue.admits, FilterValue.isActive_empty, Bool.not_false, Bool.true_or]

end FilterEntry

namespace FilterSet

/-! ## All filters of a schema -/

/-- Something that happens to filters: an input of a field, or that they are cleared. -/
inductive Change where
  | input (field : String) (raw : Json)
  | clear

/-- Changes that differ in the spelling of numbers only. -/
inductive Change.Respelled : Change → Change → Prop where
  | input (field : String) {raw raw' : Json} (h : raw.Respelled raw') :
      Respelled (.input field raw) (.input field raw')
  | clear : Respelled .clear .clear

/-- The filters after a change. -/
def after (set : FilterSet) : Change → FilterSet
  | .input field raw => set.update field raw
  | .clear => set.clear

/-- The filters after changes, in order. -/
def run (set : FilterSet) (changes : List Change) : FilterSet := changes.foldl after set

/-- What every change keeps holds after all of them. -/
theorem run_keeps {Holds : FilterSet → Prop}
    (step : ∀ set change, Holds set → Holds (set.after change)) {set : FilterSet} (start : Holds set)
    (changes : List Change) : Holds (set.run changes) := by
  induction changes generalizing set with
  | nil => exact start
  | cons change rest ih => exact ih (step set change start)

theorem idle_ofSchema (schema : List Field) :
    ∀ entry ∈ (ofSchema schema).entries, entry.active = false := by
  intro entry member
  obtain ⟨field, -, rfl⟩ := List.mem_map.mp member
  rfl

/-- Filters that have come from one list of changes in two spellings. -/
structure Alike (set other : FilterSet) : Prop where
  entries : List.Forall₂ FilterEntry.Alike set.entries other.entries
  searchable : set.searchable = other.searchable
  search : set.search.isEmpty = other.search.isEmpty

theorem alike_ofSchema (schema : List Field) : (ofSchema schema).Alike (ofSchema schema) where
  entries := by
    rw [ofSchema, List.forall₂_map_left_iff, List.forall₂_map_right_iff, List.forall₂_same]
    exact fun field _ => FilterEntry.alike_empty _ _
  searchable := rfl
  search := rfl

theorem alike_refreshFirst {entries others : List FilterEntry} {raw raw' : Json}
    (alike : List.Forall₂ FilterEntry.Alike entries others) (field : String) (h : raw.Respelled raw') :
    List.Forall₂ FilterEntry.Alike (refreshFirst field raw entries) (refreshFirst field raw' others) := by
  induction alike with
  | nil => exact .nil
  | cons entry rest ih =>
    rw [refreshFirst, refreshFirst, ← entry.field]
    split
    · exact .cons (entry.refresh h) rest
    · exact .cons entry ih

section Alike

variable {set other : FilterSet}

theorem Alike.update (alike : set.Alike other) (field : String) {raw raw' : Json}
    (h : raw.Respelled raw') : (set.update field raw).Alike (other.update field raw') := by
  rw [FilterSet.update, FilterSet.update]
  split
  · refine ⟨alike.entries, alike.searchable, ?_⟩
    rw [Text.isEmpty_lower_trim, Text.isEmpty_lower_trim, h.isBlank_text]
  · exact ⟨alike_refreshFirst alike.entries field h, alike.searchable, alike.search⟩

theorem Alike.clear (alike : set.Alike other) : set.clear.Alike other.clear where
  entries := by
    rw [FilterSet.clear, FilterSet.clear, List.forall₂_map_left_iff, List.forall₂_map_right_iff]
    refine alike.entries.imp fun entry other alike => ?_
    rw [← alike.field, ← alike.kind]
    exact FilterEntry.alike_empty _ _
  searchable := alike.searchable
  search := rfl

theorem Alike.after (alike : set.Alike other) {change change' : Change} (h : change.Respelled change') :
    (set.after change).Alike (other.after change') := by
  cases h with
  | input field h => exact alike.update field h
  | clear => exact alike.clear

theorem Alike.run (alike : set.Alike other) {changes changes' : List Change}
    (h : List.Forall₂ Change.Respelled changes changes') :
    (set.run changes).Alike (other.run changes') := by
  induction h generalizing set other with
  | nil => exact alike
  | cons change _ ih => exact ih (alike.after change)

/-- The active filters admit the same fields when none of them is textual. -/
theorem all_respelled {entries others : List FilterEntry}
    (alike : List.Forall₂ FilterEntry.Alike entries others)
    (plain : ∀ entry ∈ entries, entry.active = true → ¬ entry.kind.Textual) {record record' : Fields}
    (h : record.Respelled record') :
    ((entries.filter FilterEntry.active).all fun entry => entry.value.admits (record.get? entry.field)) =
      (others.filter FilterEntry.active).all fun entry => entry.value.admits (record'.get? entry.field) := by
  induction alike with
  | nil => rw [List.filter_nil, List.all_nil, List.all_nil]
  | cons same _ ih =>
    rw [List.forall_mem_cons] at plain
    have rest := ih plain.2
    rw [List.filter_cons, List.filter_cons, ← same.active]
    split
    · rename_i active
      rw [List.all_cons, List.all_cons, rest, same.admits (plain.1 active) (h.get? _), same.field]
    · exact rest

/-- Alike filters admit the same records while nothing textual is active in them. -/
theorem Alike.admits (alike : set.Alike other)
    (plain : ∀ entry ∈ set.entries, entry.active = true → ¬ entry.kind.Textual)
    (unsearched : set.search.isEmpty = true ∨ set.searchable = []) {record record' : Fields}
    (h : record.Respelled record') : set.admits record = other.admits record' := by
  rw [FilterSet.admits, FilterSet.admits, admitsWith, admitsWith,
    all_respelled alike.entries plain h, ← alike.search, ← alike.searchable]
  rcases unsearched with empty | none
  · rw [empty, Bool.true_or, Bool.true_or]
  · rw [none, List.any_nil, List.any_nil]

end Alike

/-! ## What can be reached -/

/-- The kind of the filter that inputs of a field go to: the first one of this name. -/
def kind? (set : FilterSet) (name : String) : Option FieldKind := (set.entry? name).map FilterEntry.kind

/-- Nothing textual can be reached: no field is searchable, and no filter that inputs go to is textual. -/
def Plain (set : FilterSet) : Prop :=
  set.searchable = [] ∧ ∀ name kind, name ≠ searchField → set.kind? name = some kind → ¬ kind.Textual

/-- An active filter is of a kind that inputs go to. -/
def Reached (set : FilterSet) : Prop :=
  ∀ entry ∈ set.entries, entry.active = true →
    ∃ name, name ≠ searchField ∧ set.kind? name = some entry.kind

theorem kind?_congr {set other : FilterSet}
    (same : set.entries.map (fun entry => (entry.field, entry.kind)) =
      other.entries.map fun entry => (entry.field, entry.kind)) (name : String) :
    set.kind? name = other.kind? name := by
  have found : ∀ set : FilterSet, set.kind? name =
      ((set.entries.map fun entry => (entry.field, entry.kind)).find? fun pair => pair.1 == name).map
        Prod.snd := by
    intro set
    rw [kind?, entry?, List.find?_map, Option.map_map]
    rfl
  rw [found, found, same]

theorem map_refreshFirst (field : String) (raw : Json) (entries : List FilterEntry) :
    (refreshFirst field raw entries).map (fun entry => (entry.field, entry.kind)) =
      entries.map fun entry => (entry.field, entry.kind) := by
  induction entries with
  | nil => rfl
  | cons entry rest ih =>
    rw [refreshFirst]
    split
    · rfl
    · rw [List.map_cons, List.map_cons, ih]

/-- A change keeps the fields and the kinds of the filters. -/
theorem kind?_after (set : FilterSet) (change : Change) (name : String) :
    (set.after change).kind? name = set.kind? name := by
  refine kind?_congr ?_ name
  cases change with
  | input field raw =>
    rw [after, update]
    split
    · rfl
    · exact map_refreshFirst field raw set.entries
  | clear => simp [after, clear]

theorem mem_refreshFirst {field : String} {raw : Json} {entries : List FilterEntry}
    {entry : FilterEntry} (member : entry ∈ refreshFirst field raw entries) :
    entry ∈ entries ∨ ∃ first, entries.find? (fun entry => entry.field == field) = some first ∧
      entry = refresh raw first := by
  induction entries with
  | nil => cases member
  | cons first rest ih =>
    rw [refreshFirst] at member
    split at member
    · rename_i named
      rcases List.mem_cons.mp member with rfl | member
      · exact .inr ⟨first, by simp [named], rfl⟩
      · exact .inl (List.mem_cons_of_mem _ member)
    · rename_i other
      rcases List.mem_cons.mp member with rfl | member
      · exact .inl List.mem_cons_self
      · rw [List.find?_cons_of_neg (by simpa using other)]
        exact (ih member).imp_left (List.mem_cons_of_mem _)

/-- An input makes no filter active but the one that it goes to. -/
theorem Reached.after {set : FilterSet} (reached : set.Reached) (change : Change) :
    (set.after change).Reached := by
  intro entry member active
  simp only [kind?_after]
  cases change with
  | input field raw =>
    rw [FilterSet.after, update] at member
    split at member
    · -- An input of the search leaves the filters of the fields alone.
      exact reached entry member active
    · rename_i other
      rcases mem_refreshFirst member with member | ⟨first, found, rfl⟩
      · exact reached entry member active
      · exact ⟨field, other, by rw [kind?, entry?, found]; rfl⟩
  | clear =>
    obtain ⟨entry, -, rfl⟩ := List.mem_map.mp member
    cases active

theorem reached_ofSchema (schema : List Field) : (ofSchema schema).Reached := by
  intro entry member active
  rw [idle_ofSchema schema entry member] at active
  cases active

theorem searchable_after (set : FilterSet) (change : Change) :
    (set.after change).searchable = set.searchable := by
  cases change with
  | input field raw =>
    rw [after, update]
    split <;> rfl
  | clear => rfl

theorem Plain.after {set : FilterSet} (plain : set.Plain) (change : Change) :
    (set.after change).Plain := by
  refine ⟨(searchable_after set change).trans plain.1, fun name kind other => ?_⟩
  rw [kind?_after]
  exact plain.2 name kind other

/-- Where nothing textual can be reached, nothing textual is active. -/
theorem Plain.not_textual {set : FilterSet} (plain : set.Plain) (reached : set.Reached) :
    ∀ entry ∈ set.entries, entry.active = true → ¬ entry.kind.Textual := by
  intro entry member active
  obtain ⟨name, other, found⟩ := reached entry member active
  exact plain.2 name _ other found

/-! ## Telling spellings apart -/

/-- An input that only the float spelling of one has in its text. -/
def pointedInput : Json := .string "1.0"

theorem filter_active_refreshFirst {name : String} {raw : Json} {entries : List FilterEntry}
    {first : FilterEntry} (idle : ∀ entry ∈ entries, entry.active = false)
    (found : entries.find? (fun entry => entry.field == name) = some first) :
    (refreshFirst name raw entries).filter FilterEntry.active =
      [refresh raw first].filter FilterEntry.active := by
  induction entries with
  | nil => cases found
  | cons entry rest ih =>
    rw [List.forall_mem_cons] at idle
    have none : rest.filter FilterEntry.active = [] := by simpa using idle.2
    rw [refreshFirst]
    split
    · rename_i named
      rw [List.find?_cons_of_pos (by simpa using named)] at found
      obtain rfl := Option.some.inj found
      rw [List.filter_cons, none, List.filter_cons, List.filter_nil]
    · rename_i other
      rw [List.find?_cons_of_neg (by simpa using other)] at found
      rw [List.filter_cons_of_neg (by simp [idle.1]), ih idle.2 found]

/-- After one input the answer is that of the filter it goes to. -/
theorem admits_update_ofSchema {schema : List Field} {name : String} {kind : FieldKind}
    (other : name ≠ searchField) (found : (ofSchema schema).kind? name = some kind) (raw : Json)
    (record : Fields) :
    ((ofSchema schema).update name raw).admits record =
      (FilterValue.ofInput kind raw).admits (record.get? name) := by
  obtain ⟨first, given, rfl⟩ := Option.map_eq_some_iff.mp found
  have named : first.field = name := by simpa using List.find?_some given
  have unsearched : (ofSchema schema).search.isEmpty = true := rfl
  rw [admits, admitsWith, update, if_neg other]
  simp only [filter_active_refreshFirst (idle_ofSchema schema) given, unsearched, Bool.true_or, Bool.and_true]
  cases active : (FilterValue.ofInput first.kind raw).isActive with
  | true => simp [refresh, active, named]
  | false => simp [refresh, active, FilterValue.admits]

/-- After one input of the search the answer is that of the search. -/
theorem admits_search_ofSchema (schema : List Field) (raw : Json) (record : Fields) :
    ((ofSchema schema).update searchField raw).admits record =
      ((Text.lower (Text.trim raw.text)).isEmpty || (ofSchema schema).searchable.any fun field =>
        (record.get? field).any fun value =>
          Text.contains (Text.lower value.text) (Text.lower (Text.trim raw.text))) := by
  have idle : (ofSchema schema).entries.filter FilterEntry.active = [] := by
    rw [List.filter_eq_nil_iff]
    intro entry member
    simp [idle_ofSchema schema entry member]
  rw [admits, admitsWith, update, if_pos rfl]
  simp only [idle, List.all_nil, Bool.true_and]

/-- A record with one field. -/
def single (name : String) (value : Json) : Fields := [(name, value)]

theorem respelled_single (name : String) :
    (single name (.ofNat 1)).Respelled (single name Comparison.pointedOne) :=
  .object rfl (.cons Comparison.respelled_one .nil)

theorem get?_single (name : String) (value : Json) (field : String) :
    (single name value).get? field = if name = field then some value else none := by
  by_cases here : name = field <;> simp [single, Fields.get?, here]

/-- A textual filter tells `1` from `1.0`. -/
theorem admits_one {kind : FieldKind} (textual : kind.Textual) :
    (FilterValue.ofInput kind pointedInput).admits (some (.ofNat 1)) ≠
      (FilterValue.ofInput kind pointedInput).admits (some Comparison.pointedOne) := by
  cases kind with
  | text | select | multiselect => decide +kernel
  | _ => exact absurd textual (by decide)

/-- The search tells `1` from `1.0` in a searchable field. -/
theorem search_one {schema : List Field} {name : String} (member : name ∈ (ofSchema schema).searchable) :
    ((ofSchema schema).update searchField pointedInput).admits (single name (.ofNat 1)) ≠
      ((ofSchema schema).update searchField pointedInput).admits (single name Comparison.pointedOne) := by
  have some : (Text.lower (Text.trim pointedInput.text)).isEmpty = false := by decide +kernel
  have plain : Text.contains (Text.lower (Json.ofNat 1).text) (Text.lower (Text.trim pointedInput.text)) =
      false := by decide +kernel
  have pointed : Text.contains (Text.lower Comparison.pointedOne.text)
      (Text.lower (Text.trim pointedInput.text)) = true := by decide +kernel
  have absent : ((ofSchema schema).update searchField pointedInput).admits (single name (.ofNat 1)) =
      false := by
    rw [admits_search_ofSchema, some, Bool.false_or, List.any_eq_false]
    intro field _
    rw [get?_single]
    split <;> simp [plain]
  have found : ((ofSchema schema).update searchField pointedInput).admits
      (single name Comparison.pointedOne) = true := by
    rw [admits_search_ofSchema, some, Bool.false_or, List.any_eq_true]
    exact ⟨name, member, by rw [get?_single, if_pos rfl, Option.any_some, pointed]⟩
  rw [absent, found]
  exact Bool.false_ne_true

/-- The answers for a schema do not depend on spellings exactly when nothing textual can be reached. -/
theorem respelled_iff (schema : List Field) :
    (∀ changes changes' record record', List.Forall₂ Change.Respelled changes changes' →
      Fields.Respelled record record' →
        ((ofSchema schema).run changes).admits record = ((ofSchema schema).run changes').admits record') ↔
      (ofSchema schema).Plain := by
  constructor
  · intro same
    -- One input and a record with one field are enough to tell the spellings apart.
    have told : ∀ field name, ((ofSchema schema).update field pointedInput).admits
        (single name (.ofNat 1)) = ((ofSchema schema).update field pointedInput).admits
          (single name Comparison.pointedOne) := fun field name =>
      same [.input field pointedInput] [.input field pointedInput] _ _
        (.cons (.input field (.same _)) .nil) (respelled_single name)
    refine ⟨?_, fun name kind other found textual => ?_⟩
    · rw [List.eq_nil_iff_forall_not_mem]
      exact fun name member => search_one member (told searchField name)
    · have one := told name name
      rw [admits_update_ofSchema other found, admits_update_ofSchema other found, get?_single,
        get?_single, if_pos rfl, if_pos rfl] at one
      exact admits_one textual one
  · intro plain changes changes' record record' h h'
    -- What is reached is an invariant of one run, and being alike is one of both runs together.
    have reached := @run_keeps Reached (fun _ change reached => reached.after change) _
      (reached_ofSchema schema) changes
    have plain := @run_keeps Plain (fun _ change plain => plain.after change) _ plain changes
    have alike := (alike_ofSchema schema).run h
    exact alike.admits (plain.not_textual reached) (.inr plain.1) h'

end FilterSet

namespace Spelling

/-- What does not depend on the spelling of numbers: a comparison exactly when it looks for neither an equal
value nor a text; the answers of the filters for a schema exactly when nothing textual can be reached in it;
and for any schema the answers of filters in which nothing textual is active. -/
theorem independent_iff (comparison : Comparison) (schema : List Field) :
    ((∀ actual actual' expected expected' : Json, actual.Respelled actual' →
      expected.Respelled expected' →
        comparison.holds actual expected = comparison.holds actual' expected') ↔
      ¬ comparison.Textual) ∧
    ((∀ changes changes' record record', List.Forall₂ FilterSet.Change.Respelled changes changes' →
      Fields.Respelled record record' →
        ((FilterSet.ofSchema schema).run changes).admits record =
          ((FilterSet.ofSchema schema).run changes').admits record') ↔
      (FilterSet.ofSchema schema).Plain) ∧
    ∀ (changes changes' : List FilterSet.Change) (record record' : Fields),
      List.Forall₂ FilterSet.Change.Respelled changes changes' → Fields.Respelled record record' →
        let set := (FilterSet.ofSchema schema).run changes
        (∀ entry ∈ set.entries, entry.active = true → ¬ entry.kind.Textual) →
        (set.search.isEmpty = true ∨ set.searchable = []) →
          set.admits record = ((FilterSet.ofSchema schema).run changes').admits record' := by
  refine ⟨Comparison.respelled_iff comparison, FilterSet.respelled_iff schema, ?_⟩
  intro changes changes' record record' h h' set plain unsearched
  have alike := (FilterSet.alike_ofSchema schema).run h
  exact alike.admits plain unsearched h'

/-- A field with a lower bound is filtered alike for both spellings of one, next to an untouched filter for
texts. -/
theorem independent_iff_bound :
    let set := (FilterSet.ofSchema [.ofKind .range "n", .ofKind .text "name"]).run
      [.input "n" (.array [.ofNat 1])]
    (∀ entry ∈ set.entries, entry.active = true → ¬ entry.kind.Textual) ∧ set.search.isEmpty = true ∧
      set.admits (FilterSet.single "n" (.ofNat 1)) =
        ((FilterSet.ofSchema [.ofKind .range "n", .ofKind .text "name"]).run
          [.input "n" (.array [Comparison.pointedOne])]).admits
            (FilterSet.single "n" Comparison.pointedOne) := by
  intro set
  have plain : ∀ entry ∈ set.entries, entry.active = true → ¬ entry.kind.Textual := by decide +kernel
  have unsearched : set.search.isEmpty = true := by decide +kernel
  exact ⟨plain, unsearched, (independent_iff .equals _).2.2 _ _ _ _
    (.cons (.input "n" (.array (.cons Comparison.respelled_one .nil))) .nil)
    (FilterSet.respelled_single "n") plain (.inl unsearched)⟩

/-- One is loosely equal to itself as an integer, and not as a float. -/
theorem equals_one :
    (Json.ofNat 1).Respelled Comparison.pointedOne ∧
      Comparison.equals.holds (.ofNat 1) (.ofNat 1) = true ∧
      Comparison.equals.holds (.ofNat 1) Comparison.pointedOne = false :=
  ⟨Comparison.respelled_one, by decide +kernel, by decide +kernel⟩

end Spelling

end LiveMarkup

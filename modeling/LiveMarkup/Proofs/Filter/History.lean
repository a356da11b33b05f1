import LiveMarkup.Proofs.Filter.Spelling
import LiveMarkup.Proofs.Lists

/-!
# What filters mean

A set of filters has come from a schema by inputs and clearings. It means the conjunction of the last
inputs since it was cleared last (`FilterSet.LastInput`), one for each field and one for the search
(`FilterSet.run_admits_iff`): an input of a field replaces the one before it, in the first filter of the
name, and the flag that is kept next to a filter is that of its value. `FilterSet.entry?_run` computes the
first filter of a name from the history. No other filter is ever active (`FilterSet.Tidy`), so these first
filters decide what passes.
-/

set_option autoImplicit false

namespace LiveMarkup.FilterSet

/-! ## The last input -/

/-- The last input of a field since the filters were cleared last: behind it they are not cleared, and there
is no other input of the field. -/
def LastInput (changes : List Change) (name : String) (raw : Json) : Prop :=
  LastOf changes (.input name raw) fun change => change = .clear ∨ ∃ other, change = .input name other

/-- What is left of the last input of a field after one more change. -/
def Change.latest (name : String) (held : Option Json) : Change → Option Json
  | .input other raw => if other = name then some raw else held
  | .clear => none

/-- The last input of a field since the filters were cleared last, if there is one. -/
def latest? (name : String) (changes : List Change) : Option Json :=
  changes.foldl (Change.latest name) none

theorem latest?_concat (name : String) (changes : List Change) (change : Change) :
    latest? name (changes ++ [change]) = change.latest name (latest? name changes) := by
  rw [latest?, List.foldl_append, ← latest?, List.foldl_cons, List.foldl_nil]

theorem latest?_eq_some_iff {name : String} {changes : List Change} {raw : Json} :
    latest? name changes = some raw ↔ LastInput changes name raw := by
  induction changes using List.reverseRecOn with
  | nil => exact iff_of_false (by simp [latest?]) not_lastOf_nil
  | append_singleton changes change ih =>
    rw [latest?_concat, LastInput, lastOf_concat, ← LastInput, ← ih]
    cases change with
    | input other given =>
      rw [Change.latest]
      split
      · rename_i same
        simp [same]
      · rename_i differs
        simp [differs]
    | clear => simp [Change.latest]

end LiveMarkup.FilterSet

namespace LiveMarkup

/-! ## The filter of a field -/

/-- The filter of a field as its last input leaves it, or untouched. -/
def FilterEntry.given (entry : FilterEntry) : Option Json → FilterEntry
  | some raw => FilterSet.refresh raw entry
  | none => { entry with value := .empty entry.kind, active := false }

namespace FilterSet

theorem find?_refreshFirst (field name : String) (raw : Json) (entries : List FilterEntry) :
    ((refreshFirst field raw entries).find? fun entry => entry.field == name) =
      if field = name then (entries.find? fun entry => entry.field == name).map (refresh raw)
      else entries.find? fun entry => entry.field == name := by
  induction entries with
  | nil => simp [refreshFirst]
  | cons entry rest ih =>
    rw [refreshFirst]
    split
    · rename_i here
      by_cases same : field = name
      · simp [refresh, here, same]
      · simp [refresh, here, same]
    · rename_i elsewhere
      by_cases named : entry.field = name
      · have differs : field ≠ name := fun same => elsewhere (named.trans same.symm)
        simp [named, differs]
      · rw [List.find?_cons_of_neg (by simpa using named), ih,
          List.find?_cons_of_neg (by simpa using named)]

/-- An input goes to the first filter of its field. -/
theorem entry?_update {set : FilterSet} {field name : String} (other : name ≠ searchField) (raw : Json) :
    FilterSet.entry? (set.update field raw) name =
      if field = name then (set.entry? name).map (refresh raw) else set.entry? name := by
  by_cases search : field = searchField
  · have differs : field ≠ name := fun same => other (same.symm.trans search)
    rw [update, if_pos search, if_neg differs, entry?, entry?]
  · rw [update, if_neg search]
    exact find?_refreshFirst field name raw set.entries

theorem entry?_clear (set : FilterSet) (name : String) :
    set.clear.entry? name = (set.entry? name).map (FilterEntry.given · none) := by
  rw [FilterSet.entry?, clear, List.find?_map]
  rfl

theorem entry?_ofSchema (schema : List Field) (name : String) :
    FilterSet.entry? (ofSchema schema) name = (schema.find? fun field => field.name == name).map
      fun field => ⟨field.name, field.kind, .empty field.kind, false⟩ := by
  rw [FilterSet.entry?, ofSchema, List.find?_map]
  rfl

theorem run_snoc (set : FilterSet) (changes : List Change) (change : Change) :
    set.run (changes ++ [change]) = (set.run changes).after change := by
  rw [run, List.foldl_append]
  rfl

/-- The first filter of a name after changes is the one of the schema, with its last input. -/
theorem entry?_run (schema : List Field) (changes : List Change) {name : String}
    (other : name ≠ searchField) : FilterSet.entry? ((ofSchema schema).run changes) name =
      (FilterSet.entry? (ofSchema schema) name).map (FilterEntry.given · (latest? name changes)) := by
  induction changes using List.reverseRecOn with
  | nil =>
    rw [run, List.foldl_nil, entry?_ofSchema, Option.map_map]
    rfl
  | append_singleton changes change ih =>
    rw [run_snoc, latest?_concat]
    cases change with
    | input field raw =>
      rw [after, entry?_update other, ih, Change.latest]
      split
      · rw [Option.map_map]
        cases latest? name changes <;> rfl
      · rfl
    | clear =>
      rw [after, entry?_clear, ih, Option.map_map]
      cases latest? name changes <;> rfl

/-- The text that is searched for after changes. -/
theorem search_run (schema : List Field) (changes : List Change) :
    ((ofSchema schema).run changes).search =
      ((latest? searchField changes).map fun raw => Text.lower (Text.trim raw.text)).getD "" := by
  induction changes using List.reverseRecOn with
  | nil => rfl
  | append_singleton changes change ih =>
    rw [run_snoc, latest?_concat]
    cases change with
    | input field raw =>
      rw [after, update, Change.latest]
      split
      · rfl
      · exact ih
    | clear => rfl

theorem searchable_run (schema : List Field) (changes : List Change) :
    ((ofSchema schema).run changes).searchable = (schema.filter Field.searchable).map Field.name :=
  @run_keeps (fun set => set.searchable = (schema.filter Field.searchable).map Field.name)
    (fun set change kept => (searchable_after set change).trans kept) _ rfl changes

/-! ## Active filters -/

/-- The flag of every filter is that of its value, and of the filters of a name only the first one is
ever active, the one of the search field never. -/
structure Tidy (set : FilterSet) : Prop where
  flags : ∀ entry ∈ set.entries, entry.active = entry.value.isActive
  behind : set.entries.Pairwise fun first later => first.field = later.field → later.active = false
  unsearched : ∀ entry ∈ set.entries, entry.field = searchField → entry.active = false

theorem tidy_of_idle {set : FilterSet}
    (idle : ∀ entry ∈ set.entries, entry.active = false ∧ entry.value = .empty entry.kind) :
    set.Tidy where
  flags entry member := by
    rw [(idle entry member).1, (idle entry member).2, FilterValue.isActive_empty]
  behind := List.pairwise_of_forall_mem_list fun _ _ later member _ => (idle later member).1
  unsearched entry member _ := (idle entry member).1

theorem tidy_ofSchema (schema : List Field) : (ofSchema schema).Tidy := by
  refine tidy_of_idle fun entry member => ?_
  obtain ⟨field, -, rfl⟩ := List.mem_map.mp member
  exact ⟨rfl, rfl⟩

theorem tidy_clear (set : FilterSet) : set.clear.Tidy := by
  refine tidy_of_idle fun entry member => ?_
  obtain ⟨entry, -, rfl⟩ := List.mem_map.mp member
  exact ⟨rfl, rfl⟩

/-- Filters behind the first one of a name stay as they are. -/
theorem pairwise_refreshFirst {entries : List FilterEntry} (field : String) (raw : Json)
    (behind : entries.Pairwise fun first later => first.field = later.field → later.active = false) :
    (refreshFirst field raw entries).Pairwise
      fun first later => first.field = later.field → later.active = false := by
  induction entries with
  | nil => exact .nil
  | cons entry rest ih =>
    obtain ⟨idle, behind⟩ := List.pairwise_cons.mp behind
    rw [refreshFirst]
    split
    · exact List.pairwise_cons.mpr ⟨idle, behind⟩
    · rename_i elsewhere
      refine List.pairwise_cons.mpr ⟨fun later member same => ?_, ih behind⟩
      rcases mem_refreshFirst member with member | ⟨first, found, rfl⟩
      · exact idle later member same
      · -- The filter that is refreshed has the name of the input, and the head has another one.
        have named : first.field = field := by simpa using List.find?_some found
        exact absurd (same.trans named) elsewhere

theorem Tidy.update {set : FilterSet} (tidy : set.Tidy) (field : String) (raw : Json) :
    (set.update field raw).Tidy := by
  rw [FilterSet.update]
  split
  · exact ⟨tidy.flags, tidy.behind, tidy.unsearched⟩
  · rename_i other
    refine ⟨fun entry member => ?_, pairwise_refreshFirst field raw tidy.behind, fun entry member => ?_⟩
    · rcases mem_refreshFirst member with member | ⟨first, -, rfl⟩
      · exact tidy.flags entry member
      · rfl
    · rcases mem_refreshFirst member with member | ⟨first, found, rfl⟩
      · exact tidy.unsearched entry member
      · have named : first.field = field := by simpa using List.find?_some found
        exact fun search => absurd (named.symm.trans search) other

theorem Tidy.after {set : FilterSet} (tidy : set.Tidy) (change : Change) : (set.after change).Tidy := by
  cases change with
  | input field raw => exact tidy.update field raw
  | clear => exact tidy_clear set

theorem tidy_run (schema : List Field) (changes : List Change) : ((ofSchema schema).run changes).Tidy :=
  run_keeps (fun _ change tidy => tidy.after change) (tidy_ofSchema schema) changes

section Tidy

variable {set : FilterSet}

/-- An active filter is the first one of its name. -/
theorem Tidy.entry?_of_active (tidy : set.Tidy) {entry : FilterEntry} (member : entry ∈ set.entries)
    (active : entry.active = true) : set.entry? entry.field = some entry := by
  obtain ⟨before, later, split⟩ := List.append_of_mem member
  refine List.find?_eq_some_iff_append.mpr ⟨beq_self_eq_true _, before, later, split, ?_⟩
  intro earlier place
  have behind := tidy.behind
  rw [split, List.pairwise_append] at behind
  have idle := behind.2.2 earlier place entry List.mem_cons_self
  rw [Bool.not_eq_true', beq_eq_false_iff_ne]
  intro same
  exact Bool.false_ne_true ((idle same).symm.trans active)

/-- A filter that is not active admits everything. -/
theorem Tidy.admits_of_idle (tidy : set.Tidy) {entry : FilterEntry} (member : entry ∈ set.entries)
    (idle : entry.active = false) (value : Option Json) : entry.value.admits value = true := by
  rw [FilterValue.admits, ← tidy.flags entry member, idle]
  rfl

/-- What the search asks of something with these field values. -/
def Finds (set : FilterSet) (lookup : String → Option Json) : Prop :=
  set.search = "" ∨ ∃ name ∈ set.searchable, ∃ value, lookup name = some value ∧
    set.search.toList <:+: (Text.lower value.text).toList

theorem finds_iff (lookup : String → Option Json) :
    (set.search.isEmpty || set.searchable.any fun field =>
      (lookup field).any fun value => Text.contains (Text.lower value.text) set.search) = true ↔
        set.Finds lookup := by
  simp only [Bool.or_eq_true, String.isEmpty_iff, List.any_eq_true, Option.any_eq_true,
    Text.contains_iff, Finds]

/-- What passes is decided by the first filter of each name and the search. -/
theorem Tidy.admitsWith_iff (tidy : set.Tidy) (lookup : String → Option Json) :
    set.admitsWith lookup = true ↔
      (∀ name, name ≠ searchField → ∀ entry, set.entry? name = some entry →
        entry.value.admits (lookup name) = true) ∧ set.Finds lookup := by
  rw [admitsWith, Bool.and_eq_true, finds_iff, List.all_eq_true]
  refine and_congr_left fun _ => ⟨fun all name _ entry found => ?_, fun firsts entry member => ?_⟩
  · have member : entry ∈ set.entries := List.mem_of_find?_eq_some found
    have named : entry.field = name := by simpa using List.find?_some found
    cases active : entry.active with
    | true => exact named ▸ all entry (List.mem_filter.mpr ⟨member, active⟩)
    | false => exact tidy.admits_of_idle member active _
  · obtain ⟨member, active⟩ := List.mem_filter.mp member
    refine firsts entry.field (fun search => ?_) entry (tidy.entry?_of_active member active)
    exact Bool.false_ne_true ((tidy.unsearched entry member search).symm.trans active)

/-- A filter more constrains what passed without it. -/
theorem Tidy.admitsWith_update_iff (tidy : set.Tidy) {name : String} (other : name ≠ searchField)
    (idle : ∀ entry, set.entry? name = some entry → entry.active = false) (raw : Json)
    (lookup : String → Option Json) :
    (set.update name raw).admitsWith lookup = true ↔ set.admitsWith lookup = true ∧
      ∀ entry, set.entry? name = some entry →
        (FilterValue.ofInput entry.kind raw).admits (lookup name) = true := by
  have finds : (set.update name raw).Finds lookup ↔ set.Finds lookup := by
    rw [FilterSet.update, if_neg other]
    rfl
  rw [(tidy.update name raw).admitsWith_iff, tidy.admitsWith_iff, finds, and_right_comm]
  refine and_congr_left fun _ => ?_
  constructor
  · intro firsts
    refine ⟨fun field apart entry found => ?_, fun entry found => ?_⟩
    · by_cases same : name = field
      · subst same
        exact tidy.admits_of_idle (List.mem_of_find?_eq_some found) (idle entry found) _
      · exact firsts field apart entry (by rw [entry?_update apart, if_neg same, found])
    · exact firsts name other (refresh raw entry)
        (by rw [entry?_update other, if_pos rfl, found]; rfl)
  · rintro ⟨firsts, given⟩ field apart entry found
    rw [entry?_update apart] at found
    split at found
    · rename_i same
      subst same
      obtain ⟨first, hfirst, rfl⟩ := Option.map_eq_some_iff.mp found
      exact given first hfirst
    · exact firsts field apart entry found

end Tidy

/-! ## Order of inputs -/

theorem refreshFirst_comm {field other : String} (differs : field ≠ other) (raw given : Json)
    (entries : List FilterEntry) :
    refreshFirst other given (refreshFirst field raw entries) =
      refreshFirst field raw (refreshFirst other given entries) := by
  induction entries with
  | nil => rfl
  | cons entry rest ih =>
    by_cases here : entry.field = field
    · have elsewhere : entry.field ≠ other := fun same => differs (here.symm.trans same)
      simp [refreshFirst, refresh, here, differs]
    · by_cases there : entry.field = other
      · simp [refreshFirst, refresh, there, Ne.symm differs]
      · simp [refreshFirst, here, there, ih]

/-- Inputs of different fields may come in either order. -/
theorem update_comm (set : FilterSet) {field other : String} (differs : field ≠ other)
    (raw given : Json) :
    (set.update field raw).update other given = (set.update other given).update field raw := by
  by_cases search : field = searchField
  · have others : other ≠ searchField := fun same => differs (search.trans same.symm)
    simp only [update, if_pos search, if_neg others]
  · by_cases searched : other = searchField
    · simp only [update, if_neg search, if_pos searched]
    · simp only [update, if_neg search, if_neg searched, refreshFirst_comm differs]

/-! ## Histories -/

/-- What passes after changes: what the last input of each field and of the search admits. -/
theorem run_admitsWith_iff (schema : List Field) (changes : List Change)
    (lookup : String → Option Json) :
    ((ofSchema schema).run changes).admitsWith lookup = true ↔
      (∀ name field raw, name ≠ searchField →
        (schema.find? fun field => field.name == name) = some field → LastInput changes name raw →
          (FilterValue.ofInput field.kind raw).admits (lookup name) = true) ∧
      ∀ raw, LastInput changes searchField raw → Text.lower (Text.trim raw.text) = "" ∨
        ∃ field ∈ schema, field.searchable = true ∧ ∃ value, lookup field.name = some value ∧
          (Text.lower (Text.trim raw.text)).toList <:+: (Text.lower value.text).toList := by
  rw [(tidy_run schema changes).admitsWith_iff]
  refine and_congr ?_ ?_
  · constructor
    · intro firsts name field raw other found last
      refine firsts name other
        (refresh raw ⟨field.name, field.kind, .empty field.kind, false⟩) ?_
      rw [entry?_run schema changes other, entry?_ofSchema, found, latest?_eq_some_iff.mpr last]
      rfl
    · intro inputs name other entry found
      rw [entry?_run schema changes other, entry?_ofSchema, Option.map_map] at found
      obtain ⟨field, hfield, rfl⟩ := Option.map_eq_some_iff.mp found
      cases last : latest? name changes with
      | none =>
        have idle := FilterValue.isActive_empty field.kind
        simp only [Function.comp_apply, FilterEntry.given, FilterValue.admits, idle, Bool.not_false,
          Bool.true_or]
      | some raw =>
        simp only [Function.comp_apply, FilterEntry.given, refresh]
        exact inputs name field raw other hfield (latest?_eq_some_iff.mp last)
  · rw [Finds, search_run, searchable_run]
    simp only [← latest?_eq_some_iff]
    cases last : latest? searchField changes with
    | none => simp
    | some raw => simp [and_assoc]

/-- Filters mean the conjunction of their last inputs: a record passes exactly if for every field with an
input since the filters were cleared last it passes the filter that the last of these gives the first field
of the name, and if what was searched for last is empty or in a searchable field. The flag of every filter
is that of its value; inputs of different fields may come in either order; and an input of a field whose
filter is not active only adds what it asks for. -/
theorem run_admits_iff (schema : List Field) (changes : List Change) :
    (∀ record : Fields, ((ofSchema schema).run changes).admits record = true ↔
      (∀ name field raw, name ≠ searchField →
        (schema.find? fun field => field.name == name) = some field → LastInput changes name raw →
          (FilterValue.ofInput field.kind raw).admits (record.get? name) = true) ∧
      ∀ raw, LastInput changes searchField raw → Text.lower (Text.trim raw.text) = "" ∨
        ∃ field ∈ schema, field.searchable = true ∧ ∃ value, record.get? field.name = some value ∧
          (Text.lower (Text.trim raw.text)).toList <:+: (Text.lower value.text).toList) ∧
    (∀ entry ∈ ((ofSchema schema).run changes).entries, entry.active = entry.value.isActive) ∧
    (∀ field other raw given, field ≠ other →
      (((ofSchema schema).run changes).update field raw).update other given =
        (((ofSchema schema).run changes).update other given).update field raw) ∧
    ∀ name raw, name ≠ searchField →
      (∀ entry, FilterSet.entry? ((ofSchema schema).run changes) name = some entry → entry.active = false) →
      ∀ record : Fields, (((ofSchema schema).run changes).update name raw).admits record = true ↔
        ((ofSchema schema).run changes).admits record = true ∧
          ∀ field, (schema.find? fun field => field.name == name) = some field →
            (FilterValue.ofInput field.kind raw).admits (record.get? name) = true := by
  have tidy := tidy_run schema changes
  refine ⟨fun record => run_admitsWith_iff schema changes _, tidy.flags,
    fun field other raw given differs => update_comm _ differs raw given, ?_⟩
  intro name raw other idle record
  rw [admits, tidy.admitsWith_update_iff other idle raw]
  refine and_congr_right fun _ => ?_
  rw [entry?_run schema changes other, entry?_ofSchema, Option.map_map]
  simp only [Option.map_eq_some_iff, forall_exists_index, and_imp, forall_apply_eq_imp_iff₂,
    Function.comp_apply]
  cases latest? name changes <;> rfl

/-- The first of two fields of a name is filtered again after the filters were cleared. -/
theorem run_admits_iff_again :
    let schema := [Field.ofKind .text "name", Field.ofKind .boolean "name"]
    let set := (ofSchema schema).run
      [.input "name" (.string "Eve"), .clear, .input searchField (.string " ADA ")]
    (∀ entry, set.entry? "name" = some entry → entry.active = false) ∧
      ∀ record : Fields, (set.update "name" (.string "a")).admits record = true ↔
        set.admits record = true ∧
          ∀ field, (schema.find? fun field => field.name == "name") = some field →
            (FilterValue.ofInput field.kind (.string "a")).admits (record.get? "name") = true := by
  intro schema set
  have other : "name" ≠ searchField := by decide
  have idle : ∀ entry, set.entry? "name" = some entry → entry.active = false := by
    have all : ((set.entry? "name").all fun entry => !entry.active) = true := by decide +kernel
    intro entry found
    rw [found, Option.all_some, Bool.not_eq_true'] at all
    exact all
  exact ⟨idle, (run_admits_iff schema _).2.2.2 "name" _ other idle⟩

end FilterSet

end LiveMarkup

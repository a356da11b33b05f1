import LiveMarkup.Proofs.Filter.History
import LiveMarkup.Proofs.Text.FinalSigma

/-!
# Occurrences that filters find

Text filters and the search compare texts in lower case. They find a text wherever it stands exactly when
none of its sigmas is exposed (`finds_occurrences_iff`): the last sigma of a capitalised word is final in
what is looked for, and need not be in the longer word of a record.
-/

set_option autoImplicit false

namespace LiveMarkup

/-- A text filter admits a value when it holds nothing, or the text of the value contains what it holds
in lower case. -/
theorem FilterValue.admits_text_iff (needle : String) (value : Json) :
    (FilterValue.text needle).admits (some value) = true ↔ Text.trim needle = "" ∨
      (Text.lower (Text.trim needle)).toList <:+: (Text.lower value.text).toList := by
  rw [admits, isActive, passes, Bool.not_not, Bool.or_eq_true, Text.isBlank_iff_trim_eq_empty,
    Text.contains_iff, Option.getD_some]

/-- A text filter finds what it holds wherever it stands exactly when no sigma of it is exposed. -/
theorem FilterValue.text_finds_iff (needle : String) :
    (∀ value : Json, Text.trim needle ≠ "" → (Text.trim needle).toList <:+: value.text.toList →
        (FilterValue.text needle).admits (some value) = true) ↔
      ¬ Text.SigmaExposed (Text.trim needle).toList := by
  rw [← Text.lower_occurs_iff]
  constructor
  · intro finds whole occurs
    by_cases empty : Text.trim needle = ""
    · rw [empty]
      exact List.nil_infix
    · exact ((admits_text_iff needle (.string whole)).mp (finds _ empty occurs)).resolve_left empty
  · intro finds value _ occurs
    exact (admits_text_iff needle value).mpr (.inr (finds value.text occurs))

namespace FilterSet

/-- What is searched for after changes: the last input of the search since the filters were cleared last,
without the white space at its ends. -/
def searchText (changes : List Change) : String :=
  ((latest? searchField changes).map fun raw => Text.trim raw.text).getD ""

theorem search_run_eq_lower (schema : List Field) (changes : List Change) :
    ((ofSchema schema).run changes).search = Text.lower (searchText changes) := by
  rw [search_run, searchText]
  cases latest? searchField changes <;> rfl

/-- While no filter of a field is active, the search decides. -/
theorem admits_iff_finds {set : FilterSet} (idle : ∀ entry ∈ set.entries, entry.active = false)
    (record : Fields) : set.admits record = true ↔ set.Finds record.get? := by
  have unfiltered : set.entries.filter FilterEntry.active = [] := by
    rw [List.filter_eq_nil_iff]
    intro entry member
    rw [idle entry member]
    exact Bool.false_ne_true
  rw [admits, admitsWith, unfiltered, List.all_nil, Bool.true_and, finds_iff]

variable {schema : List Field} {changes : List Change}

/-- While no filter of a field is active, what is searched for is found wherever it stands in a searchable
field exactly when no sigma of it is exposed, or no field is searchable at all. -/
theorem search_finds_iff
    (idle : ∀ entry ∈ ((ofSchema schema).run changes).entries, entry.active = false) :
    (∀ (record : Fields) (field : Field) (value : Json), field ∈ schema → field.searchable = true →
        record.get? field.name = some value → (searchText changes).toList <:+: value.text.toList →
          ((ofSchema schema).run changes).admits record = true) ↔
      ¬ Text.SigmaExposed (searchText changes).toList ∨ ∀ field ∈ schema, field.searchable = false := by
  have search := search_run_eq_lower schema changes
  have searchable := searchable_run schema changes
  rw [← Text.lower_occurs_iff]
  constructor
  · intro finds
    rw [or_iff_not_imp_right]
    intro searched whole occurs
    obtain ⟨field, member, reads⟩ : ∃ field ∈ schema, field.searchable = true := by
      simpa using searched
    -- A record with this one field: nothing else can be found in it.
    have own : Fields.get? [(field.name, .string whole)] field.name = some (.string whole) := by
      simp [Fields.get?]
    have admitted := finds [(field.name, .string whole)] field (.string whole) member reads own occurs
    rcases (admits_iff_finds idle _).mp admitted with empty | ⟨name, -, value, found, inside⟩
    · rw [search] at empty
      rw [empty]
      exact List.nil_infix
    · rw [search] at inside
      have only : value = .string whole := by
        simp only [Fields.get?, List.find?_cons, List.find?_nil] at found
        split at found <;> simp_all
      rw [only] at inside
      exact inside
  · rintro (finds | unsearched) record field value member reads found occurs
    · refine (admits_iff_finds idle record).mpr (.inr ⟨field.name, ?_, value, found, ?_⟩)
      · rw [searchable]
        exact List.mem_map_of_mem (List.mem_filter.mpr ⟨member, reads⟩)
      · rw [search]
        exact finds value.text occurs
    · rw [unsearched field member] at reads
      cases reads

end FilterSet

/-! ## Main result -/

/-- Text filters and the search find a text wherever it stands exactly when no sigma of it is exposed. -/
theorem finds_occurrences_iff (needle : String) (schema : List Field)
    (changes : List FilterSet.Change) :
    ((∀ value : Json, Text.trim needle ≠ "" → (Text.trim needle).toList <:+: value.text.toList →
        (FilterValue.text needle).admits (some value) = true) ↔
      ¬ Text.SigmaExposed (Text.trim needle).toList) ∧
    ((∀ entry ∈ ((FilterSet.ofSchema schema).run changes).entries, entry.active = false) →
      ((∀ (record : Fields) (field : Field) (value : Json), field ∈ schema → field.searchable = true →
          record.get? field.name = some value →
          (FilterSet.searchText changes).toList <:+: value.text.toList →
            ((FilterSet.ofSchema schema).run changes).admits record = true) ↔
        ¬ Text.SigmaExposed (FilterSet.searchText changes).toList ∨
          ∀ field ∈ schema, field.searchable = false)) :=
  ⟨FilterValue.text_finds_iff needle, fun idle => FilterSet.search_finds_iff idle⟩

/-- A name whose sigma stands in front of a letter is found in every longer text. -/
theorem finds_occurrences_sophia :
    let schema := [Field.ofKind .text "name", Field.ofKind .boolean "open"]
    let set := (FilterSet.ofSchema schema).run [.input FilterSet.searchField (.string " ΣΟΦΙΑ ")]
    (∀ entry ∈ set.entries, entry.active = false) ∧
      ∀ value : Json, "ΣΟΦΙΑ".toList <:+: value.text.toList → set.admits [("name", value)] = true := by
  intro schema set
  have idle : ∀ entry ∈ set.entries, entry.active = false := by decide +kernel
  refine ⟨idle, fun value occurs => ?_⟩
  have found := ((finds_occurrences_iff "ΣΟΦΙΑ" schema _).2 idle).mpr (.inl (by decide +kernel))
  exact found _ (Field.ofKind .text "name") value (by simp [schema]) rfl rfl occurs

/-- The end of a capitalised word is not found in a longer word. -/
theorem misses_final_sigma :
    ¬ (∀ (needle : String) (value : Json), Text.trim needle ≠ "" →
        (Text.trim needle).toList <:+: value.text.toList →
          (FilterValue.text needle).admits (some value) = true) ∧
    ¬ ∀ (schema : List Field) (changes : List FilterSet.Change) (record : Fields) (field : Field)
        (value : Json),
      (∀ entry ∈ ((FilterSet.ofSchema schema).run changes).entries, entry.active = false) →
      field ∈ schema → field.searchable = true → record.get? field.name = some value →
      (FilterSet.searchText changes).toList <:+: value.text.toList →
        ((FilterSet.ofSchema schema).run changes).admits record = true := by
  have occurs : "ΑΣ".toList <:+: "ΑΣΑ".toList := ⟨[], ['Α'], rfl⟩
  refine ⟨fun finds => ?_, fun finds => ?_⟩
  · have missed : (FilterValue.text "ΑΣ").admits (some (.string "ΑΣΑ")) = false := by decide +kernel
    have found := finds "ΑΣ" (.string "ΑΣΑ") (by decide) occurs
    rw [missed] at found
    cases found
  · have missed : ((FilterSet.ofSchema [Field.ofKind .text "name"]).run
        [.input FilterSet.searchField (.string "ΑΣ")]).admits [("name", .string "ΑΣΑ")] = false := by
      decide +kernel
    have found := finds [Field.ofKind .text "name"] [.input FilterSet.searchField (.string "ΑΣ")]
      [("name", .string "ΑΣΑ")] (Field.ofKind .text "name") (.string "ΑΣΑ") (by decide +kernel)
      (by simp) rfl rfl occurs
    rw [missed] at found
    cases found

end LiveMarkup

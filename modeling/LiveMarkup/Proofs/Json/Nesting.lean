import LiveMarkup.Proofs.Json.Readable

/-!
# Nesting of values

How deep the arrays and objects of a value nest. For a value without repeated keys this alone decides
whether it can be read again from its tree: what could be read where more may nest can be read
wherever enough may (`Readable.of_nesting_le`).
-/

set_option autoImplicit false

namespace LiveMarkup.Json

mutual

/-- How many arrays and objects stand inside one another, the value itself included. -/
def nesting : Json → Nat
  | .null | .bool _ | .number _ | .string _ => 0
  | .array items => nestingOfItems items + 1
  | .object fields => nestingOfFields fields + 1

/-- The deepest nesting in a list of values. -/
def nestingOfItems : List Json → Nat
  | [] => 0
  | item :: rest => max item.nesting (nestingOfItems rest)

/-- The deepest nesting in the fields of an object. -/
def nestingOfFields : List (String × Json) → Nat
  | [] => 0
  | (_, value) :: rest => max value.nesting (nestingOfFields rest)

end

theorem nestingOfItems_le_iff {items : List Json} {limit : Nat} :
    nestingOfItems items ≤ limit ↔ ∀ item ∈ items, item.nesting ≤ limit := by
  induction items with
  | nil => simp [nestingOfItems]
  | cons item rest ih => rw [nestingOfItems, Nat.max_le, ih, List.forall_mem_cons]

theorem nestingOfFields_le_iff {fields : Fields} {limit : Nat} :
    nestingOfFields fields ≤ limit ↔ ∀ field ∈ fields, field.2.nesting ≤ limit := by
  induction fields with
  | nil => simp [nestingOfFields]
  | cons field rest ih => rw [nestingOfFields, Nat.max_le, ih, List.forall_mem_cons]

/-- Items may nest one level less than their array. -/
theorem nesting_array_le_iff {items : List Json} {limit : Nat} :
    (array items).nesting ≤ limit ↔
      ∃ inner, limit = inner + 1 ∧ ∀ item ∈ items, item.nesting ≤ inner := by
  simp only [nesting, ← nestingOfItems_le_iff]
  constructor
  · intro h
    exact ⟨limit - 1, by omega, by omega⟩
  · rintro ⟨inner, rfl, h⟩
    omega

/-- Values may nest one level less than their object. -/
theorem nesting_object_le_iff {fields : Fields} {limit : Nat} :
    (object fields).nesting ≤ limit ↔
      ∃ inner, limit = inner + 1 ∧ ∀ field ∈ fields, field.2.nesting ≤ inner := by
  simp only [nesting, ← nestingOfFields_le_iff]
  constructor
  · intro h
    exact ⟨limit - 1, by omega, by omega⟩
  · rintro ⟨inner, rfl, h⟩
    omega

/-! ## Reading nested values -/

theorem readable_items_of_array {depth : Nat} {items : List Json}
    (h : Readable depth (.array items)) :
    ∃ inner, depth = inner + 1 ∧ ∀ item ∈ items, Readable inner item := by
  cases depth with
  | zero => cases h
  | succ inner =>
    refine ⟨inner, rfl, ?_⟩
    obtain ⟨values, hvalues, hsame⟩ := Option.map_eq_some_iff.mp h
    obtain rfl := Json.array.inj hsame
    exact readable_of_values? _ hvalues

theorem readable_fields_of_object {depth : Nat} {fields : Fields}
    (h : Readable depth (.object fields)) :
    ∃ inner, depth = inner + 1 ∧ (fields.map Prod.fst).Nodup ∧
      ∀ field ∈ fields, Readable inner field.2 := by
  cases depth with
  | zero => cases h
  | succ inner =>
    obtain ⟨entries, hentries, hsame⟩ := Option.map_eq_some_iff.mp h
    obtain ⟨apart, among⟩ := Fields.ofList_facts entries
    obtain rfl := Json.object.inj hsame
    refine ⟨inner, rfl, apart, ?_⟩
    intro field member
    exact readable_of_entries? _ hentries field (among field member)

mutual

/-- What can be read where enough may nest can be read wherever its own nesting fits. -/
theorem Readable.of_nesting_le : {value : Json} → {depth limit : Nat} → Readable depth value →
    value.nesting ≤ limit → Readable limit value
  | .null, _, _, _, _ => rfl
  | .bool _, _, _, _, _ => rfl
  | .number _, _, _, _, _ => rfl
  | .string _, _, _, _, _ => rfl
  | .array items, _, _, h, hfits => by
    obtain ⟨_, rfl, hitems⟩ := readable_items_of_array h
    obtain ⟨inner, rfl, hinner⟩ := nesting_array_le_iff.mp hfits
    exact readable_array (readable_items_of_nesting_le items hitems hinner)
  | .object fields, _, _, h, hfits => by
    obtain ⟨_, rfl, apart, hfields⟩ := readable_fields_of_object h
    obtain ⟨inner, rfl, hinner⟩ := nesting_object_le_iff.mp hfits
    exact readable_object apart (readable_fields_of_nesting_le fields hfields hinner)

theorem readable_items_of_nesting_le : (items : List Json) → {depth limit : Nat} →
    (∀ item ∈ items, Readable depth item) → (∀ item ∈ items, item.nesting ≤ limit) →
    ∀ item ∈ items, Readable limit item
  | [], _, _, _, _ => by simp
  | item :: rest, _, _, h, hfits => by
    rw [List.forall_mem_cons] at h hfits
    exact List.forall_mem_cons.mpr
      ⟨h.1.of_nesting_le hfits.1, readable_items_of_nesting_le rest h.2 hfits.2⟩

theorem readable_fields_of_nesting_le : (fields : List (String × Json)) → {depth limit : Nat} →
    (∀ field ∈ fields, Readable depth field.2) → (∀ field ∈ fields, field.2.nesting ≤ limit) →
    ∀ field ∈ fields, Readable limit field.2
  | [], _, _, _, _ => by simp
  | (_, value) :: rest, _, _, h, hfits => by
    rw [List.forall_mem_cons] at h hfits
    exact List.forall_mem_cons.mpr
      ⟨h.1.of_nesting_le hfits.1, readable_fields_of_nesting_le rest h.2 hfits.2⟩

end

end LiveMarkup.Json

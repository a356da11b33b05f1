import LiveMarkup.Proofs.Component.Acceptance
import LiveMarkup.Proofs.Number.WholeParts

/-!
# Inferred fields

The fields of a component are valid when they are declared. Inferred ones never pass the check, and what
they can lack is a name: `inferField` names a field by its key and gives it what its kind asks for
(`Dataset.inferField_eq_some`), bounds in order included, since a floor is not above the least number of a
column nor a ceiling below the greatest (`Dataset.position_floor_le_ceil`). So the fields of a component
are valid as long as they are declared or no key of the first record that suggests a field is blank
(`Component.effectiveSchema_sound_iff`), and with the key `""` they are not (`Component.unnamed_accepted`).
-/

set_option autoImplicit false

namespace LiveMarkup

/-- Whether a field is inferred for a key with this value in the first record. -/
def Json.suggestsField : Json → Bool
  | .null | .object _ => false
  | .bool _ | .number _ | .array _ | .string _ => true

namespace Dataset

/-! ## Bounds -/

/-- One step of the search for the least and the greatest number. -/
def widen (bounds : Finite64 × Finite64) (x : Finite64) : Finite64 × Finite64 :=
  (if x.less bounds.1 then x else bounds.1, if bounds.2.less x then x else bounds.2)

theorem extremes_cons (first : Finite64) (rest : List Finite64) :
    extremes (first :: rest) = some (rest.foldl widen (first, first)) := rfl

theorem widen_ordered {bounds : Finite64 × Finite64} (ordered : bounds.1.position ≤ bounds.2.position)
    (x : Finite64) : (widen bounds x).1.position ≤ (widen bounds x).2.position := by
  simp only [widen, Finite64.less, decide_eq_true_eq]
  split <;> split <;> omega

theorem foldl_widen_ordered (numbers : List Finite64) {bounds : Finite64 × Finite64}
    (ordered : bounds.1.position ≤ bounds.2.position) :
    (numbers.foldl widen bounds).1.position ≤ (numbers.foldl widen bounds).2.position := by
  induction numbers generalizing bounds with
  | nil => exact ordered
  | cons x rest ih => exact ih (widen_ordered ordered x)

/-- The bounds of a column, of nothing but zero if it has no number. -/
def bounds (items : List Fields) (key : String) : Finite64 × Finite64 :=
  (extremes (columnNumbers items key)).getD (.zero, .zero)

theorem bounds_ordered (items : List Fields) (key : String) :
    (bounds items key).1.position ≤ (bounds items key).2.position := by
  rw [bounds]
  cases columnNumbers items key with
  | nil => exact Int.le_refl _
  | cons first rest =>
    rw [extremes_cons, Option.getD_some]
    exact foldl_widen_ordered rest (Int.le_refl _)

theorem position_floor_le_ceil (items : List Fields) (key : String) :
    (bounds items key).1.floor.position ≤ (bounds items key).2.ceil.position :=
  calc (bounds items key).1.floor.position
    _ ≤ (bounds items key).1.position := Finite64.position_floor_le _
    _ ≤ (bounds items key).2.position := bounds_ordered items key
    _ ≤ (bounds items key).2.ceil.position := Finite64.position_le_ceil _

/-! ## Fields -/

theorem valid_inferRange (items : List Fields) {key : String} (named : Text.isBlank key = false) :
    (inferRange items key).Valid where
  named := named
  bounded := ⟨fun _ => rfl, fun _ => rfl⟩
  ordered := by
    intro range given
    obtain rfl := Option.some.inj given
    exact position_floor_le_ceil items key

/-- A field of another kind has no bounds. -/
theorem valid_of_range_none {field : Field} (named : Text.isBlank field.name = false)
    (kind : field.kind ≠ .range) (missing : field.range = none) : field.Valid where
  named := named
  bounded := by
    rw [missing]
    exact ⟨fun given => (Bool.false_ne_true given).elim, fun range => (kind range).elim⟩
  ordered := by
    intro range given
    cases missing.symm.trans given

theorem inferText_shape (items : List Fields) (key : String) :
    (inferText items key).name = key ∧ (inferText items key).kind ≠ .range ∧
      (inferText items key).range = none := by
  unfold inferText
  dsimp only
  split
  · exact ⟨rfl, show FieldKind.select ≠ .range by decide, rfl⟩
  · exact ⟨rfl, show FieldKind.text ≠ .range by decide, rfl⟩

/-- A key whose value suggests one has a field of its name, valid unless the name is blank. -/
theorem inferField_of_suggestsField (items : List Fields) (key : String) {sample : Json}
    (suggests : sample.suggestsField = true) : ∃ field, inferField items key sample = some field ∧
      field.name = key ∧ (Text.isBlank key = false → field.Valid) := by
  cases sample with
  | null => cases suggests
  | object => cases suggests
  | bool =>
    exact ⟨_, rfl, rfl, fun named => valid_of_range_none named
      (show FieldKind.boolean ≠ .range by decide) rfl⟩
  | number => exact ⟨_, rfl, rfl, fun named => valid_inferRange items named⟩
  | array =>
    exact ⟨_, rfl, rfl, fun named => valid_of_range_none named
      (show FieldKind.multiselect ≠ .range by decide) rfl⟩
  | string =>
    obtain ⟨name, kind, range⟩ := inferText_shape items key
    refine ⟨_, rfl, name, fun named => valid_of_range_none ?_ kind range⟩
    rw [name]
    exact named

theorem suggestsField_of_inferField {items : List Fields} {key : String} {sample : Json}
    {field : Field} (inferred : inferField items key sample = some field) :
    sample.suggestsField = true := by
  cases sample with
  | null => cases inferred
  | object => cases inferred
  | bool | number | array | string => rfl

/-- Among the keys of the first record that suggest fields there is no blank one. -/
def KeysNamed (data : Dataset) : Prop :=
  ∀ first ∈ data.items.head?, ∀ entry ∈ first,
    entry.2.suggestsField = true → Text.isBlank entry.1 = false

theorem mem_inferSchema_iff {items : List Fields} {field : Field} :
    field ∈ inferSchema items ↔
      ∃ first ∈ items.head?, ∃ entry ∈ first, inferField items entry.1 entry.2 = some field := by
  cases items with
  | nil => simp [inferSchema]
  | cons first rest =>
    rw [inferSchema, List.mem_filterMap]
    simp only [List.head?_cons, Option.mem_def, Option.some.injEq, exists_eq_left']

theorem valid_of_mem_inferSchema {items : List Fields} {field : Field}
    (member : field ∈ inferSchema items) (named : Text.isBlank field.name = false) : field.Valid := by
  obtain ⟨first, -, entry, -, inferred⟩ := mem_inferSchema_iff.mp member
  obtain ⟨_, same, name, valid⟩ :=
    inferField_of_suggestsField items entry.1 (suggestsField_of_inferField inferred)
  obtain rfl := Option.some.inj (inferred.symm.trans same)
  exact valid (name ▸ named)

theorem inferSchema_named_iff (data : Dataset) :
    (∀ field ∈ inferSchema data.items, Text.isBlank field.name = false) ↔ data.KeysNamed := by
  constructor
  · intro named first isFirst entry member suggests
    obtain ⟨field, inferred, name, -⟩ := inferField_of_suggestsField data.items entry.1 suggests
    exact name ▸ named field (mem_inferSchema_iff.mpr ⟨first, isFirst, entry, member, inferred⟩)
  · intro keys field member
    obtain ⟨first, isFirst, entry, entered, inferred⟩ := mem_inferSchema_iff.mp member
    have suggests := suggestsField_of_inferField inferred
    obtain ⟨_, same, name, -⟩ := inferField_of_suggestsField data.items entry.1 suggests
    obtain rfl := Option.some.inj (inferred.symm.trans same)
    exact name ▸ keys first isFirst entry entered suggests

theorem effectiveSchema_of_declared {data : Dataset} (declared : data.schema ≠ []) :
    data.effectiveSchema = data.schema :=
  if_neg fun none => declared (List.isEmpty_iff.mp none)

theorem effectiveSchema_of_undeclared {data : Dataset} (undeclared : data.schema = []) :
    data.effectiveSchema = inferSchema data.items :=
  if_pos (List.isEmpty_iff.mpr undeclared)

end Dataset

/-! ## Components -/

namespace Component

theorem valid_of_mem_schema {component : Component} {data : Dataset}
    (dataset : component.data = some data) {field : Field} (member : field ∈ data.schema) :
    field.Valid := by
  apply component.valid.fields
  rw [Inputs.fieldList, show component.inputs.data = some data from dataset]
  exact member

/-- A field of a component that has a name is valid, declared or not. -/
theorem valid_of_mem_effectiveSchema {component : Component} {data : Dataset}
    (dataset : component.data = some data) {field : Field} (member : field ∈ data.effectiveSchema)
    (named : Text.isBlank field.name = false) : field.Valid := by
  by_cases undeclared : data.schema = []
  · rw [Dataset.effectiveSchema_of_undeclared undeclared] at member
    exact Dataset.valid_of_mem_inferSchema member named
  · rw [Dataset.effectiveSchema_of_declared undeclared] at member
    exact valid_of_mem_schema dataset member

/-- The fields of a component pass the check exactly if they are declared or inferred from keys that are
not blank; a field that does not pass is one without a name. -/
theorem effectiveSchema_sound_iff (component : Component) {data : Dataset}
    (dataset : component.data = some data) :
    ((∀ field ∈ data.effectiveSchema, field.fault? = none) ↔
        (data.schema = [] → data.KeysNamed)) ∧
      ∀ field ∈ data.effectiveSchema, ∀ fault, field.fault? = some fault → fault = .blankName := by
  refine ⟨⟨fun sound undeclared => ?_, fun named field member => ?_⟩, ?_⟩
  · rw [Dataset.effectiveSchema_of_undeclared undeclared] at sound
    refine (Dataset.inferSchema_named_iff data).mp fun field member => ?_
    exact (Field.fault?_eq_none_iff.mp (sound field member)).named
  · apply Field.fault?_eq_none_iff.mpr
    by_cases undeclared : data.schema = []
    · rw [Dataset.effectiveSchema_of_undeclared undeclared] at member
      exact Dataset.valid_of_mem_inferSchema member
        ((Dataset.inferSchema_named_iff data).mpr (named undeclared) field member)
    · rw [Dataset.effectiveSchema_of_declared undeclared] at member
      exact valid_of_mem_schema dataset member
  · intro field member fault found
    cases blank : Text.isBlank field.name with
    | true => exact Option.some.inj (found.symm.trans (Field.fault?_of_blank blank))
    | false =>
      have valid := valid_of_mem_effectiveSchema dataset member blank
      cases found.symm.trans (Field.fault?_eq_none_iff.mpr valid)

/-- A component with records of two columns, one of them without a name. -/
def unnamed : Component where
  id := "people"
  inputs := ⟨none, some ⟨[[("name", .string "Ada"), ("", .string "x")]], [], .standard⟩, none⟩
  options := .standard
  accepted := by decide +kernel

theorem effectiveSchema_sound_iff_unnamed :
    ∃ data, unnamed.data = some data ∧
      (((∀ field ∈ data.effectiveSchema, field.fault? = none) ↔
          (data.schema = [] → data.KeysNamed)) ∧
        ∀ field ∈ data.effectiveSchema, ∀ fault, field.fault? = some fault → fault = .blankName) :=
  ⟨_, rfl, effectiveSchema_sound_iff unnamed rfl⟩

/-- The column without a name is inferred from the records of an accepted component. -/
theorem unnamed_accepted :
    make unnamed.id unnamed.inputs unnamed.options = .ok unnamed ∧
      ∃ data, unnamed.data = some data ∧
        ∃ field ∈ data.effectiveSchema, field.name = "" ∧ field.fault? = some .blankName := by
  refine ⟨make_eq_ok_iff.mpr ⟨rfl, rfl, rfl⟩, _, rfl, .ofKind .text "", ?_, rfl, ?_⟩
  · decide +kernel
  · decide +kernel

end Component

end LiveMarkup

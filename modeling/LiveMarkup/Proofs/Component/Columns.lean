import LiveMarkup.Proofs.Component.Inference
import LiveMarkup.Proofs.StringMap
import Mathlib.Data.Finset.Card
import Mathlib.Data.List.Forall2
import Mathlib.Order.Bounds.Basic

/-!
# Columns

Inferred fields follow the keys of the first record, and each is read off its column: its kind off the
value in the first record, and whether a text column offers choices off the number of its texts and of its
different ones (`Dataset.FieldOf`). The other records count whatever their order: in another order they
lead to the same fields, but for the sign of a bound that is zero (`Field.Agrees`). Both together are
`Dataset.inferSchema_columns`.
-/

set_option autoImplicit false

namespace LiveMarkup

/-- At least two texts, some of them equal, and at most twelve different ones. -/
structure Repetitive (texts : List String) : Prop where
  several : 2 ≤ texts.length
  repeated : texts.toFinset.card < texts.length
  few : texts.toFinset.card ≤ 12

/-- Ranges with the same step and with bounds at the same positions; a bound that is zero may have another
sign. -/
structure FieldRange.Agrees (range other : FieldRange) : Prop where
  min : range.min.position = other.min.position
  max : range.max.position = other.max.position
  step : range.step = other.step

namespace Field

/-- The choices of a field are the texts of a class, each once and labelled by itself, in ascending
order. -/
def Offers (field : Field) (Offered : String → Prop) : Prop :=
  ∃ texts : List String, field.choices = texts.map Choice.ofValue ∧ texts.Pairwise (· < ·) ∧
    ∀ text, text ∈ texts ↔ Offered text

/-- Fields that differ in nothing but the sign of a bound that is zero. -/
structure Agrees (field other : Field) : Prop where
  name : field.name = other.name
  kind : field.kind = other.kind
  choices : field.choices = other.choices
  label : field.label = other.label
  searchable : field.searchable = other.searchable
  range : Option.Rel FieldRange.Agrees field.range other.range

theorem Agrees.refl (field : Field) : field.Agrees field where
  name := rfl
  kind := rfl
  choices := rfl
  label := rfl
  searchable := rfl
  range := by
    cases field.range with
    | none => exact .none
    | some range => exact .some ⟨rfl, rfl, rfl⟩

theorem agrees_ofRange (name : String) {range other : FieldRange} (same : range.Agrees other) :
    (ofRange name range).Agrees (ofRange name other) :=
  ⟨rfl, rfl, rfl, rfl, rfl, .some same⟩

end Field

namespace Dataset

/-! ## Columns -/

/-- The texts of the scalar values of a column, from record to record. -/
def scalars (items : List Fields) (key : String) : List String :=
  items.filterMap fun record => (Fields.get? record key).bind Json.scalarText?

/-- The text is that of a scalar member of one of the column's arrays. -/
def MemberText (items : List Fields) (key text : String) : Prop :=
  ∃ record ∈ items, ∃ members, Fields.get? record key = some (.array members) ∧
    ∃ member ∈ members, member.scalarText? = some text

theorem filterMap_column (items : List Fields) (key : String) :
    (column items key).filterMap Json.scalarText? = scalars items key :=
  List.filterMap_filterMap

theorem mem_column_iff {items : List Fields} {key : String} {value : Json} :
    value ∈ column items key ↔ ∃ record ∈ items, Fields.get? record key = some value :=
  List.mem_filterMap

section Order

variable {items other : List Fields}

theorem column_perm (same : items.Perm other) (key : String) :
    (column items key).Perm (column other key) :=
  same.filterMap _

theorem columnNumbers_perm (same : items.Perm other) (key : String) :
    (columnNumbers items key).Perm (columnNumbers other key) :=
  (column_perm same key).filterMap _

end Order

/-! ## Different texts -/

theorem mem_distinct_iff {texts : List String} {text : String} :
    text ∈ distinct texts ↔ text ∈ texts := by
  have bound := StringMap.find?_ofList_map texts () text
  rw [distinct, StringMap.keys, List.mem_map]
  constructor
  · rintro ⟨entry, member, rfl⟩
    by_contra missing
    rw [if_neg missing, StringMap.mem_entries_iff.mp member] at bound
    cases bound
  · intro member
    exact ⟨(text, ()), StringMap.mem_entries_iff.mpr (bound.trans (if_pos member)), rfl⟩

theorem distinct_ascending (texts : List String) : (distinct texts).Pairwise (· < ·) :=
  StringMap.sorted_iff_keys.mp (StringMap.ofList (texts.map fun text => (text, ()))).sorted

theorem length_distinct (texts : List String) : (distinct texts).length = texts.toFinset.card := by
  have apart : (distinct texts).Nodup := (distinct_ascending texts).imp fun before => String.ne_of_lt before
  rw [← List.toFinset_card_of_nodup apart]
  congr 1
  ext text
  rw [List.mem_toFinset, List.mem_toFinset, mem_distinct_iff]

/-- Lists of the same texts have the same different texts, in the same order. -/
theorem distinct_congr {texts other : List String} (same : ∀ text, text ∈ texts ↔ text ∈ other) :
    distinct texts = distinct other := by
  refine congrArg StringMap.keys (StringMap.ext_find? fun text => ?_)
  rw [StringMap.find?_ofList_map, StringMap.find?_ofList_map]
  exact if_congr (same text) rfl rfl

theorem offers_ofChoices (kind : FieldKind) (name : String) {texts : List String} {Offered : String → Prop}
    (offered : ∀ text, text ∈ texts ↔ Offered text) :
    (Field.ofChoices kind name (distinct texts)).Offers Offered :=
  ⟨_, rfl, distinct_ascending texts, fun text => mem_distinct_iff.trans (offered text)⟩

/-! ## Fields with choices -/

theorem inferText_of_repetitive {items : List Fields} {key : String}
    (repetitive : Repetitive (scalars items key)) :
    inferText items key = Field.ofChoices .select key (distinct (scalars items key)) := by
  simp only [inferText, filterMap_column, length_distinct]
  exact if_pos ⟨repetitive.several, repetitive.repeated, repetitive.few⟩

theorem inferText_of_not_repetitive {items : List Fields} {key : String}
    (various : ¬Repetitive (scalars items key)) :
    inferText items key = Field.ofKind .text key := by
  simp only [inferText, filterMap_column, length_distinct]
  exact if_neg fun found => various ⟨found.1, found.2.1, found.2.2⟩

/-- The texts of the scalar members of the column's arrays. -/
def memberTexts (items : List Fields) (key : String) : List String :=
  (column items key).flatMap fun
    | .array members => members.filterMap Json.scalarText?
    | _ => []

theorem mem_memberTexts_iff {items : List Fields} {key text : String} :
    text ∈ memberTexts items key ↔ MemberText items key text := by
  rw [memberTexts, List.mem_flatMap]
  constructor
  · rintro ⟨value, among, listed⟩
    obtain ⟨record, member, found⟩ := mem_column_iff.mp among
    cases value with
    | array members => exact ⟨record, member, members, found, List.mem_filterMap.mp listed⟩
    | null | bool | number | string | object => cases listed
  · rintro ⟨record, member, members, found, listed⟩
    exact ⟨_, mem_column_iff.mpr ⟨record, member, found⟩, List.mem_filterMap.mpr listed⟩

theorem inferMultiselect_eq (items : List Fields) (key : String) :
    inferMultiselect items key =
      Field.ofChoices .multiselect key (distinct (memberTexts items key)) := rfl

/-! ## The field of a column -/

/-- The field that a key and its value in the first record lead to. -/
structure FieldOf (items : List Fields) (entry : String × Json) (field : Field) : Prop where
  name : field.name = entry.1
  boolean : field.kind = .boolean ↔ ∃ b, entry.2 = .bool b
  range : field.kind = .range ↔ ∃ n, entry.2 = .number n
  multiselect : field.kind = .multiselect ↔ ∃ members, entry.2 = .array members
  select : field.kind = .select ↔ (∃ s, entry.2 = .string s) ∧ Repetitive (scalars items entry.1)
  text : field.kind = .text ↔ (∃ s, entry.2 = .string s) ∧ ¬Repetitive (scalars items entry.1)
  selectChoices : field.kind = .select → field.Offers fun text => text ∈ scalars items entry.1
  multiselectChoices : field.kind = .multiselect → field.Offers (MemberText items entry.1)

theorem fieldOf_of_inferField {items : List Fields} {key : String} {sample : Json} {field : Field}
    (inferred : inferField items key sample = some field) : FieldOf items (key, sample) field := by
  cases sample with
  | null | object => cases inferred
  | bool b =>
    cases inferred
    constructor <;> simp [Field.ofKind]
  | number n =>
    cases inferred
    constructor <;> simp [inferRange, Field.ofRange, Field.ofKind]
  | array members =>
    cases inferred
    have offered := offers_ofChoices .multiselect key (@mem_memberTexts_iff items key)
    rw [inferMultiselect_eq]
    constructor
    case multiselectChoices => exact fun _ => offered
    all_goals simp [Field.ofChoices, Field.ofKind]
  | string s =>
    cases inferred
    by_cases repetitive : Repetitive (scalars items key)
    · have offered := offers_ofChoices .select key fun text => Iff.refl (text ∈ scalars items key)
      rw [inferText_of_repetitive repetitive]
      constructor
      case selectChoices => exact fun _ => offered
      all_goals simp [Field.ofChoices, Field.ofKind, repetitive]
    · rw [inferText_of_not_repetitive repetitive]
      constructor <;> simp [Field.ofKind, repetitive]

/-- Each key whose value suggests a field has one, in the order of the keys. -/
theorem forall₂_fieldOf (items : List Fields) (entries : Fields) :
    List.Forall₂ (FieldOf items) (entries.filter fun entry => entry.2.suggestsField)
      (entries.filterMap fun entry => inferField items entry.1 entry.2) := by
  induction entries with
  | nil => exact .nil
  | cons entry rest ih =>
    cases suggests : entry.2.suggestsField with
    | true =>
      obtain ⟨field, inferred, -⟩ := inferField_of_suggestsField items entry.1 suggests
      rw [List.filter_cons, if_pos suggests, List.filterMap_cons, inferred]
      exact .cons (fieldOf_of_inferField inferred) ih
    | false =>
      have skipped : inferField items entry.1 entry.2 = none := by
        apply Option.eq_none_iff_forall_not_mem.mpr
        intro field inferred
        exact Bool.false_ne_true (suggests.symm.trans (suggestsField_of_inferField inferred))
      rw [List.filter_cons, if_neg (ne_true_of_eq_false suggests), List.filterMap_cons, skipped]
      exact ih

/-! ## The order of the records -/

/-- The positions of the numbers of a list. -/
def positions (numbers : List Finite64) : Set Int :=
  {position | ∃ x ∈ numbers, x.position = position}

theorem positions_concat (numbers : List Finite64) (x : Finite64) :
    positions (numbers ++ [x]) = insert x.position (positions numbers) := by
  ext position
  simp [positions, or_and_right, exists_or, or_comm, eq_comm]

theorem position_widen (bounds : Finite64 × Finite64) (x : Finite64) :
    (widen bounds x).1.position = min x.position bounds.1.position ∧
      (widen bounds x).2.position = max x.position bounds.2.position := by
  simp only [widen, Finite64.less, decide_eq_true_eq]
  constructor <;> split <;> omega

/-- The bounds that widening leads to are the least and the greatest position. -/
theorem extreme_foldl_widen (first : Finite64) (rest : List Finite64) :
    IsLeast (positions (first :: rest)) (rest.foldl widen (first, first)).1.position ∧
      IsGreatest (positions (first :: rest)) (rest.foldl widen (first, first)).2.position := by
  -- From behind, so that the last number is the one that widens the bounds of those before it.
  induction rest using List.reverseRecOn with
  | nil =>
    have single : positions [first] = {first.position} := by
      ext position
      simp [positions, eq_comm]
    rw [single]
    exact ⟨isLeast_singleton, isGreatest_singleton⟩
  | append_singleton earlier last ih =>
    obtain ⟨low, high⟩ := position_widen (earlier.foldl widen (first, first)) last
    rw [← List.cons_append, positions_concat, List.foldl_append, List.foldl_cons, List.foldl_nil, low,
      high]
    exact ⟨ih.1.insert _, ih.2.insert _⟩

theorem position_bounds_congr {items other : List Fields} {key : String}
    (same : (columnNumbers items key).Perm (columnNumbers other key)) :
    (bounds items key).1.position = (bounds other key).1.position ∧
      (bounds items key).2.position = (bounds other key).2.position := by
  rw [bounds, bounds]
  generalize columnNumbers items key = numbers at same ⊢
  generalize columnNumbers other key = numbers' at same ⊢
  cases numbers with
  | nil =>
    rw [List.nil_perm.mp same]
    exact ⟨rfl, rfl⟩
  | cons first rest =>
    cases numbers' with
    | nil => cases List.perm_nil.mp same
    | cons first' rest' =>
      -- The search may start elsewhere, but it is over the same positions.
      have positions_eq : positions (first :: rest) = positions (first' :: rest') :=
        Set.ext fun _ => exists_congr fun _ => and_congr_left fun _ => same.mem_iff
      obtain ⟨low, high⟩ := extreme_foldl_widen first rest
      obtain ⟨low', high'⟩ := extreme_foldl_widen first' rest'
      rw [positions_eq] at low high
      exact ⟨low.unique low', high.unique high'⟩

section Order

variable {items other : List Fields}

theorem inferText_perm (same : items.Perm other) (key : String) :
    inferText items key = inferText other key := by
  have values := (column_perm same key).filterMap Json.scalarText?
  have offered := distinct_congr fun text => values.mem_iff (a := text)
  simp only [inferText, values.length_eq, offered]

theorem inferMultiselect_perm (same : items.Perm other) (key : String) :
    inferMultiselect items key = inferMultiselect other key := by
  have texts : (memberTexts items key).Perm (memberTexts other key) :=
    (column_perm same key).flatMap_right _
  rw [inferMultiselect_eq, inferMultiselect_eq, distinct_congr fun text => texts.mem_iff (a := text)]

theorem inferRange_eq (items : List Fields) (key : String) :
    inferRange items key = Field.ofRange key
      ⟨(bounds items key).1.floor, (bounds items key).2.ceil,
        if (columnNumbers items key).all Finite64.isIntegral then Finite64.nearest false 1 1
        else Finite64.nearest false 1 100⟩ := rfl

theorem inferRange_agrees (same : items.Perm other) (key : String) :
    (inferRange items key).Agrees (inferRange other key) := by
  have numbers := columnNumbers_perm same key
  obtain ⟨low, high⟩ := position_bounds_congr numbers
  rw [inferRange_eq, inferRange_eq, numbers.all_eq]
  exact Field.agrees_ofRange key
    ⟨Finite64.position_floor_congr low, Finite64.position_ceil_congr high, rfl⟩

theorem inferField_agrees (same : items.Perm other) (key : String) (sample : Json) :
    Option.Rel Field.Agrees (inferField items key sample) (inferField other key sample) := by
  cases sample with
  | null | object => exact .none
  | bool b => exact .some (.refl _)
  | number n => exact .some (inferRange_agrees same key)
  | array members =>
    rw [inferField, inferField, inferMultiselect_perm same]
    exact .some (.refl _)
  | string s =>
    rw [inferField, inferField, inferText_perm same]
    exact .some (.refl _)

end Order

/-! ## Main result -/

/-- Every key of the first record whose value suggests a field has one, in the order of the keys and read
off its column, and the other records count whatever their order. -/
theorem inferSchema_columns (first : Fields) (rest : List Fields) :
    List.Forall₂ (FieldOf (first :: rest)) (first.filter fun entry => entry.2.suggestsField)
        (inferSchema (first :: rest)) ∧
      ∀ other, rest.Perm other →
        List.Forall₂ Field.Agrees (inferSchema (first :: rest)) (inferSchema (first :: other)) := by
  refine ⟨forall₂_fieldOf (first :: rest) first, ?_⟩
  intro other same
  have reordered : (first :: rest).Perm (first :: other) := same.cons first
  have keys : List.Forall₂ (· = ·) first first := List.forall₂_refl first
  -- Both schemas go through the same keys, so they agree field by field.
  refine List.rel_filterMap ?_ keys
  rintro entry _ rfl
  exact inferField_agrees reordered entry.1 entry.2

/-- A record with a column of each kind, and one column that suggests no field. -/
def order : Fields :=
  [("buyer", .string "Ada"), ("status", .string "open"), ("total", .ofNat 3), ("paid", .bool true),
    ("tags", .array [.string "new", .ofNat 7]), ("note", .null)]

/-- Records that have some of the columns of `order`, with values of other kinds too. -/
def laterOrders : List Fields :=
  [[("buyer", .string "Bob"), ("status", .string "closed"), ("tags", .array [.null, .string "gift"])],
    [("status", .string "open"), ("buyer", .bool true), ("total", .string "9")],
    [("status", .null), ("tags", .string "new"), ("total", .ofNat 9), ("note", .string "late")]]

theorem inferSchema_columns_orders :
    laterOrders.Perm laterOrders.reverse ∧
      (List.Forall₂ (FieldOf (order :: laterOrders)) (order.filter fun entry => entry.2.suggestsField)
          (inferSchema (order :: laterOrders)) ∧
        List.Forall₂ Field.Agrees (inferSchema (order :: laterOrders))
          (inferSchema (order :: laterOrders.reverse))) ∧
      ((inferSchema (order :: laterOrders)).map fun field => (field.name, field.kind)) =
        [("buyer", .text), ("status", .select), ("total", .range), ("paid", .boolean),
          ("tags", .multiselect)] ∧
      ((inferSchema (order :: laterOrders)).map fun field => field.choices.map Choice.value) =
        [[], ["closed", "open"], [], [], ["7", "gift", "new"]] := by
  have same : laterOrders.Perm laterOrders.reverse := (List.reverse_perm _).symm
  obtain ⟨fields, reordered⟩ := inferSchema_columns order laterOrders
  refine ⟨same, ⟨fields, reordered _ same⟩, ?_, ?_⟩
  · decide +kernel
  · decide +kernel

end Dataset

end LiveMarkup

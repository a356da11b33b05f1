import LiveMarkup.Component.Writer
import LiveMarkup.Proofs.Json.RoundTrip
import Mathlib.Data.List.Induction

/-!
# Values that can be read again

Reading a value back from its tree may fail for two reasons: it nests too deep, or an object in it has
a key twice. `Json.Readable` says that neither is so. What a decoder has read can be read again
(`readable_of_value?`), and so can objects with different keys and lists of such values; a readable
value survives the trip through its compact text (`read?_compact`).
-/

set_option autoImplicit false

namespace LiveMarkup

namespace Fields

/-! ## Objects with different keys -/

theorem put_of_not_mem {fields : Fields} {key : String} (fresh : key ∉ fields.map Prod.fst)
    (value : Json) : put fields key value = fields ++ [(key, value)] := by
  induction fields with
  | nil => rfl
  | cons field rest ih =>
    rw [List.map_cons, List.mem_cons, not_or] at fresh
    rw [put, if_neg (Ne.symm fresh.1), ih fresh.2]
    rfl

theorem foldl_put_of_nodup (before fields : Fields)
    (apart : ((before ++ fields).map Prod.fst).Nodup) :
    fields.foldl (fun built entry => put built entry.1 entry.2) before = before ++ fields := by
  induction fields generalizing before with
  | nil => simp
  | cons field rest ih =>
    have fresh : field.1 ∉ before.map Prod.fst := by
      rw [List.map_append, List.nodup_append] at apart
      intro known
      exact apart.2.2 field.1 known field.1 (by simp) rfl
    rw [List.foldl_cons, put_of_not_mem fresh, ih _ (by simpa using apart), List.append_assoc]
    rfl

/-- Fields whose keys differ are the object they build. -/
theorem ofList_of_nodup {fields : Fields} (apart : (fields.map Prod.fst).Nodup) :
    ofList fields = fields :=
  foldl_put_of_nodup [] fields apart

theorem map_fst_put (fields : Fields) (key : String) (value : Json) :
    (put fields key value).map Prod.fst =
      if key ∈ fields.map Prod.fst then fields.map Prod.fst else fields.map Prod.fst ++ [key] := by
  induction fields with
  | nil => rfl
  | cons field rest ih =>
    rw [put]
    split
    · rename_i same
      simp [same]
    · rename_i differs
      rw [List.map_cons, ih]
      simp only [List.map_cons, List.mem_cons, Ne.symm differs, false_or]
      split <;> rfl

theorem mem_put {fields : Fields} {key : String} {value : Json} {field : String × Json}
    (member : field ∈ put fields key value) : field = (key, value) ∨ field ∈ fields := by
  induction fields with
  | nil => exact .inl (List.mem_singleton.mp member)
  | cons head rest ih =>
    rw [put] at member
    split at member
    · exact (List.mem_cons.mp member).imp_right (List.mem_cons_of_mem _)
    · rcases List.mem_cons.mp member with rfl | later
      · exact .inr List.mem_cons_self
      · exact (ih later).imp_right (List.mem_cons_of_mem _)

/-- A built object has different keys, and its fields are among those it was built from. -/
theorem ofList_facts (entries : Fields) :
    ((ofList entries).map Prod.fst).Nodup ∧ ∀ field ∈ ofList entries, field ∈ entries := by
  unfold ofList
  induction entries using List.reverseRecOn with
  | nil => simp
  | append_singleton earlier entry ih =>
    obtain ⟨apart, among⟩ := ih
    rw [List.foldl_append, List.foldl_cons, List.foldl_nil]
    generalize List.foldl (fun fields entry => put fields entry.1 entry.2) [] earlier = built
      at apart among ⊢
    refine ⟨?_, ?_⟩
    · rw [map_fst_put]
      split
      · exact apart
      · rename_i fresh
        refine List.nodup_append.mpr ⟨apart, by simp, ?_⟩
        rintro known member key single rfl
        rw [List.mem_singleton] at single
        exact fresh (single ▸ member)
    · intro field member
      rcases mem_put member with rfl | member
      · simp
      · exact List.mem_append_left _ (among field member)

end Fields

namespace Json

/-- A value that can be read again from its own tree where `depth` arrays and objects may nest. -/
def Readable (depth : Nat) (value : Json) : Prop :=
  RawJson.value? depth (RawJson.ofJson value) = some value

@[simp] theorem readable_null (depth : Nat) : Readable depth .null := rfl

@[simp] theorem readable_bool (depth : Nat) (b : Bool) : Readable depth (.bool b) := rfl

@[simp] theorem readable_number (depth : Nat) (n : JsonNumber) : Readable depth (.number n) := rfl

@[simp] theorem readable_string (depth : Nat) (s : String) : Readable depth (.string s) := rfl

theorem readable_array {depth : Nat} {items : List Json}
    (readable : ∀ item ∈ items, Readable depth item) : Readable (depth + 1) (.array items) := by
  have values : RawJson.values? depth (RawJson.ofItems items) = some items := by
    induction items with
    | nil => rfl
    | cons item rest ih =>
      have first : RawJson.value? depth (RawJson.ofJson item) = some item :=
        readable item List.mem_cons_self
      rw [RawJson.ofItems, RawJson.values?, first, Option.bind_some,
        ih fun value member => readable value (List.mem_cons_of_mem _ member)]
      rfl
  rw [Readable, RawJson.ofJson, RawJson.value?, values]
  rfl

theorem readable_object {depth : Nat} {fields : Fields} (apart : (fields.map Prod.fst).Nodup)
    (readable : ∀ field ∈ fields, Readable depth field.2) :
    Readable (depth + 1) (.object fields) := by
  have entries : RawJson.entries? depth (RawJson.ofFields fields) = some fields := by
    clear apart
    induction fields with
    | nil => rfl
    | cons field rest ih =>
      have first : RawJson.value? depth (RawJson.ofJson field.2) = some field.2 :=
        readable field List.mem_cons_self
      rw [RawJson.ofFields, RawJson.entries?, Option.bind_some, first, Option.bind_some,
        ih fun value member => readable value (List.mem_cons_of_mem _ member)]
      rfl
  rw [Readable, RawJson.ofJson, RawJson.value?, entries, Option.map_some,
    Fields.ofList_of_nodup apart]

mutual

/-- A value that was read can be read again. -/
theorem readable_of_value? : (raw : RawJson) → {depth : Nat} → {value : Json} →
    RawJson.value? depth raw = some value → Readable depth value
  | .null, _, _, read => by
    obtain rfl := Option.some.inj read
    rfl
  | .bool b, _, _, read => by
    obtain rfl := Option.some.inj read
    rfl
  | .number n, _, _, read => by
    obtain ⟨n, -, rfl⟩ := Option.map_eq_some_iff.mp read
    rfl
  | .string s, _, _, read => by
    obtain ⟨s, -, rfl⟩ := Option.map_eq_some_iff.mp read
    rfl
  | .array items, 0, _, read => by cases read
  | .array items, depth + 1, _, read => by
    obtain ⟨values, inner, rfl⟩ := Option.map_eq_some_iff.mp read
    exact readable_array (readable_of_values? items inner)
  | .object fields, 0, _, read => by cases read
  | .object fields, depth + 1, _, read => by
    obtain ⟨entries, inner, rfl⟩ := Option.map_eq_some_iff.mp read
    obtain ⟨apart, among⟩ := Fields.ofList_facts entries
    refine readable_object apart ?_
    intro field member
    exact readable_of_entries? fields inner field (among field member)

theorem readable_of_values? : (items : List RawJson) → {depth : Nat} → {values : List Json} →
    RawJson.values? depth items = some values → ∀ value ∈ values, Readable depth value
  | [], _, _, read => by
    obtain rfl := Option.some.inj read
    simp
  | item :: rest, _, _, read => by
    obtain ⟨value, first, read⟩ := Option.bind_eq_some_iff.mp read
    obtain ⟨values, others, rfl⟩ := Option.map_eq_some_iff.mp read
    exact List.forall_mem_cons.mpr
      ⟨readable_of_value? item first, readable_of_values? rest others⟩

theorem readable_of_entries? : (fields : List (Option String × RawJson)) → {depth : Nat} →
    {entries : Fields} → RawJson.entries? depth fields = some entries →
    ∀ entry ∈ entries, Readable depth entry.2
  | [], _, _, read => by
    obtain rfl := Option.some.inj read
    simp
  | (key, item) :: rest, _, _, read => by
    obtain ⟨key, -, read⟩ := Option.bind_eq_some_iff.mp read
    obtain ⟨value, first, read⟩ := Option.bind_eq_some_iff.mp read
    obtain ⟨entries, others, rfl⟩ := Option.map_eq_some_iff.mp read
    exact List.forall_mem_cons.mpr
      ⟨readable_of_value? item first, readable_of_entries? rest others⟩

end

/-! ## Objects built from parts -/

/-- The keys of these fields are some of `keys`, in that order, and the values can be read again. -/
structure Within (depth : Nat) (keys : List String) (fields : Fields) : Prop where
  keys : (fields.map Prod.fst).Sublist keys
  values : ∀ field ∈ fields, Readable depth field.2

theorem within_fields {depth : Nat} {fields : Fields}
    (readable : ∀ field ∈ fields, Readable depth field.2) :
    Within depth (fields.map Prod.fst) fields :=
  ⟨.refl _, readable⟩

theorem within_single {depth : Nat} {value : Json} (readable : Readable depth value)
    (key : String) : Within depth [key] [(key, value)] :=
  ⟨.refl [key], by simpa using readable⟩

theorem Within.append {depth : Nat} {keys more : List String} {fields others : Fields}
    (within : Within depth keys fields) (later : Within depth more others) :
    Within depth (keys ++ more) (fields ++ others) where
  keys := by
    rw [List.map_append]
    exact within.keys.append later.keys
  values := by
    intro field member
    rcases List.mem_append.mp member with member | member
    · exact within.values field member
    · exact later.values field member

/-- Fields may be left out. -/
theorem Within.unless {depth : Nat} {keys : List String} {fields : Fields}
    (within : Within depth keys fields) (omitted : Bool) :
    Within depth keys (if omitted then [] else fields) := by
  cases omitted with
  | true => exact ⟨List.nil_sublist keys, by simp⟩
  | false => exact within

theorem within_fieldIf {α : Type} {depth : Nat} {write : α → Json} {value : Option α}
    (readable : ∀ given, value = some given → Readable depth (write given)) (key : String) :
    Within depth [key] (fieldIf key write value) := by
  cases value with
  | none => exact ⟨List.nil_sublist _, by simp [fieldIf]⟩
  | some given => exact within_single (readable given rfl) key

/-- An object with different keys can be read again. -/
theorem Within.readable {depth : Nat} {keys : List String} {fields : Fields}
    (within : Within depth keys fields) (apart : keys.Nodup) :
    Readable (depth + 1) (.object fields) :=
  readable_object (within.keys.nodup apart) within.values

theorem readable_ofList {α : Type} {depth : Nat} {write : α → Json} {items : List α}
    (readable : ∀ item ∈ items, Readable depth (write item)) :
    Readable (depth + 1) (ofList write items) := by
  refine readable_array ?_
  intro value member
  obtain ⟨item, listed, rfl⟩ := List.mem_map.mp member
  exact readable item listed

@[simp] theorem readable_ofTexts (depth : Nat) (map : StringMap String) :
    Readable (depth + 1) (ofTexts map) := by
  refine readable_object ?_ ?_
  · rw [List.map_map]
    refine (List.pairwise_map.mpr map.sorted).imp ?_
    rintro key _ before rfl
    exact String.lt_irrefl key before
  · intro field member
    obtain ⟨entry, -, rfl⟩ := List.mem_map.mp member
    exact readable_string depth entry.2

@[simp] theorem readable_ofOption (depth : Nat) (s : Option String) : Readable depth (ofOption s) := by
  cases s with
  | none => exact readable_null depth
  | some s => exact readable_string depth s

@[simp] theorem readable_ofNat (depth n : Nat) : Readable depth (ofNat n) := readable_number depth _

/-! ## Texts -/

/-- Integers are read back, so the numbers of a value are if its floats are. -/
theorem readsBack_of_floats {value : Json}
    (floats : ∀ x, .float x ∈ value.numbers → (JsonNumber.float x).ReadsBack) :
    ∀ n ∈ value.numbers, n.ReadsBack := by
  intro n member
  cases n with
  | integer n fits => exact JsonNumber.readsBack_integer n fits
  | float x => exact floats x member

/-- A readable value survives the trip through its compact text, if its floats do. -/
theorem read?_compact {value : Json} (readable : Readable RawJson.nestingLimit value)
    (floats : ∀ x, .float x ∈ value.numbers → (JsonNumber.float x).ReadsBack) :
    RawJson.ofText? value.compact = some (RawJson.ofJson value) ∧
      read? value.compact = some value := by
  have tree := RawJson.ofText?_compact (readsBack_of_floats floats)
  refine ⟨tree, ?_⟩
  rw [read?, tree]
  exact readable

end Json

end LiveMarkup

import LiveMarkup.Component.Reader
import LiveMarkup.Proofs.Json.Nesting
import LiveMarkup.Proofs.Payload.Parsed
import LiveMarkup.Proofs.StringMap

/-!
# Decoders and what was written

`Rereads decode write x` says that a decoder gets `x` back from the tree that is written for it,
wherever enough arrays and objects may nest. A decoder is lossless if it gets back whatever it has
read, however that was spelled (`Decoder.Lossless`). Lists, maps and values that may be null take this
over from their parts, and a record does so field by field: `Members.written` are the members that a
decoder finds in a written object, and there is one lemma for each way to look a field up.
-/

set_option autoImplicit false

namespace LiveMarkup

/-! ## Reading back what is written -/

/-- The decoder gets `x` back from its written form wherever enough may nest. -/
def Rereads {α : Type} (decode : Decoder α) (write : α → Json) (x : α) : Prop :=
  ∀ limit, (write x).nesting ≤ limit → decode limit (RawJson.ofJson (write x)) = some x

/-- The decoder gets back whatever it has read. -/
def Decoder.Lossless {α : Type} (decode : Decoder α) (write : α → Json) : Prop :=
  ∀ depth raw x, decode depth raw = some x → Rereads decode write x

theorem RawJson.ofJson_eq_null_iff {value : Json} : RawJson.ofJson value = .null ↔ value = .null := by
  cases value <;> simp [RawJson.ofJson]

theorem RawJson.eq_null_of_value? {depth : Nat} {raw : RawJson}
    (read : RawJson.value? depth raw = some .null) : raw = .null := by
  cases raw with
  | null => rfl
  | array items => cases depth <;> simp [RawJson.value?] at read
  | object fields => cases depth <;> simp [RawJson.value?] at read
  | _ => simp [RawJson.value?] at read

theorem RawJson.ofItems_eq_map (items : List Json) :
    RawJson.ofItems items = items.map RawJson.ofJson := by
  induction items with
  | nil => rfl
  | cons item rest ih => rw [RawJson.ofItems, ih, List.map_cons]

theorem RawJson.ofFields_eq_map (fields : Fields) :
    RawJson.ofFields fields = fields.map fun field => (some field.1, RawJson.ofJson field.2) := by
  induction fields with
  | nil => rfl
  | cons field rest ih => rw [RawJson.ofFields, ih, List.map_cons]

section Values

variable {α : Type} {decode : Decoder α} {write : α → Json}

theorem rereads_string (s : String) : Rereads Decoder.string Json.string s := fun _ _ => rfl

theorem rereads_bool (b : Bool) : Rereads Decoder.bool Json.bool b := fun _ _ => rfl

theorem rereads_float (x : Finite64) :
    Rereads Decoder.float (fun x => .number (.float x)) x := fun _ _ => rfl

/-- An integer that a number token can hold is written as that token. -/
theorem JsonNumber.ofInt_of_fits {n : Int} (fits : FitsWord n) :
    JsonNumber.ofInt n = .integer n fits := dif_pos fits

theorem rereads_natural {n : Nat} (fits : FitsWord n) : Rereads Decoder.natural Json.ofNat n := by
  intro limit _
  rw [Json.ofNat, JsonNumber.ofInt_of_fits fits, RawJson.ofJson, Decoder.natural,
    if_pos (Int.natCast_nonneg n), Int.toNat_natCast]

theorem Decoder.lossless_natural : Decoder.Lossless Decoder.natural Json.ofNat := by
  intro depth raw n read
  unfold natural at read
  split at read
  · rename_i n fits
    obtain ⟨hpos, hsame⟩ := Option.ite_none_right_eq_some.mp read
    obtain rfl := Option.some.inj hsame
    refine rereads_natural ?_
    rwa [Int.toNat_of_nonneg hpos]
  · cases read

theorem Decoder.lossless_int32 : Decoder.Lossless Decoder.int32 (fun n => .number (.ofInt n)) := by
  intro depth raw n read
  unfold int32 at read
  split at read
  · rename_i n fits
    obtain ⟨hrange, hsame⟩ := Option.ite_none_right_eq_some.mp read
    obtain rfl := Option.some.inj hsame
    intro limit _
    simp only [JsonNumber.ofInt_of_fits fits, RawJson.ofJson, Decoder.int32, if_pos hrange]
  · cases read

theorem rereads_int32_zero : Rereads Decoder.int32 (fun n => .number (.ofInt n)) 0 :=
  fun _ _ => rfl

theorem rereads_json {depth : Nat} {value : Json} (readable : Json.Readable depth value) :
    Rereads Decoder.json id value := fun _ hfits => readable.of_nesting_le hfits

theorem Decoder.lossless_json : Decoder.Lossless Decoder.json id :=
  fun _ raw _ read => rereads_json (Json.readable_of_value? raw read)

/-- Records keep the order in which their keys came. -/
theorem Decoder.lossless_fields : Decoder.Lossless Decoder.fields Json.object := by
  intro depth raw record read limit hfits
  obtain ⟨_, -, apart, hvalues⟩ := Json.readable_fields_of_object (readable_of_fields read)
  obtain ⟨inner, rfl, hinner⟩ := Json.nesting_object_le_iff.mp hfits
  have hread := Json.readable_fields_of_nesting_le record hvalues hinner
  -- The entries are read one by one; that no key repeats only matters for the whole record.
  have hentries : Decoder.entries Decoder.json (inner + 1) (RawJson.ofJson (.object record)) =
      some record := by
    clear read hvalues hinner apart hfits
    rw [RawJson.ofJson, RawJson.ofFields_eq_map, Decoder.entries]
    induction record with
    | nil => rfl
    | cons field rest ih =>
      rw [List.forall_mem_cons] at hread
      have hfield : RawJson.value? inner (RawJson.ofJson field.2) = some field.2 := hread.1
      rw [List.map_cons, List.mapM_cons, ih hread.2]
      simp [Decoder.json, hfield]
  rw [Decoder.fields, hentries, Option.map_some, Fields.ofList_of_nodup apart]

theorem rereads_list {xs : List α} (h : ∀ x ∈ xs, Rereads decode write x) :
    Rereads (Decoder.list decode) (Json.ofList write) xs := by
  intro limit hfits
  obtain ⟨inner, rfl, hinner⟩ := Json.nesting_array_le_iff.mp hfits
  rw [Json.ofList, RawJson.ofJson, RawJson.ofItems_eq_map, Decoder.list]
  clear hfits
  induction xs with
  | nil => rfl
  | cons x rest ih =>
    rw [List.map_cons, List.forall_mem_cons] at hinner
    rw [List.forall_mem_cons] at h
    have hx := h.1 inner hinner.1
    simp only [List.map_cons, List.mapM_cons, hx, ih h.2 hinner.2]
    rfl

theorem Decoder.Lossless.list (h : decode.Lossless write) :
    (Decoder.list decode).Lossless (Json.ofList write) := by
  intro depth raw xs read
  refine rereads_list ?_
  intro x hx
  obtain ⟨item, hitem⟩ := exists_of_list read x hx
  exact h _ item x hitem

theorem rereads_texts (map : StringMap String) :
    Rereads (Decoder.stringMap Decoder.string) Json.ofTexts map := by
  intro limit hfits
  obtain ⟨inner, rfl, -⟩ := Json.nesting_object_le_iff.mp hfits
  have hentries : ∀ entries : List (String × String),
      Decoder.entries Decoder.string (inner + 1) (RawJson.ofJson (.object
        (entries.map fun entry => (entry.1, .string entry.2)))) = some entries := by
    intro entries
    rw [RawJson.ofJson, RawJson.ofFields_eq_map, Decoder.entries]
    induction entries with
    | nil => rfl
    | cons entry rest ih =>
      simp only [List.map_cons, List.mapM_cons, ih]
      rfl
  rw [Decoder.stringMap, Json.ofTexts, hentries, Option.map_some, StringMap.ofList_entries]

/-- A name among the listed ones is read as its value. -/
theorem rereads_named {all : List α} {name : α → String} {other : Option α} {x : α}
    (h : ((all.map fun value => (name value, value)).lookup (name x)).or other = some x) :
    Rereads (Decoder.named all name other) (fun x => .string (name x)) x := fun _ _ => h

/-! ## Values that may be null -/

theorem rereads_nullable {value : Option α}
    (h : ∀ x, value = some x → Rereads decode write x ∧ write x ≠ .null) :
    Rereads decode.nullable (Json.ofOptional write) value := by
  intro limit hfits
  cases value with
  | none => rfl
  | some x =>
    obtain ⟨hx, hnull⟩ := h x rfl
    have hraw : RawJson.ofJson (write x) ≠ .null := fun hraw =>
      hnull (RawJson.ofJson_eq_null_iff.mp hraw)
    rw [Json.ofOptional, Decoder.nullable, hx limit hfits, Option.map_some]
    exact hraw

theorem nullable_eq_some {depth : Nat} {raw : RawJson} {x : α}
    (read : decode.nullable depth raw = some (some x)) : raw ≠ .null ∧ decode depth raw = some x := by
  unfold Decoder.nullable at read
  split at read
  · cases read
  · rename_i hraw
    obtain ⟨given, hgiven, hsame⟩ := Option.map_eq_some_iff.mp read
    obtain rfl := Option.some.inj hsame
    exact ⟨hraw, hgiven⟩

end Values

/-! ## Members of written records -/

namespace Members

variable {α : Type} {decode : Decoder α} {write : α → Json}

/-- The members that a decoder finds in a written object. -/
def written (depth : Nat) (fields : Fields) : Members :=
  ⟨depth, false, fields.map fun field => (field.1, RawJson.ofJson field.2)⟩

theorem collect?_ofFields {canonical : String → Option String} {fields : Fields}
    (apart : (fields.map Prod.fst).Nodup)
    (known : ∀ key ∈ fields.map Prod.fst, canonical key = some key) :
    collect? canonical (RawJson.ofFields fields) =
      some (fields.map fun field => (field.1, RawJson.ofJson field.2)) := by
  induction fields with
  | nil => rfl
  | cons field rest ih =>
    rw [List.map_cons, List.nodup_cons] at apart
    rw [List.map_cons, List.forall_mem_cons] at known
    -- No key comes again, so no member is refused as a second one.
    have hfresh : ((rest.map fun field => (field.1, RawJson.ofJson field.2)).any
        fun other => other.1 == field.1) = false := by
      rw [List.any_map, List.any_eq_false]
      intro other member same
      exact apart.1 (beq_iff_eq.mp same ▸ List.mem_map_of_mem member)
    rw [RawJson.ofFields, collect?, Option.bind_some, ih apart.2 known.2, Option.bind_some]
    simp only [known.1, hfresh]
    rfl

/-- An object whose keys are names of the record has them as its members. -/
theorem ofFields?_written {names : List String} {aliases : List (String × String)} {fields : Fields}
    (keys : (fields.map Prod.fst).Sublist names) (apart : names.Nodup)
    (noAlias : ∀ name ∈ names, aliases.lookup name = none) (depth : Nat) :
    ofFields? names aliases depth (RawJson.ofFields fields) = some (written depth fields) := by
  -- A name of the record is nobody's alias, so every written key stands for itself.
  have known : ∀ key ∈ fields.map Prod.fst,
      (if names.contains ((aliases.lookup key).getD key) then
        some ((aliases.lookup key).getD key) else none) = some key := by
    intro key member
    have hname := keys.subset member
    rw [noAlias key hname, Option.getD_none, if_pos (List.contains_iff_mem.mpr hname)]
  rw [ofFields?, collect?_ofFields (keys.nodup apart) known]
  rfl

theorem lookup_written (depth : Nat) (fields : Fields) (name : String) :
    (written depth fields).present.lookup name = (fields.lookup name).map RawJson.ofJson := by
  induction fields with
  | nil => rfl
  | cons field rest ih =>
    rw [written, List.map_cons, List.lookup_cons, List.lookup_cons]
    cases name == field.1 with
    | true => rfl
    | false => exact ih

variable {fields : Fields} {limit : Nat}

theorem nesting_le_of_lookup (hfits : ∀ field ∈ fields, field.2.nesting ≤ limit) {name : String}
    {value : Json} (found : fields.lookup name = some value) : value.nesting ≤ limit := by
  obtain ⟨before, after, rfl, -⟩ := List.lookup_eq_some_iff.mp found
  exact hfits (name, value) (List.mem_append_right _ List.mem_cons_self)

theorem required_written (hfits : ∀ field ∈ fields, field.2.nesting ≤ limit) (name : String)
    {x : α} (h : Rereads decode write x) (found : fields.lookup name = some (write x)) :
    (written limit fields).required name decode = some x := by
  rw [required, lookup_written, found]
  exact h limit (nesting_le_of_lookup hfits found)

theorem withDefault_written (hfits : ∀ field ∈ fields, field.2.nesting ≤ limit) (name : String)
    {x : α} (h : Rereads decode write x) (found : fields.lookup name = some (write x)) (default : α) :
    (written limit fields).withDefault name decode default = some x := by
  rw [withDefault, lookup_written, found]
  exact h limit (nesting_le_of_lookup hfits found)

theorem withDefault_omitted {name : String} (missing : fields.lookup name = none) (default : α) :
    (written limit fields).withDefault name decode default = some default := by
  rw [withDefault, lookup_written, missing]
  rfl

/-- A field that is written as null without a value. -/
theorem optional_written (hfits : ∀ field ∈ fields, field.2.nesting ≤ limit) (name : String)
    {value : Option α} (h : ∀ x, value = some x → Rereads decode write x ∧ write x ≠ .null)
    (found : fields.lookup name = some (Json.ofOptional write value)) :
    (written limit fields).optional name decode = some value :=
  withDefault_written hfits name (rereads_nullable h) found none

/-- A text that is written as null when there is none. -/
theorem optional_text_written (hfits : ∀ field ∈ fields, field.2.nesting ≤ limit) (name : String)
    (value : Option String) (found : fields.lookup name = some (Json.ofOption value)) :
    (written limit fields).optional name Decoder.string = some value := by
  refine optional_written hfits name (fun s _ => ⟨rereads_string s, nofun⟩) ?_
  rw [found]
  cases value <;> rfl

/-- A field that may be null or left out and is always written. -/
theorem optional_given (hfits : ∀ field ∈ fields, field.2.nesting ≤ limit) (name : String)
    {x : α} (h : Rereads decode write x) (hnull : write x ≠ .null)
    (found : fields.lookup name = some (write x)) :
    (written limit fields).optional name decode = some (some x) := by
  refine optional_written hfits name ?_ found
  rintro y hy
  obtain rfl := Option.some.inj hy
  exact ⟨h, hnull⟩

/-- A field that is left out without a value. -/
theorem optional_fieldIf (hfits : ∀ field ∈ fields, field.2.nesting ≤ limit) (name : String)
    (value : Option α) (h : ∀ x, value = some x → Rereads decode write x ∧ write x ≠ .null)
    (found : fields.lookup name = value.map write) :
    (written limit fields).optional name decode = some value := by
  cases value with
  | none => exact withDefault_omitted found none
  | some x => exact optional_given hfits name (h x rfl).1 (h x rfl).2 found

/-- A text that is left out when there is none. -/
theorem optional_text_fieldIf (hfits : ∀ field ∈ fields, field.2.nesting ≤ limit) (name : String)
    (value : Option String) (found : fields.lookup name = value.map Json.string) :
    (written limit fields).optional name Decoder.string = some value :=
  optional_fieldIf hfits name value (fun s _ => ⟨rereads_string s, nofun⟩) found

/-- A field that is left out when it has its default value. -/
theorem withDefault_unless (hfits : ∀ field ∈ fields, field.2.nesting ≤ limit) (name : String)
    {x default : α} {omitted : Bool} (h : Rereads decode write x)
    (hdefault : omitted = true → x = default)
    (found : fields.lookup name = if omitted then none else some (write x)) :
    (written limit fields).withDefault name decode default = some x := by
  cases homitted : omitted with
  | true =>
    rw [hdefault homitted]
    exact withDefault_omitted (by rw [found, if_pos homitted]) default
  | false =>
    exact withDefault_written hfits name h (by rw [found, homitted]; rfl) default

/-! ## Members that were read -/

variable {members : Members} {name : String}

theorem rereads_of_required (h : decode.Lossless write) {x : α}
    (read : members.required name decode = some x) : Rereads decode write x := by
  obtain ⟨raw, hraw⟩ := exists_of_required read
  exact h _ raw x hraw

theorem rereads_of_withDefault (h : decode.Lossless write) {x default : α}
    (hdefault : Rereads decode write default)
    (read : members.withDefault name decode default = some x) : Rereads decode write x := by
  rcases exists_of_withDefault read with rfl | ⟨raw, hraw⟩
  · exact hdefault
  · exact h _ raw x hraw

theorem rereads_of_optional (h : decode.Lossless write) {value : Option α}
    (read : members.optional name decode = some value) :
    ∀ x, value = some x → Rereads decode write x := by
  rintro x rfl
  obtain ⟨raw, hraw⟩ := exists_of_optional read
  exact h _ raw x hraw

/-- A value that may be null and is given is not null. -/
theorem ne_null_of_optional {value : Json}
    (read : members.optional name Decoder.json = some (some value)) : value ≠ .null := by
  rcases exists_of_withDefault read with hnone | ⟨raw, hraw⟩
  · cases hnone
  · rintro rfl
    obtain ⟨hraw, hvalue⟩ := nullable_eq_some hraw
    exact hraw (RawJson.eq_null_of_value? hvalue)

end Members

/-- A record is read back if its members are found among the written ones. -/
theorem rereads_record {α : Type} {write : α → Json} {names : List String}
    {aliases : List (String × String)} {body : Members → Option α} {x : α} {fields : Fields}
    (hwrite : write x = .object fields) (keys : (fields.map Prod.fst).Sublist names)
    (apart : names.Nodup) (noAlias : ∀ name ∈ names, aliases.lookup name = none)
    (hbody : ∀ limit, (∀ field ∈ fields, field.2.nesting ≤ limit) →
      body (Members.written limit fields) = some x) :
    Rereads (fun depth raw => (Members.ofRaw? names aliases depth raw).bind body) write x := by
  intro limit hfits
  rw [hwrite] at hfits ⊢
  obtain ⟨inner, rfl, hinner⟩ := Json.nesting_object_le_iff.mp hfits
  simp only [RawJson.ofJson, Members.ofRaw?, Members.ofFields?_written keys apart noAlias inner,
    Option.bind_some]
  exact hbody inner hinner

namespace Json

theorem sublist_fieldIf {α : Type} (key : String) (write : α → Json) (value : Option α) :
    ((fieldIf key write value).map Prod.fst).Sublist [key] := by
  cases value with
  | none => exact List.nil_sublist _
  | some x => exact .refl _

theorem sublist_unless (omitted : Bool) (key : String) (value : Json) :
    ((if omitted then [] else [(key, value)]).map Prod.fst).Sublist [key] := by
  cases omitted with
  | true => exact List.nil_sublist _
  | false => exact .refl _

theorem lookup_unless (omitted : Bool) (key name : String) (value : Json) :
    (if omitted then [] else [(key, value)]).lookup name =
      if name == key then if omitted then none else some value else none := by
  cases omitted with
  | true => simp
  | false =>
    rw [if_neg Bool.false_ne_true, List.lookup_cons, if_neg Bool.false_ne_true]
    cases name == key <;> rfl

theorem lookup_fieldIf {α : Type} (key name : String) (write : α → Json) (value : Option α) :
    (fieldIf key write value).lookup name = if name == key then value.map write else none := by
  cases value with
  | none => simp [fieldIf]
  | some x =>
    rw [fieldIf, List.lookup_cons]
    cases name == key <;> rfl

end Json

end LiveMarkup

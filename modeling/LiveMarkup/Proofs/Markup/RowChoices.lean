import LiveMarkup.Filter.Set
import LiveMarkup.Proofs.Payload.Records
import LiveMarkup.Proofs.Text.Split

/-!
# Choices in row attributes

A row that the server renders holds the choices of a record in one attribute, with commas between them.
The attribute is read by cutting it at the commas, trimming the parts and dropping the empty ones. What
is read are the choices of the record exactly when each of them is legible: not empty, without a comma
and without white space at its ends. The filters tell the row from the record exactly when a choice is
not (`Structure.choices_survive_iff`), and a comma is enough for that (`Structure.comma_cuts_choice`).
-/

set_option autoImplicit false

namespace LiveMarkup

namespace FilterValue

theorem admits_multi_array (wanted : List String) (items : List Json) :
    (multi wanted).admits (some (.array items)) =
      (wanted.isEmpty || (items.map Json.text).any wanted.contains) := by
  have active : (multi wanted).isActive = !wanted.isEmpty := rfl
  rw [admits, active, Bool.not_not]
  rfl

/-- Two lists of choices pass the same filters exactly when they hold the same of the texts that filters
may ask for. -/
theorem admits_alike_iff (asked : String → Prop) (items others : List Json) :
    (∀ wanted : List String, (∀ text ∈ wanted, asked text) →
        (multi wanted).admits (some (.array items)) = (multi wanted).admits (some (.array others))) ↔
      ∀ text, asked text → (text ∈ items.map Json.text ↔ text ∈ others.map Json.text) := by
  simp only [admits_multi_array]
  constructor
  · intro alike text may
    -- A filter that asks for this text alone tells whether it is there.
    have single := alike [text] (List.forall_mem_singleton.mpr may)
    rw [List.isEmpty_cons, Bool.false_or, Bool.false_or, Bool.eq_iff_iff, List.any_eq_true,
      List.any_eq_true] at single
    simpa using single
  · intro same wanted may
    refine congrArg (wanted.isEmpty || ·) (Bool.eq_iff_iff.mpr ?_)
    rw [List.any_eq_true, List.any_eq_true]
    have transfer (texts more : List String)
        (within : ∀ text, asked text → text ∈ texts → text ∈ more) :
        (∃ text ∈ texts, wanted.contains text = true) →
          ∃ text ∈ more, wanted.contains text = true := by
      rintro ⟨text, held, found⟩
      exact ⟨text, within text (may text (List.contains_iff_mem.mp found)) held, found⟩
    exact ⟨transfer _ _ fun text given => (same text given).mp,
      transfer _ _ fun text given => (same text given).mpr⟩

/-- The choices that are wanted after an input are never empty texts. -/
theorem ne_empty_of_mem_choicesOf {raw : Json} {text : String} (member : text ∈ choicesOf raw) :
    text ≠ "" := by
  obtain ⟨-, kept⟩ := List.mem_filter.mp member
  rintro rfl
  exact absurd kept (by decide)

/-- Any choices that are no empty texts can be asked for. -/
theorem choicesOf_strings {wanted : List String} (given : ∀ text ∈ wanted, text ≠ "") :
    choicesOf (.array (wanted.map .string)) = wanted := by
  have texts : (wanted.map Json.string).map Json.text = wanted := by
    rw [List.map_map]
    exact List.map_id' wanted
  have kept : choicesOf (.array (wanted.map .string)) =
      ((wanted.map Json.string).map Json.text).filter fun text => !text.isEmpty := rfl
  rw [kept, texts, List.filter_eq_self]
  intro text member
  simpa using given text member

/-- What filters may ask for after inputs are all texts but the empty one. -/
theorem forall_input_iff (holds : FilterValue → Prop) :
    (∀ raw, holds (ofInput .multiselect raw)) ↔
      ∀ wanted : List String, (∀ text ∈ wanted, text ≠ "") → holds (multi wanted) := by
  constructor
  · intro inputs wanted given
    have input := inputs (.array (wanted.map .string))
    rwa [ofInput, choicesOf_strings given] at input
  · intro lists raw
    exact lists _ fun text member => ne_empty_of_mem_choicesOf member

end FilterValue

namespace Structure

open Markup

/-! ## Reading choices -/

/-- What the attribute of a field with several choices is read as: the parts between its commas, without
what `space` takes for white space around them, and without those of which nothing is left. -/
def readChoices (space : Char → Bool) (value : String) : List String :=
  ((Text.split (· == ',') value).map (Text.trimmed space)).filter fun text => !text.isEmpty

/-- A text that can be read among others with commas between them. -/
structure Legible (space : Char → Bool) (text : String) : Prop where
  nonempty : text ≠ ""
  uncut : ',' ∉ text.toList
  trimmed : Text.trimmed space text = text

section Reading

variable {space : Char → Bool}

/-- Whatever the attribute holds, what is read from it is legible. -/
theorem legible_of_mem_readChoices {value text : String} (member : text ∈ readChoices space value) :
    Legible space text := by
  obtain ⟨listed, kept⟩ := List.mem_filter.mp member
  obtain ⟨part, cut, rfl⟩ := List.mem_map.mp listed
  refine ⟨?_, ?_, Text.trimmed_trimmed space part⟩
  · intro nothing
    rw [nothing] at kept
    exact absurd kept (by decide)
  · intro comma
    exact Text.not_mem_of_mem_split cut (Text.subset_trimmed space part comma)

/-- Empty texts are lost; all others come back if they are legible. -/
theorem readChoices_intercalate {texts : List String}
    (legible : ∀ text ∈ texts, text ≠ "" → Legible space text) :
    readChoices space (",".intercalate texts) = texts.filter fun text => !text.isEmpty := by
  cases texts with
  | nil => rfl
  | cons first rest =>
    have uncut : ∀ text ∈ first :: rest, ',' ∉ text.toList := by
      intro text member
      by_cases nothing : text = ""
      · rw [nothing]
        exact List.not_mem_nil
      · exact (legible text member nothing).uncut
    have untrimmed : (first :: rest).map (Text.trimmed space) = first :: rest := by
      refine (List.map_congr_left fun text member => ?_).trans (List.map_id _)
      by_cases nothing : text = ""
      · rw [nothing]
        rfl
      · exact (legible text member nothing).trimmed
    rw [readChoices, Text.split_intercalate rfl (List.cons_ne_nil first rest) uncut, untrimmed]

/-- All texts come back exactly when all of them are legible. -/
theorem readChoices_eq_iff {texts : List String} :
    readChoices space (",".intercalate texts) = texts ↔ ∀ text ∈ texts, Legible space text := by
  constructor
  · intro back text member
    rw [← back] at member
    exact legible_of_mem_readChoices member
  · intro legible
    rw [readChoices_intercalate fun text member _ => legible text member, List.filter_eq_self]
    intro text member
    simpa using (legible text member).nonempty

/-- Of the texts that may be asked for, with all but the empty one among them, the same are read as were
written exactly when those that were written are legible. -/
theorem mem_readChoices_iff (asked : String → Prop) (wide : ∀ text, text ≠ "" → asked text)
    {texts : List String} :
    (∀ text, asked text → (text ∈ readChoices space (",".intercalate texts) ↔ text ∈ texts)) ↔
      ∀ text ∈ texts, asked text → Legible space text := by
  constructor
  · intro same text member may
    exact legible_of_mem_readChoices ((same text may).mpr member)
  · intro legible text may
    rw [readChoices_intercalate fun text member nonempty => legible text member (wide text nonempty),
      List.mem_filter]
    refine and_iff_left_of_imp fun member => ?_
    simpa using (legible text member may).nonempty

end Reading

/-- The value that the attribute of a field with several choices is read as. -/
def readValue (space : Char → Bool) (value : String) : Json :=
  .array ((readChoices space value).map .string)

/-- Filters that may ask for these texts tell the row from the record exactly when one of them is a
choice of the record and not legible. -/
theorem admits_readValue_iff (space : Char → Bool) (asked : String → Prop)
    (wide : ∀ text, text ≠ "" → asked text) (items : List Json) :
    (∀ wanted : List String, (∀ text ∈ wanted, asked text) →
        (FilterValue.multi wanted).admits (some (readValue space (rowValue (.array items)))) =
          (FilterValue.multi wanted).admits (some (.array items))) ↔
      ∀ item ∈ items, asked item.text → Legible space item.text := by
  have texts : ((readChoices space (rowValue (.array items))).map Json.string).map Json.text =
      readChoices space (",".intercalate (items.map Json.text)) := by
    rw [List.map_map]
    exact List.map_id' _
  rw [readValue, FilterValue.admits_alike_iff, texts, mem_readChoices_iff asked wide,
    List.forall_mem_map]

/-! ## Rows of a component -/

/-- The row of a record holds the value of a field under the name that the field gives. -/
theorem attr_mem_row (theme : Theme) {schema : List Field} {field : Field} (declared : field ∈ schema)
    {name : String} (named : rowAttribute? field.name = some name) (template : Option String)
    (index : Nat) {record : Fields} {value : Json}
    (held : Fields.get? record field.name = some value) :
    attr name (rowValue value) ∈ (row theme schema template index record).attributes := by
  have written : attr name (rowValue value) ∈ rowValues schema record := by
    refine List.mem_filterMap.mpr ⟨field, declared, ?_⟩
    rw [named, held]
    rfl
  refine List.mem_append_left _ ?_
  exact List.mem_append_right _ written

/-- Where the server renders the rows, the row of a record holds the choices of a field with several
choices in one attribute, alone under its name if the fields keep apart. What is read from it are the
choices of the record exactly when all of them are legible. That is also exactly when all filters accept
what is read if and only if they accept the record; of the filters that inputs give this is so exactly
when all choices that are no empty texts are legible. -/
theorem choices_survive_iff {component : Component} {data : Dataset}
    (given : component.data = some data) (shown : component.pattern.usesData = true)
    (server : component.serverMode = true) {field : Field} (declared : field ∈ data.effectiveSchema)
    (several : field.kind = .multiselect) {name : String}
    (named : rowAttribute? field.name = some name) {index : Nat} {record : Fields}
    (held : data.items[index]? = some record) {items : List Json}
    (listed : Fields.get? record field.name = some (.array items)) (theme : Theme)
    (space : Char → Bool) :
    ∃ list row,
      (root component theme).children.filter (hasId (resultsId component.id)) = [list] ∧
        list.children[index]? = some row ∧
        attr name (rowValue (.array items)) ∈ row.attributes ∧
        (RowApart data.effectiveSchema record →
          valuesOf ("data-" ++ Text.asciiLower field.name) row.attributes =
            [some (rowValue (.array items))]) ∧
        (readChoices space (rowValue (.array items)) = items.map Json.text ↔
          ∀ item ∈ items, Legible space item.text) ∧
        ((∀ wanted : List String,
            (FilterValue.multi wanted).admits (some (readValue space (rowValue (.array items)))) =
              (FilterValue.multi wanted).admits (Fields.get? record field.name)) ↔
          ∀ item ∈ items, Legible space item.text) ∧
        ((∀ raw,
            (FilterValue.ofInput field.kind raw).admits
                (some (readValue space (rowValue (.array items)))) =
              (FilterValue.ofInput field.kind raw).admits (Fields.get? record field.name)) ↔
          ∀ item ∈ items, item.text ≠ "" → Legible space item.text) := by
  have written := attr_mem_row theme declared named data.options.itemTemplate index listed
  have alone (apart : RowApart data.effectiveSchema record) :=
    valuesOf_of_distinct ((distinct_rowAttributes_iff data.effectiveSchema data.options.itemTemplate
      index record).mpr apart) written
  refine ⟨_, _, filter_hasId_root given shown, ?_, written, ?_, ?_, ?_, ?_⟩
  · rw [results, Markup.children, server]
    exact getElem?_rows held
  · rw [← asciiLower_of_rowAttribute? named]
    exact alone
  · exact readChoices_eq_iff.trans List.forall_mem_map
  · rw [listed]
    have all := admits_readValue_iff space (fun _ => True) (fun _ _ => trivial) items
    simpa only [forall_const] using all
  · rw [listed, several]
    have inputs := FilterValue.forall_input_iff fun filter =>
      filter.admits (some (readValue space (rowValue (.array items)))) =
        filter.admits (some (.array items))
    exact inputs.trans (admits_readValue_iff space (· ≠ "") (fun _ => id) items)

/-- The choices of a tool, one of which is missing. -/
def toolTags : List Json := [.string "hand tool", .null, .string "steel"]

/-- A dataset of one tool whose row the server renders. -/
def toolData : Dataset :=
  ⟨[[("Tags", .array toolTags)]], [.ofKind .multiselect "Tags"],
    { DatasetOptions.standard with serverRendered := true }⟩

def toolbox : Component where
  id := "toolbox"
  inputs := ⟨none, some toolData, none⟩
  options := .standard
  accepted := by decide +kernel

/-- The missing choice of the tool is not read back, and no input of the filter can tell. -/
theorem choices_survive_iff_toolbox :
    toolbox.data = some toolData ∧ toolbox.pattern.usesData = true ∧ toolbox.serverMode = true ∧
      rowAttribute? "Tags" = some "data-tags" ∧
      ∃ list row,
        (root toolbox .standard).children.filter (hasId "toolbox-results") = [list] ∧
          list.children[0]? = some row ∧
          valuesOf "data-tags" row.attributes = [some "hand tool,,steel"] ∧
          readChoices Text.isSpace "hand tool,,steel" ≠ ["hand tool", "", "steel"] ∧
          ∀ raw, (FilterValue.ofInput .multiselect raw).admits
              (some (readValue Text.isSpace "hand tool,,steel")) =
            (FilterValue.ofInput .multiselect raw).admits (some (.array toolTags)) := by
  have given : toolbox.data = some toolData := rfl
  have shown : toolbox.pattern.usesData = true := by decide +kernel
  have server : toolbox.serverMode = true := by decide +kernel
  have named : rowAttribute? "Tags" = some "data-tags" := by decide +kernel
  have apart : RowApart toolData.effectiveSchema [("Tags", .array toolTags)] := by decide +kernel
  have legible : ∀ text ∈ ["hand tool", "steel"], Legible Text.isSpace text := by
    intro text member
    rcases List.mem_cons.mp member with rfl | member
    · exact ⟨by decide, by decide, by decide⟩
    · obtain rfl := List.mem_singleton.mp member
      exact ⟨by decide, by decide, by decide⟩
  have tags : ∀ item ∈ toolTags, item.text ≠ "" → Legible Text.isSpace item.text := by
    intro item member nonempty
    refine legible item.text ?_
    simp only [toolTags, List.mem_cons, List.not_mem_nil, or_false] at member
    rcases member with rfl | rfl | rfl
    · exact List.mem_cons_self
    · exact absurd rfl nonempty
    · exact List.mem_cons_of_mem _ List.mem_cons_self
  have held : toolData.items[0]? = some [("Tags", .array toolTags)] := rfl
  obtain ⟨list, row, found, listed, -, alone, whole, -, inputs⟩ :=
    choices_survive_iff given shown server List.mem_cons_self rfl named held rfl .standard Text.isSpace
  refine ⟨given, shown, server, named, list, row, found, listed, alone apart, ?_, inputs.mpr tags⟩
  intro back
  have missing : Json.null ∈ toolTags := List.mem_cons_of_mem _ List.mem_cons_self
  exact (whole.mp back .null missing).nonempty rfl

/-- One choice with a comma in it is read as two, so that the filter for the first of them accepts the
row and not the record. -/
theorem comma_cuts_choice :
    ¬ ∀ (component : Component) (data : Dataset), component.data = some data →
      component.pattern.usesData = true → component.serverMode = true →
      ∀ field ∈ data.effectiveSchema, field.kind = .multiselect →
        (rowAttribute? field.name).isSome = true → ∀ record ∈ data.items, ∀ items,
          Fields.get? record field.name = some (.array items) →
            readChoices Text.isSpace (rowValue (.array items)) = items.map Json.text ∧
              ∀ wanted : List String,
                (FilterValue.multi wanted).admits
                    (some (readValue Text.isSpace (rowValue (.array items)))) =
                  (FilterValue.multi wanted).admits (some (.array items)) := by
  intro all
  have alike := (all ⟨"c", ⟨none, some ⟨[[("tags", .array [.string "a,b"])]],
    [.ofKind .multiselect "tags"], { DatasetOptions.standard with serverRendered := true }⟩, none⟩,
    .standard, by decide +kernel⟩ _ rfl (by decide +kernel) (by decide +kernel) _ List.mem_cons_self
    rfl (by decide +kernel) _ List.mem_cons_self _ rfl).2 ["a"]
  revert alike
  decide +kernel

end Structure

end LiveMarkup

import LiveMarkup.Proofs.Payload.Records
import LiveMarkup.Proofs.StringMap
import LiveMarkup.Theme

/-!
# Layers of theme settings

Theme settings are any value, and what counts of them are the texts of their sections, the font and the
switch of the stylesheet (`Theme.textSet?`, `fontSet?`, `stylesheetSet?`). A theme with settings laid over
it, and others over these, has for each key what the uppermost of them sets (`Theme.Resolves`). That
determines the theme, so two layers come to one that merges them (`Theme.withSettings_merged`), and a layer
laid twice to one.
-/

set_option autoImplicit false

namespace LiveMarkup

namespace Json

/-- The text of a string. -/
def string? : Json → Option String
  | .string s => some s
  | _ => none

/-- The truth value. -/
def bool? : Json → Option Bool
  | .bool b => some b
  | _ => none

end Json

namespace Fields

/-! ## Texts by name -/

/-- The text that fields have under a name; of several the last one. -/
def text? (fields : Fields) (name : String) : Option String :=
  fields.reverse.findSome? fun field => if field.1 = name then field.2.string? else none

theorem text?_append (fields more : Fields) (name : String) :
    text? (fields ++ more) name = (text? more name).or (text? fields name) := by
  rw [text?, List.reverse_append, List.findSome?_append]
  rfl

theorem text?_cons (field : String × Json) (rest : Fields) (name : String) :
    text? (field :: rest) name =
      (text? rest name).or (if field.1 = name then field.2.string? else none) := by
  rw [← List.singleton_append, text?_append]
  congr 1
  rw [text?, List.reverse_singleton, List.findSome?_singleton]

/-- Values of other types count for nothing. -/
theorem text?_filter (fields : Fields) (name : String) :
    text? (fields.filter fun field => field.2.string?.isSome) name = text? fields name := by
  induction fields with
  | nil => rfl
  | cons field rest ih =>
    rw [List.filter_cons]
    split
    · rw [text?_cons, text?_cons, ih]
    · rename_i other
      rw [text?_cons, ih, Option.not_isSome_iff_eq_none.mp other, ite_self, Option.or_none]

/-- Under different names there is one value each, and the text is that of the value. -/
theorem text?_of_nodup {fields : Fields} (apart : (fields.map Prod.fst).Nodup) (name : String) :
    text? fields name = (get? fields name).bind Json.string? := by
  induction fields with
  | nil => rfl
  | cons field rest ih =>
    obtain ⟨fresh, apart⟩ := List.nodup_cons.mp apart
    rw [text?_cons, ih apart]
    by_cases here : field.1 = name
    · have missing : get? rest name = none := by
        rw [get?, Option.map_eq_none_iff, List.find?_eq_none]
        intro other member same
        exact fresh (List.mem_map.mpr ⟨other, member, (beq_iff_eq.mp same).trans here.symm⟩)
      rw [missing, if_pos here, Option.bind_none, Option.none_or, get?,
        List.find?_cons_of_pos (by simpa using here)]
      rfl
    · rw [if_neg here, Option.or_none, get?, get?, List.find?_cons_of_neg (by simpa using here)]

/-- An object built of strings has the last text that was given under a name. -/
theorem text?_ofList {entries : Fields} (texts : ∀ field ∈ entries, field.2.string?.isSome = true)
    (name : String) : text? (ofList entries) name = text? entries name := by
  rw [text?_of_nodup (ofList_facts entries).1, ofList]
  -- A key that is put again keeps its place, so the induction is on what is put, over any start.
  suffices built : ∀ before : Fields,
      (get? (entries.foldl (fun fields entry => put fields entry.1 entry.2) before) name).bind
          Json.string? =
        (text? entries name).or ((get? before name).bind Json.string?) from
    (built []).trans (Option.or_none)
  induction entries with
  | nil => exact fun _ => rfl
  | cons entry rest ih =>
    rw [List.forall_mem_cons] at texts
    intro before
    rw [List.foldl_cons, ih texts.2, text?_cons, get?_put, Option.or_assoc]
    congr 1
    by_cases here : entry.1 = name
    · obtain ⟨text, given⟩ := Option.isSome_iff_exists.mp texts.1
      rw [if_pos here, if_pos here.symm, Option.bind_some, given, Option.some_or]
    · rw [if_neg here, if_neg (Ne.symm here), Option.none_or]

end Fields

namespace Theme

/-! ## What settings set -/

/-- The fields of a section of settings; none if there is no such object. -/
def entriesOf (settings : Option Json) (part : String) : Fields :=
  match settings.bind fun settings => settings.member? part with
  | some (.object entries) => entries
  | _ => []

/-- The text that settings have in a section under a name. -/
def textSet? (settings : Option Json) (part name : String) : Option String :=
  Fields.text? (entriesOf settings part) name

/-- The font that settings have. -/
def fontSet? (settings : Option Json) : Option String :=
  (settings.bind fun settings => settings.member? "fontFamily").bind Json.string?

/-- What settings say about the stylesheet. -/
def stylesheetSet? (settings : Option Json) : Option Bool :=
  (settings.bind fun settings => settings.member? "stylesheet").bind Json.bool?

theorem findSome?_pair {α β : Type} (read : α → Option β) (first second : α) :
    [first, second].findSome? read = (read first).or (read second) := by
  rw [← List.singleton_append, List.findSome?_append, List.findSome?_singleton,
    List.findSome?_singleton]

/-- The theme has for each key what the first of the settings that set it say, and what the base has where
none do. -/
structure Resolves (base : Theme) (layers : List (Option Json)) (theme : Theme) : Prop where
  classes : ∀ role, theme.classes.find? role =
    (layers.findSome? fun settings => textSet? settings "classes" role).or (base.classes.find? role)
  colors : ∀ name, theme.colors.find? name =
    (layers.findSome? fun settings => textSet? settings "colors" name).or (base.colors.find? name)
  fontFamily : theme.fontFamily = (layers.findSome? fontSet?).getD base.fontFamily
  stylesheet : theme.stylesheet = (layers.findSome? stylesheetSet?).getD base.stylesheet

variable {base theme other : Theme} {layers : List (Option Json)}

/-- The settings determine the theme. -/
theorem Resolves.unique (resolved : Resolves base layers theme) (again : Resolves base layers other) :
    theme = other := by
  obtain ⟨classes, colors, fontFamily, stylesheet⟩ := theme
  obtain ⟨classes', colors', fontFamily', stylesheet'⟩ := other
  have sameClasses : classes = classes' := StringMap.ext_find? fun role =>
    (resolved.classes role).trans (again.classes role).symm
  have sameColors : colors = colors' := StringMap.ext_find? fun name =>
    (resolved.colors name).trans (again.colors name).symm
  have sameFont : fontFamily = fontFamily' := resolved.fontFamily.trans again.fontFamily.symm
  have sameSwitch : stylesheet = stylesheet' := resolved.stylesheet.trans again.stylesheet.symm
  rw [sameClasses, sameColors, sameFont, sameSwitch]

/-- Themes are laid over one another: what the upper settings do not set is as the lower ones have it. -/
theorem Resolves.append {upper lower : List (Option Json)} (below : Resolves base lower theme)
    (above : Resolves theme upper other) : Resolves base (upper ++ lower) other where
  classes role := by
    rw [above.classes, below.classes, List.findSome?_append, Option.or_assoc]
  colors name := by
    rw [above.colors, below.colors, List.findSome?_append, Option.or_assoc]
  fontFamily := by
    rw [above.fontFamily, below.fontFamily, List.findSome?_append, Option.getD_or]
  stylesheet := by
    rw [above.stylesheet, below.stylesheet, List.findSome?_append, Option.getD_or]

/-! ## Laying settings over a theme -/

theorem textEntries_eq (settings : Fields) (part : String) :
    textEntries settings part = (entriesOf (some (.object settings)) part).filterMap fun field =>
      field.2.string?.map fun text => (field.1, text) := by
  rw [textEntries, entriesOf, Option.bind_some, Json.member?]
  cases Fields.get? settings part with
  | none => rfl
  | some value =>
    cases value with
    | object entries =>
      refine congrArg (fun write => List.filterMap write entries) (funext ?_)
      rintro ⟨name, value⟩
      cases value <;> rfl
    | null | bool | number | string | array => rfl

theorem find?_addTexts (map : StringMap String) (fields : Fields) (name : String) :
    (addTexts map (fields.filterMap fun field =>
        field.2.string?.map fun text => (field.1, text))).find? name =
      (Fields.text? fields name).or (map.find? name) := by
  induction fields generalizing map with
  | nil => rfl
  | cons field rest ih =>
    rw [Fields.text?_cons, Option.or_assoc]
    cases given : field.2.string? with
    | none =>
      rw [List.filterMap_cons_none (by rw [given]; rfl), ih, ite_self, Option.none_or]
    | some text =>
      rw [List.filterMap_cons_some (by rw [given]; rfl)]
      refine (ih (map.insert field.1 text)).trans (congrArg _ ?_)
      rw [StringMap.find?_insert]
      by_cases here : field.1 = name
      · rw [if_pos here, if_pos here.symm, Option.some_or]
      · rw [if_neg here, if_neg (Ne.symm here), Option.none_or]

/-- Settings that are no object set nothing. -/
theorem resolves_of_not_object {settings : Option Json}
    (plain : ∀ part, (settings.bind fun settings => settings.member? part) = none) (theme : Theme) :
    Resolves theme [settings] theme where
  classes role := by simp [textSet?, entriesOf, plain, Fields.text?]
  colors name := by simp [textSet?, entriesOf, plain, Fields.text?]
  fontFamily := by simp [fontSet?, plain]
  stylesheet := by simp [stylesheetSet?, plain]

theorem resolves_withSettings_object (theme : Theme) (fields : Fields) :
    Resolves theme [some (.object fields)] (theme.withSettings (some (.object fields))) where
  classes role := by
    rw [List.findSome?_singleton, textSet?, ← find?_addTexts, ← textEntries_eq]
    rfl
  colors name := by
    rw [List.findSome?_singleton, textSet?, ← find?_addTexts, ← textEntries_eq]
    rfl
  fontFamily := by
    rw [List.findSome?_singleton, fontSet?, Option.bind_some, Json.member?, withSettings]
    cases Fields.get? fields "fontFamily" with
    | none => rfl
    | some value => cases value <;> rfl
  stylesheet := by
    rw [List.findSome?_singleton, stylesheetSet?, Option.bind_some, Json.member?, withSettings]
    cases Fields.get? fields "stylesheet" with
    | none => rfl
    | some value => cases value <;> rfl

theorem resolves_withSettings (theme : Theme) (settings : Option Json) :
    Resolves theme [settings] (theme.withSettings settings) := by
  match settings with
  | some (.object fields) => exact resolves_withSettings_object theme fields
  | none | some .null | some (.bool _) | some (.number _) | some (.string _) | some (.array _) =>
    exact resolves_of_not_object (fun _ => rfl) theme

/-- Settings over settings over a theme. -/
theorem resolves_layers (theme : Theme) (lower upper : Option Json) :
    Resolves theme [upper, lower] ((theme.withSettings lower).withSettings upper) :=
  (resolves_withSettings theme lower).append (resolves_withSettings _ upper)

/-- Two layers come to one that sets what the upper one sets, else what the lower one does. -/
theorem withSettings_withSettings {lower upper both : Option Json}
    (texts : ∀ part ∈ ["classes", "colors"], ∀ name,
      textSet? both part name = (textSet? upper part name).or (textSet? lower part name))
    (font : fontSet? both = (fontSet? upper).or (fontSet? lower))
    (switch : stylesheetSet? both = (stylesheetSet? upper).or (stylesheetSet? lower)) (theme : Theme) :
    (theme.withSettings lower).withSettings upper = theme.withSettings both := by
  have resolved := resolves_withSettings theme both
  apply (resolves_layers theme lower upper).unique
  constructor
  case classes =>
    intro role
    rw [resolved.classes, List.findSome?_singleton, findSome?_pair, texts "classes" (by simp)]
  case colors =>
    intro name
    rw [resolved.colors, List.findSome?_singleton, findSome?_pair, texts "colors" (by simp)]
  case fontFamily => rw [resolved.fontFamily, List.findSome?_singleton, findSome?_pair, font]
  case stylesheet => rw [resolved.stylesheet, List.findSome?_singleton, findSome?_pair, switch]

/-- A layer that is laid twice counts once. -/
theorem withSettings_withSettings_self (theme : Theme) (settings : Option Json) :
    (theme.withSettings settings).withSettings settings = theme.withSettings settings :=
  withSettings_withSettings (fun _ _ _ => Option.or_self.symm) Option.or_self.symm Option.or_self.symm
    theme

/-! ## Merged settings -/

/-- The strings of a section in either settings, those of the upper ones in place of those of the lower
ones. -/
def mergedPart (lower upper : Option Json) (part : String) : Json :=
  .object (Fields.ofList
    ((entriesOf lower part ++ entriesOf upper part).filter fun field => field.2.string?.isSome))

/-- Everything of the right type in either settings, what the upper ones have in place of what the lower
ones have. -/
def merged (lower upper : Option Json) : Json :=
  .object ([("classes", mergedPart lower upper "classes"), ("colors", mergedPart lower upper "colors")]
    ++ Json.fieldIf "fontFamily" .string ((fontSet? upper).or (fontSet? lower))
    ++ Json.fieldIf "stylesheet" .bool ((stylesheetSet? upper).or (stylesheetSet? lower)))

theorem member?_merged (lower upper : Option Json) (key : String) :
    (merged lower upper).member? key =
      ((Fields.get? [("classes", mergedPart lower upper "classes"),
          ("colors", mergedPart lower upper "colors")] key).or
        (Fields.get? (Json.fieldIf "fontFamily" .string ((fontSet? upper).or (fontSet? lower))) key)).or
        (Fields.get? (Json.fieldIf "stylesheet" .bool
          ((stylesheetSet? upper).or (stylesheetSet? lower))) key) := by
  rw [← Fields.get?_append, ← Fields.get?_append]
  rfl

theorem textSet?_merged (lower upper : Option Json) {part : String}
    (among : part ∈ ["classes", "colors"]) (name : String) :
    textSet? (some (merged lower upper)) part name =
      (textSet? upper part name).or (textSet? lower part name) := by
  have there : (merged lower upper).member? part = some (mergedPart lower upper part) := by
    rcases List.mem_pair.mp among with rfl | rfl <;> rfl
  rw [textSet?, entriesOf, Option.bind_some, there]
  refine (Fields.text?_ofList (fun field member => (List.mem_filter.mp member).2) name).trans ?_
  rw [Fields.text?_filter, Fields.text?_append]
  rfl

theorem fontSet?_merged (lower upper : Option Json) :
    fontSet? (some (merged lower upper)) = (fontSet? upper).or (fontSet? lower) := by
  rw [fontSet?, Option.bind_some, member?_merged, Json.get?_fieldIf, Json.get?_fieldIf_of_ne (by decide),
    Option.or_none]
  cases (fontSet? upper).or (fontSet? lower) <;> rfl

theorem stylesheetSet?_merged (lower upper : Option Json) :
    stylesheetSet? (some (merged lower upper)) =
      (stylesheetSet? upper).or (stylesheetSet? lower) := by
  rw [stylesheetSet?, Option.bind_some, member?_merged, Json.get?_fieldIf,
    Json.get?_fieldIf_of_ne (by decide), Option.or_none]
  cases (stylesheetSet? upper).or (stylesheetSet? lower) <;> rfl

/-- Two layers of settings come to one that merges them. -/
theorem withSettings_merged (theme : Theme) (lower upper : Option Json) :
    (theme.withSettings lower).withSettings upper =
      theme.withSettings (some (merged lower upper)) :=
  withSettings_withSettings (fun _ among => textSet?_merged lower upper among)
    (fontSet?_merged lower upper) (stylesheetSet?_merged lower upper) theme

end Theme

end LiveMarkup

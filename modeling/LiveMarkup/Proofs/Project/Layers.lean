import LiveMarkup.Project.Compilation
import LiveMarkup.Proofs.Site.Agreement
import LiveMarkup.Proofs.StringMap
import LiveMarkup.Proofs.Theme.Layers

/-!
# Layers of a project

The configuration of a folder is laid over the options of a specification and under its theme settings.
Options that are laid twice count once (`OptionsLayer.applyTo_applyTo`): single values are replaced, names
are added behind those there are (`OptionsLayer.addNames_eq`), and attributes only where there are none of
that name. A theme is resolved key by key, the specification first (`ProjectConfig.load_eq_ok_iff`).
`ProjectConfig.layers_compose` puts these together with the laws of theme settings.
-/

set_option autoImplicit false

namespace LiveMarkup

/-! ## Options -/

namespace OptionsLayer

/-- The names that are added are the new ones, each where it comes first. -/
theorem addNames_eq (names more : List String) :
    addNames names more = names ++ (more.filter (· ∉ names)).eraseDups := by
  induction more generalizing names with
  | nil => exact (List.append_nil names).symm
  | cons name rest ih =>
    rw [addNames, List.foldl_cons, ← addNames, List.filter_cons]
    by_cases known : name ∈ names
    · rw [if_pos (List.contains_iff_mem.mpr known), ih, if_neg (by simpa using known)]
    · rw [if_neg (by simpa using known), ih, if_pos (by simpa using known), List.eraseDups_cons,
        List.filter_filter, List.append_assoc]
      -- Behind a new name the new ones are those that differ from it, too.
      refine congrArg (fun later => names ++ name :: later.eraseDups) (List.filter_congr ?_)
      intro other _
      by_cases same : other = name <;> simp [same]

theorem mem_addNames_iff {names more : List String} {name : String} :
    name ∈ addNames names more ↔ name ∈ names ∨ name ∈ more := by
  rw [addNames_eq, List.mem_append, List.mem_eraseDups, List.mem_filter]
  by_cases known : name ∈ names <;> simp [known]

theorem addNames_addNames (names more : List String) :
    addNames (addNames names more) more = addNames names more := by
  rw [addNames_eq (addNames names more), List.filter_eq_nil_iff.mpr, List.eraseDups_nil, List.append_nil]
  intro name member
  simp [mem_addNames_iff, member]

theorem find?_customAttributes (layer : OptionsLayer) (options : Options) (name : String) :
    (layer.applyTo options).customAttributes.find? name =
      (options.customAttributes.find? name).or (layer.customAttributes.find? name) :=
  StringMap.find?_foldl_insertNew layer.customAttributes.entries options.customAttributes name

theorem applyTo_applyTo (layer : OptionsLayer) (options : Options) :
    layer.applyTo (layer.applyTo options) = layer.applyTo options := by
  have attributes : (layer.applyTo (layer.applyTo options)).customAttributes =
      (layer.applyTo options).customAttributes := by
    refine StringMap.ext_find? fun name => ?_
    rw [find?_customAttributes, find?_customAttributes, Option.or_assoc, Option.or_self]
  simp only [applyTo, ← Option.getD_or, Option.or_self, addNames_addNames, Options.mk.injEq, true_and]
  exact attributes

end OptionsLayer

/-! ## Specifications in a project -/

namespace ProjectConfig

/-- A specification is loaded when its text is one and its component passes the check with the options of
the project; the theme has what its settings say, else what those of the project say, else what the
standard theme has. -/
theorem load_eq_ok_iff {config : ProjectConfig} {forceMinify : Bool} {text : String} {themed : Themed} :
    config.load forceMinify text = .ok themed ↔
      ∃ spec, Spec.ofText? text = some spec ∧
        ({ spec with options := config.optionsFor forceMinify spec.options } : Spec).component =
          .ok themed.component ∧
        Theme.Resolves .standard [spec.theme, config.theme] themed.theme := by
  rw [load]
  cases read : Spec.ofText? text with
  | none => simp
  | some spec =>
    have resolved : Theme.Resolves .standard [spec.theme, config.theme] (config.themeFor spec.theme) :=
      Theme.resolves_layers .standard config.theme spec.theme
    refine bind_eq_ok_iff.trans ?_
    simp only [Activity.orFail_eq_ok_iff]
    constructor
    · rintro ⟨component, checked, made⟩
      cases made
      exact ⟨spec, rfl, checked, resolved⟩
    · rintro ⟨_, same, checked, resolves⟩
      cases same
      refine ⟨themed.component, checked, ?_⟩
      rw [resolved.unique resolves]
      rfl

/-- A class that the specification does not give as a text is the one of the project. -/
example :
    let project : Json := .object [("classes", .object [("tab", .string "pill"), ("nav", .ofNat 3)])]
    let settings : Json := .object [("classes", .object [("tab", .bool false), ("row", .string "line")])]
    let theme := ProjectConfig.themeFor ⟨.empty, some project⟩ (some settings)
    (theme.classOf "tab", theme.classOf "nav", theme.classOf "row") = ("pill", "strata-nav", "line") := by
  decide +kernel

/-! ## Main result -/

/-- Theme settings laid over others come to the two merged, and laid twice to one; options that are laid
twice count once, keep the attributes there are and add the new names behind the old ones; and a
specification is loaded with a theme that has, for each key, what its own settings say, else those of the
project, else the standard theme. -/
theorem layers_compose (theme : Theme) (lower upper : Option Json) (layer : OptionsLayer)
    (options : Options) (config : ProjectConfig) (forceMinify : Bool) (text : String) (themed : Themed) :
    ((theme.withSettings lower).withSettings upper =
          theme.withSettings (some (Theme.merged lower upper)) ∧
        (theme.withSettings lower).withSettings lower = theme.withSettings lower) ∧
      (layer.applyTo (layer.applyTo options) = layer.applyTo options ∧
        (∀ name, (layer.applyTo options).customAttributes.find? name =
          (options.customAttributes.find? name).or (layer.customAttributes.find? name)) ∧
        (layer.applyTo options).externalRegistry = options.externalRegistry ++
          ((layer.externalRegistry.getD []).filter (· ∉ options.externalRegistry)).eraseDups) ∧
      (config.load forceMinify text = .ok themed ↔
        ∃ spec, Spec.ofText? text = some spec ∧
          ({ spec with options := config.optionsFor forceMinify spec.options } : Spec).component =
            .ok themed.component ∧
          Theme.Resolves .standard [spec.theme, config.theme] themed.theme) := by
  refine ⟨⟨?_, ?_⟩, ⟨?_, ?_, ?_⟩, ?_⟩
  · exact theme.withSettings_merged lower upper
  · exact theme.withSettings_withSettings_self lower
  · exact layer.applyTo_applyTo options
  · exact layer.find?_customAttributes options
  · exact OptionsLayer.addNames_eq options.externalRegistry (layer.externalRegistry.getD [])
  · exact load_eq_ok_iff

end ProjectConfig

end LiveMarkup

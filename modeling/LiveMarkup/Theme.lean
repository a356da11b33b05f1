import LiveMarkup.Json.Decode
import LiveMarkup.Text.Search
import LiveMarkup.Text.Space

/-!
# Themes

Class names by role, a palette, a font and whether pages carry the base stylesheet. A component's
theme settings are laid over a theme. In the stylesheet, values that could end a declaration, a rule
or the stylesheet itself are replaced by the built-in ones.
-/

set_option autoImplicit false

namespace LiveMarkup

/-- Class names, colors and font of generated markup. -/
structure Theme where
  classes : StringMap String
  colors : StringMap String
  fontFamily : String
  /-- Whether pages carry the base stylesheet. -/
  stylesheet : Bool
deriving DecidableEq

namespace Theme

/-- The built-in class names. -/
def standardClasses : StringMap String := .ofList [
  ("component", "strata"),
  ("nav", "strata-nav"),
  ("tab", "strata-tab"),
  ("panel", "strata-panel"),
  ("active", "is-active"),
  ("hidden", "is-hidden"),
  ("disabled", "is-disabled"),
  ("filters", "strata-filters"),
  ("filter", "strata-filter"),
  ("input", "strata-input"),
  ("summary", "strata-summary"),
  ("results", "strata-results"),
  ("row", "strata-row"),
  ("pagination", "strata-pagination"),
  ("placeholder", "strata-placeholder")]

/-- The built-in colors. -/
def standardColors : StringMap String := .ofList [
  ("brand", "#2563eb"),
  ("muted", "#64748b"),
  ("surface", "#ffffff"),
  ("surface-alt", "#e2e8f0"),
  ("text", "#0f172a")]

/-- The built-in font. -/
def standardFont : String := "Inter, system-ui, sans-serif"

/-- The built-in theme. -/
def standard : Theme := ⟨standardClasses, standardColors, standardFont, true⟩

/-- The texts of an object's field that is an object itself. -/
def textEntries (settings : Fields) (key : String) : List (String × String) :=
  match Fields.get? settings key with
  | some (.object entries) => entries.filterMap fun
    | (name, .string value) => some (name, value)
    | _ => none
  | _ => []

/-- The map with more bindings. -/
def addTexts (map : StringMap String) (entries : List (String × String)) : StringMap String :=
  entries.foldl (fun map entry => map.insert entry.1 entry.2) map

/-- Lays theme settings over a theme: settings of another type than expected and unknown ones are
skipped, and what is not set stays. -/
def withSettings (theme : Theme) (settings : Option Json) : Theme :=
  match settings with
  | some (.object fields) =>
    { classes := addTexts theme.classes (textEntries fields "classes")
      colors := addTexts theme.colors (textEntries fields "colors")
      fontFamily := match Fields.get? fields "fontFamily" with
        | some (.string font) => font
        | _ => theme.fontFamily
      stylesheet := match Fields.get? fields "stylesheet" with
        | some (.bool enabled) => enabled
        | _ => theme.stylesheet }
  | _ => theme

/-- The classes of a role, empty when it has none. -/
def classOf (theme : Theme) (role : String) : String := (theme.classes.find? role).getD ""

/-- Whether a character is a control character. -/
def isControl (c : Char) : Bool := c.toNat < 0x20 || (0x7F ≤ c.toNat && c.toNat ≤ 0x9F)

/-- Whether a value can stand in a declaration without ending it. -/
def isSafeValue (value : String) : Bool :=
  !Text.isBlank value && !Text.contains value "/*"
    && value.toList.all fun c =>
      !(['<', '>', ';', '\x7b', '\x7d', '\\'].contains c || isControl c)

/-- Whether a class name can stand in a selector as it is. -/
def isSelectorName (name : String) : Bool :=
  name.toList.head?.any (fun c => c.isAlpha || c == '_' || c == '-')
    && name.toList.all fun c => c.isAlphanum || c == '_' || c == '-'

/-- A color of the theme, or the fallback when it has none that is safe. -/
def color (theme : Theme) (name fallback : String) : String :=
  match theme.colors.find? name with
  | some value => if isSafeValue value then value else fallback
  | none => fallback

/-- The font of the theme, or the built-in one when it is not safe. -/
def font (theme : Theme) : String :=
  if isSafeValue theme.fontFamily then theme.fontFamily else standardFont

/-- The first class of a role that can stand in a selector, or the built-in one. -/
def selectorClass (theme : Theme) (role : String) : String :=
  let first := ((theme.classOf role).toList.dropWhile Text.isSpace).takeWhile
    fun c => !Text.isSpace c
  if isSelectorName (String.ofList first) then String.ofList first
  else (standardClasses.find? role).getD ""

/-- One rule of a stylesheet. -/
def rule (selector : String) (declarations : List String) : String :=
  "\n" ++ selector ++ " \x7b\n"
    ++ String.join (declarations.map fun declaration => "  " ++ declaration ++ ";\n") ++ "\x7d\n"

/-- The base stylesheet. -/
def css (theme : Theme) : String :=
  let brand := theme.color "brand" "#2563eb"
  let muted := theme.color "muted" "#64748b"
  let surface := theme.color "surface" "#ffffff"
  let surfaceAlt := theme.color "surface-alt" "#e2e8f0"
  let text := theme.color "text" "#0f172a"
  let c (role : String) : String := "." ++ theme.selectorClass role
  String.join [
    rule (c "component")
      ["font-family: " ++ theme.font, "color: " ++ text, "background: " ++ surface],
    rule (c "component" ++ " " ++ c "hidden") ["display: none !important"],
    rule (c "nav") ["display: flex", "gap: 4px", "border-bottom: 1px solid " ++ surfaceAlt],
    rule (c "tab")
      ["font: inherit", "border: 0", "background: transparent", "padding: 8px 14px",
        "cursor: pointer", "color: " ++ muted],
    rule (c "tab" ++ c "active")
      ["color: " ++ brand, "box-shadow: inset 0 -2px 0 " ++ brand],
    rule (c "tab" ++ "[disabled]") ["opacity: 0.5", "cursor: not-allowed"],
    rule (c "filters")
      ["display: flex", "flex-wrap: wrap", "gap: 12px", "margin: 12px 0"],
    rule (c "input")
      ["font: inherit", "border: 1px solid " ++ surfaceAlt, "border-radius: 8px",
        "padding: 6px 10px"],
    rule (c "summary") ["color: " ++ muted, "font-size: 14px"]]

end Theme

/-- A theme. -/
def Decoder.theme : Decoder Theme := fun depth raw => do
  let members ← Members.ofRaw? ["classes", "colors", "fontFamily", "stylesheet"] [] depth raw
  return {
    classes := ← members.withDefault "classes" (stringMap string) Theme.standardClasses
    colors := ← members.withDefault "colors" (stringMap string) Theme.standardColors
    fontFamily := ← members.withDefault "fontFamily" string Theme.standardFont
    stylesheet := ← members.withDefault "stylesheet" bool true }

end LiveMarkup

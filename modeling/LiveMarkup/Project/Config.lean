import LiveMarkup.Component.Reader

/-!
# Project configuration

One file for all specifications of a folder: partial options and theme settings that are laid over
those of each component. Its text is one object. Other keys than the known ones may be there, but
whatever is written must be a representable value.
-/

set_option autoImplicit false

namespace LiveMarkup

/-- Partial options and theme settings for a folder of specifications. -/
structure ProjectConfig where
  options : OptionsLayer
  theme : Option Json

namespace ProjectConfig

/-- The name of the file that holds a configuration. -/
def fileName : String := "strata.config.json"

/-- The configuration that changes nothing. -/
def empty : ProjectConfig := ⟨.empty, none⟩

/-- A choice may also be written as an object that has its name as only key and holds the empty
object. -/
def plainChoice (field : String × RawJson) : String × RawJson :=
  match field with
  | ("fallbackPattern", .object [(name, .object [])]) => (field.1, .object [(name, .null)])
  | _ => field

/-- The configuration in a JSON text. -/
def ofText? (text : String) : Option ProjectConfig := do
  let raw ← RawJson.ofText? text
  let _ ← RawJson.value? RawJson.nestingLimit raw
  let .object fields := raw | none
  let members ← Members.ofFields? ("theme" :: Decoder.optionsLayerNames) Decoder.minifyAlias
    (RawJson.nestingLimit - 1) fields
  let members := { members with present := members.present.map plainChoice }
  return ⟨← Decoder.optionsLayerOf members, ← members.optional "theme" Decoder.json⟩

end ProjectConfig

end LiveMarkup

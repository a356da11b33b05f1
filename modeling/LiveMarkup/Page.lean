import LiveMarkup.Browser.Runtime
import LiveMarkup.Payload
import LiveMarkup.Script.Glue

/-!
# Pages

The output of a component is its markup, its payload block and its script. An embed carries its own
runtime. A page holds the outputs of several components and the runtime once; components that would be
published under one name cannot share a page.
-/

set_option autoImplicit false

namespace LiveMarkup

/-- Everything that is generated for one component. -/
structure ComponentOutput where
  id : String
  detected : Detected
  markup : String
  config : String
  script : String
  minified : Bool
deriving DecidableEq

/-- The output of a component. -/
def Component.output (component : Component) (theme : Theme) : ComponentOutput where
  id := component.id
  detected := component.detected
  markup := (Structure.root component theme).render
  config := (Payload.block component theme).render
  script := Script.Glue.script component
  minified := component.options.minify

namespace ComponentOutput

/-- Markup, payload and script, for a page that has the runtime. -/
def fragment (output : ComponentOutput) : String :=
  output.markup ++ output.config ++ "<script>" ++ output.script ++ "</script>"

/-- The output with a runtime of its own. -/
def embed (output : ComponentOutput) : String :=
  "<script>" ++ Browser.runtime output.minified ++ "</script>" ++ output.fragment

end ComponentOutput

/-- Two components that would be published under one name. -/
structure Collision where
  first : String
  second : String
  name : String
deriving DecidableEq

/-- What is said about the collision. -/
def Collision.message (collision : Collision) : String :=
  "components '" ++ collision.first ++ "' and '" ++ collision.second ++ "' both map to '"
    ++ collision.name ++ "'"

namespace Page

/-- The first component that is published under the name of an earlier one. Earlier components are
listed by name. -/
def collisionAfter (seen : List (String × String)) : List ComponentOutput → Option Collision
  | [] => none
  | output :: rest =>
    let name := (Script.Identifier.globalName output.id).name
    match seen.lookup name with
    | some first => some ⟨first, output.id, name⟩
    | none => collisionAfter ((name, output.id) :: seen) rest

/-- The first collision among components. -/
def collision? (outputs : List ComponentOutput) : Option Collision := collisionAfter [] outputs

/-- The text of a page. The runtime is minified when every component is. -/
def text (title : String) (theme : Theme) (outputs : List ComponentOutput) : String :=
  let minify := !outputs.isEmpty && outputs.all ComponentOutput.minified
  let style := if theme.stylesheet then "<style>" ++ theme.css ++ "</style>" else ""
  "<!DOCTYPE html>\n<html lang=\"en\">\n<head>\n<meta charset=\"utf-8\">\n"
    ++ "<meta name=\"viewport\" content=\"width=device-width, initial-scale=1\">\n"
    ++ "<title>" ++ Markup.escape title ++ "</title>\n"
    ++ style ++ "<script>" ++ Browser.runtime minify ++ "</script>\n"
    ++ "</head>\n<body>\n"
    ++ String.join (outputs.map ComponentOutput.fragment)
    ++ "\n</body>\n</html>\n"

/-- The page of several components, unless two of them collide. -/
def render (title : String) (theme : Theme) (outputs : List ComponentOutput) :
    Except Collision String :=
  match collision? outputs with
  | some collision => .error collision
  | none => .ok (text title theme outputs)

end Page

end LiveMarkup

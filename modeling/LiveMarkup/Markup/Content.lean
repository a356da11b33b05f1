import LiveMarkup.Component.Content
import LiveMarkup.Markup.Tree

/-!
# Markup of panel content

Elements become tags. A name that cannot be a tag becomes `div`, and attributes with names that
cannot be one are left out.
-/

set_option autoImplicit false

namespace LiveMarkup

/-- Whether a name can be a tag: ASCII letters, digits and hyphens behind a letter. -/
def isTagName (name : String) : Bool :=
  name.toList.head?.any Char.isAlpha && name.toList.all fun c => c.isAlphanum || c == '-'

/-- The characters of attribute names. -/
def isAttributeChar (c : Char) : Bool := c.isAlphanum || c == '-' || c == '_' || c == ':'

/-- Whether a name can be an attribute. -/
def isAttributeName (name : String) : Bool :=
  !name.isEmpty && name.toList.all isAttributeChar

mutual

/-- The markup of panel content. -/
def Content.tree : Content → Markup
  | .text s => .text s
  | .markup s => .trusted s
  | .element tag attributes children =>
    .tag (if isTagName tag then tag else "div")
      ((attributes.entries.filter fun entry => isAttributeName entry.1).map fun entry =>
        Markup.attr entry.1 entry.2)
      (Content.trees children)

/-- The markup of a list of contents. -/
def Content.trees : List Content → List Markup
  | [] => []
  | content :: rest => content.tree :: Content.trees rest

end

end LiveMarkup

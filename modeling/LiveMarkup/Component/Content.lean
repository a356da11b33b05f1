import LiveMarkup.StringMap

/-!
# Panel content

What a state's panel holds: literal text, trusted markup, or a small tree of elements.
-/

set_option autoImplicit false

namespace LiveMarkup

/-- The body of a panel. Text is escaped on output and markup is not. -/
inductive Content where
  | text (s : String)
  | markup (s : String)
  | element (tag : String) (attributes : StringMap String) (children : List Content)

instance : Inhabited Content := ⟨.text ""⟩

/-- Whether nothing would be written for the content. -/
def Content.isEmpty : Content → Bool
  | .text s => s.isEmpty
  | .markup s => s.isEmpty
  | .element _ _ _ => false

end LiveMarkup

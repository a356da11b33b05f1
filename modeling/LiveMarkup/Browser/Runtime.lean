import LiveMarkup.Browser.Controller
import LiveMarkup.Browser.Data
import LiveMarkup.Browser.Rules
import LiveMarkup.Browser.States
import LiveMarkup.Script.Minify

/-!
# The browser runtime

The script that every page needs once before the scripts of its components.
-/

set_option autoImplicit false

namespace LiveMarkup.Browser

/-- The readable runtime: its parts, one blank line apart. -/
def readable : String :=
  "\n".intercalate (controllerLines ++ statesLines ++ dataLines ++ rulesLines)

/-- The minified runtime. -/
def minified : String := Script.minifyOrKeep readable

/-- The runtime, minified on request. -/
def runtime (minify : Bool) : String := if minify then minified else readable

end LiveMarkup.Browser

import LiveMarkup.Component.Pattern
import LiveMarkup.StringMap

/-!
# Component options

Options of one component, and partial options that are laid over them.
-/

set_option autoImplicit false

namespace LiveMarkup

/-- A script that is loaded before the component starts, or alongside it when not required. -/
structure ExternalScript where
  src : String
  required : Bool
  asynchronous : Bool
  deferred : Bool
  /-- Code that runs once the script is loaded. -/
  onLoad : Option String
deriving DecidableEq

/-- A script without code of its own. -/
def ExternalScript.ofSource (src : String) (required : Bool) : ExternalScript :=
  ⟨src, required, false, false, none⟩

/-- Code that runs at points of a component's life. -/
structure HookCode where
  beforeInit : Option String
  afterInit : Option String
  beforeStateChange : Option String
  afterStateChange : Option String
  /-- Code that runs when the state with the given id becomes active. -/
  stateHooks : StringMap String
  afterFilter : Option String
  onDestroy : Option String
deriving DecidableEq

namespace HookCode

/-- No code at all. -/
def empty : HookCode := ⟨none, none, none, none, .empty, none, none⟩

/-- Whether there is no code. -/
def isEmpty (hooks : HookCode) : Bool :=
  hooks.beforeInit.isNone && hooks.afterInit.isNone && hooks.beforeStateChange.isNone
    && hooks.afterStateChange.isNone && hooks.stateHooks.isEmpty && hooks.afterFilter.isNone
    && hooks.onDestroy.isNone

end HookCode

/-- The options of a component. -/
structure Options where
  thresholds : Thresholds
  /-- The pattern taken when `forcePattern` names none. -/
  fallbackPattern : Pattern
  forcePattern : Option String
  minify : Bool
  externalScripts : List ExternalScript
  /-- The names under which external objects may be registered. -/
  externalRegistry : List String
  hooks : HookCode
  /-- Attributes of the root element. -/
  customAttributes : StringMap String
deriving DecidableEq

/-- The options of a component that gives none. -/
def Options.standard : Options where
  thresholds := .standard
  fallbackPattern := .empty
  forcePattern := none
  minify := false
  externalScripts := []
  externalRegistry := []
  hooks := .empty
  customAttributes := .empty

/-- Partial options. -/
structure OptionsLayer where
  minify : Option Bool
  thresholds : Option Thresholds
  fallbackPattern : Option Pattern
  externalRegistry : Option (List String)
  customAttributes : StringMap String
deriving DecidableEq

namespace OptionsLayer

/-- The layer that changes nothing. -/
def empty : OptionsLayer := ⟨none, none, none, none, .empty⟩

/-- Appends the names that are not listed yet. -/
def addNames (names : List String) (more : List String) : List String :=
  more.foldl (fun names name => if names.contains name then names else names ++ [name]) names

/-- Lays partial options over options: single values are replaced, names are added to the registry,
and attributes are added where the options have none of that name. -/
def applyTo (layer : OptionsLayer) (options : Options) : Options :=
  { options with
    minify := layer.minify.getD options.minify
    thresholds := layer.thresholds.getD options.thresholds
    fallbackPattern := layer.fallbackPattern.getD options.fallbackPattern
    externalRegistry := addNames options.externalRegistry (layer.externalRegistry.getD [])
    customAttributes := layer.customAttributes.entries.foldl
      (fun map entry => map.insertNew entry.1 entry.2) options.customAttributes }

end OptionsLayer

end LiveMarkup

import LiveMarkup.Component.Options
import LiveMarkup.Json.Value

/-!
# What surrounds a controller

Hooks are called at points of a controller's life and may cancel two of them. A loader fetches
external scripts. Both are functions of what they were asked before, so a run is determined by its
inputs. The registry keeps objects under reserved names until it is cleared.
-/

set_option autoImplicit false

namespace LiveMarkup

/-- Where a hook is called. -/
inductive HookPoint where
  | beforeInit
  | afterInit
  | beforeStateChange
  | afterStateChange
  /-- On entering the state with this id. -/
  | state (id : String)
  | afterFilter
  | destroy
deriving DecidableEq

/-- What a hook answers. -/
inductive HookOutcome where
  | proceed
  | cancel
  | fail (reason : String)
deriving DecidableEq

/-- A call of a hook with its context. -/
structure HookCall where
  point : HookPoint
  context : Json

/-- Hooks: where there is one, and what it answers to a call, given the calls before it. -/
structure Hooks where
  bound : HookPoint → Bool
  respond : List HookCall → HookCall → HookOutcome

/-- No hooks. -/
def Hooks.none : Hooks := ⟨fun _ => false, fun _ _ => .proceed⟩

/-- Whether a cancel at this point is honoured. -/
def HookPoint.canCancel : HookPoint → Bool
  | .beforeInit => true
  | .beforeStateChange => true
  | _ => false

/-- Why an external script did not load. -/
inductive LoadError where
  | notFound (src : String)
  | timedOut (src : String)
  | onLoad (src reason : String)
deriving DecidableEq

/-- What is said about the error. -/
def LoadError.message : LoadError → String
  | .notFound src => "external script " ++ src ++ " not found"
  | .timedOut src => "external script " ++ src ++ " timed out"
  | .onLoad src reason => "onLoad for " ++ src ++ " failed: " ++ reason

/-- Loads a script, given the scripts asked for before it; nothing means success. -/
abbrev Loader := List ExternalScript → ExternalScript → Option LoadError

/-- The loader that finds every script already loaded. -/
def Loader.preloaded : Loader := fun _ _ => none

/-- An object handed to a controller. The handle tells objects apart. -/
structure ExternalObject where
  handle : Nat
  destroyable : Bool
deriving DecidableEq

/-- Why an object cannot be registered. -/
inductive RegistryError where
  | notReserved
  | cleared
deriving DecidableEq

/-- What is said about the error. -/
def RegistryError.message : RegistryError → String
  | .notReserved => "name is not reserved in the external registry"
  | .cleared => "external registry was cleared by destroy()"

/-- Objects under reserved names. -/
structure Registry where
  slots : StringMap (Option ExternalObject)
  cleared : Bool
deriving DecidableEq

namespace Registry

/-- The registry of these names, all of them free. -/
def reserve (names : List String) : Registry :=
  ⟨.ofList (names.map fun name => (name, none)), false⟩

/-- Puts an object under a name, in place of an earlier one. -/
def register (registry : Registry) (name : String) (object : ExternalObject) :
    Except RegistryError Registry :=
  if registry.cleared then .error .cleared
  else if registry.slots.contains name then
    .ok { registry with slots := registry.slots.insert name (some object) }
  else .error .notReserved

/-- Whether the name is reserved. -/
def isReserved (registry : Registry) (name : String) : Bool := registry.slots.contains name

/-- Whether an object stands under the name. -/
def isRegistered (registry : Registry) (name : String) : Bool :=
  (registry.slots.find? name).any Option.isSome

/-- The objects that can be torn down, with their names in ascending order. -/
def destroyable (registry : Registry) : List (String × ExternalObject) :=
  registry.slots.entries.filterMap fun (name, slot) =>
    (slot.filter ExternalObject.destroyable).map fun object => (name, object)

/-- The registry that takes nothing any more. -/
def closed : Registry := ⟨.empty, true⟩

end Registry

end LiveMarkup

import LiveMarkup.Component.Basic
import LiveMarkup.Files.Store
import LiveMarkup.Script.Token

/-!
# Failures

A failure is a cause together with what was being done when it arose, outermost first.
-/

set_option autoImplicit false

namespace LiveMarkup

/-- What was being done. -/
inductive Activity where
  | reading (path : String)
  | writing (path : String)
  | listing (path : String)
  | resolving (path : String)
  | decoding (path : String)
  | minifying (path : String)
  | compiling (path : String)
  | loading (path : String)
  | configuring (path : String)
  | readingSpec
  | checkingComponent
deriving DecidableEq

/-- How an activity that failed is reported. -/
def Activity.message : Activity → String
  | .reading path => "failed to read " ++ path
  | .writing path => "failed to write " ++ path
  | .listing path => "failed to list " ++ path
  | .resolving path => "failed to resolve " ++ path
  | .decoding path => path ++ " is not UTF-8"
  | .minifying path => "failed to minify " ++ path
  | .compiling path => "failed to compile " ++ path
  | .loading path => "failed to load " ++ path
  | .configuring path => "invalid " ++ path
  | .readingSpec => "invalid component spec"
  | .checkingComponent => "invalid component"

/-- What went wrong in the end. -/
inductive Cause where
  | file (error : FileError)
  | encoding (fault : Utf8.Fault)
  /-- A text is not JSON, or not of the shape that is asked for. -/
  | json
  | component (error : ComponentError)
  | script (error : Script.ScriptError)
  /-- A file stands where a folder is asked for. -/
  | notAFolder (name : String)
deriving DecidableEq

/-- What is said about the cause. -/
def Cause.message : Cause → String
  | .file error => error.message
  | .encoding fault => fault.message
  | .json => "not the JSON that is expected"
  | .component error => error.message
  | .script error => error.message
  | .notAFolder name => name ++ " is not a directory"

/-- A cause and the activities in which it arose, outermost first. -/
structure Failure where
  during : List Activity
  cause : Cause
deriving DecidableEq

namespace Failure

/-- The failure seen from an activity around it. -/
def within (activity : Activity) (failure : Failure) : Failure :=
  { failure with during := activity :: failure.during }

/-- The whole story in one line. -/
def message (failure : Failure) : String :=
  ": ".intercalate (failure.during.map Activity.message ++ [failure.cause.message])

end Failure

/-- The value, or a failure of one activity. -/
def Activity.orFail {ε α : Type} (activity : Activity) (cause : ε → Cause) :
    Except ε α → Except Failure α :=
  Except.mapError fun error => ⟨[activity], cause error⟩

/-- The value, or the failure seen from an activity around it. -/
def Activity.around {α : Type} (activity : Activity) : Except Failure α → Except Failure α :=
  Except.mapError (Failure.within activity)

end LiveMarkup

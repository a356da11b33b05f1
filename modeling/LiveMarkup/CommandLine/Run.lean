import LiveMarkup.CommandLine.Arguments
import LiveMarkup.Component.Writer
import LiveMarkup.Json.Printer
import LiveMarkup.Project.Compilation
import LiveMarkup.Script.Minify

/-!
# Running commands

A command reads files and gives a text, which is printed or written to a file. Serving a folder only
settles which folder it is; the rest is up to who listens.
-/

set_option autoImplicit false

namespace LiveMarkup.CommandLine

/-- What a command that succeeds comes to. -/
inductive Outcome where
  | printed (text : String)
  | written (path : String)
  | serving (folder : String) (endpoint : Nat)
deriving DecidableEq

/-- The report on a component's pattern. -/
def report (component : Component) : String :=
  (Json.object [("id", .string component.id), ("detected", component.detected.toJson)]).pretty
    ++ "\n"

variable {m : Type → Type} [Monad m] [FileStore m]

/-- Prints a text, or writes it to a file. -/
def deliver (out : Option String) : Except Failure String → m (Except Failure Outcome)
  | .error failure => return .error failure
  | .ok text => match out with
    | none => return .ok (.printed text)
    | some path => do
      let result ← FileStore.write path text.toUTF8
      return ((Activity.writing path).orFail .file result).map fun _ => .written path

/-- The minified text of a script file. -/
def minifyFile (file : String) : m (Except Failure String) := do
  return ((Activity.reading file).orFail .file (← FileStore.readText file)).bind fun source =>
    (Activity.minifying file).orFail .script (Script.minify source)

/-- The folder that is served. -/
def settle (folder : String) (endpoint : Nat) : m (Except Failure Outcome) := do
  let found := (Activity.resolving folder).orFail .file (← FileStore.resolve folder)
  return found.bind fun
    | .folder name => .ok (.serving name endpoint)
    | .file name => .error ⟨[], .notAFolder name⟩

/-- Does what is asked. -/
def Command.run : Command → m (Except Failure Outcome)
  | .compile spec minified page out => do
    deliver out (← ProjectConfig.compileFile ⟨minified, page⟩ spec)
  | .detect spec => do
    deliver none ((← ProjectConfig.loadFile spec).map fun themed => report themed.component)
  | .minify file out => do deliver out (← minifyFile file)
  | .runtime minified out => deliver out (.ok (Browser.runtime minified))
  | .serve folder endpoint => settle folder endpoint

end LiveMarkup.CommandLine

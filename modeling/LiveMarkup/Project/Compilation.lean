import LiveMarkup.Files.Path
import LiveMarkup.Page
import LiveMarkup.Project.Config
import LiveMarkup.Project.Failure

/-!
# Compilation

The text of a specification and the configuration of its folder give a component and its theme, and
these give an embed or a page. Options of the configuration go over those of the specification; its
theme settings go under them.
-/

set_option autoImplicit false

namespace LiveMarkup

/-- A component with the theme that it is shown in. -/
structure Themed where
  component : Component
  theme : Theme

namespace ProjectConfig

/-- The options of a specification in this project. -/
def optionsFor (config : ProjectConfig) (forceMinify : Bool) (options : Options) : Options :=
  let options := config.options.applyTo options
  { options with minify := forceMinify || options.minify }

/-- The theme of a specification in this project. -/
def themeFor (config : ProjectConfig) (settings : Option Json) : Theme :=
  (Theme.standard.withSettings config.theme).withSettings settings

/-- The component that a specification's text describes in this project, and its theme. -/
def load (config : ProjectConfig) (forceMinify : Bool) (text : String) : Except Failure Themed :=
  match Spec.ofText? text with
  | none => .error ⟨[.readingSpec], .json⟩
  | some spec => do
    let spec := { spec with options := config.optionsFor forceMinify spec.options }
    let component ← Activity.checkingComponent.orFail .component spec.component
    return ⟨component, config.themeFor spec.theme⟩

end ProjectConfig

/-- What is asked of a compilation. -/
structure CompileOptions where
  /-- Minify whatever the specification says. -/
  minify : Bool
  /-- Give a page and not an embed. -/
  page : Bool
deriving DecidableEq

namespace ProjectConfig

/-- The embed or page of one component; the page is named for it. -/
def publish (page : Bool) (themed : Themed) : String :=
  let output := themed.component.output themed.theme
  if page then Page.text themed.component.id themed.theme [output] else output.embed

/-- The embed or page for a specification's text. -/
def compile (config : ProjectConfig) (options : CompileOptions) (text : String) :
    Except Failure String :=
  (config.load options.minify text).map (publish options.page)

/-- Where the configuration for a specification is kept. -/
def pathFor (spec : String) : String := Path.join ((Path.parent? spec).getD "") fileName

variable {m : Type → Type} [Monad m] [FileStore m]

/-- The configuration for a specification; without a file it changes nothing. -/
def forSpec (spec : String) : m (Except Failure ProjectConfig) := do
  let path := pathFor spec
  if !(← FileStore.isFile path) then return .ok empty
  let text := (Activity.reading path).orFail .file (← FileStore.readText path)
  return text.bind fun text => match ofText? text with
    | some config => .ok config
    | none => .error ⟨[.configuring path], .json⟩

/-- The text of a specification and the configuration for it. -/
def withSpec (spec : String) : m (Except Failure (String × ProjectConfig)) := do
  match (Activity.reading spec).orFail .file (← FileStore.readText spec) with
  | .error failure => return .error failure
  | .ok text => return (← forSpec spec).map fun config => (text, config)

/-- The component of a specification file, and its theme. -/
def loadFile (spec : String) : m (Except Failure Themed) := do
  return (← withSpec spec).bind fun (text, config) =>
    (Activity.loading spec).around (config.load false text)

/-- The embed or page for a specification file. -/
def compileFile (options : CompileOptions) (spec : String) : m (Except Failure String) := do
  return (← withSpec spec).bind fun (text, config) =>
    (Activity.compiling spec).around (config.compile options text)

end ProjectConfig

end LiveMarkup

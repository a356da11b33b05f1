import LiveMarkup.Project.Compilation
import LiveMarkup.Site.PageCache

/-!
# Previews

A preview shows the specification files of one folder as pages. Pages are cached under a digest of the
bytes that they are made from, so a changed file gives a new page; what failed is never cached.
-/

set_option autoImplicit false

namespace LiveMarkup

/-- The bytes that a page is made from: those of the specification and of the configuration. -/
abbrev PageSource := ByteArray × ByteArray

/-- A folder that is shown, and the pages that were made for it, kept under digests of their bytes. -/
structure Preview where
  root : String
  digest : PageSource → UInt64
  cache : PageCache UInt64 String

namespace Preview

/-- The greatest number of pages that are kept. -/
def cacheLimit : Nat := 64

/-- A preview of a folder, without pages, that will keep them under these digests. -/
def fresh (digest : PageSource → UInt64) (root : String) : Preview :=
  ⟨root, digest, .empty cacheLimit⟩

/-- A preview of a folder, without pages. -/
def ofFolder (root : String) : Preview := fresh hash root

/-- The number of pages that are kept. -/
def cachedPages (preview : Preview) : Nat := preview.cache.size

/-- The configuration in the bytes of its file; no bytes are no configuration. -/
def configOf (path : String) (bytes : ByteArray) : Except Failure ProjectConfig :=
  if bytes.isEmpty then .ok .empty
  else match ProjectConfig.ofText? (Utf8.readLeniently bytes) with
    | some config => .ok config
    | none => .error ⟨[.configuring path], .json⟩

/-- The page for a specification file, made from bytes. -/
def make (spec configPath : String) (source : PageSource) : Except Failure String := do
  let text ← (Activity.decoding spec).orFail .encoding (Utf8.read source.1)
  let config ← configOf configPath source.2
  (Activity.compiling spec).around (config.compile ⟨false, true⟩ text)

/-- The page from the cache, or else made and cached. -/
def request (preview : Preview) (spec configPath : String) (source : PageSource) :
    Except Failure String × Preview :=
  let key := preview.digest source
  match preview.cache.get key with
  | (some page, cache) => (.ok page, { preview with cache })
  | (none, _) => match make spec configPath source with
    | .ok page => (.ok page, { preview with cache := preview.cache.insert key page })
    | .error failure => (.error failure, preview)

/-- Where the configuration for a specification is kept. -/
def configPath (preview : Preview) (spec : String) : String :=
  Path.join ((Path.parent? spec).getD preview.root) ProjectConfig.fileName

variable {m : Type → Type} [Monad m] [FileStore m]

/-- Whether a path leads to a specification file. -/
def isSpec (path : String) : m Bool := do
  return (← FileStore.isFile path) && Path.extension? path == some "json"
    && Path.fileName? path != some ProjectConfig.fileName

/-- The specification files directly in the folder, by name. -/
def specs (preview : Preview) : m (Except Failure (List String)) := do
  match (Activity.listing preview.root).orFail .file (← FileStore.list preview.root) with
  | .error failure => return .error failure
  | .ok names =>
    let names := names.mergeSort fun a b => !(b < a)
    return .ok (← (names.map (Path.join preview.root)).filterM isSpec)

/-- The specification that a relative path asks for, with or without `.html`. -/
def candidate? (preview : Preview) (path : String) : Option String :=
  let name := match path.toList.reverse with
    | 'l' :: 'm' :: 't' :: 'h' :: '.' :: front => String.ofList front.reverse
    | _ => path
  if name == "" then none else some (Path.join preview.root (name ++ ".json"))

/-- The specification file that a relative path asks for. -/
def specFor (preview : Preview) (path : String) : m (Option String) := do
  match preview.candidate? path with
  | none => return none
  | some spec => return if ← isSpec spec then some spec else none

/-- The bytes that the page for a specification file is made from. A configuration that cannot be read
has none. -/
def source (preview : Preview) (spec : String) : m (Except Failure PageSource) := do
  match (Activity.reading spec).orFail .file (← FileStore.read spec) with
  | .error failure => return .error failure
  | .ok bytes => match ← FileStore.read (preview.configPath spec) with
    | .ok config => return .ok (bytes, config)
    | .error _ => return .ok (bytes, .empty)

/-- The page for a specification file, and the preview after it. -/
def page (preview : Preview) (spec : String) : m (Except Failure String × Preview) := do
  match ← preview.source spec with
  | .error failure => return (.error failure, preview)
  | .ok source => return preview.request spec (preview.configPath spec) source

/-- The link to the page of a specification file. -/
def link (spec : String) : String :=
  match Path.stem? spec with
  | none => ""
  | some name =>
    let name := Markup.escape name
    "<li><a href=\"/" ++ name ++ "\">" ++ name ++ "</a></li>"

/-- The page with links to all pages. -/
def index (preview : Preview) : m (Except Failure String) := do
  return (← preview.specs).map fun specs =>
    "<!DOCTYPE html>\n<html lang=\"en\">\n"
      ++ "<head><meta charset=\"utf-8\"><title>Strata preview</title></head>\n<body>\n"
      ++ "<h1>" ++ Markup.escape preview.root ++ "</h1>\n"
      ++ "<ul>" ++ String.join (specs.map link) ++ "</ul>\n</body>\n</html>\n"

end Preview

end LiveMarkup

import LiveMarkup.Text.Case

/-!
# Paths

A path is text whose parts stand between slashes; empty parts and `.` mean nothing, and a path that
begins with a slash starts at the root. These are rules about the text alone: whether a file is
there is another matter. `Path.relative?` lets through what cannot climb out of a folder.
-/

set_option autoImplicit false

namespace LiveMarkup.Path

/-- The parts of a path, empty ones included. -/
def parts (path : String) : List String := Text.split (· == '/') path

/-- Whether a path starts at the root. -/
def isAbsolute (path : String) : Bool := path.toList.head? == some '/'

/-- Whether a part of a path stays where it is. -/
def stays (part : String) : Bool := part == "" || part == "."

/-- Parts without those at the end that stay where they are. -/
def trimParts (parts : List String) : List String := (parts.reverse.dropWhile stays).reverse

/-- How a path begins: at the root, at a leading `.`, or with its first part. -/
inductive Start where
  | root
  | here
  | part
deriving DecidableEq

/-- How a path begins, and the parts behind that. -/
def start (path : String) : Start × List String :=
  match parts path with
  | "" :: first :: rest => (.root, first :: rest)
  | "." :: rest => (.here, rest)
  | all => (.part, all)

/-- The last part of a path, unless it has none or climbs. -/
def fileName? (path : String) : Option String :=
  match (trimParts (start path).2).getLast? with
  | some ".." => none
  | name => name

/-- The path of the folder that a path's last part is in. -/
def parent? (path : String) : Option String :=
  let (begin, body) := start path
  match begin, trimParts body with
  | .root, [] => none
  | .here, [] => some ""
  | .part, [] => none
  | begin, body =>
    let above := trimParts body.dropLast
    let text := "/".intercalate above
    match begin with
    | .root => some ("/" ++ text)
    | .here => some (if above.isEmpty then "." else "./" ++ text)
    | .part => some text

/-- The characters of a name before and behind its last dot. A dot at the front does not count. -/
def splitExtension (name : String) : String × Option String :=
  match (name.toList.reverse.span (· != '.')) with
  | (behind, '.' :: before) =>
    if before.isEmpty then (name, none)
    else (String.ofList before.reverse, some (String.ofList behind.reverse))
  | _ => (name, none)

/-- The file name's part behind its last dot. -/
def extension? (path : String) : Option String :=
  (fileName? path).bind fun name => (splitExtension name).2

/-- The file name without its extension. -/
def stem? (path : String) : Option String := (fileName? path).map fun name => (splitExtension name).1

/-- A path that is read from the folder `base`. -/
def join (base path : String) : String :=
  if isAbsolute path || base == "" then path
  else if base.toList.getLast? == some '/' then base ++ path
  else base ++ "/" ++ path

/-- A requested path without its leading slashes; none when a part of it climbs. -/
def relative? (requested : String) : Option String :=
  let path := String.ofList (requested.toList.dropWhile (· == '/'))
  if (parts path).contains ".." then none else some path

end LiveMarkup.Path

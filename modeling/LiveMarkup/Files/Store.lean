import LiveMarkup.Text.Utf8

/-!
# Keeping files

What the program needs from the place where files are kept, and how that can fail. A program written
over `FileStore` runs on a pure tree of files as well as on a disk.
-/

set_option autoImplicit false

namespace LiveMarkup

/-- Why something cannot be done with a path. -/
inductive FileError where
  | notFound
  | notAFolder
  | isAFolder
  /-- The path holds a character that no path may hold. -/
  | invalidPath
  /-- The bytes of the file are no text. -/
  | notText
  | other (message : String)
deriving DecidableEq

/-- What is said about the failure. -/
def FileError.message : FileError → String
  | .notFound => "No such file or directory (os error 2)"
  | .notAFolder => "Not a directory (os error 20)"
  | .isAFolder => "Is a directory (os error 21)"
  | .invalidPath => "file name contained an unexpected NUL byte"
  | .notText => "stream did not contain valid UTF-8"
  | .other message => message

/-- What stands at a path, by the full name that leads there. -/
inductive Resolved where
  | file (name : String)
  | folder (name : String)
deriving DecidableEq

/-- The operations of a place where files are kept. -/
class FileStore (m : Type → Type) where
  /-- The bytes of a file. -/
  read : String → m (Except FileError ByteArray)
  /-- Makes the bytes those of the file at a path, which may be new. -/
  write : String → ByteArray → m (Except FileError Unit)
  /-- Whether there is a file at a path. -/
  isFile : String → m Bool
  /-- The names in a folder. -/
  list : String → m (Except FileError (List String))
  /-- What stands at a path. -/
  resolve : String → m (Except FileError Resolved)

namespace FileStore

variable {m : Type → Type} [Monad m] [FileStore m]

/-- The text in bytes that were read. -/
def textOf (bytes : ByteArray) : Except FileError String :=
  (Utf8.read bytes).mapError fun _ => .notText

/-- The text of a file. -/
def readText (path : String) : m (Except FileError String) := do
  return (← read path).bind textOf

end FileStore

end LiveMarkup

import LiveMarkup.Files.Path
import LiveMarkup.Files.Store
import LiveMarkup.StringMap

/-!
# File trees

The files and folders below one working folder, as a value. Of what lies outside, only the folders
above the working folder are known, and those only as folders. A path is followed part by part.
-/

set_option autoImplicit false

namespace LiveMarkup

/-- The files and folders below a working folder, by their parts joined with slashes. -/
structure FileTree where
  /-- The full name of the working folder. -/
  root : String
  files : StringMap ByteArray
  folders : StringMap Unit

namespace FileTree

/-- The tree without files. -/
def empty (root : String) : FileTree := ⟨root, .empty, .empty⟩

/-- The key of a file or folder. -/
def key (parts : List String) : String := "/".intercalate parts

/-- A folder: below the working folder by its parts, or somewhere above it. -/
inductive Folder where
  | below (parts : List String)
  | above
deriving DecidableEq

/-- What following a path leads to. -/
inductive Location where
  | folder (folder : Folder)
  | file (parts : List String)
  /-- Nothing yet, but the folder for it is there. -/
  | vacant (parts : List String)
deriving DecidableEq

/-- Follows the parts of a path from a folder. -/
def walk (tree : FileTree) : Folder → List String → Except FileError Location
  | folder, [] => .ok (.folder folder)
  | folder, part :: rest =>
    if Path.stays part then walk tree folder rest
    else match folder with
      | .above => if part == ".." then walk tree .above rest else .error .notFound
      | .below parts =>
        if part == ".." then
          walk tree (if parts.isEmpty then .above else .below parts.dropLast) rest
        else
          let here := parts ++ [part]
          if tree.folders.contains (key here) then walk tree (.below here) rest
          else if tree.files.contains (key here) then
            if rest.isEmpty then .ok (.file here) else .error .notAFolder
          else if rest.isEmpty then .ok (.vacant here) else .error .notFound

/-- Whether a path is text that may be followed. -/
def checkPath (path : String) : Except FileError Unit :=
  if path.toList.contains '\x00' then .error .invalidPath
  else if path == "" then .error .notFound
  else .ok ()

/-- Follows a path from the working folder, or from the root. -/
def locate (tree : FileTree) (path : String) : Except FileError Location := do
  checkPath path
  tree.walk (if Path.isAbsolute path then .above else .below []) (Path.parts path)

/-- The bytes of the file at a path. -/
def read (tree : FileTree) (path : String) : Except FileError ByteArray := do
  match ← tree.locate path with
  | .folder _ => .error .isAFolder
  | .vacant _ => .error .notFound
  | .file parts => match tree.files.find? (key parts) with
    | some bytes => .ok bytes
    | none => .error .notFound

/-- Whether there is a file at a path. -/
def isFile (tree : FileTree) (path : String) : Bool :=
  match tree.locate path with
  | .ok (.file _) => true
  | _ => false

/-- Writes a file into a folder that is there. A path that ends in a slash names no file. -/
def write (tree : FileTree) (path : String) (bytes : ByteArray) : Except FileError FileTree := do
  checkPath path
  if path.toList.getLast? == some '/' then
    let parent := (Path.parts path).reverse.dropWhile (· == "") |>.tail.reverse
    let _ ← tree.walk (if Path.isAbsolute path then .above else .below []) (parent ++ [""])
    .error .isAFolder
  else match ← tree.locate path with
    | .folder _ => .error .isAFolder
    | .file parts | .vacant parts =>
      .ok { tree with files := tree.files.insert (key parts) bytes }

/-- The last part of a key of something that is directly in a folder. -/
def childName? (parts : List String) (name : String) : Option String :=
  match (Path.parts name).reverse with
  | last :: front => if front.reverse == parts then some last else none
  | [] => none

/-- The names in the folder at a path. -/
def list (tree : FileTree) (path : String) : Except FileError (List String) := do
  match ← tree.locate path with
  | .file _ => .error .notAFolder
  | .vacant _ => .error .notFound
  | .folder .above => .ok []
  | .folder (.below parts) =>
    .ok ((tree.files.keys ++ tree.folders.keys).filterMap (childName? parts))

/-- What stands at a path. -/
def resolve (tree : FileTree) (path : String) : Except FileError Resolved := do
  match ← tree.locate path with
  | .vacant _ => .error .notFound
  | .file parts => .ok (.file (key (tree.root :: parts)))
  | .folder .above => .ok (.folder path)
  | .folder (.below parts) => .ok (.folder (key (tree.root :: parts)))

/-- Puts a file at a key, with the folders that lead to it. -/
def put (tree : FileTree) (name : String) (bytes : ByteArray) : FileTree :=
  let folders := (Path.parts name).dropLast.foldl
    (fun (folders, parts) part =>
      let parts := parts ++ [part]
      (StringMap.insert folders (key parts) (), parts))
    (tree.folders, ([] : List String))
  { tree with files := tree.files.insert name bytes, folders := folders.1 }

/-- Takes the file at a key away. -/
def remove (tree : FileTree) (name : String) : FileTree :=
  { tree with files := tree.files.erase name }

/-- A tree of text files. -/
def ofTexts (root : String) (files : List (String × String)) : FileTree :=
  files.foldl (fun tree file => tree.put file.1 file.2.toUTF8) (empty root)

end FileTree

/-- A tree as the place where files are kept. -/
instance : FileStore (StateM FileTree) where
  read path := return (← get).read path
  write path bytes := do
    match (← get).write path bytes with
    | .ok tree => set tree; return .ok ()
    | .error error => return .error error
  isFile path := return (← get).isFile path
  list path := return (← get).list path
  resolve path := return (← get).resolve path

namespace FileTree

/-! ## Looking at files leaves them as they are -/

theorem run_read (tree : FileTree) (path : String) :
    (FileStore.read path : StateM FileTree _).run tree = (tree.read path, tree) := rfl

theorem run_readText (tree : FileTree) (path : String) :
    (FileStore.readText path : StateM FileTree _).run tree =
      ((tree.read path).bind FileStore.textOf, tree) := rfl

theorem run_isFile (tree : FileTree) (path : String) :
    (FileStore.isFile path : StateM FileTree _).run tree = (tree.isFile path, tree) := rfl

end FileTree

end LiveMarkup

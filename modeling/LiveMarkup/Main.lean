import LiveMarkup.CommandLine.Run
import LiveMarkup.Site.Response

/-!
# The program

Runs the command of a command line on the disk. Results go to standard output, failures to standard
error. A folder that is served is shown on the terminal: each line of standard input is a request
target, and its response is written to standard output.
-/

set_option autoImplicit false

namespace LiveMarkup

/-- A failure of the disk as a failure of a path. Some operations report the negated error number. -/
def fileErrorOf : IO.Error → FileError
  | .noFileOrDirectory _ _ _ => .notFound
  | .inappropriateType _ code _ => if code = 21 || code = 0 - 21 then .isAFolder else .notAFolder
  | error => .other (toString error)

/-- What an action on the disk gives, or how it fails. -/
def attempt {α : Type} (action : IO α) : IO (Except FileError α) :=
  try return .ok (← action) catch error => return .error (fileErrorOf error)

/-- The disk as the place where files are kept. -/
instance : FileStore IO where
  read path := attempt (IO.FS.readBinFile path)
  write path bytes := attempt (IO.FS.writeBinFile path bytes)
  isFile path := do
    match ← attempt (IO.FS.realPath path) with
    | .ok found => return !(← found.isDir)
    | .error _ => return false
  list path := attempt do
    let folder ← IO.FS.realPath path
    return (← folder.readDir).toList.map IO.FS.DirEntry.fileName
  resolve path := attempt do
    let found ← IO.FS.realPath path
    return if ← found.isDir then .folder found.toString else .file found.toString

/-- How the program is called. -/
def usage : String := "usage: strata [-v] <command>

  compile <spec> [--minify] [--page] [-o <file>]
  detect <spec>
  minify <file> [-o <file>]
  runtime [--minify] [-o <file>]
  serve <folder> [--port <number>]
"

/-- Answers request targets until the input ends. -/
partial def answerLines (preview : Preview) (input output : IO.FS.Stream) : IO Unit := do
  let line ← input.getLine
  if line.isEmpty then return
  let (response, preview) ← preview.answer (Text.trim line)
  output.putStrLn s!"{response.status} {response.contentType}"
  output.write response.body
  output.putStrLn ""
  output.flush
  answerLines preview input output

/-- Runs a command and reports on it; gives the exit code. -/
def perform (command : CommandLine.Command) : IO UInt32 := do
  match ← command.run with
  | .error failure =>
    IO.eprintln ("error: " ++ failure.message)
    return 1
  | .ok (.written _) => return 0
  | .ok (.printed text) =>
    IO.print text
    return 0
  | .ok (.serving folder _) =>
    answerLines (.ofFolder folder) (← IO.getStdin) (← IO.getStdout)
    return 0

end LiveMarkup

open LiveMarkup in
/-- The program. -/
def main (arguments : List String) : IO UInt32 := do
  match CommandLine.read arguments with
  | .ok invocation => perform invocation.command
  | .error .help =>
    IO.print usage
    return 0
  | .error .version =>
    IO.println "strata 0.3.0"
    return 0
  | .error .invalid =>
    IO.eprint usage
    return 2

import LiveMarkup.Site.Preview

/-!
# Responses

What a preview answers to a request target: the index for `/`, the page of a specification, another
file of the folder as it is, or the reason why there is none. The path of a target is decoded before
it is checked, and a path that climbs is refused.
-/

set_option autoImplicit false

namespace LiveMarkup

/-- A status, a content type and a body. -/
structure Response where
  status : Nat
  contentType : String
  body : ByteArray

/-- The path of a request target, without query and fragment. -/
def Response.targetPath (target : String) : String :=
  String.ofList (target.toList.takeWhile fun c => c != '?' && c != '#')

namespace Percent

/-- The value of a hexadecimal digit. -/
def digit? (byte : UInt8) : Option UInt8 :=
  if 0x30 ≤ byte ∧ byte ≤ 0x39 then some (byte - 0x30)
  else if 0x41 ≤ byte ∧ byte ≤ 0x46 then some (byte - 0x37)
  else if 0x61 ≤ byte ∧ byte ≤ 0x66 then some (byte - 0x57)
  else none

/-- The byte that two hexadecimal digits write. -/
def pair? (high low : UInt8) : Option UInt8 :=
  (digit? high).bind fun high => (digit? low).map fun low => high * 16 + low

/-- Replaces each percent sign that two hexadecimal digits follow by the byte they write. -/
def decode : List UInt8 → List UInt8
  | [] => []
  | byte :: high :: low :: rest =>
    if byte = 0x25 then
      match pair? high low with
      | some code => code :: decode rest
      | none => byte :: decode (high :: low :: rest)
    else byte :: decode (high :: low :: rest)
  | byte :: rest => byte :: decode rest
termination_by bytes => bytes.length

end Percent

namespace Response

/-- A page. -/
def html (text : String) : Response := ⟨200, "text/html; charset=utf-8", text.toUTF8⟩

/-- A plain message. -/
def message (status : Nat) (text : String) : Response :=
  ⟨status, "text/plain; charset=utf-8", text.toUTF8⟩

/-- A page, or the failure to make it. -/
def ofResult : Except Failure String → Response
  | .ok page => html page
  | .error failure => message 500 failure.message

/-- The content type of a file, by its extension. -/
def contentTypeOf (path : String) : String :=
  match Path.extension? path with
  | some "html" => "text/html; charset=utf-8"
  | some "css" => "text/css; charset=utf-8"
  | some "js" => "application/javascript; charset=utf-8"
  | some "json" => "application/json; charset=utf-8"
  | some "svg" => "image/svg+xml"
  | some "png" => "image/png"
  | _ => "application/octet-stream"

end Response

namespace Preview

variable {m : Type → Type} [Monad m] [FileStore m]

/-- A file of the folder as it is. -/
def answerFile (path : String) : m Response := do
  match ← FileStore.read path with
  | .ok bytes => return ⟨200, Response.contentTypeOf path, bytes⟩
  | .error error => return .message 500 ((Activity.reading path).message ++ ": " ++ error.message)

/-- The answer for a relative path. -/
def answerPath (preview : Preview) (path : String) : m (Response × Preview) := do
  match ← preview.specFor path with
  | some spec =>
    let (result, preview) ← preview.page spec
    return (.ofResult result, preview)
  | none =>
    let file := Path.join preview.root path
    if ← FileStore.isFile file then return (← answerFile file, preview)
    else return (.message 404 "not found", preview)

/-- The answer to a request target, and the preview after it. -/
def answer (preview : Preview) (target : String) : m (Response × Preview) := do
  let path := Response.targetPath target
  if path == "/" then return (.ofResult (← preview.index), preview)
  else match Utf8.read ⟨(Percent.decode (path.toUTF8.toList.drop 1)).toArray⟩ with
    | .error _ => return (.message 400 "Invalid URL: Invalid UTF-8 in `path`", preview)
    | .ok requested => match Path.relative? requested with
      | none => return (.message 400 "invalid path", preview)
      | some path => preview.answerPath path

end Preview

end LiveMarkup

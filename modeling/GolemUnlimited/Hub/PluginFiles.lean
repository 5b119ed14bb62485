import GolemUnlimited.Provider.Path

/-!
# Serving plugin files

The hub's route `/{pluginName}/{fileName:.*}` serves a file of a plugin.
`file_scope` reads the extension of the file name with `Path::extension`, answers
`BadRequest` when there is none or it is not `js`, `html` or `svg`, and otherwise
asks the plugin manager for the file and serves it with the extension's content
type.
-/

namespace GolemUnlimited.Hub

/-- `Path::file_name` on Unix: the last component unless it is `..`; empty and `.`
components, trailing separators among them, are skipped. -/
def fileName (p : PathBuf) : Option (List Char) :=
  match ((PathBuf.splitSep p.inner).filter fun c => c ≠ [] ∧ c ≠ ['.']).getLast? with
  | some c => if c = ['.', '.'] then none else some c
  | none => none

/-- `Path::extension`, through `rsplit_file_at_dot`: the part of the file name
after its last `.`, unless the name has no `.` or its only `.` begins it. -/
def extension (p : PathBuf) : Option (List Char) :=
  (fileName p).bind fun name =>
    match name.reverse.span (· != '.') with
    | (_, []) => none
    | (after, _ :: before) => if before = [] then none else some after.reverse

example : extension (.ofString "ui/index.html") = some "html".data := by decide
example : extension (.ofString "ui/.html") = none := by decide
example : extension (.ofString "ui/app.min.js/") = some "js".data := by decide

/-- `ContentType`. -/
inductive ContentType
  | javaScript
  | html
  | svg
  | notSupported
  deriving DecidableEq, Repr

/-- `From<&str> for ContentType`. -/
def ContentType.ofStr (s : String) : ContentType :=
  if s = "js" then .javaScript
  else if s = "html" then .html
  else if s = "svg" then .svg
  else .notSupported

/-- `ToString for ContentType`. -/
def ContentType.toString : ContentType → String
  | .javaScript => "application/javascript"
  | .html => "text/html"
  | .svg => "image/svg+xml"
  | .notSupported => "Content type not supported"

/-- `PluginFile`, the request sent to the plugin manager. -/
structure PluginFile where
  plugin : String
  path : PathBuf
  deriving DecidableEq, Repr

/-- The responses of `file_scope`. -/
inductive Response
  | ok (contentType : String) (body : List UInt8)
  | badRequest (msg : String)
  | internalServerError (msg : String)
  deriving DecidableEq, Repr

/-- `file_scope`: the request it sends to the plugin manager, if any, and its
response. `answer` is the manager's reply: a mailbox error, or the file or the
error of reading it. -/
def fileScope (pluginName fileName : String)
    (answer : Except String (Except String (List UInt8))) : Option PluginFile × Response :=
  let path := PathBuf.ofString fileName
  match (extension path).map fun e => ContentType.ofStr ⟨e⟩ with
  | none => (none, .badRequest "Cannot parse file extension")
  | some .notSupported => (none, .badRequest ContentType.notSupported.toString)
  | some content =>
    (some ⟨pluginName, path⟩,
      match answer with
      | .error e => .internalServerError ("err: " ++ e)
      | .ok (.error e) => .internalServerError ("err: " ++ e)
      | .ok (.ok body) => .ok content.toString body)

end GolemUnlimited.Hub

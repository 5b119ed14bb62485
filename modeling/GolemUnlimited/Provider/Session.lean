import GolemUnlimited.Provider.Path
import Mathlib.Data.List.AList

/-!
# Sessions of the host-direct manager

`HdMan` keeps one `SessionInfo` per deployed session: a workspace, the lifecycle
status, the `dirty` flag, an optional note and the table of child processes
started by `Start`. This file models these records, the error values the
handlers report, and the operations on one session that the handlers share.
-/

namespace GolemUnlimited.Provider

/-- Replies carry `Result`s; two of them are compared variant by variant. -/
instance instDecidableEqExcept {ε α : Type} [DecidableEq ε] [DecidableEq α] :
    DecidableEq (Except ε α)
  | .ok a, .ok b => decidable_of_iff (a = b) (by simp)
  | .error a, .error b => decidable_of_iff (a = b) (by simp)
  | .ok _, .error _ => isFalse (by simp)
  | .error _, .ok _ => isFalse (by simp)

/-- `PeerSessionStatus`, the lifecycle state a session reports. -/
inductive PeerSessionStatus
  | pending
  | created
  | configured
  | running
  deriving DecidableEq, Repr

/-- Modelled from the spec: `gu_model::envman::Error` is not in the sources; these
are the variants of the spec's error taxonomy, with the payloads the handlers
give them. -/
inductive Error
  | noSuchSession (id : String)
  | noSuchChild (id : String)
  | ioError (msg : String)
  | transferError (msg : String)
  | unpackError (msg : String)
  deriving DecidableEq, Repr

/-- Rust's `Debug` rendering of a string, between double quotes. -/
def quoted (s : String) : String := "\"" ++ s ++ "\""

/-- Modelled from the spec: the `Display` texts of the error are not in the
sources; each variant is rendered by its name and its payload. -/
def Error.toString : Error → String
  | .noSuchSession id => "no such session " ++ id
  | .noSuchChild id => "no such child " ++ id
  | .ioError msg => "io error " ++ msg
  | .transferError msg => "transfer error " ++ msg
  | .unpackError msg => "unpack error " ++ msg

/-- The derived `Debug` rendering `{:?}` of an error. -/
def Error.debug : Error → String
  | .noSuchSession id => "NoSuchSession(" ++ quoted id ++ ")"
  | .noSuchChild id => "NoSuchChild(" ++ quoted id ++ ")"
  | .ioError msg => "IoError(" ++ quoted msg ++ ")"
  | .transferError msg => "TransferError(" ++ quoted msg ++ ")"
  | .unpackError msg => "UnpackError(" ++ quoted msg ++ ")"

/-- A handle of a child process (`std::process::Child`), known by its pid. -/
structure Child where
  /-- The operating system's process id. -/
  pid : Nat
  deriving DecidableEq, Repr

/-- A session's `HashMap<String, process::Child>`: at most one child under each id. -/
abbrev Processes := AList (fun _ : String => Child)

/-- Modelled from the spec: `workspace::Workspace` is not in the sources. A named
directory with a set of tags, the set kept as a duplicate-free list. -/
structure Workspace where
  /-- The human label of the session. -/
  name : String
  /-- The session's directory, `sessions_dir/<session_id>`. -/
  path : PathBuf
  /-- The tag set. -/
  tags : List String
  deriving DecidableEq, Repr

namespace Workspace

/-- Modelled from the spec: `Workspace::new` starts without tags. -/
def new (name : String) (path : PathBuf) : Workspace := ⟨name, path, []⟩

/-- Modelled from the spec: `Workspace::add_tags` inserts each tag; duplicates collapse. -/
def addTags (ws : Workspace) (tags : List String) : Workspace :=
  { ws with tags := tags.foldl (fun ts t => ts.insert t) ws.tags }

/-- Modelled from the spec: `Workspace::remove_tags` removes each listed tag. -/
def removeTags (ws : Workspace) (tags : List String) : Workspace :=
  { ws with tags := ws.tags.filter (fun t => !tags.contains t) }

/-- Modelled from the spec: `Workspace::get_tags` lists the tag set. -/
def getTags (ws : Workspace) : List String := ws.tags

end Workspace

/-- `SessionInfo`, the internal record of one session. -/
structure SessionInfo where
  /-- The session's directory, name and tags. -/
  workspace : Workspace
  /-- The reported lifecycle status. -/
  status : PeerSessionStatus
  /-- Set by `Start` and by a completed `Exec`. -/
  dirty : Bool
  /-- The note given at creation. -/
  note : Option String
  /-- The children started by `Start` and not yet stopped or reaped. -/
  processes : Processes

namespace SessionInfo

/-- `SessionInfo::insert_process`: the child is tracked under `id`, the id that
`generate_new_id` chose, and the session becomes dirty and `RUNNING`. -/
def insertProcess (s : SessionInfo) (id : String) (child : Child) : SessionInfo :=
  { s with processes := s.processes.insert id child, dirty := true, status := .running }

/-- `Destroy for SessionInfo`: every tracked child is killed and then waited for,
their results ignored, and the result is that of `Workspace::clear_dir`, given as
`clearDir`. The first component lists the children handed to a kill. -/
def destroy (s : SessionInfo) (clearDir : Except Error Unit) : List Child × Except Error Unit :=
  (s.processes.entries.map Sigma.snd, clearDir)

end SessionInfo

/-- `PeerSessionInfo`, a session as `GetSessions` reports it. -/
structure PeerSessionInfo where
  id : String
  name : String
  status : PeerSessionStatus
  tags : List String
  note : Option String
  /-- The ids of the tracked children. -/
  processes : List String
  deriving DecidableEq, Repr

/-- `IntoDeployInfo for SessionInfo`: the report of the session registered as `id`. -/
def SessionInfo.convert (s : SessionInfo) (id : String) : PeerSessionInfo :=
  ⟨id, s.workspace.name, s.status, s.workspace.getTags, s.note, s.processes.keys⟩

end GolemUnlimited.Provider

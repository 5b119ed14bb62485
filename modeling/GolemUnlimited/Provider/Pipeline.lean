import GolemUnlimited.Provider.HdMan

/-!
# The command pipeline of `SessionUpdate`

`Handler<SessionUpdate>` turns the request's commands into a chain of futures,
one link per command except `Open` and `Close`. Each link runs when the one
before it has succeeded: its synchronous part reads and changes the session,
and the links of `Exec`, `Stop`, `DownloadFile` and `UploadFile` then wait for
an external step. The first link that fails ends the chain with the trail of
outputs so far and its failure message.

A pipeline in flight is a `Pipeline`: the links not yet begun, the trail and
the step the current link waits for. `Pipeline.advance` performs one
synchronous part or one continuation; the world's answers to the external
calls are an `Outcome`.
-/

namespace GolemUnlimited.Provider

/-- Modelled from the spec: `gu_model::envman::Command` is not in the sources; these
are the variants `handle` matches on. The transfers' `format` is ignored by the
handlers and left out. -/
inductive Command
  | «open»
  | close
  | exec (executable : String) (args : List String)
  | start (executable : String) (args : List String)
  | stop (childId : String)
  | addTags (tags : List String)
  | delTags (tags : List String)
  | downloadFile (uri : String) (filePath : String)
  | uploadFile (uri : String) (filePath : String)
  deriving DecidableEq, Repr

/-- One link of the future chain: the closure `handle` appends for a command,
with the paths it computed from the request. -/
inductive Link
  | exec (executable : String) (args : List String) (cwd : PathBuf)
  | start (executable : String) (args : List String)
  | stop (childId : String)
  | addTags (tags : List String)
  | delTags (tags : List String)
  | downloadFile (uri : String) (path : PathBuf)
  | uploadFile (uri : String) (path : PathBuf)
  deriving DecidableEq, Repr

/-- The external step a link waits for after its synchronous part. -/
inductive Await
  | exec
  | kill
  | download (uri : String)
  | upload (uri : String)
  deriving DecidableEq, Repr

/-- Modelled from the spec: `ExecResult` of `sync_exec` is not in the sources; the
two variants the handlers match on, `Run` with its decoded standard output and
`Kill` with its output text. -/
inductive ExecResult
  | run (stdout : String)
  | kill (output : String)
  deriving DecidableEq, Repr

/-- The `Debug` rendering of the kill reply `result` in `"wrong result {:?}"`. -/
def debugKillResult : Except String ExecResult → String
  | .ok (.run out) => "Ok(Run(" ++ quoted out ++ "))"
  | .ok (.kill out) => "Ok(Kill(" ++ quoted out ++ "))"
  | .error e => "Err(" ++ e ++ ")"

/-- An HTTP status of the upload's response, with its `Display` text. -/
structure StatusCode where
  code : Nat
  reason : String
  deriving DecidableEq, Repr

/-- `StatusCode::is_success`: a 2xx status. -/
def StatusCode.isSuccess (st : StatusCode) : Bool := 200 ≤ st.code && st.code < 300

/-- `Display for StatusCode`, as in `"404 Not Found"`. -/
def StatusCode.toString (st : StatusCode) : String := s!"{st.code} " ++ st.reason

/-- The world's answers to the external calls of one pipeline step; each step
reads only the field of the call it makes. Errors are given by their text. -/
structure Outcome where
  /-- `process::Command::spawn`. -/
  spawn : Except String Child
  /-- The id `generate_new_id` chooses for a spawned child. -/
  childId : String
  /-- `SyncExecManager`'s reply to `Exec::Run`, flattened. -/
  exec : Except String ExecResult
  /-- The reply to `Exec::Kill`: a mailbox error, or the manager's result. -/
  kill : Except String (Except String ExecResult)
  /-- `provision::download` of one file. -/
  download : Except String Unit
  /-- `client::put(uri).streaming(..)`, building the upload request. -/
  putRequest : Except String Unit
  /-- Sending the upload: a transport error, or the response's status. -/
  upload : Except String StatusCode

/-- What the manager does to a child process outside the registry. -/
inductive Effect
  /-- `process::Command::spawn` started the child. -/
  | spawned (c : Child)
  /-- The child's handle was given up to a kill: `Exec::Kill` sent to the exec
  manager by a `Stop`, or `kill` called by `SessionInfo::destroy`. The label
  records the kill sent, not its result: a `Stop` whose message is not
  delivered drops the handle with the process unkilled. -/
  | killed (c : Child)
  /-- The reaper saw the child exit and dropped its handle. -/
  | reaped (c : Child)
  deriving DecidableEq, Repr

/-- A pipeline in flight. -/
structure Pipeline where
  /-- The session the request names. -/
  sessionId : String
  /-- The links not yet begun. -/
  links : List Link
  /-- The outputs of the links that succeeded. -/
  trail : List String
  /-- The external step the current link waits for, if any. -/
  await : Option Await
  deriving DecidableEq, Repr

/-- What one step of a pipeline leads to: it goes on, or it replies. -/
inductive Progress
  | next (p : Pipeline)
  | done (reply : Except (List String) (List String))
  deriving DecidableEq

/-- The `Debug` rendering of the tag vector in the tag commands' outputs. -/
def debugTags (tags : List String) : String :=
  "[" ++ ", ".intercalate (tags.map quoted) ++ "]"

namespace HdMan

/-- The link `handle` appends for one command of the request. -/
def link (hd : HdMan) (sessionId : String) : Command → Option Link
  | .open => none
  | .close => none
  | .exec executable args =>
    some (.exec (hd.getSessionExecPath sessionId executable) args (hd.getSessionPath sessionId))
  | .start executable args => some (.start (hd.getSessionExecPath sessionId executable) args)
  | .stop childId => some (.stop childId)
  | .addTags tags => some (.addTags tags)
  | .delTags tags => some (.delTags tags)
  | .downloadFile uri filePath =>
    some (.downloadFile uri ((hd.getSessionPath sessionId).join (.ofString filePath)))
  | .uploadFile uri filePath =>
    some (.uploadFile uri ((hd.getSessionPath sessionId).join (.ofString filePath)))

/-- The future chain `handle` builds by its loop over the commands. -/
def chain (hd : HdMan) (sessionId : String) (commands : List Command) : List Link :=
  commands.filterMap (hd.link sessionId)

end HdMan

/-- `generate_new_id`'s contract, which the spec gives: the chosen id is not in
use by a child of the session. -/
def HdMan.freshChildId (hd : HdMan) (sessionId childId : String) : Bool :=
  match hd.deploys.lookup sessionId with
  | some s => childId ∉ s.processes
  | none => true

/-- `generate_new_id`'s contract: the chosen id is not in the session's table. -/
theorem HdMan.freshChildId_lookup {hd : HdMan} {id childId : String} {s : SessionInfo}
    (hfresh : hd.freshChildId id childId = true) (hs : hd.deploys.lookup id = some s) :
    childId ∉ s.processes := by
  simpa [HdMan.freshChildId, hs] using hfresh

namespace Pipeline

/-- The current link failed with the messages `msgs`: the reply is the trail
followed by them. -/
def fail (p : Pipeline) (msgs : List String) : Progress := .done (.error (p.trail ++ msgs))

/-- The synchronous part of the link `l`, begun on `p` whose later links are `rest`.
It is `none` only when `generate_new_id` would break its contract. A `Stop` takes
its child out of the table and sends `Exec::Kill` with the handle, which the
`killed` label records; what the kill answers is the continuation's. -/
def begin (p : Pipeline) (hd : HdMan) (rest : List Link) (o : Outcome) :
    Link → Option (HdMan × Progress × List Effect)
  | .exec _ _ _ => some (hd, .next { p with links := rest, await := some .exec }, [])
  | .start _ _ =>
    match o.spawn with
    | .error e => some (hd, p.fail [(Error.ioError e).toString], [])
    | .ok c =>
      if hd.freshChildId p.sessionId o.childId then
        match hd.insertChild p.sessionId o.childId c with
        | .ok (hd', id) => some (hd', .next { p with links := rest, trail := p.trail ++ [id] },
            [.spawned c])
        | .error e => some (hd, p.fail [e.toString], [.spawned c])
      else none
  | .stop childId =>
    match hd.getSessionMut p.sessionId with
    | .error e => some (hd, p.fail [e.toString], [])
    | .ok s =>
      match s.processes.lookup childId with
      | none => some (hd, p.fail [(Error.noSuchChild childId).toString], [])
      | some child =>
        some (hd.setSession p.sessionId { s with processes := s.processes.erase childId },
          .next { p with links := rest, await := some .kill }, [.killed child])
  | .addTags tags =>
    match hd.getSessionMut p.sessionId with
    | .error e => some (hd, p.fail [e.toString], [])
    | .ok s =>
      let ws := tags.foldl (fun ws tag => ws.addTags [tag]) s.workspace
      some (hd.setSession p.sessionId { s with workspace := ws },
        .next { p with
          links := rest
          trail := p.trail ++ ["tags inserted. Current tags are: " ++ debugTags ws.getTags] }, [])
  | .delTags tags =>
    match hd.getSessionMut p.sessionId with
    | .error e => some (hd, p.fail [e.toString], [])
    | .ok s =>
      let ws := s.workspace.removeTags tags
      some (hd.setSession p.sessionId { s with workspace := ws },
        .next { p with
          links := rest
          trail := p.trail ++ ["tags removed. Current tags are: " ++ debugTags ws.getTags] }, [])
  | .downloadFile uri _ => some (hd, .next { p with links := rest, await := some (.download uri) }, [])
  | .uploadFile uri _ =>
    match o.putRequest with
    | .error e => some (hd, p.fail [e], [])
    | .ok () => some (hd, .next { p with links := rest, await := some (.upload uri) }, [])

/-- The continuation of the current link once the step it waits for has answered. -/
def resume (p : Pipeline) (hd : HdMan) (o : Outcome) : Await → HdMan × Progress × List Effect
  | .exec =>
    match o.exec with
    | .error e => (hd, p.fail [e], [])
    | .ok result =>
      let v := match result with
        | .run out => p.trail ++ [out]
        | .kill _ => p.trail
      match hd.getSessionMut p.sessionId with
      | .ok s => (hd.setSession p.sessionId { s with dirty := true },
          .next { p with trail := v, await := none }, [])
      | .error e => (hd, .done (.error (v ++ [e.toString])), [])
  | .kill =>
    match o.kill with
    | .error e => (hd, p.fail [e], [])
    | .ok (.ok (.kill output)) =>
      match hd.getSessionMut p.sessionId with
      | .ok s =>
        (hd.setSession p.sessionId
            (if s.processes.entries.isEmpty then { s with status := .configured } else s),
          .next { p with trail := p.trail ++ [output], await := none }, [])
      | .error e => (hd, p.fail [e.toString], [])
    | .ok result => (hd, p.fail ["wrong result " ++ debugKillResult result], [])
  | .download uri =>
    match o.download with
    | .ok () =>
      (hd, .next { p with trail := p.trail ++ [quoted uri ++ " file downloaded"], await := none }, [])
    | .error e => (hd, p.fail [e], [])
  | .upload uri =>
    match o.upload with
    | .error e => (hd, p.fail [e], [])
    | .ok st =>
      if st.isSuccess then
        (hd, .next { p with trail := p.trail ++ [quoted uri ++ " file uploaded"], await := none }, [])
      else (hd, p.fail ["Unsuccessful file upload: " ++ st.toString], [])

/-- One step of a pipeline: the continuation of the link that waits, or else the
synchronous part of the next link, or else the reply `Ok(trail)`. -/
def advance (p : Pipeline) (hd : HdMan) (o : Outcome) : Option (HdMan × Progress × List Effect) :=
  match p.await, p.links with
  | some a, _ => some (p.resume hd o a)
  | none, [] => some (hd, .done (.ok p.trail), [])
  | none, l :: rest => p.begin hd rest o l

/-- What the synchronous part of a link can do. It fails and changes nothing,
though a `Start` whose session is gone has spawned its child; or it leaves the
link waiting and changes nothing, except that a `Stop` takes its child out of the
table; or it completes the link: a `Start` tracks its child under the fresh id,
and a tag command rewrites the workspace. -/
theorem begin_cases {p : Pipeline} {hd hd' : HdMan} {rest : List Link} {o : Outcome} {l : Link}
    {r : Progress} {es : List Effect} (h : p.begin hd rest o l = some (hd', r, es)) :
    (hd' = hd ∧ (∃ msg, r = p.fail [msg]) ∧
      (es = [] ∨ ∃ c, es = [.spawned c] ∧ hd.deploys.lookup p.sessionId = none)) ∨
    (hd' = hd ∧ es = [] ∧ ∃ a, r = .next { p with links := rest, await := some a }) ∨
    (∃ childId s child, l = .stop childId ∧ hd.deploys.lookup p.sessionId = some s ∧
      s.processes.lookup childId = some child ∧
      hd' = hd.setSession p.sessionId { s with processes := s.processes.erase childId } ∧
      r = .next { p with links := rest, await := some .kill } ∧ es = [.killed child]) ∨
    (∃ c s, hd.deploys.lookup p.sessionId = some s ∧ o.childId ∉ s.processes ∧
      hd' = hd.setSession p.sessionId (s.insertProcess o.childId c) ∧
      r = .next { p with links := rest, trail := p.trail ++ [o.childId] } ∧ es = [.spawned c]) ∨
    (∃ s ws msg, hd.deploys.lookup p.sessionId = some s ∧
      hd' = hd.setSession p.sessionId { s with workspace := ws } ∧
      r = .next { p with links := rest, trail := p.trail ++ [msg] } ∧ es = []) := by
  cases l with
  | exec | downloadFile => cases h; exact .inr (.inl ⟨rfl, rfl, _, rfl⟩)
  | start =>
    simp only [begin] at h
    split at h
    · cases h; exact .inl ⟨rfl, ⟨_, rfl⟩, .inl rfl⟩
    · next c _ =>
      split at h
      · next hfresh =>
        split at h
        · next hins =>
          obtain ⟨rfl, s, hs, rfl⟩ := HdMan.insertChild_eq_ok.mp hins
          cases h
          exact .inr (.inr (.inr (.inl
            ⟨c, s, hs, HdMan.freshChildId_lookup hfresh hs, rfl, rfl, rfl⟩)))
        · next hins =>
          cases h
          exact .inl ⟨rfl, ⟨_, rfl⟩, .inr ⟨c, rfl, (HdMan.insertChild_eq_error.mp hins).1⟩⟩
      · cases h
  | stop childId =>
    simp only [begin] at h
    split at h
    · cases h; exact .inl ⟨rfl, ⟨_, rfl⟩, .inl rfl⟩
    · next s hs =>
      split at h
      · cases h; exact .inl ⟨rfl, ⟨_, rfl⟩, .inl rfl⟩
      · next child hchild =>
        cases h
        exact .inr (.inr (.inl
          ⟨childId, s, child, rfl, HdMan.getSessionMut_eq_ok.mp hs, hchild, rfl, rfl, rfl⟩))
  | addTags | delTags =>
    simp only [begin] at h
    split at h
    · cases h; exact .inl ⟨rfl, ⟨_, rfl⟩, .inl rfl⟩
    · next s hs =>
      cases h
      exact .inr (.inr (.inr (.inr ⟨s, _, _, HdMan.getSessionMut_eq_ok.mp hs, rfl, rfl, rfl⟩)))
  | uploadFile =>
    simp only [begin] at h
    split at h
    · cases h; exact .inl ⟨rfl, ⟨_, rfl⟩, .inl rfl⟩
    · cases h; exact .inr (.inl ⟨rfl, rfl, _, rfl⟩)

/-- What a continuation can do. It spawns and kills nothing; it fails with one
message, or two after an `Exec` that ran, and changes nothing; or it completes
the link with at most one output, marking the session dirty after an `Exec` and
`CONFIGURED` after a `Stop` that emptied its table. -/
theorem resume_cases {p : Pipeline} {hd hd' : HdMan} {o : Outcome} {a : Await} {r : Progress}
    {es : List Effect} (h : p.resume hd o a = (hd', r, es)) :
    es = [] ∧
    ((hd' = hd ∧ ∃ msgs, r = p.fail msgs ∧ msgs ≠ [] ∧ msgs.length ≤ 2) ∨
      ((∃ out : Option String, r = .next { p with trail := p.trail ++ out.toList, await := none }) ∧
        (hd' = hd ∨ ∃ s, hd.deploys.lookup p.sessionId = some s ∧
          (hd' = hd.setSession p.sessionId { s with dirty := true } ∨
            hd' = hd.setSession p.sessionId
              (if s.processes.entries.isEmpty then { s with status := .configured } else s))))) := by
  cases a with
  | exec =>
    simp only [resume] at h
    split at h
    · cases h; exact ⟨rfl, .inl ⟨rfl, _, rfl, by simp, by simp⟩⟩
    · next result _ =>
      split at h
      · next s hs =>
        cases h
        refine ⟨rfl, .inr ⟨?_, .inr ⟨s, HdMan.getSessionMut_eq_ok.mp hs, .inl rfl⟩⟩⟩
        cases result with
        | run out => exact ⟨some out, rfl⟩
        | kill _ => exact ⟨none, by simp⟩
      · next e _ =>
        cases h
        refine ⟨rfl, .inl ⟨rfl, ?_⟩⟩
        cases result with
        | run out => exact ⟨[out, e.toString], by simp [fail], by simp, by simp⟩
        | kill _ => exact ⟨[e.toString], rfl, by simp, by simp⟩
  | kill =>
    simp only [resume] at h
    split at h
    · cases h; exact ⟨rfl, .inl ⟨rfl, _, rfl, by simp, by simp⟩⟩
    · split at h
      · next s hs =>
        cases h
        exact ⟨rfl, .inr ⟨⟨some _, rfl⟩, .inr ⟨s, HdMan.getSessionMut_eq_ok.mp hs, .inr rfl⟩⟩⟩
      · cases h; exact ⟨rfl, .inl ⟨rfl, _, rfl, by simp, by simp⟩⟩
    · cases h; exact ⟨rfl, .inl ⟨rfl, _, rfl, by simp, by simp⟩⟩
  | download =>
    simp only [resume] at h
    split at h
    · cases h; exact ⟨rfl, .inr ⟨⟨some _, rfl⟩, .inl rfl⟩⟩
    · cases h; exact ⟨rfl, .inl ⟨rfl, _, rfl, by simp, by simp⟩⟩
  | upload =>
    simp only [resume] at h
    split at h
    · cases h; exact ⟨rfl, .inl ⟨rfl, _, rfl, by simp, by simp⟩⟩
    · split at h
      · cases h; exact ⟨rfl, .inr ⟨⟨some _, rfl⟩, .inl rfl⟩⟩
      · cases h; exact ⟨rfl, .inl ⟨rfl, _, rfl, by simp, by simp⟩⟩

/-- One step of a pipeline is the continuation of the link that waits, the reply
`Ok(trail)` when no link is left, or the synchronous part of the next link. -/
theorem advance_cases {p : Pipeline} {hd hd' : HdMan} {o : Outcome} {r : Progress}
    {es : List Effect} (h : p.advance hd o = some (hd', r, es)) :
    (∃ a, p.await = some a ∧ p.resume hd o a = (hd', r, es)) ∨
    (p.await = none ∧ p.links = [] ∧ hd' = hd ∧ r = .done (.ok p.trail) ∧ es = []) ∨
    (∃ l rest, p.await = none ∧ p.links = l :: rest ∧ p.begin hd rest o l = some (hd', r, es)) := by
  unfold advance at h
  split at h
  · next _ _ a ha => exact .inl ⟨a, ha, Option.some.inj h⟩
  · next hidle hlinks => cases h; exact .inr (.inl ⟨hidle, hlinks, rfl, rfl, rfl⟩)
  · next l rest hidle hlinks => exact .inr (.inr ⟨l, rest, hidle, hlinks, h⟩)

end Pipeline

end GolemUnlimited.Provider

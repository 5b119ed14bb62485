import GolemUnlimited.Provider.Pipeline
import GolemUnlimited.Provider.Reaper

/-!
# The manager actor and its runs

`HdMan` is an actix actor: it handles one message at a time, and the futures its
handlers return run later, interleaved with other messages at their suspension
points. A `World` is the actor's state together with the futures in flight: the
provisioning of each `CreateSession` and the pipeline of each `SessionUpdate`.
`World.step` performs one event: a request handled, one future advanced with the
world's answer to its external call, or one scan of the reaper. Every schedule of
the actor is a list of events; the model also lets other events in between two
links of a pipeline, so it has at least the actor's schedules.
-/

namespace GolemUnlimited.Provider

/-- `CreateSession`: the new session's name, tags, note and image. -/
structure CreateSession where
  name : String
  tags : List String
  note : Option String
  /-- The image's `url`. -/
  url : String
  /-- The image's `hash`, its file name in the cache. -/
  hash : String
  deriving DecidableEq, Repr

/-- `SessionUpdate`: the target session and its commands. -/
structure SessionUpdate where
  sessionId : String
  commands : List Command
  deriving DecidableEq, Repr

/-- A future the actor has spawned and not yet completed. -/
inductive Task
  /-- The download and unpack of a `CreateSession`'s image. -/
  | provisioning (sessionId : String)
  /-- The pipeline of a `SessionUpdate`. -/
  | pipeline (p : Pipeline)
  deriving DecidableEq, Repr

/-- The reply a request receives. -/
inductive Reply
  | createSession (r : Except Error String)
  | sessionUpdate (r : Except (List String) (List String))
  | destroySession (r : Except Error String)
  | getSessions (infos : List PeerSessionInfo)
  deriving DecidableEq

/-- What an observer sees of one event: effects on child processes and replies. -/
inductive Label
  | effect (e : Effect)
  | reply (request : Nat) (r : Reply)
  deriving DecidableEq

/-- One event of a run, with the world's answers to the external calls it makes. -/
inductive Event
  /-- A `CreateSession` handled: `sessionId` is what `generate_session_id`
  returned and `createDirs` the outcome of `Workspace::create_dirs`. -/
  | createSession (msg : CreateSession) (sessionId : String) (createDirs : Except Error Unit)
  /-- The download and unpack of a request answered `result`; `clearDir` is the
  outcome of the rollback's `clear_dir`, if the rollback runs. -/
  | provisioned (request : Nat) (result : Except Error Unit) (clearDir : Except Error Unit)
  /-- A `SessionUpdate` handled. -/
  | sessionUpdate (msg : SessionUpdate)
  /-- One step of the pipeline of a request. -/
  | advance (request : Nat) (o : Outcome)
  /-- One run of `scan_for_processes`, with each child's `try_wait` outcome. -/
  | scan (poll : Child → TryWait)
  /-- A `DestroySession` handled; `clearDir` is the outcome of `clear_dir`. -/
  | destroySession (sessionId : String) (clearDir : Except Error Unit)
  /-- A `GetSessions` handled. -/
  | getSessions

/-- The actor with its futures in flight, each under the number of its request. -/
structure World where
  hd : HdMan
  tasks : AList (fun _ : Nat => Task)
  /-- The number the next request gets. -/
  nextRequest : Nat

namespace HdMan

/-- The session `Handler<CreateSession>` registers before provisioning. -/
def newSession (hd : HdMan) (msg : CreateSession) (sessionId : String) : SessionInfo :=
  ⟨(Workspace.new msg.name (hd.getSessionPath sessionId)).addTags msg.tags, .pending, false,
    msg.note, ∅⟩

/-- The `and_then` continuation of `Handler<CreateSession>` after download and
unpack: the registered session becomes `CREATED`. -/
def setCreated (hd : HdMan) (sessionId : String) : Except Error HdMan := do
  let s ← hd.getSessionMut sessionId
  pure (hd.setSession sessionId { s with status := .created })

/-- The `map_err` of `Handler<CreateSession>`: after the error `e`, the session is
destroyed; the reply carries `e` if that succeeds and the destroy error if not.
The second component lists the children handed to a kill. -/
def rollback (hd : HdMan) (sessionId : String) (clearDir : Except Error Unit) (e : Error) :
    HdMan × List Child × Except Error String :=
  match hd.destroyDeploy sessionId clearDir with
  | (killed, .ok hd') => (hd', killed, .error (.ioError ("creating session error: " ++ e.debug)))
  | (killed, .error e') => (hd, killed, .error e')

/-- The future of `Handler<CreateSession>` once download and unpack answered
`result`: the new state, the children handed to a kill, and the reply. -/
def provisioned (hd : HdMan) (sessionId : String) (result clearDir : Except Error Unit) :
    HdMan × List Child × Except Error String :=
  match result >>= fun _ => hd.setCreated sessionId with
  | .ok hd' => (hd', [], .ok sessionId)
  | .error e => hd.rollback sessionId clearDir e

end HdMan

namespace World

/-- The world before any request: `HdMan::start` and no future. -/
def init (cacheDir workDir : PathBuf) : World := ⟨HdMan.start cacheDir workDir, ∅, 0⟩

/-- The tracked children whose poll reports an exit: those the reaper removes. -/
def reapedChildren (hd : HdMan) (poll : Child → TryWait) : List Child :=
  hd.deploys.entries.flatMap fun e =>
    (e.2.processes.entries.map Sigma.snd).filter fun c => (poll c).exited

/-- One event. It is `none` when the event cannot happen: a future that is not in
flight, or an id generator breaking its contract. -/
def step (w : World) : Event → Option (World × List Label)
  | .createSession msg sessionId createDirs =>
    if sessionId ∈ w.hd.deploys then none
    else match createDirs with
      | .error e => some ({ w with nextRequest := w.nextRequest + 1 },
          [.reply w.nextRequest (.createSession (.error e))])
      | .ok () => some (
          { hd := { w.hd with
              deploys := w.hd.deploys.insert sessionId (w.hd.newSession msg sessionId) }
            tasks := w.tasks.insert w.nextRequest (.provisioning sessionId)
            nextRequest := w.nextRequest + 1 }, [])
  | .provisioned request result clearDir =>
    match w.tasks.lookup request with
    | some (.provisioning sessionId) =>
      let r := w.hd.provisioned sessionId result clearDir
      some ({ w with hd := r.1, tasks := w.tasks.erase request },
        r.2.1.map (.effect ∘ .killed) ++ [.reply request (.createSession r.2.2)])
    | _ => none
  | .sessionUpdate msg =>
    if msg.sessionId ∈ w.hd.deploys then
      some ({ w with
        tasks := w.tasks.insert w.nextRequest
          (.pipeline ⟨msg.sessionId, w.hd.chain msg.sessionId msg.commands, [], none⟩)
        nextRequest := w.nextRequest + 1 }, [])
    else some ({ w with nextRequest := w.nextRequest + 1 },
      [.reply w.nextRequest (.sessionUpdate (.error [(Error.noSuchSession msg.sessionId).toString]))])
  | .advance request o =>
    match w.tasks.lookup request with
    | some (.pipeline p) =>
      match p.advance w.hd o with
      | some (hd', .next p', effects) =>
        some ({ w with hd := hd', tasks := w.tasks.insert request (.pipeline p') },
          effects.map .effect)
      | some (hd', .done r, effects) =>
        some ({ w with hd := hd', tasks := w.tasks.erase request },
          effects.map .effect ++ [.reply request (.sessionUpdate r)])
      | none => none
    | _ => none
  | .scan poll =>
    some ({ w with hd := w.hd.scanForProcesses poll },
      (reapedChildren w.hd poll).map (.effect ∘ .reaped))
  | .destroySession sessionId clearDir =>
    let r := w.hd.destroyDeploy sessionId clearDir
    match r.2 with
    | .ok hd' => some ({ w with hd := hd', nextRequest := w.nextRequest + 1 },
        r.1.map (.effect ∘ .killed) ++
          [.reply w.nextRequest (.destroySession (.ok "Session closed"))])
    | .error e => some ({ w with nextRequest := w.nextRequest + 1 },
        r.1.map (.effect ∘ .killed) ++ [.reply w.nextRequest (.destroySession (.error e))])
  | .getSessions =>
    some ({ w with nextRequest := w.nextRequest + 1 },
      [.reply w.nextRequest (.getSessions w.hd.deploysInfo)])

/-- A run: the events in order, with everything observed on the way. -/
def run (w : World) : List Event → Option (World × List Label)
  | [] => some (w, [])
  | e :: es =>
    match w.step e with
    | some (w₁, l₁) =>
      match w₁.run es with
      | some (w₂, l₂) => some (w₂, l₁ ++ l₂)
      | none => none
    | none => none

/-- The worlds some run of the actor reaches. -/
inductive Reachable : World → Prop
  | init (cacheDir workDir : PathBuf) : Reachable (init cacheDir workDir)
  | step {w w' : World} {e : Event} {ls : List Label} :
      Reachable w → w.step e = some (w', ls) → Reachable w'

/-- A run of `e :: es` is the event `e` followed by a run of `es`, with the labels
of both in order. -/
theorem run_cons_eq_some {w w₂ : World} {e : Event} {es : List Event} {ls : List Label} :
    w.run (e :: es) = some (w₂, ls) ↔
      ∃ w₁ l₁ l₂, w.step e = some (w₁, l₁) ∧ w₁.run es = some (w₂, l₂) ∧ ls = l₁ ++ l₂ := by
  simp only [run]
  constructor
  · intro h
    split at h
    · next w₁ l₁ h₁ =>
      split at h
      · next w₂ l₂ h₂ => cases h; exact ⟨w₁, l₁, l₂, h₁, h₂, rfl⟩
      · cases h
    · cases h
  · rintro ⟨w₁, l₁, l₂, h₁, h₂, rfl⟩
    simp [h₁, h₂]

/-- A run from a reachable world ends in a reachable world. -/
theorem Reachable.run {w w' : World} {es : List Event} {ls : List Label} (hw : w.Reachable)
    (h : w.run es = some (w', ls)) : w'.Reachable := by
  induction es generalizing w ls with
  | nil => cases h; exact hw
  | cons e es ih =>
    obtain ⟨w₁, l₁, l₂, h₁, h₂, rfl⟩ := run_cons_eq_some.mp h
    exact ih (.step hw h₁) h₂

/-- A property that every event keeps unless its labels show an escape holds
after every run unless the run's labels show one. -/
theorem run_keeps {P : World → Prop} {Q : List Label → Prop}
    (hQ : ∀ l₁ l₂, Q l₁ ∨ Q l₂ → Q (l₁ ++ l₂))
    (hstep : ∀ {w w' : World} {e : Event} {ls : List Label}, w.step e = some (w', ls) → P w →
      P w' ∨ Q ls)
    {w w' : World} {es : List Event} {ls : List Label} (h : w.run es = some (w', ls)) (hp : P w) :
    P w' ∨ Q ls := by
  induction es generalizing w ls with
  | nil => cases h; exact .inl hp
  | cons e es ih =>
    obtain ⟨w₁, l₁, l₂, h₁, h₂, rfl⟩ := run_cons_eq_some.mp h
    rcases hstep h₁ hp with hp₁ | hq₁
    · exact (ih h₂ hp₁).imp_right fun hq₂ => hQ l₁ l₂ (.inr hq₂)
    · exact .inr (hQ l₁ l₂ (.inl hq₁))

end World

/-! ## Sample inputs of the runs in later modules -/

/-- The directory that holds the cache and the work directory in the sample runs. -/
def sampleRoot : PathBuf := .ofString "/srv/gu"

/-- The `CreateSession` of the sample runs. -/
def sampleCreate : CreateSession := ⟨"worker", [], none, "http://hub/image.tgz", "0a1b"⟩

/-- Answers in which every external call fails; runs override the calls that succeed. -/
def Outcome.failing : Outcome :=
  ⟨.error "spawn failed", "", .error "exec failed", .error "mailbox closed",
    .error "download failed", .error "put failed", .error "send failed"⟩

/-- `s1` is created and provisioned: the requests before the sample update. -/
def sampleSetup : List Event :=
  [.createSession sampleCreate "s1" (.ok ()), .provisioned 0 (.ok ()) (.ok ())]

/-- A `SessionUpdate` running an `Exec` and then a `Start` on `s1`. -/
def sampleUpdate : SessionUpdate := ⟨"s1", [.exec "bin/task" [], .start "bin/worker" []]⟩

/-- The rest of the sample run: the pipeline of `sampleUpdate`, request 1, runs
its four steps with a `GetSessions` handled between two of them. -/
def sampleSteps : List Event :=
  [.advance 1 Outcome.failing,
   .getSessions,
   .advance 1 { Outcome.failing with exec := .ok (.run "out") },
   .advance 1 { Outcome.failing with spawn := .ok ⟨100⟩, childId := "c0" },
   .advance 1 Outcome.failing]

/-- The whole sample run: `s1` created and provisioned, then `sampleUpdate` and its
pipeline. -/
def sampleRun : List Event := sampleSetup ++ .sessionUpdate sampleUpdate :: sampleSteps

end GolemUnlimited.Provider

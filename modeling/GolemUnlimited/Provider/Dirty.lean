import GolemUnlimited.Provider.Lifecycle

/-!
# The `dirty` flag is never read

`SessionInfo::dirty` is documented as "used to determine proper status when last
child is finished", and `insert_process` and a completed `Exec` set it, but no
code reads it: `scan_for_processes` and the `Stop` continuation decide on
`CONFIGURED` from the process table alone, and `convert` does not report it.
Clearing every flag is an erasure that commutes with each operation of the
manager, step by step and then over whole runs: two worlds that differ only in
their sessions' flags give the same labels on every run, and again differ only
in those flags.
-/

namespace GolemUnlimited.Provider

/-- A session with its `dirty` flag cleared. -/
def SessionInfo.forgetDirty (s : SessionInfo) : SessionInfo := { s with dirty := false }

/-- The manager with every session's `dirty` flag cleared. -/
def HdMan.forgetDirty (hd : HdMan) : HdMan :=
  { hd with deploys := mapDeploys SessionInfo.forgetDirty hd.deploys }

namespace SessionInfo

/-- Clearing the flag of a session record clears it in the record. -/
@[simp] theorem forgetDirty_mk (ws : Workspace) (status : PeerSessionStatus) (dirty : Bool)
    (note : Option String) (processes : Processes) :
    (SessionInfo.mk ws status dirty note processes).forgetDirty = ⟨ws, status, false, note, processes⟩ :=
  rfl

/-- Clearing the flag keeps the workspace. -/
@[simp] theorem forgetDirty_workspace (s : SessionInfo) : s.forgetDirty.workspace = s.workspace := rfl

/-- Clearing the flag keeps the status. -/
@[simp] theorem forgetDirty_status (s : SessionInfo) : s.forgetDirty.status = s.status := rfl

/-- Clearing the flag keeps the note. -/
@[simp] theorem forgetDirty_note (s : SessionInfo) : s.forgetDirty.note = s.note := rfl

/-- Clearing the flag clears it. -/
@[simp] theorem forgetDirty_dirty (s : SessionInfo) : s.forgetDirty.dirty = false := rfl

/-- Clearing the flag keeps the process table. -/
@[simp] theorem forgetDirty_processes (s : SessionInfo) : s.forgetDirty.processes = s.processes := rfl

/-- `insert_process` sets the flag whatever it was. -/
@[simp] theorem insertProcess_forgetDirty (s : SessionInfo) (id : String) (c : Child) :
    s.forgetDirty.insertProcess id c = s.insertProcess id c := rfl

/-- Clearing the flag twice clears it once. -/
@[simp] theorem forgetDirty_forgetDirty (s : SessionInfo) : s.forgetDirty.forgetDirty = s.forgetDirty :=
  rfl

end SessionInfo

/-- Changing every session in place twice is changing it by the composite. -/
theorem mapDeploys_mapDeploys (f g : SessionInfo → SessionInfo) (d : Deploys) :
    mapDeploys f (mapDeploys g d) = mapDeploys (f ∘ g) d :=
  AList.ext (by simp [mapDeploys])

/-- Erasing a key commutes with changing every value in place. -/
theorem kerase_map_values (f : SessionInfo → SessionInfo) (id : String)
    (l : List (Σ _ : String, SessionInfo)) :
    (l.kerase id).map (fun e => (⟨e.1, f e.2⟩ : Σ _ : String, SessionInfo)) =
      (l.map fun e => (⟨e.1, f e.2⟩ : Σ _ : String, SessionInfo)).kerase id := by
  simp only [List.kerase, List.eraseP_map]
  rfl

/-- Changing every session in place commutes with registering one. -/
theorem mapDeploys_insert (f : SessionInfo → SessionInfo) (d : Deploys) (id : String)
    (s : SessionInfo) : mapDeploys f (d.insert id s) = (mapDeploys f d).insert id (f s) :=
  AList.ext (by simp [mapDeploys, kerase_map_values])

/-- Changing every session in place commutes with unregistering one. -/
theorem mapDeploys_erase (f : SessionInfo → SessionInfo) (d : Deploys) (id : String) :
    mapDeploys f (d.erase id) = (mapDeploys f d).erase id :=
  AList.ext (kerase_map_values f id d.entries)

namespace HdMan

/-- A registry update by `insert` is a write-back. -/
@[simp] theorem insert_eq_setSession (hd : HdMan) (id : String) (s : SessionInfo) :
    ({ hd with deploys := hd.deploys.insert id s } : HdMan) = hd.setSession id s := rfl

/-- The chain of a request reads no flag. -/
@[simp] theorem chain_forgetDirty (hd : HdMan) (sessionId : String) (commands : List Command) :
    hd.forgetDirty.chain sessionId commands = hd.chain sessionId commands := rfl

/-- The session a `CreateSession` registers reads no flag. -/
@[simp] theorem newSession_forgetDirty (hd : HdMan) (msg : CreateSession) (sessionId : String) :
    hd.forgetDirty.newSession msg sessionId = hd.newSession msg sessionId := rfl

/-- Clearing the flags clears them in the session under each id. -/
@[simp] theorem lookup_forgetDirty (hd : HdMan) (id : String) :
    hd.forgetDirty.deploys.lookup id = (hd.deploys.lookup id).map SessionInfo.forgetDirty :=
  lookup_mapDeploys _ _ _

/-- Clearing the flags registers and unregisters nothing. -/
@[simp] theorem mem_forgetDirty (hd : HdMan) (id : String) :
    id ∈ hd.forgetDirty.deploys ↔ id ∈ hd.deploys := by
  rw [← AList.lookup_isSome, ← AList.lookup_isSome]
  simp

/-- Clearing the flags twice clears them once. -/
@[simp] theorem forgetDirty_forgetDirty (hd : HdMan) : hd.forgetDirty.forgetDirty = hd.forgetDirty := by
  simp only [forgetDirty, mapDeploys_mapDeploys]
  rfl

/-- Clearing the flags commutes with writing back a session. -/
@[simp] theorem forgetDirty_setSession (hd : HdMan) (id : String) (s : SessionInfo) :
    (hd.setSession id s).forgetDirty = hd.forgetDirty.setSession id s.forgetDirty := by
  simp only [forgetDirty, setSession, mapDeploys_insert]

/-- Clearing the flags commutes with unregistering a session. -/
theorem forgetDirty_erase (hd : HdMan) (id : String) :
    ({ hd with deploys := hd.deploys.erase id } : HdMan).forgetDirty =
      { hd.forgetDirty with deploys := hd.forgetDirty.deploys.erase id } := by
  simp only [forgetDirty, mapDeploys_erase]

/-- `get_session_mut` finds the session with its flag cleared. -/
@[simp] theorem getSessionMut_forgetDirty (hd : HdMan) (id : String) :
    hd.forgetDirty.getSessionMut id = (hd.getSessionMut id).map SessionInfo.forgetDirty := by
  unfold getSessionMut
  cases h : hd.deploys.lookup id <;> simp [h, Except.map]

/-- The flag plays no part in `generate_new_id`'s contract. -/
@[simp] theorem freshChildId_forgetDirty (hd : HdMan) (sessionId childId : String) :
    hd.forgetDirty.freshChildId sessionId childId = hd.freshChildId sessionId childId := by
  unfold freshChildId
  cases h : hd.deploys.lookup sessionId <;> simp [h]

/-- `GetSessions` does not report the flag. -/
@[simp] theorem deploysInfo_forgetDirty (hd : HdMan) : hd.forgetDirty.deploysInfo = hd.deploysInfo := by
  simp [deploysInfo, forgetDirty, mapDeploys, SessionInfo.convert, SessionInfo.forgetDirty]

/-- A destroy kills the same children and clears the flags of what it leaves. -/
@[simp] theorem destroyDeploy_forgetDirty (hd : HdMan) (id : String) (clearDir : Except Error Unit) :
    hd.forgetDirty.destroyDeploy id clearDir =
      ((hd.destroyDeploy id clearDir).1, (hd.destroyDeploy id clearDir).2.map forgetDirty) := by
  unfold destroyDeploy
  cases h : hd.deploys.lookup id <;> cases clearDir <;>
    simp [h, SessionInfo.destroy, Except.map, forgetDirty_erase]

/-- Marking a session `CREATED` writes its status alone, so it commutes with
clearing the flags. -/
@[simp] theorem setCreated_forgetDirty (hd : HdMan) (sessionId : String) :
    hd.forgetDirty.setCreated sessionId = (hd.setCreated sessionId).map forgetDirty := by
  unfold setCreated
  rw [getSessionMut_forgetDirty]
  cases hd.getSessionMut sessionId <;> simp [Except.map, bind, Except.bind, pure, Except.pure]

/-- A rollback kills the same children, replies the same, and clears the flags of
what it leaves. -/
@[simp] theorem rollback_forgetDirty (hd : HdMan) (id : String) (clearDir : Except Error Unit)
    (e : Error) :
    hd.forgetDirty.rollback id clearDir e =
      ((hd.rollback id clearDir e).1.forgetDirty, (hd.rollback id clearDir e).2) := by
  unfold rollback
  rw [destroyDeploy_forgetDirty]
  rcases hd.destroyDeploy id clearDir with ⟨killed, _ | hd'⟩ <;> rfl

/-- The provisioning continuation kills the same children, replies the same, and
clears the flags of what it leaves: it goes through `setCreated` or `rollback`. -/
theorem provisioned_forgetDirty (hd : HdMan) (id : String) (result clearDir : Except Error Unit) :
    hd.forgetDirty.provisioned id result clearDir =
      ((hd.provisioned id result clearDir).1.forgetDirty, (hd.provisioned id result clearDir).2) := by
  cases result with
  | error e => exact rollback_forgetDirty hd id clearDir e
  | ok =>
    simp only [provisioned, bind, Except.bind, setCreated_forgetDirty]
    cases hd.setCreated id with
    | ok hd' => rfl
    | error e => exact rollback_forgetDirty hd id clearDir e

/-- A scan reaps the same children whatever the flags. -/
@[simp] theorem forgetDirty_scanForProcesses (hd : HdMan) (poll : Child → TryWait) :
    (hd.forgetDirty.scanForProcesses poll).forgetDirty = (hd.scanForProcesses poll).forgetDirty := by
  simp only [scanForProcesses, forgetDirty, mapDeploys_mapDeploys]
  rfl

end HdMan

/-- The reaper's labels do not depend on the flags. -/
@[simp] theorem reapedChildren_forgetDirty (hd : HdMan) (poll : Child → TryWait) :
    World.reapedChildren hd.forgetDirty poll = World.reapedChildren hd poll := by
  simp [World.reapedChildren, HdMan.forgetDirty, mapDeploys, List.flatMap_map]

namespace Pipeline

/-- A pipeline step's result with the flags of its state cleared. -/
def forgetDirtyResult (r : HdMan × Progress × List Effect) : HdMan × Progress × List Effect :=
  (r.1.forgetDirty, r.2)

/-- The synchronous part of a link reads no flag: the links that wait and an
upload's request leave the manager alone; a `Start` reads the session through
`freshChildId` and `insert_child`, and `insert_process` sets the flag whatever it
was; a `Stop` and the tag commands read the process table and the workspace
through `get_session_mut` and write them back. -/
theorem begin_forgetDirty (p : Pipeline) (hd : HdMan) (rest : List Link) (o : Outcome) (l : Link) :
    (p.begin hd.forgetDirty rest o l).map forgetDirtyResult =
      (p.begin hd rest o l).map forgetDirtyResult := by
  cases l with
  | exec | downloadFile => simp [begin, forgetDirtyResult]
  | uploadFile => simp only [begin]; split <;> simp [forgetDirtyResult]
  | start =>
    simp only [begin, HdMan.freshChildId_forgetDirty, HdMan.insertChild,
      HdMan.getSessionMut_forgetDirty]
    split
    · simp [forgetDirtyResult]
    · split
      · cases hd.getSessionMut p.sessionId <;>
          simp [forgetDirtyResult, Except.map, bind, Except.bind, pure, Except.pure]
      · rfl
  | stop childId =>
    simp only [begin, HdMan.getSessionMut_forgetDirty]
    cases hd.getSessionMut p.sessionId with
    | error e => simp [forgetDirtyResult, Except.map]
    | ok s =>
      simp only [Except.map, SessionInfo.forgetDirty_processes]
      cases s.processes.lookup childId <;> simp [forgetDirtyResult]
  | addTags | delTags =>
    simp only [begin, HdMan.getSessionMut_forgetDirty]
    cases hd.getSessionMut p.sessionId <;> simp [forgetDirtyResult, Except.map]

/-- A continuation reads no flag: a transfer leaves the manager alone; an `Exec`
sets the flag it would clear; a kill decides on `CONFIGURED` from the process
table alone. -/
theorem resume_forgetDirty (p : Pipeline) (hd : HdMan) (o : Outcome) (a : Await) :
    forgetDirtyResult (p.resume hd.forgetDirty o a) = forgetDirtyResult (p.resume hd o a) := by
  cases a with
  | download | upload => simp only [resume]; (repeat' split) <;> simp [forgetDirtyResult]
  | exec =>
    simp only [resume, HdMan.getSessionMut_forgetDirty]
    split
    · simp [forgetDirtyResult]
    · cases hd.getSessionMut p.sessionId <;> simp [forgetDirtyResult, Except.map]
  | kill =>
    simp only [resume, HdMan.getSessionMut_forgetDirty]
    split
    · simp [forgetDirtyResult]
    · cases hd.getSessionMut p.sessionId with
      | error e => simp [forgetDirtyResult, Except.map]
      | ok s =>
        by_cases hempty : s.processes.entries = [] <;> simp [forgetDirtyResult, Except.map, hempty]
    · simp [forgetDirtyResult]

/-- A pipeline step reads no flag. -/
theorem advance_forgetDirty (p : Pipeline) (hd : HdMan) (o : Outcome) :
    (p.advance hd.forgetDirty o).map forgetDirtyResult = (p.advance hd o).map forgetDirtyResult := by
  unfold advance
  split
  · simp [resume_forgetDirty]
  · simp [forgetDirtyResult]
  · exact begin_forgetDirty ..

end Pipeline

namespace World

/-- The world with every session's `dirty` flag cleared. -/
def forgetDirty (w : World) : World := { w with hd := w.hd.forgetDirty }

/-- An event's result with the flags of its world cleared. -/
def forgetDirtyResult (r : World × List Label) : World × List Label := (r.1.forgetDirty, r.2)

/-- Clearing the flags of a world record clears those of its manager. -/
@[simp] theorem forgetDirty_mk (hd : HdMan) (tasks : AList (fun _ : Nat => Task)) (n : Nat) :
    (World.mk hd tasks n).forgetDirty = ⟨hd.forgetDirty, tasks, n⟩ := rfl

/-- An event is enabled, observed and performed alike once the flags are
cleared, up to the flags it leaves. -/
theorem step_forgetDirty (w : World) (e : Event) :
    (w.forgetDirty.step e).map forgetDirtyResult = (w.step e).map forgetDirtyResult := by
  cases e with
  | advance request o =>
    simp only [step, forgetDirty]
    split
    · next p htask =>
      have h := Pipeline.advance_forgetDirty p w.hd o
      rcases h₁ : p.advance w.hd o with _ | ⟨hd₁, r, es⟩ <;>
        rcases h₂ : p.advance w.hd.forgetDirty o with _ | ⟨hd₂, r₂, es₂⟩ <;>
        simp only [h₁, h₂, Option.map_some', Option.map_none', Pipeline.forgetDirtyResult,
          Option.some.injEq, Prod.mk.injEq, reduceCtorEq] at h ⊢
      obtain ⟨hhd, rfl, rfl⟩ := h
      cases r₂ <;> simp [forgetDirtyResult, hhd]
    · rfl
  | scan poll => simp [step, forgetDirty, forgetDirtyResult]
  | destroySession id clearDir =>
    cases h : (w.hd.destroyDeploy id clearDir).2 <;>
      simp [step, forgetDirty, forgetDirtyResult, h, Except.map]
  | createSession msg sessionId createDirs =>
    simp only [step, forgetDirty, HdMan.mem_forgetDirty]
    split
    · rfl
    · cases createDirs <;> simp [forgetDirtyResult]
  | provisioned request result clearDir =>
    simp only [step, forgetDirty]
    split <;> simp [forgetDirtyResult, HdMan.provisioned_forgetDirty]
  | sessionUpdate msg =>
    simp only [step, forgetDirty, HdMan.mem_forgetDirty]
    split <;> simp [forgetDirtyResult]
  | getSessions => simp [step, forgetDirty, forgetDirtyResult]

/-- Two worlds that differ only in their sessions' flags step alike. -/
theorem step_congr_forgetDirty {w₁ w₂ : World} (h : w₁.forgetDirty = w₂.forgetDirty) (e : Event) :
    (w₁.step e).map forgetDirtyResult = (w₂.step e).map forgetDirtyResult := by
  rw [← step_forgetDirty w₁, h, step_forgetDirty]

/-- The `dirty` flag is never read: two worlds that differ only in their
sessions' flags allow the same runs, observe the same labels on each, and end
differing only in those flags. -/
theorem run_forgetDirty {w₁ w₂ : World} (h : w₁.forgetDirty = w₂.forgetDirty) (es : List Event) :
    (w₁.run es).map forgetDirtyResult = (w₂.run es).map forgetDirtyResult := by
  induction es generalizing w₁ w₂ with
  | nil => simp [run, forgetDirtyResult, h]
  | cons e es ih =>
    have hstep := step_congr_forgetDirty h e
    simp only [run]
    rcases h₁ : w₁.step e with _ | ⟨v₁, l₁⟩ <;> rcases h₂ : w₂.step e with _ | ⟨v₂, l₂⟩ <;>
      simp only [h₁, h₂, Option.map_some', Option.map_none', forgetDirtyResult, Option.some.injEq,
        Prod.mk.injEq, reduceCtorEq] at hstep ⊢
    obtain ⟨hv, rfl⟩ := hstep
    have hrun := ih hv
    rcases hr₁ : v₁.run es with _ | ⟨u₁, m₁⟩ <;> rcases hr₂ : v₂.run es with _ | ⟨u₂, m₂⟩ <;>
      simp_all [forgetDirtyResult]

end World

/-- `s1` after its child has exited: `CONFIGURED`, and dirty. -/
def sampleDirtySession : SessionInfo :=
  ⟨Workspace.new "worker" (.ofString "/srv/gu/sessions/s1"), .configured, true, none, ∅⟩

/-- A manager holding `sampleDirtySession` and one holding it with the flag
cleared allow the same `Start`, `GetSessions` and destroy, with the same
labels. -/
theorem run_forgetDirty_sample :
    (World.mk ⟨(∅ : Deploys).insert "s1" sampleDirtySession, sampleRoot, sampleRoot⟩ ∅ 0).forgetDirty =
      (World.mk ⟨(∅ : Deploys).insert "s1" sampleDirtySession.forgetDirty, sampleRoot, sampleRoot⟩ ∅ 0).forgetDirty ∧
    ((World.mk ⟨(∅ : Deploys).insert "s1" sampleDirtySession, sampleRoot, sampleRoot⟩ ∅ 0).run
        [.sessionUpdate ⟨"s1", [.start "bin/worker" []]⟩, .getSessions, .destroySession "s1" (.ok ())]).map
        World.forgetDirtyResult =
      ((World.mk ⟨(∅ : Deploys).insert "s1" sampleDirtySession.forgetDirty, sampleRoot, sampleRoot⟩ ∅ 0).run
        [.sessionUpdate ⟨"s1", [.start "bin/worker" []]⟩, .getSessions, .destroySession "s1" (.ok ())]).map
        World.forgetDirtyResult :=
  ⟨rfl, World.run_forgetDirty rfl _⟩

end GolemUnlimited.Provider

import GolemUnlimited.Provider.Session

/-!
# The host-direct manager's registry

`HdMan` owns the registry of sessions (`DeployManager<SessionInfo>`) and two base
directories. This file models the registry operations the handlers call, the
path helpers, and `get_session_mut` and `insert_child`. A session obtained from
`get_session_mut` and changed is written back with `setSession`; the registry's
order is unspecified, as a `HashMap`'s is.
-/

namespace GolemUnlimited.Provider

/-- Modelled from the spec: `deployment::DeployManager` is not in the sources; the
spec's registry is a finite map from session id to session. -/
abbrev Deploys := AList (fun _ : String => SessionInfo)

/-- `HdMan`, the state of the host-direct manager actor. -/
structure HdMan where
  /-- The registry of live sessions. -/
  deploys : Deploys
  /-- `cache_dir/images`, where downloaded images are kept. -/
  cacheDir : PathBuf
  /-- `work_dir/sessions`, the parent of every session directory. -/
  sessionsDir : PathBuf

namespace HdMan

/-- `HdMan::start`: an empty registry and the two directories under the
configured cache and work directories. -/
def start (cacheDir workDir : PathBuf) : HdMan :=
  ⟨∅, cacheDir.join (.ofString "images"), workDir.join (.ofString "sessions")⟩

/-- `HdMan::get_session_path`. -/
def getSessionPath (hd : HdMan) (sessionId : String) : PathBuf :=
  hd.sessionsDir.join (.ofString sessionId)

/-- `HdMan::get_cache_path`. -/
def getCachePath (hd : HdMan) (fileName : String) : PathBuf :=
  hd.cacheDir.join (.ofString fileName)

/-- `str::trim_left_matches('/')`: the string without its leading slashes. -/
def trimLeftMatches (s : String) : String := ⟨s.data.dropWhile (· == '/')⟩

/-- `HdMan::get_session_exec_path`. -/
def getSessionExecPath (hd : HdMan) (sessionId executable : String) : String :=
  ((hd.getSessionPath sessionId).join (.ofString (trimLeftMatches executable))).toString

/-- `HdMan::get_session_mut`: the registered session, or `NoSuchSession`. -/
def getSessionMut (hd : HdMan) (sessionId : String) : Except Error SessionInfo :=
  match hd.deploys.lookup sessionId with
  | some s => .ok s
  | none => .error (.noSuchSession sessionId)

/-- Writes back a session obtained from `get_session_mut`. -/
def setSession (hd : HdMan) (sessionId : String) (s : SessionInfo) : HdMan :=
  { hd with deploys := hd.deploys.insert sessionId s }

/-- `HdMan::insert_child`: the child goes into the session's table under `childId`,
the id `generate_new_id` chose, and that id is returned. -/
def insertChild (hd : HdMan) (sessionId childId : String) (child : Child) :
    Except Error (HdMan × String) := do
  let s ← hd.getSessionMut sessionId
  pure (hd.setSession sessionId (s.insertProcess childId child), childId)

/-- Modelled from the spec: `DeployManager::destroy_deploy` runs the session's
`destroy` and unregisters it only when that succeeds; an unregistered id is
`NoSuchSession`. The first component lists the children handed to a kill. -/
def destroyDeploy (hd : HdMan) (sessionId : String) (clearDir : Except Error Unit) :
    List Child × Except Error HdMan :=
  match hd.deploys.lookup sessionId with
  | none => ([], .error (.noSuchSession sessionId))
  | some s =>
    ((s.destroy clearDir).1,
      (s.destroy clearDir).2.map fun _ => { hd with deploys := hd.deploys.erase sessionId })

/-- Modelled from the spec: `DeployManager::deploys_info`, every session's report. -/
def deploysInfo (hd : HdMan) : List PeerSessionInfo :=
  hd.deploys.entries.map fun e => e.2.convert e.1

/-- `get_session_mut` finds exactly the registered session. -/
@[simp] theorem getSessionMut_eq_ok {hd : HdMan} {sessionId : String} {s : SessionInfo} :
    hd.getSessionMut sessionId = .ok s ↔ hd.deploys.lookup sessionId = some s := by
  unfold getSessionMut
  split <;> simp_all

/-- `get_session_mut` fails with `NoSuchSession` exactly on an unregistered id. -/
@[simp] theorem getSessionMut_eq_error {hd : HdMan} {sessionId : String} {e : Error} :
    hd.getSessionMut sessionId = .error e ↔
      hd.deploys.lookup sessionId = none ∧ e = .noSuchSession sessionId := by
  unfold getSessionMut
  cases h : hd.deploys.lookup sessionId <;> simp [eq_comm]

/-- Writing back a session keeps the cache directory. -/
@[simp] theorem setSession_cacheDir (hd : HdMan) (id : String) (s : SessionInfo) :
    (hd.setSession id s).cacheDir = hd.cacheDir := rfl

/-- Writing back a session keeps the sessions directory. -/
@[simp] theorem setSession_sessionsDir (hd : HdMan) (id : String) (s : SessionInfo) :
    (hd.setSession id s).sessionsDir = hd.sessionsDir := rfl

/-- Writing back a session changes the registry at its id only. -/
@[simp] theorem lookup_setSession (hd : HdMan) (id id' : String) (s : SessionInfo) :
    (hd.setSession id s).deploys.lookup id' = if id' = id then some s else hd.deploys.lookup id' := by
  by_cases h : id' = id
  · subst h; simp [setSession, AList.lookup_insert]
  · simp [setSession, AList.lookup_insert_ne h, h]

/-- Writing back a session registers its id and keeps every other. -/
@[simp] theorem mem_setSession (hd : HdMan) (id id' : String) (s : SessionInfo) :
    id' ∈ (hd.setSession id s).deploys ↔ id' = id ∨ id' ∈ hd.deploys :=
  AList.mem_insert _

/-- `insert_child` succeeds exactly on a registered session, and then tracks the
child under the chosen id and makes the session `RUNNING`. -/
theorem insertChild_eq_ok {hd hd' : HdMan} {sessionId childId id : String} {child : Child} :
    hd.insertChild sessionId childId child = .ok (hd', id) ↔
      id = childId ∧ ∃ s, hd.deploys.lookup sessionId = some s ∧
        hd' = hd.setSession sessionId (s.insertProcess childId child) := by
  unfold insertChild
  cases h : hd.getSessionMut sessionId with
  | error e => simp_all [bind, Except.bind]
  | ok s =>
    simp only [getSessionMut_eq_ok] at h
    simp [bind, Except.bind, pure, Except.pure, h, eq_comm, and_comm]

/-- `insert_child` fails only on a session that is not registered, with
`NoSuchSession`. -/
theorem insertChild_eq_error {hd : HdMan} {sessionId childId : String} {child : Child} {e : Error} :
    hd.insertChild sessionId childId child = .error e ↔
      hd.deploys.lookup sessionId = none ∧ e = .noSuchSession sessionId := by
  unfold insertChild getSessionMut
  cases hd.deploys.lookup sessionId <;> simp [bind, Except.bind, pure, Except.pure, eq_comm]

end HdMan

end GolemUnlimited.Provider

import GolemUnlimited.Provider.Actor

/-!
# What one event does to a session

An event changes each registered session in one of a few ways: a child inserted
under a fresh id, a child removed, the `dirty` flag set, the status set by the
provisioning continuation or by a completed `Stop`, the workspace's tags changed,
or one scan of the reaper. `World.step_session` says so once, with the sessions a
`CreateSession` adds; invariants of single sessions are then case analyses over
`SessionStep`.
-/

namespace GolemUnlimited.Provider

/-- The ways one event changes a registered session. -/
inductive SessionStep : SessionInfo → SessionInfo → Prop
  /-- `Start`: `insert_process` under an id not in use. -/
  | insertProcess {s : SessionInfo} {id : String} (c : Child) (hfresh : id ∉ s.processes) :
      SessionStep s (s.insertProcess id c)
  /-- `Stop`: the child taken out of the table before its kill. -/
  | eraseChild (s : SessionInfo) (id : String) :
      SessionStep s { s with processes := s.processes.erase id }
  /-- A completed `Exec`. -/
  | markDirty (s : SessionInfo) : SessionStep s { s with dirty := true }
  /-- The provisioning continuation of `CreateSession`. -/
  | setCreated (s : SessionInfo) : SessionStep s { s with status := .created }
  /-- A completed `Stop`: `CONFIGURED` if no child is left. -/
  | stopped (s : SessionInfo) :
      SessionStep s (if s.processes.entries.isEmpty then { s with status := .configured } else s)
  /-- `AddTags` and `DelTags`. -/
  | setWorkspace (s : SessionInfo) (ws : Workspace) : SessionStep s { s with workspace := ws }
  /-- One scan of the reaper. -/
  | reap (s : SessionInfo) (poll : Child → TryWait) : SessionStep s (s.reap poll)

/-- Every session of `hd'` is a session of `hd`, unchanged or changed by one step. -/
def HdMan.Evolves (hd hd' : HdMan) : Prop :=
  ∀ id s', hd'.deploys.lookup id = some s' →
    ∃ s, hd.deploys.lookup id = some s ∧ (s' = s ∨ SessionStep s s')

namespace HdMan.Evolves

/-- A registry evolves to itself. -/
theorem refl (hd : HdMan) : hd.Evolves hd := fun _ s' h => ⟨s', h, .inl rfl⟩

/-- Writing back a session changed by a session step evolves the registry. -/
theorem setSession {hd : HdMan} {id : String} {s s' : SessionInfo}
    (hs : hd.deploys.lookup id = some s) (hstep : SessionStep s s') :
    hd.Evolves (hd.setSession id s') := by
  intro id' t ht
  rw [HdMan.lookup_setSession] at ht
  split at ht
  · subst id'
    exact ⟨s, hs, .inr (Option.some.inj ht ▸ hstep)⟩
  · exact ⟨t, ht, .inl rfl⟩

/-- Unregistering a session evolves the registry. -/
theorem erase (hd : HdMan) (id : String) :
    hd.Evolves { hd with deploys := hd.deploys.erase id } := by
  intro id' t ht
  by_cases h : id' = id
  · subst h; simp [AList.lookup_erase] at ht
  · exact ⟨t, by simpa [AList.lookup_erase_ne h] using ht, .inl rfl⟩

/-- A scan evolves the registry, each session by one reap. -/
theorem scanForProcesses (hd : HdMan) (poll : Child → TryWait) :
    hd.Evolves (hd.scanForProcesses poll) := by
  intro id t ht
  simp only [HdMan.scanForProcesses, lookup_mapDeploys, Option.map_eq_some'] at ht
  obtain ⟨s, hs, rfl⟩ := ht
  exact ⟨s, hs, .inr (.reap s poll)⟩

/-- An evolved registry registers no new id. -/
theorem mem {hd hd' : HdMan} (hev : hd.Evolves hd') {id : String} (hid : id ∈ hd'.deploys) :
    id ∈ hd.deploys := by
  obtain ⟨s', hs'⟩ := Option.isSome_iff_exists.mp (AList.lookup_isSome.mpr hid)
  obtain ⟨s, hs, -⟩ := hev id s' hs'
  exact AList.lookup_isSome.mp (by simp [hs])

end HdMan.Evolves

namespace HdMan

/-- A `destroy_deploy` that succeeds unregisters the session and nothing else. -/
theorem destroyDeploy_eq_ok {hd hd' : HdMan} {id : String} {clearDir : Except Error Unit}
    (h : (hd.destroyDeploy id clearDir).2 = .ok hd') :
    hd' = { hd with deploys := hd.deploys.erase id } := by
  unfold destroyDeploy at h
  split at h
  · cases h
  · cases clearDir <;> simp_all [SessionInfo.destroy, Except.map]

/-- The provisioning continuation succeeds exactly on a registered session,
which becomes `CREATED`. -/
@[simp] theorem setCreated_eq_ok {hd hd' : HdMan} {id : String} :
    hd.setCreated id = .ok hd' ↔
      ∃ s, hd.deploys.lookup id = some s ∧ hd' = hd.setSession id { s with status := .created } := by
  unfold setCreated
  cases h : hd.deploys.lookup id with
  | none => simp [bind, Except.bind, getSessionMut, h]
  | some s => simp [bind, Except.bind, getSessionMut, h, pure, Except.pure, eq_comm]

/-- A rollback whose destroy succeeds replies with the provisioning error. -/
theorem rollback_of_ok {hd hd' : HdMan} {id : String} {clearDir : Except Error Unit} {e : Error}
    (h : (hd.destroyDeploy id clearDir).2 = .ok hd') :
    hd.rollback id clearDir e = (hd', (hd.destroyDeploy id clearDir).1,
      .error (.ioError ("creating session error: " ++ e.debug))) := by
  unfold rollback
  rcases hdd : hd.destroyDeploy id clearDir with ⟨killed, r⟩
  rw [hdd] at h
  cases h
  rfl

/-- A rollback whose destroy fails keeps the registry and replies with the
destroy error. -/
theorem rollback_of_error {hd : HdMan} {id : String} {clearDir : Except Error Unit} {e e' : Error}
    (h : (hd.destroyDeploy id clearDir).2 = .error e') :
    hd.rollback id clearDir e = (hd, (hd.destroyDeploy id clearDir).1, .error e') := by
  unfold rollback
  rcases hdd : hd.destroyDeploy id clearDir with ⟨killed, r⟩
  rw [hdd] at h
  cases h
  rfl

/-- Provisioning that succeeds on a registered session makes it `CREATED` and
replies with its id. -/
theorem provisioned_of_lookup {hd : HdMan} {id : String} {s : SessionInfo}
    (clearDir : Except Error Unit) (h : hd.deploys.lookup id = some s) :
    hd.provisioned id (.ok ()) clearDir = (hd.setSession id { s with status := .created }, [], .ok id) := by
  have hc : hd.setCreated id = .ok (hd.setSession id { s with status := .created }) :=
    setCreated_eq_ok.mpr ⟨s, h, rfl⟩
  simp [provisioned, bind, Except.bind, hc]

/-- Provisioning that succeeds on a session destroyed meanwhile rolls back with
`NoSuchSession`. -/
theorem provisioned_of_lookup_eq_none {hd : HdMan} {id : String} (clearDir : Except Error Unit)
    (h : hd.deploys.lookup id = none) :
    hd.provisioned id (.ok ()) clearDir = hd.rollback id clearDir (.noSuchSession id) := by
  have hc : hd.setCreated id = .error (.noSuchSession id) := by
    simp [setCreated, bind, Except.bind, getSessionMut, h]
  simp [provisioned, bind, Except.bind, hc]

/-- Provisioning that fails rolls back with its error. -/
@[simp] theorem provisioned_of_error (hd : HdMan) (id : String) (e : Error)
    (clearDir : Except Error Unit) :
    hd.provisioned id (.error e) clearDir = hd.rollback id clearDir e := rfl

end HdMan

namespace HdMan.Evolves

/-- A rollback evolves the registry. -/
theorem rollback (hd : HdMan) (id : String) (clearDir : Except Error Unit) (e : Error) :
    hd.Evolves (hd.rollback id clearDir e).1 := by
  cases h : (hd.destroyDeploy id clearDir).2 with
  | ok hd' => rw [rollback_of_ok h, destroyDeploy_eq_ok h]; exact erase hd id
  | error e' => rw [rollback_of_error h]; exact refl hd

/-- The provisioning continuation evolves the registry. -/
theorem provisioned (hd : HdMan) (id : String) (result clearDir : Except Error Unit) :
    hd.Evolves (hd.provisioned id result clearDir).1 := by
  cases result with
  | error e => exact rollback hd id clearDir e
  | ok u =>
    cases h : hd.deploys.lookup id with
    | none => rw [provisioned_of_lookup_eq_none clearDir h]; exact rollback hd id clearDir _
    | some s => rw [provisioned_of_lookup clearDir h]; exact setSession h (.setCreated s)

end HdMan.Evolves

/-- The provisioning continuation changes no session but its own. -/
theorem HdMan.provisioned_frame (hd : HdMan) (sessionId : String) (result clearDir : Except Error Unit)
    {id : String} (hid : id ≠ sessionId) :
    (hd.provisioned sessionId result clearDir).1.deploys.lookup id = hd.deploys.lookup id := by
  have hroll : ∀ e, (hd.rollback sessionId clearDir e).1.deploys.lookup id = hd.deploys.lookup id := by
    intro e
    cases h : (hd.destroyDeploy sessionId clearDir).2 with
    | ok hd' => rw [rollback_of_ok h, destroyDeploy_eq_ok h]; exact AList.lookup_erase_ne hid
    | error e' => rw [rollback_of_error h]
  cases result with
  | error e => exact hroll e
  | ok u =>
    cases hs : hd.deploys.lookup sessionId with
    | none => rw [provisioned_of_lookup_eq_none clearDir hs]; exact hroll _
    | some s => rw [provisioned_of_lookup clearDir hs]; simp [hid]

namespace Pipeline

/-- The synchronous part of a link evolves the registry. -/
theorem begin_evolves {p : Pipeline} {hd hd' : HdMan} {rest : List Link} {o : Outcome}
    {l : Link} {r : Progress} {es : List Effect} (h : p.begin hd rest o l = some (hd', r, es)) :
    hd.Evolves hd' := by
  rcases begin_cases h with ⟨rfl, -⟩ | ⟨rfl, -⟩ | ⟨childId, s, -, -, hs, -, rfl, -⟩ |
    ⟨c, s, hs, hfresh, rfl, -⟩ | ⟨s, ws, -, hs, rfl, -⟩
  · exact .refl _
  · exact .refl _
  · exact .setSession hs (.eraseChild s childId)
  · exact .setSession hs (.insertProcess c hfresh)
  · exact .setSession hs (.setWorkspace s ws)

/-- A continuation evolves the registry. -/
theorem resume_evolves {p : Pipeline} {hd hd' : HdMan} {o : Outcome} {a : Await} {r : Progress}
    {es : List Effect} (h : p.resume hd o a = (hd', r, es)) : hd.Evolves hd' := by
  obtain ⟨-, ⟨rfl, -⟩ | ⟨-, rfl | ⟨s, hs, rfl | rfl⟩⟩⟩ := resume_cases h
  · exact .refl _
  · exact .refl _
  · exact .setSession hs (.markDirty s)
  · exact .setSession hs (.stopped s)

/-- One pipeline step evolves the registry. -/
theorem advance_evolves {p : Pipeline} {hd hd' : HdMan} {o : Outcome} {r : Progress}
    {es : List Effect} (h : p.advance hd o = some (hd', r, es)) : hd.Evolves hd' := by
  rcases advance_cases h with ⟨a, -, hres⟩ | ⟨-, -, rfl, -⟩ | ⟨l, rest, -, -, hbeg⟩
  · exact resume_evolves hres
  · exact .refl _
  · exact begin_evolves hbeg

/-- A pipeline step changes no session but its own. -/
theorem advance_frame {p : Pipeline} {hd hd' : HdMan} {o : Outcome} {r : Progress}
    {es : List Effect} (h : p.advance hd o = some (hd', r, es)) {id : String}
    (hid : id ≠ p.sessionId) : hd'.deploys.lookup id = hd.deploys.lookup id := by
  rcases advance_cases h with ⟨a, -, hres⟩ | ⟨-, -, rfl, -⟩ | ⟨l, rest, -, -, hbeg⟩
  · obtain ⟨-, ⟨rfl, -⟩ | ⟨-, rfl | ⟨_, -, rfl | rfl⟩⟩⟩ := resume_cases hres <;> simp [hid]
  · rfl
  · rcases begin_cases hbeg with ⟨rfl, -⟩ | ⟨rfl, -⟩ | ⟨_, _, _, -, -, -, rfl, -⟩ |
      ⟨_, _, -, -, rfl, -⟩ | ⟨_, _, _, -, rfl, -⟩ <;> simp [hid]

end Pipeline

namespace World

/-- Every event evolves the registry by session steps, except a `CreateSession`
that registers its new session under an unregistered id. -/
theorem step_hd {w w' : World} {e : Event} {ls : List Label} (h : w.step e = some (w', ls)) :
    w.hd.Evolves w'.hd ∨ ∃ msg id, e = .createSession msg id (.ok ()) ∧ id ∉ w.hd.deploys ∧
      w'.hd = { w.hd with deploys := w.hd.deploys.insert id (w.hd.newSession msg id) } := by
  cases e with
  | createSession msg id createDirs =>
    simp only [step] at h
    split at h
    · cases h
    · next hid =>
      split at h
      · cases h; exact .inl (.refl _)
      · cases h; exact .inr ⟨msg, id, rfl, hid, rfl⟩
  | provisioned request result clearDir =>
    simp only [step] at h
    split at h
    · cases h; exact .inl (.provisioned _ _ _ _)
    · cases h
  | sessionUpdate msg =>
    simp only [step] at h
    split at h <;> (cases h; exact .inl (.refl _))
  | advance request o =>
    simp only [step] at h
    split at h
    · split at h
      · cases h; exact .inl (Pipeline.advance_evolves ‹_›)
      · cases h; exact .inl (Pipeline.advance_evolves ‹_›)
      · cases h
    · cases h
  | scan poll => cases h; exact .inl (.scanForProcesses _ _)
  | destroySession id clearDir =>
    simp only [step] at h
    split at h
    · next hd' hok =>
      cases h
      rw [HdMan.destroyDeploy_eq_ok hok]
      exact .inl (.erase _ _)
    · cases h; exact .inl (.refl _)
  | getSessions => cases h; exact .inl (.refl _)

/-- The sessions an event may change: the one it creates or destroys, the one
whose future it completes or advances, and every session for a scan. -/
def Touches (w : World) (e : Event) (id : String) : Prop :=
  match e with
  | .createSession _ sessionId _ | .destroySession sessionId _ => id = sessionId
  | .provisioned request _ _ => w.tasks.lookup request = some (.provisioning id)
  | .advance request _ => ∃ p, w.tasks.lookup request = some (.pipeline p) ∧ p.sessionId = id
  | .scan _ => True
  | .sessionUpdate _ | .getSessions => False

/-- Every session after an event is one before it, unchanged or changed by one
session step, or a session `CreateSession` has just registered. -/
theorem step_session {w w' : World} {e : Event} {ls : List Label}
    (h : w.step e = some (w', ls)) {id : String} {s' : SessionInfo}
    (hs' : w'.hd.deploys.lookup id = some s') :
    (∃ s, w.hd.deploys.lookup id = some s ∧ (s' = s ∨ SessionStep s s')) ∨
    (w.hd.deploys.lookup id = none ∧ ∃ msg, s' = w.hd.newSession msg id) := by
  rcases step_hd h with hev | ⟨msg, id', -, hid', hw'⟩
  · exact .inl (hev id s' hs')
  · rw [hw'] at hs'
    by_cases hid : id = id'
    · subst hid
      simp only [AList.lookup_insert, Option.some.injEq] at hs'
      exact .inr ⟨AList.lookup_eq_none.mpr hid', msg, hs'.symm⟩
    · simp only [AList.lookup_insert_ne hid] at hs'
      exact .inl ⟨s', hs', .inl rfl⟩

/-- Only a `CreateSession` registers a session: an id registered after an event
was registered before it, or the event created the session under it. -/
theorem step_registers {w w' : World} {e : Event} {ls : List Label} (h : w.step e = some (w', ls))
    {id : String} (hid : id ∈ w'.hd.deploys) :
    id ∈ w.hd.deploys ∨ ∃ msg, e = .createSession msg id (.ok ()) := by
  rcases step_hd h with hev | ⟨msg, id', rfl, -, hw'⟩
  · exact .inl (hev.mem hid)
  · rw [hw'] at hid
    rcases (AList.mem_insert _).mp hid with rfl | hmem
    · exact .inr ⟨msg, rfl⟩
    · exact .inl hmem

/-- A destroyed session stays destroyed: over every run that creates no session
under its id, an unregistered id stays unregistered, whatever futures of its
session are still in flight. -/
theorem run_unregistered {w w' : World} {es : List Event} {ls : List Label}
    (h : w.run es = some (w', ls)) {id : String} (hid : id ∉ w.hd.deploys)
    (hcreate : ∀ msg, .createSession msg id (.ok ()) ∉ es) : id ∉ w'.hd.deploys := by
  induction es generalizing w ls with
  | nil => cases h; exact hid
  | cons e es ih =>
    obtain ⟨w₁, l₁, l₂, h₁, h₂, rfl⟩ := run_cons_eq_some.mp h
    have hid₁ : id ∉ w₁.hd.deploys := fun hmem =>
      (step_registers h₁ hmem).elim hid fun ⟨msg, he⟩ => hcreate msg (he ▸ List.mem_cons_self _ _)
    exact ih h₂ hid₁ fun msg hm => hcreate msg (List.mem_cons_of_mem _ hm)

end World

/-- Destroyed while its pipeline waits on an `Exec`, `s1` stays unregistered
when the continuation of the `Exec` replies and a `GetSessions` follows. -/
theorem run_unregistered_sample :
    ∃ w l w' ls, (World.init sampleRoot sampleRoot).run
        (sampleRun.take 4 ++ [.destroySession "s1" (.ok ())]) = some (w, l) ∧
      w.run [.advance 1 { Outcome.failing with exec := .ok (.run "out") }, .getSessions] =
        some (w', ls) ∧ "s1" ∉ w.hd.deploys ∧
      (∀ msg, .createSession msg "s1" (.ok ()) ∉
        [.advance 1 { Outcome.failing with exec := .ok (.run "out") }, Event.getSessions]) ∧
      "s1" ∉ w'.hd.deploys := by
  obtain ⟨⟨w, l⟩, hrun, ⟨w', ls⟩, h, hid⟩ : ∃ r, (World.init sampleRoot sampleRoot).run
      (sampleRun.take 4 ++ [.destroySession "s1" (.ok ())]) = some r ∧
      ∃ r', r.1.run [.advance 1 { Outcome.failing with exec := .ok (.run "out") }, .getSessions] =
        some r' ∧ "s1" ∉ r.1.hd.deploys :=
    ⟨_, (Option.some_get (by decide)).symm, _, (Option.some_get (by decide)).symm, by decide⟩
  have hcreate : ∀ msg, .createSession msg "s1" (.ok ()) ∉
      [.advance 1 { Outcome.failing with exec := .ok (.run "out") }, Event.getSessions] := by
    simp
  exact ⟨w, l, w', ls, hrun, h, hid, hcreate, World.run_unregistered h hid hcreate⟩

end GolemUnlimited.Provider

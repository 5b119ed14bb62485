import GolemUnlimited.Provider.HdMan

/-!
# The reaper

Every ten seconds `HdMan::scan_for_processes` polls each tracked child of each
session with `try_wait`, collects the ids of the children that have exited,
removes them, and marks a session `CONFIGURED` when something was removed and
its table is then empty. The poll outcomes are an input: one `try_wait` result
per child handle.
-/

namespace GolemUnlimited.Provider

/-- The outcome of `Child::try_wait`: an exit status once the child has exited,
`none` while it runs, an error when it cannot be polled. -/
abbrev TryWait := Except String (Option Int)

/-- The arm `Ok(Some(_exit_st))` of the reaper's match. -/
def TryWait.exited : TryWait → Bool
  | .ok (some _) => true
  | _ => false

/-- A poll reports an exit exactly when `try_wait` returned `Ok(Some(_))`. -/
theorem TryWait.exited_eq_true {t : TryWait} : t.exited = true ↔ ∃ st, t = .ok (some st) := by
  rcases t with e | _ | st <;> simp [TryWait.exited]

/-- The `finished` vector: the ids of the children whose poll reported an exit. -/
def finishedIds (poll : Child → TryWait) (processes : Processes) : List String :=
  processes.entries.filterMap fun e => if (poll e.2).exited then some e.1 else none

/-- Removing a list of ids from a table, as the reaper's inner loop does. -/
def removeAll (processes : Processes) (ids : List String) : Processes :=
  ids.foldl (fun m f => m.erase f) processes

/-- The body of `scan_for_processes` for one session. -/
def SessionInfo.reap (poll : Child → TryWait) (s : SessionInfo) : SessionInfo :=
  let finished := finishedIds poll s.processes
  let someFinished := !finished.isEmpty
  let processes := removeAll s.processes finished
  { s with
    processes := processes
    status := if someFinished && processes.entries.isEmpty then .configured else s.status }

/-- Every registered session changed in place by `f`, keys and order kept. -/
def mapDeploys (f : SessionInfo → SessionInfo) (d : Deploys) : Deploys :=
  ⟨d.entries.map fun e => ⟨e.1, f e.2⟩, by
    simpa [List.NodupKeys, List.keys, Function.comp_def] using d.nodupKeys⟩

/-- `HdMan::scan_for_processes`, the loop over `deploys.values_mut()`. -/
def HdMan.scanForProcesses (hd : HdMan) (poll : Child → TryWait) : HdMan :=
  { hd with deploys := mapDeploys (SessionInfo.reap poll) hd.deploys }

/-- Changing every session in place changes the one under each id. -/
theorem lookup_mapDeploys (f : SessionInfo → SessionInfo) (d : Deploys) (id : String) :
    (mapDeploys f d).lookup id = (d.lookup id).map f := by
  obtain ⟨entries, hnd⟩ := d
  simp only [mapDeploys, AList.lookup]
  clear hnd
  induction entries with
  | nil => rfl
  | cons e es ih =>
    obtain ⟨k, v⟩ := e
    by_cases h : id = k
    · subst h; simp [List.dlookup_cons_eq]
    · simp [List.dlookup_cons_ne, h, ih]

/-- Removing a list of ids removes exactly them. -/
theorem lookup_removeAll (processes : Processes) (ids : List String) (id : String) :
    (removeAll processes ids).lookup id = if id ∈ ids then none else processes.lookup id := by
  induction ids generalizing processes with
  | nil => simp [removeAll]
  | cons f fs ih =>
    simp only [removeAll, List.foldl_cons] at ih ⊢
    rw [ih]
    by_cases hf : id = f
    · subst hf; simp [AList.lookup_erase]
    · simp [AList.lookup_erase_ne hf, hf]

/-- An id is finished exactly when its child's poll reports an exit. -/
theorem mem_finishedIds {poll : Child → TryWait} {processes : Processes} {id : String} :
    id ∈ finishedIds poll processes ↔
      ∃ c, processes.lookup id = some c ∧ (poll c).exited = true := by
  simp only [finishedIds, List.mem_filterMap, Option.ite_none_right_eq_some, Option.some.injEq]
  constructor
  · rintro ⟨⟨k, c⟩, hmem, hexit, rfl⟩
    exact ⟨c, AList.mem_lookup_iff.mpr hmem, hexit⟩
  · rintro ⟨c, hc, hexit⟩
    exact ⟨⟨id, c⟩, AList.mem_lookup_iff.mp hc, hexit, rfl⟩

/-- A child stays tracked by the reaper exactly when its poll did not report an exit. -/
theorem lookup_reap (poll : Child → TryWait) (s : SessionInfo) (id : String) :
    (s.reap poll).processes.lookup id = (s.processes.lookup id).filter fun c => !(poll c).exited := by
  simp only [SessionInfo.reap, lookup_removeAll, mem_finishedIds]
  cases h : s.processes.lookup id with
  | none => simp
  | some c => cases hc : (poll c).exited <;> simp [hc, Option.filter_some]

/-- Some child finished exactly when the poll of some tracked child reports an
exit. -/
theorem finishedIds_ne_nil {poll : Child → TryWait} {processes : Processes} :
    finishedIds poll processes ≠ [] ↔
      ∃ id c, processes.lookup id = some c ∧ (poll c).exited = true := by
  rw [Ne, List.eq_nil_iff_forall_not_mem]
  simp only [mem_finishedIds, not_forall, not_not]

/-- The reaper's status rule: `CONFIGURED` when a child was removed and none is
left, the old status otherwise. -/
theorem status_reap (poll : Child → TryWait) (s : SessionInfo) :
    (s.reap poll).status =
      if finishedIds poll s.processes ≠ [] ∧ (s.reap poll).processes.entries = [] then .configured
      else s.status := by
  simp only [SessionInfo.reap, Bool.and_eq_true, Bool.not_eq_true', List.isEmpty_eq_false,
    List.isEmpty_iff]

/-- A scan reaps each registered session in place. -/
@[simp] theorem lookup_scanForProcesses (hd : HdMan) (poll : Child → TryWait) (id : String) :
    (hd.scanForProcesses poll).deploys.lookup id = (hd.deploys.lookup id).map (SessionInfo.reap poll) :=
  lookup_mapDeploys _ _ _

/-- A scan registers and unregisters nothing. -/
theorem mem_scanForProcesses (hd : HdMan) (poll : Child → TryWait) (id : String) :
    id ∈ (hd.scanForProcesses poll).deploys ↔ id ∈ hd.deploys := by
  rw [← AList.lookup_isSome, ← AList.lookup_isSome]
  simp

/-- `scan_for_processes` removes from each session exactly the children whose
`try_wait` returned `Ok(Some(_))`, marks the session `CONFIGURED` exactly when one
was removed and none is left, and changes nothing else: no other field of a
session and no registration. -/
theorem scanForProcesses_spec (hd : HdMan) (poll : Child → TryWait) :
    (∀ id, id ∈ (hd.scanForProcesses poll).deploys ↔ id ∈ hd.deploys) ∧
    ∀ id s, hd.deploys.lookup id = some s →
      ∃ s', (hd.scanForProcesses poll).deploys.lookup id = some s' ∧
        (∀ cid c, s'.processes.lookup cid = some c ↔
          s.processes.lookup cid = some c ∧ ¬ ∃ st, poll c = .ok (some st)) ∧
        ((∃ cid c, s.processes.lookup cid = some c ∧ ∃ st, poll c = .ok (some st)) ∧
          s'.processes.entries = [] → s'.status = .configured) ∧
        (¬((∃ cid c, s.processes.lookup cid = some c ∧ ∃ st, poll c = .ok (some st)) ∧
          s'.processes.entries = []) → s'.status = s.status) ∧
        s'.workspace = s.workspace ∧ s'.dirty = s.dirty ∧ s'.note = s.note := by
  simp only [← TryWait.exited_eq_true]
  refine ⟨mem_scanForProcesses hd poll, fun id s hs => ⟨s.reap poll, by simp [hs], fun cid c => ?_,
    fun h => ?_, fun h => ?_, rfl, rfl, rfl⟩⟩
  · simp [lookup_reap, Option.filter_eq_some]
  · rw [status_reap, if_pos ⟨finishedIds_ne_nil.mpr h.1, h.2⟩]
  · rw [status_reap, if_neg fun h' => h ⟨finishedIds_ne_nil.mp h'.1, h'.2⟩]

end GolemUnlimited.Provider

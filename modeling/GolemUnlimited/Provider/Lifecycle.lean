import GolemUnlimited.Provider.Transitions

/-!
# The lifecycle of a session's status

A session is registered `PENDING`, becomes `CREATED` when its image is unpacked,
`RUNNING` with a child and `CONFIGURED` when its last child is stopped or reaped.
Over every run, a status other than `PENDING` never returns to `PENDING`, and a
session with children is `RUNNING` or `CREATED`. The spec's stronger invariant,
`RUNNING` exactly when the table is non-empty, and its rule that a session never
goes back to `CREATED` both fail: a `Start` accepted during provisioning is
overwritten by `CREATED`, and a `Stop` whose kill fails has already taken the
child out of the table.
-/

namespace GolemUnlimited.Provider

/-- An empty table finds no id. -/
theorem lookup_of_entries_eq_nil {p : Processes} (h : p.entries = []) (id : String) :
    p.lookup id = none := by
  simp [AList.lookup, h]

/-- A property of single sessions that every new session has and every session
step keeps holds of every registered session of every reachable world. -/
theorem World.Reachable.session_inv {I : SessionInfo → Prop}
    (hnew : ∀ hd msg id, I (HdMan.newSession hd msg id))
    (hstep : ∀ s s', SessionStep s s' → I s → I s') {w : World} (hw : w.Reachable) :
    ∀ id s, w.hd.deploys.lookup id = some s → I s := by
  induction hw with
  | init => intro id s h; simp [World.init, HdMan.start, AList.lookup_empty] at h
  | step _ hst ih =>
    intro id s' hs'
    rcases World.step_session hst hs' with ⟨s, hs, heq | hss⟩ | ⟨-, msg, rfl⟩
    · exact heq ▸ ih id s hs
    · exact hstep s s' hss (ih id s hs)
    · exact hnew _ msg id

/-- A `PENDING` or `CONFIGURED` session has no child. -/
def SessionInfo.Childless (s : SessionInfo) : Prop :=
  s.status = .pending ∨ s.status = .configured → ∀ id, s.processes.lookup id = none

/-- Every session step keeps a `PENDING` or `CONFIGURED` session childless. -/
theorem SessionStep.childless {s s' : SessionInfo} (h : SessionStep s s') (hs : s.Childless) :
    s'.Childless := by
  cases h with
  | insertProcess c hfresh => simp [SessionInfo.Childless, SessionInfo.insertProcess]
  | eraseChild id =>
    intro hst id'
    by_cases hid : id' = id
    · subst hid; exact AList.lookup_erase _ _
    · simpa [AList.lookup_erase_ne hid] using hs hst id'
  | markDirty => exact hs
  | setCreated => simp [SessionInfo.Childless]
  | stopped =>
    split
    · next hempty =>
      exact fun _ => lookup_of_entries_eq_nil (List.isEmpty_iff.mp hempty)
    · exact hs
  | setWorkspace => exact hs
  | reap poll =>
    intro hst id
    rw [status_reap] at hst
    split at hst
    · next hcond => exact lookup_of_entries_eq_nil hcond.2 id
    · simp [lookup_reap, hs hst id]

/-- In every reachable world, a session with a child is `RUNNING` or `CREATED`. -/
theorem World.Reachable.status_of_child {w : World} (hw : w.Reachable) {id cid : String}
    {s : SessionInfo} {c : Child} (hs : w.hd.deploys.lookup id = some s)
    (hc : s.processes.lookup cid = some c) : s.status = .running ∨ s.status = .created := by
  have hinv := hw.session_inv (I := SessionInfo.Childless)
    (fun _ _ _ => by simp [SessionInfo.Childless, HdMan.newSession, AList.lookup_empty])
    (fun _ _ h => h.childless) id s hs
  cases hst : s.status with
  | pending => simp [hinv (.inl hst) cid] at hc
  | configured => simp [hinv (.inr hst) cid] at hc
  | running => exact .inl rfl
  | created => exact .inr rfl

/-- After the sample run, `s1` tracks the child `100` and is `RUNNING`. -/
theorem status_of_child_sample :
    ∃ w l s, (World.init sampleRoot sampleRoot).run sampleRun = some (w, l) ∧
      w.hd.deploys.lookup "s1" = some s ∧ s.processes.lookup "c0" = some ⟨100⟩ ∧
      (s.status = .running ∨ s.status = .created) := by
  obtain ⟨⟨w, l⟩, hrun, s, hs, hc⟩ : ∃ r, (World.init sampleRoot sampleRoot).run sampleRun = some r ∧
      ∃ s, r.1.hd.deploys.lookup "s1" = some s ∧ s.processes.lookup "c0" = some ⟨100⟩ :=
    ⟨_, (Option.some_get (by decide)).symm, _, (Option.some_get (by decide)).symm, by decide⟩
  exact ⟨w, l, s, hrun, hs, hc,
    World.Reachable.status_of_child ((World.Reachable.init _ _).run hrun) hs hc⟩

/-- No session step makes a session `PENDING`. -/
theorem SessionStep.status_ne_pending {s s' : SessionInfo} (h : SessionStep s s')
    (hs : s.status ≠ .pending) : s'.status ≠ .pending := by
  cases h with
  | stopped => split <;> simp_all
  | reap poll => rw [status_reap]; split <;> simp_all
  | _ => simp_all [SessionInfo.insertProcess]

/-- A registered session whose status is not `PENDING` is not `PENDING` after any
event that leaves it registered. -/
theorem World.step_status_ne_pending {w w' : World} {e : Event} {ls : List Label}
    (h : w.step e = some (w', ls)) {id : String} {s s' : SessionInfo}
    (hs : w.hd.deploys.lookup id = some s) (hs' : w'.hd.deploys.lookup id = some s')
    (hne : s.status ≠ .pending) : s'.status ≠ .pending := by
  rcases World.step_session h hs' with ⟨t, ht, heq | hst⟩ | ⟨hnone, -⟩
  · rw [hs] at ht
    cases ht
    exact heq ▸ hne
  · rw [hs] at ht
    cases ht
    exact hst.status_ne_pending hne
  · simp [hs] at hnone

/-- In the sample run, the `Start` of `sampleUpdate` takes `s1` from `CREATED` to
`RUNNING`. -/
theorem step_status_ne_pending_sample :
    ∃ w l w' ls s s', (World.init sampleRoot sampleRoot).run (sampleRun.take 6) = some (w, l) ∧
      w.step (.advance 1 { Outcome.failing with spawn := .ok ⟨100⟩, childId := "c0" }) = some (w', ls) ∧
      w.hd.deploys.lookup "s1" = some s ∧ w'.hd.deploys.lookup "s1" = some s' ∧
      s.status ≠ .pending ∧ s'.status ≠ .pending := by
  obtain ⟨⟨w, l⟩, hrun, ⟨w', ls⟩, h, s, hs, s', hs', hne⟩ :
      ∃ r, (World.init sampleRoot sampleRoot).run (sampleRun.take 6) = some r ∧
        ∃ r', r.1.step (.advance 1 { Outcome.failing with spawn := .ok ⟨100⟩, childId := "c0" }) =
          some r' ∧ ∃ s, r.1.hd.deploys.lookup "s1" = some s ∧
          ∃ s', r'.1.hd.deploys.lookup "s1" = some s' ∧ s.status ≠ .pending :=
    ⟨_, (Option.some_get (by decide)).symm, _, (Option.some_get (by decide)).symm,
      _, (Option.some_get (by decide)).symm, _, (Option.some_get (by decide)).symm, by decide⟩
  exact ⟨w, l, w', ls, s, s', hrun, h, hs, hs', hne, World.step_status_ne_pending h hs hs' hne⟩

/-- `s1` is created, and a `Start` on it is accepted before its image is unpacked. -/
def startDuringProvisioning : List Event :=
  [.createSession sampleCreate "s1" (.ok ()),
   .sessionUpdate ⟨"s1", [.start "bin/worker" []]⟩,
   .advance 1 { Outcome.failing with spawn := .ok ⟨100⟩, childId := "c0" },
   .advance 1 Outcome.failing,
   .provisioned 0 (.ok ()) (.ok ())]

/-- The status of `s1` after each prefix of `startDuringProvisioning`: `RUNNING`
after the `Start`, then `CREATED` again, registered all along. -/
theorem start_during_provisioning_status :
    (List.range 6).map (fun n =>
      ((World.init sampleRoot sampleRoot).run (startDuringProvisioning.take n)).map
        fun r => r.1.hd.deploysInfo.map fun i => (i.id, i.status)) =
    [some [], some [("s1", .pending)], some [("s1", .pending)], some [("s1", .running)],
      some [("s1", .running)], some [("s1", .created)]] := by
  decide

/-- `s1` is created and provisioned, a child is started, and the `Stop` of it gets
a mailbox error back from the kill. -/
def stopWithFailedKill : List Event :=
  [.createSession sampleCreate "s1" (.ok ()),
   .provisioned 0 (.ok ()) (.ok ()),
   .sessionUpdate ⟨"s1", [.start "bin/worker" [], .stop "c0"]⟩,
   .advance 1 { Outcome.failing with spawn := .ok ⟨100⟩, childId := "c0" },
   .advance 1 Outcome.failing,
   .advance 1 Outcome.failing]

/-- Both runs end with no future in flight. After `stopWithFailedKill`, `s1` is
`RUNNING` with no child; after `startDuringProvisioning`, it is `CREATED` with the
child `c0`. -/
theorem quiescent_status_disagrees_with_children :
    ((World.init sampleRoot sampleRoot).run stopWithFailedKill).map
        (fun r => (r.1.tasks.entries.isEmpty, r.1.hd.deploysInfo)) =
      some (true, [⟨"s1", "worker", .running, [], none, []⟩]) ∧
    ((World.init sampleRoot sampleRoot).run startDuringProvisioning).map
        (fun r => (r.1.tasks.entries.isEmpty, r.1.hd.deploysInfo)) =
      some (true, [⟨"s1", "worker", .created, [], none, ["c0"]⟩]) := by
  decide

/-- In `stopWithFailedKill`, the `Stop` of the fifth and sixth events fails, its
kill undelivered, and yet `s1`'s children go from `c0` to none. -/
theorem failed_stop_removes_child :
    ((World.init sampleRoot sampleRoot).run (stopWithFailedKill.take 4)).map
        (fun r => r.1.hd.deploysInfo.map (·.processes)) = some [["c0"]] ∧
    ((World.init sampleRoot sampleRoot).run stopWithFailedKill).map
        (fun r => (r.2.getLast?, r.1.hd.deploysInfo.map (·.processes))) =
      some (some (.reply 1 (.sessionUpdate (.error ["c0", "mailbox closed"]))), [[]]) := by
  decide

end GolemUnlimited.Provider

import GolemUnlimited.Provider.Children

/-!
# The actor signals only its own children

`HdMan` learns of a child only from the spawn of a `Start`, and it kills a child
only when a `Stop` or a destroy takes it from a table, and reaps only the
children of its tables. So under every interleaving each child a run kills or
reaps was tracked by some session when the run began, or was spawned by the run:
the provider never kills a process it did not start. With `World.run_tracks`,
the labels of a run account for every child the registry gains or loses.
-/

namespace GolemUnlimited.Provider

/-- Some registered session tracks the child `c`. -/
def HdMan.Owns (hd : HdMan) (c : Child) : Prop :=
  ∃ sessionId childId, hd.Tracks sessionId childId c

namespace HdMan

/-- Writing back a session whose table holds no child the old one did not tracks
no new child. -/
theorem Tracks.of_setSession {hd : HdMan} {id sessionId childId : String} {s s' : SessionInfo}
    {c : Child} (ht : (hd.setSession id s').Tracks sessionId childId c)
    (hs : hd.deploys.lookup id = some s)
    (hp : ∀ {childId c}, s'.processes.lookup childId = some c → s.processes.lookup childId = some c) :
    hd.Tracks sessionId childId c := by
  rw [tracks_setSession] at ht
  split at ht
  · next heq => subst heq; exact ⟨s, hs, hp ht⟩
  · exact ht

/-- Unregistering a session tracks no new child. -/
theorem Tracks.of_erase {hd : HdMan} {id sessionId childId : String} {c : Child}
    (ht : ({ hd with deploys := hd.deploys.erase id } : HdMan).Tracks sessionId childId c) :
    hd.Tracks sessionId childId c := by
  obtain ⟨s, hs, hc⟩ := ht
  by_cases hid : sessionId = id
  · subst hid
    simp at hs
  · exact ⟨s, by simpa [AList.lookup_erase_ne hid] using hs, hc⟩

/-- A `destroy_deploy` that succeeds tracks no new child. -/
theorem Tracks.of_destroyDeploy {hd hd' : HdMan} {id sessionId childId : String}
    {clearDir : Except Error Unit} {c : Child} (hok : (hd.destroyDeploy id clearDir).2 = .ok hd')
    (ht : hd'.Tracks sessionId childId c) : hd.Tracks sessionId childId c := by
  rw [destroyDeploy_eq_ok hok] at ht
  exact ht.of_erase

/-- The provisioning continuation tracks no new child. -/
theorem Tracks.of_provisioned {hd : HdMan} {id sessionId childId : String} {c : Child}
    {result clearDir : Except Error Unit}
    (ht : (hd.provisioned id result clearDir).1.Tracks sessionId childId c) :
    hd.Tracks sessionId childId c := by
  have hroll : ∀ e, (hd.rollback id clearDir e).1.Tracks sessionId childId c →
      hd.Tracks sessionId childId c := by
    intro e ht
    cases h : (hd.destroyDeploy id clearDir).2 with
    | ok hd' => rw [rollback_of_ok h] at ht; exact ht.of_destroyDeploy h
    | error e' => rwa [rollback_of_error h] at ht
  cases result with
  | error e => exact hroll e ht
  | ok u =>
    cases hs : hd.deploys.lookup id with
    | none => rw [provisioned_of_lookup_eq_none clearDir hs] at ht; exact hroll _ ht
    | some s => rw [provisioned_of_lookup clearDir hs] at ht; exact ht.of_setSession hs fun h => h

/-- A scan tracks no new child. -/
theorem Tracks.of_scanForProcesses {hd : HdMan} {poll : Child → TryWait}
    {sessionId childId : String} {c : Child}
    (ht : (hd.scanForProcesses poll).Tracks sessionId childId c) : hd.Tracks sessionId childId c := by
  obtain ⟨s', hs', hc⟩ := ht
  rw [lookup_scanForProcesses, Option.map_eq_some'] at hs'
  obtain ⟨s, hs, rfl⟩ := hs'
  rw [lookup_reap, Option.filter_eq_some] at hc
  exact ⟨s, hs, hc.1⟩

/-- `destroy_deploy` hands to a kill only children of the session it destroys. -/
theorem owns_of_mem_destroyDeploy {hd : HdMan} {id : String} {clearDir : Except Error Unit}
    {c : Child} (hc : c ∈ (hd.destroyDeploy id clearDir).1) : ∃ childId, hd.Tracks id childId c := by
  unfold destroyDeploy at hc
  split at hc
  · cases hc
  · next s hs =>
    obtain ⟨⟨childId, c⟩, hmem, rfl⟩ := List.mem_map.mp hc
    exact ⟨childId, s, hs, AList.mem_lookup_iff.mpr hmem⟩

/-- The provisioning continuation hands to a kill only children of the session
it rolls back. -/
theorem owns_of_mem_provisioned {hd : HdMan} {id : String} {result clearDir : Except Error Unit}
    {c : Child} (hc : c ∈ (hd.provisioned id result clearDir).2.1) : ∃ childId, hd.Tracks id childId c := by
  have hroll : ∀ e, (hd.rollback id clearDir e).2.1 = (hd.destroyDeploy id clearDir).1 := by
    intro e
    cases h : (hd.destroyDeploy id clearDir).2 with
    | ok hd' => rw [rollback_of_ok h]
    | error e' => rw [rollback_of_error h]
  cases result with
  | error e => exact owns_of_mem_destroyDeploy (hroll e ▸ hc)
  | ok u =>
    cases hs : hd.deploys.lookup id with
    | none =>
      rw [provisioned_of_lookup_eq_none clearDir hs] at hc
      exact owns_of_mem_destroyDeploy (hroll _ ▸ hc)
    | some s => rw [provisioned_of_lookup clearDir hs] at hc; cases hc

end HdMan

/-- The reaper reaps only tracked children. -/
theorem World.owns_of_mem_reapedChildren {hd : HdMan} {poll : Child → TryWait} {c : Child}
    (hc : c ∈ World.reapedChildren hd poll) : hd.Owns c := by
  obtain ⟨⟨sessionId, s⟩, hs, hc⟩ := List.mem_flatMap.mp hc
  obtain ⟨⟨childId, c⟩, hmem, rfl⟩ := List.mem_map.mp (List.mem_filter.mp hc).1
  exact ⟨sessionId, childId, s, AList.mem_lookup_iff.mpr hs, AList.mem_lookup_iff.mpr hmem⟩

namespace Pipeline

/-- A continuation tracks no new child. -/
theorem resume_tracks_of {p : Pipeline} {hd hd' : HdMan} {o : Outcome} {a : Await} {r : Progress}
    {es : List Effect} (h : p.resume hd o a = (hd', r, es)) {sessionId childId : String}
    {c : Child} (ht : hd'.Tracks sessionId childId c) : hd.Tracks sessionId childId c := by
  obtain ⟨-, ⟨rfl, -⟩ | ⟨-, rfl | ⟨s, hs, rfl | rfl⟩⟩⟩ := resume_cases h
  · exact ht
  · exact ht
  · exact ht.of_setSession hs fun h => h
  · exact ht.of_setSession hs (by split <;> exact fun h => h)

/-- The synchronous part of a link tracks no new child but the one it spawns,
and hands to a kill only a child its session tracks. -/
theorem begin_owns {p : Pipeline} {hd hd' : HdMan} {rest : List Link} {o : Outcome} {l : Link}
    {r : Progress} {es : List Effect} (h : p.begin hd rest o l = some (hd', r, es)) :
    (∀ {sessionId childId c}, hd'.Tracks sessionId childId c →
      hd.Tracks sessionId childId c ∨ Effect.spawned c ∈ es) ∧
    ∀ {c}, Effect.killed c ∈ es ∨ Effect.reaped c ∈ es → hd.Owns c := by
  rcases begin_cases h with ⟨rfl, -, rfl | ⟨c', rfl, -⟩⟩ | ⟨rfl, rfl, -⟩ |
    ⟨victim, s, child, -, hs, hchild, rfl, -, rfl⟩ | ⟨c', s, hs, -, rfl, -, rfl⟩ |
    ⟨s, ws, -, hs, rfl, -, rfl⟩
  · exact ⟨.inl, by simp⟩
  · exact ⟨.inl, by simp⟩
  · exact ⟨.inl, by simp⟩
  · refine ⟨fun ht => .inl (ht.of_setSession hs fun {childId _} hc => ?_), ?_⟩
    · by_cases hid : childId = victim
      · subst hid; simp at hc
      · simpa [AList.lookup_erase_ne hid] using hc
    · rintro c (hc | hc) <;> simp only [List.mem_singleton, Effect.killed.injEq, reduceCtorEq] at hc
      subst hc
      exact ⟨p.sessionId, victim, s, hs, hchild⟩
  · refine ⟨fun {sessionId childId c} ht => ?_, by simp⟩
    rw [HdMan.tracks_setSession] at ht
    split at ht
    · next heq =>
      subst heq
      by_cases hid : childId = o.childId
      · subst hid
        simp only [SessionInfo.insertProcess, AList.lookup_insert, Option.some.injEq] at ht
        exact .inr (ht ▸ List.mem_singleton_self _)
      · simp only [SessionInfo.insertProcess, AList.lookup_insert_ne hid] at ht
        exact .inl ⟨s, hs, ht⟩
    · exact .inl ht
  · exact ⟨fun ht => .inl (ht.of_setSession hs fun h => h), by simp⟩

/-- One pipeline step tracks no new child but the one it spawns, and hands to a
kill only a child the registry tracks. -/
theorem advance_owns {p : Pipeline} {hd hd' : HdMan} {o : Outcome} {r : Progress}
    {es : List Effect} (h : p.advance hd o = some (hd', r, es)) :
    (∀ {sessionId childId c}, hd'.Tracks sessionId childId c →
      hd.Tracks sessionId childId c ∨ Effect.spawned c ∈ es) ∧
    ∀ {c}, Effect.killed c ∈ es ∨ Effect.reaped c ∈ es → hd.Owns c := by
  rcases advance_cases h with ⟨a, -, hres⟩ | ⟨-, -, rfl, -, rfl⟩ | ⟨l, rest, -, -, hbeg⟩
  · rw [(resume_cases hres).1]
    exact ⟨fun ht => .inl (resume_tracks_of hres ht), by simp⟩
  · exact ⟨.inl, by simp⟩
  · exact begin_owns hbeg

end Pipeline

namespace World

/-- One event hands to a kill or reaps only children the registry tracked
before it. -/
theorem step_released_owns {w w' : World} {e : Event} {ls : List Label}
    (h : w.step e = some (w', ls)) {c : Child} (hc : Released c ls) : w.hd.Owns c := by
  unfold Released at hc
  cases e with
  | provisioned request result clearDir =>
    simp only [step] at h
    split at h
    · next id _ =>
      cases h
      simp at hc
      obtain ⟨childId, ht⟩ := HdMan.owns_of_mem_provisioned hc
      exact ⟨id, childId, ht⟩
    · cases h
  | advance request o =>
    simp only [step] at h
    split at h
    · split at h
      · next hadv => cases h; exact (Pipeline.advance_owns hadv).2 (by simpa using hc)
      · next hadv => cases h; exact (Pipeline.advance_owns hadv).2 (by simpa using hc)
      · cases h
    · cases h
  | scan poll => cases h; exact owns_of_mem_reapedChildren (by simpa using hc)
  | destroySession id clearDir =>
    simp only [step] at h
    have hk : c ∈ (w.hd.destroyDeploy id clearDir).1 → w.hd.Owns c := fun hk =>
      (HdMan.owns_of_mem_destroyDeploy hk).elim fun childId ht => ⟨id, childId, ht⟩
    split at h <;> (cases h; exact hk (by simpa using hc))
  | createSession | sessionUpdate =>
    simp only [step] at h
    repeat' split at h
    all_goals cases h <;> simp at hc
  | getSessions => cases h; simp at hc

/-- After one event, a tracked child was tracked before it under the same session
and id, or the event spawned it. -/
theorem step_tracks_of {w w' : World} {e : Event} {ls : List Label} (h : w.step e = some (w', ls))
    {sessionId childId : String} {c : Child} (ht : w'.hd.Tracks sessionId childId c) :
    w.hd.Tracks sessionId childId c ∨ .effect (.spawned c) ∈ ls := by
  cases e with
  | createSession msg id createDirs =>
    simp only [step] at h
    split at h
    · cases h
    · split at h
      · cases h; exact .inl ht
      · cases h
        obtain ⟨s, hs, hc⟩ := ht
        by_cases hid : sessionId = id
        · subst hid
          simp only [AList.lookup_insert, Option.some.injEq] at hs
          subst hs
          simp [HdMan.newSession] at hc
        · exact .inl ⟨s, by simpa [AList.lookup_insert_ne hid] using hs, hc⟩
  | provisioned request result clearDir =>
    simp only [step] at h
    split at h
    · cases h; exact .inl ht.of_provisioned
    · cases h
  | sessionUpdate msg =>
    simp only [step] at h
    split at h <;> (cases h; exact .inl ht)
  | advance request o =>
    simp only [step] at h
    split at h
    · split at h
      · next hadv =>
        cases h
        exact ((Pipeline.advance_owns hadv).1 ht).imp_right (List.mem_map_of_mem _)
      · next hadv =>
        cases h
        exact ((Pipeline.advance_owns hadv).1 ht).imp_right fun hs =>
          List.mem_append_left _ (List.mem_map_of_mem _ hs)
      · cases h
    · cases h
  | scan poll => cases h; exact .inl ht.of_scanForProcesses
  | destroySession id clearDir =>
    simp only [step] at h
    split at h
    · next hd' hok => cases h; exact .inl (ht.of_destroyDeploy hok)
    · cases h; exact .inl ht
  | getSessions => cases h; exact .inl ht

/-- The provider never kills or reaps a process it did not start: under every
interleaving, each child a run hands to a kill or reaps was tracked by some
session when the run began, or was spawned by the run. -/
theorem run_released_owns {w w' : World} {es : List Event} {ls : List Label}
    (h : w.run es = some (w', ls)) {c : Child} (hc : Released c ls) :
    w.hd.Owns c ∨ .effect (.spawned c) ∈ ls := by
  induction es generalizing w ls with
  | nil => cases h; simp [Released] at hc
  | cons e es ih =>
    obtain ⟨w₁, l₁, l₂, h₁, h₂, rfl⟩ := run_cons_eq_some.mp h
    have hsplit : Released c l₁ ∨ Released c l₂ := by
      simp only [Released, List.mem_append] at hc ⊢
      tauto
    rcases hsplit with hc₁ | hc₂
    · exact .inl (step_released_owns h₁ hc₁)
    · rcases ih h₂ hc₂ with ⟨sessionId, childId, ht⟩ | hs
      · exact (step_tracks_of h₁ ht).imp (fun ht => ⟨sessionId, childId, ht⟩) (List.mem_append_left _)
      · exact .inr (List.mem_append_right _ hs)

end World

/-- From the actor's start, the sample run and a destroy of `s1` kill the child
`100`, which the run spawned. -/
theorem run_released_owns_sample :
    ∃ w' ls, (World.init sampleRoot sampleRoot).run (sampleRun ++ [.destroySession "s1" (.ok ())]) =
      some (w', ls) ∧ World.Released ⟨100⟩ ls ∧
      ((World.init sampleRoot sampleRoot).hd.Owns ⟨100⟩ ∨ .effect (.spawned ⟨100⟩) ∈ ls) := by
  obtain ⟨⟨w', ls⟩, h, hc⟩ : ∃ r, (World.init sampleRoot sampleRoot).run
      (sampleRun ++ [.destroySession "s1" (.ok ())]) = some r ∧ World.Released ⟨100⟩ r.2 :=
    ⟨_, (Option.some_get (by decide)).symm, .inl (by decide)⟩
  exact ⟨w', ls, h, hc, World.run_released_owns h hc⟩

end GolemUnlimited.Provider

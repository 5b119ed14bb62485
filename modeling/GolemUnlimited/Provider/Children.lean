import GolemUnlimited.Provider.Lifecycle

/-!
# What becomes of child processes

A child started by `Start` is inserted into its session's table under a fresh
id. From then on it stays there under that id until a `Stop` or a destroy hands
it to a kill (sends the kill), or the reaper sees it exit: every event that takes
a child out of a table says so in its labels. The one gap is at the spawn itself:
when the session has been destroyed between the pipeline's entry check and its
`Start`, and the session's provisioning, still in flight, has unpacked the image
into the removed workspace again, the `Start` spawns the image's executable and
the child is inserted nowhere and never killed.
-/

namespace GolemUnlimited.Provider

/-- The session registered as `sessionId` tracks the child `c` under `childId`. -/
def HdMan.Tracks (hd : HdMan) (sessionId childId : String) (c : Child) : Prop :=
  ∃ s, hd.deploys.lookup sessionId = some s ∧ s.processes.lookup childId = some c

/-- Whether a session tracks a child is read off the registry and its table. -/
instance (hd : HdMan) (sessionId childId : String) (c : Child) :
    Decidable (hd.Tracks sessionId childId c) :=
  decidable_of_iff ((hd.deploys.lookup sessionId).bind (·.processes.lookup childId) = some c)
    Option.bind_eq_some

namespace HdMan

/-- Writing back a session tracks what its new table holds and keeps the
children of the other sessions. -/
theorem tracks_setSession {hd : HdMan} {id sessionId childId : String} {s : SessionInfo}
    {c : Child} :
    (hd.setSession id s).Tracks sessionId childId c ↔
      if sessionId = id then s.processes.lookup childId = some c
      else hd.Tracks sessionId childId c := by
  unfold Tracks
  split <;> simp_all

/-- Writing back a session whose new table still holds a tracked child keeps it
tracked. -/
theorem Tracks.setSession_of_lookup {hd : HdMan} {id sessionId childId : String}
    {s s' : SessionInfo} {c : Child} (ht : hd.Tracks sessionId childId c)
    (hs : hd.deploys.lookup id = some s)
    (hp : sessionId = id → s.processes.lookup childId = some c →
      s'.processes.lookup childId = some c) :
    (hd.setSession id s').Tracks sessionId childId c := by
  obtain ⟨t, ht, hc⟩ := ht
  rw [tracks_setSession]
  split
  · next heq => subst heq; rw [hs] at ht; cases ht; exact hp rfl hc
  · exact ⟨t, ht, hc⟩

/-- Writing back a session with the same table keeps every tracked child. -/
theorem Tracks.setSession {hd : HdMan} {id sessionId childId : String} {s s' : SessionInfo}
    {c : Child} (ht : hd.Tracks sessionId childId c) (hs : hd.deploys.lookup id = some s)
    (hp : s'.processes = s.processes) : (hd.setSession id s').Tracks sessionId childId c :=
  ht.setSession_of_lookup hs fun _ hc => hp ▸ hc

/-- Erasing a session keeps the children of the others. -/
theorem Tracks.erase {hd : HdMan} {id sessionId childId : String} {c : Child}
    (ht : hd.Tracks sessionId childId c) (hne : sessionId ≠ id) :
    ({ hd with deploys := hd.deploys.erase id } : HdMan).Tracks sessionId childId c := by
  obtain ⟨s, hs, hc⟩ := ht
  exact ⟨s, by simpa [AList.lookup_erase_ne hne] using hs, hc⟩

/-- A session's `destroy` kills every child of its table. -/
theorem mem_destroy_of_lookup {s : SessionInfo} {childId : String} {c : Child}
    (hc : s.processes.lookup childId = some c) (clearDir : Except Error Unit) :
    c ∈ (s.destroy clearDir).1 :=
  List.mem_map.mpr ⟨⟨childId, c⟩, AList.mem_lookup_iff.mp hc, rfl⟩

/-- `destroy_deploy` keeps a tracked child, or hands it to a kill. -/
theorem Tracks.destroyDeploy {hd : HdMan} {sessionId childId : String} {c : Child}
    (ht : hd.Tracks sessionId childId c) (id : String) (clearDir : Except Error Unit) :
    (∀ hd', (hd.destroyDeploy id clearDir).2 = .ok hd' → hd'.Tracks sessionId childId c) ∨
      c ∈ (hd.destroyDeploy id clearDir).1 := by
  by_cases hid : sessionId = id
  · subst hid
    obtain ⟨s, hs, hc⟩ := ht
    right
    simpa [HdMan.destroyDeploy, hs] using mem_destroy_of_lookup hc clearDir
  · left
    intro hd' hok
    rw [destroyDeploy_eq_ok hok]
    exact ht.erase hid

/-- The provisioning continuation keeps a tracked child, or its rollback hands it
to a kill. -/
theorem Tracks.provisioned {hd : HdMan} {id sessionId childId : String} {c : Child}
    {result clearDir : Except Error Unit} (ht : hd.Tracks sessionId childId c) :
    (hd.provisioned id result clearDir).1.Tracks sessionId childId c ∨
      c ∈ (hd.provisioned id result clearDir).2.1 := by
  have hroll : ∀ e, (hd.rollback id clearDir e).1.Tracks sessionId childId c ∨
      c ∈ (hd.rollback id clearDir e).2.1 := by
    intro e
    cases h : (hd.destroyDeploy id clearDir).2 with
    | ok hd' =>
      rw [rollback_of_ok h]
      exact (ht.destroyDeploy id clearDir).imp_left fun hk => hk hd' h
    | error e' => rw [rollback_of_error h]; exact .inl ht
  cases result with
  | error e => exact hroll e
  | ok u =>
    cases hs : hd.deploys.lookup id with
    | none => rw [provisioned_of_lookup_eq_none clearDir hs]; exact hroll _
    | some s => rw [provisioned_of_lookup clearDir hs]; exact .inl (ht.setSession hs rfl)

/-- One scan keeps a tracked child unless its poll reports an exit, and then the
child is among those reaped. -/
theorem Tracks.scanForProcesses {hd : HdMan} {sessionId childId : String} {c : Child}
    (poll : Child → TryWait) (ht : hd.Tracks sessionId childId c) :
    (hd.scanForProcesses poll).Tracks sessionId childId c ∨ c ∈ World.reapedChildren hd poll := by
  obtain ⟨s, hs, hc⟩ := ht
  cases hex : (poll c).exited with
  | false => exact .inl ⟨s.reap poll, by simp [hs], by simp [lookup_reap, hc, hex]⟩
  | true =>
    refine .inr (List.mem_flatMap.mpr ⟨⟨sessionId, s⟩, AList.mem_lookup_iff.mp hs, ?_⟩)
    exact List.mem_filter.mpr ⟨mem_destroy_of_lookup hc (.ok ()), hex⟩

end HdMan

namespace Pipeline

/-- A continuation keeps every tracked child: it changes at most a status or the
`dirty` flag. -/
theorem resume_tracks {p : Pipeline} {hd hd' : HdMan} {o : Outcome} {a : Await} {r : Progress}
    {es : List Effect} (h : p.resume hd o a = (hd', r, es)) {sessionId childId : String}
    {c : Child} (ht : hd.Tracks sessionId childId c) : hd'.Tracks sessionId childId c := by
  obtain ⟨-, ⟨rfl, -⟩ | ⟨-, rfl | ⟨s, hs, rfl | rfl⟩⟩⟩ := resume_cases h
  · exact ht
  · exact ht
  · exact ht.setSession hs rfl
  · exact ht.setSession hs (by split <;> rfl)

/-- The synchronous part of a link keeps every tracked child, except the one a
`Stop` hands to its kill. -/
theorem begin_tracks {p : Pipeline} {hd hd' : HdMan} {rest : List Link} {o : Outcome} {l : Link}
    {r : Progress} {es : List Effect} (h : p.begin hd rest o l = some (hd', r, es))
    {sessionId childId : String} {c : Child} (ht : hd.Tracks sessionId childId c) :
    hd'.Tracks sessionId childId c ∨ Effect.killed c ∈ es := by
  rcases begin_cases h with ⟨rfl, -⟩ | ⟨rfl, -⟩ | ⟨victim, s, child, -, hs, hchild, rfl, -, rfl⟩ |
    ⟨c', s, hs, hfresh, rfl, -⟩ | ⟨s, ws, -, hs, rfl, -⟩
  · exact .inl ht
  · exact .inl ht
  · by_cases hsame : sessionId = p.sessionId ∧ childId = victim
    · obtain ⟨rfl, rfl⟩ := hsame
      obtain ⟨t, htl, hc⟩ := ht
      rw [hs] at htl
      cases htl
      rw [hchild] at hc
      cases hc
      exact .inr (List.mem_singleton_self _)
    · refine .inl (ht.setSession_of_lookup hs fun heq hc => ?_)
      have hne : childId ≠ victim := fun h' => hsame ⟨heq, h'⟩
      simpa [AList.lookup_erase_ne hne] using hc
  · refine .inl (ht.setSession_of_lookup hs fun _ hc => ?_)
    have hne : childId ≠ o.childId := by
      rintro rfl
      exact hfresh (AList.lookup_isSome.mp (by simp [hc]))
    simpa [SessionInfo.insertProcess, AList.lookup_insert_ne hne] using hc
  · exact .inl (ht.setSession hs rfl)

/-- One pipeline step keeps every tracked child, except the one a `Stop` hands
to its kill. -/
theorem advance_tracks {p : Pipeline} {hd hd' : HdMan} {o : Outcome} {r : Progress}
    {es : List Effect} (h : p.advance hd o = some (hd', r, es)) {sessionId childId : String}
    {c : Child} (ht : hd.Tracks sessionId childId c) :
    hd'.Tracks sessionId childId c ∨ Effect.killed c ∈ es := by
  rcases advance_cases h with ⟨a, -, hres⟩ | ⟨-, -, rfl, -⟩ | ⟨l, rest, -, -, hbeg⟩
  · exact .inl (resume_tracks hres ht)
  · exact .inl ht
  · exact begin_tracks hbeg ht

/-- A child spawned by a `Start` is tracked under the id `generate_new_id` chose,
unless its session was not registered when the `Start` ran. -/
theorem begin_spawned {p : Pipeline} {hd hd' : HdMan} {rest : List Link} {o : Outcome} {l : Link}
    {r : Progress} {es : List Effect} (h : p.begin hd rest o l = some (hd', r, es)) {c : Child}
    (hc : Effect.spawned c ∈ es) :
    hd'.Tracks p.sessionId o.childId c ∨ hd.deploys.lookup p.sessionId = none := by
  rcases begin_cases h with ⟨-, -, rfl | ⟨-, -, hnone⟩⟩ | ⟨-, rfl, -⟩ | ⟨-, -, child, -, -, -, -, -, rfl⟩ |
    ⟨c', s, hs, -, rfl, -, rfl⟩ | ⟨-, -, -, -, -, -, rfl⟩
  · cases hc
  · exact .inr hnone
  · cases hc
  · simp at hc
  · cases List.mem_singleton.mp hc
    exact .inl ⟨s.insertProcess o.childId c, by simp, by simp [SessionInfo.insertProcess]⟩
  · cases hc

/-- A child spawned by a pipeline step is tracked under the id
`generate_new_id` chose, unless its session was not registered. -/
theorem advance_spawned {p : Pipeline} {hd hd' : HdMan} {o : Outcome} {r : Progress}
    {es : List Effect} (h : p.advance hd o = some (hd', r, es)) {c : Child}
    (hc : Effect.spawned c ∈ es) :
    hd'.Tracks p.sessionId o.childId c ∨ hd.deploys.lookup p.sessionId = none := by
  rcases advance_cases h with ⟨a, -, hres⟩ | ⟨-, -, -, -, rfl⟩ | ⟨l, rest, -, -, hbeg⟩
  · rw [(resume_cases hres).1] at hc
    cases hc
  · cases hc
  · exact begin_spawned hbeg hc

end Pipeline

namespace World

/-- After every event, a tracked child is tracked under the same session and id,
or the event's labels say it was handed to a kill or reaped. -/
theorem step_tracks {w w' : World} {e : Event} {ls : List Label} (h : w.step e = some (w', ls))
    {sessionId childId : String} {c : Child} (ht : w.hd.Tracks sessionId childId c) :
    w'.hd.Tracks sessionId childId c ∨ .effect (.killed c) ∈ ls ∨ .effect (.reaped c) ∈ ls := by
  cases e with
  | createSession msg id createDirs =>
    simp only [step] at h
    split at h
    · cases h
    · next hid =>
      split at h
      · cases h; exact .inl ht
      · cases h
        obtain ⟨s, hs, hc⟩ := ht
        have hne : sessionId ≠ id := by
          rintro rfl
          exact hid (AList.lookup_isSome.mp (by simp [hs]))
        exact .inl ⟨s, by simpa [AList.lookup_insert_ne hne] using hs, hc⟩
  | provisioned request result clearDir =>
    simp only [step] at h
    split at h
    · cases h
      exact ht.provisioned.imp_right fun hk => .inl (List.mem_append_left _ (List.mem_map_of_mem _ hk))
    · cases h
  | sessionUpdate msg =>
    simp only [step] at h
    split at h <;> (cases h; exact .inl ht)
  | advance request o =>
    simp only [step] at h
    split at h
    · split at h
      · next hadv =>
        cases h
        exact (Pipeline.advance_tracks hadv ht).imp_right fun hk => .inl (List.mem_map_of_mem _ hk)
      · next hadv =>
        cases h
        exact (Pipeline.advance_tracks hadv ht).imp_right fun hk =>
          .inl (List.mem_append_left _ (List.mem_map_of_mem _ hk))
      · cases h
    · cases h
  | scan poll =>
    cases h
    exact (ht.scanForProcesses poll).imp_right fun hk => .inr (List.mem_map_of_mem _ hk)
  | destroySession id clearDir =>
    simp only [step] at h
    have hkill : c ∈ (w.hd.destroyDeploy id clearDir).1 → ∀ l,
        Label.effect (.killed c) ∈ (w.hd.destroyDeploy id clearDir).1.map (.effect ∘ .killed) ++ l :=
      fun hk _ => List.mem_append_left _ (List.mem_map_of_mem _ hk)
    split at h
    · next hd' hok =>
      cases h
      exact (ht.destroyDeploy id clearDir).imp (fun hk => hk hd' hok)
        fun hk => .inl (hkill hk _)
    · cases h
      exact .inl ht
  | getSessions => cases h; exact .inl ht

/-- A label list shows that `c` was handed to a kill or reaped. -/
def Released (c : Child) (ls : List Label) : Prop :=
  .effect (.killed c) ∈ ls ∨ .effect (.reaped c) ∈ ls

/-- A release shown by either part of a label list is shown by the whole. -/
theorem released_append {c : Child} (l₁ l₂ : List Label) :
    Released c l₁ ∨ Released c l₂ → Released c (l₁ ++ l₂) := by
  simp only [Released, List.mem_append]
  tauto

/-- Over every run, a tracked child stays tracked under the same session and id
until some label of the run says it was handed to a kill or reaped. -/
theorem run_tracks {w w' : World} {es : List Event} {ls : List Label}
    (h : w.run es = some (w', ls)) {sessionId childId : String} {c : Child}
    (ht : w.hd.Tracks sessionId childId c) :
    w'.hd.Tracks sessionId childId c ∨ .effect (.killed c) ∈ ls ∨ .effect (.reaped c) ∈ ls :=
  run_keeps (P := fun w => w.hd.Tracks sessionId childId c) (Q := Released c) released_append
    (fun h => step_tracks h) h ht

/-- After the sample run `s1` tracks the child `100`, and destroying `s1` hands it
to a kill. -/
theorem run_tracks_sample :
    ∃ w l w' ls, (World.init sampleRoot sampleRoot).run sampleRun = some (w, l) ∧
      w.run [.destroySession "s1" (.ok ())] = some (w', ls) ∧ w.hd.Tracks "s1" "c0" ⟨100⟩ ∧
      (w'.hd.Tracks "s1" "c0" ⟨100⟩ ∨ .effect (.killed ⟨100⟩) ∈ ls ∨ .effect (.reaped ⟨100⟩) ∈ ls) := by
  obtain ⟨⟨w, l⟩, hrun, ⟨w', ls⟩, h, ht⟩ : ∃ r, (World.init sampleRoot sampleRoot).run sampleRun = some r ∧
      ∃ r', r.1.run [.destroySession "s1" (.ok ())] = some r' ∧ r.1.hd.Tracks "s1" "c0" ⟨100⟩ :=
    ⟨_, (Option.some_get (by decide)).symm, _, (Option.some_get (by decide)).symm, by decide⟩
  exact ⟨w, l, w', ls, hrun, h, ht, World.run_tracks h ht⟩

/-- Only a pipeline step spawns, and its child is tracked under the id
`generate_new_id` chose unless the session was not registered. -/
theorem step_spawned {w w' : World} {e : Event} {ls : List Label} (h : w.step e = some (w', ls))
    {c : Child} (hc : .effect (.spawned c) ∈ ls) :
    ∃ request p o, e = .advance request o ∧ w.tasks.lookup request = some (.pipeline p) ∧
      (w'.hd.Tracks p.sessionId o.childId c ∨ w.hd.deploys.lookup p.sessionId = none) := by
  cases e with
  | advance request o =>
    simp only [step] at h
    split at h
    · next p htask =>
      refine ⟨request, p, o, rfl, htask, ?_⟩
      split at h
      · next hadv => cases h; exact Pipeline.advance_spawned hadv (by simpa using hc)
      · next hadv => cases h; exact Pipeline.advance_spawned hadv (by simpa using hc)
      · cases h
    · cases h
  | _ => simp only [step] at h; (repeat' split at h) <;> cases h <;> simp at hc

/-- A child that a `Start` spawns while its session is registered is, after any
further run, tracked by that session under the id `generate_new_id` chose, or
some label of the run has handed it to a kill or reported it reaped. -/
theorem spawned_tracked {w w₁ w₂ : World} {e : Event} {es : List Event} {l₁ l₂ : List Label}
    {c : Child} (h₁ : w.step e = some (w₁, l₁)) (hc : .effect (.spawned c) ∈ l₁)
    (h₂ : w₁.run es = some (w₂, l₂)) :
    ∃ request p o, e = .advance request o ∧ w.tasks.lookup request = some (.pipeline p) ∧
      (w.hd.deploys.lookup p.sessionId = none ∨ w₂.hd.Tracks p.sessionId o.childId c ∨
        .effect (.killed c) ∈ l₂ ∨ .effect (.reaped c) ∈ l₂) := by
  obtain ⟨request, p, o, rfl, htask, ht | hnone⟩ := step_spawned h₁ hc
  · exact ⟨request, p, o, rfl, htask, .inr (run_keeps (P := fun w => w.hd.Tracks p.sessionId o.childId c)
      (Q := Released c) released_append (fun h => step_tracks h) h₂ ht)⟩
  · exact ⟨request, p, o, rfl, htask, .inl hnone⟩

end World

/-- In the sample run, the `Start` of `sampleUpdate` spawns the child `100`, which
`s1` still tracks when the pipeline has replied. -/
theorem spawned_tracked_sample :
    ∃ w l w₁ l₁ w₂ l₂, (World.init sampleRoot sampleRoot).run (sampleRun.take 6) = some (w, l) ∧
      w.step (.advance 1 { Outcome.failing with spawn := .ok ⟨100⟩, childId := "c0" }) = some (w₁, l₁) ∧
      .effect (.spawned ⟨100⟩) ∈ l₁ ∧ w₁.run [.advance 1 Outcome.failing] = some (w₂, l₂) ∧
      ∃ request p o, Event.advance 1 { Outcome.failing with spawn := .ok ⟨100⟩, childId := "c0" } =
          .advance request o ∧ w.tasks.lookup request = some (.pipeline p) ∧
        (w.hd.deploys.lookup p.sessionId = none ∨ w₂.hd.Tracks p.sessionId o.childId ⟨100⟩ ∨
          .effect (.killed ⟨100⟩) ∈ l₂ ∨ .effect (.reaped ⟨100⟩) ∈ l₂) := by
  obtain ⟨⟨w, l⟩, hrun, ⟨w₁, l₁⟩, h₁, hc, ⟨w₂, l₂⟩, h₂⟩ :
      ∃ r, (World.init sampleRoot sampleRoot).run (sampleRun.take 6) = some r ∧
        ∃ r₁, r.1.step (.advance 1 { Outcome.failing with spawn := .ok ⟨100⟩, childId := "c0" }) =
          some r₁ ∧ .effect (.spawned ⟨100⟩) ∈ r₁.2 ∧
        ∃ r₂, r₁.1.run [.advance 1 Outcome.failing] = some r₂ :=
    ⟨_, (Option.some_get (by decide)).symm, _, (Option.some_get (by decide)).symm, by decide,
      _, (Option.some_get (by decide)).symm⟩
  exact ⟨w, l, w₁, l₁, w₂, l₂, hrun, h₁, hc, h₂, World.spawned_tracked h₁ hc h₂⟩

/-- `s1` is created and its image is downloading. A `SessionUpdate` on it, a file
download followed by a `Start` of the image's `bin/worker`, is accepted and its
download begins; `s1` is destroyed, its workspace removed. The image download then
ends and untgz unpacks it into the workspace path again, but the provisioning
continuation finds no session and its rollback fails. The file download ends too,
its continuation checking no session, and the `Start` spawns `bin/worker` from the
unpacked image. -/
def startAfterRecreate : List Event :=
  [.createSession sampleCreate "s1" (.ok ()),
   .sessionUpdate ⟨"s1", [.downloadFile "http://hub/data.bin" "data.bin", .start "bin/worker" []]⟩,
   .advance 1 Outcome.failing,
   .destroySession "s1" (.ok ()),
   .provisioned 0 (.ok ()) (.ok ()),
   .advance 1 { Outcome.failing with download := .ok () },
   .advance 1 { Outcome.failing with spawn := .ok ⟨100⟩, childId := "c0" }]

/-- In `startAfterRecreate` the child `100` is spawned after `s1` is destroyed; it
is tracked by no session, no label hands it to a kill, and the `Start` fails. -/
theorem spawned_child_untracked :
    ((World.init sampleRoot sampleRoot).run startAfterRecreate).map
        (fun r => (r.2, r.1.hd.deploysInfo)) =
      some ([.reply 2 (.destroySession (.ok "Session closed")),
        .reply 0 (.createSession (.error (.noSuchSession "s1"))),
        .effect (.spawned ⟨100⟩),
        .reply 1 (.sessionUpdate
          (.error ["\"http://hub/data.bin\" file downloaded", "no such session s1"]))], []) := by
  decide

end GolemUnlimited.Provider

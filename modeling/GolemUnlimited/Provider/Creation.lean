import GolemUnlimited.Provider.Lifecycle

/-!
# Replies to `CreateSession`

`Handler<CreateSession>` replies at once when `create_dirs` fails; otherwise it
registers a `PENDING` session and replies when download and unpack have
answered, after any other events. An `Ok` reply finds the session `CREATED`;
an `Err` reply after provisioning has destroyed the session, unless that
destroy failed, and then the reply is the destroy error.
-/

namespace GolemUnlimited.Provider

namespace HdMan

/-- A `destroy_deploy` that succeeds leaves the session unregistered. -/
theorem not_mem_destroyDeploy {hd hd' : HdMan} {id : String} {clearDir : Except Error Unit}
    (h : (hd.destroyDeploy id clearDir).2 = .ok hd') : id ∉ hd'.deploys := by
  rw [destroyDeploy_eq_ok h]
  simp [AList.mem_erase]

/-- The rollback always replies with an error. -/
theorem rollback_ne_ok (hd : HdMan) (id : String) (clearDir : Except Error Unit) (cause : Error)
    (v : String) : (hd.rollback id clearDir cause).2.2 ≠ .ok v := by
  unfold rollback
  split <;> simp

/-- The rollback replies with the destroy error when its destroy fails, whether
or not the session was registered, and otherwise leaves the session unregistered
and replies with the cause. -/
theorem rollback_reply (hd : HdMan) (id : String) (clearDir : Except Error Unit) (cause : Error) :
    (∀ e, (hd.rollback id clearDir cause).2.2 = .error e →
      (hd.destroyDeploy id clearDir).2 = .error e ∨
        id ∉ (hd.rollback id clearDir cause).1.deploys ∧
          ∃ hd', (hd.destroyDeploy id clearDir).2 = .ok hd') ∧
    (∀ hd', (hd.destroyDeploy id clearDir).2 = .ok hd' →
      (hd.rollback id clearDir cause).2.2 = .error (.ioError ("creating session error: " ++ cause.debug))) := by
  cases h : (hd.destroyDeploy id clearDir).2 with
  | ok hd' => simp [rollback_of_ok h, not_mem_destroyDeploy h]
  | error e' =>
    simp only [rollback_of_error h, Except.error.injEq, reduceCtorEq, false_implies,
      implies_true, and_true]
    exact fun e he => .inl he

/-- The provisioning continuation: an `Ok` reply names the session, which is
`CREATED`; an `Err` reply is the destroy error when the rollback's destroy
failed, and otherwise the session is unregistered; a failed download or unpack
whose rollback succeeds is reported with its cause. -/
theorem provisioned_reply (hd : HdMan) (id : String) (result clearDir : Except Error Unit) :
    (∀ v, (hd.provisioned id result clearDir).2.2 = .ok v →
      v = id ∧ ∃ s, (hd.provisioned id result clearDir).1.deploys.lookup id = some s ∧
        s.status = .created) ∧
    (∀ e, (hd.provisioned id result clearDir).2.2 = .error e →
      (hd.destroyDeploy id clearDir).2 = .error e ∨
        id ∉ (hd.provisioned id result clearDir).1.deploys ∧
          ∃ hd', (hd.destroyDeploy id clearDir).2 = .ok hd') ∧
    (∀ cause hd', result = .error cause → (hd.destroyDeploy id clearDir).2 = .ok hd' →
      (hd.provisioned id result clearDir).2.2 =
        .error (.ioError ("creating session error: " ++ cause.debug))) := by
  cases result with
  | error cause =>
    simp only [provisioned_of_error]
    refine ⟨fun v hv => (rollback_ne_ok _ _ _ _ _ hv).elim, (rollback_reply ..).1, ?_⟩
    rintro c hd' ⟨⟩ hok
    exact (rollback_reply ..).2 hd' hok
  | ok u =>
    cases hs : hd.deploys.lookup id with
    | none =>
      rw [provisioned_of_lookup_eq_none clearDir hs]
      refine ⟨fun v hv => (rollback_ne_ok _ _ _ _ _ hv).elim, (rollback_reply ..).1, ?_⟩
      rintro c hd' ⟨⟩
    | some s =>
      rw [provisioned_of_lookup clearDir hs]
      refine ⟨fun v hv => ⟨(Except.ok.inj hv).symm, { s with status := .created }, by simp, rfl⟩,
        ?_, ?_⟩
      · rintro e ⟨⟩
      · rintro c hd' ⟨⟩

end HdMan

/-- Every reply to a `CreateSession`, after any interleaving. An `Ok(id)` reply
finds `id` registered and `CREATED`. An `Err` reply is either the immediate reply
to a failed `create_dirs`, which registered nothing, or the reply of the
provisioning continuation: when the rollback's `destroy_deploy` failed, also on a
session a concurrent destroy already removed, the reply is exactly that destroy
error; otherwise the session is unregistered, and a failed download or unpack is
reported with its cause. -/
theorem createSession_reply {w w' : World} {e : Event} {ls : List Label} {request : Nat}
    {r : Except Error String} (h : w.step e = some (w', ls))
    (hr : Label.reply request (.createSession r) ∈ ls) :
    (∀ id, r = .ok id → ∃ s, w'.hd.deploys.lookup id = some s ∧ s.status = .created) ∧
    (∀ err, r = .error err →
      (w'.hd = w.hd ∧ ∃ msg id, e = .createSession msg id (.error err)) ∨
      ∃ id result clearDir, e = .provisioned request result clearDir ∧
        w.tasks.lookup request = some (.provisioning id) ∧
        ((w.hd.destroyDeploy id clearDir).2 = .error err ∨
          id ∉ w'.hd.deploys ∧ ∃ hd', (w.hd.destroyDeploy id clearDir).2 = .ok hd') ∧
        ∀ cause hd', result = .error cause → (w.hd.destroyDeploy id clearDir).2 = .ok hd' →
          err = .ioError ("creating session error: " ++ cause.debug)) := by
  cases e with
  | createSession msg id createDirs =>
    simp only [World.step] at h
    split at h
    · cases h
    · split at h
      · cases h
        simp only [List.mem_singleton, Label.reply.injEq, Reply.createSession.injEq] at hr
        obtain ⟨-, rfl⟩ := hr
        refine ⟨fun _ h => (by cases h), fun err h => .inl ⟨rfl, msg, id, ?_⟩⟩
        cases h; rfl
      · cases h; simp at hr
  | provisioned request' result clearDir =>
    simp only [World.step] at h
    split at h
    · next id htask =>
      cases h
      simp only [List.mem_append, List.mem_map, Function.comp_apply, reduceCtorEq, and_false,
        exists_false, List.mem_singleton, Label.reply.injEq, Reply.createSession.injEq,
        false_or] at hr
      obtain ⟨rfl, rfl⟩ := hr
      obtain ⟨hok, herr, hcause⟩ := w.hd.provisioned_reply id result clearDir
      refine ⟨fun v hv => ?_, fun err herr' => .inr ⟨id, result, clearDir, rfl, htask,
        herr err herr', fun cause hd' hc hd'ok => ?_⟩⟩
      · obtain ⟨rfl, hs⟩ := hok v hv
        exact hs
      · rw [hcause cause hd' hc hd'ok] at herr'
        exact (Except.error.inj herr').symm
    · cases h
  | _ => simp only [World.step] at h; (repeat' split at h) <;> cases h <;> simp at hr

/-- `s1` is created and destroyed while its image downloads; when download and
unpack succeed, the continuation finds no session and its rollback's destroy
fails, and the reply is that `NoSuchSession` error. -/
theorem createSession_reply_after_destroy :
    ∃ w l w' ls, (World.init sampleRoot sampleRoot).run
        [.createSession sampleCreate "s1" (.ok ()), .destroySession "s1" (.ok ())] = some (w, l) ∧
      w.step (.provisioned 0 (.ok ()) (.ok ())) = some (w', ls) ∧
      Label.reply 0 (.createSession (.error (.noSuchSession "s1"))) ∈ ls ∧
      (∀ id, (.error (.noSuchSession "s1") : Except Error String) = .ok id →
        ∃ s, w'.hd.deploys.lookup id = some s ∧ s.status = .created) ∧
      (∀ err, (.error (.noSuchSession "s1") : Except Error String) = .error err →
        (w'.hd = w.hd ∧ ∃ msg id,
          Event.provisioned 0 (.ok ()) (.ok ()) = .createSession msg id (.error err)) ∨
        ∃ id result clearDir, Event.provisioned 0 (.ok ()) (.ok ()) = .provisioned 0 result clearDir ∧
          w.tasks.lookup 0 = some (.provisioning id) ∧
          ((w.hd.destroyDeploy id clearDir).2 = .error err ∨
            id ∉ w'.hd.deploys ∧ ∃ hd', (w.hd.destroyDeploy id clearDir).2 = .ok hd') ∧
          ∀ cause hd', result = .error cause → (w.hd.destroyDeploy id clearDir).2 = .ok hd' →
            err = .ioError ("creating session error: " ++ cause.debug)) := by
  obtain ⟨⟨w, l⟩, hrun, ⟨w', ls⟩, h, hr⟩ : ∃ r, (World.init sampleRoot sampleRoot).run
      [.createSession sampleCreate "s1" (.ok ()), .destroySession "s1" (.ok ())] = some r ∧
      ∃ r', r.1.step (.provisioned 0 (.ok ()) (.ok ())) = some r' ∧
        Label.reply 0 (.createSession (.error (.noSuchSession "s1"))) ∈ r'.2 :=
    ⟨_, (Option.some_get (by decide)).symm, _, (Option.some_get (by decide)).symm, by decide⟩
  exact ⟨w, l, w', ls, hrun, h, hr, createSession_reply h hr⟩

end GolemUnlimited.Provider

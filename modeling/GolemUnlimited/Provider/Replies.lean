import GolemUnlimited.Provider.Children

/-!
# The reply of a `SessionUpdate`

The handler's comment says what its reply is: the outputs of the commands that
succeeded up to the first failure, plus the failed command's error message.
`ReplyOf` states this as a relation between the commands, in order, and the reply,
each command's result being one its closure can report (`Link.Result`). In every
run, every reply of a `SessionUpdate` on a registered session is such a reply for
the links of its chain, with one difference: an `Exec` that ran while its session
was destroyed fails with its output and then the error, two messages for one
command.
-/

namespace GolemUnlimited.Provider

/-- The reply the handler's comment describes for the commands `items`, with the
outputs `trail` already reported: `Ok(trail)` when no command is left; after a
command that succeeds with `out`, the reply of the rest with `out` added to the
trail; after a command that fails with `msgs`, `Err` of the trail and `msgs`.
`R` says which results a command can have. -/
inductive ReplyOf {α : Type} (R : α → Except (List String) (Option String) → Prop) :
    List String → List α → Except (List String) (List String) → Prop
  | nil (trail : List String) : ReplyOf R trail [] (.ok trail)
  | ok {trail : List String} {i : α} {items : List α} {out : Option String}
      {r : Except (List String) (List String)} :
      R i (.ok out) → ReplyOf R (trail ++ out.toList) items r → ReplyOf R trail (i :: items) r
  | error {trail : List String} {i : α} {items : List α} {msgs : List String} :
      R i (.error msgs) → ReplyOf R trail (i :: items) (.error (trail ++ msgs))

/-- A reply for a first command allowed fewer results is one for the same
command allowed more. -/
theorem ReplyOf.head_imp {α : Type} {R : α → Except (List String) (Option String) → Prop}
    {trail : List String} {i j : α} {items : List α} {r : Except (List String) (List String)}
    (h : ReplyOf R trail (i :: items) r) (himp : ∀ x, R i x → R j x) :
    ReplyOf R trail (j :: items) r := by
  cases h with
  | ok hi hrest => exact .ok (himp _ hi) hrest
  | error hi => exact .error (himp _ hi)

/-- A reply for commands given through `f` is a reply for the commands themselves,
each allowed the results of its image. -/
theorem ReplyOf.of_map {α β : Type} {R : α → Except (List String) (Option String) → Prop}
    {f : β → α} {trail : List String} {items : List β} {r : Except (List String) (List String)}
    (h : ReplyOf R trail (items.map f) r) : ReplyOf (fun i => R (f i)) trail items r := by
  induction items generalizing trail with
  | nil => cases h; exact .nil _
  | cons i items ih =>
    cases h with
    | ok hi hrest => exact .ok hi (ih hrest)
    | error hi => exact .error hi

/-- What the continuation of a link can report once its external step has
answered: an `Exec` adds the standard output of a `Run` and fails with the exec
error, or with its output and then `NoSuchSession` when its session is gone; a
kill adds the kill's output; a transfer adds the handler's confirmation; every
other failure is one message. -/
def Await.Result (sessionId : String) : Await → Except (List String) (Option String) → Prop
  | .exec, .ok _ => True
  | .exec, .error msgs =>
    (∃ e, msgs = [e]) ∨ ∃ out, msgs = [out, (Error.noSuchSession sessionId).toString]
  | .kill, .ok out => ∃ output, out = some output
  | .download uri, .ok out => out = some (quoted uri ++ " file downloaded")
  | .upload uri, .ok out => out = some (quoted uri ++ " file uploaded")
  | _, .error msgs => ∃ e, msgs = [e]

/-- What the closure of a link can report, as `handle` builds it, whether it ends
in its synchronous part or in its continuation: a `Start` adds the id its child is
tracked under, or fails with the spawn error or `NoSuchSession`; a tag command adds
the current tags, or fails with `NoSuchSession`; the links that wait report what
their continuation reports, and their synchronous failures are one message. -/
def Link.Result (sessionId : String) : Link → Except (List String) (Option String) → Prop
  | .exec .., r => Await.Result sessionId .exec r
  | .start .., .ok out => ∃ id, out = some id
  | .start .., .error msgs =>
    (∃ e, msgs = [(Error.ioError e).toString]) ∨ msgs = [(Error.noSuchSession sessionId).toString]
  | .stop _, r => Await.Result sessionId .kill r
  | .addTags _, .ok out =>
    ∃ current, out = some ("tags inserted. Current tags are: " ++ debugTags current)
  | .delTags _, .ok out =>
    ∃ current, out = some ("tags removed. Current tags are: " ++ debugTags current)
  | .addTags _, .error msgs => msgs = [(Error.noSuchSession sessionId).toString]
  | .delTags _, .error msgs => msgs = [(Error.noSuchSession sessionId).toString]
  | .downloadFile uri _, r => Await.Result sessionId (.download uri) r
  | .uploadFile uri _, r => Await.Result sessionId (.upload uri) r

/-- A command of a pipeline not yet completed: the link that waits, by the step
it waits for, or a link not begun. -/
inductive Pending
  | waiting (a : Await)
  | link (l : Link)

/-- What a command not yet completed can report. -/
def Pending.Result (sessionId : String) : Pending → Except (List String) (Option String) → Prop
  | .waiting a => a.Result sessionId
  | .link l => l.Result sessionId

namespace Pipeline

/-- The commands a pipeline has not completed, in order: the link that waits,
then the links not begun. -/
def todo (p : Pipeline) : List Pending := p.await.toList.map .waiting ++ p.links.map .link

/-- The steps of one pipeline, each against the manager of its moment, up to its
reply. -/
inductive Completes : Pipeline → Except (List String) (List String) → Prop
  | done {p : Pipeline} {hd hd' : HdMan} {o : Outcome} {r : Except (List String) (List String)}
      {es : List Effect} : p.advance hd o = some (hd', .done r, es) → Completes p r
  | next {p p' : Pipeline} {hd hd' : HdMan} {o : Outcome} {es : List Effect}
      {r : Except (List String) (List String)} :
      p.advance hd o = some (hd', .next p', es) → Completes p' r → Completes p r

/-- A continuation fails with a result of the step it waited for, or completes its
link with one. -/
theorem resume_result {p : Pipeline} {hd hd' : HdMan} {o : Outcome} {a : Await} {r : Progress}
    {es : List Effect} (h : p.resume hd o a = (hd', r, es)) :
    (∃ msgs, r = .done (.error (p.trail ++ msgs)) ∧ a.Result p.sessionId (.error msgs)) ∨
    ∃ out, r = .next { p with trail := p.trail ++ out.toList, await := none } ∧
      a.Result p.sessionId (.ok out) := by
  cases a with
  | exec =>
    simp only [resume] at h
    split at h
    · cases h; exact .inl ⟨_, rfl, .inl ⟨_, rfl⟩⟩
    · next result _ =>
      split at h
      · cases h
        cases result
        · exact .inr ⟨some _, rfl, trivial⟩
        · exact .inr ⟨none, by simp, trivial⟩
      · next e hs =>
        cases h
        obtain ⟨-, rfl⟩ := HdMan.getSessionMut_eq_error.mp hs
        cases result with
        | run out => exact .inl ⟨[out, _], by simp, .inr ⟨out, rfl⟩⟩
        | kill => exact .inl ⟨_, rfl, .inl ⟨_, rfl⟩⟩
  | kill =>
    simp only [resume] at h
    split at h
    · cases h; exact .inl ⟨_, rfl, _, rfl⟩
    · split at h
      · cases h; exact .inr ⟨some _, rfl, _, rfl⟩
      · cases h; exact .inl ⟨_, rfl, _, rfl⟩
    · cases h; exact .inl ⟨_, rfl, _, rfl⟩
  | download uri =>
    simp only [resume] at h
    split at h
    · cases h; exact .inr ⟨some _, rfl, rfl⟩
    · cases h; exact .inl ⟨_, rfl, _, rfl⟩
  | upload uri =>
    simp only [resume] at h
    split at h
    · cases h; exact .inl ⟨_, rfl, _, rfl⟩
    · split at h
      · cases h; exact .inr ⟨some _, rfl, rfl⟩
      · cases h; exact .inl ⟨_, rfl, _, rfl⟩

/-- The synchronous part of a link fails with a result of the link, completes it
with one, or leaves it waiting on a step whose every result is one of the link's. -/
theorem begin_result {p : Pipeline} {hd hd' : HdMan} {rest : List Link} {o : Outcome} {l : Link}
    {r : Progress} {es : List Effect} (h : p.begin hd rest o l = some (hd', r, es)) :
    (∃ msgs, r = .done (.error (p.trail ++ msgs)) ∧ l.Result p.sessionId (.error msgs)) ∨
    (∃ out, r = .next { p with links := rest, trail := p.trail ++ out.toList } ∧
      l.Result p.sessionId (.ok out)) ∨
    ∃ a, r = .next { p with links := rest, await := some a } ∧
      ∀ x, a.Result p.sessionId x → l.Result p.sessionId x := by
  cases l with
  | exec | downloadFile => cases h; exact .inr (.inr ⟨_, rfl, fun _ hx => hx⟩)
  | start =>
    simp only [begin] at h
    split at h
    · cases h; exact .inl ⟨_, rfl, .inl ⟨_, rfl⟩⟩
    · split at h
      · split at h
        · cases h; exact .inr (.inl ⟨some _, rfl, _, rfl⟩)
        · next e hins =>
          cases h
          obtain ⟨-, rfl⟩ := HdMan.insertChild_eq_error.mp hins
          exact .inl ⟨_, rfl, .inr rfl⟩
      · cases h
  | stop =>
    simp only [begin] at h
    split at h
    · cases h; exact .inl ⟨_, rfl, _, rfl⟩
    · split at h
      · cases h; exact .inl ⟨_, rfl, _, rfl⟩
      · cases h; exact .inr (.inr ⟨_, rfl, fun _ hx => hx⟩)
  | addTags | delTags =>
    simp only [begin] at h
    split at h
    · next e hs =>
      cases h
      obtain ⟨-, rfl⟩ := HdMan.getSessionMut_eq_error.mp hs
      exact .inl ⟨_, rfl, rfl⟩
    · cases h; exact .inr (.inl ⟨some _, rfl, _, rfl⟩)
  | uploadFile =>
    simp only [begin] at h
    split at h
    · cases h; exact .inl ⟨_, rfl, _, rfl⟩
    · cases h; exact .inr (.inr ⟨_, rfl, fun _ hx => hx⟩)

/-- Every reply a pipeline completes with is the reply the handler's comment
describes for the commands it has not completed, after its trail. -/
theorem Completes.replyOf {p : Pipeline} {r : Except (List String) (List String)}
    (h : p.Completes r) : ReplyOf (Pending.Result p.sessionId) p.trail p.todo r := by
  induction h with
  | done hadv =>
    rcases advance_cases hadv with ⟨a, ha, hres⟩ | ⟨hidle, hlinks, -, hr, -⟩ |
      ⟨l, rest, hidle, hlinks, hbeg⟩
    · rcases resume_result hres with ⟨msgs, hr, hmsgs⟩ | ⟨out, hr, -⟩
      · cases hr
        simp only [todo, ha]
        exact .error hmsgs
      · cases hr
    · cases hr
      simp only [todo, hidle, hlinks]
      exact .nil _
    · rcases begin_result hbeg with ⟨msgs, hr, hmsgs⟩ | ⟨out, hr, -⟩ | ⟨a, hr, -⟩
      · cases hr
        simp only [todo, hidle, hlinks]
        exact .error hmsgs
      · cases hr
      · cases hr
  | next hadv _ ih =>
    rcases advance_cases hadv with ⟨a, ha, hres⟩ | ⟨-, -, -, hr, -⟩ | ⟨l, rest, hidle, hlinks, hbeg⟩
    · rcases resume_result hres with ⟨msgs, hr, -⟩ | ⟨out, hr, hout⟩
      · cases hr
      · cases hr
        simp only [todo, ha] at ih ⊢
        exact .ok hout ih
    · cases hr
    · rcases begin_result hbeg with ⟨msgs, hr, -⟩ | ⟨out, hr, hout⟩ | ⟨a, hr, himp⟩
      · cases hr
      · cases hr
        simp only [todo, hidle, hlinks] at ih ⊢
        exact .ok hout ih
      · cases hr
        simp only [todo, hidle, hlinks] at ih ⊢
        exact ih.head_imp himp

end Pipeline

namespace World

/-- An event never moves the request counter back. -/
theorem step_nextRequest {w w' : World} {e : Event} {ls : List Label}
    (h : w.step e = some (w', ls)) : w.nextRequest ≤ w'.nextRequest := by
  cases e <;> simp only [step] at h <;> (repeat' split at h) <;> cases h <;> simp

/-- One event keeps every future in flight under a request number already handed
out. -/
theorem step_tasks_lt {w w' : World} {e : Event} {ls : List Label} (h : w.step e = some (w', ls))
    (hlt : ∀ k ∈ w.tasks, k < w.nextRequest) : ∀ k ∈ w'.tasks, k < w'.nextRequest := by
  have hnew : ∀ t k, k ∈ w.tasks.insert w.nextRequest t → k < w.nextRequest + 1 := by
    intro t k hk
    rcases (AList.mem_insert _).mp hk with rfl | hk
    · exact Nat.lt_succ_self _
    · exact Nat.lt_succ_of_lt (hlt k hk)
  cases e with
  | createSession msg id createDirs =>
    simp only [step] at h
    split at h
    · cases h
    · split at h
      · cases h; exact fun k hk => Nat.lt_succ_of_lt (hlt k hk)
      · cases h; exact hnew _
  | provisioned request result clearDir =>
    simp only [step] at h
    split at h
    · cases h; exact fun k hk => hlt k (AList.mem_erase.mp hk).2
    · cases h
  | sessionUpdate msg =>
    simp only [step] at h
    split at h
    · cases h; exact hnew _
    · cases h; exact fun k hk => Nat.lt_succ_of_lt (hlt k hk)
  | advance request o =>
    simp only [step] at h
    split at h
    · next p htask =>
      have hreq : request ∈ w.tasks := AList.lookup_isSome.mp (by simp [htask])
      split at h
      · cases h
        intro k hk
        rcases (AList.mem_insert _).mp hk with rfl | hk
        · exact hlt k hreq
        · exact hlt k hk
      · cases h; exact fun k hk => hlt k (AList.mem_erase.mp hk).2
      · cases h
    · cases h
  | scan poll => cases h; exact hlt
  | destroySession id clearDir =>
    simp only [step] at h
    split at h <;> (cases h; exact fun k hk => Nat.lt_succ_of_lt (hlt k hk))
  | getSessions => cases h; exact fun k hk => Nat.lt_succ_of_lt (hlt k hk)

/-- In every reachable world, each future in flight is under a request number
already handed out. -/
theorem Reachable.tasks_lt {w : World} (hw : w.Reachable) : ∀ k ∈ w.tasks, k < w.nextRequest := by
  induction hw with
  | init => exact fun k hk => absurd hk (AList.not_mem_empty k)
  | step _ hst ih => exact step_tasks_lt hst ih

/-- What one event does to a request handed out before it: it leaves the
request's future as it is and replies nothing, or advances its pipeline, or
completes its future, and a `SessionUpdate` reply then is what a pipeline step
replied. -/
theorem step_request {w w' : World} {e : Event} {ls : List Label} (h : w.step e = some (w', ls))
    {request : Nat} (hne : request ≠ w.nextRequest) :
    (w'.tasks.lookup request = w.tasks.lookup request ∧ ∀ rep, .reply request rep ∉ ls) ∨
    (∃ p o hd' p' es, w.tasks.lookup request = some (.pipeline p) ∧
      p.advance w.hd o = some (hd', .next p', es) ∧
      w'.tasks.lookup request = some (.pipeline p') ∧ ∀ rep, .reply request rep ∉ ls) ∨
    (∃ t, w.tasks.lookup request = some t ∧ w'.tasks.lookup request = none ∧
      ∀ r, .reply request (.sessionUpdate r) ∈ ls →
        ∃ p o hd' es, t = .pipeline p ∧ p.advance w.hd o = some (hd', .done r, es)) := by
  cases e with
  | createSession msg id createDirs =>
    simp only [step] at h
    split at h
    · cases h
    · split at h
      · cases h; exact .inl ⟨rfl, by simp [hne]⟩
      · cases h; exact .inl ⟨AList.lookup_insert_ne hne, by simp⟩
  | provisioned request' result clearDir =>
    simp only [step] at h
    split at h
    · next id htask =>
      cases h
      by_cases heq : request = request'
      · subst heq
        exact .inr (.inr ⟨_, htask, AList.lookup_erase _ _, by simp⟩)
      · exact .inl ⟨AList.lookup_erase_ne heq, by simp [heq]⟩
    · cases h
  | sessionUpdate msg =>
    simp only [step] at h
    split at h
    · cases h; exact .inl ⟨AList.lookup_insert_ne hne, by simp⟩
    · cases h; exact .inl ⟨rfl, by simp [hne]⟩
  | advance request' o =>
    simp only [step] at h
    split at h
    · next p htask =>
      split at h
      · next hd' p' es hadv =>
        cases h
        by_cases heq : request = request'
        · subst heq
          exact .inr (.inl ⟨p, o, hd', p', es, htask, hadv, by simp, by simp⟩)
        · exact .inl ⟨AList.lookup_insert_ne heq, by simp⟩
      · next hd' r es hadv =>
        cases h
        by_cases heq : request = request'
        · subst heq
          refine .inr (.inr ⟨_, htask, AList.lookup_erase _ _, fun r' hr' => ?_⟩)
          obtain rfl : r' = r := by simpa using hr'
          exact ⟨p, o, hd', es, rfl, hadv⟩
        · exact .inl ⟨AList.lookup_erase_ne heq, by simp [heq]⟩
      · cases h
    · cases h
  | scan poll => cases h; exact .inl ⟨rfl, by simp⟩
  | destroySession id clearDir =>
    simp only [step] at h
    split at h <;> (cases h; exact .inl ⟨rfl, by simp [hne]⟩)
  | getSessions => cases h; exact .inl ⟨rfl, by simp [hne]⟩

/-- A request handed out whose future is not in flight gets no reply in any later
run: no request is answered twice. -/
theorem run_no_reply {w w' : World} {es : List Event} {ls : List Label}
    (h : w.run es = some (w', ls)) {request : Nat} (hlt : request < w.nextRequest)
    (hnone : w.tasks.lookup request = none) (rep : Reply) : .reply request rep ∉ ls := by
  induction es generalizing w ls with
  | nil => cases h; simp
  | cons e es ih =>
    simp only [run] at h
    split at h
    · next w₁ l₁ hstep =>
      split at h
      · next w₂ l₂ hrun =>
        cases h
        have hlt₁ := Nat.lt_of_lt_of_le hlt (step_nextRequest hstep)
        rcases step_request hstep (Nat.ne_of_lt hlt) with
          ⟨hsame, hno⟩ | ⟨_, _, _, _, _, hp, -⟩ | ⟨_, ht, -⟩
        · simp only [List.mem_append, not_or]
          exact ⟨hno rep, ih hrun hlt₁ (hsame.trans hnone)⟩
        · simp [hnone] at hp
        · simp [hnone] at ht
      · cases h
    · cases h

/-- In any run from a reachable world, a reply to the request of a pipeline in
flight is one that pipeline completes with, whatever ran in between. -/
theorem run_completes {w w' : World} {es : List Event} {ls : List Label} (hw : w.Reachable)
    (h : w.run es = some (w', ls)) {request : Nat} {p : Pipeline}
    (hp : w.tasks.lookup request = some (.pipeline p)) {r : Except (List String) (List String)}
    (hr : .reply request (.sessionUpdate r) ∈ ls) : p.Completes r := by
  induction es generalizing w p ls with
  | nil => cases h; cases hr
  | cons e es ih =>
    simp only [run] at h
    split at h
    · next w₁ l₁ hstep =>
      split at h
      · next w₂ l₂ hrun =>
        cases h
        have hlt : request < w.nextRequest :=
          hw.tasks_lt request (AList.lookup_isSome.mp (by simp [hp]))
        rcases step_request hstep (Nat.ne_of_lt hlt) with
          ⟨hsame, hno⟩ | ⟨p₀, o, hd', p', es', hp₀, hadv, hp', hno⟩ | ⟨t, ht, hnone, hdone⟩
        · rcases List.mem_append.mp hr with hr₁ | hr₂
          · exact absurd hr₁ (hno _)
          · exact ih (.step hw hstep) hrun (hsame.trans hp) hr₂
        · obtain rfl : p = p₀ := by simpa [hp] using hp₀
          rcases List.mem_append.mp hr with hr₁ | hr₂
          · exact absurd hr₁ (hno _)
          · exact .next hadv (ih (.step hw hstep) hrun hp' hr₂)
        · rcases List.mem_append.mp hr with hr₁ | hr₂
          · obtain ⟨p₀, o, hd', es', rfl, hadv⟩ := hdone r hr₁
            obtain rfl : p = p₀ := by simpa [hp] using ht
            exact .done hadv
          · exact absurd hr₂
              (run_no_reply hrun (Nat.lt_of_lt_of_le hlt (step_nextRequest hstep)) hnone _)
      · cases h
    · cases h

end World

/-- `s1` is created and provisioned, an `Exec` on it is sent to the exec manager,
and `s1` is destroyed before the exec answers with its output. -/
def execDuringDestroy : List Event :=
  [.createSession sampleCreate "s1" (.ok ()),
   .provisioned 0 (.ok ()) (.ok ()),
   .sessionUpdate ⟨"s1", [.exec "bin/task" []]⟩,
   .advance 1 Outcome.failing,
   .destroySession "s1" (.ok ()),
   .advance 1 { Outcome.failing with exec := .ok (.run "out") }]

/-- In `execDuringDestroy` the one failing command is reported with two messages,
its output and the `NoSuchSession` error. -/
theorem exec_failure_two_messages :
    ((World.init sampleRoot sampleRoot).run execDuringDestroy).map (·.2) =
      some [.reply 0 (.createSession (.ok "s1")),
        .reply 2 (.destroySession (.ok "Session closed")),
        .reply 1 (.sessionUpdate (.error ["out", "no such session s1"]))] := by
  decide

end GolemUnlimited.Provider

import StationHub.Proofs.Hub.Moves

/-!
The effect of a move.

* `resume_effect`: the effect of a task that goes on.
* `step?_effect`: the effect of a move is the one that `takeoverEnded?` and `callEvent?` announce.
-/

namespace StationHub.Hub

variable {clears opens : Prop}

/-! ### Calls and ends -/

theorem beginCall_effect (h : Hub) (variant : Variant) (key : Key) (command : String)
    (payload : Json) :
    Effect clears opens h (h.beginCall variant key command payload).1 none
      (h.callEvent? (.calling variant key command payload)) := by
  refine .after (aside_newTask h) ?_
  unfold beginCall callEvent?
  cases slot_of : h.registered? variant key with
  | none =>
      have absent : h.newTask.1.registered? variant key = none := slot_of
      simp only [slot_of, absent]
      exact .of_aside (aside_conclude _ _ _)
  | some slot =>
      have there : h.newTask.1.registered? variant key = some slot := slot_of
      simp only [slot_of, there, Option.bind_some]
      have sent : Effect clears opens h.newTask.1 _ none _ :=
        sendCall_effect h.newTask.1 slot.session command payload
      rcases called : h.newTask.1.sendCall slot.session command payload with
        ⟨next, failure | id⟩ <;>
        rw [called] at sent
      · exact .before sent (aside_conclude next _ _)
      · exact .before sent (aside_suspend (.inr rfl) next _)

/-- The cause of a connection that was told to close. -/
theorem isSome_cause_closed {h : Hub} {i : Nat} {cause : CloseCause} {link : Link}
    (here : (h.closed i cause).link? i = some link) : link.cause.isSome = true := by
  unfold closed closeLink at here
  cases before : h.link? i with
  | none =>
      simp only [before] at here
      cases here
  | some l =>
      simp only [before] at here
      obtain ⟨c, at_i, rfl⟩ := link?_eq_some_iff.mp here
      rw [modifyLink, connection?_modifyConnection] at at_i
      obtain ⟨d, -, rfl⟩ := Option.map_eq_some_iff.mp at_i
      simpa using Link.isSome_cause_close l cause

/-- The end of a connection is counted once, when its phase becomes the last one. -/
theorem quiet_finish {h : Hub} {i : Nat}
    (known : ∀ link, h.link? i = some link → link.cause.isSome = true) :
    Quiet clears h (match h.link? i with
      | none => h
      | some l =>
          if l.finish.2 then (h.modifyLink i fun _ => l.finish.1).count .closed
          else h.modifyLink i fun _ => l.finish.1) := by
  split
  · exact .refl
  · rename_i l here
    have finished : Quiet clears h (h.modifyLink i fun _ => l.finish.1) :=
      quiet_replaceLink here (Link.leadsTo_finish (known l here))
    split
    · exact finished.trans (quiet_count (by decide) _)
    · exact finished

theorem link?_unregister (h : Hub) (variant : Variant) (key : Key) (link i : Nat) :
    (h.unregister variant key link).1.link? i = h.link? i := by
  unfold unregister
  simp [link?]

theorem link?_failPending (h : Hub) (session i : Nat) :
    (h.failPending session).1.link? i = h.link? i := by
  unfold failPending
  split <;> rfl

/-- The hub after the session of a connection that ends is removed and its calls failed. -/
def withoutSession (h : Hub) (link : Nat) (session : Option Nat) : Hub :=
  match session.bind fun number => (h.session? number).map fun s => (number, s) with
  | none => h
  | some (number, s) => ((h.unregister s.variant s.key link).1.failPending number).1

/-- The hub after a connection that ends has entered its last phase. -/
def finishLink (h : Hub) (link : Nat) : Hub :=
  match h.link? link with
  | none => h
  | some l =>
      let h := h.modifyLink link fun _ => l.finish.1
      if l.finish.2 then h.count .closed else h

theorem handleEnd_eq (h : Hub) (link : Nat) (session : Option Nat) :
    h.handleEnd link session =
      ((h.closed link .normal).withoutSession link session).finishLink link := rfl

theorem handleEnd_effect (h : Hub) (link : Nat) (session : Option Nat) :
    Effect True opens h (h.handleEnd link session) none (h.callEvent? (.ending link session)) := by
  have closed : Quiet True h (h.closed link .normal) := quiet_closed h link .normal
  refine .after (Quiet.aside closed) ?_
  have known : ∀ l, (h.closed link .normal).link? link = some l → l.cause.isSome = true :=
    fun _ => isSome_cause_closed
  unfold handleEnd
  cases session with
  | none => exact .of_aside (Quiet.aside (quiet_finish known))
  | some number =>
      cases here : (h.closed link .normal).session? number with
      | none =>
          have booked : Effect True opens (h.closed link .normal) _ none _ :=
            .of_book (h.closed link .normal) number .ended
          rw [← failPending_eq_book] at booked
          simp only [failPending, here] at booked
          simp only [Option.bind_some, here, Option.map_none]
          exact .before booked (Quiet.aside (quiet_finish known))
      | some s =>
          have removed : Quiet True (h.closed link .normal) _ :=
            quiet_unregister (h.closed link .normal) s.variant s.key link
          refine .after (Quiet.aside removed) ?_
          have booked : Effect True opens
              ((h.closed link .normal).unregister s.variant s.key link).1 _ none _ :=
            .of_book ((h.closed link .normal).unregister s.variant s.key link).1 number .ended
          rw [← failPending_eq_book] at booked
          simp only [Option.bind_some, here, Option.map_some]
          refine .before booked (Quiet.aside (quiet_finish fun l there => known l ?_))
          rwa [link?_failPending, link?_unregister] at there

/-! ### Sweeps and guards -/

theorem aside_sweepManagement (h : Hub) (id : Nat) (members : List Member) (report : SweepReport) :
    Aside True opens h (h.sweepManagement id members report) := by
  unfold sweepManagement
  split
  · exact aside_suspend (.inr rfl) h id
  · exact (Quiet.aside (quiet_countEvicted h members)).trans (aside_conclude _ id _)

theorem aside_sweepDevices (h : Hub) (id : Nat) (members : List Member) (report : SweepReport) :
    Aside True opens h (h.sweepDevices id members report) := by
  unfold sweepDevices
  split
  · exact aside_suspend (.inr rfl) h id
  · have begun : Quiet True h ((h.countEvicted members).beginRoster .management).1 :=
      (quiet_countEvicted h members).trans (quiet_beginRoster _ .management)
    exact (Quiet.aside begun).trans (aside_sweepManagement _ id _ _)

theorem aside_beginSweep (h : Hub) : Aside True opens h h.beginSweep.1 := by
  have begun : Quiet True h.newTask.1 (h.newTask.1.beginRoster .device).1 :=
    quiet_beginRoster h.newTask.1 .device
  exact ((aside_newTask h).trans (Quiet.aside begun)).trans (aside_sweepDevices _ h.nextTask _ {})

theorem aside_resumeSweep (h : Hub) (id : Nat) (variant : Variant) (members : List Member)
    (report : SweepReport) : Aside True opens h (h.resumeSweep id variant members report) := by
  have resumed : Quiet True h
      (eachMember (fun h member => h.resumeMember variant member) h members).1 :=
    quiet_eachMember (fun h member => quiet_resumeMember h variant member) h members
  unfold resumeSweep
  cases variant with
  | device => exact (Quiet.aside resumed).trans (aside_sweepDevices _ id _ report)
  | management => exact (Quiet.aside resumed).trans (aside_sweepManagement _ id _ report)

theorem aside_beginProbe (h : Hub) (link wait : Nat) :
    Aside clears opens h (h.beginProbe link wait).1 := by
  have probed : Quiet clears h.newTask.1 _ := quiet_startProbe h.newTask.1 link wait
  unfold beginProbe
  dsimp only
  split <;> rename_i started <;> rw [started] at probed
  · exact ((aside_newTask h).trans (Quiet.aside probed)).trans (aside_conclude _ _ _)
  · exact ((aside_newTask h).trans (Quiet.aside probed)).trans (aside_suspend (.inr rfl) _ _)

theorem aside_keepGuard (h : Hub) (id : Nat) (guard : Guard) :
    Aside clears opens h (h.keepGuard id guard) :=
  (aside_conclude h id _).trans (aside_suspend (.inr rfl) _ id)

theorem aside_beginGuard (h : Hub) (path : String) :
    Aside clears opens h (h.beginGuard path).1 := by
  have begun : Aside clears opens h h.newTask.1 := aside_newTask h
  unfold beginGuard
  dsimp only
  split
  · exact (begun.trans (aside_lock _ _)).trans (aside_keepGuard _ _ _)
  · exact (begun.trans (aside_lock _ _)).trans (aside_suspend (.inr rfl) _ _)

theorem aside_cancel (h : Hub) (id : Nat) : Aside clears opens h (h.cancel id) := by
  unfold cancel
  split
  · exact .refl
  · have left : Aside clears opens h { h.detach id with lock := h.lock.withdraw id } :=
      (aside_detach h id).trans (aside_lock _ _)
    dsimp only
    split
    · exact left.trans (Quiet.aside (quiet_release _ _))
    · exact left

/-! ### Tasks that go on -/

/-- A task that tries for its path goes on with it or waits again. -/
theorem aside_resumeLock {h : Hub} {task : Task}
    (waits : opens ∨ task.activity.opened? = none) {next : Hub → Guard → Hub}
    (goesOn : ∀ mid guard, Aside clears opens mid (next mid guard)) :
    Aside clears opens h (h.resumeLock task next) := by
  unfold resumeLock
  split
  · exact (aside_lock h _).trans (goesOn _ _)
  · exact (aside_lock h _).trans (aside_suspend waits _ _)

theorem resumeProbe_of_verdict {h : Hub} {task : Task} {link : Nat} {probe : Link.Probe} {alive : Bool}
    {goesOn : Hub → Bool → Hub} (decided : h.verdict? link probe = some alive) :
    h.resumeProbe task link probe goesOn = goesOn h alive := by
  rw [resumeProbe, decided]

/-- A task whose probe is decided goes on with the verdict. -/
theorem resumeProbe_effect {h : Hub} {task : Task} {link : Nat} {probe : Link.Probe}
    {next : Hub → Bool → Hub} {seated : Option Nat} {event : Option (Nat × CallEvent)}
    (decided : (h.verdict? link probe).isSome = true)
    (goesOn : ∀ alive, Effect clears opens h (next h alive) seated event) :
    Effect clears opens h (h.resumeProbe task link probe next) seated event := by
  obtain ⟨alive, verdict⟩ := Option.isSome_iff_exists.mp decided
  rw [resumeProbe_of_verdict verdict]
  exact goesOn alive

theorem id_of_task? {h : Hub} {id : Nat} {task : Task} (found : h.task? id = some task) :
    task.id = id := by
  simpa using List.find?_some found

/-- The effect of a task that goes on. -/
theorem resume_effect {h : Hub} {id : Nat} {task : Task} (found : h.task? id = some task)
    (ready : h.isReady task = true) :
    Effect (h.clears (.resume id) = true) ((h.opens? (.resume id)).isSome = true) h (h.resume task)
      ((h.takeoverEnded? (.resume id)).map Prod.snd) (h.callEvent? (.resume id)) := by
  have left : Aside (h.clears (.resume id) = true) ((h.opens? (.resume id)).isSome = true) h
      (h.detach task.id) := aside_detach h task.id
  have seated : ∀ session, ((h.session? session).map fun _ => (id, session)).map Prod.snd =
      ((h.detach task.id).session? session).map fun _ => session := by
    intro session
    rw [Option.map_map]
    rfl
  obtain ⟨number, activity⟩ := task
  unfold resume
  unfold isReady at ready
  refine .after left ?_
  simp only [takeoverEnded?, callEvent?, clears, opens?, found, Option.map_some, Option.bind_some]
  cases activity with
  | openWaiting link target =>
      exact .of_aside (aside_resumeLock (.inl rfl) fun mid guard =>
        aside_afterGuard rfl mid _ link target guard)
  | openResolving link target guard => cases ready
  | openProbing link session guard rival probe =>
      simp only [Activity.taking?, Option.bind_some, seated]
      refine resumeProbe_effect ready fun alive => verdict_effect rival alive
        (fun mid => mid.afterTakeover number link session guard) fun mid still => ?_
      exact .of_aside ((aside_afterTakeover mid number link session guard).mono
        fun stopping => still ▸ stopping)
  | messageProbing session path message rival probe =>
      simp only [Activity.taking?, Option.bind_some, seated]
      refine resumeProbe_effect ready fun alive => verdict_effect rival alive
        (fun mid => mid.receive number session path message) fun mid _ => ?_
      exact receive_effect mid number session path message
  | callWaiting session request =>
      exact .of_aside (aside_resumeLock (.inr rfl) fun mid guard =>
        aside_execute mid _ session request _)
  | callStarting session request => exact .of_aside (aside_execute _ _ session request none)
  | executing session context request guard => cases ready
  | takingOver session rival probe =>
      simp only [Activity.taking?, Option.bind_some, seated]
      refine resumeProbe_effect ready fun alive => verdict_effect rival alive
        (fun mid => mid.conclude number _) fun mid _ => ?_
      exact .of_aside (aside_conclude mid number _)
  | probing link probe =>
      exact resumeProbe_effect ready fun alive => .of_aside (aside_conclude _ number _)
  | sweeping variant members report =>
      exact .of_aside ((aside_resumeSweep _ _ variant members report).mono fun _ => rfl)
  | calling session call =>
      dsimp only
      split
      · exact .of_aside (aside_conclude _ _ _)
      · exact .of_aside (aside_suspend (.inr rfl) _ _)
  | guardWaiting =>
      exact .of_aside (aside_resumeLock (.inr rfl) fun mid guard => aside_keepGuard mid _ guard)
  | guarding guard => cases ready

/-! ### Answers from outside -/

theorem directoryAnswers?_effect {h next : Hub} {id : Nat}
    {answer : Except Failure Identity} (answered : h.directoryAnswers? id answer = some next) :
    Effect clears ((h.opens? (.directoryAnswers id answer)).isSome = true) h next
      ((h.takeoverEnded? (.directoryAnswers id answer)).map Prod.snd) none := by
  unfold directoryAnswers? at answered
  split at answered
  · rename_i link target guard found
    have allowed : (h.opens? (.directoryAnswers id answer)).isSome = true := by
      obtain ⟨task, waits, resolving⟩ := Option.map_eq_some_iff.mp found
      simp [opens?, waits, resolving, Activity.opened?]
    cases answered
    refine .after (aside_detach h id) ?_
    unfold afterDirectory
    cases answer with
    | error failure =>
        have closed : Quiet clears (h.detach id)
            (((h.detach id).count .resolutionFailed).closed link .unidentified) :=
          (quiet_count (by decide) _).trans (quiet_closed _ link _)
        exact .of_aside ((Quiet.aside closed).trans (aside_endOpening _ id guard _))
    | ok identity =>
        unfold takeoverEnded? identified?
        simp only [found]
        have sameClosed : (h.detach id).isClosed link = h.isClosed link := rfl
        have sameStopping : (h.detach id).stopping = h.stopping := rfl
        rw [sameClosed, sameStopping]
        by_cases gone : h.isClosed link = true
        · simp only [gone, Bool.true_or, if_true]
          exact .of_aside (aside_endOpening _ id guard _)
        · by_cases stopping : h.stopping = true
          · simp only [gone, stopping, Bool.or_true, if_true]
            have closed : Quiet clears (h.detach id) ((h.detach id).closed link .shutdown) :=
              quiet_closed _ link _
            exact .of_aside ((Quiet.aside closed).trans (aside_endOpening _ id guard _))
          · simp only [gone, stopping, Bool.or_self, Bool.false_eq_true, if_false]
            cases here : h.link? link with
            | none =>
                have absent : (h.detach id).link? link = none := here
                unfold afterIdentified
                rw [absent]
                exact .of_aside (aside_endOpening _ id guard _)
            | some l =>
                have there : (h.detach id).link? link = some l := here
                have running : (h.detach id).stopping = false := Bool.eq_false_iff.mpr stopping
                have taken : Effect clears _ (h.detach id) _ _ none :=
                  afterIdentified_effect allowed there running id guard identity
                have sameLength : (h.detach id).sessions.length = h.sessions.length := rfl
                simp only [Option.map_some]
                cases atOnce : ((h.detach id).withSession link l.variant identity).takesAtOnce
                    h.sessions.length <;>
                  rw [sameLength, atOnce] at taken <;>
                  exact taken
  · cases answered

theorem executorAnswers?_effect {h next : Hub} {id : Nat} {reply : Reply}
    (answered : h.executorAnswers? id reply = some next) :
    Effect clears opens h next none none := by
  unfold executorAnswers? at answered
  split at answered
  · cases answered
    exact .of_aside ((aside_detach h id).trans (aside_afterExecution _ id _ _ _ reply))
  · cases answered

/-! ### Moves -/

/-- A task that goes on waited and was ready. -/
theorem resumed {h next : Hub} {id : Nat} (moved : h.step? (.resume id) = some next) :
    ∃ task, h.task? id = some task ∧ h.isReady task = true ∧ next = h.resume task := by
  simp only [step?] at moved
  cases found : h.task? id with
  | none =>
      rw [found] at moved
      cases moved
  | some task =>
      simp only [found, Option.ite_none_right_eq_some, Option.some.injEq] at moved
      obtain ⟨ready, same⟩ := moved
      exact ⟨task, rfl, ready, same.symm⟩

/-- The directory answers an opening that waits for it. -/
theorem resolved {h next : Hub} {id : Nat} {answer : Except Failure Identity}
    (moved : h.step? (.directoryAnswers id answer) = some next) :
    ∃ link target guard, h.task? id = some ⟨id, .openResolving link target guard⟩ ∧
      next = (h.detach id).afterDirectory id link guard answer := by
  simp only [step?, directoryAnswers?] at moved
  split at moved
  · rename_i link target guard waits
    obtain ⟨⟨number, activity⟩, found, rfl⟩ := Option.map_eq_some_iff.mp waits
    cases id_of_task? found
    exact ⟨link, target, guard, found, (Option.some.inj moved).symm⟩
  · cases moved

/-- The executor answers a call that waits for it. -/
theorem executed {h next : Hub} {id : Nat} {reply : Reply}
    (moved : h.step? (.executorAnswers id reply) = some next) :
    ∃ session context request guard,
      h.task? id = some ⟨id, .executing session context request guard⟩ ∧
        next = (h.detach id).afterExecution id session request guard reply := by
  simp only [step?, executorAnswers?] at moved
  split at moved
  · rename_i session context request guard waits
    obtain ⟨⟨number, activity⟩, found, rfl⟩ := Option.map_eq_some_iff.mp waits
    cases id_of_task? found
    exact ⟨session, context, request, guard, found, (Option.some.inj moved).symm⟩
  · cases moved

/-- The effect of a move: the session that `takeoverEnded?` names comes to hold its slot, the calls
change by what `callEvent?` names, and slots are emptied at most if `clears` allows it. -/
theorem step?_effect {h next : Hub} {move : Move} (moved : h.step? move = some next) :
    Effect (h.clears move = true) ((h.opens? move).isSome = true) h next
      ((h.takeoverEnded? move).map Prod.snd) (h.callEvent? move) := by
  cases move with
  | accept variant =>
      cases moved
      have accepted : Aside (h.clears (.accept variant) = true)
          ((h.opens? (.accept variant)).isSome = true) h _ :=
        .single (.accept { link := .fresh variant h.settings.queueCapacity h.settings.watermark }
          (Link.coherent_fresh variant _ _))
      exact .of_aside (accepted.trans (Quiet.aside (quiet_count (by decide) _)))
  | refuse =>
      cases moved
      exact .of_aside (Quiet.aside (quiet_count (by decide) _))
  | opening link target =>
      simp only [step?, Option.ite_none_right_eq_some, Option.some.injEq] at moved
      obtain ⟨-, rfl⟩ := moved
      exact .of_aside (aside_beginOpening rfl h link target)
  | handling session path decoded =>
      cases moved
      exact beginHandling_effect h session path decoded
  | sending session command payload =>
      cases moved
      exact sendCall_effect h session command payload
  | calling variant key command payload =>
      cases moved
      exact beginCall_effect h variant key command payload
  | settling session id answer =>
      cases moved
      exact settle_effect h session id answer
  | failing session =>
      cases moved
      rw [failPending_eq_book]
      exact .of_book h session .ended
  | reconciling session =>
      cases moved
      exact beginReconcile_effect h session
  | sweeping =>
      cases moved
      exact .of_aside ((aside_beginSweep h).mono fun _ => rfl)
  | probing link wait =>
      cases moved
      exact .of_aside (aside_beginProbe h link wait)
  | ping link =>
      cases moved
      exact .of_aside (Quiet.aside (quiet_modifyLink (fun l => l.leadsTo_ping h.now) h link))
  | pong link =>
      cases moved
      exact .of_aside (Quiet.aside (quiet_modifyLink (fun l => l.leadsTo_pong h.now) h link))
  | text link text =>
      cases moved
      exact .of_aside (Quiet.aside (quiet_sendText h link text))
  | close link cause =>
      cases moved
      exact .of_aside (Quiet.aside (quiet_closed h link cause))
  | ending link session =>
      cases moved
      exact (handleEnd_effect h link session).mono fun _ => rfl
  | stopping link =>
      cases moved
      exact .of_aside (.single (.quiet (.connection link _ fun c _ => c.leadsTo_stop)))
  | holding link =>
      simp only [step?, Option.ite_none_right_eq_some, Option.some.injEq] at moved
      obtain ⟨-, rfl⟩ := moved
      exact .of_aside (.single (.quiet (.connection link _ fun c _ => .refl c.link)))
  | lettingGo link =>
      cases moved
      exact .of_aside (.single (.quiet (.connection link _ fun c _ => .refl c.link)))
  | closeAll cause =>
      cases moved
      exact .of_aside ((Quiet.aside (quiet_closeAll h cause)).mono fun _ => rfl)
  | shutDown =>
      cases moved
      have halted : Aside True ((h.opens? .shutDown).isSome = true) h { h with stopping := true } :=
        .single .halt
      have closed : Aside True ((h.opens? .shutDown).isSome = true) h h.shutDown.1 :=
        halted.trans (Quiet.aside (quiet_closeAll _ .shutdown))
      exact .of_aside (closed.mono fun _ => rfl)
  | guarding path =>
      cases moved
      exact .of_aside (aside_beginGuard h path)
  | cancel task =>
      cases moved
      exact .of_aside (aside_cancel h task)
  | resume id =>
      obtain ⟨task, found, ready, rfl⟩ := resumed moved
      exact resume_effect found ready
  | directoryAnswers task answer => exact directoryAnswers?_effect moved
  | executorAnswers task reply => exact executorAnswers?_effect moved
  | expire session id =>
      rw [expire?_eq_book moved]
      exact .of_book h session (.overdue id h.now)
  | takeUp link =>
      refine .of_aside (Quiet.aside ?_)
      exact quiet_changeConnection? (fun _ _ => Connection.leadsTo_takeUp?) moved
  | socketTakes link =>
      refine .of_aside (Quiet.aside ?_)
      exact quiet_changeConnection? (fun _ _ => Connection.leadsTo_accepted?) moved
  | socketFails link =>
      refine .of_aside (Quiet.aside ?_)
      exact quiet_changeConnection? (fun _ _ => Connection.leadsTo_failed?) moved
  | writerExpires link =>
      refine .of_aside (Quiet.aside ?_)
      exact quiet_changeConnection? (fun _ _ => Connection.leadsTo_expired?) moved
  | advance ms =>
      cases moved
      exact .of_aside (.single (.clock ms))

end StationHub.Hub

import StationHub.Proofs.Tasks.Waiting

/-!
What tasks come to. An operation of a task adds the outcome of that task to what is finished, and
of no other, or adds nothing.

* `Concludes`: what an operation adds; each one has its lemma `concludes_…`.
* `step?_finished`: what a move adds.
-/

namespace StationHub.Hub

/-- Outcomes of task number `id` come to what is finished, and no others. -/
def Concludes (id : Nat) (h next : Hub) : Prop :=
  ∃ ended, next.finished = h.finished ++ ended ∧ ∀ entry ∈ ended, entry.1 = id

variable {id : Nat}

theorem concludes_of_eq {h next : Hub} (same : next.finished = h.finished) : Concludes id h next :=
  ⟨[], same.trans (List.append_nil _).symm, nofun⟩

theorem concludes_of_ended {h next : Hub} {outcome : TaskOutcome}
    (ended : next.finished = h.finished ++ [(id, outcome)]) : Concludes id h next := by
  refine ⟨_, ended, fun entry member => ?_⟩
  rw [List.mem_singleton.mp member]

theorem Concludes.after {h mid next : Hub} (same : mid.finished = h.finished)
    (concludes : Concludes id mid next) : Concludes id h next := by
  unfold Concludes
  rw [← same]
  exact concludes

theorem Quiet.finished {h next : Hub} (quiet : Quiet True h next) : next.finished = h.finished :=
  (Quiet.tasks quiet).2.2

/-! ### Openings -/

theorem concludes_afterTakeover (h : Hub) (id link session : Nat) (guard : Guard) :
    Concludes id h (h.afterTakeover id link session guard) := by
  unfold afterTakeover
  split
  · have closed := finished_closed h link .shutdown
    dsimp only
    split
    · exact .after closed (concludes_of_ended rfl)
    · exact .after ((reseats_setRoster _ _ _).finished.trans closed) (concludes_of_ended rfl)
  · exact concludes_of_ended rfl

theorem concludes_afterGuard (h : Hub) (id link : Nat) (target : Target) (guard : Guard) :
    Concludes id h (h.afterGuard id link target guard) := by
  unfold afterGuard
  split
  · exact concludes_of_ended rfl
  · split
    · exact .after (finished_closed h link .shutdown) (concludes_of_ended rfl)
    · exact concludes_of_eq rfl

theorem concludes_beginOpening (h : Hub) (link : Nat) (target : Target) :
    Concludes h.nextTask h (h.beginOpening link target).1 := by
  unfold beginOpening
  dsimp only
  split
  · exact .after rfl (concludes_afterGuard _ _ link target _)
  · exact concludes_of_eq rfl

theorem concludes_afterIdentified (h : Hub) (id link : Nat) (guard : Guard)
    (identity : Identity) : Concludes id h (h.afterIdentified id link guard identity) := by
  cases here : h.link? link with
  | none =>
      unfold afterIdentified
      rw [here]
      exact concludes_of_ended rfl
  | some l =>
      rw [afterIdentified_eq here]
      have begun := (reseats_beginTakeover (h.withSession link l.variant identity)
        h.sessions.length (h.newSession link l.variant identity)).finished
      split <;> rename_i started <;> rw [started] at begun
      · exact .after begun (concludes_afterTakeover _ id link _ guard)
      · exact concludes_of_eq begun

theorem concludes_afterDirectory (h : Hub) (id link : Nat) (guard : Guard)
    (answer : Except Failure Identity) :
    Concludes id h (h.afterDirectory id link guard answer) := by
  unfold afterDirectory
  cases answer with
  | error failure =>
      exact .after (finished_closed (h.count .resolutionFailed) link .unidentified)
        (concludes_of_ended rfl)
  | ok identity =>
      dsimp only
      split
      · exact concludes_of_ended rfl
      · split
        · exact .after (finished_closed h link .shutdown) (concludes_of_ended rfl)
        · exact concludes_afterIdentified h id link guard identity

/-! ### Handling -/

theorem concludes_execute (h : Hub) (id session : Nat) (request : Request)
    (guard : Option Guard) : Concludes id h (h.execute id session request guard) := by
  unfold execute
  split
  · exact concludes_of_eq rfl
  · split
    · exact concludes_of_ended rfl
    · exact concludes_of_eq rfl

theorem concludes_afterExecution (h : Hub) (id session : Nat) (request : Request)
    (guard : Option Guard) (reply : Reply) :
    Concludes id h (h.afterExecution id session request guard reply) := by
  have answered := Quiet.finished (quiet_afterExecution h id session request reply)
  cases guard with
  | none => exact concludes_of_eq answered
  | some guard => exact .after answered (concludes_of_ended rfl)

theorem finished_settle (h : Hub) (i : Nat) (call : String) (outcome : CallOutcome) :
    (h.settle i call outcome).1.finished = h.finished := by
  unfold settle
  split <;> rfl

theorem concludes_receive (h : Hub) (id session : Nat) (path : String) (message : Message) :
    Concludes id h (h.receive id session path message) := by
  cases message with
  | call messageId command payload =>
      change Concludes id h (h.receiveCall id session path _)
      unfold receiveCall
      split
      · exact concludes_of_ended rfl
      · dsimp only
        split
        · split
          · exact .after rfl (concludes_execute _ id session _ _)
          · exact concludes_of_eq rfl
        · exact concludes_of_ended rfl
  | result messageId payload =>
      exact .after (finished_settle h session messageId _) (concludes_of_ended rfl)
  | error messageId fault description details =>
      exact .after (finished_settle h session messageId _) (concludes_of_ended rfl)

theorem concludes_beginHandling (h : Hub) (session : Nat) (path : String)
    (decoded : Except Message.Malformation Message) :
    Concludes h.nextTask h (h.beginHandling session path decoded).1 := by
  unfold beginHandling
  cases decoded with
  | error malformed => exact concludes_of_ended rfl
  | ok message =>
      dsimp only
      split
      · exact concludes_of_ended rfl
      · rename_i s _
        split
        · have begun := (reseats_beginTakeover h.newTask.1 session s).finished
          split <;> rename_i started <;> rw [started] at begun
          · exact .after begun (concludes_receive _ _ session path message)
          · exact concludes_of_eq begun
        · exact .after rfl (concludes_receive h.newTask.1 _ session path message)

theorem concludes_beginReconcile (h : Hub) (session : Nat) :
    Concludes h.nextTask h (h.beginReconcile session).1 := by
  unfold beginReconcile
  dsimp only
  split
  · exact concludes_of_eq rfl
  · rename_i s _
    have begun := (reseats_beginTakeover h.newTask.1 session s).finished
    split <;> rename_i started <;> rw [started] at begun
    · exact .after begun (concludes_of_ended rfl)
    · exact concludes_of_eq begun

/-! ### Calls, probes and guards -/

theorem finished_sendCall (h : Hub) (i : Nat) (command : String) (payload : Json) :
    (h.sendCall i command payload).1.finished = h.finished := by
  rcases @sendCall_cases True h i command payload with
    ⟨next, failure, quiet, sent⟩ | ⟨s, mid, -, quiet, -, sent⟩
  · rw [sent]
    exact Quiet.finished quiet
  · rw [sent]
    exact (rfl : _ = mid.finished).trans (Quiet.finished quiet)

theorem concludes_beginCall (h : Hub) (variant : Variant) (key : Key) (command : String)
    (payload : Json) : Concludes h.nextTask h (h.beginCall variant key command payload).1 := by
  unfold beginCall
  dsimp only
  split
  · exact concludes_of_ended rfl
  · rename_i slot _
    have sent := finished_sendCall h.newTask.1 slot.session command payload
    split <;> rename_i called <;> rw [called] at sent
    · exact .after sent (concludes_of_ended rfl)
    · exact concludes_of_eq sent

theorem concludes_beginProbe (h : Hub) (link wait : Nat) :
    Concludes h.nextTask h (h.beginProbe link wait).1 := by
  have probed := Quiet.finished (quiet_startProbe h.newTask.1 link wait)
  unfold beginProbe
  dsimp only
  split <;> rename_i started <;> rw [started] at probed
  · exact .after probed (concludes_of_ended rfl)
  · exact concludes_of_eq probed

theorem concludes_keepGuard (h : Hub) (id : Nat) (guard : Guard) :
    Concludes id h (h.keepGuard id guard) := concludes_of_ended rfl

theorem concludes_beginGuard (h : Hub) (path : String) :
    Concludes h.nextTask h (h.beginGuard path).1 := by
  unfold beginGuard
  dsimp only
  split
  · exact .after rfl (concludes_keepGuard _ _ _)
  · exact concludes_of_eq rfl

theorem finished_cancel (h : Hub) (id : Nat) : (h.cancel id).finished = h.finished := by
  unfold cancel
  split
  · rfl
  · dsimp only
    split <;> rfl

/-! ### Sweeps -/

theorem concludes_sweepManagement (h : Hub) (id : Nat) (members : List Member)
    (report : SweepReport) : Concludes id h (h.sweepManagement id members report) := by
  unfold sweepManagement
  split
  · exact concludes_of_eq rfl
  · exact .after (Quiet.finished (quiet_countEvicted h members)) (concludes_of_ended rfl)

theorem concludes_sweepDevices (h : Hub) (id : Nat) (members : List Member)
    (report : SweepReport) : Concludes id h (h.sweepDevices id members report) := by
  unfold sweepDevices
  split
  · exact concludes_of_eq rfl
  · have begun : Quiet True h ((h.countEvicted members).beginRoster .management).1 :=
      (quiet_countEvicted h members).trans (quiet_beginRoster _ .management)
    exact .after (Quiet.finished begun) (concludes_sweepManagement _ id _ _)

theorem concludes_beginSweep (h : Hub) : Concludes h.nextTask h h.beginSweep.1 := by
  have begun := Quiet.finished (quiet_beginRoster h.newTask.1 .device)
  exact .after (begun.trans rfl) (concludes_sweepDevices _ _ _ _)

theorem concludes_resumeSweep (h : Hub) (id : Nat) (variant : Variant) (members : List Member)
    (report : SweepReport) : Concludes id h (h.resumeSweep id variant members report) := by
  have resumed : Quiet True h
      (eachMember (fun h member => h.resumeMember variant member) h members).1 :=
    quiet_eachMember (fun h member => quiet_resumeMember h variant member) h members
  unfold resumeSweep
  cases variant with
  | device => exact .after (Quiet.finished resumed) (concludes_sweepDevices _ id _ report)
  | management => exact .after (Quiet.finished resumed) (concludes_sweepManagement _ id _ report)

/-! ### Tasks that go on -/

theorem concludes_resumeLock {h : Hub} {task : Task} {next : Hub → Guard → Hub}
    (goesOn : ∀ mid guard, Concludes task.id mid (next mid guard)) :
    Concludes task.id h (h.resumeLock task next) := by
  unfold resumeLock
  split
  · exact .after rfl (goesOn _ _)
  · exact concludes_of_eq rfl

theorem concludes_resumeProbe {h : Hub} {task : Task} {link : Nat} {probe : Link.Probe}
    {next : Hub → Bool → Hub} (goesOn : ∀ alive, Concludes task.id h (next h alive)) :
    Concludes task.id h (h.resumeProbe task link probe next) := by
  unfold resumeProbe
  split
  · exact goesOn _
  · exact concludes_of_eq rfl

theorem concludes_resume (h : Hub) (task : Task) : Concludes task.id h (h.resume task) := by
  obtain ⟨id, activity⟩ := task
  have detached : (h.detach id).finished = h.finished := rfl
  refine .after detached ?_
  have taken (session rival : Nat) (alive : Bool) :=
    (reseats_concludeTakeover (h.detach id) session rival alive).finished
  unfold resume
  cases activity with
  | openWaiting link target =>
      exact concludes_resumeLock fun mid guard => concludes_afterGuard mid id link target guard
  | openProbing link session guard rival probe =>
      exact concludes_resumeProbe fun alive =>
        .after (taken session rival alive) (concludes_afterTakeover _ id link session guard)
  | messageProbing session path message rival probe =>
      exact concludes_resumeProbe fun alive =>
        .after (taken session rival alive) (concludes_receive _ id session path message)
  | callWaiting session request =>
      exact concludes_resumeLock fun mid guard => concludes_execute mid id session request _
  | callStarting session request => exact concludes_execute _ id session request none
  | takingOver session rival probe =>
      exact concludes_resumeProbe fun alive =>
        .after (taken session rival alive) (concludes_of_ended rfl)
  | probing link probe => exact concludes_resumeProbe fun alive => concludes_of_ended rfl
  | sweeping variant members report => exact concludes_resumeSweep _ id variant members report
  | calling session call =>
      dsimp only
      split
      · exact concludes_of_ended rfl
      · exact concludes_of_eq rfl
  | guardWaiting => exact concludes_resumeLock fun mid guard => concludes_keepGuard mid id guard
  | openResolving | executing | guarding => exact concludes_of_eq rfl

/-! ### Moves -/

theorem finished_handleEnd (h : Hub) (link : Nat) (session : Option Nat) :
    (h.handleEnd link session).finished = h.finished := by
  have closed := finished_closed h link .normal
  have removed : ((h.closed link .normal).withoutSession link session).finished = h.finished := by
    unfold withoutSession
    split
    · exact closed
    · rw [failPending_eq_book]
      exact (reseats_setRoster _ _ _).finished.trans closed
  rw [handleEnd_eq, ← removed]
  unfold finishLink
  split
  · rfl
  · dsimp only
    split <;> rfl

/-- **What is finished stays**, and a move adds at most outcomes of the task that it is a step of,
or of one that it begins. -/
theorem step?_finished {h next : Hub} {move : Move} (moved : h.step? move = some next) :
    next.finished = h.finished ∨
      ∃ id, Concludes id h next ∧ (move.task? = some id ∧ (h.task? id).isSome = true ∨
        h.nextTask ≤ id ∧ id < next.nextTask) := by
  have begun {next : Hub} (concludes : Concludes h.nextTask h next)
      (grows : h.nextTask + 1 ≤ next.nextTask) :
      next.finished = h.finished ∨
        ∃ id, Concludes id h next ∧ (move.task? = some id ∧ (h.task? id).isSome = true ∨
          h.nextTask ≤ id ∧ id < next.nextTask) :=
    .inr ⟨_, concludes, .inr ⟨Nat.le_refl _, grows⟩⟩
  have minor {next : Hub} (engages : Engages h.nextTask (fun _ => False) h.newTask.1 next) :
      h.nextTask + 1 ≤ next.nextTask := engages.nextTask_le
  cases move with
  | opening link target =>
      simp only [step?, Option.ite_none_right_eq_some, Option.some.injEq] at moved
      obtain ⟨-, rfl⟩ := moved
      exact begun (concludes_beginOpening h link target)
        (engages_beginOpening h link target).nextTask_le
  | handling session path decoded =>
      cases moved
      exact begun (concludes_beginHandling h session path decoded)
        (engages_beginHandling h session path decoded).nextTask_le
  | reconciling session =>
      cases moved
      exact begun (concludes_beginReconcile h session) (engages_beginReconcile h session).nextTask_le
  | calling variant key command payload =>
      cases moved
      exact begun (concludes_beginCall h variant key command payload)
        (minor (engages_beginCall h variant key command payload))
  | sweeping =>
      cases moved
      exact begun (concludes_beginSweep h) (engages_beginSweep h).nextTask_le
  | probing link wait =>
      cases moved
      exact begun (concludes_beginProbe h link wait) (minor (engages_beginProbe h link wait))
  | guarding path =>
      cases moved
      exact begun (concludes_beginGuard h path) (minor (engages_beginGuard h path))
  | resume id =>
      obtain ⟨task, found, -, rfl⟩ := resumed moved
      cases id_of_task? found
      exact .inr ⟨_, concludes_resume h task, .inl ⟨rfl, by rw [found]; rfl⟩⟩
  | directoryAnswers id answer =>
      obtain ⟨link, target, guard, found, rfl⟩ := resolved moved
      exact .inr ⟨id, .after rfl (concludes_afterDirectory (h.detach id) id link guard answer),
        .inl ⟨rfl, by rw [found]; rfl⟩⟩
  | executorAnswers id reply =>
      obtain ⟨session, _, request, guard, found, rfl⟩ := executed moved
      exact .inr ⟨id,
        .after rfl (concludes_afterExecution (h.detach id) id session request guard reply),
        .inl ⟨rfl, by rw [found]; rfl⟩⟩
  | cancel id =>
      cases moved
      exact .inl (finished_cancel h id)
  | accept | refuse | advance | ping | pong | stopping | lettingGo =>
      cases moved
      exact .inl rfl
  | holding link =>
      simp only [step?, Option.ite_none_right_eq_some, Option.some.injEq] at moved
      obtain ⟨-, rfl⟩ := moved
      exact .inl rfl
  | sending session command payload =>
      cases moved
      exact .inl (finished_sendCall h session command payload)
  | settling session id answer =>
      cases moved
      exact .inl (finished_settle h session id _)
  | failing session =>
      cases moved
      rw [failPending_eq_book]
      exact .inl rfl
  | text link text =>
      cases moved
      exact .inl (Quiet.finished (quiet_sendText h link text))
  | close link cause =>
      cases moved
      exact .inl (finished_closed h link cause)
  | ending link session =>
      cases moved
      exact .inl (finished_handleEnd h link session)
  | closeAll cause =>
      cases moved
      exact .inl (Quiet.finished (quiet_closeAll h cause))
  | shutDown =>
      cases moved
      have closed := Quiet.finished (quiet_closeAll { h with stopping := true } .shutdown)
      exact .inl closed
  | expire session id =>
      rw [expire?_eq_book moved]
      exact .inl rfl
  | takeUp | socketTakes | socketFails | writerExpires =>
      obtain ⟨c, -, rfl⟩ := Option.map_eq_some_iff.mp moved
      exact .inl rfl

end StationHub.Hub

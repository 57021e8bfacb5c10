import StationHub.Proofs.Tasks.Deeds

/-!
What a hub counts.

* `Counters.counted`: how often an occasion was counted; `Counters.Balanced`: the number of open
  connections is that of all without the ended ones.
* `Counts`: what was counted were occasions that `occurs` allows; each operation has its lemma
  `counts_…`.
* `Occurs`: the occasions that there may be with a move; `step?_counts`: no others are counted.
-/

namespace StationHub

namespace Counters

/-- How often an occasion was counted. -/
def counted (c : Counters) : Occasion → Nat
  | .opened => c.opened
  | .closed => c.closed
  | .rejected => c.rejected
  | .resolved => c.resolved
  | .resolutionFailed => c.resolutionFailed
  | .duplicateClosed => c.duplicatesClosed
  | .pingFailure => c.pingFailures
  | .evicted => c.evicted
  | .timedOut => c.timedOut
  | .protocolError => c.protocolErrors
  | .unknownResponse => c.unknownResponses
  | .lockExhausted => c.lockExhausted

theorem counted_count (c : Counters) (occasion other : Occasion) :
    (c.count occasion).counted other = c.counted other + if occasion = other then 1 else 0 := by
  cases occasion <;> cases other <;> rfl

/-- The number of open connections is that of all without the ended ones. -/
def Balanced (c : Counters) : Prop := c.active = (c.opened : Int) - (c.closed : Int)

theorem balanced_count {c : Counters} (balanced : c.Balanced) (occasion : Occasion) :
    (c.count occasion).Balanced := by
  unfold Balanced at balanced ⊢
  cases occasion with
  | opened => simp only [count]; omega
  | closed => simp only [count]; omega
  | _ => exact balanced

end Counters

namespace Hub

open Counters (Occasion)

/-- What was counted from one hub to the other: occasions that `occurs` allows. -/
def Counts (occurs : Occasion → Prop) (h next : Hub) : Prop :=
  ∃ occasions : List Occasion, (∀ occasion ∈ occasions, occurs occasion) ∧
    next.counters = occasions.foldl Counters.count h.counters

variable {occurs : Occasion → Prop} {h mid next : Hub}

/-! ### What follows -/

/-- What holds of the counters and is kept by every occasion holds on. -/
theorem Counts.keeps {P : Counters → Prop} (counts : Counts occurs h next)
    (step : ∀ {c : Counters} {occasion : Occasion}, occurs occasion → P c → P (c.count occasion))
    (start : P h.counters) : P next.counters := by
  obtain ⟨occasions, all, same⟩ := counts
  rw [same]
  clear same
  generalize h.counters = c at start ⊢
  induction occasions generalizing c with
  | nil => exact start
  | cons occasion rest ih =>
      exact ih (fun other member => all other (List.mem_cons_of_mem _ member)) _
        (step (all occasion List.mem_cons_self) start)

theorem Counts.balanced (counts : Counts occurs h next) (balanced : h.counters.Balanced) :
    next.counters.Balanced :=
  counts.keeps (fun _ before => Counters.balanced_count before _) balanced

/-- An occasion that there cannot be is not counted. -/
theorem Counts.counted_eq (counts : Counts occurs h next) (occasion : Occasion)
    (never : ¬occurs occasion) : next.counters.counted occasion = h.counters.counted occasion := by
  refine counts.keeps (P := fun c => c.counted occasion = h.counters.counted occasion) ?_ rfl
  intro c other happens before
  have apart : other ≠ occasion := by
    rintro rfl
    exact never happens
  rw [Counters.counted_count, if_neg apart, Nat.add_zero, before]

/-! ### Elementary operations -/

theorem counts_of_eq (same : next.counters = h.counters) : Counts occurs h next :=
  ⟨[], nofun, same⟩

theorem Counts.trans (first : Counts occurs h mid) (second : Counts occurs mid next) :
    Counts occurs h next := by
  obtain ⟨occasions, all, same⟩ := first
  obtain ⟨others, all', same'⟩ := second
  refine ⟨occasions ++ others, fun occasion member => ?_, ?_⟩
  · exact (List.mem_append.mp member).elim (all occasion) (all' occasion)
  · rw [List.foldl_append, ← same, same']

theorem counts_count {occasion : Occasion} (happens : occurs occasion) (h : Hub) :
    Counts occurs h (h.count occasion) :=
  ⟨[occasion], fun _ member => List.mem_singleton.mp member ▸ happens, rfl⟩

theorem counts_setRoster (h : Hub) (variant : Variant) (roster : Roster Nat Nat) :
    Counts occurs h (h.setRoster variant roster) := by
  cases variant <;> exact counts_of_eq rfl

theorem counts_closeLink (h : Hub) (i : Nat) (cause : CloseCause) :
    Counts occurs h (h.closeLink i cause).1 := by
  unfold closeLink
  split <;> exact counts_of_eq rfl

theorem counts_closed (h : Hub) (i : Nat) (cause : CloseCause) :
    Counts occurs h (h.closed i cause) :=
  counts_closeLink h i cause

theorem counts_sendText (h : Hub) (i : Nat) (text : String) :
    Counts occurs h (h.sendText i text).1 := by
  unfold sendText
  split <;> exact counts_of_eq rfl

theorem counts_startProbe (h : Hub) (i wait : Nat) : Counts occurs h (h.startProbe i wait).1 := by
  unfold startProbe
  split <;> exact counts_of_eq rfl

theorem counts_failPending (h : Hub) (i : Nat) : Counts occurs h (h.failPending i).1 := by
  unfold failPending
  split <;> exact counts_of_eq rfl

theorem counts_settle (unknown : occurs .unknownResponse) (h : Hub) (i : Nat) (id : String)
    (outcome : CallOutcome) : Counts occurs h (h.settle i id outcome).1 := by
  unfold settle
  split
  · exact counts_of_eq rfl
  · exact counts_count unknown h

theorem counts_expire? (overdue : occurs .timedOut) {i : Nat} {id : String}
    (expired : h.expire? i id = some next) : Counts occurs h next := by
  unfold expire? at expired
  obtain ⟨s, -, rfl⟩ := Option.map_eq_some_iff.mp expired
  exact counts_count overdue _

theorem counts_sendCall (h : Hub) (i : Nat) (command : String) (payload : Json) :
    Counts occurs h (h.sendCall i command payload).1 := by
  unfold sendCall
  split
  · exact counts_of_eq rfl
  · split
    · exact counts_of_eq rfl
    · dsimp only
      split
      · exact counts_of_eq rfl
      · rename_i s _ _ _
        have numbered : Counts occurs h { h with nextMessage := h.nextMessage + 1 } :=
          counts_of_eq rfl
        have sent := numbered.trans (counts_sendText _ s.link
          (Message.call (h.messageId h.nextMessage) command payload).encode)
        split
        · exact sent.trans (counts_of_eq rfl)
        · exact sent

/-! ### Sweeps -/

theorem counts_eachMember {α β : Type} {act : Hub → α → Hub × β}
    (counts : ∀ (h : Hub) item, Counts occurs h (act h item).1) (h : Hub) (items : List α) :
    Counts occurs h (eachMember act h items).1 := by
  induction items generalizing h with
  | nil => exact counts_of_eq rfl
  | cons item rest ih => exact (counts h item).trans (ih (act h item).1)

section Sweeps

variable (fails : occurs .pingFailure) (evicts : occurs .evicted)

include fails in
theorem counts_failMember (h : Hub) (variant : Variant) (key : Key) (link : Nat) :
    Counts occurs h (h.failMember variant key link).1 := by
  have failed : Counts occurs h ((h.count .pingFailure).modifyLink link Link.addFailure) :=
    (counts_count fails h).trans (counts_of_eq rfl)
  unfold failMember
  dsimp only
  split
  · exact failed
  · exact (failed.trans (counts_closed _ link .unresponsive)).trans (counts_setRoster _ variant _)

include fails in
theorem counts_beginMember (h : Hub) (variant : Variant) (key : Key) (link : Nat) :
    Counts occurs h (h.beginMember variant key link).1 := by
  have probed : Counts occurs h (h.startProbe link h.settings.probeTimeout).1 :=
    counts_startProbe h link _
  unfold beginMember
  split
  · split <;> rename_i started <;> rw [started] at probed
    · exact probed
    · exact probed.trans (counts_failMember fails _ variant key link)
  · exact counts_setRoster h variant _

include fails in
theorem counts_resumeMember (h : Hub) (variant : Variant) (member : Member) :
    Counts occurs h (h.resumeMember variant member).1 := by
  unfold resumeMember
  split
  · exact counts_of_eq rfl
  · split
    · exact counts_of_eq rfl
    · exact counts_of_eq rfl
    · exact counts_failMember fails h variant member.key member.link

include fails in
theorem counts_beginRoster (h : Hub) (variant : Variant) :
    Counts occurs h (h.beginRoster variant).1 := by
  unfold beginRoster
  refine counts_eachMember ?_ h _
  intro h entry
  exact counts_beginMember fails h variant entry.1 entry.2.link

include evicts in
theorem counts_countEvicted (h : Hub) (members : List Member) :
    Counts occurs h (h.countEvicted members) := by
  unfold countEvicted
  induction members generalizing h with
  | nil => exact counts_of_eq rfl
  | cons member rest ih =>
      refine .trans ?_ (ih _)
      dsimp only
      split
      · exact counts_count evicts h
      · exact counts_of_eq rfl

include evicts in
theorem counts_sweepManagement (h : Hub) (id : Nat) (members : List Member)
    (report : SweepReport) : Counts occurs h (h.sweepManagement id members report) := by
  unfold sweepManagement
  split
  · exact counts_of_eq rfl
  · exact (counts_countEvicted evicts h members).trans (counts_of_eq rfl)

include fails evicts

theorem counts_sweepDevices (h : Hub) (id : Nat) (members : List Member) (report : SweepReport) :
    Counts occurs h (h.sweepDevices id members report) := by
  unfold sweepDevices
  split
  · exact counts_of_eq rfl
  · exact ((counts_countEvicted evicts h members).trans
      (counts_beginRoster fails _ .management)).trans (counts_sweepManagement evicts _ id _ _)

theorem counts_beginSweep (h : Hub) : Counts occurs h h.beginSweep.1 :=
  ((counts_of_eq rfl : Counts occurs h h.newTask.1).trans
    (counts_beginRoster fails h.newTask.1 .device)).trans (counts_sweepDevices fails evicts _ _ _ _)

theorem counts_resumeSweep (h : Hub) (id : Nat) (variant : Variant) (members : List Member)
    (report : SweepReport) : Counts occurs h (h.resumeSweep id variant members report) := by
  have looked : Counts occurs h _ :=
    counts_eachMember (fun h member => counts_resumeMember fails h variant member) h members
  unfold resumeSweep
  cases variant with
  | device => exact looked.trans (counts_sweepDevices fails evicts _ id _ report)
  | management => exact looked.trans (counts_sweepManagement evicts _ id _ report)

end Sweeps

/-! ### Closing -/

theorem counts_closeSlots (h : Hub) (cause : CloseCause) (slots : List (Key × Slot Nat Nat)) :
    Counts occurs h (h.closeSlots cause slots).1 := by
  induction slots generalizing h with
  | nil => exact counts_of_eq rfl
  | cons entry rest ih =>
      unfold closeSlots
      dsimp only
      refine .trans ?_ (ih _)
      split
      · exact counts_closeLink h _ cause
      · exact counts_of_eq rfl

theorem counts_closeAll (h : Hub) (cause : CloseCause) :
    Counts occurs h (h.closeAll cause).1 := by
  have roster : ∀ (h : Hub) variant, Counts occurs h (h.closeRoster cause variant).1 :=
    fun h variant => (counts_setRoster h variant []).trans (counts_closeSlots _ cause _)
  exact (roster h .device).trans (roster _ .management)

theorem counts_withoutSession (h : Hub) (link : Nat) (session : Option Nat) :
    Counts occurs h (h.withoutSession link session) := by
  unfold withoutSession
  split
  · exact counts_of_eq rfl
  · exact (counts_setRoster _ _ _).trans (counts_failPending _ _)

theorem counts_handleEnd (ends : occurs .closed) (h : Hub) (link : Nat) (session : Option Nat) :
    Counts occurs h (h.handleEnd link session) := by
  have closed : Counts occurs h (h.closed link .normal) := counts_closed h link .normal
  rw [handleEnd_eq]
  refine (closed.trans (counts_withoutSession _ link session)).trans ?_
  unfold finishLink
  split
  · exact counts_of_eq rfl
  · dsimp only
    split
    · exact (counts_of_eq rfl).trans (counts_count ends _)
    · exact counts_of_eq rfl

/-! ### Takeovers and openings -/

theorem counts_beginTakeover (h : Hub) (i : Nat) (s : Session) :
    Counts occurs h (h.beginTakeover i s).1 := by
  unfold beginTakeover
  split
  · exact counts_setRoster h _ _
  · split
    · exact counts_of_eq rfl
    · split
      · exact counts_setRoster h _ _
      · rename_i rival _
        have probed : Counts occurs h (h.startProbe rival h.settings.probeTimeout).1 :=
          counts_startProbe h rival _
        split <;> rename_i started <;> rw [started] at probed
        · exact probed.trans (counts_setRoster _ _ _)
        · exact probed

theorem counts_concludeTakeover (h : Hub) (i rival : Nat) {alive : Bool}
    (displaces : alive = true → occurs .duplicateClosed) :
    Counts occurs h (h.concludeTakeover i rival alive).1 := by
  unfold concludeTakeover
  split
  · exact counts_of_eq rfl
  · cases alive with
    | false => exact counts_setRoster h _ _
    | true =>
        have counted := (counts_closed h rival .duplicate).trans (counts_count (displaces rfl) _)
        exact counted.trans (counts_setRoster _ _ _)

theorem counts_afterTakeover (resolves : occurs .resolved) (h : Hub) (id link session : Nat)
    (guard : Guard) : Counts occurs h (h.afterTakeover id link session guard) := by
  have closed : Counts occurs h (h.closed link .shutdown) := counts_closed h link .shutdown
  unfold afterTakeover
  split
  · dsimp only
    split
    · exact closed.trans (counts_of_eq rfl)
    · exact (closed.trans (counts_setRoster _ _ _)).trans (counts_of_eq rfl)
  · have entered : Counts occurs h (h.modifyLink link fun l => l.enter .bound) := counts_of_eq rfl
    exact (entered.trans (counts_count resolves _)).trans (counts_of_eq rfl)

theorem counts_afterGuard (h : Hub) (id link : Nat) (target : Target) (guard : Guard) :
    Counts occurs h (h.afterGuard id link target guard) := by
  unfold afterGuard
  split
  · exact counts_of_eq rfl
  · split
    · exact (counts_closed h link .shutdown).trans (counts_of_eq rfl)
    · exact counts_of_eq rfl

theorem counts_beginOpening (h : Hub) (link : Nat) (target : Target) :
    Counts occurs h (h.beginOpening link target).1 := by
  unfold beginOpening
  dsimp only
  split
  · exact (counts_of_eq rfl).trans (counts_afterGuard _ _ link target _)
  · exact counts_of_eq rfl

theorem counts_afterIdentified (resolves : occurs .resolved) (h : Hub) (id link : Nat)
    (guard : Guard) (identity : Identity) :
    Counts occurs h (h.afterIdentified id link guard identity) := by
  cases here : h.link? link with
  | none =>
      unfold afterIdentified
      rw [here]
      exact counts_of_eq rfl
  | some l =>
      rw [afterIdentified_eq here]
      have made : Counts occurs h (h.withSession link l.variant identity) := counts_of_eq rfl
      have begun := made.trans (counts_beginTakeover (h.withSession link l.variant identity)
        h.sessions.length (h.newSession link l.variant identity))
      split <;> rename_i started <;> rw [started] at begun
      · exact begun.trans (counts_afterTakeover resolves _ id link _ guard)
      · exact begun.trans (counts_of_eq rfl)

theorem counts_afterDirectory (resolves : occurs .resolved) (fails : occurs .resolutionFailed)
    (h : Hub) (id link : Nat) (guard : Guard) (answer : Except Failure Identity) :
    Counts occurs h (h.afterDirectory id link guard answer) := by
  cases answer with
  | error failure =>
      exact ((counts_count fails h).trans (counts_closed _ link .unidentified)).trans
        (counts_of_eq rfl)
  | ok identity =>
      unfold afterDirectory
      dsimp only
      split
      · exact counts_of_eq rfl
      · split
        · exact (counts_closed h link .shutdown).trans (counts_of_eq rfl)
        · exact counts_afterIdentified resolves h id link guard identity

/-! ### Handling -/

theorem counts_execute (h : Hub) (id session : Nat) (request : Request) (guard : Option Guard) :
    Counts occurs h (h.execute id session request guard) := by
  unfold execute
  split
  · exact counts_of_eq rfl
  · split <;> exact counts_of_eq rfl

theorem counts_afterExecution (h : Hub) (id session : Nat) (request : Request)
    (guard : Option Guard) (reply : Reply) :
    Counts occurs h (h.afterExecution id session request guard reply) := by
  have answered : Counts occurs h (h.afterExecution id session request none reply) := by
    unfold afterExecution
    dsimp only
    split
    · exact counts_of_eq rfl
    · rename_i s _
      have sent : Counts occurs h (h.sendText s.link (Reply.message request.id reply).encode).1 :=
        counts_sendText h s.link _
      split <;> rename_i delivered <;> rw [delivered] at sent
      · exact sent.trans (counts_of_eq rfl)
      · exact sent
  cases guard with
  | none => exact answered
  | some guard => exact answered.trans (counts_of_eq rfl)

theorem counts_receiveCall (h : Hub) (id session : Nat) (path : String) (request : Request) :
    Counts occurs h (h.receiveCall id session path request) := by
  unfold receiveCall
  split
  · exact counts_of_eq rfl
  · dsimp only
    split
    · split
      · exact (counts_of_eq rfl).trans (counts_execute _ id session request _)
      · exact counts_of_eq rfl
    · exact counts_of_eq rfl

theorem counts_receive {message : Message}
    (unknown : message.answer?.isSome = true → occurs .unknownResponse) (h : Hub)
    (id session : Nat) (path : String) : Counts occurs h (h.receive id session path message) := by
  cases message with
  | call messageId command payload => exact counts_receiveCall h id session path _
  | result messageId payload =>
      exact (counts_settle (unknown rfl) h session messageId _).trans (counts_of_eq rfl)
  | error messageId fault description details =>
      exact (counts_settle (unknown rfl) h session messageId _).trans (counts_of_eq rfl)

/-! ### Tasks -/

theorem counts_resumeLock {task : Task} {goesOn : Hub → Guard → Hub}
    (counts : ∀ lock guard, Counts occurs { h with lock } (goesOn { h with lock } guard)) :
    Counts occurs h (h.resumeLock task goesOn) := by
  unfold resumeLock
  split
  · next lock guard _ =>
    exact (counts_of_eq rfl : Counts occurs h { h with lock }).trans (counts _ _)
  · exact counts_of_eq rfl

theorem counts_resumeProbe {task : Task} {link : Nat} {probe : Link.Probe}
    {goesOn : Hub → Bool → Hub}
    (counts : ∀ alive, h.verdict? link probe = some alive → Counts occurs h (goesOn h alive)) :
    Counts occurs h (h.resumeProbe task link probe goesOn) := by
  unfold resumeProbe
  split
  · next verdict => exact counts _ verdict
  · exact counts_of_eq rfl

theorem counts_beginCall (h : Hub) (variant : Variant) (key : Key) (command : String)
    (payload : Json) : Counts occurs h (h.beginCall variant key command payload).1 := by
  have begun : Counts occurs h h.newTask.1 := counts_of_eq rfl
  unfold beginCall
  dsimp only
  split
  · exact counts_of_eq rfl
  · rename_i slot _
    have sent := begun.trans (counts_sendCall h.newTask.1 slot.session command payload)
    split <;> rename_i called <;> rw [called] at sent
    · exact sent.trans (counts_of_eq rfl)
    · exact sent.trans (counts_of_eq rfl)

theorem counts_beginProbe (h : Hub) (link wait : Nat) :
    Counts occurs h (h.beginProbe link wait).1 := by
  have begun : Counts occurs h h.newTask.1 := counts_of_eq rfl
  have probed := begun.trans (counts_startProbe h.newTask.1 link wait)
  unfold beginProbe
  dsimp only
  split <;> rename_i started <;> rw [started] at probed
  · exact probed.trans (counts_of_eq rfl)
  · exact probed.trans (counts_of_eq rfl)

theorem counts_beginReconcile (h : Hub) (session : Nat) :
    Counts occurs h (h.beginReconcile session).1 := by
  have begun : Counts occurs h h.newTask.1 := counts_of_eq rfl
  unfold beginReconcile
  dsimp only
  split
  · exact begun
  · rename_i s _
    have taken := begun.trans (counts_beginTakeover h.newTask.1 session s)
    split <;> rename_i started <;> rw [started] at taken
    · exact taken.trans (counts_of_eq rfl)
    · exact taken.trans (counts_of_eq rfl)

theorem counts_beginGuard (h : Hub) (path : String) : Counts occurs h (h.beginGuard path).1 := by
  unfold beginGuard
  dsimp only
  split <;> exact counts_of_eq rfl

theorem counts_cancel (h : Hub) (id : Nat) : Counts occurs h (h.cancel id) := by
  unfold cancel
  split
  · exact counts_of_eq rfl
  · dsimp only
    split <;> exact counts_of_eq rfl

/-! ### Moves -/

/-- The occasions that there may be with a move. -/
inductive Occurs (h : Hub) : Move → Occasion → Prop where
  | opened (variant : Variant) : Occurs h (.accept variant) .opened
  | rejected : Occurs h .refuse .rejected
  | closed (link : Nat) (session : Option Nat) : Occurs h (.ending link session) .closed
  | timedOut (session : Nat) (id : String) : Occurs h (.expire session id) .timedOut
  | protocolError (session : Nat) (path : String) (malformed : Message.Malformation) :
      Occurs h (.handling session path (.error malformed)) .protocolError
  /-- An answer is settled. -/
  | unknownResponse {move : Move} : (h.callEvent? move).isSome = true →
      Occurs h move .unknownResponse
  | resolved {move : Move} : (h.opens? move).isSome = true → Occurs h move .resolved
  | resolutionFailed {move : Move} : (h.opens? move).isSome = true →
      Occurs h move .resolutionFailed
  /-- The rival of a takeover answered. -/
  | duplicateClosed {move : Move} : (h.displaced? move).isSome = true →
      Occurs h move .duplicateClosed
  | pingFailure {move : Move} : h.isSweep move = true → Occurs h move .pingFailure
  | evicted {move : Move} : h.isSweep move = true → Occurs h move .evicted

/-- What is counted when a message is handled. -/
theorem counts_beginHandling (h : Hub) (session : Nat) (path : String)
    (decoded : Except Message.Malformation Message) :
    Counts (h.Occurs (.handling session path decoded)) h
      (h.beginHandling session path decoded).1 := by
  have begun : Counts (h.Occurs (.handling session path decoded)) h h.newTask.1 :=
    counts_of_eq rfl
  unfold beginHandling
  cases decoded with
  | error malformed =>
      exact (begun.trans (counts_count (.protocolError session path malformed) _)).trans
        (counts_of_eq rfl)
  | ok message =>
      dsimp only
      split
      · exact counts_of_eq rfl
      · next s here =>
        have here' : h.session? session = some s := here
        have same : h.newTask.1.isDisplaced s = h.isDisplaced s := rfl
        split
        · next displaced =>
          have taken := begun.trans (counts_beginTakeover h.newTask.1 session s)
          split <;> rename_i started <;> rw [started] at taken
          · refine taken.trans
              (counts_receive (fun answers => .unknownResponse ?_) _ _ session path)
            have atOnce : h.newTask.1.takesAtOnce session = true := by
              rw [takesAtOnce, here, Option.any_some, started]
              rfl
            simpa [callEvent?, here', atOnce, answeredBy?] using answers
          · exact taken.trans (counts_of_eq rfl)
        · next bound =>
          rw [same] at bound
          refine begun.trans (counts_receive (fun answers => .unknownResponse ?_) _ _ session path)
          simpa [callEvent?, here', bound, answeredBy?] using answers

/-- What is counted when a task goes on. -/
theorem counts_resume {id : Nat} {task : Task} (found : h.task? id = some task) :
    Counts (h.Occurs (.resume id)) h (h.resume task) := by
  have apart : Counts (h.Occurs (.resume id)) h (h.detach task.id) := counts_of_eq rfl
  obtain ⟨number, activity⟩ := task
  refine apart.trans ?_
  have takes {session rival : Nat} {probe : Link.Probe} {alive : Bool}
      (probes : activity.probes? = some (session, rival, probe))
      (verdict : h.verdict? rival probe = some alive) :
      Counts (h.Occurs (.resume id)) (h.detach number)
        ((h.detach number).concludeTakeover session rival alive).1 := by
    refine counts_concludeTakeover _ session rival fun positive => .duplicateClosed ?_
    rw [positive] at verdict
    simp [displaced?, found, probes, verdict]
  unfold resume
  cases activity with
  | openWaiting link target =>
      exact counts_resumeLock fun lock guard => counts_afterGuard _ number link target guard
  | openProbing link session guard rival probe =>
      refine counts_resumeProbe fun alive verdict => (takes rfl verdict).trans ?_
      refine counts_afterTakeover (.resolved ?_) _ number link session guard
      simp [opens?, found, Activity.opened?]
  | messageProbing session path message rival probe =>
      refine counts_resumeProbe fun alive verdict => (takes rfl verdict).trans ?_
      refine counts_receive (fun answers => .unknownResponse ?_) _ number session path
      simpa [callEvent?, found, answeredBy?] using answers
  | callWaiting session request =>
      exact counts_resumeLock fun lock guard => counts_execute _ number session request _
  | callStarting session request => exact counts_execute _ number session request none
  | takingOver session rival probe =>
      exact counts_resumeProbe fun alive verdict => (takes rfl verdict).trans (counts_of_eq rfl)
  | probing link probe => exact counts_resumeProbe fun alive _ => counts_of_eq rfl
  | sweeping variant members report =>
      have sweeps : h.isSweep (.resume id) = true := by
        simp [isSweep, found, Activity.isSweeping]
      exact counts_resumeSweep (.pingFailure sweeps) (.evicted sweeps) _ number variant members
        report
  | calling session call =>
      dsimp only
      split <;> exact counts_of_eq rfl
  | guardWaiting => exact counts_resumeLock fun lock guard => counts_of_eq rfl
  | openResolving | executing | guarding => exact counts_of_eq rfl

/-- **What a move counts** are occasions that there may be with it. -/
theorem step?_counts {move : Move} (moved : h.step? move = some next) :
    Counts (h.Occurs move) h next := by
  cases move with
  | accept variant =>
      cases moved
      exact (counts_of_eq rfl).trans (counts_count (.opened variant) _)
  | refuse =>
      cases moved
      exact counts_count .rejected h
  | opening link target =>
      cases (Option.ite_none_right_eq_some.mp moved).2
      exact counts_beginOpening h link target
  | handling session path decoded =>
      cases moved
      exact counts_beginHandling h session path decoded
  | sending session command payload =>
      cases moved
      exact counts_sendCall h session command payload
  | calling variant key command payload =>
      cases moved
      exact counts_beginCall h variant key command payload
  | settling session id answer =>
      cases moved
      exact counts_settle (.unknownResponse rfl) h session id _
  | failing session =>
      cases moved
      exact counts_failPending h session
  | reconciling session =>
      cases moved
      exact counts_beginReconcile h session
  | sweeping =>
      cases moved
      exact counts_beginSweep (.pingFailure rfl) (.evicted rfl) h
  | probing link wait =>
      cases moved
      exact counts_beginProbe h link wait
  | text link text =>
      cases moved
      exact counts_sendText h link text
  | close link cause =>
      cases moved
      exact counts_closed h link cause
  | ending link session =>
      cases moved
      exact counts_handleEnd (.closed link session) h link session
  | holding link =>
      cases (Option.ite_none_right_eq_some.mp moved).2
      exact counts_of_eq rfl
  | closeAll cause =>
      cases moved
      exact counts_closeAll h cause
  | shutDown =>
      cases moved
      have halted : Counts (h.Occurs .shutDown) h { h with stopping := true } := counts_of_eq rfl
      exact halted.trans (counts_closeAll _ .shutdown)
  | guarding path =>
      cases moved
      exact counts_beginGuard h path
  | cancel task =>
      cases moved
      exact counts_cancel h task
  | resume id =>
      obtain ⟨task, found, -, rfl⟩ := resumed moved
      exact counts_resume found
  | directoryAnswers id answer =>
      obtain ⟨link, target, guard, found, rfl⟩ := resolved moved
      have opens : (h.opens? (.directoryAnswers id answer)).isSome = true := by
        simp [opens?, found, Activity.opened?]
      exact (counts_of_eq rfl).trans (counts_afterDirectory (.resolved opens)
        (.resolutionFailed opens) (h.detach id) id link guard answer)
  | executorAnswers id reply =>
      obtain ⟨session, _, request, guard, -, rfl⟩ := executed moved
      exact (counts_of_eq rfl).trans
        (counts_afterExecution (h.detach id) id session request guard reply)
  | expire session id => exact counts_expire? (.timedOut session id) moved
  | takeUp | socketTakes | socketFails | writerExpires =>
      obtain ⟨c, -, rfl⟩ := Option.map_eq_some_iff.mp moved
      exact counts_of_eq rfl
  | ping | pong | stopping | lettingGo | advance =>
      cases moved
      exact counts_of_eq rfl

/-- An occasion that there cannot be with a move is not counted. -/
theorem counted_of_step? {move : Move} (moved : h.step? move = some next) (occasion : Occasion)
    (never : ¬h.Occurs move occasion) :
    next.counters.counted occasion = h.counters.counted occasion :=
  (step?_counts moved).counted_eq occasion never

end Hub

end StationHub

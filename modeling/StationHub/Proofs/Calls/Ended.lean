import StationHub.Proofs.Calls.InTime
import StationHub.Proofs.Slots.Departure
import StationHub.Proofs.Slots.Entries

/-!
The calls of a session after the end of its connection.

* `Abandoned`: the calls of a session were given up, and its connection is closed.
* `step?_abandoned`: whatever a hub does then, it stays so. A call is issued on an open connection
  only, and without pending calls nothing else changes what a session has settled.
* `abandoned_for_good`: the end of a connection settles the pending calls of its session, and from
  then on no call of the session is issued, settled again or found overdue.
-/

namespace StationHub

namespace Session

variable {s t : Session} {id : String}

theorem isPending_of_idle (idle : s.pending = []) (id : String) : s.isPending id = false := by
  rw [isPending_eq_false_iff, idle]
  intro p member
  cases member

theorem expire?_of_idle (idle : s.pending = []) (id : String) (now : Nat) :
    s.expire? id now = none := by
  simp [expire?, pending?, idle]

/-- Without pending calls, only the issue of one changes the calls of a session. -/
theorem sameCalls_apply_of_idle (idle : s.pending = []) {event : CallEvent}
    (unissued : event.issued? = none) : s.SameCalls (event.apply s) := by
  cases event with
  | issued id command time => cases unissued
  | answered id answer =>
      have unknown : s.settle? id answer.outcome = none := by
        rw [settle?, isPending_of_idle idle]
        rfl
      show s.SameCalls ((s.settle? id answer.outcome).getD s)
      rw [unknown]
      exact .refl s
  | overdue id time =>
      show s.SameCalls ((s.expire? id time).getD s)
      rw [expire?_of_idle idle]
      exact .refl s
  | ended =>
      refine ⟨⟨rfl, rfl, rfl, rfl, rfl, rfl⟩, idle.symm, ?_⟩
      show s.settled ++ s.pending.map _ = s.settled
      rw [idle, List.map_nil, List.append_nil]

end Session

namespace Hub

variable {h next last : Hub} {move : Move} {i : Nat} {s t : Session}

/-! ### A closed connection takes no calls -/

/-- The connection of a session that is closed is not open. -/
theorem isOpen_of_isClosed (closed : h.isClosed s.link = true) : h.isOpen s = false := by
  unfold isClosed at closed
  obtain ⟨l, here, shut⟩ := (Option.any_eq_true _ _).mp closed
  unfold isOpen linkOf?
  split
  · rw [here]
    simp [shut]
  · rfl

/-- Whoever calls the peer of a closed connection is told so, and nothing changes. -/
theorem sendCall_of_isClosed (here : h.session? i = some t) (closed : h.isClosed t.link = true)
    (command : String) (payload : Json) :
    h.sendCall i command payload = (h, .error .closed) := by
  simp [sendCall, here, isOpen_of_isClosed closed]

theorem issuedBy?_of_isClosed (here : h.session? i = some t) (closed : h.isClosed t.link = true)
    (command : String) (payload : Json) : h.issuedBy? i command payload = none := by
  rw [issuedBy?, sendCall_of_isClosed here closed]

/-- No move issues a call of a session whose connection is closed. -/
theorem issued?_of_isClosed (here : h.session? i = some t) (closed : h.isClosed t.link = true)
    {event : CallEvent} (known : h.callEvent? move = some (i, event)) : event.issued? = none := by
  rcases callEvent?_cases known with ⟨command, payload, -, issued⟩ |
    ⟨variant, key, command, payload, -, slot, -, issued⟩ | ⟨id, -, rfl⟩ | ⟨id, answer, rfl⟩ | rfl
  · rw [issuedBy?_of_isClosed here closed] at issued
    cases issued
  · obtain rfl : i = slot.session := (issuedBy?_eq_some issued).1
    have still : h.newTask.1.session? slot.session = some t := here
    rw [issuedBy?_of_isClosed still closed] at issued
    cases issued
  · rfl
  · rfl
  · rfl

/-! ### Calls that were given up -/

/-- Session number `i`, which was `s`, has had its pending calls given up and none since, and its
connection is closed. -/
structure Abandoned (h : Hub) (i : Nat) (s : Session) : Prop where
  calls : ∃ t, h.session? i = some t ∧ s.failPending.1.SameCalls t
  closed : h.isClosed s.link = true

/-- **Nothing brings calls back that were given up**, nor makes new ones. -/
theorem step?_abandoned (abandoned : h.Abandoned i s) (moved : h.step? move = some next) :
    next.Abandoned i s := by
  obtain ⟨t, here, same⟩ := abandoned.calls
  obtain ⟨t', there, changed⟩ := step?_calls moved here
  refine ⟨⟨t', there, ?_⟩, (step?_persists moved).isClosed abandoned.closed⟩
  have closed : h.isClosed t.link = true := same.link ▸ abandoned.closed
  cases known : h.eventOf? i move with
  | none =>
      rw [known] at changed
      exact same.trans changed
  | some event =>
      rw [known] at changed
      have unissued := issued?_of_isClosed here closed (eventOf?_eq_some known)
      exact (same.trans (Session.sameCalls_apply_of_idle same.pending unissued)).trans changed

theorem run?_abandoned {moves : List Move} (abandoned : h.Abandoned i s)
    (run : h.run? moves = some last) : last.Abandoned i s :=
  run?_induction (P := fun h => h.Abandoned i s) step?_abandoned abandoned run

/-- The end of the connection of a session gives its pending calls up. -/
theorem abandoned_of_ending {settings : Settings} {mark : Mark} {before : List Move}
    (run : (fresh settings mark).run? before = some h) (here : h.session? i = some s)
    (ended : h.step? (.ending s.link (some i)) = some next) : next.Abandoned i s := by
  obtain ⟨t, there, same⟩ := step?_calls ended here
  have event : h.eventOf? i (.ending s.link (some i)) = some .ended := by
    simp [eventOf?, here, callEvent?]
  rw [event] at same
  refine ⟨⟨t, there, same⟩, ?_⟩
  have reached : (fresh settings mark).run? (before ++ [.ending s.link (some i)]) = some next :=
    run?_concat.mpr ⟨h, run, ended⟩
  obtain ⟨l, known⟩ := Option.isSome_iff_exists.mp (attached_of_run? run here)
  obtain ⟨l', there', shut⟩ := phase_handleEnd known (some i)
  cases ended
  have coherent := (sound_of_run? reached).coherent there'
  unfold isClosed
  rw [there', Option.any_some, ← coherent.phase, shut]
  rfl

/-! ### For good -/

/-- What the end of a connection has made of the calls of session number `i`, which was `s` before,
as it is in `last` after the moves `later` since. -/
structure OverForGood (h : Hub) (later : List Move) (last : Hub) (i : Nat) (s : Session) :
    Prop where
  /-- Nothing is pending, and nothing was settled since the pending calls were given up. -/
  calls : ∃ t, last.session? i = some t ∧ t.pending = [] ∧
    t.settled = s.settled ++ s.pending.map fun p => (p.id, .error .closed)
  /-- No call was settled twice. -/
  once : (s.settled.map Prod.fst ++ s.pending.map Pending.id).Nodup
  /-- A call that was pending came to the end of the connection. -/
  outcome : ∀ p ∈ s.pending, ((last.session? i).bind fun t => t.outcome? p.id) =
    some (.error .closed)
  /-- Whoever waits for the call can go on, and is told so. -/
  told : ∀ p ∈ s.pending, ∀ task, last.task? task = some ⟨task, .calling i p.id⟩ →
    last.step? (.resume task) =
      some ((last.detach task).conclude task (.answered (.error .closed)))
  /-- Its timer does not ring, nor does that of any other call of the session. -/
  silent : ∀ id, last.step? (.expire i id) = none
  /-- A late answer is counted and does nothing else. -/
  late : ∀ id outcome, last.settle i id outcome = (last.count .unknownResponse, false)
  /-- Whoever calls the peer of the session is told that the connection is closed, and nothing else
  is done. -/
  sending : ∀ command payload, last.sendCall i command payload = (last, .error .closed)
  /-- So is whoever calls it by its key, if the session holds the slot. -/
  calling : ∀ variant key slot command payload, last.registered? variant key = some slot →
    slot.session = i → last.beginCall variant key command payload =
      (last.newTask.1.conclude last.nextTask (.answered (.error .closed)), last.nextTask)
  /-- No timer of the session rang since. -/
  unrung : ∀ id, Move.expire i id ∉ later
  /-- The end counted no call as overdue, and since then timers that rang were counted only. -/
  counted : last.counters.timedOut = h.counters.timedOut + later.countP Move.isExpiry

/-- Who waits for a call that is settled goes on and is told its outcome. -/
theorem resume_calling {task : Nat} {id : String} {outcome : CallOutcome}
    (found : h.task? task = some ⟨task, .calling i id⟩) (here : h.session? i = some t)
    (settled : t.outcome? id = some outcome) :
    h.step? (.resume task) = some ((h.detach task).conclude task (.answered outcome)) := by
  have still : (h.detach task).session? i = some t := here
  simp [step?, found, isReady, here, settled, resume, still]

/-- A timer of a session without calls does not ring. -/
theorem Abandoned.silent (abandoned : h.Abandoned i s) (id : String) :
    h.step? (.expire i id) = none := by
  obtain ⟨t, here, same⟩ := abandoned.calls
  simp [step?, expire?, here, Session.expire?_of_idle same.pending]

/-- The calls of a session whose connection has ended are over for good. -/
theorem abandoned_for_good {settings : Settings} {mark : Mark} {before later : List Move}
    (run : (fresh settings mark).run? before = some h) (here : h.session? i = some s)
    (ended : h.step? (.ending s.link (some i)) = some next) (ran : next.run? later = some last) :
    OverForGood h later last i s := by
  have start := abandoned_of_ending run here ended
  have abandoned := run?_abandoned start ran
  obtain ⟨t, there, same⟩ := abandoned.calls
  have ran' : h.run? (.ending s.link (some i) :: later) = some last := by
    rw [run?_cons, ended, Option.bind_some, ran]
  have settled : ∀ p ∈ s.pending, t.outcome? p.id = some (.error .closed) := by
    intro p member
    have fate := fate_of_run? run here member ran' there
    have first : h.eventOf? i (.ending s.link (some i)) = some .ended := by
      simp [eventOf?, here, callEvent?]
    rw [callHistory, first] at fate
    exact fate.outcome?_eq
  have closed : last.isClosed t.link = true := same.link ▸ abandoned.closed
  have refused := sendCall_of_isClosed there closed
  exact {
    calls := ⟨t, there, same.pending, same.settled⟩
    once := by
      have recorded := recorded_of_fresh run here
      exact List.perm_append_comm.nodup_iff.mp (recorded.perm.nodup_iff.mpr recorded.nodup)
    outcome := fun p member => by rw [there, Option.bind_some, settled p member]
    told := fun p member task found => resume_calling found there (settled p member)
    silent := abandoned.silent
    late := by
      intro id outcome
      rw [settle_eq there, Session.isPending_of_idle same.pending]
      rfl
    sending := refused
    calling := by
      rintro variant key slot command payload found rfl
      have there' : last.newTask.1.session? slot.session = some t := there
      have found' : last.newTask.1.registered? variant key = some slot := found
      simp only [beginCall, found']
      rw [sendCall_of_isClosed there' closed]
      rfl
    unrung := by
      intro id member
      obtain ⟨earlier, rest, rfl⟩ := List.append_of_mem member
      obtain ⟨mid, reached, rest⟩ := run?_split ran
      rw [run?_cons, (run?_abandoned start reached).silent] at rest
      cases rest
    counted := by
      rw [timedOut_of_run? ran']
      simp [Move.isExpiry] }

/-- What is tried after the end of a connection: a call, an answer to the one that was given up, and
the end once more, when the time of the call would be over. -/
def endedLater : List Move := [.sending 0 "Reset" .null,
  .settling 0 "call-0-hub" (.result .null), .advance 10000, .ending 0 (some 0)]

theorem abandoned_for_good_calledRun : ∃ h next last s,
    (fresh {} "hub").run? calledRun = some h ∧ h.session? 0 = some s ∧
    s.pending = [⟨"call-0-hub", "Reset", 15000⟩] ∧
    h.step? (.ending s.link (some 0)) = some next ∧ next.run? endedLater = some last ∧
    OverForGood h endedLater last 0 s := by
  have ends : (((fresh {} "hub").run? calledRun).bind fun h => (h.session? 0).bind fun s =>
      (h.step? (.ending s.link (some 0))).bind fun next => (next.run? endedLater).map fun _ =>
        s.pending) = some [⟨"call-0-hub", "Reset", 15000⟩] := by
    decide
  obtain ⟨h, run, ends⟩ := Option.bind_eq_some_iff.mp ends
  obtain ⟨s, here, ends⟩ := Option.bind_eq_some_iff.mp ends
  obtain ⟨next, ended, ends⟩ := Option.bind_eq_some_iff.mp ends
  obtain ⟨last, ran, pending⟩ := Option.map_eq_some_iff.mp ends
  exact ⟨h, next, last, s, run, here, pending, ended, ran, abandoned_for_good run here ended ran⟩

end Hub

end StationHub

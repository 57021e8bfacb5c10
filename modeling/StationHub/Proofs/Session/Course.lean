import StationHub.Session

/-!
The course of a session: what stays true of it, and what concerns its calls.

* `SamePeer`, `SameCalls`: two states of a session agree on its peer, and on its calls as well.
* `CallEvent`: the events that concern the calls of a session, each with what it does to the session
  (`CallEvent.apply`).
-/

namespace StationHub

namespace Session

/-- The two states of a session agree on everything but its calls. -/
structure SamePeer (s t : Session) : Prop where
  key : t.key = s.key
  variant : t.variant = s.variant
  identity : t.identity = s.identity
  link : t.link = s.link
  callTimeout : t.callTimeout = s.callTimeout
  maxPending : t.maxPending = s.maxPending

/-- The two states of a session agree on its peer and on its own calls. -/
structure SameCalls (s t : Session) : Prop extends s.SamePeer t where
  pending : t.pending = s.pending
  settled : t.settled = s.settled

theorem SamePeer.refl (s : Session) : s.SamePeer s := ⟨rfl, rfl, rfl, rfl, rfl, rfl⟩

theorem SamePeer.trans {s t u : Session} (h : s.SamePeer t) (h' : t.SamePeer u) : s.SamePeer u :=
  ⟨h'.key.trans h.key, h'.variant.trans h.variant, h'.identity.trans h.identity,
    h'.link.trans h.link, h'.callTimeout.trans h.callTimeout, h'.maxPending.trans h.maxPending⟩

theorem SameCalls.refl (s : Session) : s.SameCalls s := ⟨.refl s, rfl, rfl⟩

theorem SameCalls.trans {s t u : Session} (h : s.SameCalls t) (h' : t.SameCalls u) :
    s.SameCalls u :=
  ⟨h.toSamePeer.trans h'.toSamePeer, h'.pending.trans h.pending, h'.settled.trans h.settled⟩

theorem sameCalls_noteCall (s : Session) : s.SameCalls s.noteCall.1 :=
  ⟨⟨rfl, rfl, rfl, rfl, rfl, rfl⟩, rfl, rfl⟩

end Session

/-- Something that concerns the calls of a session. -/
inductive CallEvent where
  /-- A call was queued at the given time. -/
  | issued (id command : String) (time : Nat)
  /-- An answer came, whether the call is pending or not. -/
  | answered (id : String) (answer : Answer)
  /-- The timer of a call rang at the given time. -/
  | overdue (id : String) (time : Nat)
  /-- The pending calls were given up with the connection. -/
  | ended

namespace CallEvent

/-- A session after an event. -/
def apply : CallEvent → Session → Session
  | .issued id command time, s => s.issue id command time
  | .answered id answer, s => (s.settle? id answer.outcome).getD s
  | .overdue id time, s => (s.expire? id time).getD s
  | .ended, s => s.failPending.1

theorem samePeer_apply (event : CallEvent) (s : Session) : s.SamePeer (event.apply s) := by
  have settling : ∀ id outcome, s.SamePeer ((s.settle? id outcome).getD s) := by
    intro id outcome
    unfold Session.settle?
    split <;> exact ⟨rfl, rfl, rfl, rfl, rfl, rfl⟩
  cases event with
  | issued id command time => exact ⟨rfl, rfl, rfl, rfl, rfl, rfl⟩
  | answered id answer => exact settling id answer.outcome
  | overdue id time =>
      show s.SamePeer ((s.expire? id time).getD s)
      unfold Session.expire?
      split
      · exact .refl s
      · split
        · exact settling id _
        · exact .refl s
  | ended => exact ⟨rfl, rfl, rfl, rfl, rfl, rfl⟩

/-- An event does the same to the calls of a session whatever else is known of it. -/
theorem sameCalls_apply (event : CallEvent) {s t : Session} (same : s.SameCalls t) :
    (event.apply s).SameCalls (event.apply t) := by
  obtain ⟨called, rfl⟩ : ∃ called, t = { s with calledBefore := called } := by
    refine ⟨t.calledBefore, ?_⟩
    cases s
    cases t
    obtain ⟨⟨rfl, rfl, rfl, rfl, rfl, rfl⟩, rfl, rfl⟩ := same
    rfl
  let t : Session := { s with calledBefore := called }
  have settling : ∀ id outcome,
      ((s.settle? id outcome).getD s).SameCalls ((t.settle? id outcome).getD t) := by
    intro id outcome
    unfold Session.settle?
    rw [show t.isPending id = s.isPending id from rfl]
    split <;> exact ⟨⟨rfl, rfl, rfl, rfl, rfl, rfl⟩, rfl, rfl⟩
  cases event with
  | issued id command time => exact ⟨⟨rfl, rfl, rfl, rfl, rfl, rfl⟩, rfl, rfl⟩
  | answered id answer => exact settling id answer.outcome
  | overdue id time =>
      show ((s.expire? id time).getD s).SameCalls ((t.expire? id time).getD t)
      unfold Session.expire?
      rw [show t.pending? id = s.pending? id from rfl]
      split
      · exact ⟨⟨rfl, rfl, rfl, rfl, rfl, rfl⟩, rfl, rfl⟩
      · split
        · exact settling id _
        · exact ⟨⟨rfl, rfl, rfl, rfl, rfl, rfl⟩, rfl, rfl⟩
  | ended => exact ⟨⟨rfl, rfl, rfl, rfl, rfl, rfl⟩, rfl, rfl⟩

/-- The event is that of a timer. -/
def isOverdue : CallEvent → Bool
  | .overdue .. => true
  | _ => false

end CallEvent

/-- The answer that a message is. -/
def Message.answer? : Message → Option (String × Answer)
  | .call .. => none
  | .result id payload => some (id, .result payload)
  | .error id fault description details => some (id, .refusal fault description details)

end StationHub

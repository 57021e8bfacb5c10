import StationHub.Executor
import StationHub.Failure

/-!
A session: an identified peer on one connection, with the outgoing calls that wait for an answer.
A call leaves the pending table exactly once, and what it leaves with is its outcome: an answer, a
refusal, the end of its time, or the end of the connection.
-/

namespace StationHub

/-- An outgoing call that waits for its answer. -/
structure Pending where
  id : String
  command : String
  /-- When its time runs out. -/
  deadline : Nat
  deriving DecidableEq, Repr

/-- What an outgoing call came to. -/
abbrev CallOutcome := Except Failure Json

/-- What a peer answers to a call. -/
inductive Answer where
  | result (payload : Json)
  | refusal (fault : Fault) (description : String) (details : Json)

/-- What a call comes to with an answer. -/
def Answer.outcome : Answer → CallOutcome
  | .result payload => .ok payload
  | .refusal fault description details => .error (.refused fault description details)

/-- An identified peer on one connection. -/
structure Session where
  key : Key
  variant : Variant
  identity : Identity
  /-- The number of the connection. -/
  link : Nat
  /-- How long a call may wait. -/
  callTimeout : Nat
  /-- How many calls may wait at once. -/
  maxPending : Nat
  pending : List Pending := []
  /-- What past calls came to, oldest first. -/
  settled : List (String × CallOutcome) := []
  /-- The first call of the peer has been seen. -/
  calledBefore : Bool := false

namespace Session

/-- A fresh session of `identity` on the connection number `link`. -/
def fresh (identity : Identity) (variant : Variant) (link callTimeout maxPending : Nat) : Session :=
  { key := identity.key, variant, identity, link, callTimeout, maxPending }

/-- What an executor is told of the call `id` of the peer. -/
def context (s : Session) (id : String) : CallContext :=
  { variant := s.variant, key := s.key, messageId := id, identity := s.identity }

/-- The pending call with the given identifier. -/
def pending? (s : Session) (id : String) : Option Pending := s.pending.find? fun p => p.id == id

/-- The call waits for its answer. -/
def isPending (s : Session) (id : String) : Bool := (s.pending? id).isSome

/-- As many calls wait as may. -/
def isFull (s : Session) : Bool := decide (s.maxPending ≤ s.pending.length)

/-- The session with one more pending call, issued at the time `now`. -/
def issue (s : Session) (id command : String) (now : Nat) : Session :=
  { s with pending := s.pending ++ [⟨id, command, now + s.callTimeout⟩] }

/-- The session with the call settled, if it is pending. -/
def settle? (s : Session) (id : String) (outcome : CallOutcome) : Option Session :=
  if s.isPending id then
    some { s with
      pending := s.pending.filter fun p => p.id != id
      settled := s.settled ++ [(id, outcome)] }
  else none

/-- The session with the call settled because its time is over, if it is. -/
def expire? (s : Session) (id : String) (now : Nat) : Option Session :=
  match s.pending? id with
  | none => none
  | some p =>
      if p.deadline ≤ now then s.settle? id (.error (.timedOut id p.command s.callTimeout))
      else none

/-- The session with all pending calls failed, and how many there were. -/
def failPending (s : Session) : Session × Nat :=
  ({ s with
      pending := []
      settled := s.settled ++ s.pending.map fun p => (p.id, .error .closed) },
    s.pending.length)

/-- What the call came to. -/
def outcome? (s : Session) (id : String) : Option CallOutcome := s.settled.lookup id

/-- The session after a call of the peer, and whether it was the first. -/
def noteCall (s : Session) : Session × Bool := ({ s with calledBefore := true }, !s.calledBefore)

/-- A call that is settled is not pending any more. -/
theorem not_isPending_of_settle? {s next : Session} {id : String} {outcome : CallOutcome}
    (h : s.settle? id outcome = some next) : next.isPending id = false := by
  unfold settle? at h
  split at h
  · cases h
    simp [isPending, pending?]
  · cases h

theorem pending_failPending (s : Session) : s.failPending.1.pending = [] := rfl

end Session

end StationHub

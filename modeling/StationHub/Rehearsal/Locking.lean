import StationHub.PathLock
import StationHub.Rehearsal.Agenda
import StationHub.Rehearsal.Play
import StationHub.Settings

/-!
Rehearsing a path lock with named parties. A party asks for a path, keeps its guard until it is
dismissed or for a time fixed beforehand, and lets go. A party dismissed before it has its guard
lets go as soon as it has it. Parties take turns, in the order in which they come to be able to act.
-/

namespace StationHub.Rehearsal

/-- Somebody who waits for a path or has a guard. -/
structure Party where
  name : String
  ticket : Nat
  /-- How long it keeps its guard, if that is fixed. -/
  keeps : Option Nat
  guard : Option Guard := none
  /-- When it lets go, if that is fixed. -/
  until? : Option Nat := none
  dismissed : Bool := false

/-- The party with its guard. -/
def Party.given (party : Party) (guard : Guard) (now : Nat) : Party :=
  { party with guard := some guard, until? := party.keeps.map (now + ·) }

/-- The guard of a party that is to let go. -/
def Party.lettingGo? (party : Party) (now : Nat) : Option Guard :=
  match party.until? with
  | some time => if time ≤ now then party.guard else none
  | none => if party.dismissed then party.guard else none

/-- A lock and its parties. -/
structure Locking where
  lock : PathLock
  now : Nat := 0
  /-- The parties, in the order in which they began to wait or came to their guards. -/
  parties : List Party := []
  nextTicket : Nat := 0
  /-- The ticket of the newest party of each name. -/
  names : Table String Nat := []
  /-- Who acts next, by ticket. -/
  agenda : Agenda Nat := {}
  /-- Who obtained a guard and whether it owned its path, oldest first. -/
  obtained : List (String × Bool) := []

namespace Locking

/-- A lock with the given settings. -/
def fresh (retries interval alarmThreshold : Nat) : Locking :=
  let settings : Settings := { lockRetries := retries, lockInterval := interval }
  { lock := { budget := settings.lockBudget, alarmThreshold } }

/-- The state with the lock and the guard that `party` has come to, if any. -/
def keep (s : Locking) (party : Party) (result : PathLock × Option Guard) : Locking :=
  match result with
  | (lock, none) => { s with lock, parties := s.parties ++ [party] }
  | (lock, some guard) =>
      { s with
        lock
        parties := s.parties ++ [party.given guard s.now]
        obtained := s.obtained ++ [(party.name, guard.owned)] }

/-- The state without a party. -/
def without (s : Locking) (ticket : Nat) : Locking :=
  { s with parties := s.parties.filter fun party => party.ticket != ticket }

/-- The party with the given ticket. -/
def party? (s : Locking) (ticket : Nat) : Option Party :=
  s.parties.find? fun party => party.ticket == ticket

/-- A guard is given up, and all who wait for its path are called. -/
def release (s : Locking) (guard : Guard) : Locking :=
  let lock := s.lock.release guard
  let woken := lock.waiting.filter Waiter.woken
  { s with lock, agenda := s.agenda.callAll (woken.map Waiter.ticket) }

/-- A party that waits and has a reason to tries for its path again. -/
def tryAgain (s : Locking) (ticket : Nat) : Locking :=
  match s.party? ticket with
  | none => s
  | some party =>
      if s.lock.isReady ticket s.now then
        (s.without ticket).keep party (s.lock.resume ticket s.now)
      else s

/-- A party whose guard is to be given up goes away. -/
def leave (s : Locking) (ticket : Nat) : Locking :=
  match (s.party? ticket).bind fun party => party.lettingGo? s.now with
  | none => s
  | some guard => (s.without ticket).release guard

/-- When the waits of a party run out. -/
def due (s : Locking) (ticket : Nat) : List Nat :=
  (s.lock.waiter? ticket).toList.map Waiter.deadline ++
    ((s.party? ticket).bind Party.until?).toList

/-- A party has its turn: it tries for its path, and lets go. Whoever waits again sets its alarm
anew. -/
def turn (s : Locking) (ticket : Nat) : Locking :=
  let waits := (s.lock.waiter? ticket).isSome
  let agenda := if waits then s.agenda.setAlarms ticket [] else s.agenda
  let s := ({ s with agenda }.tryAgain ticket).leave ticket
  { s with agenda := s.agenda.setAlarms ticket (s.due ticket) }

/-- How a lock is played. -/
def play : Play Locking where
  now := now
  atTime now s := { s with now, agenda := s.agenda.ring now }
  move? s := s.agenda.next?.map fun (ticket, agenda) => { s with agenda }.turn ticket
  due s := s.agenda.alarms.map (·.1)

/-- What can be done. -/
inductive Step where
  | acquire (who path : String) (keeps : Option Nat)
  | release (who : String)
  /-- The party goes away, whether it waits or has a guard. -/
  | cancel (who : String)
  | advance (ms : Nat)

/-- The newest party of that name. -/
def newest? (s : Locking) (who : String) : Option Party := (s.names.get? who).bind s.party?

/-- The newest party of that name is told to let go. -/
def dismiss (s : Locking) (who : String) : Locking :=
  match s.newest? who with
  | none => s
  | some party =>
      { s with
        parties := s.parties.map fun other =>
          if other.ticket = party.ticket then { other with dismissed := true } else other
        agenda := s.agenda.call party.ticket }

/-- A party asks for a path. It takes the name over from whoever had it, who is told to let go. -/
def acquire (s : Locking) (who path : String) (keeps : Option Nat) : Locking :=
  let party : Party := { name := who, ticket := s.nextTicket, keeps }
  let s := { s.dismiss who with
    nextTicket := s.nextTicket + 1
    names := s.names.put who party.ticket }
  (s.keep party (s.lock.request party.ticket path s.now)).turn party.ticket

/-- A party goes away. -/
def cancel (s : Locking) (who : String) : Locking :=
  match s.newest? who with
  | none => s
  | some party =>
      let s := s.without party.ticket
      match party.guard with
      | some guard => s.release guard
      | none => { s with lock := s.lock.withdraw party.ticket }

/-- The state after a step and all that it leads to. -/
def perform (s : Locking) (step : Step) : Locking :=
  let s := { s with obtained := [] }
  match step with
  | .acquire who path keeps => play.rest (s.acquire who path keeps)
  | .release who => play.rest (s.dismiss who)
  | .cancel who => play.rest (s.cancel who)
  | .advance ms => play.pass ms s

/-- The paths in use, sorted. -/
def heldPaths (s : Locking) : List String :=
  (s.lock.held.map (·.1)).mergeSort fun a b => decide (a ≤ b)

end Locking

end StationHub.Rehearsal

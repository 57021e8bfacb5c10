import StationHub.Table

/-!
Exclusive use of paths, with a bounded wait. Whoever asks for a path that is in use waits until it
is let go, but no longer than the budget allows; then it goes on without owning the path, and the
attempt counts as exhausted. Too many exhausted attempts in a row raise an alarm each.

All who wait for a path are woken when it is let go and try again in the order in which they began
to wait; those who come too late wait again, in that order, until their first deadline.
-/

namespace StationHub

/-- The right to go on. It owns its path unless the wait ran out. -/
structure Guard where
  path : String
  /-- The token under which the path is held, for a guard that owns it. -/
  token : Option Nat
  deriving DecidableEq, Repr

/-- The guard owns its path. -/
def Guard.owned (guard : Guard) : Bool := guard.token.isSome

/-- Somebody who waits for a path. -/
structure Waiter where
  /-- Who waits. -/
  ticket : Nat
  path : String
  /-- When the wait runs out. -/
  deadline : Nat
  /-- The path has been let go since the last try. -/
  woken : Bool
  deriving DecidableEq, Repr

/-- The waiter has a reason to try again. -/
def Waiter.isReady (waiter : Waiter) (now : Nat) : Bool :=
  waiter.woken || decide (waiter.deadline ≤ now)

/-- Which paths are in use and who waits for them. -/
structure PathLock where
  /-- How long an attempt may wait. -/
  budget : Nat
  /-- From which exhausted attempt in a row on an alarm is raised. -/
  alarmThreshold : Nat
  /-- The token of the guard that owns each path in use. -/
  held : Table String Nat := []
  nextToken : Nat := 1
  /-- Who waits, in the order in which they began to. -/
  waiting : List Waiter := []
  /-- Exhausted attempts since a path was last obtained, counted in 32 bits. -/
  streak : Nat := 0
  /-- Exhausted attempts in all. -/
  exhausted : Nat := 0
  /-- Alarms raised. -/
  alarms : Nat := 0
  deriving DecidableEq, Repr

namespace PathLock

/-- The path is in use. -/
def isHeld (lock : PathLock) (path : String) : Bool := lock.held.has path

/-- Takes the path if it is not in use. -/
def take? (lock : PathLock) (path : String) : Option (PathLock × Guard) :=
  if lock.isHeld path then none
  else
    some ({ lock with
        held := lock.held.put path lock.nextToken
        nextToken := lock.nextToken + 1
        streak := 0 },
      ⟨path, some lock.nextToken⟩)

/-- Goes on without the path. -/
def exhaust (lock : PathLock) (path : String) : PathLock × Guard :=
  let streak := (lock.streak + 1) % Nat.pow 2 32
  ({ lock with
      streak
      exhausted := lock.exhausted + 1
      alarms := if lock.alarmThreshold ≤ streak then lock.alarms + 1 else lock.alarms },
    ⟨path, none⟩)

/-- Tries for a path until `deadline`: the guard, or nothing if `ticket` waits from now on. -/
def tryFor (lock : PathLock) (ticket : Nat) (path : String) (deadline now : Nat) :
    PathLock × Option Guard :=
  match lock.take? path with
  | some (lock, guard) => (lock, some guard)
  | none =>
      if deadline ≤ now then
        let (lock, guard) := lock.exhaust path
        (lock, some guard)
      else ({ lock with waiting := lock.waiting ++ [⟨ticket, path, deadline, false⟩] }, none)

/-- Asks for a path at the time `now`. -/
def request (lock : PathLock) (ticket : Nat) (path : String) (now : Nat) :
    PathLock × Option Guard :=
  lock.tryFor ticket path (now + lock.budget) now

/-- The waiter with the given ticket. -/
def waiter? (lock : PathLock) (ticket : Nat) : Option Waiter :=
  lock.waiting.find? fun waiter => waiter.ticket == ticket

/-- The lock without the waiter that has the given ticket. -/
def withdraw (lock : PathLock) (ticket : Nat) : PathLock :=
  { lock with waiting := lock.waiting.filter fun waiter => waiter.ticket != ticket }

/-- The holder of the ticket waits and has a reason to try again. -/
def isReady (lock : PathLock) (ticket now : Nat) : Bool :=
  (lock.waiter? ticket).any fun waiter => waiter.isReady now

/-- A waiter that was woken, or whose time has run out, tries again. -/
def resume (lock : PathLock) (ticket now : Nat) : PathLock × Option Guard :=
  match lock.waiter? ticket with
  | none => (lock, none)
  | some waiter => (lock.withdraw ticket).tryFor ticket waiter.path waiter.deadline now

/-- Marks all who wait for `path` as woken. Each of them waits for one holder to let go. A path gets
a new holder only after the one before has let go, which has woken all who waited for that one; so
whoever is not woken yet waits for the holder that lets go now. -/
def wake (lock : PathLock) (path : String) : PathLock :=
  { lock with
    waiting := lock.waiting.map fun waiter =>
      if waiter.path = path then { waiter with woken := true } else waiter }

/-- Gives up a guard. A path is let go only by the guard that owns it. -/
def release (lock : PathLock) (guard : Guard) : PathLock :=
  match guard.token with
  | none => lock
  | some token =>
      if lock.held.get? guard.path = some token then
        { lock with held := lock.held.erase guard.path }.wake guard.path
      else lock

theorem release_unowned (lock : PathLock) (path : String) : lock.release ⟨path, none⟩ = lock := rfl

theorem isHeld_take? {lock next : PathLock} {path : String} {guard : Guard}
    (h : lock.take? path = some (next, guard)) : next.isHeld path = true := by
  unfold take? at h
  split at h
  · cases h
  · cases h
    simp [isHeld, Table.has]

end PathLock

end StationHub

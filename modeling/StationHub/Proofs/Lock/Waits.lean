import StationHub.Proofs.Lock.Custody

/-!
Who waits for which path, and until when.

* `Wait`: what somebody waits for, whether woken or not; `waits_…`: what the operations of the lock
  do to it. A deadline never moves.
* `Outcome`: what comes of an attempt; `outcome_tryFor`.
-/

namespace StationHub

/-- Somebody waits for a path until a deadline. -/
structure Wait where
  ticket : Nat
  path : String
  deadline : Nat

/-- What the waiter waits for. -/
def Waiter.wait (waiter : Waiter) : Wait := ⟨waiter.ticket, waiter.path, waiter.deadline⟩

namespace PathLock

variable {lock next : PathLock} {ticket deadline now : Nat} {path : String} {guard : Guard}
  {tried : PathLock × Option Guard}

/-- Who waits, in the order in which they began to. -/
def waits (lock : PathLock) : List Wait := lock.waiting.map Waiter.wait

/-! ### Attempts -/

/-- What comes of an attempt to get a path until a deadline. -/
inductive Outcome (lock : PathLock) (ticket : Nat) (path : String) (deadline now : Nat) :
    PathLock × Option Guard → Prop where
  /-- The path is free. -/
  | obtains {next : PathLock} {guard : Guard} : lock.isHeld path = false → guard.path = path →
      guard.owned = true → next.waiting = lock.waiting → next.budget = lock.budget →
      Outcome lock ticket path deadline now (next, some guard)
  /-- The path is in use, and the time is over. -/
  | exhausts {next : PathLock} {guard : Guard} : lock.isHeld path = true → deadline ≤ now →
      guard.path = path → guard.owned = false → next.waiting = lock.waiting →
      next.budget = lock.budget → Outcome lock ticket path deadline now (next, some guard)
  /-- The path is in use. -/
  | waits {next : PathLock} : lock.isHeld path = true → now < deadline →
      next.waiting = lock.waiting ++ [⟨ticket, path, deadline, false⟩] →
      next.budget = lock.budget → Outcome lock ticket path deadline now (next, none)

theorem outcome_tryFor (lock : PathLock) (ticket : Nat) (path : String) (deadline now : Nat) :
    Outcome lock ticket path deadline now (lock.tryFor ticket path deadline now) := by
  unfold tryFor take?
  cases used : lock.isHeld path with
  | false => exact .obtains used rfl rfl rfl rfl
  | true =>
      simp only [if_true]
      split
      · rename_i late
        exact .exhausts used late rfl rfl rfl rfl
      · rename_i early
        exact .waits used (Nat.lt_of_not_le early) rfl rfl

/-- Who gets no guard waits from now on, behind the others; nobody else is concerned. -/
theorem Outcome.waiting_eq (outcome : Outcome lock ticket path deadline now tried) :
    tried.1.waiting = lock.waiting ++
      if tried.2.isNone then [⟨ticket, path, deadline, false⟩] else [] := by
  cases outcome with
  | obtains _ _ _ same => exact same.trans (List.append_nil _).symm
  | exhausts _ _ _ _ same => exact same.trans (List.append_nil _).symm
  | waits _ _ more => exact more

theorem Outcome.waits_eq (outcome : Outcome lock ticket path deadline now tried) :
    tried.1.waits = lock.waits ++ if tried.2.isNone then [⟨ticket, path, deadline⟩] else [] := by
  unfold PathLock.waits
  rw [outcome.waiting_eq, List.map_append]
  cases tried.2 <;> rfl

/-- The guard is for the path that was tried for. -/
theorem Outcome.path_eq (outcome : Outcome lock ticket path deadline now tried)
    (got : tried.2 = some guard) : guard.path = path := by
  cases outcome with
  | obtains _ is =>
      cases got
      exact is
  | exhausts _ _ is =>
      cases got
      exact is
  | waits => cases got

/-- A guard that does not own its path is given only when the time is over. -/
theorem Outcome.of_unowned (outcome : Outcome lock ticket path deadline now tried)
    (got : tried.2 = some guard) (unowned : guard.owned = false) :
    lock.isHeld path = true ∧ deadline ≤ now := by
  cases outcome with
  | obtains _ _ owned =>
      cases got
      rw [owned] at unowned
      cases unowned
  | exhausts used late => exact ⟨used, late⟩
  | waits => cases got

theorem Outcome.budget_eq (outcome : Outcome lock ticket path deadline now tried) :
    tried.1.budget = lock.budget := by
  cases outcome <;> assumption

/-! ### Other operations -/

theorem waits_withdraw (lock : PathLock) (ticket : Nat) :
    (lock.withdraw ticket).waits = lock.waits.filter fun wait => wait.ticket != ticket := by
  unfold waits withdraw
  rw [List.filter_map]
  rfl

theorem waits_wake (lock : PathLock) (path : String) : (lock.wake path).waits = lock.waits := by
  unfold waits wake
  rw [List.map_map]
  refine List.map_congr_left fun waiter _ => ?_
  rw [Function.comp_apply]
  split <;> rfl

theorem waits_release (lock : PathLock) (guard : Guard) :
    (lock.release guard).waits = lock.waits := by
  unfold release
  split
  · rfl
  · split
    · exact waits_wake _ _
    · rfl

theorem budget_release (lock : PathLock) (guard : Guard) :
    (lock.release guard).budget = lock.budget := by
  unfold release
  split
  · rfl
  · split <;> rfl

theorem mem_waits {waiter : Waiter} (member : waiter ∈ lock.waiting) :
    waiter.wait ∈ lock.waits := List.mem_map_of_mem member

end PathLock

end StationHub

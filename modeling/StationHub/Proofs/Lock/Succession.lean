import StationHub.Proofs.Lock.Lines
import StationHub.Proofs.Lock.Patience

/-!
Who gets a path after whom.

* `isOrderly`: a move is made in order if whoever tries again is next, and nothing else happens to
  the lock while somebody who waits can go on.
* `line_of_step?`, `line_of_run?`: then those who have obtained a path, and after them those in its
  line, have asked for it in this order.
* `heir_of_step?`, `heir_of_run?`: a path that is free passes to the first of its line.
* `sameAt_of_step?`: what happens to one path leaves the others alone.
* `succession_of_run?`: the order in which paths are handed over.
-/

namespace StationHub.Hub

open PathLock (grantee SameAt KeepsTo)

/-- A move is made in order: who tries for a path again is next, and nothing else happens to the
lock, and no time passes, while somebody who waits can go on. -/
def isOrderly (h : Hub) (move : Move) : Bool :=
  match h.retries? move with
  | some id => h.lock.isNext id
  | none =>
      h.lock.rests h.now ||
        (h.attempt? move).isNone &&
          (h.step? move).all fun next => next.lock == h.lock && next.now == h.now

/-- Who asks for a path, in the order of the askings. -/
def askersOf (path : String) (askings : List Asking) : List Nat :=
  (askings.filter fun asking => asking.path == path).map Asking.task

/-- Who gets a path, in the order in which the guards are given out. -/
def obtainersOf (path : String) (got : List (Nat × Guard)) : List Nat :=
  (got.filter fun entry => entry.2.owned && entry.2.path == path).map Prod.fst

/-- Whenever nobody who waits can go on any more after moves that are made in order, the first in
the line of the path has gone on, before any time has passed and before anybody else has got the
path, and has got it. -/
def PassesOn (h : Hub) (path : String) : Prop :=
  ∀ first behind, h.lock.line path = first :: behind →
    ∀ later last, h.run? later = some last → Runs.always step? isOrderly h later = true →
      last.lock.rests last.now = true →
    ∃ earlier rest mid guard, later = earlier ++ .resume first :: rest ∧
      h.run? earlier = some mid ∧ mid.now = h.now ∧
      obtainersOf path (h.observed obtains? earlier) = [] ∧
      mid.obtains? (.resume first) = some (first, guard) ∧ guard.owned = true ∧ guard.path = path

theorem askersOf_append (path : String) (earlier later : List Asking) :
    askersOf path (earlier ++ later) = askersOf path earlier ++ askersOf path later := by
  simp [askersOf]

theorem obtainersOf_append (path : String) (earlier later : List (Nat × Guard)) :
    obtainersOf path (earlier ++ later) = obtainersOf path earlier ++ obtainersOf path later := by
  simp [obtainersOf]

variable {h next last : Hub} {move : Move} {moves later : List Move} {id first : Nat}
  {path other : String} {lock : PathLock} {result : Option Guard} {waiter : Waiter}
  {behind : List Nat}

/-! ### Attempts -/

theorem asks?_of_retries (retries : h.retries? move = some id) : h.asks? move = none := by
  obtain ⟨rfl, task, found, waits⟩ := retries?_eq_some retries
  obtain rfl := id_of_task? found
  exact asks?_of_waitsForPath found waits

theorem retries_of_attempt? (attempts : h.attempt? move = some (id, lock, result))
    (nobody : h.asks? move = none) : h.retries? move = some id := by
  rw [attempt?, nobody] at attempts
  obtain ⟨number, retries, tried⟩ := Option.map_eq_some_iff.mp attempts
  exact (Prod.mk.inj tried).1 ▸ retries

/-- Who makes an attempt gets what is given out with the move. -/
theorem obtainersOf_of_attempt? (attempts : h.attempt? move = some (id, lock, result))
    (path : String) : obtainersOf path (h.obtains? move).toList = grantee id path result := by
  rw [obtains?, attempts, Option.bind_some]
  cases result with
  | none => rfl
  | some guard =>
      unfold grantee obtainersOf
      cases known : guard.owned && guard.path == path <;> simp [known]

theorem obtainersOf_of_nobody (nobody : h.attempt? move = none) (path : String) :
    obtainersOf path (h.obtains? move).toList = [] := by
  rw [obtains?, nobody]
  rfl

theorem askersOf_of_asks? {asker : Nat} (asks : h.asks? move = some (asker, path))
    (other : String) :
    askersOf other (h.asking? move).toList = if path = other then [asker] else [] := by
  rw [asking?, asks, Option.map_some]
  by_cases same : path = other <;> simp [askersOf, same]

theorem askersOf_of_nobody (nobody : h.asks? move = none) (path : String) :
    askersOf path (h.asking? move).toList = [] := by
  rw [asking?, nobody]
  rfl

section

variable (numbered : h.Numbered) (custody : Custody h.lock h.stakes)
include numbered custody

/-- Who tries again can go on. -/
theorem ready_of_retries (retries : h.retries? move = some waiter.ticket)
    (member : waiter ∈ h.lock.waiting) (moved : h.step? move = some next) :
    waiter.isReady h.now = true := by
  obtain ⟨rfl, task, found, waits⟩ := retries?_eq_some retries
  obtain ⟨other, found', ready, -⟩ := resumed moved
  cases found.symm.trans found'
  rw [isReady_of_waitsForPath waits, PathLock.isReady, id_of_task? found,
    waiter?_of_mem numbered custody member] at ready
  exact ready

theorem isNext_of_mem (member : waiter ∈ h.lock.waiting)
    (isNext : h.lock.isNext waiter.ticket = true) (woken : waiter.woken = true) :
    (h.lock.woken waiter.path).head? = some waiter.ticket := by
  simpa [PathLock.isNext, waiter?_of_mem numbered custody member, woken] using isNext

/-! ### The line -/

omit numbered in
/-- What happens to the lock in order: somebody who is next tries again, or nobody who waits can go
on, or nothing happens. -/
theorem orderly_cases (orderly : h.isOrderly move = true) (moved : h.step? move = some next) :
    (∃ waiter ∈ h.lock.waiting, h.retries? move = some waiter.ticket ∧
        h.lock.isNext waiter.ticket = true) ∨
      (h.retries? move = none ∧ h.lock.rests h.now = true) ∨
      (h.attempt? move = none ∧ next.lock = h.lock ∧ next.now = h.now) := by
  unfold isOrderly at orderly
  cases retries : h.retries? move with
  | some id =>
      rw [retries] at orderly
      obtain ⟨rfl, task, found, waits⟩ := retries?_eq_some retries
      have inside : id ∈ h.stakes.filterMap Stake.ticket? :=
        mem_tickets.mpr ⟨task, List.mem_of_find?_eq_some found, id_of_task? found, waits⟩
      obtain ⟨waiter, member, rfl⟩ := List.mem_map.mp (custody.queue.mem_iff.mpr inside)
      exact .inl ⟨waiter, member, rfl, orderly⟩
  | none =>
      rw [retries, moved] at orderly
      simp only [Bool.or_eq_true, Bool.and_eq_true, Option.isNone_iff_eq_none, Option.all_some,
        beq_iff_eq] at orderly
      exact .inr (orderly.imp_left fun rests => ⟨rfl, rests⟩)

/-- With an attempt that is made in order nobody is passed over. -/
theorem line_of_attempt? (orderly : h.isOrderly move = true) (moved : h.step? move = some next)
    (attempts : h.attempt? move = some (id, lock, result)) :
    (∀ path, (grantee id path result ++ lock.line path).Sublist
        (h.lock.line path ++ askersOf path (h.asking? move).toList)) ∧
      ∀ guard ∈ result, guard.owned = true → lock.asleep guard.path = [] := by
  have cases := orderly_cases custody orderly moved
  cases attempted_of_attempt? custody attempts with
  | fresh asks outcome =>
      have rests : h.lock.rests h.now = true := by
        rcases cases with ⟨_, _, retries, -⟩ | ⟨-, rests⟩ | ⟨nobody, -⟩
        · cases asks.symm.trans (asks?_of_retries retries)
        · exact rests
        · cases nobody.symm.trans attempts
      refine ⟨fun path => ?_, PathLock.asleep_of_obtained custody.awake outcome⟩
      rw [askersOf_of_asks? asks]
      exact PathLock.line_of_asked custody.awake rests outcome path
  | @again waiter is nobody member ticket outcome =>
      subst ticket
      have retries := retries_of_attempt? attempts nobody
      have isNext : h.lock.isNext waiter.ticket = true := by
        rcases cases with ⟨_, _, retries', isNext⟩ | ⟨nobody, -⟩ | ⟨nobody, -⟩
        · rw [Option.some.inj (retries.symm.trans retries')]
          exact isNext
        · cases nobody.symm.trans retries
        · cases nobody.symm.trans attempts
      have awake : ∀ other ∈ (h.lock.withdraw waiter.ticket).waiting, other.woken = false →
          (h.lock.withdraw waiter.ticket).isHeld other.path = true :=
        fun other inside => custody.awake other (List.mem_of_mem_filter inside)
      refine ⟨fun path => ?_, PathLock.asleep_of_obtained awake outcome⟩
      rw [askersOf_of_nobody nobody, List.append_nil]
      exact PathLock.line_of_retried custody.awake member
        (ready_of_retries numbered custody retries member moved)
        (isNext_of_mem numbered custody member isNext) outcome path

/-- With a move that is made in order nobody is passed over. -/
theorem line_of_step? (orderly : h.isOrderly move = true) (moved : h.step? move = some next)
    (path : String) :
    (obtainersOf path (h.obtains? move).toList ++ next.lock.line path).Sublist
      (h.lock.line path ++ askersOf path (h.asking? move).toList) := by
  have attempted : ∀ {id lock result}, h.attempt? move = some (id, lock, result) →
      (obtainersOf path (h.obtains? move).toList ++ lock.line path).Sublist
        (h.lock.line path ++ askersOf path (h.asking? move).toList) := by
    intro id lock result attempts
    rw [obtainersOf_of_attempt? attempts]
    exact (line_of_attempt? numbered custody orderly moved attempts).1 path
  have unattempted : h.attempt? move = none → (next.lock.line path).Sublist (h.lock.line path) →
      (obtainersOf path (h.obtains? move).toList ++ next.lock.line path).Sublist
        (h.lock.line path ++ askersOf path (h.asking? move).toList) := by
    intro nobody fewer
    rw [obtainersOf_of_nobody nobody]
    exact fewer.trans (List.sublist_append_left _ _)
  cases (handover_of_step? numbered custody moved).1 with
  | idle nobody same =>
      exact unattempted nobody (same ▸ .refl _)
  | keeps id lock result attempts same =>
      rw [same]
      exact attempted attempts
  | passes id lock guard attempts same =>
      have nobody := (line_of_attempt? numbered custody orderly moved attempts).2 guard rfl
      rw [same, PathLock.line_release fun owned => .inr (nobody owned)]
      exact attempted attempts
  | drops id guard nobody _ same =>
      refine unattempted nobody ?_
      rcases orderly_cases custody orderly moved with ⟨_, _, retries, -⟩ | ⟨-, rests⟩ | ⟨-, idle, -⟩
      · rw [attempt?, asks?_of_retries retries, retries] at nobody
        cases nobody
      · rw [same, PathLock.line_release fun _ => .inl (PathLock.woken_of_rests rests _)]
      · rw [idle]
  | leaves id _ nobody _ same =>
      refine unattempted nobody ?_
      rw [same]
      exact h.lock.line_withdraw_sublist id path

end

/-- Those who have obtained a path and those in its line have asked for it in this order. -/
theorem line_of_run? {settings : Settings} {mark : Mark}
    (run : (fresh settings mark).run? moves = some h)
    (orderly : Runs.always step? isOrderly (fresh settings mark) moves = true) (path : String) :
    (obtainersOf path ((fresh settings mark).observed obtains? moves) ++ h.lock.line path).Sublist
      (askersOf path ((fresh settings mark).observed asking? moves)) := by
  induction moves using List.reverseRecOn generalizing h with
  | nil =>
      cases run
      exact .refl _
  | append_singleton moves move ih =>
      obtain ⟨mid, run, moved⟩ := run?_concat.mp run
      obtain ⟨orderly, now⟩ := Runs.always_concat run orderly
      have step := line_of_step? (numbered_of_run? run) (custody_of_run? run) now moved path
      rw [observed_concat run, observed_concat run, obtainersOf_append, askersOf_append,
        List.append_assoc]
      refine ((List.Sublist.refl _).append step).trans ?_
      rw [← List.append_assoc]
      exact (ih run orderly).append (.refl _)

/-! ### Other paths -/

/-- With the move somebody tries for `path`. -/
structure TriesFor (h : Hub) (move : Move) (next : Hub) (path : String) : Prop where
  apart : ∀ other, other ≠ path → SameAt other h.lock next.lock
  held : h.lock.isHeld path = true → next.lock.isHeld path = true
  obtains : ∀ got ∈ h.obtains? move, got.2.path = path
  waiter : ∀ waiter ∈ h.lock.waiting, h.retries? move = some waiter.ticket → waiter.path = path

section

variable (numbered : h.Numbered) (custody : Custody h.lock h.stakes)
  (moved : h.step? move = some next)
include numbered custody moved

theorem triesFor_of_attempt? (attempts : h.attempt? move = some (id, lock, result)) :
    ∃ path, TriesFor h move next path := by
  obtain ⟨path, keeps, waits⟩ : ∃ path, KeepsTo path h.lock (lock, result) ∧
      ∀ waiter ∈ h.lock.waiting, h.retries? move = some waiter.ticket → waiter.path = path := by
    cases asks : h.asks? move with
    | some asked =>
        obtain ⟨asker, path⟩ := asked
        rw [attempt?, asks] at attempts
        obtain ⟨-, tried⟩ := Prod.mk.inj (Option.some.inj attempts)
        refine ⟨path, tried ▸ h.lock.keepsTo_tryFor asker path _ h.now, fun _ _ retries => ?_⟩
        cases asks.symm.trans (asks?_of_retries retries)
    | none =>
        have retries := retries_of_attempt? attempts asks
        rw [attempt?, asks, retries] at attempts
        obtain ⟨-, tried⟩ := Prod.mk.inj (Option.some.inj attempts)
        obtain ⟨rfl, task, found, waits⟩ := retries?_eq_some retries
        obtain ⟨waiter, member, ticket, known⟩ := waiter_of_task numbered custody
          (List.mem_of_find?_eq_some found) waits
        rw [id_of_task? found] at ticket known
        have single : ∀ other ∈ h.lock.waiting, other.ticket = id → other = waiter :=
          fun other inside is => List.inj_on_of_nodup_map (nodup_waiting numbered custody) inside
            member (is.trans ticket.symm)
        refine ⟨waiter.path, tried ▸ PathLock.keepsTo_resume known single h.now,
          fun other inside retries' => ?_⟩
        rw [single other inside (Option.some.inj (retries'.symm.trans retries))]
  have obtains : ∀ got ∈ h.obtains? move, got.2.path = path := by
    rintro ⟨number, guard⟩ got
    obtain ⟨_, attempts'⟩ := obtains?_eq_some.mp got
    cases attempts.symm.trans attempts'
    exact (keeps.guard guard rfl).1
  have somebody : h.attempt? move ≠ none := by simp [attempts]
  refine ⟨path, ?_⟩
  cases (handover_of_step? numbered custody moved).1 with
  | idle nobody | drops _ _ nobody | leaves _ _ nobody => exact absurd nobody somebody
  | keeps _ _ _ attempts' same =>
      cases attempts.symm.trans attempts'
      exact ⟨same ▸ keeps.apart, same ▸ keeps.held, obtains, waits⟩
  | passes _ _ guard attempts' same =>
      cases attempts.symm.trans attempts'
      have passed := keeps.release rfl
      exact ⟨same ▸ passed.apart, same ▸ passed.held, obtains, waits⟩

/-- What happens to one path leaves the others alone. -/
theorem sameAt_of_step? : ∃ path, ∀ other, other ≠ path → SameAt other h.lock next.lock := by
  cases (handover_of_step? numbered custody moved).1 with
  | idle _ same => exact ⟨"", fun other _ => same ▸ .refl other h.lock⟩
  | keeps _ _ _ attempts | passes _ _ _ attempts =>
      obtain ⟨path, tries⟩ := triesFor_of_attempt? numbered custody moved attempts
      exact ⟨path, tries.apart⟩
  | drops _ guard _ _ same =>
      exact ⟨guard.path, fun other elsewhere => same ▸ PathLock.sameAt_release elsewhere.symm⟩
  | leaves id _ nobody stakes same =>
      have inside : id ∈ h.stakes.filterMap Stake.ticket? :=
        (stakes.filterMap Stake.ticket?).mem_iff.mpr List.mem_cons_self
      obtain ⟨waiter, member, ticket⟩ := List.mem_map.mp (custody.queue.mem_iff.mpr inside)
      refine ⟨waiter.path, fun other elsewhere => same ▸ PathLock.sameAt_withdraw ?_⟩
      intro one member' is
      rw [List.inj_on_of_nodup_map (nodup_waiting numbered custody) member' member
        (is.trans ticket.symm)]
      exact elsewhere.symm

/-! ### The heir -/

/-- A path that is let go in order is let go while nobody who waits can go on; this takes no time
and changes no places. -/
theorem freed_of_step? (orderly : h.isOrderly move = true) (used : h.lock.isHeld path = true)
    (free : next.lock.isHeld path = false) :
    h.lock.rests h.now = true ∧ next.now = h.now ∧ next.lock.line path = h.lock.line path := by
  have unchanged : next.lock.held ≠ h.lock.held := by
    intro same
    rw [PathLock.isHeld, same] at free
    cases free.symm.trans used
  have unattempted : h.attempt? move = none := by
    cases attempts : h.attempt? move with
    | none => rfl
    | some attempt =>
        obtain ⟨tried, tries⟩ := triesFor_of_attempt? numbered custody moved attempts
        by_cases same : path = tried
        · cases free.symm.trans (same ▸ tries.held (same ▸ used))
        · cases (free.symm.trans (tries.apart path same).isHeld).trans used
  have rests : h.lock.rests h.now = true := by
    rcases orderly_cases custody orderly moved with ⟨_, _, retries, -⟩ | ⟨-, rests⟩ | ⟨-, same, -⟩
    · rw [attempt?, asks?_of_retries retries, retries] at unattempted
      cases unattempted
    · exact rests
    · exact absurd (congrArg PathLock.held same) unchanged
  obtain ⟨handover, now⟩ := handover_of_step? numbered custody moved
  have still : move.elapsed = 0 := by
    cases move with
    | advance ms =>
        cases moved
        exact absurd rfl unchanged
    | _ => rfl
  refine ⟨rests, by rw [now, still, Nat.add_zero], ?_⟩
  cases handover with
  | idle _ same => exact absurd (congrArg PathLock.held same) unchanged
  | keeps _ _ _ attempts | passes _ _ _ attempts => cases unattempted.symm.trans attempts
  | drops _ guard _ _ same =>
      rw [same, PathLock.line_release fun _ => .inl (PathLock.woken_of_rests rests _)]
  | leaves _ _ _ _ same => exact absurd (congrArg PathLock.held same) unchanged

end

section

variable (numbered : h.Numbered) (custody : Custody h.lock h.stakes)
  (free : h.lock.isHeld path = false)
include numbered custody free

/-- As long as the first in the line of a free path has not gone on, nothing changes at the path,
and no time passes. -/
theorem heir_of_step? (heir : h.lock.woken path = first :: behind)
    (orderly : h.isOrderly move = true) (moved : h.step? move = some next)
    (other : move ≠ .resume first) :
    next.now = h.now ∧ SameAt path h.lock next.lock ∧
      obtainersOf path (h.obtains? move).toList = [] := by
  rcases orderly_cases custody orderly moved with
    ⟨waiter, member, retries, isNext⟩ | ⟨-, rests⟩ | ⟨nobody, same, still⟩
  · obtain ⟨is, -⟩ := retries?_eq_some retries
    have elsewhere : waiter.path ≠ path := by
      intro here
      have woken : waiter.woken = true := by
        by_contra sleeps
        have used := custody.awake waiter member (by simpa using sleeps)
        rw [here, free] at used
        cases used
      have next := isNext_of_mem numbered custody member isNext woken
      rw [here, heir, List.head?_cons, Option.some.injEq] at next
      exact other (is.trans (congrArg Move.resume next.symm))
    obtain ⟨lock, result, attempts⟩ :
        ∃ lock result, h.attempt? move = some (waiter.ticket, lock, result) := by
      rw [attempt?, asks?_of_retries retries, retries]
      exact ⟨_, _, rfl⟩
    obtain ⟨tried, tries⟩ := triesFor_of_attempt? numbered custody moved attempts
    have here := tries.waiter waiter member retries
    have now := (handover_of_step? numbered custody moved).2
    refine ⟨by rw [now, is]; rfl, tries.apart path (here ▸ elsewhere.symm), ?_⟩
    rw [obtainersOf_of_attempt? attempts]
    refine PathLock.grantee_of_elsewhere fun guard got => ?_
    have obtains := obtains?_eq_some.mpr ⟨lock, got ▸ attempts⟩
    rw [tries.obtains _ obtains, ← here]
    exact elsewhere
  · rw [PathLock.woken_of_rests rests] at heir
    cases heir
  · exact ⟨still, same ▸ .refl path h.lock, obtainersOf_of_nobody nobody path⟩

/-- The first in the line of a free path gets it when it goes on. -/
theorem obtains?_of_heir (heir : h.lock.woken path = first :: behind) :
    ∃ guard, h.obtains? (.resume first) = some (first, guard) ∧ guard.owned = true ∧
      guard.path = path := by
  have inside : first ∈ h.lock.woken path := heir ▸ List.mem_cons_self
  obtain ⟨waiter, waits, ticket⟩ := List.mem_map.mp inside
  obtain ⟨member, is⟩ := PathLock.mem_waitersOf.mp (List.mem_of_mem_filter waits)
  obtain ⟨task, there, number, busy⟩ := task_of_waiter custody member
  have found : h.task? first = some task := ticket ▸ number ▸ numbered.task?_of_mem there
  have retries : h.retries? (.resume first) = some first := by
    rw [retries?, found, Option.bind_some, if_pos busy]
  have attempts : h.attempt? (.resume first) = some (first, h.lock.resume first h.now) := by
    rw [attempt?, asks?_of_retries retries, retries]
    rfl
  have outcome := (h.lock.withdraw first).outcome_tryFor first path waiter.deadline h.now
  have tried : h.lock.resume first h.now =
      (h.lock.withdraw first).tryFor first path waiter.deadline h.now := by
    have known := waiter?_of_mem numbered custody member
    rw [ticket] at known
    rw [PathLock.resume, known]
    dsimp only
    rw [is]
  rw [tried] at attempts
  cases given : (h.lock.withdraw first).tryFor first path waiter.deadline h.now with
  | mk lock result =>
      rw [given] at attempts outcome
      cases outcome with
      | obtains _ is owned => exact ⟨_, obtains?_eq_some.mpr ⟨_, attempts⟩, owned, is⟩
      | exhausts used | waits used => cases free.symm.trans used

/-- The first in the line of a free path goes on and gets it, at once and before anybody else. -/
theorem heir_of_run? (heir : h.lock.woken path = first :: behind)
    (run : h.run? later = some last) (orderly : Runs.always step? isOrderly h later = true)
    (rests : last.lock.rests last.now = true) :
    ∃ earlier rest mid guard, later = earlier ++ .resume first :: rest ∧
      h.run? earlier = some mid ∧ mid.now = h.now ∧
      obtainersOf path (h.observed obtains? earlier) = [] ∧
      mid.obtains? (.resume first) = some (first, guard) ∧ guard.owned = true ∧
      guard.path = path := by
  induction later generalizing h with
  | nil =>
      cases run
      rw [PathLock.woken_of_rests rests] at heir
      cases heir
  | cons move later ih =>
      by_cases own : move = .resume first
      · obtain ⟨guard, obtains⟩ := obtains?_of_heir numbered custody free heir
        exact ⟨[], later, h, guard, own ▸ rfl, rfl, rfl, rfl, obtains⟩
      · obtain ⟨next, moved, run⟩ := Option.bind_eq_some_iff.mp (run?_cons h move later ▸ run)
        rw [Runs.always, moved, Bool.and_eq_true] at orderly
        obtain ⟨now, same, nobody⟩ :=
          heir_of_step? numbered custody free heir orderly.1 moved own
        obtain ⟨earlier, rest, mid, guard, split, run, still, none, obtains⟩ :=
          ih (step?_numbered numbered moved) (custody_of_step? numbered custody moved)
            (same.isHeld.trans free) (same.woken.trans heir) run orderly.2
        refine ⟨move :: earlier, rest, mid, guard, congrArg _ split, ?_, still.trans now, ?_,
          obtains⟩
        · rw [run?_cons, moved]
          exact run
        · rw [observed, moved, obtainersOf_append, nobody, none]
          rfl

end

/-! ### Rest -/

section

variable (numbered : h.Numbered) (custody : Custody h.lock h.stakes)
include numbered custody

/-- Nobody who waits can go on exactly if no task can that waits for a path. -/
theorem rests_iff : h.lock.rests h.now = true ↔
    ∀ task ∈ h.tasks, task.activity.waitsForPath = true → h.isReady task = false := by
  rw [PathLock.rests, List.all_eq_true]
  constructor
  · intro rests task inside waits
    obtain ⟨waiter, member, -, found⟩ := waiter_of_task numbered custody inside waits
    rw [isReady_of_waitsForPath waits, PathLock.isReady, found]
    simpa using rests waiter member
  · intro rests waiter member
    obtain ⟨task, inside, ticket, waits⟩ := task_of_waiter custody member
    have unready := rests task inside waits
    rw [isReady_of_waitsForPath waits, PathLock.isReady, ticket,
      waiter?_of_mem numbered custody member] at unready
    simpa using unready

/-- As long as somebody who waits can go on, somebody can who is next. -/
theorem exists_orderly {task : Task} (inside : task ∈ h.tasks)
    (waits : task.activity.waitsForPath = true) (ready : h.isReady task = true) :
    ∃ task ∈ h.tasks, task.activity.waitsForPath = true ∧ h.isReady task = true ∧
      h.isOrderly (.resume task.id) = true := by
  -- A task is picked by its ticket.
  have picked : ∀ one ∈ h.lock.waiting, one.isReady h.now = true →
      h.lock.isNext one.ticket = true → ∃ task ∈ h.tasks, task.activity.waitsForPath = true ∧
        h.isReady task = true ∧ h.isOrderly (.resume task.id) = true := by
    intro one member ready isNext
    obtain ⟨task, inside, ticket, waits⟩ := task_of_waiter custody member
    refine ⟨task, inside, waits, ?_, ?_⟩
    · rw [isReady_of_waitsForPath waits, PathLock.isReady, ticket,
        waiter?_of_mem numbered custody member]
      exact ready
    · have retries : h.retries? (.resume task.id) = some task.id := by
        rw [retries?, numbered.task?_of_mem inside, Option.bind_some, if_pos waits]
      rw [isOrderly, retries]
      exact ticket ▸ isNext
  obtain ⟨waiter, member, ticket, found⟩ := waiter_of_task numbered custody inside waits
  rw [isReady_of_waitsForPath waits, PathLock.isReady, found] at ready
  cases woken : waiter.woken with
  | false =>
      refine picked waiter member ready ?_
      simp [PathLock.isNext, waiter?_of_mem numbered custody member, woken]
  | true =>
      have awake : waiter ∈ (h.lock.waitersOf waiter.path).filter Waiter.woken :=
        List.mem_filter.mpr ⟨PathLock.mem_waitersOf.mpr ⟨member, rfl⟩, woken⟩
      obtain ⟨heir, others, all⟩ := List.exists_cons_of_ne_nil (List.ne_nil_of_mem awake)
      have there : heir ∈ (h.lock.waitersOf waiter.path).filter Waiter.woken :=
        all ▸ List.mem_cons_self
      obtain ⟨waits, awake⟩ := List.mem_filter.mp there
      obtain ⟨member, is⟩ := PathLock.mem_waitersOf.mp waits
      have next : (h.lock.woken heir.path).head? = some heir.ticket := by
        rw [PathLock.woken, is, all]
        rfl
      refine picked heir member (by simp [Waiter.isReady, awake]) ?_
      simp [PathLock.isNext, waiter?_of_mem numbered custody member, next]

/-- All who wait and can go on have gone on in order after finitely many moves, which take no
time. -/
theorem settles_in_order :
    ∃ (ids : List Nat) (last : Hub), h.run? (ids.map Move.resume) = some last ∧
      Runs.always step? isOrderly h (ids.map Move.resume) = true ∧ last.now = h.now ∧
      last.lock.rests last.now = true := by
  obtain ⟨ids, last, run, orderly, still, rests⟩ := settles_by isOrderly
    (fun numbered custody _ => exists_orderly numbered custody) numbered custody
  obtain ⟨numbered', custody'⟩ := run?_induction (P := fun h => h.Numbered ∧ Custody h.lock h.stakes)
    (fun ⟨numbered, custody⟩ moved =>
      ⟨step?_numbered numbered moved, custody_of_step? numbered custody moved⟩)
    ⟨numbered, custody⟩ run
  exact ⟨ids, last, run, orderly, still, (rests_iff numbered' custody').mpr rests⟩

end

/-! ### The order of succession -/

/-- With a move a path is let go, for which some wait. -/
structure Passes (h next : Hub) (path : String) : Prop where
  /-- Nobody in its line is out of time. -/
  inTime : ∀ waiter ∈ h.lock.waiting, waiter.path = path → h.now < waiter.deadline
  /-- Its line is the queue. -/
  queue : h.lock.line path = (h.lock.waitersOf path).map Waiter.ticket
  now : next.now = h.now
  line : next.lock.line path = h.lock.line path
  heir : next.PassesOn path

/-- The order in which paths are handed over, after moves that are made in order. -/
structure Succession (start : Hub) (moves : List Move) (h : Hub) : Prop where
  /-- Nobody asks twice. -/
  single : ∀ path, (askersOf path (start.observed asking? moves)).Nodup
  /-- Those who have obtained a path, and after them those in its line, have asked for it in this
  order. -/
  order : ∀ path, (obtainersOf path (start.observed obtains? moves) ++ h.lock.line path).Sublist
    (askersOf path (start.observed asking? moves))
  /-- Who has asked is in the line, unless it has got a guard or was given up; -/
  stands : ∀ path, ∀ id ∈ askersOf path (start.observed asking? moves), id ∈ h.lock.line path ∨
    (∃ guard, (id, guard) ∈ start.observed obtains? moves) ∨ .cancel id ∈ moves
  /-- and who is in the line waits. -/
  waits : ∀ path, ∀ id ∈ h.lock.line path,
    ∃ task ∈ h.tasks, task.id = id ∧ task.activity.waitsForPath = true
  /-- A path that is free passes to the first of its line. -/
  heir : ∀ path, h.lock.isHeld path = false → h.PassesOn path
  /-- When a path is let go, all in its line are in time and keep their places, and it passes to the
  first of them at once. -/
  passes : ∀ move next path, h.step? move = some next → h.isOrderly move = true →
    h.lock.isHeld path = true → next.lock.isHeld path = false → h.Passes next path
  /-- All who can go on may do so in order, and then nobody can any more. -/
  rest : ∃ (ids : List Nat) (last : Hub), h.run? (ids.map Move.resume) = some last ∧
    Runs.always step? isOrderly h (ids.map Move.resume) = true ∧ last.now = h.now ∧
    last.lock.rests last.now = true
  /-- What happens to one path leaves the others alone. -/
  apart : ∀ move next, h.step? move = some next →
    ∃ path, ∀ other, other ≠ path → SameAt other h.lock next.lock

theorem passesOn_of_free (numbered : h.Numbered) (custody : Custody h.lock h.stakes)
    (free : h.lock.isHeld path = false) : h.PassesOn path := by
  intro first behind line later last run orderly rests
  have nobody := PathLock.asleep_of_free custody.awake free
  rw [PathLock.line, nobody, List.nil_append] at line
  exact heir_of_run? numbered custody free line run orderly rests

theorem passes_of_step? (numbered : h.Numbered) (custody : Custody h.lock h.stakes)
    (moved : h.step? move = some next) (orderly : h.isOrderly move = true)
    (used : h.lock.isHeld path = true) (free : next.lock.isHeld path = false) :
    h.Passes next path := by
  obtain ⟨rests, now, line⟩ := freed_of_step? numbered custody moved orderly used free
  exact ⟨fun waiter member _ => (PathLock.unready_of_rests rests member).2,
    PathLock.line_of_rests rests path, now, line, passesOn_of_free (step?_numbered numbered moved)
      (custody_of_step? numbered custody moved) free⟩

/-- **Paths are handed over in the order in which they were asked for.** -/
theorem succession_of_run? {settings : Settings} {mark : Mark}
    (run : (fresh settings mark).run? moves = some h)
    (orderly : Runs.always step? isOrderly (fresh settings mark) moves = true) :
    Succession (fresh settings mark) moves h := by
  have numbered := numbered_of_run? run
  have custody := custody_of_run? run
  have traced := traced_of_run? run
  refine ⟨fun path => ?_, line_of_run? run orderly, fun path id member => ?_,
    fun path id member => ?_, fun path => passesOn_of_free numbered custody,
    fun move next path => passes_of_step? numbered custody,
    settles_in_order numbered custody, fun move next => sameAt_of_step? numbered custody⟩
  · exact traced.distinct.sublist (List.filter_sublist.map _)
  · obtain ⟨asking, asked, rfl⟩ := List.mem_map.mp member
    obtain ⟨known, is⟩ := List.mem_filter.mp asked
    refine (ending_of_run? run asking known).imp_left ?_
    rintro ⟨wait, waits, ticket⟩
    obtain ⟨asking', known', same, wants, -⟩ := traced.waits wait waits
    have one : asking' = asking :=
      List.inj_on_of_nodup_map traced.distinct known' known (same.trans ticket)
    obtain ⟨waiter, inside, rfl⟩ := List.mem_map.mp waits
    exact PathLock.mem_line.mpr ⟨waiter, inside, wants.symm.trans (one ▸ by simpa using is), ticket⟩
  · obtain ⟨waiter, inside, -, rfl⟩ := PathLock.mem_line.mp member
    exact task_of_waiter custody inside

/-- A run in which three tasks wait for a path that another one has. The second of them is given up,
the first gets the path after its owner, and the third waits on, before one that comes later. -/
def successionRun : List Move :=
  [.guarding "/p", .guarding "/p", .guarding "/p", .guarding "/p", .cancel 2, .cancel 0, .resume 1,
    .resume 3, .guarding "/p"]

theorem succession_of_run?_successionRun :
    ∃ h, (fresh {} "hub").run? successionRun = some h ∧
      obtainersOf "/p" ((fresh {} "hub").observed obtains? successionRun) = [0, 1] ∧
      h.lock.line "/p" = [3, 4] ∧ Succession (fresh {} "hub") successionRun h := by
  refine ⟨((fresh {} "hub").run? successionRun).get (by decide), rfl, ?_, ?_, ?_⟩
  · decide
  · decide
  · exact succession_of_run? rfl (by decide)

end StationHub.Hub

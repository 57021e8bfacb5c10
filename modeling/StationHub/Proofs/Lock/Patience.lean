import StationHub.Proofs.Lock.Exclusion
import StationHub.Proofs.Runs

/-!
How long somebody waits for a path.

* `Prompt`: time passes only while nobody who waits for a path can go on.
* `early_of_prompt`: then nobody waits beyond the deadline.
* `waits_forward`, `asked_forward`: who waits goes on waiting until the same deadline, gets a guard
  or is given up.
* `settles_by`, `settles`: all who can go on have gone on after finitely many moves, which take no
  time.
* `waits_bounded`: no wake-up is lost, and every wait ends in time.
-/

namespace StationHub.Hub

/-- Time passes only while nobody who waits for a path can go on. -/
def Prompt (h : Hub) (moves : List Move) : Prop :=
  ∀ {earlier later : List Move} {ms : Nat} {mid : Hub}, moves = earlier ++ .advance ms :: later →
    h.run? earlier = some mid → ∀ passed < ms, ∀ task ∈ mid.tasks,
      task.activity.waitsForPath = true →
        { mid with now := mid.now + passed }.isReady task = false

/-- The task that gets a guard with the move, and the guard. -/
def obtains? (h : Hub) (move : Move) : Option (Nat × Guard) :=
  (h.attempt? move).bind fun attempt => attempt.2.2.map fun guard => (attempt.1, guard)

variable {h next : Hub} {move : Move} {id : Nat}

theorem obtains?_eq_some {guard : Guard} : h.obtains? move = some (id, guard) ↔
    ∃ lock, h.attempt? move = some (id, lock, some guard) := by
  unfold obtains?
  rw [Option.bind_eq_some_iff]
  constructor
  · rintro ⟨⟨id', lock, result⟩, attempts, got⟩
    obtain ⟨guard', rfl, same⟩ := Option.map_eq_some_iff.mp got
    cases same
    exact ⟨lock, attempts⟩
  · rintro ⟨lock, attempts⟩
    exact ⟨_, attempts, rfl⟩

/-! ### Tasks and waiters -/

theorem isReady_of_waitsForPath {task : Task} (waits : task.activity.waitsForPath = true) :
    h.isReady task = h.lock.isReady task.id h.now := by
  obtain ⟨number, activity⟩ := task
  cases activity <;> first | rfl | cases waits

section

variable (numbered : h.Numbered) (custody : Custody h.lock h.stakes)
include numbered custody

theorem nodup_waiting : (h.lock.waiting.map Waiter.ticket).Nodup :=
  custody.queue.nodup_iff.mpr (nodup_tickets numbered)

/-- A waiter is found by its ticket. -/
theorem waiter?_of_mem {waiter : Waiter} (member : waiter ∈ h.lock.waiting) :
    h.lock.waiter? waiter.ticket = some waiter := by
  cases found : h.lock.waiter? waiter.ticket with
  | none => simpa using List.find?_eq_none.mp found waiter member
  | some other =>
      have same : other.ticket = waiter.ticket := by simpa using List.find?_some found
      rw [List.inj_on_of_nodup_map (nodup_waiting numbered custody)
        (List.mem_of_find?_eq_some found) member same]

/-- A task that waits for a path is in the queue. -/
theorem waiter_of_task {task : Task} (member : task ∈ h.tasks)
    (waits : task.activity.waitsForPath = true) :
    ∃ waiter ∈ h.lock.waiting, waiter.ticket = task.id ∧
      h.lock.waiter? task.id = some waiter := by
  have inside : task.id ∈ h.lock.waiting.map Waiter.ticket :=
    custody.queue.mem_iff.mpr (mem_tickets.mpr ⟨task, member, rfl, waits⟩)
  obtain ⟨waiter, member, ticket⟩ := List.mem_map.mp inside
  exact ⟨waiter, member, ticket, ticket ▸ waiter?_of_mem numbered custody member⟩

omit numbered in
/-- Who is in the queue is a task that waits for a path. -/
theorem task_of_waiter {waiter : Waiter} (member : waiter ∈ h.lock.waiting) :
    ∃ task ∈ h.tasks, task.id = waiter.ticket ∧ task.activity.waitsForPath = true :=
  mem_tickets.mp (custody.queue.mem_iff.mp (List.mem_map_of_mem member))

/-- Who waits and cannot go on waits for a path in use, and still has time. -/
theorem held_of_not_ready {task : Task} (member : task ∈ h.tasks)
    (waits : task.activity.waitsForPath = true) (rests : h.isReady task = false) :
    ∃ wait ∈ h.lock.waits, wait.ticket = task.id ∧ h.lock.isHeld wait.path = true ∧
      h.now < wait.deadline := by
  obtain ⟨waiter, inside, ticket, found⟩ := waiter_of_task numbered custody member waits
  have unready : waiter.woken = false ∧ h.now < waiter.deadline := by
    rw [isReady_of_waitsForPath waits, PathLock.isReady, found] at rests
    simpa [Waiter.isReady] using rests
  exact ⟨waiter.wait, PathLock.mem_waits inside, ticket, custody.awake waiter inside unready.1,
    unready.2⟩

/-! ### Moves -/

/-- Who waits goes on waiting until the same deadline, gets a guard or is given up. -/
theorem waits_forward (handover : h.Handover move next) {wait : Wait}
    (member : wait ∈ h.lock.waits) :
    wait ∈ next.lock.waits ∨ (∃ guard, h.obtains? move = some (wait.ticket, guard)) ∨
      move = .cancel wait.ticket := by
  have attempted : ∀ {id lock result}, h.attempt? move = some (id, lock, result) →
      wait ∈ lock.waits ∨ ∃ guard, h.obtains? move = some (wait.ticket, guard) := by
    intro id lock result attempts
    cases attempted_of_attempt? custody attempts with
    | fresh _ outcome =>
        left
        rw [outcome.waits_eq]
        exact List.mem_append_left _ member
    | @again waiter _ _ inside ticket outcome =>
        by_cases own : wait.ticket = id
        · -- The waiter itself tries again, with the deadline that it had.
          have same : wait = waiter.wait := by
            obtain ⟨other, inside', rfl⟩ := List.mem_map.mp member
            rw [List.inj_on_of_nodup_map (nodup_waiting numbered custody) inside' inside
              (own.trans ticket.symm)]
          cases result with
          | none =>
              left
              rw [outcome.waits_eq, same, ← ticket]
              exact List.mem_append_right _ (List.mem_singleton_self _)
          | some guard => exact .inr ⟨guard, own ▸ obtains?_eq_some.mpr ⟨lock, attempts⟩⟩
        · left
          rw [outcome.waits_eq, PathLock.waits_withdraw]
          exact List.mem_append_left _ (List.mem_filter.mpr ⟨member, bne_iff_ne.mpr own⟩)
  cases handover with
  | idle _ same =>
      rw [same]
      exact .inl member
  | keeps id lock result attempts same =>
      rw [same]
      exact (attempted attempts).imp_right .inl
  | passes id lock guard attempts same =>
      rw [same, PathLock.waits_release]
      exact (attempted attempts).imp_right .inl
  | drops id guard _ _ same =>
      rw [same, PathLock.waits_release]
      exact .inl member
  | leaves id is _ _ same =>
      rw [same, PathLock.waits_withdraw]
      by_cases own : wait.ticket = id
      · exact .inr (.inr (own ▸ is))
      · exact .inl (List.mem_filter.mpr ⟨member, bne_iff_ne.mpr own⟩)

omit numbered in
/-- Who asks for a path waits for it or gets a guard. -/
theorem asked_forward (handover : h.Handover move next) {path : String}
    (asks : h.asks? move = some (id, path)) :
    (∃ wait ∈ next.lock.waits, wait.ticket = id) ∨
      ∃ guard, h.obtains? move = some (id, guard) := by
  have somebody : h.attempt? move ≠ none := by simp [attempt?, asks]
  have attempted : ∀ {id' lock result}, h.attempt? move = some (id', lock, result) →
      (∃ wait ∈ lock.waits, wait.ticket = id) ∨ ∃ guard, h.obtains? move = some (id, guard) := by
    intro id' lock result attempts
    cases attempted_of_attempt? custody attempts with
    | again _ nobody =>
        rw [nobody] at asks
        cases asks
    | fresh asks' outcome =>
        cases asks.symm.trans asks'
        cases result with
        | some guard => exact .inr ⟨guard, obtains?_eq_some.mpr ⟨lock, attempts⟩⟩
        | none =>
            refine .inl ⟨⟨id, path, h.now + h.lock.budget⟩, ?_, rfl⟩
            rw [outcome.waits_eq]
            exact List.mem_append_right _ (List.mem_singleton_self _)
  cases handover with
  | idle nobody | drops _ _ nobody | leaves _ _ nobody => exact absurd nobody somebody
  | keeps id' lock result attempts same =>
      rw [same]
      exact attempted attempts
  | passes id' lock guard attempts same =>
      rw [same, PathLock.waits_release]
      exact attempted attempts

end

/-! ### Deadlines -/

theorem Prompt.init {start : Hub} {moves : List Move} (prompt : start.Prompt (moves ++ [move])) :
    start.Prompt moves := by
  intro earlier later ms mid split run
  have longer : moves ++ [move] = earlier ++ .advance ms :: (later ++ [move]) := by
    rw [split, List.append_assoc, List.cons_append]
  exact prompt longer run

/-- Time does not pass the deadline of anybody who waits. -/
theorem early_of_prompt {settings : Settings} {mark : Mark} {moves : List Move} {h : Hub}
    (run : (fresh settings mark).run? moves = some h)
    (prompt : (fresh settings mark).Prompt moves) :
    ∀ wait ∈ h.lock.waits, h.now ≤ wait.deadline := by
  induction moves using List.reverseRecOn generalizing h with
  | nil =>
      cases run
      exact fun _ member => nomatch member
  | append_singleton moves move ih =>
      obtain ⟨mid, run, moved⟩ := run?_concat.mp run
      have numbered := numbered_of_run? run
      have custody := custody_of_run? run
      have early := ih run prompt.init
      obtain ⟨handover, now⟩ := handover_of_step? numbered custody moved
      intro wait member
      rw [now]
      rcases waits_of_handover handover custody member with old | ⟨path, asks, is⟩
      · have before := early wait old
        cases elapsed : move.elapsed with
        | zero => exact before
        | succ passed =>
            have is : move = .advance (passed + 1) := by
              cases move <;> first | exact congrArg _ elapsed | cases elapsed
            obtain ⟨waiter, inside, rfl⟩ := List.mem_map.mp old
            obtain ⟨task, there, ticket, waits⟩ := task_of_waiter custody inside
            -- At the last moment of the time that passes the waiter could not go on yet.
            have last : moves ++ [move] = moves ++ .advance (passed + 1) :: [] := is ▸ rfl
            have rests := prompt last run passed (Nat.lt_succ_self _) task there waits
            have found : mid.lock.waiter? task.id = some waiter :=
              ticket ▸ waiter?_of_mem numbered custody inside
            rw [isReady_of_waitsForPath waits, PathLock.isReady, found] at rests
            have early : mid.now + passed < waiter.deadline :=
              (by simpa [Waiter.isReady] using rests : waiter.woken = false ∧ _).2
            exact early
      · have still : move.elapsed = 0 := by cases move <;> first | rfl | cases asks
        rw [is, still]
        exact Nat.le_add_right _ _

/-! ### Guards that are obtained -/

/-- Who tries for a path has no guard. -/
theorem not_mem_guards_of_attempt? (numbered : h.Numbered) {lock : PathLock}
    {result : Option Guard} (attempts : h.attempt? move = some (id, lock, result)) (guard : Guard) :
    (id, guard) ∉ h.guards := by
  intro member
  obtain ⟨task, inside, is, has⟩ := mem_guards.mp member
  unfold attempt? at attempts
  split at attempts
  · rename_i id path asks
    obtain ⟨rfl, -⟩ := Prod.mk.inj (Option.some.inj attempts)
    rcases asks?_cases asks with ⟨fresh, -⟩ | ⟨i, path', message, rival, probe, -, found⟩
    · exact Nat.lt_irrefl _ (fresh ▸ is ▸ numbered.below task inside)
    · rw [numbered.eq_of_task? found inside is] at has
      cases has
  · obtain ⟨id, retries, tried⟩ := Option.map_eq_some_iff.mp attempts
    obtain ⟨rfl, -⟩ := Prod.mk.inj tried
    obtain ⟨-, waiting, found, waits⟩ := retries?_eq_some retries
    rw [numbered.eq_of_task? found inside is, Activity.guard?_of_waitsForPath waits] at has
    cases has

/-- Who gets a guard has asked for its path, and gets it in time; without owning the path only at
the very end of the wait, and only while somebody else owns it. -/
theorem obtained_in_time {settings : Settings} {mark : Mark} {moves : List Move} {h : Hub}
    (run : (fresh settings mark).run? moves = some h)
    (prompt : (fresh settings mark).Prompt moves) {guard : Guard}
    (obtains : h.obtains? move = some (id, guard)) :
    ∃ asking ∈ (fresh settings mark).observed asking? (moves ++ [move]),
      asking.task = id ∧ asking.path = guard.path ∧
      h.now ≤ asking.time + settings.lockBudget ∧
      (guard.owned = false → h.now = asking.time + settings.lockBudget ∧
        ∃ entry ∈ h.owners, entry.1 ≠ id ∧ entry.2.path = guard.path) := by
  have numbered := numbered_of_run? run
  have custody := custody_of_run? run
  have traced := traced_of_run? run
  obtain ⟨lock, attempts⟩ := obtains?_eq_some.mp obtains
  have rival : h.lock.isHeld guard.path = true →
      ∃ entry ∈ h.owners, entry.1 ≠ id ∧ entry.2.path = guard.path := by
    intro used
    obtain ⟨⟨task, other⟩, member, path⟩ := (isHeld_iff_owner custody guard.path).mp used
    refine ⟨(task, other), member, ?_, path⟩
    rintro rfl
    exact not_mem_guards_of_attempt? numbered attempts other (List.mem_of_mem_filter member)
  rw [observed_concat run]
  cases attempted_of_attempt? custody attempts with
  | @fresh path asks outcome =>
      refine ⟨⟨id, path, h.errand move, h.now⟩, List.mem_append_right _ ?_, rfl,
        (outcome.path_eq rfl).symm, Nat.le_add_right _ _, fun unowned => ?_⟩
      · exact Option.mem_toList.mpr (asking?_eq_some.mpr ⟨asks, rfl, rfl⟩)
      · obtain ⟨used, late⟩ := outcome.of_unowned rfl unowned
        rw [traced.agreed] at late
        exact ⟨Nat.le_antisymm (Nat.le_add_right _ _) late, rival (outcome.path_eq rfl ▸ used)⟩
  | @again waiter is _ inside ticket outcome =>
      obtain ⟨asking, known, task, path, deadline⟩ :=
        traced.waits _ (PathLock.mem_waits inside)
      have early := early_of_prompt run prompt _ (PathLock.mem_waits inside)
      refine ⟨asking, List.mem_append_left _ known, task.trans ticket,
        path.trans (outcome.path_eq rfl).symm, deadline ▸ early, fun unowned => ?_⟩
      obtain ⟨used, late⟩ := outcome.of_unowned rfl unowned
      exact ⟨deadline ▸ Nat.le_antisymm early late, rival (outcome.path_eq rfl ▸ used)⟩

/-! ### Rest -/

/-- How many wait for a path, and how many of them can go on. -/
def unrest (h : Hub) : Nat × Nat :=
  (h.lock.waiting.length, h.lock.waiting.countP fun waiter => waiter.isReady h.now)

/-- Who can go on leaves the queue, or waits again and cannot go on for the time being. -/
theorem unrest_of_outcome (numbered : h.Numbered) (custody : Custody h.lock h.stakes)
    {waiter : Waiter} (member : waiter ∈ h.lock.waiting) (ready : waiter.isReady h.now = true)
    {lock : PathLock} {result : Option Guard}
    (outcome : (h.lock.withdraw waiter.ticket).Outcome waiter.ticket waiter.path waiter.deadline
      h.now (lock, result)) :
    lock.waiting.length < h.lock.waiting.length ∨
      result = none ∧ lock.waiting.length = h.lock.waiting.length ∧
        (lock.waiting.countP fun waiter => waiter.isReady h.now) <
          h.lock.waiting.countP fun waiter => waiter.isReady h.now := by
  have split : h.lock.waiting.Perm (waiter :: (h.lock.withdraw waiter.ticket).waiting) :=
    perm_cons_filter (nodup_waiting numbered custody) member
  rw [split.length_eq, split.countP_eq, List.length_cons, List.countP_cons, if_pos ready]
  cases outcome with
  | obtains _ _ _ same | exhausts _ _ _ _ same =>
      rw [same]
      exact .inl (Nat.lt_succ_self _)
  | waits _ early more =>
      have unready : Waiter.isReady ⟨waiter.ticket, waiter.path, waiter.deadline, false⟩ h.now =
          false := by
        simpa [Waiter.isReady] using early
      rw [more, List.length_append, List.length_singleton, List.countP_append,
        List.countP_singleton, unready]
      exact .inr ⟨rfl, rfl, Nat.lt_succ_self _⟩

/-- Who waits for a path does not ask for another one. -/
theorem asks?_of_waitsForPath {task : Task} (found : h.task? task.id = some task)
    (waits : task.activity.waitsForPath = true) : h.asks? (.resume task.id) = none := by
  cases asks : h.asks? (.resume task.id) with
  | none => rfl
  | some asked =>
      obtain ⟨id, path⟩ := asked
      rcases asks?_cases asks with ⟨-, untouched⟩ | ⟨i, path, message, rival, probe, is, there⟩
      · cases untouched
      · obtain rfl : task.id = id := Option.some.inj is
        rw [found, Option.some.injEq] at there
        rw [there] at waits
        cases waits

/-- A task that can go on brings those who wait nearer to rest. -/
theorem unrest_of_resume (numbered : h.Numbered) (custody : Custody h.lock h.stakes)
    {task : Task} (inside : task ∈ h.tasks) (waits : task.activity.waitsForPath = true)
    (ready : h.isReady task = true) :
    ∃ next, h.step? (.resume task.id) = some next ∧ next.now = h.now ∧
      Prod.Lex (· < ·) (· < ·) next.unrest h.unrest := by
  have found := numbered.task?_of_mem inside
  have moved : h.step? (.resume task.id) = some (h.resume task) := by
    simp only [step?, found, ready, if_true]
  obtain ⟨handover, now⟩ := handover_of_step? numbered custody moved
  obtain ⟨waiter, member, ticket, known⟩ := waiter_of_task numbered custody inside waits
  have awake : waiter.isReady h.now = true := by
    rw [isReady_of_waitsForPath waits, PathLock.isReady, known] at ready
    exact ready
  have asks := asks?_of_waitsForPath found waits
  have tried : ∀ {id lock result}, h.attempt? (.resume task.id) = some (id, lock, result) →
      lock.waiting.length < h.lock.waiting.length ∨
        result = none ∧ lock.waiting.length = h.lock.waiting.length ∧
          (lock.waiting.countP fun waiter => waiter.isReady h.now) <
            h.lock.waiting.countP fun waiter => waiter.isReady h.now := by
    intro id lock result attempts
    cases attempted_of_attempt? custody attempts with
    | fresh asks' =>
        rw [asks] at asks'
        cases asks'
    | @again other is _ there its outcome =>
        cases is
        have same : other = waiter := List.inj_on_of_nodup_map (nodup_waiting numbered custody)
          there member (its.trans ticket.symm)
        rw [← its, same] at outcome
        exact unrest_of_outcome numbered custody member awake outcome
  have attempts : h.attempt? (.resume task.id) ≠ none := by
    simp [attempt?, asks, retries?, found, waits]
  refine ⟨_, moved, now, ?_⟩
  unfold unrest
  rw [now]
  cases handover with
  | idle nobody | drops _ _ nobody | leaves _ _ nobody => exact absurd nobody attempts
  | keeps id lock result attempts same =>
      rw [same]
      rcases tried attempts with fewer | ⟨-, asMany, fewer⟩
      · exact .left _ _ fewer
      · rw [asMany]
        exact .right _ fewer
  | passes id lock guard attempts same =>
      rcases tried attempts with fewer | ⟨nothing, -⟩
      · have asMany : (h.resume task).lock.waits.length = lock.waits.length := by
          rw [same, PathLock.waits_release]
        rw [PathLock.waits, List.length_map, PathLock.waits, List.length_map] at asMany
        rw [asMany]
        exact .left _ _ fewer
      · cases nothing

/-- As long as somebody who waits for a path can go on, somebody may be picked who does. Then all who
can go on have gone on after finitely many moves, and no time has passed. -/
theorem settles_by (picks : Hub → Move → Bool)
    (next : ∀ {h : Hub}, h.Numbered → Custody h.lock h.stakes →
      ∀ task ∈ h.tasks, task.activity.waitsForPath = true → h.isReady task = true →
        ∃ task ∈ h.tasks, task.activity.waitsForPath = true ∧ h.isReady task = true ∧
          picks h (.resume task.id) = true)
    {h : Hub} (numbered : h.Numbered) (custody : Custody h.lock h.stakes) :
    ∃ (ids : List Nat) (last : Hub), h.run? (ids.map Move.resume) = some last ∧
      Runs.always step? picks h (ids.map Move.resume) = true ∧ last.now = h.now ∧
      ∀ task ∈ last.tasks, task.activity.waitsForPath = true → last.isReady task = false := by
  by_cases rest : ∀ task ∈ h.tasks, task.activity.waitsForPath = true → h.isReady task = false
  · exact ⟨[], h, rfl, rfl, rfl, rest⟩
  · obtain ⟨some, there, stays, can⟩ : ∃ task ∈ h.tasks, task.activity.waitsForPath = true ∧
        h.isReady task = true := by
      simpa using rest
    obtain ⟨task, inside, waits, ready, picked⟩ := next numbered custody some there stays can
    obtain ⟨after, moved, now, less⟩ := unrest_of_resume numbered custody inside waits ready
    obtain ⟨ids, last, run, all, still, rests⟩ :=
      settles_by picks next (step?_numbered numbered moved) (custody_of_step? numbered custody moved)
    refine ⟨task.id :: ids, last, ?_, ?_, still.trans now, rests⟩
    · rw [List.map_cons, run?_cons, moved]
      exact run
    · rw [List.map_cons, Runs.always, picked, moved]
      exact all
termination_by h.unrest
decreasing_by exact less

/-- All who wait for a path and can go on have gone on after finitely many moves, and no time has
passed. -/
theorem settles {h : Hub} (numbered : h.Numbered) (custody : Custody h.lock h.stakes) :
    ∃ (ids : List Nat) (last : Hub), h.run? (ids.map Move.resume) = some last ∧ last.now = h.now ∧
      ∀ task ∈ last.tasks, task.activity.waitsForPath = true → last.isReady task = false := by
  obtain ⟨ids, last, run, -, rests⟩ := settles_by (fun _ _ => true)
    (fun _ _ task inside waits ready => ⟨task, inside, waits, ready, rfl⟩) numbered custody
  exact ⟨ids, last, run, rests⟩

/-! ### Waits in a run -/

/-- Whoever has asked for a path waits for it, has got a guard or was given up. -/
theorem ending_of_run? {settings : Settings} {mark : Mark} {moves : List Move} {h : Hub}
    (run : (fresh settings mark).run? moves = some h) :
    ∀ asking ∈ (fresh settings mark).observed asking? moves,
      (∃ wait ∈ h.lock.waits, wait.ticket = asking.task) ∨
      (∃ guard, (asking.task, guard) ∈ (fresh settings mark).observed obtains? moves) ∨
      .cancel asking.task ∈ moves := by
  induction moves using List.reverseRecOn generalizing h with
  | nil => exact fun _ member => nomatch member
  | append_singleton moves move ih =>
      obtain ⟨mid, run, moved⟩ := run?_concat.mp run
      have numbered := numbered_of_run? run
      have custody := custody_of_run? run
      have handover := (handover_of_step? numbered custody moved).1
      have now : ∀ {task : Nat} {guard : Guard}, mid.obtains? move = some (task, guard) →
          ∃ guard, (task, guard) ∈ (fresh settings mark).observed obtains? (moves ++ [move]) := by
        intro task guard obtains
        refine ⟨guard, ?_⟩
        rw [observed_concat run]
        exact List.mem_append_right _ (Option.mem_toList.mpr obtains)
      intro asking member
      rw [observed_concat run] at member
      rcases List.mem_append.mp member with old | new
      · rcases ih run asking old with ⟨wait, waits, is⟩ | ⟨guard, got⟩ | cancelled
        · rcases waits_forward numbered custody handover waits with still | ⟨guard, got⟩ | rfl
          · exact .inl ⟨wait, still, is⟩
          · exact .inr (.inl (now (is ▸ got)))
          · exact .inr (.inr (is ▸ List.mem_append_right _ (List.mem_singleton_self _)))
        · refine .inr (.inl ⟨guard, ?_⟩)
          rw [observed_concat run]
          exact List.mem_append_left _ got
        · exact .inr (.inr (List.mem_append_left _ cancelled))
      · have asks := (asking?_eq_some.mp (Option.mem_toList.mp new)).1
        rcases asked_forward custody handover asks with waits | ⟨guard, got⟩
        · exact .inl waits
        · exact .inr (.inl (now got))

/-- After the moves of a run every wait for a path has ended in time or is within its budget. -/
structure Patient (start : Hub) (moves : List Move) (budget : Nat) (h : Hub) : Prop where
  /-- No wake-up is lost: who waits and cannot go on waits for a path that is in use. -/
  awake : ∀ task ∈ h.tasks, task.activity.waitsForPath = true → h.isReady task = false →
    ∃ wait ∈ h.lock.waits, wait.ticket = task.id ∧ h.lock.isHeld wait.path = true
  /-- All who can go on may do so, one after the other, until nobody can. -/
  rest : ∃ (ids : List Nat) (last : Hub), h.run? (ids.map Move.resume) = some last ∧
    last.now = h.now ∧
      ∀ task ∈ last.tasks, task.activity.waitsForPath = true → last.isReady task = false
  /-- Who waits has asked for the path, and waits for it until the budget since then is spent. -/
  waits : ∀ task ∈ h.tasks, task.activity.waitsForPath = true →
    ∃ asking ∈ start.observed asking? moves, asking.task = task.id ∧
      ⟨task.id, asking.path, asking.time + budget⟩ ∈ h.lock.waits ∧ h.now ≤ asking.time + budget
  /-- Who gets a guard has asked for its path no longer ago than the budget; without owning the path
  exactly when the budget is spent, while somebody else owns it. -/
  obtains : ∀ move task guard, h.obtains? move = some (task, guard) →
    ∃ asking ∈ start.observed asking? (moves ++ [move]), asking.task = task ∧
      asking.path = guard.path ∧ h.now ≤ asking.time + budget ∧
      (guard.owned = false → h.now = asking.time + budget ∧
        ∃ entry ∈ h.owners, entry.1 ≠ task ∧ entry.2.path = guard.path)
  /-- Who has asked waits, has got a guard or was given up. -/
  ends : ∀ asking ∈ start.observed asking? moves,
    (∃ task ∈ h.tasks, task.id = asking.task ∧ task.activity.waitsForPath = true) ∨
    (∃ guard, (asking.task, guard) ∈ start.observed obtains? moves) ∨ .cancel asking.task ∈ moves

/-- **No wake-up is lost, and every wait ends in time.** -/
theorem waits_bounded {settings : Settings} {mark : Mark} {moves : List Move} {h : Hub}
    (run : (fresh settings mark).run? moves = some h)
    (prompt : (fresh settings mark).Prompt moves) :
    Patient (fresh settings mark) moves
      (min (settings.lockInterval * settings.lockRetries) (24 * 60 * 60 * 1000)) h := by
  have numbered := numbered_of_run? run
  have custody := custody_of_run? run
  have traced := traced_of_run? run
  refine ⟨?_, settles numbered custody, ?_, ?_, ?_⟩
  · intro task member waits rests
    obtain ⟨wait, inside, is, used, -⟩ := held_of_not_ready numbered custody member waits rests
    exact ⟨wait, inside, is, used⟩
  · intro task member waits
    obtain ⟨waiter, inside, ticket, -⟩ := waiter_of_task numbered custody member waits
    have queued := PathLock.mem_waits inside
    obtain ⟨asking, asked, is, path, deadline⟩ := traced.waits _ queued
    have early := early_of_prompt run prompt _ queued
    have same : (⟨task.id, asking.path, asking.time + settings.lockBudget⟩ : Wait) =
        waiter.wait := by
      rw [path, ← deadline, ← ticket]
      rfl
    exact ⟨asking, asked, is.trans ticket, same ▸ queued, deadline ▸ early⟩
  · intro move task guard obtains
    exact obtained_in_time run prompt obtains
  · intro asking member
    refine (ending_of_run? run asking member).imp_left ?_
    rintro ⟨wait, waits, is⟩
    obtain ⟨waiter, inside, rfl⟩ := List.mem_map.mp waits
    obtain ⟨task, there, ticket, busy⟩ := task_of_waiter custody inside
    exact ⟨task, there, ticket.trans is, busy⟩

/-- A run in which somebody waits for a path that somebody else has, until the budget is spent. -/
def waitingRun : List Move :=
  [.guarding "/OCPP16/T/K/D1", .guarding "/OCPP16/T/K/D1", .advance 5000]

/-- Before the time passes in `waitingRun` the second task waits, and nothing wakes it earlier. -/
theorem prompt_waitingRun : (fresh {} "hub").Prompt waitingRun := by
  intro earlier later ms mid moves run passed less task member waits
  obtain rfl | ⟨first, rfl | ⟨second, rfl | ⟨third, rest⟩⟩⟩ := earlier
  all_goals simp [waitingRun] at moves
  obtain ⟨rfl, rfl, rfl, rfl⟩ := moves
  cases run
  have tasks : task ∈
      ([⟨0, .guarding ⟨"/OCPP16/T/K/D1", some 1⟩⟩, ⟨1, .guardWaiting⟩] : List Task) := member
  simp only [List.mem_cons, List.not_mem_nil, or_false] at tasks
  obtain rfl | rfl := tasks
  · cases waits
  · rw [isReady_of_waitsForPath waits]
    show (false || decide (5000 ≤ 0 + passed)) = false
    simp
    omega

theorem waits_bounded_waitingRun : ∃ h, (fresh {} "hub").run? waitingRun = some h ∧
    h.obtains? (.resume 1) = some (1, ⟨"/OCPP16/T/K/D1", none⟩) ∧
    Patient (fresh {} "hub") waitingRun (min (500 * 10) (24 * 60 * 60 * 1000)) h := by
  refine ⟨((fresh {} "hub").run? waitingRun).get (by decide), rfl, ?_, ?_⟩
  · decide
  · exact waits_bounded rfl prompt_waitingRun

end StationHub.Hub

import StationHub.Proofs.Hub.History
import StationHub.Proofs.Lock.Waits
import StationHub.Proofs.Tasks.Sequel

/-!
Who has asked for which path.

* `Attempted`: what comes of an attempt that a task makes.
* `Traced`: whoever waits or has a guard has asked for the path once, and waits no longer than
  agreed; `traced_of_run?` has it for every run.
-/

namespace StationHub.Hub

variable {h next : Hub} {move : Move} {id : Nat}

/-! ### Attempts -/

/-- A task tries for a path: it asks for it, or tries again until the same deadline. -/
inductive Attempted (h : Hub) (move : Move) (id : Nat) (lock : PathLock) (result : Option Guard) :
    Prop where
  | fresh {path : String} : h.asks? move = some (id, path) →
      h.lock.Outcome id path (h.now + h.lock.budget) h.now (lock, result) →
      Attempted h move id lock result
  | again {waiter : Waiter} : move = .resume id → h.asks? move = none →
      waiter ∈ h.lock.waiting → waiter.ticket = id →
      (h.lock.withdraw id).Outcome id waiter.path waiter.deadline h.now (lock, result) →
      Attempted h move id lock result

theorem attempted_of_attempt? (custody : Custody h.lock h.stakes) {lock : PathLock}
    {result : Option Guard} (attempts : h.attempt? move = some (id, lock, result)) :
    h.Attempted move id lock result := by
  unfold attempt? at attempts
  split at attempts
  · rename_i id path asks
    obtain ⟨rfl, asked⟩ := Prod.mk.inj (Option.some.inj attempts)
    have outcome := h.lock.outcome_tryFor id path (h.now + h.lock.budget) h.now
    have tried : h.lock.tryFor id path (h.now + h.lock.budget) h.now = (lock, result) := asked
    rw [tried] at outcome
    exact .fresh asks outcome
  · rename_i nobody
    obtain ⟨id, retries, tried⟩ := Option.map_eq_some_iff.mp attempts
    obtain ⟨rfl, again⟩ := Prod.mk.inj tried
    obtain ⟨rfl, task, found, waits⟩ := retries?_eq_some retries
    have stake : (⟨id, none⟩ : Stake) ∈ h.stakes := by
      refine List.mem_filterMap.mpr ⟨task, List.mem_of_find?_eq_some found, ?_⟩
      rw [Task.stake?, if_pos waits, id_of_task? found]
    obtain ⟨waiter, is, member, ticket⟩ := custody.waiter?_of_stake stake
    have outcome := (h.lock.withdraw id).outcome_tryFor id waiter.path waiter.deadline h.now
    rw [PathLock.resume, is] at again
    dsimp only at again
    rw [again] at outcome
    exact .again rfl nobody member ticket outcome

/-- Who asks for a path is a new task, or one that was held up with its message. -/
theorem asks?_cases {path : String} (asks : h.asks? move = some (id, path)) :
    (id = h.nextTask ∧ move.task? = none) ∨
      ∃ i path' message rival probe, move.task? = some id ∧
        h.task? id = some ⟨id, .messageProbing i path' message rival probe⟩ := by
  cases move with
  | opening | guarding =>
      cases asks
      exact .inl ⟨rfl, rfl⟩
  | handling i path' decoded =>
      left
      obtain ⟨receipt, looks, asks⟩ := Option.bind_eq_some_iff.mp asks
      cases decoded with
      | error => cases looks
      | ok message =>
          simp only [received?] at looks
          split at looks
          · cases looks
          · obtain ⟨s, -, rfl⟩ := Option.map_eq_some_iff.mp looks
            split at asks
            · cases asks
              exact ⟨rfl, rfl⟩
            · cases asks
  | resume number =>
      right
      obtain ⟨receipt, looks, asks⟩ := Option.bind_eq_some_iff.mp asks
      simp only [received?] at looks
      split at looks
      · rename_i i path' message rival probe waits
        obtain ⟨s, -, rfl⟩ := Option.map_eq_some_iff.mp looks
        obtain ⟨⟨number', activity⟩, found, rfl⟩ := Option.map_eq_some_iff.mp waits
        split at asks
        · cases asks
          cases id_of_task? found
          exact ⟨i, path', message, rival, probe, rfl, found⟩
        · cases asks
      · cases looks
  | _ => cases asks

theorem Attempted.waits {lock : PathLock} {result : Option Guard}
    (attempted : h.Attempted move id lock result) {wait : Wait} (member : wait ∈ lock.waits) :
    wait ∈ h.lock.waits ∨ ∃ path, h.asks? move = some (id, path) ∧
      wait = ⟨id, path, h.now + h.lock.budget⟩ := by
  have added : ∀ {new : Wait}, wait ∈ (if result.isNone then [new] else []) → wait = new := by
    intro new inside
    split at inside
    · exact List.mem_singleton.mp inside
    · cases inside
  cases attempted with
  | fresh asks outcome =>
      rw [outcome.waits_eq] at member
      rcases List.mem_append.mp member with old | new
      · exact .inl old
      · exact .inr ⟨_, asks, added new⟩
  | again _ _ inside ticket outcome =>
      rw [outcome.waits_eq, PathLock.waits_withdraw] at member
      rcases List.mem_append.mp member with old | new
      · exact .inl (List.mem_of_mem_filter old)
      · rw [added new, ← ticket]
        exact .inl (PathLock.mem_waits inside)

theorem Attempted.path {lock : PathLock} {guard : Guard}
    (attempted : h.Attempted move id lock (some guard)) :
    h.asks? move = some (id, guard.path) ∨
      ∃ wait ∈ h.lock.waits, wait.ticket = id ∧ guard.path = wait.path := by
  cases attempted with
  | fresh asks outcome => exact .inl (outcome.path_eq rfl ▸ asks)
  | again _ _ inside ticket outcome =>
      exact .inr ⟨_, PathLock.mem_waits inside, ticket, outcome.path_eq rfl⟩

theorem Attempted.budget {lock : PathLock} {result : Option Guard}
    (attempted : h.Attempted move id lock result) : lock.budget = h.lock.budget := by
  cases attempted with
  | fresh _ outcome => exact outcome.budget_eq
  | again _ _ _ _ outcome => exact outcome.budget_eq

/-! ### What a move leaves of the lock -/

theorem mem_stakes_apart {stake : Stake} (member : stake ∈ (h.apart move).stakes) :
    stake ∈ h.stakes := by
  obtain ⟨task, inside, is⟩ := List.mem_filterMap.mp member
  exact List.mem_filterMap.mpr ⟨task, (mem_apart.mp inside).1, is⟩

section

variable (handover : h.Handover move next) (custody : Custody h.lock h.stakes)
include handover custody

/-- The budget stays the same. -/
theorem budget_of_handover : next.lock.budget = h.lock.budget := by
  cases handover with
  | idle _ same => rw [same]
  | keeps id lock result attempts same =>
      rw [same]
      exact (attempted_of_attempt? custody attempts).budget
  | passes id lock guard attempts same =>
      rw [same, PathLock.budget_release]
      exact (attempted_of_attempt? custody attempts).budget
  | drops id guard _ _ same => rw [same, PathLock.budget_release]
  | leaves id _ _ _ same =>
      rw [same]
      rfl

/-- Whoever waits has waited for the same path until the same deadline before, or has just asked. -/
theorem waits_of_handover {wait : Wait} (member : wait ∈ next.lock.waits) :
    wait ∈ h.lock.waits ∨ ∃ path, h.asks? move = some (wait.ticket, path) ∧
      wait = ⟨wait.ticket, path, h.now + h.lock.budget⟩ := by
  have attempted : ∀ {id lock result}, h.attempt? move = some (id, lock, result) →
      wait ∈ lock.waits → wait ∈ h.lock.waits ∨ ∃ path, h.asks? move = some (wait.ticket, path) ∧
        wait = ⟨wait.ticket, path, h.now + h.lock.budget⟩ := by
    intro id lock result attempts inside
    rcases (attempted_of_attempt? custody attempts).waits inside with old | ⟨path, asks, rfl⟩
    · exact .inl old
    · exact .inr ⟨path, asks, rfl⟩
  cases handover with
  | idle _ same =>
      rw [same] at member
      exact .inl member
  | keeps id lock result attempts same =>
      rw [same] at member
      exact attempted attempts member
  | passes id lock guard attempts same =>
      rw [same, PathLock.waits_release] at member
      exact attempted attempts member
  | drops id guard _ _ same =>
      rw [same, PathLock.waits_release] at member
      exact .inl member
  | leaves id _ _ _ same =>
      rw [same, PathLock.waits_withdraw] at member
      exact .inl (List.mem_of_mem_filter member)

/-- Whoever has a guard had it before, has just asked for its path, or waited for it. -/
theorem guard_of_handover {stake : Stake} (member : stake ∈ next.stakes) {guard : Guard}
    (has : stake.guard? = some guard) :
    stake ∈ h.stakes ∨ h.asks? move = some (stake.holder, guard.path) ∨
      ∃ wait ∈ h.lock.waits, wait.ticket = stake.holder ∧ guard.path = wait.path := by
  cases handover with
  | idle _ _ stakes => exact .inl (stakes.mem_iff.mp member)
  | keeps id lock result attempts _ stakes =>
      rcases List.mem_cons.mp (stakes.mem_iff.mp member) with rfl | old
      · dsimp only at has
        subst has
        exact .inr (attempted_of_attempt? custody attempts).path
      · exact .inl (mem_stakes_apart old)
  | passes id lock guard _ _ stakes =>
      exact .inl (mem_stakes_apart (stakes.mem_iff.mp member))
  | drops id guard _ stakes =>
      exact .inl (stakes.mem_iff.mpr (List.mem_cons_of_mem _ member))
  | leaves id _ _ stakes =>
      exact .inl (stakes.mem_iff.mpr (List.mem_cons_of_mem _ member))

end

/-! ### The book of askings -/

/-- Whoever waits or has a guard has asked for the path once. -/
structure Traced (h : Hub) (budget : Nat) (askings : List Asking) : Prop where
  agreed : h.lock.budget = budget
  below : ∀ asking ∈ askings, asking.task < h.nextTask
  distinct : (askings.map Asking.task).Nodup
  /-- A task that waits or has a guard is at what it asked for. -/
  fits : ∀ task ∈ h.tasks, task.stake?.isSome = true →
    ∃ asking ∈ askings, asking.task = task.id ∧ asking.errand.Fits task.activity
  /-- Other tasks have not asked. -/
  silent : ∀ task ∈ h.tasks, task.stake? = none → ∀ asking ∈ askings, asking.task ≠ task.id
  waits : ∀ wait ∈ h.lock.waits, ∃ asking ∈ askings, asking.task = wait.ticket ∧
    asking.path = wait.path ∧ wait.deadline = asking.time + budget
  guards : ∀ stake ∈ h.stakes, ∀ guard, stake.guard? = some guard →
    ∃ asking ∈ askings, asking.task = stake.holder ∧ asking.path = guard.path

theorem traced_fresh (settings : Settings) (mark : Mark) :
    (fresh settings mark).Traced settings.lockBudget [] where
  agreed := rfl
  below := fun _ member => nomatch member
  distinct := List.nodup_nil
  fits := fun _ member => nomatch member
  silent := fun _ member => nomatch member
  waits := fun _ member => nomatch member
  guards := fun _ member => nomatch member

theorem asking?_eq_some {asking : Asking} : h.asking? move = some asking ↔
    h.asks? move = some (asking.task, asking.path) ∧ asking.errand = h.errand move ∧
      asking.time = h.now := by
  unfold asking?
  rw [Option.map_eq_some_iff]
  constructor
  · rintro ⟨asks, known, rfl⟩
    exact ⟨known, rfl, rfl⟩
  · rintro ⟨known, errand, time⟩
    refine ⟨_, known, ?_⟩
    rw [← errand, ← time]

/-- A new task takes its number. -/
theorem nextTask_lt_of_asks? {path : String} (asks : h.asks? move = some (id, path))
    (nobody : move.task? = none) (moved : h.step? move = some next) :
    h.nextTask < next.nextTask := by
  cases move with
  | opening link target =>
      simp only [step?, Option.ite_none_right_eq_some, Option.some.injEq] at moved
      obtain ⟨-, rfl⟩ := moved
      exact (engages_beginOpening h link target).nextTask_le
  | guarding path =>
      cases moved
      have begun : Engages h.nextTask (fun _ => False) h.newTask.1 (h.beginGuard path).1 :=
        engages_beginGuard h path
      exact begun.nextTask_le
  | handling i path decoded =>
      cases moved
      exact (engages_beginHandling h i path decoded).nextTask_le
  | resume => cases nobody
  | _ => cases asks

/-- Who looks at a message has no stake. -/
theorem stake_of_received? {receipt : Receipt} (looks : h.received? move = some receipt) :
    (move.task?.bind h.task?).bind Task.stake? = none := by
  cases move with
  | resume id =>
      show (h.task? id).bind Task.stake? = none
      cases found : h.task? id with
      | none => rfl
      | some task =>
          obtain ⟨number, activity⟩ := task
          cases activity <;> first
            | rfl
            | simp [received?, found] at looks
  | handling => rfl
  | _ => cases looks

theorem asks?_of_received? {receipt : Receipt} (looks : h.received? move = some receipt) :
    h.asks? move = if h.isFirst receipt then some (receipt.task, receipt.path) else none := by
  cases move with
  | resume | handling => simp [asks?, looks]
  | _ => cases looks

/-- A task that begins to wait without a stake does not ask, and had none. -/
theorem Sequel.without {added : Option Task} (sequel : h.Sequel move added) {task : Task}
    (begun : added = some task) (without : task.stake? = none) :
    h.asks? move = none ∧ (move.task?.bind h.task?).bind Task.stake? = none := by
  cases sequel with
  | nobody | lost => cases begun
  | aside plain side =>
      refine ⟨?_, stake_of_isPlain plain⟩
      have nobody := attempt?_of_isPlain plain
      unfold attempt? at nobody
      split at nobody
      · cases nobody
      · assumption
  | @onward before _ taken same onward =>
      cases begun
      obtain ⟨number, activity⟩ := before
      obtain ⟨number', activity'⟩ := task
      cases onward with
      | again waits => simp [Task.stake?, waits] at without
      | resolving | probing | executing | keeping => cases without
      | starting =>
          refine ⟨?_, by rw [taken]; rfl⟩
          cases asks : h.asks? move with
          | none => rfl
          | some known =>
              rcases asks?_cases asks with
                ⟨-, untouched⟩ | ⟨i, path, message, rival, probe, is, found⟩
              · rw [untouched] at taken
                cases taken
              · rw [is, Option.bind_some, found] at taken
                cases taken
  | asked _ _ fits =>
      cases begun
      have has := fits.stake
      rw [without] at has
      cases has
  | @delayed i _ path message _ is _ late =>
      subst is
      exact ⟨by simp [asks?, received?, late], rfl⟩
  | later looks later =>
      rw [asks?_of_received? looks, later, if_neg Bool.false_ne_true]
      exact ⟨rfl, stake_of_received? looks⟩

section

variable {budget : Nat} {askings : List Asking} (traced : h.Traced budget askings)
include traced

/-- Who asks has not asked before. -/
theorem Traced.new {asking : Asking} (asks : h.asking? move = some asking) :
    ∀ old ∈ askings, old.task ≠ asking.task := by
  intro old member same
  rcases asks?_cases (asking?_eq_some.mp asks).1 with
    ⟨fresh, -⟩ | ⟨i, path, message, rival, probe, -, found⟩
  · have before := traced.below old member
    rw [same, fresh] at before
    exact Nat.lt_irrefl _ before
  · exact traced.silent _ (List.mem_of_find?_eq_some found) rfl old member same

theorem Traced.below_step (numbered : h.Numbered) (moved : h.step? move = some next) :
    ∀ asking ∈ askings ++ (h.asking? move).toList, asking.task < next.nextTask := by
  intro asking member
  rcases List.mem_append.mp member with old | new
  · exact Nat.lt_of_lt_of_le (traced.below asking old) (step?_persists moved).nextTask
  · have asks := (asking?_eq_some.mp (Option.mem_toList.mp new)).1
    rcases asks?_cases asks with ⟨fresh, nobody⟩ | ⟨i, path, message, rival, probe, -, found⟩
    · exact fresh ▸ nextTask_lt_of_asks? asks nobody moved
    · exact Nat.lt_of_lt_of_le (numbered.below _ (List.mem_of_find?_eq_some found))
        (step?_persists moved).nextTask

/-- A task that waits or has a guard is at what it asked for. -/
theorem Traced.fits_step (numbered : h.Numbered) (moved : h.step? move = some next) :
    ∀ task ∈ next.tasks, task.stake?.isSome = true →
      ∃ asking ∈ askings ++ (h.asking? move).toList,
        asking.task = task.id ∧ asking.errand.Fits task.activity := by
  intro task member has
  have old : ∀ task ∈ h.tasks, task.stake?.isSome = true →
      ∃ asking ∈ askings ++ (h.asking? move).toList,
        asking.task = task.id ∧ asking.errand.Fits task.activity := by
    intro task member has
    obtain ⟨asking, inside, rest⟩ := traced.fits task member has
    exact ⟨asking, List.mem_append_left _ inside, rest⟩
  obtain ⟨added, turnover, sequel⟩ := sequel_of_step? numbered moved
  rw [turnover.tasks] at member
  rcases List.mem_append.mp member with stays | new
  · exact old task (mem_apart.mp stays).1 has
  · have begun := Option.mem_toList.mp new
    cases sequel with
    | nobody | lost => cases begun
    | aside _ side =>
        rw [Task.stake?_of_isSide (side task begun)] at has
        cases has
    | @onward before _ taken same onward =>
        cases begun
        obtain ⟨number, -, found⟩ := Option.bind_eq_some_iff.mp taken
        obtain ⟨asking, inside, is, fits⟩ := old before (List.mem_of_find?_eq_some found)
          (onward.stake has)
        exact ⟨asking, inside, is.trans same, fits.onward onward⟩
    | asked asks is fits =>
        cases begun
        exact ⟨_, List.mem_append_right _ (Option.mem_toList.mpr asks), is, fits⟩
    | delayed | later =>
        cases begun
        cases has

/-- Tasks that neither wait nor have a guard have not asked. -/
theorem Traced.silent_step (numbered : h.Numbered) (moved : h.step? move = some next) :
    ∀ task ∈ next.tasks, task.stake? = none →
      ∀ asking ∈ askings ++ (h.asking? move).toList, asking.task ≠ task.id := by
  intro task member without asking asks
  obtain ⟨added, turnover, sequel⟩ := sequel_of_step? numbered moved
  rw [turnover.tasks] at member
  rcases List.mem_append.mp member with stays | begun
  · obtain ⟨inside, untouched⟩ := mem_apart.mp stays
    rcases List.mem_append.mp asks with old | new
    · exact traced.silent task inside without asking old
    · rcases asks?_cases (asking?_eq_some.mp (Option.mem_toList.mp new)).1 with
        ⟨fresh, -⟩ | ⟨i, path, message, rival, probe, touched, -⟩
      · exact fresh ▸ (Nat.ne_of_lt (numbered.below task inside)).symm
      · exact fun same => untouched (same ▸ touched)
  · have begun := Option.mem_toList.mp begun
    obtain ⟨nobody, taken⟩ := sequel.without begun without
    rcases List.mem_append.mp asks with old | new
    · rcases turnover.number task begun with ⟨touched, waited⟩ | ⟨above, -⟩
      · obtain ⟨before, found⟩ := Option.isSome_iff_exists.mp waited
        rw [touched, Option.bind_some, found, Option.bind_some] at taken
        rw [← id_of_task? found]
        exact traced.silent before (List.mem_of_find?_eq_some found) taken asking old
      · exact Nat.ne_of_lt (Nat.lt_of_lt_of_le (traced.below asking old) above)
    · rw [asking?, nobody] at new
      cases new

theorem Traced.waits_step (custody : Custody h.lock h.stakes) (handover : h.Handover move next) :
    ∀ wait ∈ next.lock.waits, ∃ asking ∈ askings ++ (h.asking? move).toList,
      asking.task = wait.ticket ∧ asking.path = wait.path ∧
        wait.deadline = asking.time + budget := by
  intro wait member
  rcases waits_of_handover handover custody member with old | ⟨path, asks, is⟩
  · obtain ⟨asking, inside, rest⟩ := traced.waits wait old
    exact ⟨asking, List.mem_append_left _ inside, rest⟩
  · refine ⟨⟨wait.ticket, path, h.errand move, h.now⟩, List.mem_append_right _ ?_, rfl, ?_, ?_⟩
    · exact Option.mem_toList.mpr (asking?_eq_some.mpr ⟨asks, rfl, rfl⟩)
    · rw [is]
    · rw [is, ← traced.agreed]

theorem Traced.guards_step (custody : Custody h.lock h.stakes) (handover : h.Handover move next) :
    ∀ stake ∈ next.stakes, ∀ guard, stake.guard? = some guard →
      ∃ asking ∈ askings ++ (h.asking? move).toList,
        asking.task = stake.holder ∧ asking.path = guard.path := by
  intro stake member guard has
  rcases guard_of_handover handover custody member has with old | asks | ⟨wait, waits, is, path⟩
  · obtain ⟨asking, inside, rest⟩ := traced.guards stake old guard has
    exact ⟨asking, List.mem_append_left _ inside, rest⟩
  · refine ⟨⟨stake.holder, guard.path, h.errand move, h.now⟩, List.mem_append_right _ ?_, rfl, rfl⟩
    exact Option.mem_toList.mpr (asking?_eq_some.mpr ⟨asks, rfl, rfl⟩)
  · obtain ⟨asking, inside, task, same, -⟩ := traced.waits wait waits
    exact ⟨asking, List.mem_append_left _ inside, task.trans is, same.trans path.symm⟩

theorem Traced.step (numbered : h.Numbered) (custody : Custody h.lock h.stakes)
    (moved : h.step? move = some next) :
    next.Traced budget (askings ++ (h.asking? move).toList) := by
  have handover := (handover_of_step? numbered custody moved).1
  refine ⟨(budget_of_handover handover custody).trans traced.agreed,
    traced.below_step numbered moved, ?_, traced.fits_step numbered moved,
    traced.silent_step numbered moved, traced.waits_step custody handover,
    traced.guards_step custody handover⟩
  rw [List.map_append, List.nodup_append]
  refine ⟨traced.distinct, by cases h.asking? move <;> simp, ?_⟩
  intro number old number' new
  obtain ⟨asking, inside, rfl⟩ := List.mem_map.mp old
  obtain ⟨asking', asks, rfl⟩ := List.mem_map.mp new
  exact traced.new (Option.mem_toList.mp asks) asking inside

end

/-- In every run whoever waits or has a guard has asked for the path once. -/
theorem traced_of_run? {settings : Settings} {mark : Mark} {moves : List Move} {h : Hub}
    (run : (fresh settings mark).run? moves = some h) :
    h.Traced settings.lockBudget ((fresh settings mark).observed asking? moves) := by
  induction moves using List.reverseRecOn generalizing h with
  | nil =>
      cases run
      exact traced_fresh settings mark
  | append_singleton moves move ih =>
      obtain ⟨mid, run, moved⟩ := run?_concat.mp run
      rw [observed_concat run]
      exact (ih run).step (numbered_of_run? run) (custody_of_run? run) moved

end StationHub.Hub

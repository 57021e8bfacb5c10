import StationHub.Proofs.Calls.Replies
import StationHub.Proofs.Lock.Patience

/-!
Calls are carried through.

* `toDo`: how many steps the calls that wait have at most before them.
* `Move.attends`: time passes, a task goes on, or the executor answers.
* `goesOn`, `answers`: a call that waits comes nearer to its end.
* `Completes`: all calls have been executed and answered after finitely many such moves;
  `completes` has it whatever the executor answers.
-/

namespace StationHub

/-- How many steps the call that the activity is about has at most before it. -/
def Activity.toDo : Activity → Nat
  | .messageProbing _ _ (.call ..) _ _ => 3
  | .callWaiting .. | .callStarting .. => 2
  | .executing .. => 1
  | _ => 0

/-- What goes on has at most two steps before it. -/
theorem Activity.Onward.toDo_le {old new : Activity} (onward : old.Onward new) : new.toDo ≤ 2 := by
  cases onward with
  | again waits => cases old <;> first | exact Nat.zero_le 2 | exact Nat.le_refl 2 | cases waits
  | executing | starting => exact Nat.le_succ 1
  | resolving | probing | keeping => exact Nat.zero_le 2

theorem Errand.Fits.toDo_le {errand : Errand} {activity : Activity} (fits : errand.Fits activity) :
    activity.toDo ≤ 2 := by
  cases fits with
  | callWaiting => exact Nat.le_refl 2
  | executing => exact Nat.le_succ 1
  | openWaiting | openResolving | openProbing | guardWaiting | guarding => exact Nat.zero_le 2

theorem Activity.toDo_of_isSide {activity : Activity} (side : activity.isSide = true) :
    activity.toDo = 0 := by
  cases activity <;> first | rfl | cases side

namespace Hub

/-- How many steps all calls that wait have at most before them. -/
def toDo (h : Hub) : Nat := (h.tasks.map fun task => task.activity.toDo).sum

/-- The move does not interfere: time passes, a task goes on, or the executor answers. -/
def Move.attends : Move → Bool
  | .advance _ | .resume _ | .executorAnswers .. => true
  | _ => false

/-- The connections that are probed were accepted once. -/
def Sighted (h : Hub) : Prop :=
  ∀ task ∈ h.tasks, ∀ {i rival : Nat} {probe : Link.Probe},
    task.activity.probes? = some (i, rival, probe) → (h.link? rival).isSome = true

variable {h next : Hub} {move : Move}

theorem step?_sighted (numbered : h.Numbered) (sighted : h.Sighted)
    (moved : h.step? move = some next) : next.Sighted := by
  intro task member i rival probe probes
  have known : (h.link? rival).isSome = true := by
    rcases mem_tasks_of_step? numbered moved member with ⟨old, -⟩ | begets
    · exact sighted task old probes
    · obtain ⟨-, s, -, examines⟩ := begets.takes probes
      have begun := examines.begun
      rw [startProbe_snd] at begun
      obtain ⟨link, here, -⟩ := Option.bind_eq_some_iff.mp begun
      rw [here]
      rfl
  obtain ⟨link, here⟩ := Option.isSome_iff_exists.mp known
  obtain ⟨c, at_rival, -⟩ := link?_eq_some_iff.mp here
  obtain ⟨c', there, -⟩ := (step?_persists moved).connection at_rival
  rw [link?, there]
  rfl

/-- What is needed of a hub to carry calls through. -/
structure Orderly (h : Hub) : Prop where
  numbered : h.Numbered
  custody : Custody h.lock h.stakes
  sighted : h.Sighted

theorem Orderly.run {moves : List Move} (orderly : h.Orderly) (run : h.run? moves = some next) :
    next.Orderly :=
  run?_induction (P := Orderly)
    (fun before moved => ⟨step?_numbered before.numbered moved,
      custody_of_step? before.numbered before.custody moved,
      step?_sighted before.numbered before.sighted moved⟩) orderly run

theorem orderly_fresh (settings : Settings) (mark : Mark) : (fresh settings mark).Orderly :=
  ⟨numbered_fresh settings mark, custody_fresh _ _, fun _ member => nomatch member⟩

/-! ### What is still to be done -/

theorem toDo_apart (numbered : h.Numbered) {task : Task}
    (taken : move.task?.bind h.task? = some task) :
    h.toDo = task.activity.toDo + (h.apart move).toDo := by
  have split := ((tasks_apart numbered move).map fun task => task.activity.toDo).sum_nat
  rw [taken] at split
  exact split

/-- A call that was held up has at most two steps before it. -/
theorem Sequel.toDo_le {task : Task} (sequel : h.Sequel move (some task))
    (other : ∀ i path decoded, move ≠ .handling i path decoded) : task.activity.toDo ≤ 2 := by
  cases sequel with
  | aside _ side =>
      rw [Activity.toDo_of_isSide (side task rfl)]
      exact Nat.zero_le _
  | onward _ _ onward => exact onward.toDo_le
  | asked _ _ fits => exact fits.toDo_le
  | delayed is => exact absurd is (other _ _ _)
  | later => exact Nat.le_refl _

/-- The tasks of a call that is about to be executed. -/
theorem toDo_execute (h : Hub) (id session : Nat) (request : Request) (guard : Option Guard) :
    (h.execute id session request guard).toDo ≤ h.toDo + 1 := by
  unfold toDo
  rw [tasks_execute]
  cases h.present? session with
  | none => simp
  | some s => simp [Activity.toDo]

/-! ### Steps -/

theorem toDo_turnover {added : Option Task} (turnover : h.Turnover move next added) :
    next.toDo = (h.apart move).toDo + added.elim 0 fun task => task.activity.toDo := by
  unfold toDo
  rw [turnover.tasks, List.map_append, List.sum_append_nat]
  cases added <;> rfl

/-- The hub when some time has passed. -/
def later (h : Hub) (ms : Nat) : Hub := { h with now := h.now + ms }

/-- Who waits for a path gets a guard when the time is over. -/
theorem resume_late {lock : PathLock} {ticket now : Nat} {waiter : Waiter}
    (found : lock.waiter? ticket = some waiter) (late : waiter.deadline ≤ now) :
    ∃ next guard, lock.resume ticket now = (next, some guard) := by
  have outcome := (lock.withdraw ticket).outcome_tryFor ticket waiter.path waiter.deadline now
  have tried : lock.resume ticket now =
      (lock.withdraw ticket).tryFor ticket waiter.path waiter.deadline now := by
    rw [PathLock.resume, found]
  rw [← tried] at outcome
  rcases result : lock.resume ticket now with ⟨next, _ | guard⟩
  · rw [result] at outcome
    cases outcome with
    | waits _ early => exact absurd late (Nat.not_le_of_lt early)
  · exact ⟨next, guard, rfl⟩

/-- A task comes nearer to the end of its call when it can go on after some time. -/
theorem goesOn_of_isReady (numbered : h.Numbered) {task : Task} (member : task ∈ h.tasks) {ms : Nat}
    (ready : (h.later ms).isReady task = true)
    (less : ((h.later ms).resume task).toDo < task.activity.toDo + (h.detach task.id).toDo) :
    ∃ ms next, h.run? [.advance ms, .resume task.id] = some next ∧ next.toDo < h.toDo := by
  have found := numbered.task?_of_mem member
  have taken : (Move.resume task.id).task?.bind h.task? = some task := found
  have before : h.toDo = task.activity.toDo + (h.detach task.id).toDo := toDo_apart numbered taken
  have there : (h.later ms).task? task.id = some task := found
  have waited : h.step? (.advance ms) = some (h.later ms) := rfl
  refine ⟨ms, (h.later ms).resume task, ?_, before ▸ less⟩
  rw [run?_cons, waited, Option.bind_some, run?_cons]
  simp only [step?, there, ready, if_true]
  rfl

theorem goesOn_callStarting (numbered : h.Numbered) {id i : Nat} {request : Request}
    (member : (⟨id, .callStarting i request⟩ : Task) ∈ h.tasks) :
    ∃ ms next, h.run? [.advance ms, .resume id] = some next ∧ next.toDo < h.toDo := by
  have ready : (h.later 0).isReady ⟨id, .callStarting i request⟩ = true := rfl
  have least : ((h.later 0).resume ⟨id, .callStarting i request⟩).toDo ≤
      (h.detach id).toDo + 1 := toDo_execute ((h.later 0).detach id) id i request none
  refine goesOn_of_isReady numbered member ready (Nat.lt_of_le_of_lt least ?_)
  rw [Nat.add_comm]
  exact Nat.add_lt_add_right (Nat.lt_succ_self 1) _

/-- At its deadline a call gets a guard for its path. -/
theorem goesOn_callWaiting (numbered : h.Numbered) (custody : Custody h.lock h.stakes) {id i : Nat}
    {request : Request} (member : (⟨id, .callWaiting i request⟩ : Task) ∈ h.tasks) :
    ∃ ms next, h.run? [.advance ms, .resume id] = some next ∧ next.toDo < h.toDo := by
  obtain ⟨waiter, -, -, queued⟩ := waiter_of_task numbered custody member rfl
  have late : waiter.deadline ≤ h.now + (waiter.deadline - h.now) := by omega
  have ready :
      (h.later (waiter.deadline - h.now)).isReady ⟨id, .callWaiting i request⟩ = true := by
    show h.lock.isReady id (h.now + (waiter.deadline - h.now)) = true
    rw [PathLock.isReady, queued]
    simp [Waiter.isReady, late]
  obtain ⟨lock, guard, got⟩ := resume_late queued late
  have least : ((h.later (waiter.deadline - h.now)).resume ⟨id, .callWaiting i request⟩).toDo ≤
      (h.detach id).toDo + 1 := by
    have tried : ((h.later (waiter.deadline - h.now)).detach id).lock.resume id
        ((h.later (waiter.deadline - h.now)).detach id).now = (lock, some guard) := got
    simp only [resume, resumeLock, tried]
    exact toDo_execute _ id i request (some guard)
  refine goesOn_of_isReady numbered member ready (Nat.lt_of_le_of_lt least ?_)
  rw [Nat.add_comm]
  exact Nat.add_lt_add_right (Nat.lt_succ_self 1) _

/-- At its deadline the probe is decided that holds up a call. -/
theorem goesOn_messageProbing (numbered : h.Numbered) (sighted : h.Sighted) {id i rival : Nat}
    {path : String} {message : Message} {probe : Link.Probe}
    (member : (⟨id, .messageProbing i path message rival probe⟩ : Task) ∈ h.tasks)
    (three : (Activity.messageProbing i path message rival probe).toDo = 3) :
    ∃ ms next, h.run? [.advance ms, .resume id] = some next ∧ next.toDo < h.toDo := by
  obtain ⟨link, there⟩ := Option.isSome_iff_exists.mp (sighted _ member rfl)
  have late : probe.deadline ≤ h.now + (probe.deadline - h.now) := by omega
  have ready : (h.later (probe.deadline - h.now)).isReady
      ⟨id, .messageProbing i path message rival probe⟩ = true := by
    show ((h.link? rival).bind fun link =>
      probe.verdict? link (h.now + (probe.deadline - h.now))).isSome = true
    rw [there, Option.bind_some, Link.Probe.verdict?, if_pos late]
    split <;> rfl
  have moved : (h.later (probe.deadline - h.now)).step? (.resume id) =
      some ((h.later (probe.deadline - h.now)).resume
        ⟨id, .messageProbing i path message rival probe⟩) := by
    have found : (h.later (probe.deadline - h.now)).task? id =
        some ⟨id, .messageProbing i path message rival probe⟩ := numbered.task?_of_mem member
    simp only [step?, found, ready, if_true]
  have numbered' : (h.later (probe.deadline - h.now)).Numbered :=
    ⟨numbered.below, numbered.distinct⟩
  obtain ⟨added, turnover, sequel⟩ := sequel_of_step? numbered' moved
  have apart : ((h.later (probe.deadline - h.now)).apart (.resume id)).toDo =
    (h.detach id).toDo := rfl
  refine goesOn_of_isReady numbered member ready ?_
  rw [toDo_turnover turnover, apart, three, Nat.add_comm]
  refine Nat.add_lt_add_right (Nat.lt_succ_of_le ?_) _
  cases added with
  | none => exact Nat.zero_le _
  | some task => exact sequel.toDo_le (by simp)

/-- A call that waits to be executed comes nearer to it when it is late enough. -/
theorem goesOn (orderly : h.Orderly) {task : Task} (member : task ∈ h.tasks)
    {call : Nat × Request} (waits : task.activity.waitingCall? = some call) :
    ∃ ms next, h.run? [.advance ms, .resume task.id] = some next ∧ next.toDo < h.toDo := by
  obtain ⟨id, activity⟩ := task
  cases activity with
  | callStarting i request => exact goesOn_callStarting orderly.numbered member
  | callWaiting i request => exact goesOn_callWaiting orderly.numbered orderly.custody member
  | messageProbing i path message rival probe =>
      have three : (Activity.messageProbing i path message rival probe).toDo = 3 := by
        cases message <;> first | rfl | cases waits
      exact goesOn_messageProbing orderly.numbered orderly.sighted member three
  | _ => cases waits

/-- A call that waits for the executor is answered. -/
theorem answers (numbered : h.Numbered) {execution : Execution} (member : execution ∈ h.executions)
    (reply : Reply) :
    ∃ next, h.step? (.executorAnswers execution.task reply) = some next ∧
      h.execution? execution.task = some execution ∧ next.toDo < h.toDo := by
  obtain ⟨task, inside, executes⟩ := List.mem_filterMap.mp member
  have found := numbered.task?_of_mem inside
  obtain ⟨id, activity⟩ := task
  cases activity with
  | executing session context request guard =>
      cases executes
      have moved : h.step? (.executorAnswers id reply) =
          some ((h.detach id).afterExecution id session request guard reply) := by
        simp only [step?, executorAnswers?, found, Option.map_some]
      refine ⟨_, moved, by rw [execution?, found]; rfl, ?_⟩
      obtain ⟨added, turnover, -⟩ := sequel_of_step? numbered moved
      have nobody := nobody_of_execution turnover moved found rfl
      have taken : (Move.executorAnswers id reply).task?.bind h.task? =
          some ⟨id, .executing session context request guard⟩ := found
      have before : h.toDo = 1 + (h.apart (.executorAnswers id reply)).toDo :=
        toDo_apart numbered taken
      rw [toDo_turnover turnover, nobody, before]
      exact Nat.lt_add_of_pos_left Nat.one_pos
  | _ => cases executes

/-! ### Completion -/

/-- After finitely many moves that do not interfere all calls have been executed, and answered as
the executor does. -/
def Completes (h : Hub) (executor : Execution → Reply) : Prop :=
  ∃ moves last, h.run? moves = some last ∧ (∀ move ∈ moves, move.attends = true) ∧
    last.waitingCalls = [] ∧ last.executions = [] ∧
      ∀ answered ∈ h.observed answered? moves, answered.reply = executor answered.execution

variable {executor : Execution → Reply}

theorem Completes.after {first : List Move} (run : h.run? first = some next)
    (attends : ∀ move ∈ first, move.attends = true)
    (replies : ∀ answered ∈ h.observed answered? first,
      answered.reply = executor answered.execution)
    (completes : next.Completes executor) : h.Completes executor := by
  obtain ⟨moves, last, onward, attends', idle, done, replies'⟩ := completes
  refine ⟨first ++ moves, last, ?_, ?_, idle, done, ?_⟩
  · rw [run?_append, run]
    exact onward
  · intro move among
    exact (List.mem_append.mp among).elim (attends move) (attends' move)
  · intro answered seen
    rw [observed_append run] at seen
    exact (List.mem_append.mp seen).elim (replies answered) (replies' answered)

/-- All calls can be carried through, whatever the executor answers. -/
theorem completes {h : Hub} (orderly : h.Orderly) (executor : Execution → Reply) :
    h.Completes executor := by
  cases waiting : h.waitingCalls with
  | cons call others =>
      have first : call ∈ h.waitingCalls := by
        rw [waiting]
        exact List.mem_cons_self
      obtain ⟨task, member, waits⟩ := List.mem_filterMap.mp first
      obtain ⟨ms, next, run, less⟩ := goesOn orderly member waits
      refine .after run ?_ ?_ (completes (orderly.run run) executor)
      · intro move among
        simp only [List.mem_cons, List.not_mem_nil, or_false] at among
        rcases among with rfl | rfl <;> rfl
      · intro answered seen
        simp only [observed, answered?, Option.toList_none, List.nil_append] at seen
        split at seen
        · split at seen <;> cases seen
        · cases seen
  | nil =>
      cases running : h.executions with
      | cons execution others =>
          have first : execution ∈ h.executions := by
            rw [running]
            exact List.mem_cons_self
          obtain ⟨next, moved, known, less⟩ :=
            answers orderly.numbered first (executor execution)
          have run : h.run? [.executorAnswers execution.task (executor execution)] =
              some next := by
            rw [run?_cons, moved]
            rfl
          refine .after run ?_ ?_ (completes (orderly.run run) executor)
          · intro move among
            rw [List.mem_singleton.mp among]
            rfl
          · intro answered seen
            simp only [observed, answered?, known, Option.map_some, Option.toList_some, moved,
              List.append_nil, List.mem_singleton] at seen
            rw [seen]
      | nil =>
          refine ⟨[], h, rfl, ?_, waiting, running, ?_⟩
          · intro move among
            cases among
          · intro answered seen
            cases seen
termination_by h.toDo
decreasing_by all_goals exact less

end Hub

end StationHub

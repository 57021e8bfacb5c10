import Mathlib.Algebra.Order.Group.Multiset
import Mathlib.Tactic.Abel
import StationHub.Proofs.Hub.History
import StationHub.Proofs.Tasks.Sequel

/-!
The calls of peers and their executions.

* `Execution`, `Answered`: a call that the executor was given, with what it was told, and what it
  answers.
* `dispatched?`, `invoked?`, `lost?`, `answered?`, `abandoned?`: what a move does with a call.
* `Balance`: no call comes from nowhere, is doubled or disappears; `balance_of_run?` has it for
  every run.
* `Spent`: no task executes twice; `spent_of_run?` has it for every run.
-/

namespace StationHub

/-- A call of a peer that the executor was given. -/
structure Execution where
  /-- The task that waits for the answer. -/
  task : Nat
  session : Nat
  /-- What the executor was told besides the command and its payload. -/
  context : CallContext
  request : Request

/-- An answer of the executor. -/
structure Answered where
  execution : Execution
  reply : Reply
  /-- The connection of the session refuses the answer. -/
  dropped : Bool

/-- The call, and the number of its session. -/
def Execution.call (execution : Execution) : Nat × Request := (execution.session, execution.request)

/-- The execution that the task waits for. -/
def Task.execution? (task : Task) : Option Execution :=
  match task.activity with
  | .executing session context request _ => some ⟨task.id, session, context, request⟩
  | _ => none

/-- A call waits to be executed or for the executor. -/
theorem Activity.call?_toList (activity : Activity) :
    activity.call?.toList = activity.waitingCall?.toList ++ activity.runningCall?.toList := by
  unfold Activity.call?
  cases activity with
  | messageProbing i path message => cases message <;> rfl
  | _ => rfl

theorem Activity.call?_of_isSide {activity : Activity} (side : activity.isSide = true) :
    activity.call? = none := by
  cases activity <;> first | rfl | cases side

theorem Task.call_execution? (task : Task) :
    task.execution?.map Execution.call = task.activity.runningCall? := by
  unfold execution?
  cases task.activity <;> rfl

/-- The link takes nothing up: it is closed, nobody reads its queue, or the queue is full. -/
def Link.refuses (link : Link) : Bool :=
  link.closed || !link.hasReader || link.capacity ≤ link.queue.length

namespace Hub

/-! ### What a move does with a call -/

/-- The call that arrives with the move, and the number of its session. -/
def dispatched? (h : Hub) : Move → Option (Nat × Request)
  | .handling session _ (.ok (.call id command payload)) =>
      (h.session? session).map fun _ => (session, ⟨id, command, payload⟩)
  | _ => none

/-- The task that begins to wait with the move. It comes behind all others. -/
def begun? (h : Hub) (move : Move) : Option Task :=
  (h.step? move).bind fun next => next.tasks[(h.apart move).tasks.length]?

/-- The call that the executor is given with the move. -/
def invoked? (h : Hub) (move : Move) : Option Execution := (h.begun? move).bind Task.execution?

/-- The call that was to be carried on with the move, but nobody waits with it. -/
def lost? (h : Hub) (move : Move) : Option (Nat × Request) :=
  match h.begun? move with
  | some _ => none
  | none => h.callInHand? move

/-- The execution that task number `id` waits for. -/
def execution? (h : Hub) (id : Nat) : Option Execution := (h.task? id).bind Task.execution?

/-- The connection of session number `i` takes nothing up. -/
def refuses (h : Hub) (i : Nat) : Bool :=
  ((h.session? i).bind fun s => h.link? s.link).all Link.refuses

/-- What the executor answers with the move. -/
def answered? (h : Hub) : Move → Option Answered
  | .executorAnswers id reply =>
      (h.execution? id).map fun execution => ⟨execution, reply, h.refuses execution.session⟩
  | _ => none

/-- The execution that is given up with the move. -/
def abandoned? (h : Hub) : Move → Option Execution
  | .cancel id => h.execution? id
  | _ => none

/-- The calls that are yet to be executed. -/
def waitingCalls (h : Hub) : List (Nat × Request) :=
  h.tasks.filterMap fun task => task.activity.waitingCall?

/-- The calls that wait for the executor. -/
def executions (h : Hub) : List Execution := h.tasks.filterMap Task.execution?

variable {h next : Hub} {move : Move} {added : Option Task}

theorem begun?_eq (turnover : h.Turnover move next added) (moved : h.step? move = some next) :
    h.begun? move = added := by
  unfold begun?
  rw [moved, Option.bind_some, turnover.tasks]
  cases added <;> simp

/-- The executor is given the call that the task waits for that begins to. -/
theorem invoked?_eq (turnover : h.Turnover move next added) (moved : h.step? move = some next) :
    h.invoked? move = added.bind Task.execution? := by
  rw [invoked?, begun?_eq turnover moved]

/-- The executor is told who calls, as the session of the call has it. -/
theorem context_of_invoked? (numbered : h.Numbered) (moved : h.step? move = some next)
    {execution : Execution} (given : h.invoked? move = some execution) :
    ∃ s, h.session? execution.session = some s ∧
      execution.context = s.context execution.request.id := by
  obtain ⟨added, turnover, sequel⟩ := sequel_of_step? numbered moved
  rw [invoked?_eq turnover moved] at given
  obtain ⟨⟨id, activity⟩, rfl, executes⟩ := Option.bind_eq_some_iff.mp given
  cases activity with
  | executing session context request guard =>
      cases executes
      exact sequel.informs
  | _ => cases executes

/-- A call in hand arrives, or the task that is taken up has it. -/
theorem callInHand?_eq (moved : h.step? move = some next) :
    (h.callInHand? move).toList = (h.dispatched? move).toList ++
      ((move.task?.bind h.task?).bind fun task => task.activity.waitingCall?).toList := by
  cases move with
  | handling i path decoded =>
      rcases decoded with malformed | message
      · rfl
      · cases message with
        | call id command payload =>
            exact (List.append_nil ((h.session? i).map fun _ => _).toList).symm
        | result | error => rfl
  | resume | cancel => rfl
  | directoryAnswers id answer =>
      obtain ⟨link, target, guard, found, -⟩ := resolved moved
      simp [callInHand?, dispatched?, Move.task?, found, Activity.waitingCall?]
  | executorAnswers id reply =>
      obtain ⟨session, _, request, guard, found, -⟩ := executed moved
      simp [callInHand?, dispatched?, Move.task?, found, Activity.waitingCall?]
  | _ => rfl

theorem callInHand?_of_isPlain (plain : h.isPlain move = true) : h.callInHand? move = none := by
  cases move with
  | handling | cancel => cases plain
  | resume id =>
      cases found : h.task? id with
      | none => simp [callInHand?, found]
      | some task =>
          have side : task.activity.isSide = true := by simpa [isPlain, found] using plain
          have idle := congrArg Option.toList (Activity.call?_of_isSide side)
          rw [Activity.call?_toList] at idle
          simpa [callInHand?, found] using (List.append_eq_nil_iff.mp idle).1
  | _ => rfl

/-- A call in hand is what the task is about that begins to wait, or it is lost: it is given up, or
the connection of its session is gone. -/
theorem Sequel.carries (sequel : h.Sequel move added) (moved : h.step? move = some next) :
    h.callInHand? move = added.bind (fun task => task.activity.call?) ∨
      added = none ∧ ∃ call, h.callInHand? move = some call ∧
        ((∃ id, move = .cancel id) ∨ (h.apart move).isGone call.1 = true) := by
  cases sequel with
  | nobody inHand => exact .inl inHand
  | lost inHand reason => exact .inr ⟨rfl, _, inHand, reason⟩
  | aside plain side =>
      left
      rw [callInHand?_of_isPlain plain]
      cases added with
      | none => rfl
      | some task => exact (Activity.call?_of_isSide (side task rfl)).symm
  | @onward old task taken _ onward =>
      left
      have nothing : h.dispatched? move = none := by
        cases move <;> first | rfl | cases taken
      have inHand := congrArg List.head? (callInHand?_eq moved)
      rw [nothing, taken, Option.bind_some, Option.toList_none, List.nil_append,
        Option.head?_toList, Option.head?_toList] at inHand
      rw [inHand]
      exact onward.waitingCall?
  | asked _ _ _ inHand => exact .inl inHand
  | @delayed i rival path message probe is here =>
      left
      subst is
      obtain ⟨s, here⟩ := Option.isSome_iff_exists.mp here
      cases message <;> simp [callInHand?, here, Activity.call?, Activity.waitingCall?,
        Activity.runningCall?]
  | later _ _ inHand => exact .inl inHand

/-! ### The ledger -/

/-- A ledger stays balanced: with a turn some items enter, and of those and the one that is `taken`
up some go on waiting and the others are `done` or `failed`. -/
theorem ledger_concat {α : Type}
    {entered waiting rest done failed enter taken put finish fail : List α}
    (ledger : entered.Perm (waiting ++ done ++ failed)) (before : waiting.Perm (taken ++ rest))
    (turn : (enter ++ taken).Perm (put ++ finish ++ fail)) :
    (entered ++ enter).Perm (rest ++ put ++ (done ++ finish) ++ (failed ++ fail)) := by
  rw [← Multiset.coe_eq_coe] at *
  simp only [← Multiset.coe_add] at *
  calc (entered : Multiset α) + enter
      = rest + done + failed + (enter + taken) := by rw [ledger, before]; abel
    _ = rest + put + (done + finish) + (failed + fail) := by rw [turn]; abel

/-- No call comes from nowhere, is doubled or disappears. -/
structure Balance (start : Hub) (moves : List Move) (h : Hub) : Prop where
  /-- Every call that arrived waits, was given to the executor once, or was lost. -/
  calls : (start.observed dispatched? moves).Perm
    (h.waitingCalls ++
      (start.observed invoked? moves).map Execution.call ++ start.observed lost? moves)
  /-- Every call given to the executor waits for it, was answered once, or was given up. -/
  executions : (start.observed invoked? moves).Perm
    (h.executions ++ (start.observed answered? moves).map Answered.execution ++
      start.observed abandoned? moves)
  /-- The sessions of all calls exist. -/
  known : ∀ call ∈ start.observed dispatched? moves, (h.session? call.1).isSome = true

theorem session_of_dispatched? {call : Nat × Request} (arrives : h.dispatched? move = some call) :
    (h.session? call.1).isSome = true := by
  unfold dispatched? at arrives
  split at arrives
  · obtain ⟨s, here, rfl⟩ := Option.map_eq_some_iff.mp arrives
    rw [here]
    rfl
  · cases arrives

/-- Who is given to the executor, or was. -/
theorem execution?_taken (moved : h.step? move = some next) :
    ((move.task?.bind h.task?).bind Task.execution?).toList =
      ((h.answered? move).map Answered.execution).toList ++ (h.abandoned? move).toList := by
  cases move with
  | resume id =>
      obtain ⟨⟨number, activity⟩, found, ready, -⟩ := resumed moved
      cases activity with
      | executing => cases ready
      | _ => simp [Move.task?, found, Task.execution?, answered?, abandoned?]
  | directoryAnswers id answer =>
      obtain ⟨link, target, guard, found, -⟩ := resolved moved
      simp [Move.task?, found, Task.execution?, answered?, abandoned?]
  | executorAnswers id reply =>
      have same : (h.answered? (.executorAnswers id reply)).map Answered.execution =
          h.execution? id := by
        simp only [answered?]
        cases h.execution? id <;> rfl
      rw [same]
      exact (List.append_nil _).symm
  | cancel id => rfl
  | _ => rfl

/-- What the tasks have after a move. -/
theorem filterMap_turnover {α : Type} (turnover : h.Turnover move next added)
    (item? : Task → Option α) : next.tasks.filterMap item? =
      (h.apart move).tasks.filterMap item? ++ (added.bind item?).toList := by
  rw [turnover.tasks, List.filterMap_append]
  cases added with
  | none => rfl
  | some task =>
      rw [Option.toList_some, List.filterMap_cons, Option.bind_some]
      cases item? task <;> rfl

variable {start : Hub} {moves : List Move}

/-- The session of a call in hand exists. -/
theorem Balance.session (balance : Balance start moves h) (moved : h.step? move = some next)
    {call : Nat × Request} (inHand : h.callInHand? move = some call) :
    (h.session? call.1).isSome = true := by
  have member : call ∈ (h.callInHand? move).toList := Option.mem_toList.mpr inHand
  rw [callInHand?_eq moved] at member
  rcases List.mem_append.mp member with arrives | carried
  · exact session_of_dispatched? (Option.mem_toList.mp arrives)
  · obtain ⟨task, taken, waits⟩ := Option.bind_eq_some_iff.mp (Option.mem_toList.mp carried)
    obtain ⟨id, -, found⟩ := Option.bind_eq_some_iff.mp taken
    refine balance.known call (balance.calls.mem_iff.mpr ?_)
    refine List.mem_append_left _ (List.mem_append_left _ ?_)
    exact List.mem_filterMap.mpr ⟨task, List.mem_of_find?_eq_some found, waits⟩

/-- A call that arrives, or that the task has that is taken up, waits, is given to the executor or
is lost. -/
theorem Sequel.turn (sequel : h.Sequel move added) (moved : h.step? move = some next)
    (turnover : h.Turnover move next added) :
    (h.dispatched? move).toList ++
      ((move.task?.bind h.task?).bind fun task => task.activity.waitingCall?).toList =
        (added.bind fun task => task.activity.waitingCall?).toList ++
          ((h.invoked? move).map Execution.call).toList ++ (h.lost? move).toList := by
  have given : (h.invoked? move).map Execution.call =
      added.bind fun task => task.activity.runningCall? := by
    rw [invoked?_eq turnover moved]
    cases added with
    | none => rfl
    | some task => exact task.call_execution?
  rw [← callInHand?_eq moved, given, lost?, begun?_eq turnover moved]
  rcases sequel.carries moved with inHand | ⟨rfl, -⟩
  · rw [inHand]
    cases added with
    | none => rfl
    | some task => exact (Activity.call?_toList task.activity).trans (List.append_nil _).symm
  · rfl

/-- The ledger after a move. -/
theorem Balance.step (balance : Balance start moves h) (run : start.run? moves = some h)
    (numbered : h.Numbered) (moved : h.step? move = some next) :
    Balance start (moves ++ [move]) next := by
  obtain ⟨added, turnover, sequel⟩ := sequel_of_step? numbered moved
  refine ⟨?_, ?_, ?_⟩
  · rw [observed_concat run, observed_concat run, observed_concat run, List.map_append,
      ← Option.toList_map, waitingCalls, filterMap_turnover turnover]
    exact ledger_concat balance.calls (filterMap_apart numbered move _)
      (.of_eq (sequel.turn moved turnover))
  · rw [observed_concat run, observed_concat run, observed_concat run, List.map_append,
      ← Option.toList_map, Hub.executions, filterMap_turnover turnover]
    refine ledger_concat balance.executions (filterMap_apart numbered move _) (.of_eq ?_)
    rw [invoked?_eq turnover moved, execution?_taken moved, List.append_assoc]
  · intro call member
    rw [observed_concat run] at member
    have known : (h.session? call.1).isSome = true := by
      rcases List.mem_append.mp member with old | new
      · exact balance.known call old
      · exact session_of_dispatched? (Option.mem_toList.mp new)
    obtain ⟨s, here⟩ := Option.isSome_iff_exists.mp known
    obtain ⟨s', there, -⟩ := (step?_persists moved).session here
    rw [there]
    rfl

/-- The ledger is balanced after every run. -/
theorem balance_of_run? {settings : Settings} {mark : Mark}
    (run : (fresh settings mark).run? moves = some h) :
    Balance (fresh settings mark) moves h := by
  induction moves using List.reverseRecOn generalizing h with
  | nil =>
      cases run
      exact ⟨.refl _, .refl _, fun _ member => nomatch member⟩
  | append_singleton moves move ih =>
      obtain ⟨mid, run, moved⟩ := run?_concat.mp run
      exact (ih run).step run (numbered_of_run? run) moved

/-! ### Executions are different -/

/-- Nobody begins to wait when an execution ends. -/
theorem nobody_of_execution {task : Task} (turnover : h.Turnover move next added)
    (moved : h.step? move = some next) (taken : move.task?.bind h.task? = some task)
    (executes : task.execution?.isSome = true) : added = none := by
  have nobody : next.tasks = (h.apart move).tasks → added = none := by
    intro same
    have lists := turnover.tasks.symm.trans same
    cases added with
    | none => rfl
    | some task => simp at lists
  cases move with
  | resume id =>
      obtain ⟨⟨number, activity⟩, found, ready, -⟩ := resumed moved
      have is := Option.some.inj (taken.symm.trans found)
      subst is
      cases activity with
      | executing => cases ready
      | _ => cases executes
  | directoryAnswers id answer =>
      obtain ⟨link, target, guard, found, -⟩ := resolved moved
      have is := Option.some.inj (taken.symm.trans found)
      subst is
      cases executes
  | executorAnswers id reply =>
      obtain ⟨session, _, request, guard, -, rfl⟩ := executed moved
      exact nobody (sameTasks_afterExecution (h.detach id) id session request guard reply).tasks
  | cancel id =>
      cases moved
      exact nobody (tasks_cancel h id)
  | _ => cases taken

/-- The tasks of all executions are different, and none waits for anything after its own. -/
structure Spent (start : Hub) (moves : List Move) (h : Hub) : Prop where
  distinct : ((start.observed invoked? moves).map Execution.task).Nodup
  below : ∀ execution ∈ start.observed invoked? moves, execution.task < h.nextTask
  busy : ∀ execution ∈ start.observed invoked? moves, ∀ task ∈ h.tasks,
    task.id = execution.task → task.execution?.isSome = true

/-- No task that has executed begins to wait again. -/
theorem Spent.fresh (spent : Spent start moves h) (moved : h.step? move = some next)
    (turnover : h.Turnover move next added) {old : Execution}
    (member : old ∈ start.observed invoked? moves) {task : Task} (new : task ∈ added) :
    task.id ≠ old.task := by
  intro same
  rcases turnover.number task new with ⟨touched, waited⟩ | ⟨above, -⟩
  · obtain ⟨before, found⟩ := Option.isSome_iff_exists.mp waited
    have executes := spent.busy old member before (List.mem_of_find?_eq_some found)
      ((id_of_task? found).trans same)
    have taken : move.task?.bind h.task? = some before := by
      rw [touched]
      exact found
    rw [nobody_of_execution turnover moved taken executes] at new
    cases new
  · exact Nat.lt_irrefl _ (Nat.lt_of_lt_of_le (same ▸ spent.below old member) above)

/-- The task of an execution begins to wait for its answer. -/
theorem task_of_invoked? (moved : h.step? move = some next)
    (turnover : h.Turnover move next added) {execution : Execution}
    (given : h.invoked? move = some execution) :
    ∃ task ∈ added, task.id = execution.task ∧ task ∈ next.tasks ∧
      task.execution?.isSome = true := by
  rw [invoked?_eq turnover moved] at given
  obtain ⟨⟨id, activity⟩, new, executes⟩ := Option.bind_eq_some_iff.mp given
  cases activity with
  | executing session context request guard =>
      cases executes
      refine ⟨_, new, rfl, ?_, rfl⟩
      rw [turnover.tasks]
      exact List.mem_append_right _ (Option.mem_toList.mpr new)
  | _ => cases executes

theorem Spent.step (spent : Spent start moves h) (run : start.run? moves = some h)
    (numbered : h.Numbered) (moved : h.step? move = some next) :
    Spent start (moves ++ [move]) next := by
  obtain ⟨added, turnover, -⟩ := sequel_of_step? numbered moved
  have numbered' := step?_numbered numbered moved
  refine ⟨?_, ?_, ?_⟩
  · rw [observed_concat run, List.map_append, List.nodup_append]
    refine ⟨spent.distinct, ?_, ?_⟩
    · cases h.invoked? move <;> simp
    · intro number old number' new same
      obtain ⟨before, member, rfl⟩ := List.mem_map.mp old
      obtain ⟨execution, given, rfl⟩ := List.mem_map.mp new
      obtain ⟨task, new, is, -⟩ := task_of_invoked? moved turnover (Option.mem_toList.mp given)
      exact spent.fresh moved turnover member new (is.trans same.symm)
  · intro execution member
    rw [observed_concat run] at member
    rcases List.mem_append.mp member with old | new
    · exact Nat.lt_of_lt_of_le (spent.below execution old) (step?_persists moved).nextTask
    · obtain ⟨task, -, is, there, -⟩ := task_of_invoked? moved turnover (Option.mem_toList.mp new)
      exact is ▸ numbered'.below task there
  · intro execution member task there is
    rw [observed_concat run] at member
    rcases List.mem_append.mp member with old | new
    · rw [turnover.tasks] at there
      rcases List.mem_append.mp there with before | now
      · exact spent.busy execution old task (mem_apart.mp before).1 is
      · exact absurd is (spent.fresh moved turnover old (Option.mem_toList.mp now))
    · obtain ⟨other, -, is', there', executes⟩ :=
        task_of_invoked? moved turnover (Option.mem_toList.mp new)
      have same : task = other :=
        numbered'.eq_of_task? (numbered'.task?_of_mem there') there (is.trans is'.symm)
      exact same ▸ executes

/-- No task executes twice. -/
theorem spent_of_run? {settings : Settings} {mark : Mark}
    (run : (fresh settings mark).run? moves = some h) :
    Spent (fresh settings mark) moves h := by
  induction moves using List.reverseRecOn generalizing h with
  | nil =>
      cases run
      exact ⟨List.nodup_nil, fun _ member => (nomatch member), fun _ member => (nomatch member)⟩
  | append_singleton moves move ih =>
      obtain ⟨mid, run, moved⟩ := run?_concat.mp run
      exact (ih run).step run (numbered_of_run? run) moved

end Hub

end StationHub

import StationHub.Proofs.Tasks.Outcomes

/-!
Tasks that handle what arrived, from their beginning to their end.

* `Handles`: an operation of such a task lets it wait, or brings it to its end.
* `Handler`: the task handles what arrived; once that is done it does not wait any more.
* `handler_of_beginHandling`, `step?_handler`: it comes with what arrives, and is kept by all moves.
* `Over`, `step?_over`, `Over.finished`: a task that is over does not come back, and has come to
  what it came to.
-/

namespace StationHub

/-- The activity is that of a task that handles what arrived. -/
def Activity.isHandling : Activity → Bool
  | .messageProbing .. | .callWaiting .. | .executing _ _ _ (some _) => true
  | _ => false

namespace Hub

/-- Task number `id` handles what arrived: it begins to wait, or comes to its end. -/
inductive Handles (id : Nat) (h next : Hub) : Prop where
  | waits (activity : Activity) : activity.isHandling = true →
      next.tasks = h.tasks ++ [⟨id, activity⟩] → next.finished = h.finished → Handles id h next
  /-- A later call is executed by a task of its own. -/
  | ends (later : List Task) : (∀ task ∈ later, task.id = h.nextTask) →
      next.tasks = h.tasks ++ later → next.finished = h.finished ++ [(id, .handled)] →
      Handles id h next

variable {id : Nat} {h mid next : Hub} {move : Move}

theorem Handles.after (same : h.SameTasks mid) (finished : mid.finished = h.finished)
    (handles : Handles id mid next) : Handles id h next := by
  cases handles with
  | waits activity handling tasks kept =>
      exact .waits activity handling (same.tasks ▸ tasks) (kept.trans finished)
  | ends later number tasks ended =>
      exact .ends later (same.nextTask ▸ number) (same.tasks ▸ tasks) (finished ▸ ended)

theorem handles_of_ended (same : h.SameTasks next)
    (ended : next.finished = h.finished ++ [(id, .handled)]) : Handles id h next :=
  .ends [] nofun (same.tasks.trans (List.append_nil _).symm) ended

/-! ### Operations -/

theorem handles_execute (h : Hub) (id session : Nat) (request : Request) (guard : Guard) :
    Handles id h (h.execute id session request (some guard)) := by
  unfold execute
  split
  · exact .waits _ rfl rfl rfl
  · exact handles_of_ended ⟨rfl, rfl⟩ rfl

theorem handles_afterExecution (h : Hub) (id session : Nat) (request : Request) (guard : Guard)
    (reply : Reply) : Handles id h (h.afterExecution id session request (some guard) reply) := by
  have answered : Quiet True h _ := quiet_afterExecution h id session request reply
  exact .after (Quiet.sameTasks answered) (Quiet.finished answered)
    (handles_of_ended ⟨rfl, rfl⟩ rfl)

theorem handles_receive (h : Hub) (id session : Nat) (path : String) (message : Message) :
    Handles id h (h.receive id session path message) := by
  cases message with
  | call messageId command payload =>
      change Handles id h (h.receiveCall id session path _)
      unfold receiveCall
      split
      · exact handles_of_ended ⟨rfl, rfl⟩ rfl
      · dsimp only
        split
        · split
          · refine .after ?_ ?_ (handles_execute _ id session _ _)
            · exact ⟨rfl, rfl⟩
            · rfl
          · exact .waits _ rfl rfl rfl
        · exact .ends [⟨h.nextTask, _⟩] (by simp) rfl rfl
  | result messageId payload =>
      exact .after (sameTasks_settle h session messageId _) (finished_settle h session messageId _)
        (handles_of_ended ⟨rfl, rfl⟩ rfl)
  | error messageId fault description details =>
      exact .after (sameTasks_settle h session messageId _) (finished_settle h session messageId _)
        (handles_of_ended ⟨rfl, rfl⟩ rfl)

theorem handles_beginHandling (h : Hub) (session : Nat) (path : String)
    (decoded : Except Message.Malformation Message) :
    Handles h.nextTask h.newTask.1 (h.beginHandling session path decoded).1 := by
  unfold beginHandling
  cases decoded with
  | error malformed => exact handles_of_ended ⟨rfl, rfl⟩ rfl
  | ok message =>
      dsimp only
      split
      · exact handles_of_ended ⟨rfl, rfl⟩ rfl
      · rename_i s _
        split
        · have begun := reseats_beginTakeover h.newTask.1 session s
          split <;> rename_i started <;> rw [started] at begun
          · exact .after begun.sameTasks begun.finished (handles_receive _ _ session path message)
          · exact .after begun.sameTasks begun.finished (.waits _ rfl rfl rfl)
        · exact handles_receive h.newTask.1 _ session path message

theorem handles_resume {task : Task} (handling : task.activity.isHandling = true)
    (ready : h.isReady task = true) : Handles task.id (h.detach task.id) (h.resume task) := by
  obtain ⟨id, activity⟩ := task
  unfold resume
  cases activity with
  | messageProbing session path message rival probe =>
      have decided : ((h.detach id).verdict? rival probe).isSome = true := ready
      obtain ⟨alive, verdict⟩ := Option.isSome_iff_exists.mp decided
      have taken := reseats_concludeTakeover (h.detach id) session rival alive
      dsimp only [resumeProbe]
      rw [verdict]
      exact .after taken.sameTasks taken.finished (handles_receive _ id session path message)
  | callWaiting session request =>
      dsimp only [resumeLock]
      split
      · refine .after ?_ ?_ (handles_execute _ id session request _)
        · exact ⟨rfl, rfl⟩
        · rfl
      · exact .waits _ rfl rfl rfl
  | executing session context request guard => cases ready
  | _ => cases handling

/-! ### Whole tasks -/

/-- Task number `id` handles what arrived, or has done so. -/
structure Handler (h : Hub) (id : Nat) : Prop where
  begun : id < h.nextTask
  handling : ∀ task ∈ h.tasks, task.id = id → task.activity.isHandling = true
  outcome : ∀ outcome, (id, outcome) ∈ h.finished → outcome = .handled
  spent : ∀ outcome, (id, outcome) ∈ h.finished → ∀ task ∈ h.tasks, task.id ≠ id

/-- What a task does that handles what arrived and neither waits nor has come to its end. -/
theorem Handles.handler (handles : Handles id h next) (begun : id < h.nextTask)
    (grows : h.nextTask ≤ next.nextTask) (apart : ∀ task ∈ h.tasks, task.id ≠ id)
    (unfinished : ∀ outcome, (id, outcome) ∉ h.finished) : next.Handler id := by
  cases handles with
  | waits activity handling tasks kept =>
      refine ⟨Nat.lt_of_lt_of_le begun grows, fun task member same => ?_, fun outcome ended => ?_,
        fun outcome ended => ?_⟩
      · rw [tasks] at member
        rcases List.mem_append.mp member with old | new
        · exact absurd same (apart task old)
        · rw [List.mem_singleton.mp new]
          exact handling
      all_goals
        rw [kept] at ended
        exact absurd ended (unfinished outcome)
  | ends later number tasks ended =>
      have gone : ∀ task ∈ next.tasks, task.id ≠ id := by
        intro task member
        rw [tasks] at member
        rcases List.mem_append.mp member with old | new
        · exact apart task old
        · rw [number task new]
          omega
      refine ⟨Nat.lt_of_lt_of_le begun grows, fun task member same => ?_, fun outcome entry => ?_,
        fun _ _ => gone⟩
      · exact absurd same (gone task member)
      · rw [ended] at entry
        rcases List.mem_append.mp entry with old | new
        · exact absurd old (unfinished outcome)
        · exact (Prod.mk.inj (List.mem_singleton.mp new)).2

/-- Nothing that is finished has a number that is still to be given. -/
def Booked (h : Hub) : Prop := ∀ entry ∈ h.finished, entry.1 < h.nextTask

theorem step?_booked (numbered : h.Numbered) (booked : h.Booked)
    (moved : h.step? move = some next) : next.Booked := by
  have grows := (step?_persists moved).nextTask
  intro entry member
  rcases step?_finished moved with same | ⟨id, ⟨ended, kept, only⟩, number⟩
  · rw [same] at member
    exact Nat.lt_of_lt_of_le (booked entry member) grows
  · rw [kept] at member
    rcases List.mem_append.mp member with old | new
    · exact Nat.lt_of_lt_of_le (booked entry old) grows
    · rw [only entry new]
      rcases number with ⟨-, waited⟩ | ⟨-, below⟩
      · obtain ⟨task, found⟩ := Option.isSome_iff_exists.mp waited
        have before := numbered.below task (List.mem_of_find?_eq_some found)
        rw [id_of_task? found] at before
        exact Nat.lt_of_lt_of_le before grows
      · exact below

theorem booked_of_run? {settings : Settings} {mark : Mark} {moves : List Move}
    (run : (fresh settings mark).run? moves = some h) : h.Booked := by
  have start : (fresh settings mark).Booked := fun _ member => nomatch member
  exact (run?_induction (P := fun h => h.Numbered ∧ h.Booked)
    (fun before moved => ⟨step?_numbered before.1 moved, step?_booked before.1 before.2 moved⟩)
    ⟨numbered_fresh settings mark, start⟩ run).2

/-- A task that is not taken up has come to what it came to before the move. -/
theorem finished_of_step? (begun : id < h.nextTask)
    (idle : move.task? = some id → h.task? id = none) (moved : h.step? move = some next)
    {outcome : TaskOutcome} (ended : (id, outcome) ∈ next.finished) :
    (id, outcome) ∈ h.finished := by
  rcases step?_finished moved with same | ⟨number, ⟨added, kept, only⟩, whose⟩
  · exact same ▸ ended
  · rw [kept] at ended
    rcases List.mem_append.mp ended with old | new
    · exact old
    · cases only _ new
      rcases whose with ⟨touched, waited⟩ | ⟨above, -⟩
      · rw [idle touched] at waited
        cases waited
      · omega

/-- A task comes with what arrives, and handles it. -/
theorem handler_of_beginHandling (numbered : h.Numbered) (booked : h.Booked) (session : Nat)
    (path : String) (decoded : Except Message.Malformation Message) :
    (h.beginHandling session path decoded).1.Handler h.nextTask := by
  have handles := handles_beginHandling h session path decoded
  have grows := (engages_beginHandling h session path decoded).nextTask_le
  refine handles.handler (Nat.lt_succ_self _) grows (fun task member => ?_) fun outcome entry => ?_
  · exact Nat.ne_of_lt (numbered.below task member)
  · exact Nat.lt_irrefl _ (booked _ entry)

/-- What a handling task does that goes on. -/
theorem Handler.of_handles (handler : h.Handler id) {task : Task} (found : h.task? id = some task)
    (grows : h.nextTask ≤ next.nextTask) (handles : Handles id (h.detach id) next) :
    next.Handler id := by
  have waited := List.mem_of_find?_eq_some found
  refine handles.handler handler.begun grows (fun other member => ?_) fun outcome ended => ?_
  · exact bne_iff_ne.mp (List.mem_filter.mp member).2
  · exact handler.spent outcome ended task waited (id_of_task? found)

/-- Every move keeps what is known of a task that handles what arrived. -/
theorem step?_handler (numbered : h.Numbered) (handler : h.Handler id)
    (moved : h.step? move = some next) : next.Handler id := by
  have grows := (step?_persists moved).nextTask
  by_cases own : move.task? = some id
  · have handling {task : Task} (found : h.task? id = some task) :=
      handler.handling task (List.mem_of_find?_eq_some found) (id_of_task? found)
    cases move <;> cases own
    case resume.refl =>
      obtain ⟨task, found, ready, rfl⟩ := resumed moved
      have handles := handles_resume (handling found) ready
      rw [id_of_task? found] at handles
      exact handler.of_handles found grows handles
    case directoryAnswers.refl =>
      obtain ⟨link, target, guard, found, -⟩ := resolved moved
      cases handling found
    case executorAnswers.refl =>
      obtain ⟨session, _, request, guard, found, rfl⟩ := executed moved
      cases guard with
      | none => cases handling found
      | some guard =>
          exact handler.of_handles found grows (handles_afterExecution _ id session request guard _)
    case cancel.refl =>
      cases moved
      have tasks := tasks_cancel h id
      have apart : ∀ task ∈ (h.cancel id).tasks, task ∈ h.tasks ∧ task.id ≠ id := by
        intro task member
        rw [tasks] at member
        obtain ⟨waited, other⟩ := List.mem_filter.mp member
        exact ⟨waited, bne_iff_ne.mp other⟩
      refine ⟨Nat.lt_of_lt_of_le handler.begun grows, fun task member same => ?_,
        fun outcome ended => ?_, fun outcome _ task member => (apart task member).2⟩
      · exact absurd same (apart task member).2
      · rw [finished_cancel] at ended
        exact handler.outcome outcome ended
  · -- The move is no step of the task: neither the task nor what it came to changes.
    obtain ⟨added, turnover⟩ := step?_tasks numbered moved
    have begun := handler.begun
    have waited : ∀ task ∈ next.tasks, task.id = id → task ∈ h.tasks := by
      rintro task member rfl
      rw [turnover.tasks] at member
      rcases List.mem_append.mp member with old | new
      · exact (mem_apart.mp old).1
      · rcases turnover.number task (Option.mem_toList.mp new) with ⟨touched, -⟩ | ⟨above, -⟩
        · exact absurd touched own
        · omega
    have ended : ∀ outcome, (id, outcome) ∈ next.finished → (id, outcome) ∈ h.finished :=
      fun _ => finished_of_step? begun (fun touched => absurd touched own) moved
    exact ⟨Nat.lt_of_lt_of_le begun grows,
      fun task member same => handler.handling task (waited task member same) same,
      fun outcome member => handler.outcome outcome (ended outcome member),
      fun outcome member task waits same =>
        handler.spent outcome (ended outcome member) task (waited task waits same) same⟩

/-- Task number `id` was begun and does not wait any more. -/
structure Over (h : Hub) (id : Nat) : Prop where
  begun : id < h.nextTask
  gone : ∀ task ∈ h.tasks, task.id ≠ id

theorem task?_of_gone (gone : ∀ task ∈ h.tasks, task.id ≠ id) : h.task? id = none :=
  List.find?_eq_none.mpr fun task member => by simpa using gone task member

theorem step?_over (numbered : h.Numbered) (past : h.Over id) (moved : h.step? move = some next) :
    next.Over id := by
  obtain ⟨added, turnover⟩ := step?_tasks numbered moved
  refine ⟨Nat.lt_of_lt_of_le past.begun (step?_persists moved).nextTask, fun task member => ?_⟩
  rw [turnover.tasks] at member
  rcases List.mem_append.mp member with old | new
  · exact past.gone task (mem_apart.mp old).1
  · rcases turnover.number task (Option.mem_toList.mp new) with ⟨-, waited⟩ | ⟨above, -⟩
    · obtain ⟨other, found⟩ := Option.isSome_iff_exists.mp waited
      have apart := past.gone other (List.mem_of_find?_eq_some found)
      rwa [id_of_task? found] at apart
    · have := past.begun
      omega

theorem run?_over {last : Hub} {later : List Move} (numbered : h.Numbered) (past : h.Over id)
    (ran : h.run? later = some last) : last.Over id :=
  (run?_induction (P := fun h => h.Numbered ∧ h.Over id)
    (fun before moved => ⟨step?_numbered before.1 moved, step?_over before.1 before.2 moved⟩)
    ⟨numbered, past⟩ ran).2

/-- A task that is over comes to nothing else. -/
theorem Over.finished {last : Hub} {later : List Move} (numbered : h.Numbered) (past : h.Over id)
    (ran : h.run? later = some last) {outcome : TaskOutcome}
    (ended : (id, outcome) ∈ last.finished) : (id, outcome) ∈ h.finished := by
  induction later generalizing h with
  | nil =>
      cases ran
      exact ended
  | cons move rest ih =>
      rw [run?_cons] at ran
      obtain ⟨next, moved, ran⟩ := Option.bind_eq_some_iff.mp ran
      have after := ih (step?_numbered numbered moved) (step?_over numbered past moved) ran
      exact finished_of_step? past.begun (fun _ => task?_of_gone past.gone) moved after

/-- A task that does not wait again when it was taken up is over. -/
theorem over_of_detach (numbered : h.Numbered) {task : Task} (found : h.task? id = some task)
    (tasks : next.tasks = (h.detach id).tasks) (grows : h.nextTask ≤ next.nextTask) :
    next.Over id := by
  have below := numbered.below task (List.mem_of_find?_eq_some found)
  rw [id_of_task? found] at below
  refine ⟨Nat.lt_of_lt_of_le below grows, fun other member => ?_⟩
  rw [tasks] at member
  simpa using (List.mem_filter.mp member).2

end Hub

end StationHub

import StationHub.Proofs.Calls.Isolation
import StationHub.Proofs.Tasks.Handlers
import StationHub.Proofs.Tasks.Sequel

/-!
Where the answer to a call comes from.

* `Recorded.answered_of_outcome?`: a call that has come to an answer was settled with it.
* `arrived_of_waiting`: a message that is delayed has arrived.
* `Arrives`: an answer reaches a session; `arrives_of_answered` has it for every answer that the
  history of the session tells of.
* `told_of_finished`: whoever waits for a call is told what the session has noted.
* `sessions_isolated`: the messages of a session leave all other sessions alone, so that a call is
  answered by nobody but the session that it was sent to.
-/

namespace StationHub

/-- Different answers are different outcomes. -/
theorem Answer.outcome_injective : Function.Injective Answer.outcome := by
  intro answer other same
  cases answer <;> cases other <;> cases same <;> rfl

namespace Session

variable {history : List CallEvent} {s : Session} {id : String} {answer : Answer}

/-- A call that has come to an answer was settled with it. -/
theorem Recorded.answered_of_settled (recorded : Recorded history s)
    (settled : (id, answer.outcome) ∈ s.settled) : .answered id answer ∈ history := by
  induction recorded with
  | start _ noSettled =>
      rw [noSettled] at settled
      cases settled
  | @event history s s' event _ possible same ih =>
      rw [same.settled] at settled
      rw [List.mem_append, List.mem_singleton]
      cases event with
      | issued other command time => exact .inl (ih settled)
      | answered other given =>
          have noted : (id, answer.outcome) ∈ (s.settleOrKeep other given.outcome).settled :=
            settled
          rw [settled_settleOrKeep] at noted
          rcases List.mem_append.mp noted with old | new
          · exact .inl (ih old)
          · split at new
            · obtain ⟨rfl, outcome⟩ := Prod.mk.inj (List.mem_singleton.mp new)
              rw [Answer.outcome_injective outcome]
              exact .inr rfl
            · cases new
      | overdue other time =>
          obtain ⟨p, -, -, rings⟩ := apply_overdue possible
          rw [rings, settled_settleOrKeep] at settled
          rcases List.mem_append.mp settled with old | new
          · exact .inl (ih old)
          · split at new
            · have outcome := (Prod.mk.inj (List.mem_singleton.mp new)).2
              cases answer <;> cases outcome
            · cases new
      | ended =>
          rcases List.mem_append.mp settled with old | new
          · exact .inl (ih old)
          · obtain ⟨p, -, same⟩ := List.mem_map.mp new
            have outcome := (Prod.mk.inj same).2
            cases answer <;> cases outcome

theorem Recorded.answered_of_outcome? (recorded : Recorded history s)
    (noted : s.outcome? id = some answer.outcome) : .answered id answer ∈ history := by
  rw [outcome?, lookup_eq_find?] at noted
  obtain ⟨⟨other, outcome⟩, found, rfl⟩ := Option.map_eq_some_iff.mp noted
  have same : other = id := by simpa using List.find?_some found
  exact recorded.answered_of_settled (same ▸ List.mem_of_find?_eq_some found)

end Session

namespace Hub

variable {settings : Settings} {mark : Mark} {h mid next last : Hub} {move : Move}
  {moves later : List Move} {i : Nat} {id : String} {answer : Answer}

/-! ### Arrival -/

/-- An answer with the identifier of a call reaches session number `i`: it is a message that arrives
on its connection, or is given to the session by somebody who knows it. -/
inductive Arrives (moves : List Move) (i : Nat) (id : String) (answer : Answer) : Prop where
  | message {path : String} {message : Message} : message.answer? = some (id, answer) →
      .handling i path (.ok message) ∈ moves → Arrives moves i id answer
  | given : .settling i id answer ∈ moves → Arrives moves i id answer

theorem Arrives.mono (arrives : Arrives moves i id answer) (subset : moves ⊆ later) :
    Arrives later i id answer := by
  cases arrives with
  | message names member => exact .message names (subset member)
  | given member => exact .given (subset member)

/-- A message that is delayed has arrived. -/
theorem arrived_of_waiting (run : (fresh settings mark).run? moves = some last) {task rival : Nat}
    {path : String} {message : Message} {probe : Link.Probe}
    (waits : (⟨task, .messageProbing i path message rival probe⟩ : Task) ∈ last.tasks) :
    .handling i path (.ok message) ∈ moves := by
  induction moves using List.reverseRecOn generalizing last with
  | nil =>
      cases run
      cases waits
  | append_singleton moves move ih =>
      obtain ⟨mid, run, moved⟩ := run?_concat.mp run
      obtain ⟨added, turnover, sequel⟩ := sequel_of_step? (numbered_of_run? run) moved
      rw [turnover.tasks] at waits
      rcases List.mem_append.mp waits with old | new
      · exact List.mem_append_left _ (ih run (mem_apart.mp old).1)
      · obtain rfl := Option.mem_toList.mp new
        refine List.mem_append_right _ (List.mem_singleton.mpr ?_)
        -- Only a message that arrives begins to wait for a probe.
        cases sequel with
        | aside _ side => cases side _ rfl
        | @onward old _ _ _ onward =>
            generalize old.activity = activity at onward
            cases onward with
            | again waits => cases waits
        | @asked asking _ _ _ fits =>
            generalize asking.errand = errand at fits
            cases fits
        | delayed is => exact is.symm

/-- An answer that concerns a session is a message of it that is looked at, or is given to it. -/
theorem answered_of_callEvent? (known : h.callEvent? move = some (i, .answered id answer)) :
    move = .settling i id answer ∨ ∃ path message, message.answer? = some (id, answer) ∧
      (move = .handling i path (.ok message) ∨ ∃ task rival probe, move = .resume task ∧
        h.task? task = some ⟨task, .messageProbing i path message rival probe⟩) := by
  have names {session : Nat} {message : Message}
      (answered : answeredBy? session message = some (i, .answered id answer)) :
      session = i ∧ message.answer? = some (id, answer) := by
    obtain ⟨⟨id', answer'⟩, named, same⟩ := Option.map_eq_some_iff.mp answered
    cases same
    exact ⟨rfl, named⟩
  unfold callEvent? at known
  split at known
  · cases (issuedBy?_eq_some known).2.1
  · obtain ⟨slot, -, issued⟩ := Option.bind_eq_some_iff.mp known
    cases (issuedBy?_eq_some issued).2.1
  · cases known
    exact .inl rfl
  · cases known
  · cases known
  · cases known
  · rename_i session path message
    obtain ⟨s, -, rest⟩ := Option.bind_eq_some_iff.mp known
    split at rest
    · cases rest
    · obtain ⟨rfl, named⟩ := names rest
      exact .inr ⟨path, message, named, .inl rfl⟩
  · rename_i task
    split at known
    · rename_i session path message rival probe waits
      obtain ⟨rfl, named⟩ := names known
      obtain ⟨⟨number, activity⟩, found, rfl⟩ := Option.map_eq_some_iff.mp waits
      cases id_of_task? found
      exact .inr ⟨path, message, named, .inr ⟨_, rival, probe, rfl, found⟩⟩
    · cases known
  · cases known

/-- An answer that the history of a session tells of has reached the session. -/
theorem arrives_of_answered (run : (fresh settings mark).run? moves = some last)
    (happened : .answered id answer ∈ (fresh settings mark).callHistory i moves) :
    Arrives moves i id answer := by
  obtain ⟨before, after, split⟩ := List.append_of_mem happened
  obtain ⟨earlier, move, rest, mid, rfl, reached, known, -⟩ := callHistory_split run split
  have here : move ∈ earlier ++ move :: rest := List.mem_append_right _ List.mem_cons_self
  rcases answered_of_callEvent? (eventOf?_eq_some known) with
    rfl | ⟨path, message, named, rfl | ⟨task, rival, probe, rfl, found⟩⟩
  · exact .given here
  · exact .message named here
  · have arrived := arrived_of_waiting reached (List.mem_of_find?_eq_some found)
    exact .message named (List.mem_append_left _ arrived)

/-! ### The caller -/

/-- Whoever waits for a call is taken up once: if an outcome is told at all, the session has noted it
by then. -/
theorem outcome_of_own_step (numbered : h.Numbered) {task : Nat}
    (found : h.task? task = some ⟨task, .calling i id⟩)
    (unfinished : ∀ outcome, (task, outcome) ∉ h.finished) (own : move.task? = some task)
    (moved : h.step? move = some next) (ran : next.run? later = some last) {outcome : CallOutcome}
    (ended : (task, .answered outcome) ∈ last.finished) :
    ∃ s, h.session? i = some s ∧ s.outcome? id = some outcome := by
  have numbered' := step?_numbered numbered moved
  have grows := (step?_persists moved).nextTask
  cases move <;> cases own
  case resume.refl =>
    obtain ⟨waited, found', ready, -⟩ := resumed moved
    rw [found] at found'
    cases found'
    obtain ⟨told, noted⟩ := Option.isSome_iff_exists.mp ready
    obtain ⟨s, here, noted⟩ := Option.bind_eq_some_iff.mp noted
    obtain rfl := Option.some.inj ((resume_calling found here noted).symm.trans moved)
    have past : ((h.detach task).conclude task (.answered told)).Over task :=
      over_of_detach numbered found rfl grows
    rcases List.mem_append.mp (past.finished numbered' ran ended) with old | new
    · exact absurd old (unfinished _)
    · cases List.mem_singleton.mp new
      exact ⟨s, here, noted⟩
  case cancel.refl =>
    cases moved
    have past := over_of_detach numbered found (tasks_cancel h task) grows
    have before := past.finished numbered' ran ended
    rw [finished_cancel] at before
    exact absurd before (unfinished _)
  case directoryAnswers.refl =>
    obtain ⟨_, _, _, found', -⟩ := resolved moved
    rw [found] at found'
    cases found'
  case executorAnswers.refl =>
    obtain ⟨_, _, _, _, found', -⟩ := executed moved
    rw [found] at found'
    cases found'

/-- Whoever waited for a call and was told an outcome was told what the session had noted. -/
theorem told_of_finished (numbered : h.Numbered) {task : Nat}
    (found : h.task? task = some ⟨task, .calling i id⟩)
    (unfinished : ∀ outcome, (task, outcome) ∉ h.finished) (ran : h.run? later = some last)
    {outcome : CallOutcome} (ended : (task, .answered outcome) ∈ last.finished) :
    ∃ earlier rest mid s, later = earlier ++ rest ∧ h.run? earlier = some mid ∧
      mid.session? i = some s ∧ s.outcome? id = some outcome := by
  induction later generalizing h with
  | nil =>
      cases ran
      exact absurd ended (unfinished _)
  | cons move rest ih =>
      rw [run?_cons] at ran
      obtain ⟨next, moved, ran⟩ := Option.bind_eq_some_iff.mp ran
      by_cases own : move.task? = some task
      · obtain ⟨s, here, noted⟩ :=
          outcome_of_own_step numbered found unfinished own moved ran ended
        exact ⟨[], move :: rest, h, s, rfl, rfl, here, noted⟩
      · have waits : h.task? (⟨task, .calling i id⟩ : Task).id = some ⟨task, .calling i id⟩ := found
        have begun := numbered.below _ (List.mem_of_find?_eq_some found)
        have still : ∀ outcome, (task, outcome) ∉ next.finished := by
          intro outcome member
          exact unfinished outcome
            (finished_of_step? begun (fun touched => absurd touched own) moved member)
        obtain ⟨earlier, others, mid, s, rfl, reached, here, noted⟩ :=
          ih (step?_numbered numbered moved) (task?_of_step? numbered moved waits own) still ran
        refine ⟨move :: earlier, others, mid, s, rfl, ?_, here, noted⟩
        rw [run?_cons, moved]
        exact reached

/-- A call that is not sent comes to no answer. -/
theorem unanswered_of_sendCall {command : String} {payload : Json} {failure : Failure}
    (failed : h.sendCall i command payload = (next, .error failure)) (answer : Answer) :
    answer.outcome ≠ .error failure := by
  intro same
  unfold sendCall at failed
  split at failed
  · cases failed
    cases answer <;> cases same
  · split at failed
    · cases failed
      cases answer <;> cases same
    · dsimp only at failed
      split at failed
      · cases failed
        cases answer <;> cases same
      · split at failed
        · cases failed
        · cases failed
          cases answer <;> cases same

/-- Whoever calls a peer by its key is told at once that nothing was sent, or waits for the call of
the session that holds the slot. -/
theorem beginCall_cases (h : Hub) (variant : Variant) (key : Key) (command : String)
    (payload : Json) :
    (∃ failure, (∀ answer : Answer, answer.outcome ≠ .error failure) ∧
      (h.beginCall variant key command payload).1.tasks = h.tasks ∧
      (h.beginCall variant key command payload).1.finished =
        h.finished ++ [(h.nextTask, .answered (.error failure))]) ∨
    ∃ slot, h.registered? variant key = some slot ∧
      (h.beginCall variant key command payload).1.tasks =
        h.tasks ++ [⟨h.nextTask, .calling slot.session (h.messageId h.nextMessage)⟩] ∧
      (h.beginCall variant key command payload).1.finished = h.finished := by
  unfold beginCall
  dsimp only
  cases there : h.newTask.1.registered? variant key with
  | none =>
      refine .inl ⟨.noSession key, fun answer same => ?_, rfl, rfl⟩
      cases answer <;> cases same
  | some slot =>
      dsimp only
      have tasks := (sameTasks_sendCall h.newTask.1 slot.session command payload).tasks
      have finished := finished_sendCall h.newTask.1 slot.session command payload
      rcases sent : h.newTask.1.sendCall slot.session command payload with ⟨next, failure | id⟩
      · rw [sent] at tasks finished
        refine .inl ⟨failure, unanswered_of_sendCall sent, tasks, ?_⟩
        exact congrArg (· ++ _) finished
      · rw [sent] at tasks finished
        have number : id = h.messageId h.nextMessage := by
          rcases @sendCall_cases True h.newTask.1 slot.session command payload with
            ⟨_, _, -, sent'⟩ | ⟨_, _, -, -, -, sent'⟩
          · rw [sent] at sent'
            cases sent'
          · rw [sent] at sent'
            cases sent'
            rfl
        subst number
        exact .inr ⟨slot, there, congrArg (· ++ _) tasks, finished⟩

/-- Who calls a peer by its key and gets an answer has it from the session that holds the slot. -/
theorem arrives_of_called {before : List Move} {variant : Variant} {key : Key} {command : String}
    {payload : Json} (run : (fresh settings mark).run? before = some h)
    (called : h.step? (.calling variant key command payload) = some mid)
    (ran : mid.run? later = some last)
    (told : (h.nextTask, .answered answer.outcome) ∈ last.finished) :
    ∃ slot id, h.registered? variant key = some slot ∧
      mid.task? h.nextTask = some ⟨h.nextTask, .calling slot.session id⟩ ∧
      Arrives (before ++ .calling variant key command payload :: later) slot.session id answer := by
  have numbered := numbered_of_run? run
  have unfinished : ∀ outcome, (h.nextTask, outcome) ∉ h.finished := fun outcome entry =>
    Nat.lt_irrefl _ (booked_of_run? run _ entry)
  have numbered' := step?_numbered numbered called
  cases called
  rcases beginCall_cases h variant key command payload with
    ⟨failure, unanswered, tasks, finished⟩ | ⟨slot, there, tasks, finished⟩
  · have engages : Engages h.nextTask (fun _ => False) h.newTask.1 _ :=
      engages_beginCall h variant key command payload
    have past : (h.beginCall variant key command payload).1.Over h.nextTask := by
      refine ⟨engages.nextTask_le, fun task member => ?_⟩
      rw [tasks] at member
      exact Nat.ne_of_lt (numbered.below task member)
    have entry := past.finished numbered' ran told
    rw [finished] at entry
    rcases List.mem_append.mp entry with old | new
    · exact absurd old (unfinished _)
    · have same : answer.outcome = .error failure := by simpa using new
      exact absurd same (unanswered answer)
  · have waits := numbered'.task?_of_mem
      (tasks.symm ▸ List.mem_append_right _ (List.mem_singleton_self _))
    have still : ∀ outcome,
        (h.nextTask, outcome) ∉ (h.beginCall variant key command payload).1.finished := by
      rw [finished]
      exact unfinished
    obtain ⟨earlier, rest, reached, s, rfl, run', here, noted⟩ :=
      told_of_finished numbered' waits still ran told
    have whole : (fresh settings mark).run?
        (before ++ .calling variant key command payload :: earlier) = some reached := by
      rw [run?_append, run]
      exact run'
    have answered := (recorded_of_fresh whole here).answered_of_outcome? noted
    refine ⟨slot, _, there, waits, (arrives_of_answered whole answered).mono ?_⟩
    rw [← List.cons_append, ← List.append_assoc]
    exact List.subset_append_left _ _

/-! ### Isolation -/

/-- Sessions are isolated from each other. A message leaves everything alone that belongs to another
session, but for the connection that holds the slot of its own one. A call by key that comes to an
answer was sent to the session that holds the slot, and the answer reached that very session under
the identifier that the caller waits for. -/
theorem sessions_isolated (run : (fresh settings mark).run? moves = some h) :
    (∀ move next i, h.step? move = some next → h.handles? move = some i →
      Secluded (fresh settings mark) moves h i move next) ∧
    ∀ variant key command payload mid later last answer,
      h.step? (.calling variant key command payload) = some mid → mid.run? later = some last →
      (h.nextTask, .answered answer.outcome) ∈ last.finished →
      ∃ slot s id, h.registered? variant key = some slot ∧ h.session? slot.session = some s ∧
        s.variant = variant ∧ s.key = key ∧ s.link = slot.link ∧
        mid.task? h.nextTask = some ⟨h.nextTask, .calling slot.session id⟩ ∧
        Arrives (moves ++ .calling variant key command payload :: later) slot.session id
          answer := by
  constructor
  · intro move next i moved about
    exact secluded_of_handles run moved about
  · intro variant key command payload mid later last answer called ran told
    obtain ⟨slot, id, there, waits, arrives⟩ := arrives_of_called run called ran told
    obtain ⟨s, here, sameVariant, sameKey, on⟩ := (sound_of_run? run).slots there
    exact ⟨slot, s, id, there, here, sameVariant, sameKey, on, waits, arrives⟩

/-- A run that connects a device and a management client with the same key, and calls the device. -/
def tenantsRun : List Move :=
  let device : Target := ⟨.device, "/OCPP16/T/K/D1", "T", "K", "D1", "ocpp1.6"⟩
  let client : Target := { device with variant := .management, path := "/MGMT/T/K/D1" }
  let identity : Identity := ⟨⟨"T", "T"⟩, ⟨"D1", none, none, none⟩⟩
  [.accept .device, .opening 0 device, .directoryAnswers 0 (.ok identity),
    .accept .management, .opening 1 client, .directoryAnswers 1 (.ok identity),
    .calling .device ⟨"T", "D1"⟩ "Reset" .null]

/-- The client answers with the identifier of the call. -/
def intrusion : Move := .handling 1 "/MGMT/T/K/D1" (.ok (.result "call-0-hub" (.obj [])))

/-- Both answer a second call, the client before the device, and the caller goes on. -/
def answersRun : List Move := [
  .handling 1 "/MGMT/T/K/D1" (.ok (.result "call-1-hub" (.obj []))),
  .handling 0 "/OCPP16/T/K/D1" (.ok (.result "call-1-hub" .null)), .resume 3]

theorem sessions_isolated_tenantsRun : ∃ h next mid last,
    (fresh {} "hub").run? tenantsRun = some h ∧ h.step? intrusion = some next ∧
    next.session? 0 = h.session? 0 ∧
    h.step? (.calling .device ⟨"T", "D1"⟩ "Reset" .null) = some mid ∧
    mid.run? answersRun = some last ∧
    (3, .answered (Answer.result .null).outcome) ∈ last.finished ∧
    ∃ slot s id, h.registered? .device ⟨"T", "D1"⟩ = some slot ∧
      h.session? slot.session = some s ∧ s.variant = .device ∧ s.key = ⟨"T", "D1"⟩ ∧
      s.link = slot.link ∧ mid.task? 3 = some ⟨3, .calling slot.session id⟩ ∧
      Arrives (tenantsRun ++ .calling .device ⟨"T", "D1"⟩ "Reset" .null :: answersRun) slot.session
        id (.result .null) := by
  obtain ⟨h, next, mid, last, run, moved, about, called, ran, number, told⟩ :
      ∃ h next mid last, (fresh {} "hub").run? tenantsRun = some h ∧
        h.step? intrusion = some next ∧ h.handles? intrusion = some 1 ∧
        h.step? (.calling .device ⟨"T", "D1"⟩ "Reset" .null) = some mid ∧
        mid.run? answersRun = some last ∧ h.nextTask = 3 ∧
        (3, .answered (Answer.result .null).outcome) ∈ last.finished := by
    refine ⟨((fresh {} "hub").run? tenantsRun).get (by decide), _, _, _, rfl, rfl, rfl, rfl, rfl,
      rfl, ?_⟩
    exact List.mem_append_right _ (List.mem_singleton_self _)
  obtain ⟨secluded, answered⟩ := sessions_isolated run
  have left := (secluded _ _ _ moved about).sessions 0 (by decide)
  refine ⟨h, next, mid, last, run, moved, left, called, ran, told, ?_⟩
  rw [← number] at told ⊢
  exact answered _ _ _ _ _ _ _ _ called ran told

end Hub

end StationHub

import StationHub.Proofs.Calls.Correlation
import StationHub.Proofs.Slots.Shutdown
import StationHub.Proofs.Tasks.Waiting

/-!
Answers that arrive before the time of their call is over. A message of a session whose slot is held
by another connection is looked at only when that connection has been probed, and the timer of the
call goes on meanwhile.

* `fate_of_run?`: what has become of a pending call at a later point of a run.
* `answer_heeded_iff`: an answer to a pending call is heeded at once, unless its session has to
  take over its slot with a probe; then it is heeded exactly if the timer of the call does not ring
  before the probe is decided.
-/

namespace StationHub

/-! ### What has become of a call -/

namespace Session

theorem lookup_eq_find? {α : Type} (entries : List (String × α)) (id : String) :
    entries.lookup id = (entries.find? fun entry => entry.1 == id).map Prod.snd := by
  induction entries with
  | nil => rfl
  | cons entry rest ih =>
      rw [List.lookup_cons, List.find?_cons, Bool.beq_comm]
      split
      · rfl
      · exact ih

/-- A call has come to what was decided. -/
theorem Fate.outcome?_eq {s : Session} {p : Pending} {verdict : Option CallOutcome}
    (fate : s.Fate p verdict) : s.outcome? p.id = verdict := by
  rw [outcome?, lookup_eq_find?, ← List.head?_filter, fate.settled]
  cases verdict <;> rfl

end Session

namespace Hub

/-- In a run from the start a session stands where its history brings it. -/
theorem recorded_of_fresh {settings : Settings} {mark : Mark} {moves : List Move} {h : Hub}
    {i : Nat} {s : Session} (run : (fresh settings mark).run? moves = some h)
    (here : h.session? i = some s) :
    Session.Recorded ((fresh settings mark).callHistory i moves) s := by
  have new : ∀ s, (fresh settings mark).session? i = some s →
      s.pending = [] ∧ s.settled = [] := by
    intro s gone
    cases gone
  exact (recorded_of_run? new run).2.1 s here

/-- A call that was pending at a point of a run has come to what the first event has decided that
concerned it since, and is pending as long as there was none. -/
theorem fate_of_run? {settings : Settings} {mark : Mark} {moves later : List Move} {h last : Hub}
    {i : Nat} {s t : Session} {p : Pending} (run : (fresh settings mark).run? moves = some h)
    (here : h.session? i = some s) (member : p ∈ s.pending) (ran : h.run? later = some last)
    (there : last.session? i = some t) :
    t.Fate p ((h.callHistory i later).findSome?
      (CallEvent.verdict? p.id p.command s.callTimeout)) := by
  have whole : (fresh settings mark).run? (moves ++ later) = some last := by
    rw [run?_append, run, Option.bind_some, ran]
  have timeout : t.callTimeout = s.callTimeout := by
    obtain ⟨s', at_last, same⟩ := (run?_persists ran).session here
    rw [there] at at_last
    cases at_last
    exact same.callTimeout
  obtain ⟨earlier, between, time, split, due, undecided⟩ :=
    (recorded_of_fresh run here).issued_of_pending member
  have recorded := recorded_of_fresh whole there
  rw [callHistory_append run, split, List.append_assoc, List.cons_append] at recorded
  have fate := recorded.fate rfl
  rw [timeout, List.findSome?_append, undecided, Option.none_or, ← due] at fate
  exact fate

/-! ### Reading an answer -/

/-- A message of the session is looked at only when the connection in its slot has been probed. -/
def delays (h : Hub) (i : Nat) : Bool :=
  (h.session? i).any h.isDisplaced && !h.newTask.1.takesAtOnce i

/-- The call comes to the answer, and the answer is none that nobody waited for. -/
structure Heeded (h next : Hub) (i : Nat) (id : String) (answer : Answer) : Prop where
  outcome : ((next.session? i).bind fun s => s.outcome? id) = some answer.outcome
  expected : next.counters.unknownResponses = h.counters.unknownResponses

/-- The call has come to something else, and the answer is counted as one that nobody waited for. -/
structure Disregarded (h next : Hub) (i : Nat) (id : String) (outcome : CallOutcome) : Prop where
  outcome : ((next.session? i).bind fun s => s.outcome? id) = some outcome
  unexpected : next.counters.unknownResponses = h.counters.unknownResponses + 1

/-- The sessions and the count of answers that nobody waited for are the same. -/
structure Unread (h next : Hub) : Prop where
  sessions : next.sessions = h.sessions
  unknown : next.counters.unknownResponses = h.counters.unknownResponses

theorem Unread.trans {h mid next : Hub} (first : h.Unread mid) (second : mid.Unread next) :
    h.Unread next :=
  ⟨second.sessions.trans first.sessions, second.unknown.trans first.unknown⟩

theorem Reseats.unread {h next : Hub} (same : h.Reseats next) : h.Unread next :=
  ⟨same.sessions, same.unknown⟩

section

variable {h mid : Hub} {i id : Nat} {s : Session} {p : Pending} {message : Message}
  {answer : Answer} {path : String}

theorem receive_answer (names : message.answer? = some (p.id, answer)) (mid : Hub) (id i : Nat)
    (path : String) :
    mid.receive id i path message = (mid.settle i p.id answer.outcome).1.conclude id .handled := by
  cases message with
  | call => cases names
  | result | error =>
      cases names
      rfl

/-- An answer to a call that is pending is heeded. -/
theorem heeded_receive (same : h.Unread mid) (here : h.session? i = some s) (fate : s.Fate p none)
    (names : message.answer? = some (p.id, answer)) :
    Heeded h (mid.receive id i path message) i p.id answer := by
  have there : mid.session? i = some s := by
    rw [session?, same.sessions]
    exact here
  have waits : s.isPending p.id = true := fate.isPending_eq
  have settled := fate.settleOrKeep p.id answer.outcome
  rw [if_pos rfl, Option.none_or] at settled
  rw [receive_answer names, settle_eq there, if_pos waits]
  refine ⟨?_, same.unknown⟩
  show ((mid.modifySession i _).session? i).bind _ = _
  rw [session?_modifySession, there]
  simpa using settled.outcome?_eq

/-- An answer to a call that has come to something is counted and does nothing else. -/
theorem disregarded_receive (same : h.Unread mid) (here : h.session? i = some s)
    {outcome : CallOutcome} (fate : s.Fate p (some outcome))
    (names : message.answer? = some (p.id, answer)) :
    Disregarded h (mid.receive id i path message) i p.id outcome := by
  have there : mid.session? i = some s := by
    rw [session?, same.sessions]
    exact here
  have gone : s.isPending p.id = false := fate.isPending_eq
  rw [receive_answer names, settle_eq there, gone, if_neg Bool.false_ne_true]
  refine ⟨?_, congrArg (· + 1) same.unknown⟩
  show (mid.session? i).bind _ = _
  rw [there]
  exact fate.outcome?_eq

/-- A message that is not delayed is looked at when it is handled. -/
theorem handled_at_once (here : h.session? i = some s) (prompt : h.delays i = false) (path : String)
    (message : Message) : ∃ mid, h.Unread mid ∧
      (h.beginHandling i path (.ok message)).1 = mid.receive h.nextTask i path message := by
  have at_newTask : h.newTask.1.session? i = some s := here
  have same : h.Unread h.newTask.1 := ⟨rfl, rfl⟩
  unfold beginHandling
  simp only [at_newTask]
  split
  · rename_i displaced
    have displaced' : h.isDisplaced s = true := displaced
    have atOnce : h.newTask.1.takesAtOnce i = true := by
      simpa [delays, here, displaced'] using prompt
    have begun := (reseats_beginTakeover h.newTask.1 i s).unread
    rcases started : h.newTask.1.beginTakeover i s with ⟨next, takeover | ⟨rival, probe⟩⟩
    · rw [started] at begun
      exact ⟨next, same.trans begun, rfl⟩
    · rw [takesAtOnce_of_probing at_newTask started] at atOnce
      cases atOnce
  · exact ⟨_, same, rfl⟩

/-- A message that is delayed waits with the probe that its takeover began. -/
theorem handled_later (numbered : h.Numbered) (here : h.session? i = some s)
    (delayed : h.delays i = true) (path : String) (message : Message) :
    ∃ rival probe, probe.deadline = h.now + h.settings.probeTimeout ∧
      (∃ l, (h.beginHandling i path (.ok message)).1.link? rival = some l) ∧
      (h.beginHandling i path (.ok message)).1.task? h.nextTask =
        some ⟨h.nextTask, .messageProbing i path message rival probe⟩ := by
  have moved : h.step? (.handling i path (.ok message)) =
      some (h.beginHandling i path (.ok message)).1 := rfl
  have at_newTask : h.newTask.1.session? i = some s := here
  simp only [delays, here, Option.any_some, Bool.and_eq_true, Bool.not_eq_true'] at delayed
  obtain ⟨displaced, notAtOnce⟩ := delayed
  rcases started : h.newTask.1.beginTakeover i s with ⟨next, takeover | ⟨rival, probe⟩⟩
  · rw [takesAtOnce_of_done at_newTask started] at notAtOnce
    cases notAtOnce
  · have begun := (examines_of_beginTakeover started).of_newTask.begun
    obtain ⟨l, there, -, -, isProbe⟩ := startProbe_eq_some_iff.mp begun
    obtain ⟨l', still, -⟩ := (step?_persists moved).link there
    refine ⟨rival, probe, congrArg Link.Probe.deadline isProbe, ⟨l', still⟩, ?_⟩
    have waits : (h.beginHandling i path (.ok message)).1 =
        next.suspend h.nextTask (.messageProbing i path message rival probe) := by
      have displaced' : h.newTask.1.isDisplaced s = true := displaced
      unfold beginHandling
      simp only [at_newTask, displaced', if_true]
      rw [started]
      rfl
    have member : (⟨h.nextTask, .messageProbing i path message rival probe⟩ : Task) ∈
        (h.beginHandling i path (.ok message)).1.tasks := by
      rw [waits]
      exact List.mem_append_right _ (List.mem_singleton_self _)
    exact (step?_numbered numbered moved).task?_of_mem member

/-- A message that waits is looked at when the probe is decided, which it is at the latest when the
time of the probe is over. -/
theorem resumes_message {task rival : Nat} {probe : Link.Probe} {l : Link}
    (found : h.task? task = some ⟨task, .messageProbing i path message rival probe⟩)
    (there : h.link? rival = some l) :
    (probe.deadline ≤ h.now → ∃ next, h.step? (.resume task) = some next) ∧
      ∀ next, h.step? (.resume task) = some next → ∃ mid, h.Unread mid ∧
        next = mid.receive task i path message := by
  constructor
  · intro late
    have decided : (h.verdict? rival probe).isSome = true := by
      rw [verdict?, there, Option.bind_some, Link.Probe.verdict?]
      split
      · rfl
      · simp
    refine ⟨h.resume ⟨task, .messageProbing i path message rival probe⟩, ?_⟩
    have ready : h.isReady ⟨task, .messageProbing i path message rival probe⟩ = true := decided
    simp only [step?, found, ready, if_true]
  · intro next moved
    obtain ⟨waited, found', ready, rfl⟩ := resumed moved
    rw [found] at found'
    cases found'
    obtain ⟨alive, verdict⟩ := Option.isSome_iff_exists.mp ready
    have verdict' : (h.detach task).verdict? rival probe = some alive := verdict
    have same : h.Unread (h.detach task) := ⟨rfl, rfl⟩
    refine ⟨_, same.trans (reseats_concludeTakeover (h.detach task) i rival alive).unread, ?_⟩
    simp only [resume, resumeProbe, verdict']

end

/-! ### The timer -/

section

variable {settings : Settings} {mark : Mark} {moves later : List Move} {h last : Hub} {i : Nat}
  {s : Session} {p : Pending}

/-- A timer that rings for a pending call is due. -/
theorem due_of_expire (run : (fresh settings mark).run? moves = some h)
    (here : h.session? i = some s) (member : p ∈ s.pending) (ran : h.run? later = some last)
    (rings : .expire i p.id ∈ later) :
    p.deadline ≤ last.now ∧ ∃ time, .overdue p.id time ∈ h.callHistory i later := by
  obtain ⟨earlier, rest, rfl⟩ := List.append_of_mem rings
  obtain ⟨mid, ran₁, ran₂⟩ := run?_split ran
  rw [run?_cons] at ran₂
  obtain ⟨next, expired, ran₂⟩ := Option.bind_eq_some_iff.mp ran₂
  obtain ⟨t, there, same⟩ := (run?_persists ran₁).session here
  have known : mid.eventOf? i (.expire i p.id) = some (.overdue p.id mid.now) := by
    simp [eventOf?, callEvent?, there]
  refine ⟨?_, mid.now, mem_callHistory ran₁ known⟩
  obtain ⟨t', found, -⟩ := Option.map_eq_some_iff.mp expired
  rw [there, Option.bind_some] at found
  obtain ⟨q, waits, due, -⟩ := Session.apply_overdue (Option.isSome_iff_exists.mpr ⟨t', found⟩)
  have fate := fate_of_run? run here member ran₁ there
  have pending : t.isPending p.id = true := by rw [Session.isPending, waits]; rfl
  rw [fate.isPending_eq, Option.isNone_iff_eq_none] at pending
  rw [pending] at fate
  rw [fate.pending?_eq] at waits
  cases waits
  have later := (run?_persists ran₂).now
  have grows := (step?_persists expired).now
  omega

/-- Where no other answer to a call is read and its session is not ended, only its timer decides
it. -/
theorem timedOut_of_verdict {history : List CallEvent} {timeout : Nat}
    (alone : ∀ event ∈ history, event ≠ .ended ∧ ∀ answer, event ≠ .answered p.id answer)
    {event : CallEvent} (happened : event ∈ history) {outcome : CallOutcome}
    (decides : event.verdict? p.id p.command timeout = some outcome) :
    (∃ time, event = .overdue p.id time) ∧ outcome = .error (.timedOut p.id p.command timeout) := by
  cases event with
  | issued => cases decides
  | answered id answer =>
      simp only [CallEvent.verdict?, Option.ite_none_right_eq_some] at decides
      obtain ⟨rfl, -⟩ := decides
      exact absurd rfl ((alone _ happened).2 answer)
  | overdue id time =>
      simp only [CallEvent.verdict?, Option.ite_none_right_eq_some, Option.some.injEq] at decides
      obtain ⟨rfl, rfl⟩ := decides
      exact ⟨⟨time, rfl⟩, rfl⟩
  | ended => exact absurd rfl (alone _ happened).1

/-- A call whose timer does not ring is not decided. -/
theorem undecided_of_not_expire (ran : h.run? later = some last)
    (alone : ∀ event ∈ h.callHistory i later,
      event ≠ .ended ∧ ∀ answer, event ≠ .answered p.id answer)
    (silent : Move.expire i p.id ∉ later) (timeout : Nat) :
    (h.callHistory i later).findSome? (CallEvent.verdict? p.id p.command timeout) = none := by
  rw [List.findSome?_eq_none_iff]
  intro event happened
  refine Option.eq_none_iff_forall_ne_some.mpr fun outcome decides => silent ?_
  obtain ⟨⟨time, rfl⟩, -⟩ := timedOut_of_verdict alone happened decides
  obtain ⟨before, after, split⟩ := List.append_of_mem happened
  obtain ⟨earlier, move, rest, mid, rfl, -, known, -⟩ := callHistory_split ran split
  obtain ⟨rfl, -⟩ := callEvent?_overdue (eventOf?_eq_some known)
  exact List.mem_append_right _ List.mem_cons_self

/-- A call whose timer rings is overdue. -/
theorem overdue_of_expire {time : Nat}
    (alone : ∀ event ∈ h.callHistory i later,
      event ≠ .ended ∧ ∀ answer, event ≠ .answered p.id answer)
    (rang : .overdue p.id time ∈ h.callHistory i later) (timeout : Nat) :
    (h.callHistory i later).findSome? (CallEvent.verdict? p.id p.command timeout) =
      some (.error (.timedOut p.id p.command timeout)) := by
  cases decided : (h.callHistory i later).findSome?
      (CallEvent.verdict? p.id p.command timeout) with
  | none =>
      have undecided := List.findSome?_eq_none_iff.mp decided _ rang
      simp [CallEvent.verdict?] at undecided
  | some outcome =>
      obtain ⟨event, happened, decides⟩ := List.exists_of_findSome?_eq_some decided
      rw [(timedOut_of_verdict alone happened decides).2]

end

/-! ### Answers that arrive in time -/

section

variable {settings : Settings} {mark : Mark} {moves : List Move} {h next : Hub} {i : Nat}
  {s : Session} {p : Pending} {message : Message} {answer : Answer} {path : String}
  (run : (fresh settings mark).run? moves = some h) (here : h.session? i = some s)
  (member : p ∈ s.pending) (names : message.answer? = some (p.id, answer))
  (passed : h.step? (.handling i path (.ok message)) = some next)
include run here passed

/-- A message that is delayed waits until its probe is decided. -/
theorem delayed_message (delayed : h.delays i = true) {waiting : List Move} {mid : Hub}
    (ran : next.run? waiting = some mid)
    (others : ∀ move ∈ waiting, move.task? ≠ some h.nextTask) :
    (h.now + h.settings.probeTimeout ≤ mid.now →
      ∃ last, mid.step? (.resume h.nextTask) = some last) ∧
    ∀ last, mid.step? (.resume h.nextTask) = some last → ∃ mid', mid.Unread mid' ∧
      last = mid'.receive h.nextTask i path message := by
  obtain ⟨rival, probe, deadline, ⟨l, at_rival⟩, found⟩ :=
    handled_later (numbered_of_run? run) here delayed path message
  have same : next = (h.beginHandling i path (.ok message)).1 := (Option.some.inj passed).symm
  rw [← same] at at_rival found
  have run' : (fresh settings mark).run? (moves ++ [.handling i path (.ok message)]) =
      some next := run?_concat.mpr ⟨h, run, passed⟩
  have waits : mid.task? (Task.mk h.nextTask (.messageProbing i path message rival probe)).id =
      some _ := task?_of_run? (numbered_of_run? run') ran found others
  obtain ⟨l', there, -⟩ := (run?_persists ran).link at_rival
  obtain ⟨progress, read⟩ := resumes_message waits there
  exact ⟨fun late => progress (deadline ▸ late), read⟩

include member

/-- While a message is delayed, what becomes of a call does not depend on it. -/
theorem fate_of_delayed (delayed : h.delays i = true) {waiting : List Move} {mid : Hub}
    (ran : next.run? waiting = some mid) :
    ∃ t, mid.session? i = some t ∧ t.Fate p ((next.callHistory i waiting).findSome?
      (CallEvent.verdict? p.id p.command s.callTimeout)) ∧
      (Move.expire i p.id ∈ waiting → p.deadline ≤ mid.now ∧
        ∃ time, .overdue p.id time ∈ next.callHistory i waiting) := by
  have run' : (fresh settings mark).run? (moves ++ [.handling i path (.ok message)]) =
      some next := run?_concat.mpr ⟨h, run, passed⟩
  obtain ⟨s', at_next, calls⟩ := step?_calls passed here
  have silent : h.eventOf? i (.handling i path (.ok message)) = none := by
    simp only [delays, here, Option.any_some, Bool.and_eq_true, Bool.not_eq_true'] at delayed
    simp [eventOf?, callEvent?, here, delayed.1, delayed.2]
  rw [silent] at calls
  have member' : p ∈ s'.pending := calls.pending ▸ member
  obtain ⟨t, at_mid, -⟩ := (run?_persists ran).session at_next
  have fate := fate_of_run? run' at_next member' ran at_mid
  rw [calls.callTimeout] at fate
  exact ⟨t, at_mid, fate, due_of_expire run' at_next member' ran⟩

include names

/-- An answer that is delayed is disregarded if the timer of its call rings meanwhile. -/
theorem disregarded_of_expire (delayed : h.delays i = true) {waiting : List Move} {mid last : Hub}
    (ran : next.run? waiting = some mid)
    (others : ∀ move ∈ waiting, move.task? ≠ some h.nextTask)
    (moved : mid.step? (.resume h.nextTask) = some last)
    (alone : ∀ event ∈ next.callHistory i waiting,
      event ≠ .ended ∧ ∀ other, event ≠ .answered p.id other)
    (rings : Move.expire i p.id ∈ waiting) : p.deadline ≤ mid.now ∧
      Disregarded mid last i p.id (.error (.timedOut p.id p.command s.callTimeout)) := by
  obtain ⟨mid', unread, rfl⟩ := (delayed_message run here passed delayed ran others).2 last moved
  obtain ⟨t, at_mid, fate, rung⟩ := fate_of_delayed run here member passed delayed ran
  obtain ⟨due, time, rang⟩ := rung rings
  rw [overdue_of_expire alone rang] at fate
  exact ⟨due, disregarded_receive unread at_mid fate names⟩

/-- An answer that is delayed is heeded if the timer of its call does not ring meanwhile. -/
theorem heeded_of_not_expire (delayed : h.delays i = true) {waiting : List Move} {mid last : Hub}
    (ran : next.run? waiting = some mid)
    (others : ∀ move ∈ waiting, move.task? ≠ some h.nextTask)
    (moved : mid.step? (.resume h.nextTask) = some last)
    (alone : ∀ event ∈ next.callHistory i waiting,
      event ≠ .ended ∧ ∀ other, event ≠ .answered p.id other)
    (silent : Move.expire i p.id ∉ waiting) : Heeded mid last i p.id answer := by
  obtain ⟨mid', unread, rfl⟩ := (delayed_message run here passed delayed ran others).2 last moved
  obtain ⟨t, at_mid, fate, -⟩ := fate_of_delayed run here member passed delayed ran
  rw [undecided_of_not_expire ran alone silent] at fate
  exact heeded_receive unread at_mid fate names

/-- An answer to a pending call of a session is heeded with the move that hands it on, unless it is
delayed until the connection in the slot of the session has been probed. Then it is looked at when
the probe is decided, at the latest when the time of the probe is over. If no other answer to the
call is read until then and the session is not ended, the answer is heeded exactly if the timer of
the call has not rung; if it has, the time of the call was over, the call is timed out, and the
answer is counted as one that nobody waited for. -/
theorem answer_heeded_iff :
    (h.delays i = false → Heeded h next i p.id answer) ∧
    (h.delays i = true → ∀ waiting mid, next.run? waiting = some mid →
      (∀ move ∈ waiting, move.task? ≠ some h.nextTask) →
      (h.now + h.settings.probeTimeout ≤ mid.now →
        ∃ last, mid.step? (.resume h.nextTask) = some last) ∧
      ∀ last, mid.step? (.resume h.nextTask) = some last →
        (∀ event ∈ next.callHistory i waiting,
          event ≠ .ended ∧ ∀ other, event ≠ .answered p.id other) →
        (Heeded mid last i p.id answer ↔ Move.expire i p.id ∉ waiting) ∧
        (Move.expire i p.id ∈ waiting → p.deadline ≤ mid.now ∧
          Disregarded mid last i p.id (.error (.timedOut p.id p.command s.callTimeout)))) := by
  constructor
  · intro prompt
    have still : h.run? [] = some h := rfl
    have fate : s.Fate p none := fate_of_run? run here member still here
    obtain ⟨mid, unread, handled⟩ := handled_at_once here prompt path message
    rw [← Option.some.inj passed, handled]
    exact heeded_receive unread here fate names
  · intro delayed waiting mid ran others
    refine ⟨(delayed_message run here passed delayed ran others).1, fun last moved alone => ?_⟩
    have rung := disregarded_of_expire run here member names passed delayed ran others moved alone
    refine ⟨⟨fun heeded rings => ?_, ?_⟩, rung⟩
    · have counted := (rung rings).2.unexpected
      rw [heeded.expected] at counted
      omega
    · exact heeded_of_not_expire run here member names passed delayed ran others moved alone

end

/-- A run in which the first of two connections of one peer, displaced by the second one, is called
and has time left to answer. -/
def calledRun : List Move := displacedRun ++ [.sending 0 "Reset" .null, .advance 6000]

/-- The answer to the call arrives. -/
def calledAnswer : Move := .handling 0 "/OCPP16/T/K/D1" (.ok (.result "call-0-hub" .null))

/-- What happens while the second connection is probed: the timer of the call rings. -/
def calledWait : List Move := [.advance 4000, .expire 0 "call-0-hub", .advance 1000]

theorem run?_calledRun : ∃ h next mid last s, (fresh {} "hub").run? calledRun = some h ∧
    h.step? calledAnswer = some next ∧ next.run? calledWait = some mid ∧
    mid.step? (.resume 2) = some last ∧ last.isClosed 0 = false ∧ h.session? 0 = some s ∧
    s.pending = [⟨"call-0-hub", "Reset", 15000⟩] ∧ s.callTimeout = 10000 ∧ h.now = 11000 ∧
    h.delays 0 = true ∧ h.nextTask = 2 := by
  have ends : (((fresh {} "hub").run? calledRun).bind fun h =>
      (h.step? calledAnswer).bind fun next => (next.run? calledWait).bind fun mid =>
      (mid.step? (.resume 2)).bind fun last => (h.session? 0).map fun s =>
        (last.isClosed 0, s.pending, s.callTimeout, h.now, h.delays 0, h.nextTask)) =
      some (false, [⟨"call-0-hub", "Reset", 15000⟩], 10000, 11000, true, 2) := by
    decide
  obtain ⟨h, run, ends⟩ := Option.bind_eq_some_iff.mp ends
  obtain ⟨next, passed, ends⟩ := Option.bind_eq_some_iff.mp ends
  obtain ⟨mid, ran, ends⟩ := Option.bind_eq_some_iff.mp ends
  obtain ⟨last, moved, ends⟩ := Option.bind_eq_some_iff.mp ends
  obtain ⟨s, here, ends⟩ := Option.map_eq_some_iff.mp ends
  simp only [Prod.mk.injEq] at ends
  exact ⟨h, next, mid, last, s, run, passed, ran, moved, ends.1, here, ends.2⟩

/-- No other answer is read while the answer waits, and the session is not ended. -/
theorem callHistory_calledWait {next mid : Hub} (ran : next.run? calledWait = some mid) :
    ∀ event ∈ next.callHistory 0 calledWait,
      event ≠ .ended ∧ ∀ other, event ≠ .answered "call-0-hub" other := by
  intro event happened
  obtain ⟨before, after, split⟩ := List.append_of_mem happened
  obtain ⟨earlier, move, rest, mid, same, -, known, -⟩ := callHistory_split ran split
  have known' := eventOf?_eq_some known
  have member : move ∈ calledWait := by
    rw [same]
    exact List.mem_append_right _ List.mem_cons_self
  simp only [calledWait, List.mem_cons, List.not_mem_nil, or_false] at member
  rcases member with rfl | rfl | rfl <;> cases known'
  exact ⟨nofun, nofun⟩

theorem answer_heeded_iff_calledRun : ∃ h next mid last,
    (fresh {} "hub").run? calledRun = some h ∧ h.step? calledAnswer = some next ∧
    next.run? calledWait = some mid ∧ mid.step? (.resume 2) = some last ∧
    (Heeded mid last 0 "call-0-hub" (.result .null) ↔
      Move.expire 0 "call-0-hub" ∉ calledWait) := by
  obtain ⟨h, next, mid, last, s, run, passed, ran, moved, -, here, pending, -, -, delayed,
    number⟩ := run?_calledRun
  have member : (⟨"call-0-hub", "Reset", 15000⟩ : Pending) ∈ s.pending := by
    rw [pending]
    exact List.mem_singleton_self _
  have others : ∀ move ∈ calledWait, move.task? ≠ some h.nextTask := by
    rw [number]
    decide
  rw [← number] at moved
  have late := (answer_heeded_iff run here member rfl passed).2 delayed calledWait mid ran others
  exact ⟨h, next, mid, last, run, passed, ran, number ▸ moved,
    (late.2 last moved (callHistory_calledWait ran)).1⟩

/-- The answer arrives while the call is pending and has time left, on a connection that stays open,
and yet the call is timed out and the answer counted as one that nobody waited for. -/
theorem answer_disregarded : ∃ h next mid last s p,
    (fresh {} "hub").run? calledRun = some h ∧ h.session? 0 = some s ∧ p ∈ s.pending ∧
    h.now < p.deadline ∧ h.step? calledAnswer = some next ∧ next.run? calledWait = some mid ∧
    mid.step? (.resume 2) = some last ∧ last.isClosed 0 = false ∧
    Disregarded mid last 0 p.id (.error (.timedOut p.id p.command 10000)) ∧
    ¬Heeded mid last 0 p.id (.result .null) := by
  obtain ⟨h, next, mid, last, s, run, passed, ran, moved, open_, here, pending, timeout, now,
    delayed, number⟩ := run?_calledRun
  have member : (⟨"call-0-hub", "Reset", 15000⟩ : Pending) ∈ s.pending := by
    rw [pending]
    exact List.mem_singleton_self _
  have others : ∀ move ∈ calledWait, move.task? ≠ some h.nextTask := by
    rw [number]
    decide
  have rings : Move.expire 0 "call-0-hub" ∈ calledWait :=
    List.mem_cons_of_mem _ List.mem_cons_self
  have resumed : mid.step? (.resume h.nextTask) = some last := number ▸ moved
  have names : (Message.result "call-0-hub" .null).answer? =
      some ("call-0-hub", .result .null) := rfl
  obtain ⟨-, late⟩ := disregarded_of_expire run here member names passed delayed ran others resumed
    (callHistory_calledWait ran) rings
  rw [timeout] at late
  refine ⟨h, next, mid, last, s, _, run, here, member, ?_, passed, ran, moved, open_, late, ?_⟩
  · rw [now]
    decide
  · intro heeded
    have counted := late.unexpected
    rw [heeded.expected] at counted
    omega

end Hub

end StationHub

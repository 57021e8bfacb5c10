import Mathlib.Data.List.Induction
import StationHub.Proofs.Calls.Ledger
import StationHub.Proofs.Hub.Course

/-!
Calls and their answers over a run.

* `callHistory`: the events of a run that concern the calls of a session.
* `recorded_of_run?`: the session stands where its history brings it.
* `calls_correlated`: every call issued is completed at most once, by the first event that concerns
  it, and is pending exactly until then; timers ring in time and only for pending calls; answers to
  no pending call are counted and do nothing else; and the accounts of calls are even.
-/

namespace StationHub

/-- The move is the timer of a call. -/
def Hub.Move.isExpiry : Move → Bool
  | .expire .. => true
  | _ => false

namespace Hub

/-- The events of a run that concern the calls of session number `i`, oldest first. -/
def callHistory (h : Hub) (i : Nat) : List Move → List CallEvent
  | [] => []
  | move :: rest =>
      (h.eventOf? i move).toList ++
        match h.step? move with
        | some next => next.callHistory i rest
        | none => []

/-- The clock does not pass the deadline of a pending call of session number `i` before the timer
of the call rings. -/
def Punctual (h : Hub) (i : Nat) (moves : List Move) : Prop :=
  ∀ {earlier later : List Move} {mid : Hub} {s : Session}, moves = earlier ++ later →
    h.run? earlier = some mid → mid.session? i = some s → ∀ p ∈ s.pending, mid.now ≤ p.deadline

/-! ### Events of moves -/

theorem eventOf?_eq_some {h : Hub} {i : Nat} {move : Move} {event : CallEvent}
    (known : h.eventOf? i move = some event) : h.callEvent? move = some (i, event) := by
  unfold eventOf? at known
  obtain ⟨s, -, booked⟩ := Option.bind_eq_some_iff.mp known
  obtain ⟨⟨j, event'⟩, found, about⟩ := Option.bind_eq_some_iff.mp booked
  split at about
  · rename_i same
    cases same
    cases about
    exact found
  · cases about

theorem messageId_eq_of_persists {h next : Hub} (persists : h.Persists next) (n : Nat) :
    next.messageId n = h.messageId n := by
  rw [messageId, messageId, persists.mark]

/-- An identifier that is used up stays so. -/
theorem numbered_of_persists {h next : Hub} (persists : h.Persists next) {id : String}
    (numbered : ∃ n < h.nextMessage, id = h.messageId n) :
    ∃ n < next.nextMessage, id = next.messageId n := by
  obtain ⟨n, below, same⟩ := numbered
  exact ⟨n, Nat.lt_of_lt_of_le below persists.nextMessage,
    same.trans (messageId_eq_of_persists persists n).symm⟩

/-- A call is issued now, under the next number. -/
theorem issuedBy?_eq_some {h : Hub} {i j : Nat} {command : String} {payload : Json}
    {event : CallEvent} (issued : h.issuedBy? i command payload = some (j, event)) :
    j = i ∧ event = .issued (h.messageId h.nextMessage) command h.now ∧
      (h.sendCall i command payload).1.nextMessage = h.nextMessage + 1 := by
  unfold issuedBy? at issued
  rcases @sendCall_cases True h i command payload with
    ⟨next, failure, -, sent⟩ | ⟨s, mid, -, -, numbered, sent⟩
  · rw [sent] at issued
    cases issued
  · rw [sent] at issued ⊢
    cases issued
    exact ⟨rfl, rfl, numbered⟩

/-- What answers a message is not the issue of a call. -/
theorem answeredBy?_eq_some {i j : Nat} {message : Message} {event : CallEvent}
    (answered : answeredBy? i message = some (j, event)) :
    ∃ id answer, event = .answered id answer := by
  unfold answeredBy? at answered
  obtain ⟨known, -, same⟩ := Option.map_eq_some_iff.mp answered
  cases same
  exact ⟨known.1, known.2, rfl⟩

/-- The moves that issue a call, that are the timer of one, and the rest. -/
theorem callEvent?_cases {h : Hub} {move : Move} {i : Nat} {event : CallEvent}
    (known : h.callEvent? move = some (i, event)) :
    (∃ command payload, move = .sending i command payload ∧
      h.issuedBy? i command payload = some (i, event)) ∨
    (∃ variant key command payload, move = .calling variant key command payload ∧
      ∃ slot, h.registered? variant key = some slot ∧
        h.newTask.1.issuedBy? slot.session command payload = some (i, event)) ∨
    (∃ id, move = .expire i id ∧ event = .overdue id h.now) ∨
    (∃ id answer, event = .answered id answer) ∨ event = .ended := by
  unfold callEvent? at known
  split at known
  · rename_i session command payload
    have same := (issuedBy?_eq_some known).1
    subst same
    exact .inl ⟨command, payload, rfl, known⟩
  · rename_i variant key command payload
    obtain ⟨slot, there, issued⟩ := Option.bind_eq_some_iff.mp known
    exact .inr (.inl ⟨variant, key, command, payload, rfl, slot, there, issued⟩)
  · cases known
    exact .inr (.inr (.inr (.inl ⟨_, _, rfl⟩)))
  · cases known
    exact .inr (.inr (.inl ⟨_, rfl, rfl⟩))
  · cases known
    exact .inr (.inr (.inr (.inr rfl)))
  · cases known
    exact .inr (.inr (.inr (.inr rfl)))
  · obtain ⟨s, -, rest⟩ := Option.bind_eq_some_iff.mp known
    split at rest
    · cases rest
    · exact .inr (.inr (.inr (.inl (answeredBy?_eq_some rest))))
  · split at known
    · exact .inr (.inr (.inr (.inl (answeredBy?_eq_some known))))
    · cases known
  · cases known

/-- The identifier of a call that is issued is the next one, and used up. -/
theorem callEvent?_issued {h next : Hub} {move : Move} {i : Nat} {id command : String} {time : Nat}
    (issued : h.callEvent? move = some (i, .issued id command time))
    (moved : h.step? move = some next) :
    id = h.messageId h.nextMessage ∧ time = h.now ∧ h.nextMessage < next.nextMessage := by
  rcases callEvent?_cases issued with ⟨command', payload, rfl, issuedBy⟩ |
    ⟨variant, key, command', payload, rfl, slot, there, issuedBy⟩ | ⟨_, -, other⟩ |
    ⟨_, _, other⟩ | other
  · obtain ⟨-, same, numbered⟩ := issuedBy?_eq_some issuedBy
    cases same
    cases moved
    exact ⟨rfl, rfl, by omega⟩
  · obtain ⟨-, same, numbered⟩ := issuedBy?_eq_some issuedBy
    cases same
    cases moved
    have found : h.newTask.1.registered? variant key = some slot := there
    have used :
        h.nextMessage < (h.newTask.1.sendCall slot.session command payload).1.nextMessage := by
      rw [numbered]
      exact Nat.lt_succ_self _
    refine ⟨rfl, rfl, ?_⟩
    simp only [beginCall, found]
    rcases called : h.newTask.1.sendCall slot.session command payload with ⟨mid, failure | id⟩ <;>
      rw [called] at used <;>
      exact used
  · cases other
  · cases other
  · cases other

/-- The timer that rings is that of the move. -/
theorem callEvent?_overdue {h : Hub} {move : Move} {i : Nat} {id : String} {time : Nat}
    (overdue : h.callEvent? move = some (i, .overdue id time)) :
    move = .expire i id ∧ time = h.now := by
  rcases callEvent?_cases overdue with ⟨_, _, -, issued⟩ | ⟨_, _, _, _, -, _, -, issued⟩ |
    ⟨id', rfl, same⟩ | ⟨_, _, other⟩ | other
  · cases (issuedBy?_eq_some issued).2.1
  · cases (issuedBy?_eq_some issued).2.1
  · cases same
    exact ⟨rfl, rfl⟩
  · cases other
  · cases other

/-! ### Histories -/

theorem callHistory_append {h mid : Hub} {i : Nat} {earlier : List Move}
    (run : h.run? earlier = some mid) (later : List Move) :
    h.callHistory i (earlier ++ later) = h.callHistory i earlier ++ mid.callHistory i later := by
  induction earlier generalizing h with
  | nil =>
      cases run
      rfl
  | cons move rest ih =>
      rw [run?_cons] at run
      obtain ⟨next, moved, run⟩ := Option.bind_eq_some_iff.mp run
      rw [List.cons_append, callHistory, callHistory, moved]
      simp only [ih run, List.append_assoc]

theorem callHistory_concat {h mid : Hub} {i : Nat} {moves : List Move}
    (run : h.run? moves = some mid) (move : Move) :
    h.callHistory i (moves ++ [move]) =
      h.callHistory i moves ++ (mid.eventOf? i move).toList := by
  rw [callHistory_append run, callHistory]
  cases mid.step? move <;> simp [callHistory]

/-- An event of a move is in the history. -/
theorem mem_callHistory {h mid : Hub} {i : Nat} {earlier rest : List Move} {move : Move}
    {event : CallEvent}
    (run : h.run? earlier = some mid) (known : mid.eventOf? i move = some event) :
    event ∈ h.callHistory i (earlier ++ move :: rest) := by
  rw [callHistory_append run, callHistory, known]
  exact List.mem_append_right _ (List.mem_append_left _ (List.mem_singleton_self _))

/-- An event of a history is that of a move of the run. -/
theorem callHistory_split {h last : Hub} {i : Nat} {moves : List Move}
    (run : h.run? moves = some last) {before after : List CallEvent} {event : CallEvent}
    (split : h.callHistory i moves = before ++ event :: after) :
    ∃ earlier move later mid, moves = earlier ++ move :: later ∧ h.run? earlier = some mid ∧
      mid.eventOf? i move = some event ∧ h.callHistory i earlier = before := by
  induction moves generalizing h before with
  | nil => simp [callHistory] at split
  | cons first rest ih =>
      rw [run?_cons] at run
      obtain ⟨next, moved, run⟩ := Option.bind_eq_some_iff.mp run
      rw [callHistory, moved] at split
      -- The event is one of a later move: the first move only adds to what comes before.
      have later : ∀ {rest' : List CallEvent}, before = (h.eventOf? i first).toList ++ rest' →
          next.callHistory i rest = rest' ++ event :: after →
          ∃ earlier move later mid, first :: rest = earlier ++ move :: later ∧
            h.run? earlier = some mid ∧ mid.eventOf? i move = some event ∧
            h.callHistory i earlier = before := by
        intro rest' before_eq split'
        obtain ⟨earlier, move, later, mid, rfl, run', known, history⟩ := ih run split'
        refine ⟨first :: earlier, move, later, mid, rfl, ?_, known, ?_⟩
        · rw [run?_cons, moved]
          exact run'
        · rw [callHistory, moved, before_eq]
          simp only [history]
      cases known : h.eventOf? i first with
      | none =>
          rw [known] at split later
          exact later rfl split
      | some e =>
          rw [known] at split later
          cases before with
          | nil =>
              obtain ⟨rfl, -⟩ := List.cons.inj split
              exact ⟨[], first, rest, h, rfl, rfl, known, rfl⟩
          | cons e' before =>
              obtain ⟨rfl, split'⟩ := List.cons.inj split
              exact later rfl split'

/-! ### Where a session stands -/

/-- The event of a move may happen to its session. -/
theorem possible_of_step? {h next : Hub} {move : Move} {i : Nat} {s : Session} {event : CallEvent}
    {history : List CallEvent} (moved : h.step? move = some next) (here : h.session? i = some s)
    (known : h.callEvent? move = some (i, event))
    (numbered : ∀ id ∈ history.filterMap CallEvent.issued?,
      ∃ n < h.nextMessage, id = h.messageId n) : event.Possible history s := by
  cases event with
  | issued id command time =>
      obtain ⟨rfl, -, -⟩ := callEvent?_issued known moved
      intro again
      obtain ⟨n, below, same⟩ := numbered _ again
      exact absurd (h.mark.distinct same) (by omega)
  | answered id answer => trivial
  | overdue id time =>
      obtain ⟨rfl, rfl⟩ := callEvent?_overdue known
      have expired : h.expire? i id = some next := moved
      obtain ⟨s', found, -⟩ := Option.map_eq_some_iff.mp expired
      rw [here, Option.bind_some] at found
      exact Option.isSome_iff_exists.mpr ⟨s', found⟩
  | ended => trivial

/-- A session stands where its history brings it, and its calls have the identifiers of numbers
that are used up. -/
theorem recorded_of_run? {h last : Hub} {i : Nat} {moves : List Move}
    (new : ∀ s, h.session? i = some s → s.pending = [] ∧ s.settled = [])
    (run : h.run? moves = some last) :
    (last.session? i = none → h.callHistory i moves = []) ∧
    (∀ s, last.session? i = some s → Session.Recorded (h.callHistory i moves) s) ∧
    ∀ id ∈ (h.callHistory i moves).filterMap CallEvent.issued?,
      ∃ n < last.nextMessage, id = last.messageId n := by
  induction moves using List.reverseRecOn generalizing last with
  | nil =>
      cases run
      refine ⟨fun _ => rfl, fun s here => ?_, fun id member => by cases member⟩
      obtain ⟨noPending, noSettled⟩ := new s here
      exact .start noPending noSettled
  | append_singleton moves move ih =>
      obtain ⟨mid, run, moved⟩ := run?_concat.mp run
      obtain ⟨absent, stands, numbered⟩ := ih run
      have persists := step?_persists moved
      have still : ∀ id ∈ (h.callHistory i moves).filterMap CallEvent.issued?,
          ∃ n < last.nextMessage, id = last.messageId n :=
        fun id member => numbered_of_persists persists (numbered id member)
      rw [callHistory_concat run]
      cases here : mid.session? i with
      | none =>
          have nothing : mid.eventOf? i move = none := by rw [eventOf?, here]; rfl
          rw [nothing, Option.toList_none, List.append_nil, absent here]
          refine ⟨fun _ => rfl, fun s there => ?_, fun id member => by cases member⟩
          obtain ⟨noPending, noSettled⟩ := step?_newcomer moved here there
          exact .start noPending noSettled
      | some s =>
          obtain ⟨s', there, same⟩ := step?_calls moved here
          refine ⟨fun gone => ?_, fun t at_last => ?_, ?_⟩
          · rw [gone] at there
            cases there
          · rw [there] at at_last
            cases at_last
            cases known : mid.eventOf? i move with
            | none =>
                rw [known] at same
                rw [Option.toList_none, List.append_nil]
                exact (stands s here).sameCalls same
            | some event =>
                rw [known] at same
                have known' := eventOf?_eq_some known
                exact .event (stands s here) (possible_of_step? moved here known' numbered) same
          · cases known : mid.eventOf? i move with
            | none =>
                rw [Option.toList_none, List.append_nil]
                exact still
            | some event =>
                intro id member
                rw [Option.toList_some, Session.Recorded.issued_concat] at member
                rcases List.mem_append.mp member with old | new
                · exact still id old
                · obtain ⟨command, time, rfl⟩ :=
                    CallEvent.issued?_eq_some (Option.mem_toList.mp new)
                  obtain ⟨rfl, -, grows⟩ := callEvent?_issued (eventOf?_eq_some known) moved
                  exact ⟨mid.nextMessage, grows, (messageId_eq_of_persists persists _).symm⟩

/-! ### Timers -/

section

variable {h last : Hub} {i : Nat} {moves : List Move} {s : Session}

/-- A timer that rings is that of a call issued before and not decided yet, and rings no earlier
than the timeout after the issue; at that very time if the clock is punctual. -/
theorem timer_rings (new : ∀ s, h.session? i = some s → s.pending = [] ∧ s.settled = [])
    (run : h.run? moves = some last) (here : last.session? i = some s)
    {before after : List CallEvent} {id : String} {rang : Nat}
    (split : h.callHistory i moves = before ++ .overdue id rang :: after) :
    ∃ earlier between command time, before = earlier ++ .issued id command time :: between ∧
      between.findSome? (CallEvent.verdict? id command s.callTimeout) = none ∧
      time + s.callTimeout ≤ rang ∧ (h.Punctual i moves → rang = time + s.callTimeout) := by
  obtain ⟨first, move, rest, mid, rfl, run', known, history⟩ := callHistory_split run split
  obtain ⟨mid', run'', run₂⟩ := run?_split run
  rw [run'] at run''
  cases run''
  obtain ⟨next, moved, -⟩ := Option.bind_eq_some_iff.mp run₂
  obtain ⟨absent, stands, numbered⟩ := recorded_of_run? new run'
  obtain ⟨t, at_mid⟩ : ∃ t, mid.session? i = some t := by
    obtain ⟨t, there, -⟩ := Option.bind_eq_some_iff.mp known
    exact ⟨t, there⟩
  have timeout : s.callTimeout = t.callTimeout := by
    obtain ⟨s', there, same⟩ := (run?_persists run₂).session at_mid
    rw [here] at there
    cases there
    exact same.callTimeout
  have recorded := stands t at_mid
  rw [history] at recorded numbered
  have rings := possible_of_step? moved at_mid (eventOf?_eq_some known) numbered
  obtain ⟨rfl, rfl⟩ := callEvent?_overdue (eventOf?_eq_some known)
  obtain ⟨p, found, due, -⟩ := Session.apply_overdue rings
  have member : p ∈ t.pending := List.mem_of_find?_eq_some found
  obtain rfl : p.id = id := by simpa using List.find?_some found
  -- The call was issued, and as it is still pending, nothing has decided it.
  obtain ⟨earlier, between, time, rfl, deadline, undecided⟩ := recorded.issued_of_pending member
  rw [deadline] at due
  refine ⟨earlier, between, p.command, time, rfl, timeout ▸ undecided, timeout ▸ due, ?_⟩
  intro punctual
  rw [timeout, ← deadline]
  exact Nat.le_antisymm (punctual rfl run' at_mid _ member) (deadline ▸ due)

/-- A timer can ring exactly if its call is pending and due. -/
theorem isSome_expire?_iff (distinct : (s.pending.map Pending.id).Nodup)
    (here : last.session? i = some s) {id : String} :
    (last.expire? i id).isSome = true ↔ ∃ p ∈ s.pending, p.id = id ∧ p.deadline ≤ last.now := by
  rw [expire?, Option.isSome_map, here, Option.bind_some]
  constructor
  · intro rings
    obtain ⟨p, found, due, -⟩ := Session.apply_overdue rings
    exact ⟨p, List.mem_of_find?_eq_some found, by simpa using List.find?_some found, due⟩
  · rintro ⟨p, member, rfl, due⟩
    obtain ⟨q, found⟩ : ∃ q, s.pending? p.id = some q := by
      refine Option.isSome_iff_exists.mp ?_
      simpa [Session.pending?] using ⟨p, member, rfl⟩
    have same : q = p := by
      refine List.inj_on_of_nodup_map distinct (List.mem_of_find?_eq_some found) member ?_
      simpa using List.find?_some found
    subst same
    have waits : s.isPending q.id = true := Option.isSome_iff_exists.mpr ⟨q, found⟩
    simp [Session.expire?, found, due, Session.settle?, waits]

/-- Where no timer can ring, nothing that is pending is due. -/
theorem not_due (distinct : (s.pending.map Pending.id).Nodup) (here : last.session? i = some s)
    (idle : ∀ id, last.step? (.expire i id) = none) : ∀ p ∈ s.pending, last.now < p.deadline := by
  intro p member
  refine Nat.lt_of_not_le fun due => ?_
  have rings : (last.step? (.expire i p.id)).isSome = true :=
    (isSome_expire?_iff distinct here).mpr ⟨p, member, rfl, due⟩
  rw [idle] at rings
  cases rings

/-- An answer settles its call exactly if the call is pending; it is counted otherwise, and does
nothing else. -/
theorem settle_eq (here : last.session? i = some s) (id : String) (outcome : CallOutcome) :
    last.settle i id outcome =
      if s.isPending id then (last.modifySession i fun s => s.settleOrKeep id outcome, true)
      else (last.count .unknownResponse, false) := by
  unfold settle
  rw [here, Option.bind_some]
  by_cases waits : s.isPending id = true
  · have settled : s.settle? id outcome = some (s.settleOrKeep id outcome) := by
      simp [Session.settleOrKeep, Session.settle?, waits]
    rw [settled, if_pos waits]
    refine Prod.ext (modifySession_congr fun t at_i => ?_) rfl
    rw [here] at at_i
    cases at_i
    rfl
  · have unknown : s.settle? id outcome = none := if_neg waits
    rw [unknown, if_neg waits]

end

/-! ### Counting -/

/-- The event of a move is that of a timer exactly if the move is. -/
theorem isOverdue_callEvent? (h : Hub) (move : Move) :
    (h.callEvent? move).any (fun booked => booked.2.isOverdue) = move.isExpiry := by
  rw [Bool.eq_iff_iff, Option.any_eq_true]
  constructor
  · rintro ⟨⟨j, event⟩, known, overdue⟩
    cases event with
    | overdue id time =>
        obtain ⟨rfl, -⟩ := callEvent?_overdue known
        rfl
    | _ => cases overdue
  · intro expiry
    cases move with
    | expire session id => exact ⟨_, rfl, rfl⟩
    | _ => cases expiry

/-- A run counts an overdue call for every timer that rings. -/
theorem timedOut_of_run? {h last : Hub} {moves : List Move} (run : h.run? moves = some last) :
    last.counters.timedOut = h.counters.timedOut + moves.countP Move.isExpiry := by
  induction moves generalizing h with
  | nil =>
      cases run
      rfl
  | cons move rest ih =>
      rw [run?_cons] at run
      obtain ⟨next, moved, run⟩ := Option.bind_eq_some_iff.mp run
      rw [ih run, step?_timedOut moved, isOverdue_callEvent?, List.countP_cons]
      omega

/-- What holds of the calls of session number `i` after a run. -/
structure Correlated (h last : Hub) (i : Nat) (moves : List Move) (s : Session) : Prop where
  /-- No identifier is issued twice. -/
  distinct : ((h.callHistory i moves).filterMap CallEvent.issued?).Nodup
  /-- Every call issued is pending or settled, once, and nothing else is. -/
  complete : (s.pending.map Pending.id ++ s.settled.map Prod.fst).Perm
    ((h.callHistory i moves).filterMap CallEvent.issued?)
  /-- A call is pending until the first event that concerns it, and from then on settled, once, with
  what that event decided. -/
  fate : ∀ {earlier later : List CallEvent} {id command : String} {time : Nat},
    h.callHistory i moves = earlier ++ .issued id command time :: later →
    s.Fate ⟨id, command, time + s.callTimeout⟩
      (later.findSome? (CallEvent.verdict? id command s.callTimeout))
  /-- A timer rings for a call that is not decided yet, once its time is over; when it is, if the
  clock is punctual. -/
  timers : ∀ {before after : List CallEvent} {id : String} {rang : Nat},
    h.callHistory i moves = before ++ .overdue id rang :: after →
    ∃ earlier between command time, before = earlier ++ .issued id command time :: between ∧
      between.findSome? (CallEvent.verdict? id command s.callTimeout) = none ∧
      time + s.callTimeout ≤ rang ∧ (h.Punctual i moves → rang = time + s.callTimeout)
  /-- When no timer can ring any more, nothing that is pending is due. -/
  due : (∀ id, last.step? (.expire i id) = none) → ∀ p ∈ s.pending, last.now < p.deadline
  /-- An answer settles its call exactly if the call is pending; it is counted otherwise, and does
  nothing else. -/
  answers : ∀ id outcome, last.settle i id outcome =
    if s.isPending id then (last.modifySession i fun s => s.settleOrKeep id outcome, true)
    else (last.count .unknownResponse, false)
  /-- The calls issued are those pending and those that ended in one of the four ways. -/
  accounts : ((h.callHistory i moves).filterMap CallEvent.issued?).length =
    s.pending.length + s.endings .resolved + s.endings .rejected + s.endings .overdue +
      s.endings .abandoned
  /-- The calls that were overdue are those whose timer rang. -/
  overdue : s.endings .overdue = (h.callHistory i moves).countP CallEvent.isOverdue
  /-- The timers that rang are counted, those of all sessions together. -/
  counted : last.counters.timedOut = h.counters.timedOut + moves.countP Move.isExpiry

/-- The calls of a session that had none before the run are correlated with their answers. -/
theorem calls_correlated {h last : Hub} {i : Nat} {moves : List Move} {s : Session}
    (new : ∀ s, h.session? i = some s → s.pending = [] ∧ s.settled = [])
    (run : h.run? moves = some last) (here : last.session? i = some s) :
    Correlated h last i moves s := by
  have recorded := (recorded_of_run? new run).2.1 s here
  have distinct : (s.pending.map Pending.id).Nodup :=
    List.Nodup.of_append_left (recorded.perm.nodup_iff.mpr recorded.nodup)
  exact {
    distinct := recorded.nodup
    complete := recorded.perm
    fate := recorded.fate
    timers := timer_rings new run here
    due := not_due distinct here
    answers := settle_eq here
    accounts := recorded.accounts
    overdue := recorded.endings_overdue
    counted := timedOut_of_run? run }

/-- A run in which one call is answered and another one is overdue. -/
def callRun : List Move := [
  .accept .device,
  .opening 0 ⟨.device, "/OCPP16/T/K/D", "T", "K", "D", "ocpp1.6"⟩,
  .directoryAnswers 0 (.ok ⟨⟨"T", "T"⟩, ⟨"D", none, none, none⟩⟩),
  .sending 0 "Reset" .null,
  .sending 0 "Reset" .null,
  .settling 0 "call-0-hub" (.result .null),
  .advance 10000,
  .expire 0 "call-1-hub",
  .settling 0 "call-1-hub" (.result .null)]

theorem calls_correlated_callRun : ∃ last s, (fresh {}).run? callRun = some last ∧
    last.session? 0 = some s ∧ Correlated (fresh {}) last 0 callRun s ∧
    s.settled.map (fun entry => (entry.1, Ending.of? entry.2)) =
      [("call-0-hub", some .resolved), ("call-1-hub", some .overdue)] := by
  have ends : (((fresh {}).run? callRun).bind fun last => last.session? 0).map
      (fun s => s.settled.map fun entry => (entry.1, Ending.of? entry.2)) =
      some [("call-0-hub", some .resolved), ("call-1-hub", some .overdue)] := by
    decide
  obtain ⟨s, found, settled⟩ := Option.map_eq_some_iff.mp ends
  obtain ⟨last, run, here⟩ := Option.bind_eq_some_iff.mp found
  exact ⟨last, s, run, here, calls_correlated (fun s gone => nomatch gone) run here, settled⟩

end Hub

end StationHub

import StationHub.Proofs.Calls.Correlation
import StationHub.Proofs.Calls.Sending
import StationHub.Proofs.Hub.History
import StationHub.Proofs.Openings.Sound

/-!
The calls that are sent along a run: as a whole or not at all, and never more at once than may be.

* `capped_of_run?`: no more calls of a session are pending than may be.
* `OwnCall`, `ownCall?`: the calls that were given an identifier, whether they were queued or not.
* `ids_of_run?`: no identifier is given twice.
* `calls_all_or_nothing`: at every point of every run a call is sent or leaves nothing behind, and
  what is pending was queued once.
-/

namespace StationHub.Hub

variable {h mid next last : Hub} {move : Move} {moves : List Move} {i : Nat} {s : Session}
  {command : String} {payload : Json}

/-! ### The calls of a run -/

/-- A call that was given an identifier, and whether it was queued. -/
structure OwnCall where
  session : Nat
  id : String
  command : String
  payload : Json
  queued : Bool

/-- The call that somebody sends over session number `i`, unless its connection is gone or
closed. -/
def ownCallBy? (h : Hub) (i : Nat) (command : String) (payload : Json) : Option OwnCall :=
  (h.session? i).bind fun s =>
    if h.isOpen s then
      some ⟨i, h.messageId h.nextMessage, command, payload,
        (h.sendCall i command payload).2.isOk⟩
    else none

/-- The call that the move is. -/
def ownCall? (h : Hub) : Move → Option OwnCall
  | .sending session command payload => h.ownCallBy? session command payload
  | .calling variant key command payload =>
      (h.registered? variant key).bind fun slot =>
        h.newTask.1.ownCallBy? slot.session command payload
  | _ => none

/-- A call with an identifier is queued and pending, or leaves nothing but the identifier, which is
used up. -/
theorem sendCall_of_ownCallBy? {call : OwnCall}
    (known : h.ownCallBy? i command payload = some call) :
    ∃ s, h.session? i = some s ∧
      call = ⟨i, h.messageId h.nextMessage, command, payload, call.queued⟩ ∧
      (h.sendCall i command payload).1 =
        if call.queued then h.withCall i s command payload
        else { h with nextMessage := h.nextMessage + 1 } := by
  obtain ⟨s, here, opened⟩ := Option.bind_eq_some_iff.mp known
  split at opened
  · rename_i open_
    cases opened
    refine ⟨s, here, rfl, ?_⟩
    obtain ⟨l, at_s, open_⟩ := isOpen_iff.mp open_
    have sends := sends_sendCall here command payload
    dsimp only
    generalize h.sendCall i command payload = outcome at sends
    cases sends with
    | closed closed =>
        rw [closed l at_s] at open_
        cases open_
    | tooMany | dropped | queued => rfl
  · cases opened

/-- A call to whom a key is bound is one over the session in its slot; only the task is new. -/
theorem parts_beginCall {variant : Variant} {key : Key} {slot : Slot Nat Nat}
    (found : h.registered? variant key = some slot) (command : String) (payload : Json) :
    (h.beginCall variant key command payload).1.nextMessage =
        (h.newTask.1.sendCall slot.session command payload).1.nextMessage ∧
      (h.beginCall variant key command payload).1.sessions =
        (h.newTask.1.sendCall slot.session command payload).1.sessions ∧
      (h.beginCall variant key command payload).1.connections =
        (h.newTask.1.sendCall slot.session command payload).1.connections := by
  have there : h.newTask.1.registered? variant key = some slot := found
  simp only [beginCall, there]
  split <;> rename_i called <;> rw [called] <;> exact ⟨rfl, rfl, rfl⟩

/-- What a call does to the sessions and to the connections: it is added to both, or to neither. -/
theorem step?_of_ownCall? {call : OwnCall} (known : h.ownCall? move = some call)
    (moved : h.step? move = some next) :
    ∃ s, h.session? call.session = some s ∧ call.id = h.messageId h.nextMessage ∧
      next.nextMessage = h.nextMessage + 1 ∧
      next.sessions = (if call.queued then
        (h.withCall call.session s call.command call.payload).sessions else h.sessions) ∧
      next.connections = (if call.queued then
        (h.withCall call.session s call.command call.payload).connections else h.connections) := by
  cases move with
  | sending session command payload =>
      obtain ⟨s, here, same, sent⟩ := sendCall_of_ownCallBy? known
      cases moved
      rw [sent, same]
      refine ⟨s, here, rfl, ?_, ?_, ?_⟩ <;> dsimp only <;> split <;> rfl
  | calling variant key command payload =>
      obtain ⟨slot, found, known⟩ := Option.bind_eq_some_iff.mp known
      obtain ⟨s, here, same, sent⟩ := sendCall_of_ownCallBy? known
      cases moved
      obtain ⟨nextMessage, sessions, connections⟩ := parts_beginCall found command payload
      rw [nextMessage, sessions, connections, sent, same]
      refine ⟨s, here, rfl, ?_, ?_, ?_⟩ <;> dsimp only <;> split <;> rfl
  | _ => cases known

/-- A call that is issued is one that was queued. -/
theorem ownCallBy?_of_issuedBy? {j : Nat} {id : String} {time : Nat}
    (issued : h.issuedBy? i command payload = some (j, .issued id command time)) :
    h.ownCallBy? i command payload = some ⟨j, id, command, payload, true⟩ := by
  unfold issuedBy? at issued
  split at issued
  · rename_i id' queued
    cases issued
    cases here : h.session? i with
    | none =>
        rw [sendCall, here] at queued
        cases queued
    | some s =>
        obtain ⟨rfl, -, l, at_s, open_, -⟩ := (sendCall_eq_ok_iff here).mp queued
        rw [ownCallBy?, here, Option.bind_some, if_pos (isOpen_iff.mpr ⟨l, at_s, open_⟩), queued]
        rfl
  · cases issued

/-- The move that issues a call is a call that was queued, while fewer are pending than may be. -/
theorem ownCall?_of_issued {id : String} {time : Nat}
    (issued : h.callEvent? move = some (i, .issued id command time)) :
    (∃ payload, h.ownCall? move = some ⟨i, id, command, payload, true⟩) ∧
      ∀ s, h.session? i = some s → s.pending.length < s.maxPending := by
  have short {g : Hub} {j : Nat} {command' : String} {payload : Json}
      (issuedBy : g.issuedBy? j command' payload = some (i, .issued id command time)) :
      ∀ s, g.session? i = some s → s.pending.length < s.maxPending := by
    intro s here
    obtain rfl := (issuedBy?_eq_some issuedBy).1
    unfold issuedBy? at issuedBy
    split at issuedBy
    · rename_i queued
      exact ((sendCall_eq_ok_iff here).mp queued).2.1
    · cases issuedBy
  rcases callEvent?_cases issued with ⟨command', payload, rfl, issuedBy⟩ |
    ⟨variant, key, command', payload, rfl, slot, there, issuedBy⟩ | ⟨_, -, other⟩ |
    ⟨_, _, other⟩ | other
  · cases (issuedBy?_eq_some issuedBy).2.1
    exact ⟨⟨payload, ownCallBy?_of_issuedBy? issuedBy⟩, short issuedBy⟩
  · cases (issuedBy?_eq_some issuedBy).2.1
    refine ⟨⟨payload, ?_⟩, short (g := h.newTask.1) issuedBy⟩
    rw [ownCall?, there]
    exact ownCallBy?_of_issuedBy? issuedBy
  · cases other
  · cases other
  · cases other

/-! ### No more than may be -/

/-- Only the issue of a call makes more calls pending. -/
theorem length_pending_apply {event : CallEvent} (other : event.issued? = none) (s : Session) :
    (event.apply s).pending.length ≤ s.pending.length := by
  have settling : ∀ id outcome, (s.settleOrKeep id outcome).pending.length ≤ s.pending.length := by
    intro id outcome
    rw [Session.pending_settleOrKeep]
    exact List.length_filter_le _ _
  cases event with
  | issued id command time => cases other
  | answered id answer => exact settling id answer.outcome
  | overdue id time =>
      cases rings : (s.expire? id time).isSome with
      | true =>
          obtain ⟨p, -, -, settled⟩ := Session.apply_overdue rings
          rw [settled]
          exact settling id _
      | false =>
          have silent : s.expire? id time = none := by simpa using rings
          simp [CallEvent.apply, silent]
  | ended => exact Nat.zero_le _

/-- No session has more pending calls than it may. -/
def Capped (h : Hub) : Prop :=
  ∀ {i : Nat} {s : Session}, h.session? i = some s → s.pending.length ≤ s.maxPending

theorem capped_of_step? (capped : h.Capped) (moved : h.step? move = some next) : next.Capped := by
  intro i s' there
  cases here : h.session? i with
  | none =>
      rw [(step?_newcomer moved here there).1]
      exact Nat.zero_le _
  | some s =>
      obtain ⟨t, at_next, same⟩ := step?_calls moved here
      obtain rfl : t = s' := Option.some.inj (at_next.symm.trans there)
      rw [same.pending, same.maxPending]
      cases known : h.eventOf? i move with
      | none => exact capped here
      | some event =>
          rw [Option.elim_some, (event.samePeer_apply s).maxPending]
          cases issued : event.issued? with
          | none => exact Nat.le_trans (length_pending_apply issued s) (capped here)
          | some id =>
              obtain ⟨command, time, rfl⟩ := CallEvent.issued?_eq_some issued
              have short := (ownCall?_of_issued (eventOf?_eq_some known)).2 s here
              simpa [CallEvent.apply, Session.issue, Nat.succ_le_iff] using short

/-- **No more calls of a session are pending than may be**, at any point of any run. -/
theorem capped_of_run? (capped : h.Capped) (run : h.run? moves = some last) : last.Capped :=
  run?_induction (P := Capped) capped_of_step? capped run

/-! ### Identifiers -/

/-- The identifiers of the calls of a run are used up, and no two are the same. -/
theorem ids_of_run? (run : h.run? moves = some last) :
    ((h.observed ownCall? moves).map OwnCall.id).Nodup ∧
      ∀ call ∈ h.observed ownCall? moves, ∃ n < last.nextMessage, call.id = last.messageId n := by
  induction moves using List.reverseRecOn generalizing last with
  | nil => exact ⟨.nil, fun _ member => nomatch member⟩
  | append_singleton moves move ih =>
      obtain ⟨mid, run, moved⟩ := run?_concat.mp run
      obtain ⟨distinct, numbered⟩ := ih run
      have persists := step?_persists moved
      have still : ∀ call ∈ h.observed ownCall? moves,
          ∃ n < last.nextMessage, call.id = last.messageId n :=
        fun call member => numbered_of_persists persists (numbered call member)
      rw [observed_concat run]
      cases known : mid.ownCall? move with
      | none =>
          rw [Option.toList_none, List.append_nil]
          exact ⟨distinct, still⟩
      | some call =>
          obtain ⟨s, -, named, numbers, -⟩ := step?_of_ownCall? known moved
          rw [Option.toList_some, List.map_append]
          constructor
          · refine List.nodup_append.mpr ⟨distinct, List.nodup_singleton _, ?_⟩
            intro id old id' new same
            obtain ⟨call', member, rfl⟩ := List.mem_map.mp old
            obtain ⟨n, below, named'⟩ := numbered call' member
            rw [List.mem_singleton.mp new, named', named] at same
            exact absurd (Mark.distinct _ same) (by omega)
          · intro call' member
            rcases List.mem_append.mp member with old | new
            · exact still call' old
            · rw [List.mem_singleton.mp new]
              exact ⟨mid.nextMessage, by omega,
                named.trans (messageId_eq_of_persists persists _).symm⟩

/-- Where no identifier is given twice, a call is the only one with its own. -/
theorem filter_id_eq {calls : List OwnCall} {call : OwnCall}
    (distinct : (calls.map OwnCall.id).Nodup) (member : call ∈ calls) :
    calls.filter (fun other => other.id == call.id) = [call] := by
  obtain ⟨before, after, rfl⟩ := List.append_of_mem member
  rw [List.map_append, List.map_cons, List.nodup_append] at distinct
  obtain ⟨-, later, apart⟩ := distinct
  have none_before : before.filter (fun other => other.id == call.id) = [] := by
    refine List.filter_eq_nil_iff.mpr fun other there same => ?_
    exact apart _ (List.mem_map_of_mem there) _ List.mem_cons_self (by simpa using same)
  have none_after : after.filter (fun other => other.id == call.id) = [] := by
    refine List.filter_eq_nil_iff.mpr fun other there same => ?_
    have same : other.id = call.id := by simpa using same
    exact (List.nodup_cons.mp later).1 (same ▸ List.mem_map_of_mem there)
  simp [none_before, none_after]

/-- A call that is pending was queued by a move of the run. -/
theorem mem_ownCalls_of_pending
    (new : ∀ s, h.session? i = some s → s.pending = [] ∧ s.settled = [])
    (run : h.run? moves = some last) (here : last.session? i = some s) {p : Pending}
    (member : p ∈ s.pending) :
    ∃ payload, ⟨i, p.id, p.command, payload, true⟩ ∈ h.observed ownCall? moves := by
  have recorded := (recorded_of_run? new run).2.1 s here
  obtain ⟨before, between, time, history, -, -⟩ := recorded.issued_of_pending member
  obtain ⟨earlier, move, later, mid, rfl, run', known, -⟩ := callHistory_split run history
  obtain ⟨payload, is⟩ := (ownCall?_of_issued (eventOf?_eq_some known)).1
  exact ⟨payload, (mem_observed run).mpr ⟨earlier, move, later, mid, rfl, run', is⟩⟩

/-- The next identifier is that of no call so far. -/
theorem unused_of_run? (new : ∀ s, h.session? i = some s → s.pending = [] ∧ s.settled = [])
    (run : h.run? moves = some last) (here : last.session? i = some s) :
    last.messageId last.nextMessage ∉ s.pending.map Pending.id ++ s.settled.map Prod.fst := by
  obtain ⟨-, recorded, numbered⟩ := recorded_of_run? new run
  intro used
  obtain ⟨n, below, same⟩ := numbered _ ((recorded s here).perm.mem_iff.mp used)
  exact absurd (last.mark.distinct same) (by omega)

/-! ### All or nothing -/

/-- What becomes of a call over session number `i`, whose state is `s`: it is sent as a whole, or
for the first reason not to nothing is done. -/
structure AllOrNothing (h : Hub) (i : Nat) (s : Session) (command : String) (payload : Json) :
    Prop where
  /-- The connection is gone or closed. -/
  closed : (h.sendCall i command payload).2 = .error .closed ↔
    h.linkOf? s = none ∨ ∃ l, h.linkOf? s = some l ∧ l.closed = true
  /-- Else as many calls are pending as may be. -/
  tooMany : ∀ {pending most : Nat},
    (h.sendCall i command payload).2 = .error (.tooMany pending most) ↔
      (∃ l, h.linkOf? s = some l ∧ l.closed = false) ∧ s.maxPending ≤ s.pending.length ∧
        pending = s.pending.length ∧ most = s.maxPending
  /-- Else the queue is full, or nobody takes from it. -/
  dropped : (h.sendCall i command payload).2 = .error .dropped ↔
    s.pending.length < s.maxPending ∧ ∃ l, h.linkOf? s = some l ∧ l.closed = false ∧
      (l.capacity ≤ l.queue.length ∨ l.hasReader = false)
  /-- Else the call is sent, under the next identifier. -/
  sent : ∀ {id : String}, (h.sendCall i command payload).2 = .ok id ↔
    id = h.messageId h.nextMessage ∧ s.pending.length < s.maxPending ∧
      ∃ l, h.linkOf? s = some l ∧ l.closed = false ∧
        l.queue.length < l.capacity ∧ l.hasReader = true
  /-- One that is not sent uses up an identifier at most: nothing is pending, queued or timed. -/
  nothing : ∀ {failure : Failure}, (h.sendCall i command payload).2 = .error failure →
    (h.sendCall i command payload).1 =
      { h with nextMessage := (h.sendCall i command payload).1.nextMessage }
  /-- One that is sent is one more that is pending, with its timer, and one more text at the end of
  the queue. -/
  all : ∀ {id : String}, (h.sendCall i command payload).2 = .ok id →
    (h.sendCall i command payload).1 = { h with
      nextMessage := h.nextMessage + 1
      sessions := h.sessions.modify i fun s =>
        { s with pending := s.pending ++ [⟨id, command, h.now + s.callTimeout⟩] }
      connections := h.connections.modify s.link fun c =>
        { c with link := { c.link with
            queue := c.link.queue ++ [.text (Message.call id command payload).encode] } } }

theorem allOrNothing (here : h.session? i = some s) (command : String) (payload : Json) :
    h.AllOrNothing i s command payload where
  closed := by
    rw [sendCall_eq_closed_iff here]
    cases h.linkOf? s <;> simp
  tooMany := sendCall_eq_tooMany_iff here
  dropped := by
    rw [sendCall_eq_dropped_iff here]
    have noRoom (l : Link) : ¬l.HasRoom ↔ l.capacity ≤ l.queue.length ∨ l.hasReader = false := by
      rw [Link.HasRoom, not_and_or, Nat.not_lt, Bool.not_eq_true]
    simp only [noRoom]
  sent := sendCall_eq_ok_iff here
  nothing := sendCall_of_failure here
  all := by
    intro id queued
    obtain ⟨rfl, -⟩ := (sendCall_eq_ok_iff here).mp queued
    exact sendCall_of_ok here queued

/-- What holds of session number `i`, whose state is `s`, between the moves of a run. -/
structure InCheck (h : Hub) (i : Nat) (s : Session) : Prop where
  /-- No more calls are pending than may be. -/
  capped : s.pending.length ≤ s.maxPending
  /-- So a call fails because of others exactly if the table is full, and then names its bound. -/
  full : ∀ {command : String} {payload : Json} {pending most : Nat},
    (h.sendCall i command payload).2 = .error (.tooMany pending most) ↔
      (∃ l, h.linkOf? s = some l ∧ l.closed = false) ∧ s.pending.length = s.maxPending ∧
        pending = s.maxPending ∧ most = s.maxPending
  /-- No two pending calls have one identifier, and the next identifier is that of none. -/
  distinct : (s.pending.map Pending.id).Nodup
  unused : h.messageId h.nextMessage ∉ s.pending.map Pending.id ++ s.settled.map Prod.fst
  /-- It does not matter that a call is pending before the queue is asked. -/
  steps : ∀ (command : String) (payload : Json),
    h.sendCallInSteps i command payload = h.sendCall i command payload
  /-- There are timers for the calls that are pending, and for no others. -/
  timers : ∀ {id : String}, (h.expire? i id).isSome = true ↔
    ∃ p ∈ s.pending, p.id = id ∧ p.deadline ≤ h.now

/-- What holds of the calls of a run. -/
structure SentOnce (h last : Hub) (moves : List Move) : Prop where
  /-- No identifier is given twice. -/
  distinct : ((h.observed ownCall? moves).map OwnCall.id).Nodup
  /-- What is pending was sent once under its identifier, and then queued. -/
  pending : ∀ {i : Nat} {s : Session} {p : Pending}, last.session? i = some s → p ∈ s.pending →
    ∃ payload, (h.observed ownCall? moves).filter (fun call => call.id == p.id) =
      [⟨i, p.id, p.command, payload, true⟩]
  /-- A call that was not queued is pending at no point of the run, and has no timer. -/
  dropped : ∀ {call : OwnCall}, call ∈ h.observed ownCall? moves → call.queued = false →
    ∀ {earlier later : List Move} {mid : Hub} {i : Nat}, moves = earlier ++ later →
      h.run? earlier = some mid → mid.expire? i call.id = none ∧
        ∀ s, mid.session? i = some s → ∀ p ∈ s.pending, p.id ≠ call.id
  /-- To be queued is to be added to the pending calls and to the queue, and not to be queued is to
  be added to neither. -/
  added : ∀ {move : Move} {next : Hub} {call : OwnCall}, last.ownCall? move = some call →
    last.step? move = some next →
    ∃ s, last.session? call.session = some s ∧ call.id = last.messageId last.nextMessage ∧
      next.nextMessage = last.nextMessage + 1 ∧
      next.sessions = (if call.queued then
        (last.withCall call.session s call.command call.payload).sessions else last.sessions) ∧
      next.connections = (if call.queued then
        (last.withCall call.session s call.command call.payload).connections
        else last.connections)

theorem inCheck_of_run? (new : ∀ {i s}, h.session? i = some s → s.pending = [] ∧ s.settled = [])
    (run : h.run? moves = some last) (here : last.session? i = some s) : last.InCheck i s := by
  have capped : s.pending.length ≤ s.maxPending := by
    refine capped_of_run? (fun at_start => ?_) run here
    rw [(new at_start).1]
    exact Nat.zero_le _
  have recorded := (recorded_of_run? (fun _ => new) run).2.1 s here
  have distinct : (s.pending.map Pending.id).Nodup :=
    List.Nodup.of_append_left (recorded.perm.nodup_iff.mpr recorded.nodup)
  have unused := unused_of_run? (fun _ => new) run here
  exact {
    capped
    full := by
      intro command payload pending most
      rw [sendCall_eq_tooMany_iff here]
      constructor
      · rintro ⟨open_, full, rfl, rfl⟩
        have same := Nat.le_antisymm capped full
        exact ⟨open_, same, same, rfl⟩
      · rintro ⟨open_, same, rfl, rfl⟩
        exact ⟨open_, Nat.le_of_eq same.symm, same.symm, rfl⟩
    distinct
    unused
    steps := sendCallInSteps_eq here fun p member same =>
      unused (List.mem_append_left _ (same ▸ List.mem_map_of_mem member))
    timers := isSome_expire?_iff distinct here }

theorem sentOnce_of_run? (new : ∀ {i s}, h.session? i = some s → s.pending = [] ∧ s.settled = [])
    (run : h.run? moves = some last) : SentOnce h last moves := by
  have distinct := (ids_of_run? run).1
  refine ⟨distinct, fun here member => ?_, ?_, step?_of_ownCall?⟩
  · obtain ⟨payload, sent⟩ := mem_ownCalls_of_pending (fun _ => new) run here member
    exact ⟨payload, filter_id_eq distinct sent⟩
  · intro call sent refused earlier later mid i split run'
    have never : ∀ s, mid.session? i = some s → ∀ p ∈ s.pending, p.id ≠ call.id := by
      intro s here p member same
      obtain ⟨payload, queued⟩ := mem_ownCalls_of_pending (fun _ => new) run' here member
      have sent' : ⟨i, p.id, p.command, payload, true⟩ ∈ h.observed ownCall? moves := by
        rw [split, observed_append run']
        exact List.mem_append_left _ queued
      have one := List.inj_on_of_nodup_map distinct sent sent' same.symm
      rw [one] at refused
      cases refused
    refine ⟨?_, never⟩
    cases here : mid.session? i with
    | none => rw [expire?, here]; rfl
    | some s =>
        have checked := inCheck_of_run? new run' here
        refine Option.not_isSome_iff_eq_none.mp fun rings => ?_
        obtain ⟨p, member, same, -⟩ := checked.timers.mp rings
        exact never s here p member same

/-- **A call is sent as a whole or not at all**, and no more of them are pending than may be. In
every state of a hub a call is pending and queued, or neither, for one of three reasons in their
order; between the moves of every run the sessions keep to their bounds, and every call that is
pending was queued once. -/
theorem calls_all_or_nothing {settings : Settings} {mark : Mark}
    (run : (fresh settings mark).run? moves = some last) :
    (∀ {h : Hub} {i : Nat} {s : Session}, h.session? i = some s →
        ∀ command payload, h.AllOrNothing i s command payload) ∧
      (∀ {i : Nat} {s : Session}, last.session? i = some s → last.InCheck i s) ∧
      SentOnce (fresh settings mark) last moves := by
  have new : ∀ {i : Nat} {s : Session}, (fresh settings mark).session? i = some s →
      s.pending = [] ∧ s.settled = [] := fun gone => nomatch gone
  exact ⟨allOrNothing, inCheck_of_run? new run, sentOnce_of_run? new run⟩

/-- A hub whose queues take one text and whose sessions may have two pending calls. -/
def tightHub : Hub := fresh { queueCapacity := 1, watermark := 0, maxPending := 2 } "hub"

/-- Four calls, the second one before the writer has taken the first one, and the fourth one while
two are pending. -/
def tightRun : List Move := [
  .accept .device,
  .opening 0 ⟨.device, "/OCPP16/T/K/D", "T", "K", "D", "ocpp1.6"⟩,
  .directoryAnswers 0 (.ok ⟨⟨"T", "T"⟩, ⟨"D", none, none, none⟩⟩),
  .sending 0 "Reset" .null,
  .sending 0 "Reset" .null,
  .takeUp 0,
  .sending 0 "Reset" .null,
  .sending 0 "Reset" .null]

/-- The first and the third call are pending, the second one never was, and the next one fails as
the fourth one did. -/
theorem calls_all_or_nothing_tightRun :
    ∃ last s, tightHub.run? tightRun = some last ∧ last.session? 0 = some s ∧
      s.pending.map Pending.id = ["call-0-hub", "call-2-hub"] ∧
      (tightHub.observed ownCall? tightRun).map (fun call => (call.id, call.queued)) =
        [("call-0-hub", true), ("call-1-hub", false), ("call-2-hub", true),
          ("call-3-hub", false)] ∧
      last.expire? 0 "call-1-hub" = none ∧
      (last.sendCall 0 "Reset" .null).2 = .error (.tooMany 2 2) := by
  have ends : ((tightHub.run? tightRun).bind fun last => (last.session? 0).map fun s =>
      (s.pending.map Pending.id, s.maxPending, (last.linkOf? s).map Link.closed)) =
      some (["call-0-hub", "call-2-hub"], 2, some false) := by
    decide
  obtain ⟨last, run, stands⟩ := Option.bind_eq_some_iff.mp ends
  obtain ⟨s, here, known⟩ := Option.map_eq_some_iff.mp stands
  simp only [Prod.mk.injEq] at known
  obtain ⟨ids, most, link⟩ := known
  obtain ⟨l, at_s, open_⟩ := Option.map_eq_some_iff.mp link
  have two : s.pending.length = 2 := by simpa using congrArg List.length ids
  have calls : (tightHub.observed ownCall? tightRun).map (fun call => (call.id, call.queued)) =
      [("call-0-hub", true), ("call-1-hub", false), ("call-2-hub", true),
        ("call-3-hub", false)] := by
    decide
  obtain ⟨call, sent, refused⟩ : ∃ call ∈ tightHub.observed ownCall? tightRun,
      (call.id, call.queued) = ("call-1-hub", false) := by
    rw [← List.mem_map, calls]
    simp
  obtain ⟨id, queued⟩ := Prod.mk.injEq .. ▸ refused
  obtain ⟨-, inCheck, once⟩ := calls_all_or_nothing run
  have silent := (once.dropped sent queued (i := 0) (List.append_nil _).symm run).1
  rw [id] at silent
  exact ⟨last, s, run, here, ids, calls, silent,
    (inCheck here).full.mpr ⟨⟨l, at_s, open_⟩, two.trans most.symm, most.symm, most.symm⟩⟩

end StationHub.Hub

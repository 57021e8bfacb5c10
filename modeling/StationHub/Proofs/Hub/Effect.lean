import StationHub.Proofs.Hub.Aside

/-!
What a move does to slots and calls.

* `takeoverBegun?`, `takeoverEnded?`: the takeover of a slot that begins or ends with a move.
* `callEvent?`: what the move means for the calls of a session.
* `clears`: the moves that may empty slots.
* `Effect`: changes in passing and, between them, at most one session that comes to hold its slot
  and at most one event that concerns a call.
-/

namespace StationHub

/-- The session for which the activity takes over a slot. -/
def Activity.taking? : Activity → Option Nat
  | .openProbing _ session _ _ _ => some session
  | .messageProbing session _ _ _ _ => some session
  | .takingOver session _ _ => some session
  | _ => none

namespace Hub

/-! ### Takeovers -/

/-- The first steps of a takeover were its last ones. -/
def TakeoverStart.isDone : TakeoverStart → Bool
  | .done _ => true
  | .probing .. => false

/-- The session would come to hold its slot without a probe. -/
def takesAtOnce (h : Hub) (session : Nat) : Bool :=
  (h.session? session).any fun s => (h.beginTakeover session s).2.isDone

/-- The hub with a session of the peer of connection number `link`. -/
def withSession (h : Hub) (link : Nat) (variant : Variant) (identity : Identity) : Hub :=
  { h with sessions := h.sessions ++ [h.newSession link variant identity] }.modifyLink link
    fun l => l.identify identity

/-- The hub in which the peer of the opening `id` is identified, if the opening gets that far. -/
def identified? (h : Hub) (id : Nat) (identity : Identity) : Option Hub :=
  match (h.task? id).map Task.activity with
  | some (.openResolving link _ _) =>
      if h.isClosed link || h.stopping then none
      else (h.link? link).map fun l => (h.detach id).withSession link l.variant identity
  | _ => none

/-- The task and the session whose takeover begins with the move: a message of a displaced session
is handled, the peer of an opening is identified, or somebody asks for the takeover. -/
def takeoverBegun? (h : Hub) : Move → Option (Nat × Nat)
  | .reconciling session =>
      if (h.session? session).isSome then some (h.nextTask, session) else none
  | .handling session _ (.ok _) =>
      if (h.session? session).any h.isDisplaced then some (h.nextTask, session) else none
  | .directoryAnswers id (.ok identity) =>
      (h.identified? id identity).map fun _ => (id, h.sessions.length)
  | _ => none

/-- The task and the session whose takeover ends with the move: it begins with the move and needs
no probe, or its task goes on with the verdict of the probe. -/
def takeoverEnded? (h : Hub) : Move → Option (Nat × Nat)
  | .reconciling session =>
      if h.newTask.1.takesAtOnce session then some (h.nextTask, session) else none
  | .handling session _ (.ok _) =>
      if (h.session? session).any h.isDisplaced && h.newTask.1.takesAtOnce session then
        some (h.nextTask, session)
      else none
  | .directoryAnswers id (.ok identity) =>
      match h.identified? id identity with
      | some next =>
          if next.takesAtOnce h.sessions.length then some (id, h.sessions.length) else none
      | none => none
  | .resume id =>
      ((h.task? id).bind fun task => task.activity.taking?).bind fun session =>
        (h.session? session).map fun _ => (id, session)
  | _ => none

/-- The task and the connection of the opening that the move is a step of. -/
def opens? (h : Hub) : Move → Option (Nat × Nat)
  | .opening link _ => some (h.nextTask, link)
  | .resume id | .directoryAnswers id _ =>
      ((h.task? id).bind fun task => task.activity.opened?).map fun link => (id, link)
  | _ => none

/-- The move may empty slots: it is the end of a connection, a sweep, a drain, or the last step of
an opening in a hub that shuts down. -/
def clears (h : Hub) : Move → Bool
  | .ending .. | .sweeping | .closeAll _ | .shutDown => true
  | .resume id =>
      match (h.task? id).map Task.activity with
      | some (.sweeping ..) => true
      | some (.openProbing ..) => h.stopping
      | _ => false
  | _ => false

/-! ### Calls -/

/-- The call that is issued when somebody calls the peer of a session. -/
def issuedBy? (h : Hub) (session : Nat) (command : String) (payload : Json) :
    Option (Nat × CallEvent) :=
  match (h.sendCall session command payload).2 with
  | .ok id => some (session, .issued id command h.now)
  | .error _ => none

/-- The answer that a message of a session is. -/
def answeredBy? (session : Nat) (message : Message) : Option (Nat × CallEvent) :=
  message.answer?.map fun (id, answer) => (session, .answered id answer)

/-- What the move means for the calls of a session, and of which. A message counts when it is
looked at, which is after the takeover if its session was displaced. -/
def callEvent? (h : Hub) : Move → Option (Nat × CallEvent)
  | .sending session command payload => h.issuedBy? session command payload
  | .calling variant key command payload =>
      (h.registered? variant key).bind fun slot =>
        h.newTask.1.issuedBy? slot.session command payload
  | .settling session id answer => some (session, .answered id answer)
  | .expire session id => some (session, .overdue id h.now)
  | .failing session => some (session, .ended)
  | .ending _ (some session) => some (session, .ended)
  | .handling session _ (.ok message) =>
      (h.session? session).bind fun s =>
        if h.isDisplaced s && !h.newTask.1.takesAtOnce session then none
        else answeredBy? session message
  | .resume id =>
      match (h.task? id).map Task.activity with
      | some (.messageProbing session _ message _ _) => answeredBy? session message
      | _ => none
  | _ => none

/-- A step of an opening concerns no call. -/
theorem callEvent?_of_opens {h : Hub} {move : Move} (opens : (h.opens? move).isSome = true) :
    h.callEvent? move = none := by
  cases move with
  | resume id =>
      cases found : h.task? id with
      | none => simp only [callEvent?, found, Option.map_none]
      | some task =>
          obtain ⟨number, activity⟩ := task
          simp only [opens?, found, Option.bind_some] at opens
          simp only [callEvent?, found, Option.map_some]
          cases activity <;> first | rfl | cases opens
  | opening => rfl
  | directoryAnswers => rfl
  | _ => cases opens

/-- The calls of a session after an event, and the count of calls that were overdue. -/
def book (h : Hub) (session : Nat) (event : CallEvent) : Hub :=
  if event.isOverdue then (h.modifySession session event.apply).count .timedOut
  else h.modifySession session event.apply

/-! ### The shape of a move -/

/-- The session named comes to hold the slot of its key, or is bound to it already. -/
def Seats (h next : Hub) : Option Nat → Prop
  | none => next = h
  | some i => ∃ s, h.session? i = some s ∧ (next = h.register i s ∨
      next = h ∧ (h.roster s.variant).boundLink? s.key = some s.link)

/-- The event named changes the calls of its session. -/
def Books (h next : Hub) : Option (Nat × CallEvent) → Prop
  | none => next = h
  | some (i, event) => next = h.book i event

/-- Changes in passing, and between them at most one session that comes to hold its slot and at
most one event that concerns a call. -/
def Effect (clears opens : Prop) (h next : Hub) (seated : Option Nat)
    (event : Option (Nat × CallEvent)) : Prop :=
  ∃ a b c d, Aside clears opens h a ∧ Seats a b seated ∧ Aside clears opens b c ∧ Books c d event ∧
    Aside clears opens d next

variable {clears opens : Prop}

namespace Effect

theorem of_aside {h next : Hub} (aside : Aside clears opens h next) :
    Effect clears opens h next none none :=
  ⟨next, next, next, next, aside, rfl, .refl, rfl, .refl⟩

theorem of_seats {h next : Hub} {seated : Option Nat} (seats : Seats h next seated) :
    Effect clears opens h next seated none :=
  ⟨h, next, next, next, .refl, seats, .refl, rfl, .refl⟩

theorem of_book (h : Hub) (i : Nat) (event : CallEvent) :
    Effect clears opens h (h.book i event) none (some (i, event)) :=
  ⟨h, h, h, h.book i event, .refl, rfl, .refl, rfl, .refl⟩

theorem after {h mid next : Hub} {seated : Option Nat} {event : Option (Nat × CallEvent)}
    (aside : Aside clears opens h mid) (effect : Effect clears opens mid next seated event) :
    Effect clears opens h next seated event := by
  obtain ⟨a, b, c, d, first, seats, second, books, third⟩ := effect
  exact ⟨a, b, c, d, aside.trans first, seats, second, books, third⟩

theorem before {h mid next : Hub} {seated : Option Nat} {event : Option (Nat × CallEvent)}
    (effect : Effect clears opens h mid seated event) (aside : Aside clears opens mid next) :
    Effect clears opens h next seated event := by
  obtain ⟨a, b, c, d, first, seats, second, books, third⟩ := effect
  exact ⟨a, b, c, d, first, seats, second, books, third.trans aside⟩

theorem mono {clears' : Prop} (allowed : clears → clears') {h next : Hub}
    {seated : Option Nat} {event : Option (Nat × CallEvent)}
    (effect : Effect clears opens h next seated event) :
    Effect clears' opens h next seated event := by
  obtain ⟨a, b, c, d, first, seats, second, books, third⟩ := effect
  exact ⟨a, b, c, d, first.mono allowed, seats, second.mono allowed, books, third.mono allowed⟩

/-- A session comes to hold its slot, and then an event concerns a call. -/
theorem andThen {h mid next : Hub} {seated : Option Nat} {event : Option (Nat × CallEvent)}
    (seat : Effect clears opens h mid seated none)
    (call : Effect clears opens mid next none event) :
    Effect clears opens h next seated event := by
  obtain ⟨a, b, c, d, first, seats, second, rfl, third⟩ := seat
  obtain ⟨a', b', c', d', fourth, rfl, fifth, books, sixth⟩ := call
  exact ⟨a, b, c', d', first, seats,
    ((second.trans third).trans fourth).trans fifth, books, sixth⟩

end Effect

/-! ### Changes of tasks -/

/-- A task waits, which is an opening only if openings may wait. -/
theorem aside_suspend {activity : Activity} (allowed : opens ∨ activity.opened? = none) (h : Hub)
    (id : Nat) : Aside clears opens h (h.suspend id activity) := by
  refine .single (.tasks _ _ _ (Nat.le_refl _) ?_)
  refine allowed.imp_right fun other => ⟨h.tasks, [⟨id, activity⟩], rfl, .refl _, ?_⟩
  intro task member
  rw [List.mem_singleton.mp member]
  exact other

theorem aside_conclude (h : Hub) (id : Nat) (outcome : TaskOutcome) :
    Aside clears opens h (h.conclude id outcome) :=
  .single (.tasks _ _ _ (Nat.le_refl _) (.inr (.refl h.tasks)))

theorem aside_detach (h : Hub) (id : Nat) : Aside clears opens h (h.detach id) :=
  .single (.tasks _ _ _ (Nat.le_refl _) (.inr (.of_sublist List.filter_sublist)))

theorem aside_newTask (h : Hub) : Aside clears opens h h.newTask.1 :=
  .single (.tasks _ _ _ (Nat.le_succ _) (.inr (.refl h.tasks)))

theorem aside_lock (h : Hub) (lock : PathLock) : Aside clears opens h { h with lock } :=
  Quiet.aside (quiet_lock h lock)

/-! ### Calls -/

/-- Two changes that agree on the session there are the same change. -/
theorem modifySession_congr {h : Hub} {i : Nat} {f g : Session → Session}
    (agree : ∀ s, h.session? i = some s → f s = g s) :
    h.modifySession i f = h.modifySession i g := by
  have lists : h.sessions.modify i f = h.sessions.modify i g := by
    apply List.ext_getElem?
    intro j
    rw [List.getElem?_modify, List.getElem?_modify]
    by_cases here : i = j
    · subst here
      cases at_i : h.sessions[i]? with
      | none => rfl
      | some s => simp [agree s at_i]
    · simp [here]
  simp only [modifySession, lists]

theorem modifySession_eq_self {h : Hub} {i : Nat} {change : Session → Session}
    (same : ∀ s, h.session? i = some s → change s = s) : h.modifySession i change = h := by
  rw [modifySession_congr (g := id) same]
  simp [modifySession]

/-- Two changes that agree on the connection there are the same change. -/
theorem modifyLink_congr {h : Hub} {i : Nat} {f g : Link → Link}
    (agree : ∀ l, h.link? i = some l → f l = g l) : h.modifyLink i f = h.modifyLink i g := by
  have lists : h.connections.modify i (fun c => { c with link := f c.link }) =
      h.connections.modify i fun c => { c with link := g c.link } := by
    apply List.ext_getElem?
    intro j
    rw [List.getElem?_modify, List.getElem?_modify]
    by_cases here : i = j
    · subst here
      cases at_i : h.connections[i]? with
      | none => rfl
      | some c =>
          have there : h.link? i = some c.link := congrArg (Option.map Connection.link) at_i
          simp [agree c.link there]
    · simp [here]
  simp only [modifyLink, modifyConnection, lists]

theorem modifyLink_eq_self {h : Hub} {i : Nat} {change : Link → Link} {l : Link}
    (here : h.link? i = some l) (same : change l = l) : h.modifyLink i change = h := by
  have agree : ∀ l', h.link? i = some l' → change l' = id l' := by
    intro l' here'
    rw [here] at here'
    cases here'
    exact same
  rw [modifyLink_congr agree]
  show { h with connections := h.connections.modify i id } = h
  rw [List.modify_id]

theorem settle_effect (h : Hub) (i : Nat) (id : String) (answer : Answer) :
    Effect clears opens h (h.settle i id answer.outcome).1 none
      (some (i, .answered id answer)) := by
  unfold settle
  split
  · rename_i next settled
    obtain ⟨s, here, settled⟩ := Option.bind_eq_some_iff.mp settled
    have same : (h.modifySession i fun _ => next) = h.book i (.answered id answer) := by
      refine modifySession_congr fun s' at_i => ?_
      rw [here] at at_i
      cases at_i
      simp [CallEvent.apply, settled]
    simp only [same]
    exact .of_book h i _
  · rename_i unknown
    have same : (h.count .unknownResponse).book i (.answered id answer) =
        h.count .unknownResponse := by
      refine modifySession_eq_self fun s at_i => ?_
      have none : s.settle? id answer.outcome = none := by
        rw [show h.session? i = some s from at_i] at unknown
        exact unknown
      simp [CallEvent.apply, none]
    have counted : Quiet clears h (h.count .unknownResponse) := quiet_count (by decide) h
    refine Effect.after (Quiet.aside counted) ?_
    have booked : Effect clears opens (h.count .unknownResponse) _ none _ :=
      .of_book (h.count .unknownResponse) i (.answered id answer)
    rw [same] at booked
    exact booked

theorem expire?_eq_book {h next : Hub} {i : Nat} {id : String}
    (expired : h.expire? i id = some next) : next = h.book i (.overdue id h.now) := by
  unfold expire? at expired
  obtain ⟨s', found, rfl⟩ := Option.map_eq_some_iff.mp expired
  obtain ⟨s, here, settled⟩ := Option.bind_eq_some_iff.mp found
  have same : (h.modifySession i fun _ => s') =
      h.modifySession i (CallEvent.apply (.overdue id h.now)) := by
    refine modifySession_congr fun t at_i => ?_
    rw [here] at at_i
    cases at_i
    simp [CallEvent.apply, settled]
  rw [same]
  rfl

theorem failPending_eq_book (h : Hub) (i : Nat) : (h.failPending i).1 = h.book i .ended := by
  unfold failPending
  split
  · rename_i absent
    refine (modifySession_eq_self fun s at_i => ?_).symm
    rw [absent] at at_i
    cases at_i
  · rename_i s here
    refine modifySession_congr fun t at_i => ?_
    rw [here] at at_i
    cases at_i
    rfl

theorem now_sendText (h : Hub) (i : Nat) (text : String) : (h.sendText i text).1.now = h.now := by
  unfold sendText
  split <;> rfl

theorem nextMessage_sendText (h : Hub) (i : Nat) (text : String) :
    (h.sendText i text).1.nextMessage = h.nextMessage := by
  unfold sendText
  split <;> rfl

/-- A call is either not queued, which leaves nothing behind, or issued under the next number. -/
theorem sendCall_cases (h : Hub) (i : Nat) (command : String) (payload : Json) :
    (∃ next failure, Quiet clears h next ∧ h.sendCall i command payload = (next, .error failure)) ∨
    ∃ s mid, h.session? i = some s ∧ Quiet clears h mid ∧ mid.nextMessage = h.nextMessage + 1 ∧
      h.sendCall i command payload =
        (mid.modifySession i fun s => s.issue (h.messageId h.nextMessage) command h.now,
          .ok (h.messageId h.nextMessage)) := by
  unfold sendCall
  split
  · exact .inl ⟨h, _, .refl, rfl⟩
  · rename_i s here
    split
    · exact .inl ⟨h, _, .refl, rfl⟩
    · dsimp only
      split
      · exact .inl ⟨_, _, quiet_nextMessage h, rfl⟩
      · have sent : Quiet clears h _ := (quiet_nextMessage h).trans
          (quiet_sendText _ s.link (Message.call (h.messageId h.nextMessage) command
            payload).encode)
        split
        · refine .inr ⟨s, _, here, sent, nextMessage_sendText _ _ _, ?_⟩
          rw [now_sendText]
        · exact .inl ⟨_, _, sent, rfl⟩

/-- A call that is queued is issued; one that is not leaves nothing behind. -/
theorem sendCall_effect (h : Hub) (i : Nat) (command : String) (payload : Json) :
    Effect clears opens h (h.sendCall i command payload).1 none
      (h.issuedBy? i command payload) := by
  unfold issuedBy?
  rcases @sendCall_cases clears h i command payload with
    ⟨next, failure, quiet, sent⟩ | ⟨s, mid, here, quiet, numbered, sent⟩
  · rw [sent]
    exact .of_aside (Quiet.aside quiet)
  · rw [sent]
    exact .after (Quiet.aside quiet) (.of_book mid i (.issued _ command h.now))

end Hub

end StationHub

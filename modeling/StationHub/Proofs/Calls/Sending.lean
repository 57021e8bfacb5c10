import StationHub.Proofs.Hub.Effect

/-!
Sending a call: it is queued and pending, or neither.

* `Sends`: what becomes of a call that somebody sends, one case for each outcome, each with the hub
  that it leaves.
* `sends_sendCall`: one of them it is; `sendCallInSteps_eq`: it is the same if the call is pending
  before it is offered to the queue and taken back when the queue refuses it.
-/

namespace StationHub

/-- There is room in the queue, and somebody takes from it. -/
def Link.HasRoom (link : Link) : Prop :=
  link.queue.length < link.capacity ∧ link.hasReader = true

/-- The session without the pending call, of which nothing is kept. -/
def Session.withdraw (s : Session) (id : String) : Session :=
  { s with pending := s.pending.filter fun p => p.id != id }

namespace Link

/-- With room, an open connection queues what it is offered, behind everything else. -/
theorem offer_of_room {link : Link} (open_ : link.closed = false) (room : link.HasRoom)
    (parcel : Parcel) :
    (link.offer parcel).1 = { link with queue := link.queue ++ [parcel] } ∧
      (link.offer parcel).2.isQueued = true := by
  have taken : (link.closed || !link.hasReader || link.capacity ≤ link.queue.length) = false := by
    simp [open_, room.2, room.1]
  unfold offer
  rw [if_neg (by simpa using taken)]
  refine ⟨rfl, ?_⟩
  dsimp only
  split <;> rfl

theorem offer_of_noRoom {link : Link} (full : ¬link.HasRoom) (parcel : Parcel) :
    link.offer parcel = (link, .refused) := by
  have refused : (link.closed || !link.hasReader || link.capacity ≤ link.queue.length) = true := by
    by_cases reader : link.hasReader = true
    · have long := Nat.not_lt.mp fun short => full ⟨short, reader⟩
      simp [long]
    · simp [reader]
  exact if_pos refused

end Link

namespace Hub

variable {h : Hub} {i : Nat} {s : Session} {l : Link} {command : String} {payload : Json}

/-! ### One call -/

/-- The connection of a session that still exists is that of its number. -/
theorem link?_of_linkOf? (here : h.linkOf? s = some l) : h.link? s.link = some l := by
  unfold linkOf? at here
  split at here
  · exact here
  · cases here

theorem isOpen_iff : h.isOpen s = true ↔ ∃ l, h.linkOf? s = some l ∧ l.closed = false := by
  simp [isOpen, Option.any_eq_true]

/-- The hub after a call of session number `i`, whose state is `s`, was queued: one more call is
pending, with a timer, and one more text is in the queue. -/
def withCall (h : Hub) (i : Nat) (s : Session) (command : String) (payload : Json) : Hub :=
  let id := h.messageId h.nextMessage
  { h with
    nextMessage := h.nextMessage + 1
    sessions := h.sessions.modify i fun s =>
      { s with pending := s.pending ++ [⟨id, command, h.now + s.callTimeout⟩] }
    connections := h.connections.modify s.link fun c =>
      { c with link := { c.link with
          queue := c.link.queue ++ [.text (Message.call id command payload).encode] } } }

/-- What becomes of a call of session number `i`, whose state is `s`. -/
inductive Sends (h : Hub) (i : Nat) (s : Session) (command : String) (payload : Json) :
    Hub × Except Failure String → Prop
  /-- The connection is gone or closed. -/
  | closed : (∀ l, h.linkOf? s = some l → l.closed = true) →
      Sends h i s command payload (h, .error .closed)
  /-- As many calls are pending as may be. -/
  | tooMany {l : Link} : h.linkOf? s = some l → l.closed = false →
      s.maxPending ≤ s.pending.length → Sends h i s command payload
        ({ h with nextMessage := h.nextMessage + 1 },
          .error (.tooMany s.pending.length s.maxPending))
  /-- The queue takes no more. -/
  | dropped {l : Link} : h.linkOf? s = some l → l.closed = false →
      s.pending.length < s.maxPending → ¬l.HasRoom → Sends h i s command payload
        ({ h with nextMessage := h.nextMessage + 1 }, .error .dropped)
  | queued {l : Link} : h.linkOf? s = some l → l.closed = false →
      s.pending.length < s.maxPending → l.HasRoom → Sends h i s command payload
        (h.withCall i s command payload, .ok (h.messageId h.nextMessage))

/-- What is offered to a queue without room changes nothing. -/
theorem sendText_of_noRoom (here : h.link? i = some l) (full : ¬l.HasRoom) (text : String) :
    h.sendText i text = (h, .refused) := by
  unfold sendText Link.sendText
  simp only [here, Link.offer_of_noRoom full]
  rw [modifyLink_eq_self here rfl]

/-- What is offered to an open queue with room is queued. -/
theorem sendText_of_room (here : h.link? i = some l) (open_ : l.closed = false) (room : l.HasRoom)
    (text : String) :
    (h.sendText i text).1 =
        h.modifyLink i (fun l => { l with queue := l.queue ++ [.text text] }) ∧
      (h.sendText i text).2.isQueued = true := by
  obtain ⟨queue, queued⟩ := Link.offer_of_room open_ room (.text text)
  unfold sendText Link.sendText
  simp only [here]
  refine ⟨modifyLink_congr fun l' here' => ?_, queued⟩
  rw [here] at here'
  cases here'
  exact queue

/-- **A call is queued and pending, or neither**, and the reasons come in their order. -/
theorem sends_sendCall (here : h.session? i = some s) (command : String) (payload : Json) :
    Sends h i s command payload (h.sendCall i command payload) := by
  unfold sendCall
  simp only [here]
  cases opened : h.isOpen s with
  | false =>
      refine .closed fun l at_s => ?_
      refine Bool.of_not_eq_false fun open_ => ?_
      rw [isOpen_iff.mpr ⟨l, at_s, open_⟩] at opened
      cases opened
  | true =>
      obtain ⟨l, at_s, open_⟩ := isOpen_iff.mp opened
      simp only [Bool.not_true, Bool.false_eq_true, if_false]
      split
      · rename_i full
        exact .tooMany at_s open_ (of_decide_eq_true full)
      · rename_i short
        have short : s.pending.length < s.maxPending := by simpa [Session.isFull] using short
        let numbered : Hub := { h with nextMessage := h.nextMessage + 1 }
        have there : numbered.link? s.link = some l := link?_of_linkOf? at_s
        by_cases room : l.HasRoom
        · obtain ⟨sent, queued⟩ := sendText_of_room there open_ room
            (Message.call (h.messageId h.nextMessage) command payload).encode
          rw [if_pos queued, sent]
          exact .queued at_s open_ short room
        · rw [sendText_of_noRoom there room]
          exact .dropped at_s open_ short room

/-- No two things become of one call. -/
theorem Sends.unique {outcome other : Hub × Except Failure String}
    (sends : Sends h i s command payload outcome) (sends' : Sends h i s command payload other) :
    outcome = other := by
  have open_once {l l' : Link} (at_s : h.linkOf? s = some l) (at_s' : h.linkOf? s = some l') :
      l = l' := Option.some.inj (at_s.symm.trans at_s')
  cases sends with
  | closed closed =>
      cases sends' with
      | closed => rfl
      | tooMany at_s open_ | dropped at_s open_ | queued at_s open_ =>
          rw [closed _ at_s] at open_
          cases open_
  | tooMany at_s open_ full =>
      cases sends' with
      | closed closed =>
          rw [closed _ at_s] at open_
          cases open_
      | tooMany => rfl
      | dropped _ _ short | queued _ _ short => exact absurd short (Nat.not_lt.mpr full)
  | dropped at_s open_ short noRoom =>
      cases sends' with
      | closed closed =>
          rw [closed _ at_s] at open_
          cases open_
      | tooMany _ _ full => exact absurd short (Nat.not_lt.mpr full)
      | dropped => rfl
      | queued at_s' _ _ room => exact absurd (open_once at_s at_s' ▸ room) noRoom
  | queued at_s open_ short room =>
      cases sends' with
      | closed closed =>
          rw [closed _ at_s] at open_
          cases open_
      | tooMany _ _ full => exact absurd short (Nat.not_lt.mpr full)
      | dropped at_s' _ _ noRoom => exact absurd (open_once at_s at_s' ▸ room) noRoom
      | queued => rfl

theorem sendCall_of_sends (here : h.session? i = some s) {outcome : Hub × Except Failure String}
    (sends : Sends h i s command payload outcome) : h.sendCall i command payload = outcome :=
  (sends_sendCall here command payload).unique sends

/-- A call is not sent because of its connection exactly if that is gone or closed. -/
theorem sendCall_eq_closed_iff (here : h.session? i = some s) :
    (h.sendCall i command payload).2 = .error .closed ↔
      ∀ l, h.linkOf? s = some l → l.closed = true := by
  refine ⟨fun failed => ?_, fun closed => by rw [sendCall_of_sends here (.closed closed)]⟩
  have sends := sends_sendCall here command payload
  generalize h.sendCall i command payload = outcome at failed sends
  cases sends with
  | closed closed => exact closed
  | tooMany | dropped | queued => cases failed

/-- Else it is not sent because of others exactly if as many are pending as may be. -/
theorem sendCall_eq_tooMany_iff (here : h.session? i = some s) {pending most : Nat} :
    (h.sendCall i command payload).2 = .error (.tooMany pending most) ↔
      (∃ l, h.linkOf? s = some l ∧ l.closed = false) ∧ s.maxPending ≤ s.pending.length ∧
        pending = s.pending.length ∧ most = s.maxPending := by
  constructor
  · intro failed
    have sends := sends_sendCall here command payload
    generalize h.sendCall i command payload = outcome at failed sends
    cases sends with
    | tooMany at_s open_ full =>
        cases failed
        exact ⟨⟨_, at_s, open_⟩, full, rfl, rfl⟩
    | closed | dropped | queued => cases failed
  · rintro ⟨⟨l, at_s, open_⟩, full, rfl, rfl⟩
    rw [sendCall_of_sends here (.tooMany at_s open_ full)]

/-- Else it is dropped exactly if the queue is full or nobody takes from it. -/
theorem sendCall_eq_dropped_iff (here : h.session? i = some s) :
    (h.sendCall i command payload).2 = .error .dropped ↔
      s.pending.length < s.maxPending ∧
        ∃ l, h.linkOf? s = some l ∧ l.closed = false ∧ ¬l.HasRoom := by
  constructor
  · intro failed
    have sends := sends_sendCall here command payload
    generalize h.sendCall i command payload = outcome at failed sends
    cases sends with
    | dropped at_s open_ short noRoom => exact ⟨short, _, at_s, open_, noRoom⟩
    | closed | tooMany | queued => cases failed
  · rintro ⟨short, l, at_s, open_, noRoom⟩
    rw [sendCall_of_sends here (.dropped at_s open_ short noRoom)]

/-- Else it is queued, under the next identifier. -/
theorem sendCall_eq_ok_iff (here : h.session? i = some s) {id : String} :
    (h.sendCall i command payload).2 = .ok id ↔
      id = h.messageId h.nextMessage ∧ s.pending.length < s.maxPending ∧
        ∃ l, h.linkOf? s = some l ∧ l.closed = false ∧ l.HasRoom := by
  constructor
  · intro queued
    have sends := sends_sendCall here command payload
    generalize h.sendCall i command payload = outcome at queued sends
    cases sends with
    | queued at_s open_ short room =>
        cases queued
        exact ⟨rfl, short, _, at_s, open_, room⟩
    | closed | tooMany | dropped => cases queued
  · rintro ⟨rfl, short, l, at_s, open_, room⟩
    rw [sendCall_of_sends here (.queued at_s open_ short room)]

/-- A call that is not sent uses up an identifier at most. -/
theorem sendCall_of_failure (here : h.session? i = some s) {failure : Failure}
    (failed : (h.sendCall i command payload).2 = .error failure) :
    (h.sendCall i command payload).1 =
      { h with nextMessage := (h.sendCall i command payload).1.nextMessage } := by
  have sends := sends_sendCall here command payload
  generalize h.sendCall i command payload = outcome at failed sends
  cases sends with
  | closed | tooMany | dropped => rfl
  | queued => cases failed

/-- A call that is sent is pending and queued. -/
theorem sendCall_of_ok (here : h.session? i = some s) {id : String}
    (queued : (h.sendCall i command payload).2 = .ok id) :
    (h.sendCall i command payload).1 = h.withCall i s command payload := by
  have sends := sends_sendCall here command payload
  generalize h.sendCall i command payload = outcome at queued sends
  cases sends with
  | queued => rfl
  | closed | tooMany | dropped => cases queued

/-! ### Pending first, then queued -/

/-- Sends a call in the order in which its parts come about: it is pending, with its timer, before
it is offered to the queue, and is taken back if the queue refuses it. -/
def sendCallInSteps (h : Hub) (i : Nat) (command : String) (payload : Json) :
    Hub × Except Failure String :=
  match h.session? i with
  | none => (h, .error .closed)
  | some session =>
      if !h.isOpen session then (h, .error .closed)
      else
        let id := h.messageId h.nextMessage
        let h := { h with nextMessage := h.nextMessage + 1 }
        if session.isFull then
          (h, .error (.tooMany session.pending.length session.maxPending))
        else
          let h := h.modifySession i fun session => session.issue id command h.now
          let (h, delivery) := h.sendText session.link (Message.call id command payload).encode
          if delivery.isQueued then (h, .ok id)
          else (h.modifySession i fun session => session.withdraw id, .error .dropped)

/-- A call that is taken back as soon as it is issued leaves nothing behind. -/
theorem withdraw_issue {id : String} (new : ∀ p ∈ s.pending, p.id ≠ id) (command : String)
    (now : Nat) : (s.issue id command now).withdraw id = s := by
  have others : (s.pending.filter fun p => p.id != id) = s.pending :=
    List.filter_eq_self.mpr fun p member => bne_iff_ne.mpr (new p member)
  simp [Session.withdraw, Session.issue, List.filter_append, others]

theorem sendText_modifySession (h : Hub) (i : Nat) (change : Session → Session) (link : Nat)
    (text : String) :
    (h.modifySession i change).sendText link text =
      ((h.sendText link text).1.modifySession i change, (h.sendText link text).2) := by
  have same : (h.modifySession i change).link? link = h.link? link := rfl
  unfold sendText
  rw [same]
  split <;> rfl

/-- **A call that the queue refuses is taken back without a trace**, so that it does not matter
whether it is pending before it is offered. -/
theorem sendCallInSteps_eq (here : h.session? i = some s)
    (new : ∀ p ∈ s.pending, p.id ≠ h.messageId h.nextMessage) (command : String) (payload : Json) :
    h.sendCallInSteps i command payload = h.sendCall i command payload := by
  unfold sendCallInSteps sendCall
  simp only [here]
  cases opened : h.isOpen s with
  | false => rfl
  | true =>
      obtain ⟨l, at_s, open_⟩ := isOpen_iff.mp opened
      simp only [Bool.not_true, Bool.false_eq_true, if_false, sendText_modifySession]
      split
      · rfl
      · let numbered : Hub := { h with nextMessage := h.nextMessage + 1 }
        have there : numbered.link? s.link = some l := link?_of_linkOf? at_s
        by_cases room : l.HasRoom
        · obtain ⟨sent, queued⟩ := sendText_of_room there open_ room
            (Message.call (h.messageId h.nextMessage) command payload).encode
          rw [if_pos queued, if_pos queued, sent]
          rfl
        · rw [sendText_of_noRoom there room]
          have kept : (numbered.modifySession i fun s =>
              (s.issue (h.messageId h.nextMessage) command h.now).withdraw
                (h.messageId h.nextMessage)) = numbered := by
            refine modifySession_eq_self fun t at_i => ?_
            obtain rfl : s = t := Option.some.inj (here.symm.trans at_i)
            exact withdraw_issue new command h.now
          have twice : ∀ f g : Session → Session, (numbered.modifySession i f).modifySession i g =
              numbered.modifySession i (g ∘ f) := by
            intro f g
            simp only [modifySession, List.modify_modify_eq]
          simp only [Delivery.isQueued, bne_self_eq_false, Bool.false_eq_true, if_false]
          exact congrArg (·, _) ((twice _ _).trans kept)

end Hub

end StationHub

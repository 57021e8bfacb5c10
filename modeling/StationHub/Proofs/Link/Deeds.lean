import StationHub.Proofs.Link.Course
import StationHub.Proofs.Runs

/-!
What is done to a connection.

* `Deed`: one operation of those who hold the connection, of its writer, or of the socket; `act?` is
  the connection after it, `run?` after a history of deeds, each with its time.
* `queued`, `causes`: what the history puts into the queue, and what it closes the connection for.
* `Link.Takes`: what a deed does to the queue and to the latch; `takes_of_act?` has it for every
  deed of those who hold the connection, `link_of_writing` what the others change.
-/

namespace StationHub

/-- Something is done to a connection. -/
inductive Connection.Deed where
  | text (text : String)
  | ping
  | pong
  /-- A probe begins. -/
  | probe (wait : Nat)
  | probeFails
  | probeSucceeds
  | enter (phase : Phase)
  | identify (identity : Identity)
  | close (cause : CloseCause)
  /-- The end of the connection has been handled. -/
  | finish
  /-- The writer starts something new. -/
  | takeUp
  | socketTakes
  | socketFails
  /-- The writer runs out of patience. -/
  | expire
  /-- The writer is stopped. -/
  | stop
  | hold
  | letGo
  deriving DecidableEq, Repr

namespace Connection

/-- A connection at its start. -/
def fresh (variant : Variant) (capacity watermark : Nat) : Connection :=
  { link := .fresh variant capacity watermark }

/-- The connection with its link changed. -/
def onLink (c : Connection) (change : Link → Link) : Connection := { c with link := change c.link }

/-- The connection after a deed at a time, if the deed is possible. -/
def act? (c : Connection) (now : Nat) : Deed → Option Connection
  | .text text => some (c.onLink fun link => (link.sendText text).1)
  | .ping => some (c.onLink fun link => (link.ping now).1)
  | .pong => some (c.onLink fun link => link.pong now)
  | .probe wait => some (c.onLink fun link => (link.startProbe now wait).1)
  | .probeFails => some (c.onLink Link.addFailure)
  | .probeSucceeds => some (c.onLink Link.resetFailures)
  | .enter phase => some (c.onLink fun link => link.enter phase)
  | .identify identity => some (c.onLink fun link => link.identify identity)
  | .close cause => some (c.onLink fun link => (link.close cause).1)
  | .finish => some (c.onLink fun link => link.finish.1)
  | .takeUp => c.takeUp? now
  | .socketTakes => c.accepted?
  | .socketFails => c.failed?
  | .expire => c.expired? now
  | .stop => some c.stop
  | .hold => some c.hold
  | .letGo => some c.letGo

/-- The connection after a deed with its time. -/
def step? (c : Connection) (done : Nat × Deed) : Option Connection := c.act? done.1 done.2

/-- The connection after a history, if each deed was possible. -/
def run? (c : Connection) (history : List (Nat × Deed)) : Option Connection :=
  history.foldlM step? c

/-- What a deed at a time puts into the queue. -/
def queues? (c : Connection) (now : Nat) : Deed → Option Parcel
  | .text text => if (c.link.sendText text).2.isQueued then some (.text text) else none
  | .ping => if (c.link.ping now).2 then some (.ping c.link.pings) else none
  | .probe wait =>
      if (c.link.startProbe now wait).2.isSome then some (.ping c.link.pings) else none
  | _ => none

/-- What a deed closes the connection for, whether it was open or not. -/
def closes? (c : Connection) : Deed → Option CloseCause
  | .close cause => some cause
  | .socketFails =>
      match c.writer with
      | .sending _ => some .transport
      | _ => none
  | _ => none

/-- What a history puts into the queue, in this order. -/
def queued (c : Connection) (history : List (Nat × Deed)) : List Parcel :=
  Runs.noted step? (fun c done => c.queues? done.1 done.2) c history

/-- What a history closes the connection for, in this order. -/
def causes (c : Connection) (history : List (Nat × Deed)) : List CloseCause :=
  Runs.noted step? (fun c done => c.closes? done.2) c history

/-! ### Deeds of those who hold the connection -/

/-- The deed is one of the writer or of the socket. -/
def Deed.isWriting : Deed → Bool
  | .takeUp | .socketTakes | .socketFails | .expire | .stop => true
  | _ => false

end Connection

namespace Link

/-- A link before and after `added` was put into its queue and it was closed for `cause?`. -/
structure Takes (added : Option Parcel) (cause? : Option CloseCause) (link next : Link) : Prop where
  queue : next.queue = link.queue ++ added.toList
  cause : next.cause = link.cause.or cause?
  latch : link.cause.isSome = link.closed → next.cause.isSome = next.closed

/-- What leaves the queue and the latch alone. -/
theorem takes_nothing {link next : Link} (queue : next.queue = link.queue)
    (cause : next.cause = link.cause) (closed : next.closed = link.closed) :
    Takes none none link next where
  queue := by rw [queue, Option.toList_none, List.append_nil]
  cause := by rw [cause, Option.or_none]
  latch := fun same => by rw [cause, closed, same]

theorem takes_offer (link : Link) (parcel : Parcel) :
    Takes (if (link.offer parcel).2.isQueued then some parcel else none) none link
      (link.offer parcel).1 := by
  unfold offer
  split
  · exact takes_nothing rfl rfl rfl
  · dsimp only
    have queued : (if link.capacity - (link.queue ++ [parcel]).length < link.watermark then
        Delivery.crowded else Delivery.queued).isQueued = true := by
      split <;> rfl
    rw [if_pos queued]
    exact ⟨rfl, by rw [Option.or_none], id⟩

theorem takes_ping (link : Link) (now : Nat) :
    Takes (if (link.ping now).2 then some (.ping link.pings) else none) none link
      (link.ping now).1 := by
  obtain ⟨queue, cause, latch⟩ := takes_offer { link with pings := link.pings + 1 } (.ping link.pings)
  unfold ping
  dsimp only
  split
  · next queued =>
    rw [if_pos queued] at queue
    exact ⟨queue, cause, latch⟩
  · next refused =>
    rw [if_neg refused] at queue
    exact ⟨queue, cause, latch⟩

theorem takes_startProbe (link : Link) (now wait : Nat) :
    Takes (if (link.startProbe now wait).2.isSome then some (.ping link.pings) else none) none link
      (link.startProbe now wait).1 := by
  unfold startProbe
  split
  · exact takes_nothing rfl rfl rfl
  · have same : ((if (link.ping now).2 then some (⟨link.pongs, now + wait⟩ : Probe) else none).isSome
        = true) = ((link.ping now).2 = true) := by
      cases (link.ping now).2 <;> rfl
    simp only [same]
    exact takes_ping link now

theorem takes_enter (link : Link) (phase : Phase) : Takes none none link (link.enter phase) := by
  unfold enter
  split <;> exact takes_nothing rfl rfl rfl

theorem takes_finish (link : Link) : Takes none none link link.finish.1 := by
  unfold finish
  split <;> exact takes_nothing rfl rfl rfl

theorem takes_close (link : Link) (cause : CloseCause) :
    Takes none (some cause) link (link.close cause).1 := by
  unfold close
  split
  · next known => exact ⟨(List.append_nil _).symm, by rw [known]; rfl, id⟩
  · next unknown =>
    obtain ⟨queue, cause', -⟩ := takes_enter { link with cause := some cause } .closing
    refine ⟨queue, ?_, fun _ => ?_⟩
    · rw [Option.or_none] at cause'
      rw [unknown]
      exact cause'
    · rw [Option.or_none] at cause'
      exact congrArg Option.isSome cause'

end Link

namespace Connection

variable {c next : Connection} {now : Nat} {deed : Deed}

/-- What somebody who holds the connection does concerns neither the writer nor the socket. -/
theorem takes_of_act? (other : deed.isWriting = false) (acted : c.act? now deed = some next) :
    next.writer = c.writer ∧ next.written = c.written ∧
      Link.Takes (c.queues? now deed) (c.closes? deed) c.link next.link := by
  cases deed with
  | takeUp | socketTakes | socketFails | expire | stop => cases other
  | text text => cases acted; exact ⟨rfl, rfl, Link.takes_offer c.link _⟩
  | ping => cases acted; exact ⟨rfl, rfl, Link.takes_ping c.link now⟩
  | probe wait => cases acted; exact ⟨rfl, rfl, Link.takes_startProbe c.link now wait⟩
  | enter phase => cases acted; exact ⟨rfl, rfl, Link.takes_enter c.link phase⟩
  | close cause => cases acted; exact ⟨rfl, rfl, Link.takes_close c.link cause⟩
  | finish => cases acted; exact ⟨rfl, rfl, Link.takes_finish c.link⟩
  | pong | probeFails | probeSucceeds | identify | hold | letGo =>
      cases acted
      exact ⟨rfl, rfl, Link.takes_nothing rfl rfl rfl⟩

/-- What the writer and the socket do concerns the queue and its reader, and a parcel that fails
closes the connection. -/
theorem link_of_writing (writing : deed.isWriting = true) (acted : c.act? now deed = some next) :
    next.keepers = c.keepers ∧ ∃ link queue hasReader,
      (link = c.link ∨ link = (c.link.close .transport).1) ∧
        next.link = { link with queue, hasReader } := by
  cases deed with
  | takeUp =>
      unfold act? takeUp? at acted
      dsimp only at acted
      split at acted
      · split at acted
        · cases acted
          exact ⟨rfl, c.link, _, _, .inl rfl, rfl⟩
        · obtain ⟨⟨parcel, link⟩, taken, rfl⟩ := Option.map_eq_some_iff.mp acted
          unfold Link.take? at taken
          split at taken
          · cases taken
          · cases taken
            exact ⟨rfl, c.link, _, _, .inl rfl, rfl⟩
      · cases acted
  | socketTakes =>
      unfold act? accepted? at acted
      dsimp only at acted
      split at acted <;> cases acted <;> exact ⟨rfl, c.link, _, _, .inl rfl, rfl⟩
  | socketFails =>
      unfold act? failed? at acted
      dsimp only at acted
      split at acted <;> cases acted
      · exact ⟨rfl, _, _, _, .inr rfl, rfl⟩
      · exact ⟨rfl, c.link, _, _, .inl rfl, rfl⟩
      · exact ⟨rfl, c.link, _, _, .inl rfl, rfl⟩
  | expire =>
      unfold act? expired? at acted
      dsimp only at acted
      split at acted
      · cases (Option.ite_none_right_eq_some.mp acted).2
        exact ⟨rfl, c.link, _, _, .inl rfl, rfl⟩
      · cases (Option.ite_none_right_eq_some.mp acted).2
        exact ⟨rfl, c.link, _, _, .inl rfl, rfl⟩
      · cases acted
  | stop =>
      cases acted
      exact ⟨rfl, c.link, _, _, .inl rfl, rfl⟩
  | _ => cases writing

end Connection

end StationHub

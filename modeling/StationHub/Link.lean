import StationHub.Identity
import StationHub.Message

/-!
The hub's end of one connection: a bounded outbound queue, the phases from acceptance to the end,
and what is known about the peer's being alive. Closing is a latch: the first cause stays, and from
then on nothing is queued.
-/

namespace StationHub

/-- Why a connection was closed. -/
inductive CloseCause where
  /-- The peer closed it, or it came to its end. -/
  | normal
  /-- A newer connection of the same peer took its place. -/
  | duplicate
  /-- Too many probes failed in a row. -/
  | unresponsive
  /-- The peer could not be identified. -/
  | unidentified
  /-- Nothing was heard for too long. -/
  | idle
  /-- Reading or writing failed. -/
  | transport
  /-- The hub shuts down. -/
  | shutdown
  deriving DecidableEq, Repr

/-- What a close frame says. -/
structure CloseFrame where
  code : Nat
  text : String
  deriving DecidableEq, Repr

namespace CloseCause

/-- The WebSocket close code for the cause. -/
def code : CloseCause → Nat
  | normal => 1000
  | duplicate | unresponsive | transport => 1011
  | unidentified => 1008
  | idle | shutdown => 1001

/-- The words for the cause that are sent with the close code. -/
def text : CloseCause → String
  | normal => "normal"
  | duplicate => "duplicate connection"
  | unresponsive => "unresponsive"
  | unidentified => "identity resolution failed"
  | idle => "idle timeout"
  | transport => "transport error"
  | shutdown => "shutdown"

/-- The close frame for the cause. -/
def frame (cause : CloseCause) : CloseFrame := { code := cause.code, text := cause.text }

/-- The cause is not part of an orderly end. -/
def isAbnormal : CloseCause → Bool
  | normal | shutdown => false
  | _ => true

end CloseCause

/-- How far a connection has come. -/
inductive Phase where
  | accepted
  | resolving
  | bound
  | closing
  | closed
  deriving DecidableEq, Repr

/-- The place of a phase in the course of a connection. -/
def Phase.rank : Phase → Nat
  | accepted => 0
  | resolving => 1
  | bound => 2
  | closing => 3
  | closed => 4

/-- The connection is closed or about to be. -/
def Phase.isOver (phase : Phase) : Bool := phase == .closing || phase == .closed

/-- What is queued for the peer. -/
inductive Parcel where
  | text (value : String)
  /-- A ping with its number, which is sent in 64 bits. -/
  | ping (number : Nat)
  deriving DecidableEq, Repr

/-- The payload of the ping with the given number: 64 bits, the highest first. -/
def pingPayload (number : Nat) : List UInt8 :=
  (List.range 8).map fun i => UInt8.ofNat (number / Nat.pow 256 (7 - i))

/-- What became of something offered to the outbound queue. -/
inductive Delivery where
  /-- Queued with room to spare. -/
  | queued
  /-- Queued, but the queue is filling up. -/
  | crowded
  /-- Not queued: the queue is full, has no reader, or the connection is closed. -/
  | refused
  deriving DecidableEq, Repr

/-- It was queued. -/
def Delivery.isQueued (delivery : Delivery) : Bool := delivery != .refused

/-- The hub's end of one connection. -/
structure Link where
  variant : Variant
  /-- How much the outbound queue holds. -/
  capacity : Nat
  /-- The number of free places below which senders should slow down. -/
  watermark : Nat
  queue : List Parcel := []
  /-- Somebody still takes from the queue. -/
  hasReader : Bool := true
  phase : Phase := .accepted
  /-- The latch that closing sets. -/
  closed : Bool := false
  cause : Option CloseCause := none
  /-- Who the peer is, once it is known. -/
  peer : Option Identity := none
  /-- Pings attempted. -/
  pings : Nat := 0
  /-- When a ping was last queued. -/
  lastPing : Option Nat := none
  /-- Pongs received. -/
  pongs : Nat := 0
  /-- When a pong was last received. -/
  lastPong : Option Nat := none
  /-- Probes failed in a row, counted in 32 bits. -/
  failures : Nat := 0
  deriving DecidableEq, Repr

namespace Link

/-- A fresh connection. Its queue holds at least one parcel. -/
def fresh (variant : Variant) (capacity watermark : Nat) : Link :=
  { variant, capacity := max capacity 1, watermark }

/-! ### Sending -/

/-- Offers a parcel to the queue. -/
def offer (link : Link) (parcel : Parcel) : Link × Delivery :=
  if link.closed || !link.hasReader || link.capacity ≤ link.queue.length then (link, .refused)
  else
    let next := { link with queue := link.queue ++ [parcel] }
    (next, if next.capacity - next.queue.length < next.watermark then .crowded else .queued)

/-- Offers a text to the queue. -/
def sendText (link : Link) (text : String) : Link × Delivery := link.offer (.text text)

/-- Offers a message to the queue. -/
def sendMessage (link : Link) (message : Message) : Link × Delivery :=
  link.sendText message.encode

/-- Takes the oldest parcel from the queue. -/
def take? (link : Link) : Option (Parcel × Link) :=
  match link.queue with
  | [] => none
  | parcel :: rest => some (parcel, { link with queue := rest })

/-- The reader of the queue goes away, and what is queued with it. -/
def dropReader (link : Link) : Link := { link with hasReader := false, queue := [] }

/-! ### Being alive -/

/-- Offers a ping to the queue. Pings are numbered by attempt. -/
def ping (link : Link) (now : Nat) : Link × Bool :=
  let (next, delivery) := { link with pings := link.pings + 1 }.offer (.ping link.pings)
  if delivery.isQueued then ({ next with lastPing := some now }, true) else (next, false)

/-- The peer sent a pong. -/
def pong (link : Link) (now : Nat) : Link :=
  { link with pongs := link.pongs + 1, lastPong := some now }

/-- A probe failed. -/
def addFailure (link : Link) : Link := { link with failures := (link.failures + 1) % Nat.pow 2 32 }

/-- A probe succeeded. -/
def resetFailures (link : Link) : Link := { link with failures := 0 }

/-- A probe under way: it waits until `deadline` for a pong beyond those already `seen`. -/
structure Probe where
  seen : Nat
  deadline : Nat
  deriving DecidableEq, Repr

/-- Begins a probe of at most `wait`. Without a probe the verdict is negative at once: the
connection is closed, or the ping was not queued. -/
def startProbe (link : Link) (now wait : Nat) : Link × Option Probe :=
  if link.closed then (link, none)
  else
    let (next, queued) := link.ping now
    (next, if queued then some ⟨link.pongs, now + wait⟩ else none)

/-- The verdict of a probe, if there is one yet: positive once a pong came, negative when the time
has run out. -/
def Probe.verdict? (probe : Probe) (link : Link) (now : Nat) : Option Bool :=
  if probe.seen < link.pongs then some true
  else if probe.deadline ≤ now then some false
  else none

/-! ### Phases and closing -/

/-- Moves to `phase`, unless the connection is over. -/
def enter (link : Link) (phase : Phase) : Link :=
  if link.phase.isOver then link else { link with phase }

/-- Notes who the peer is. -/
def identify (link : Link) (identity : Identity) : Link := { link with peer := some identity }

/-- Closes the connection for `cause`, and whether it was open. -/
def close (link : Link) (cause : CloseCause) : Link × Bool :=
  match link.cause with
  | some _ => (link, false)
  | none => ({ { link with cause := some cause }.enter .closing with closed := true }, true)

/-- The end of the connection has been handled; whether this is the first time. -/
def finish (link : Link) : Link × Bool :=
  if link.phase = .closed then (link, false) else ({ link with phase := .closed }, true)

/-! ### Laws -/

theorem offer_of_closed {link : Link} (h : link.closed = true) (parcel : Parcel) :
    link.offer parcel = (link, .refused) := by
  simp [offer, h]

theorem close_of_cause {link : Link} {first : CloseCause} (h : link.cause = some first)
    (cause : CloseCause) : link.close cause = (link, false) := by
  simp [close, h]

theorem cause_close (link : Link) (cause : CloseCause) :
    (link.close cause).1.cause = some (link.cause.getD cause) := by
  unfold close
  split
  · next h => simp [h]
  · next h => simp [enter, h]; split <;> rfl

theorem rank_enter_le (link : Link) (phase : Phase) (h : link.phase.rank ≤ phase.rank) :
    link.phase.rank ≤ (link.enter phase).phase.rank := by
  unfold enter
  split <;> simp [h]

end Link

end StationHub

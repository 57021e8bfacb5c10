import StationHub.Hub.Run

/-!
A server: a hub that accepts web sockets. Each accepted connection has a reader. While its peer is
being identified a reader keeps what arrives; from then on it hands over one message at a time, in
the order of arrival, and goes on reading meanwhile. A server that keeps its connections alive
actively has a sweeper as well.
-/

namespace StationHub

/-- A message as it was read from a socket. -/
inductive Letter where
  | text (value : String)
  | binary (value : List UInt8)
  deriving DecidableEq, Repr

/-- The message that was written. -/
def Letter.decode : Letter → Except Message.Malformation Message
  | .text value => Message.decode value
  | .binary value => Message.decodeBytes value

/-- What a reader reads from its socket. -/
inductive Item where
  | letter (letter : Letter)
  | ping
  | pong
  /-- A close frame. -/
  | close
  /-- The stream has ended. -/
  | finish
  /-- Reading failed, as it does for a message that is too large. -/
  | failure
  deriving DecidableEq, Repr

/-- A letter that a reader hands over. -/
inductive Handover where
  /-- Its handling is about to begin. -/
  | waiting (letter : Letter)
  /-- It is being handled by a task. -/
  | running (task : Nat)
  deriving DecidableEq, Repr

/-- What a reader is doing. -/
inductive Reader.Stage where
  /-- It waits for the task that opens its connection, and reads until the stream ends. -/
  | opening (task : Nat) (reading : Bool)
  /-- It reads for a session, closes the connection at `idleAt` if nothing is read until then, and
  sends the next ping of its own at `pingAt`. -/
  | reading (session : Nat) (handover : Option Handover) (idleAt pingAt : Nat)
  /-- Nothing any more. -/
  | ended
  deriving DecidableEq, Repr

/-- The reader of a connection. -/
structure Reader where
  /-- The number of the connection. -/
  link : Nat
  target : Target
  stage : Reader.Stage
  /-- Letters that have been read but not handed over, in the order of arrival. -/
  queue : List Letter := []
  deriving DecidableEq, Repr

/-- The first letter of the queue is taken in hand, if there is one. -/
def Reader.next (reader : Reader) : Option Handover × List Letter :=
  match reader.queue with
  | [] => (none, [])
  | letter :: rest => (some (.waiting letter), rest)

/-- What the sweeper is doing. -/
inductive Sweeper where
  /-- Nothing: connections are kept alive passively, or the server is shut down. -/
  | off
  /-- Waiting until `due`. -/
  | waiting (due : Nat)
  /-- Sweeping, as a task; the next sweep is to begin at `due`. -/
  | sweeping (task due : Nat)
  deriving DecidableEq, Repr

/-- A server. -/
structure Server where
  hub : Hub
  /-- The readers, in the order of acceptance. -/
  readers : List Reader := []
  sweeper : Sweeper := .off
  /-- Connections are still accepted. -/
  listening : Bool := true

namespace Server

/-- A server at its start. -/
def fresh (settings : Settings) (mark : Mark := .counted "hub") : Server :=
  { hub := .fresh settings mark
    sweeper :=
      match settings.keepAlive with
      | .active => .waiting settings.pingInterval
      | .passive => .off }

/-- The reader number `i`. -/
def reader? (s : Server) (i : Nat) : Option Reader := s.readers[i]?

/-- The server with reader number `i` replaced. -/
def setReader (s : Server) (i : Nat) (reader : Reader) : Server :=
  { s with readers := s.readers.set i reader }

/-- The server with its hub changed. -/
def onHub (s : Server) (change : Hub → Hub) : Server := { s with hub := change s.hub }

/-- Takes note of what a task has come to. -/
def takeOutcome? (s : Server) (task : Nat) : Option (Server × TaskOutcome) :=
  (s.hub.takeOutcome? task).map fun (hub, outcome) => ({ s with hub }, outcome)

/-- Where web sockets can be opened when the server is bound to `address`: an address that stands
for every interface is reached through the loopback one. -/
def url (address : Address) : String :=
  let reachable := if address.isUnspecified then .v4 [127, 0, 0, 1] address.port else address
  "ws://" ++ reachable.text

end Server

end StationHub

import StationHub.Directory
import StationHub.Rehearsal.Play
import StationHub.Server.Run

/-!
Rehearsing a server behind a network that lets no client through. Connecting is refused, so that
nobody is ever registered; what waits for a client gives up, and all else works as usual.
-/

namespace StationHub.Rehearsal

/-- A server without clients. -/
structure Listening where
  server : Server
  directory : Directory := {}
  /-- Health is reported as well. -/
  health : Bool := false
  /-- Where the server is bound. -/
  bound : Address
  /-- The tasks that steps have begun, by the number of the step. -/
  begun : Table Nat Nat := []

namespace Listening

/-- A server at its start, bound to the loopback interface or, with `unspecified`, where its
settings say, at a port of the system's choice. -/
def fresh (settings : Settings) (directory : Directory) (health unspecified : Bool) : Listening :=
  let host : Address := if unspecified then settings.listen else .v4 [127, 0, 0, 1] 0
  { server := .fresh settings, directory, health, bound := host.withPort 49152 }

/-- Something that may be waited for on a registered connection. -/
inductive Condition where
  | registered
  | unregistered
  | pinged
  | ponged
  | closed
  deriving DecidableEq, Repr

/-- What can be done. -/
inductive Step where
  | info
  | stats
  | registry
  | connect
  /-- Something is to be sent by a client or received. -/
  | converse
  /-- A client hangs up. -/
  | hangUp
  /-- Waits until a counter has a value. -/
  | awaitCount (counter : String) (value : Nat)
  /-- Waits for something on the connection registered under a key. -/
  | awaitConnection (variant : Variant) (key : Key) (condition : Condition)
  | call (variant : Variant) (key : Key) (command : String) (payload : Json)
  | sweep
  /-- Waits for the outcome of what an earlier step began. -/
  | awaitOutcome (step : Nat)
  | removeDevice (key : Key)
  /-- A request to the health endpoint. -/
  | http
  | shutDown
  | advance (ms : Nat)
  | unknown

/-- What a step answers. -/
inductive Answer where
  | nothing
  /-- The network lets nobody through. -/
  | refused
  | noClient
  /-- What was waited for has not come. -/
  | late
  /-- The port, where web sockets can be opened, and whether health is reported. -/
  | info (port : Nat) (url : String) (health : Bool)
  | counters (counters : Counters)
  | registered (devices management : Nat)
  | outcome (outcome : TaskOutcome)
  | success (value : Bool)

/-- The value of a counter. -/
def counter (s : Listening) (name : String) : Int :=
  (s.server.hub.tally.fields.lookup name).getD 0

/-- The condition holds of the connection registered under `key`. -/
def holds (s : Listening) (variant : Variant) (key : Key) (condition : Condition) : Bool :=
  let slot := s.server.hub.registered? variant key
  let link := slot.bind fun slot => s.server.hub.link? slot.link
  match condition with
  | .registered => slot.isSome
  | .unregistered => slot.isNone
  | .pinged => link.any fun link => link.lastPing.isSome
  | .ponged => link.any fun link => link.lastPong.isSome
  | .closed => link.any Link.closed

/-- How a server without clients is played. -/
def play : Play Listening where
  now s := s.server.hub.now
  atTime time s :=
    { s with server := s.server.onHub fun h => { h with now := time } }
  move? s :=
    (s.server.sweep?.orElse fun _ => s.server.swept?.orElse fun _ =>
      s.server.stopListening?).map fun server => { s with server }
  due s :=
    match s.server.sweeper with
    | .waiting due => [due]
    | _ => []

/-- The state in which step `number` has begun a task. -/
def begin (s : Listening) (number : Nat) (begun : Hub × Nat) : Listening :=
  { s with
    server := s.server.onHub fun _ => begun.1
    begun := s.begun.put number begun.2 }

/-- The state after step `number`, and its answer. -/
def act (s : Listening) (number : Nat) : Step → Listening × Answer
  | .info =>
      (s, .info s.bound.port (Server.url s.bound) s.health)
  | .stats => (s, .counters s.server.hub.tally)
  | .registry => (s, .registered s.server.hub.devices.length s.server.hub.management.length)
  | .connect => (s, .refused)
  | .converse => (s, .noClient)
  | .hangUp => (s, .nothing)
  | .awaitCount name value => (s, if s.counter name = value then .nothing else .late)
  | .awaitConnection variant key condition =>
      (s, if s.holds variant key condition then .nothing else .late)
  | .call variant key command payload =>
      (s.begin number (s.server.hub.beginCall variant key command payload), .nothing)
  | .sweep => (s.begin number s.server.hub.beginSweep, .nothing)
  | .awaitOutcome step =>
      match (s.begun.get? step).bind s.server.takeOutcome? with
      | some (server, outcome) => ({ s with server }, .outcome outcome)
      | none => (s, .nothing)
  | .removeDevice key =>
      let (directory, removed) := s.directory.removeDevice key
      ({ s with directory }, .success removed)
  | .http => (s, .refused)
  | .shutDown => ({ s with server := s.server.shutDown.1 }, .nothing)
  | .advance ms => (play.atTime (s.server.hub.now + ms) s, .nothing)
  | .unknown => (s, .nothing)

/-- The state after step `number` and all that it leads to, and the answer of the step. -/
def perform (s : Listening) (number : Nat) (step : Step) : Listening × Answer :=
  let (s, answer) := s.act number step
  (play.rest s, answer)

end Listening

end StationHub.Rehearsal

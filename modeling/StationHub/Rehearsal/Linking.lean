import StationHub.Link
import StationHub.Rehearsal.Play

/-!
Rehearsing the hub's end of a connection that nobody writes out: things are offered to its queue and
taken from it, probes wait for pongs, and watchers wait for the close.
-/

namespace StationHub.Rehearsal

/-- How a wait ended. -/
inductive Ending where
  /-- A probe, with its verdict. -/
  | probed (alive : Bool)
  /-- A wait for the close. -/
  | closed
  deriving DecidableEq, Repr

/-- A connection and those who wait for something on it, by the number of the step in which they
began. -/
structure Linking where
  link : Link
  now : Nat := 0
  probes : List (Nat × Link.Probe) := []
  watchers : List Nat := []
  /-- Waits that have ended, oldest first. -/
  ended : List (Nat × Ending) := []

namespace Linking

/-- The first wait that can end does so. -/
def move? (s : Linking) : Option Linking :=
  (s.probes.findSome? fun (number, probe) =>
    (probe.verdict? s.link s.now).map fun alive =>
      { s with
        probes := s.probes.filter fun other => other.1 != number
        ended := s.ended ++ [(number, .probed alive)] }).orElse fun _ =>
  match s.watchers with
  | number :: rest =>
      if s.link.closed then
        some { s with watchers := rest, ended := s.ended ++ [(number, .closed)] }
      else none
  | [] => none

/-- How a connection is played. -/
def play : Play Linking where
  now := now
  atTime now s := { s with now }
  move? := move?
  due s := s.probes.map fun probe => probe.2.deadline

/-- What can be done. -/
inductive Step where
  | sendText (text : String)
  | sendMessage (message : Message)
  /-- As `sendText`, where only the success counts. -/
  | send (text : String)
  | ping
  | pong
  | fail
  | reset
  | close (cause : CloseCause)
  | take (count : Nat)
  | dropReader
  | probe (ms : Nat)
  | awaitClose
  | advance (ms : Nat)

/-- What a step answers at once. -/
inductive Answer where
  | nothing
  | delivered (delivery : Delivery)
  | success (value : Bool)
  /-- How many probes have failed in a row. -/
  | failures (count : Nat)
  | taken (parcels : List Parcel)

/-- Takes up to `count` parcels from the queue. -/
def takeMany : Nat → Link → List Parcel × Link
  | 0, link => ([], link)
  | count + 1, link =>
      match link.take? with
      | none => ([], link)
      | some (parcel, link) =>
          let (parcels, link) := takeMany count link
          (parcel :: parcels, link)

/-- The state after step `number` itself, and its answer. -/
def act (s : Linking) (number : Nat) : Step → Linking × Answer
  | .sendText text =>
      let (link, delivery) := s.link.sendText text
      ({ s with link }, .delivered delivery)
  | .sendMessage message =>
      let (link, delivery) := s.link.sendMessage message
      ({ s with link }, .delivered delivery)
  | .send text =>
      let (link, delivery) := s.link.sendText text
      ({ s with link }, .success delivery.isQueued)
  | .ping =>
      let (link, queued) := s.link.ping s.now
      ({ s with link }, .success queued)
  | .pong => ({ s with link := s.link.pong s.now }, .nothing)
  | .fail =>
      let link := s.link.addFailure
      ({ s with link }, .failures link.failures)
  | .reset => ({ s with link := s.link.resetFailures }, .nothing)
  | .close cause =>
      let (link, wasOpen) := s.link.close cause
      ({ s with link }, .success wasOpen)
  | .take count =>
      let (parcels, link) := takeMany (min count s.link.queue.length) s.link
      ({ s with link }, .taken parcels)
  | .dropReader => ({ s with link := s.link.dropReader }, .nothing)
  | .probe ms =>
      match s.link.startProbe s.now ms with
      | (link, some probe) => ({ s with link, probes := s.probes ++ [(number, probe)] }, .nothing)
      | (link, none) =>
          ({ s with link, ended := s.ended ++ [(number, .probed false)] }, .nothing)
  | .awaitClose => ({ s with watchers := s.watchers ++ [number] }, .nothing)
  | .advance ms => (play.pass ms s, .nothing)

/-- The state after step `number` and all that it leads to, and its answer. -/
def perform (s : Linking) (number : Nat) (step : Step) : Linking × Answer :=
  let (s, answer) := { s with ended := [] }.act number step
  (play.rest s, answer)

end Linking

end StationHub.Rehearsal

import StationHub.Server.Reading

/-!
Runs of a server. Besides what its hub does by itself, a server moves when upgrades are requested,
when its readers read or go on, when its sweeper is due, and when it is shut down.
-/

namespace StationHub

/-- The move is one that a hub makes by itself, or one of somebody who calls a peer. The coming and
going of connections is left to the server. -/
def Hub.Move.isInternal : Hub.Move → Bool
  | .sending .. | .calling .. | .resume _ | .directoryAnswers .. | .executorAnswers .. | .expire ..
  | .takeUp _ | .socketTakes _ | .socketFails _ | .writerExpires _ => true
  | _ => false

namespace Server

/-! ### The sweeper -/

/-- A sweep begins when it is due. -/
def sweep? (s : Server) : Option Server :=
  match s.sweeper with
  | .waiting due =>
      if due ≤ s.hub.now then
        let (hub, task) := s.hub.beginSweep
        some { s with hub, sweeper := .sweeping task (due + s.hub.settings.pingInterval) }
      else none
  | _ => none

/-- A sweep ends, and the sweeper waits for the next one. -/
def swept? (s : Server) : Option Server :=
  match s.sweeper with
  | .sweeping task due =>
      (s.takeOutcome? task).map fun (s, _) => { s with sweeper := .waiting due }
  | _ => none

/-! ### The end -/

/-- Shuts the server down, and how many connections were closed. A sweep under way is given up. -/
def shutDown (s : Server) : Server × Nat :=
  let hub :=
    match s.sweeper with
    | .sweeping task _ => s.hub.cancel task
    | _ => s.hub
  let (hub, count) := hub.shutDown
  ({ s with hub, sweeper := .off }, count)

/-- Connections are no longer accepted, some time after the server was shut down. -/
def stopListening? (s : Server) : Option Server :=
  if s.hub.stopping ∧ s.listening then some { s with listening := false } else none

/-! ### Moves -/

/-- A move of a server. -/
inductive Move where
  /-- The hub moves by itself, or somebody calls a peer. -/
  | hub (move : Hub.Move)
  | upgrade (path : String) (offered : Option String)
  | read (reader : Nat) (item : Item)
  | opened (reader : Nat)
  | handOver (reader : Nat)
  | handled (reader : Nat)
  | idle (reader : Nat)
  | ping (reader : Nat)
  | noticeClose (reader : Nat)
  | leave (reader : Nat)
  | sweep
  | swept
  | shutDown
  | stopListening
  /-- Time passes. -/
  | advance (ms : Nat)

/-- The server after a move, if the move is possible. -/
def step? (s : Server) : Move → Option Server
  | .hub move =>
      if move.isInternal then (s.hub.step? move).map fun hub => { s with hub } else none
  | .upgrade path offered => if s.listening then some (s.upgrade path offered).1 else none
  | .read i item => s.read? i item
  | .opened i => s.opened? i
  | .handOver i => s.handOver? i
  | .handled i => s.handled? i
  | .idle i => s.idle? i
  | .ping i => s.ping? i
  | .noticeClose i => s.noticeClose? i
  | .leave i => s.leave? i
  | .sweep => s.sweep?
  | .swept => s.swept?
  | .shutDown => some s.shutDown.1
  | .stopListening => s.stopListening?
  | .advance ms => some (s.onHub fun h => { h with now := h.now + ms })

/-- The server after a sequence of moves, if each was possible. -/
def run? (s : Server) (moves : List Move) : Option Server := moves.foldlM step? s

end Server

end StationHub

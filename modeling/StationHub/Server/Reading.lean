import StationHub.Server

/-!
What readers do. A letter is handed over only when the one before has been handled, so that letters
are handled in the order of arrival; a reader that stops drops those that are left, also the one in
hand.
-/

namespace StationHub.Server

/-- An upgrade is requested: a connection is accepted and its opening begun, or it is refused. -/
def upgrade (s : Server) (path : String) (offered : Option String) :
    Server × Except Upgrade.Refusal Target :=
  match Upgrade.target s.hub.settings path offered with
  | .error refusal => (s.onHub fun h => h.count .rejected, .error refusal)
  | .ok target =>
      let (hub, link) := s.hub.accept target.variant
      let (hub, task) := hub.beginOpening link target
      let reader : Reader := { link, target, stage := .opening task true }
      ({ s with hub, readers := s.readers ++ [reader] }, .ok target)

/-- The end of a connection is handled by its reader, which stops. -/
def stop (s : Server) (i : Nat) (reader : Reader) (session : Option Nat) : Server :=
  (s.onHub fun h => h.handleEnd reader.link session).setReader i
    { reader with stage := .ended, queue := [] }

/-- Reader number `i` stops reading for `session`; what it has in hand is dropped. -/
def stopReading (s : Server) (i : Nat) (reader : Reader) (session : Nat)
    (handover : Option Handover) : Server :=
  let s :=
    match handover with
    | some (.running task) => s.onHub fun h => h.cancel task
    | _ => s
  s.stop i reader (some session)

/-- An item is read while the connection is being opened. -/
def readEarly (s : Server) (i : Nat) (reader : Reader) (task : Nat) : Item → Server
  | .letter letter => s.setReader i { reader with queue := reader.queue ++ [letter] }
  | .pong => s.onHub fun h => h.modifyLink reader.link fun l => l.pong h.now
  | .ping => s
  | .close | .finish =>
      (s.onHub fun h => h.closed reader.link .normal).setReader i
        { reader with stage := .opening task false }
  | .failure =>
      (s.onHub fun h => h.closed reader.link .transport).setReader i
        { reader with stage := .opening task false }

/-- An item is read for `session`. -/
def readLate (s : Server) (i : Nat) (reader : Reader) (session : Nat)
    (handover : Option Handover) (pingAt : Nat) (item : Item) : Server :=
  let idleAt := s.hub.now + s.hub.settings.idleTimeout
  let reader := { reader with stage := .reading session handover idleAt pingAt }
  match item with
  | .letter letter =>
      match handover with
      | none =>
          s.setReader i
            { reader with stage := .reading session (some (.waiting letter)) idleAt pingAt }
      | some _ => s.setReader i { reader with queue := reader.queue ++ [letter] }
  | .pong => (s.onHub fun h => h.modifyLink reader.link fun l => l.pong h.now).setReader i reader
  | .ping => s.setReader i reader
  | .close | .finish => s.stopReading i reader session handover
  | .failure =>
      (s.onHub fun h => h.closed reader.link .transport).stopReading i reader session handover

/-- Reader number `i` reads an item. -/
def read? (s : Server) (i : Nat) (item : Item) : Option Server := do
  let reader ← s.reader? i
  match reader.stage with
  | .opening task true => some (s.readEarly i reader task item)
  | .reading session handover _ pingAt =>
      some (s.readLate i reader session handover pingAt item)
  | _ => none

/-- Reader number `i` learns what its opening came to. -/
def opened? (s : Server) (i : Nat) : Option Server := do
  let reader ← s.reader? i
  match reader.stage with
  | .opening task _ =>
      match s.takeOutcome? task with
      | some (s, .opened (.ok session)) =>
          let (handover, queue) := reader.next
          let settings := s.hub.settings
          let stage := .reading session handover (s.hub.now + settings.idleTimeout)
            (s.hub.now + settings.pingInterval)
          some (s.setReader i { reader with stage, queue })
      | some (s, .opened (.error _)) => some (s.stop i reader none)
      | _ => none
  | _ => none

/-- Reader number `i` hands its letter over. -/
def handOver? (s : Server) (i : Nat) : Option Server := do
  let reader ← s.reader? i
  match reader.stage with
  | .reading session (some (.waiting letter)) idleAt pingAt =>
      let (hub, task) := s.hub.beginHandling session reader.target.path letter.decode
      let stage := .reading session (some (.running task)) idleAt pingAt
      some ({ s with hub }.setReader i { reader with stage })
  | _ => none

/-- Reader number `i` learns that its letter has been handled, and takes the next one in hand. -/
def handled? (s : Server) (i : Nat) : Option Server := do
  let reader ← s.reader? i
  match reader.stage with
  | .reading session (some (.running task)) idleAt pingAt =>
      match s.takeOutcome? task with
      | none => none
      | some (s, _) =>
          let (handover, queue) := reader.next
          some (s.setReader i
            { reader with stage := .reading session handover idleAt pingAt, queue })
  | _ => none

/-- Reader number `i` closes its connection because nothing was read for too long. -/
def idle? (s : Server) (i : Nat) : Option Server := do
  let reader ← s.reader? i
  match reader.stage with
  | .reading session handover idleAt _ =>
      if idleAt ≤ s.hub.now then
        some ((s.onHub fun h => h.closed reader.link .idle).stopReading i reader session handover)
      else none
  | _ => none

/-- Reader number `i` sends a ping, if connections are kept alive passively. Pings that are late do
not put off those after them. -/
def ping? (s : Server) (i : Nat) : Option Server := do
  let reader ← s.reader? i
  match reader.stage with
  | .reading session handover idleAt pingAt =>
      if s.hub.settings.keepAlive = .passive ∧ pingAt ≤ s.hub.now then
        let stage := .reading session handover idleAt (pingAt + s.hub.settings.pingInterval)
        some ((s.onHub fun h => h.modifyLink reader.link fun l => (l.ping h.now).1).setReader i
          { reader with stage })
      else none
  | _ => none

/-- Reader number `i` notices that its connection has been closed. -/
def noticeClose? (s : Server) (i : Nat) : Option Server := do
  let reader ← s.reader? i
  match reader.stage with
  | .reading session handover _ _ =>
      if s.hub.isClosed reader.link then some (s.stopReading i reader session handover) else none
  | _ => none

/-- Reader number `i` has stopped and the writer has ended: nothing is left of the connection. -/
def leave? (s : Server) (i : Nat) : Option Server := do
  let reader ← s.reader? i
  let connection ← s.hub.connection? reader.link
  if reader.stage = .ended ∧ connection.writer = .ended ∧ 0 < connection.keepers then
    some (s.onHub fun h => h.modifyConnection reader.link Connection.letGo)
  else none

end StationHub.Server

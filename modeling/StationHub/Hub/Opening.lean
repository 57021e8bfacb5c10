import StationHub.Hub.Takeover

/-!
Opening a connection: the path is locked, the directory asked who the peer is, and its session put
into the slot of its key. An opening succeeds or leaves the connection closed; the path is let go
either way.
-/

namespace StationHub.Hub

/-- An opening ends, and its path is let go. -/
def endOpening (h : Hub) (id : Nat) (guard : Guard) (result : Except Failure Nat) : Hub :=
  (h.release guard).conclude id (.opened result)

/-- The connection is closed. -/
def isClosed (h : Hub) (i : Nat) : Bool := (h.link? i).any Link.closed

/-- The session that identifies the peer of connection number `link` as `identity`. -/
def newSession (h : Hub) (link : Nat) (variant : Variant) (identity : Identity) : Session :=
  .fresh identity variant link h.settings.callTimeout h.settings.maxPending

/-- The last steps of an opening, after the takeover. A hub that has begun to shut down registers
nobody. -/
def afterTakeover (h : Hub) (id link session : Nat) (guard : Guard) : Hub :=
  if h.stopping then
    let h := h.closed link .shutdown
    let h :=
      match h.session? session with
      | none => h
      | some s => h.setRoster s.variant ((h.roster s.variant).removeIfBound s.key link).1
    h.endOpening id guard (.error .closed)
  else
    ((h.modifyLink link fun l => l.enter .bound).count .resolved).endOpening id guard (.ok session)

/-- The steps of an opening once the peer is identified. -/
def afterIdentified (h : Hub) (id link : Nat) (guard : Guard) (identity : Identity) : Hub :=
  match h.link? link with
  | none => h.endOpening id guard (.error .closed)
  | some l =>
      let session := h.newSession link l.variant identity
      let number := h.sessions.length
      let h := { h with sessions := h.sessions ++ [session] }
      let h := h.modifyLink link fun l => l.identify identity
      match h.beginTakeover number session with
      | (h, .done _) => h.afterTakeover id link number guard
      | (h, .probing rival probe) => h.suspend id (.openProbing link number guard rival probe)

/-- The steps of an opening when the directory has answered. -/
def afterDirectory (h : Hub) (id link : Nat) (guard : Guard) :
    Except Failure Identity → Hub
  | .error failure =>
      ((h.count .resolutionFailed).closed link .unidentified).endOpening id guard (.error failure)
  | .ok identity =>
      if h.isClosed link then h.endOpening id guard (.error .closed)
      else if h.stopping then
        (h.closed link .shutdown).endOpening id guard (.error .closed)
      else h.afterIdentified id link guard identity

/-- The steps of an opening that has its guard. -/
def afterGuard (h : Hub) (id link : Nat) (target : Target) (guard : Guard) : Hub :=
  if h.isClosed link then h.endOpening id guard (.error .closed)
  else if h.stopping then (h.closed link .shutdown).endOpening id guard (.error .closed)
  else
    (h.modifyLink link fun l => l.enter .resolving).suspend id (.openResolving link target guard)

/-- Begins to open connection number `link` for `target`, as a task of its own. -/
def beginOpening (h : Hub) (link : Nat) (target : Target) : Hub × Nat :=
  let (h, id) := h.newTask
  match h.lock.request id target.path h.now with
  | (lock, some guard) => ({ h with lock }.afterGuard id link target guard, id)
  | (lock, none) => ({ h with lock }.suspend id (.openWaiting link target), id)

end StationHub.Hub

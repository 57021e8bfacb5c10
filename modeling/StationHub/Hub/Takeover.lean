import StationHub.Hub

/-!
Taking over a slot: the newest session of a peer comes to hold the slot of its key. A connection
that is in the slot already is not assumed dead because another one came; it is probed, and closed
if it answers.
-/

namespace StationHub.Hub

/-- Where a takeover stands after its first steps. -/
inductive TakeoverStart where
  | done (takeover : Takeover)
  /-- The connection in the slot is being probed. -/
  | probing (rival : Nat) (probe : Link.Probe)

/-- Registers session number `i` under its key. -/
def register (h : Hub) (i : Nat) (session : Session) : Hub :=
  h.setRoster session.variant
    (Table.put session.key ⟨i, session.link⟩ (h.roster session.variant))

/-- The connection in a slot, if it exists and is open. -/
def openRival? (h : Hub) (slot : Slot Nat Nat) : Option Nat :=
  if h.isAlive slot.link && (h.link? slot.link).any (fun link => !link.closed) then some slot.link
  else none

/-- Begins to take over the slot of session number `i`. -/
def beginTakeover (h : Hub) (i : Nat) (session : Session) : Hub × TakeoverStart :=
  match h.registered? session.variant session.key with
  | none => (h.register i session, .done .registered)
  | some slot =>
      if slot.link = session.link then (h, .done .alreadyCurrent)
      else
        match h.openRival? slot with
        | none => (h.register i session, .done .replacedClosed)
        | some rival =>
            match h.startProbe rival h.settings.probeTimeout with
            | (h, none) => (h.register i session, .done .adoptedOverDead)
            | (h, some probe) => (h, .probing rival probe)

/-- Ends the takeover of session number `i` when the verdict on `rival` is known. -/
def endTakeover (h : Hub) (i : Nat) (session : Session) (rival : Nat) (alive : Bool) :
    Hub × Takeover :=
  if alive then
    (((h.closed rival .duplicate).count .duplicateClosed).register i session, .closedDuplicate)
  else (h.register i session, .adoptedOverDead)

end StationHub.Hub

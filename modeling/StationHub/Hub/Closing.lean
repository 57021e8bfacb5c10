import StationHub.Hub.Sweep

/-!
Connections coming and going, and the end of the hub.
-/

namespace StationHub.Hub

/-- A connection is accepted: its number. -/
def accept (h : Hub) (variant : Variant) : Hub × Nat :=
  let connection : Connection :=
    { link := .fresh variant h.settings.queueCapacity h.settings.watermark }
  let next : Hub := { h with connections := h.connections ++ [connection] }
  (next.count .opened, h.connections.length)

/-- The end of connection number `link` is handled: it is closed if it was not, its session, if
there is one, is removed from the slot that is still bound to the connection and its calls fail.
The end is counted once, however often it is handled. -/
def handleEnd (h : Hub) (link : Nat) (session : Option Nat) : Hub :=
  let h := h.closed link .normal
  let h :=
    match session.bind fun number => (h.session? number).map fun s => (number, s) with
    | none => h
    | some (number, s) => ((h.unregister s.variant s.key link).1.failPending number).1
  match h.link? link with
  | none => h
  | some l =>
      let h := h.modifyLink link fun _ => l.finish.1
      if l.finish.2 then h.count .closed else h

/-- Closes the connections of the given slots that still exist, and how many were open. -/
def closeSlots (h : Hub) (cause : CloseCause) : List (Key × Slot Nat Nat) → Hub × Nat
  | [] => (h, 0)
  | (_, slot) :: rest =>
      let (h, wasOpen) := if h.isAlive slot.link then h.closeLink slot.link cause else (h, false)
      let (h, others) := closeSlots h cause rest
      (h, (if wasOpen then 1 else 0) + others)

/-- Empties the roster of a variant and closes the connections in it. -/
def closeRoster (h : Hub) (cause : CloseCause) (variant : Variant) : Hub × Nat :=
  (h.setRoster variant []).closeSlots cause (h.roster variant).entries

/-- Empties both rosters and closes the connections in them; how many were open. -/
def closeAll (h : Hub) (cause : CloseCause) : Hub × Nat :=
  let (h, devices) := h.closeRoster cause .device
  let (h, management) := h.closeRoster cause .management
  (h, devices + management)

/-- Shuts the hub down: from now on nobody is registered, and all who are get closed. -/
def shutDown (h : Hub) : Hub × Nat :=
  let h : Hub := { h with stopping := true }
  h.closeAll .shutdown

end StationHub.Hub

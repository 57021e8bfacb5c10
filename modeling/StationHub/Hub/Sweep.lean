import StationHub.Hub

/-!
Sweeping the rosters: every registered session is probed, all of one roster at the same time.
A connection that fails often enough in a row is closed and removed; one that is gone is removed
without being probed.
-/

namespace StationHub.Hub

/-- Removes the entry under `key` if it is bound to connection number `link`, and whether it was. -/
def unregister (h : Hub) (variant : Variant) (key : Key) (link : Nat) : Hub × Bool :=
  let (roster, removed) := (h.roster variant).removeIfBound key link
  (h.setRoster variant roster, removed)

/-- The probe of a member has failed. -/
def failMember (h : Hub) (variant : Variant) (key : Key) (link : Nat) : Hub × Member.Stage :=
  let h := (h.count .pingFailure).modifyLink link Link.addFailure
  let failures := ((h.link? link).map Link.failures).getD 0
  if failures < h.settings.failureThreshold then (h, .done false false)
  else
    let (h, removed) := (h.closed link .unresponsive).unregister variant key link
    (h, .done false removed)

/-- Begins the sweep of one entry of a roster. -/
def beginMember (h : Hub) (variant : Variant) (key : Key) (link : Nat) : Hub × Member :=
  if h.isAlive link then
    match h.startProbe link h.settings.probeTimeout with
    | (h, some probe) => (h, ⟨key, link, .waiting probe⟩)
    | (h, none) =>
        let (h, stage) := h.failMember variant key link
        (h, ⟨key, link, stage⟩)
  else
    let (h, removed) := h.unregister variant key link
    (h, ⟨key, link, .done false removed⟩)

/-- A member goes on if its verdict is known. -/
def resumeMember (h : Hub) (variant : Variant) (member : Member) : Hub × Member :=
  match member.stage with
  | .done .. => (h, member)
  | .waiting probe =>
      match h.verdict? member.link probe with
      | none => (h, member)
      | some true =>
          (h.modifyLink member.link Link.resetFailures, { member with stage := .done true false })
      | some false =>
          let (h, stage) := h.failMember variant member.key member.link
          (h, { member with stage })

/-- Applies `act` to the items from left to right. -/
def eachMember {α β : Type} (act : Hub → α → Hub × β) : Hub → List α → Hub × List β
  | h, [] => (h, [])
  | h, item :: rest =>
      let (h, first) := act h item
      let (h, others) := eachMember act h rest
      (h, first :: others)

/-- `report` with the results of the members added. -/
def addMembers (report : SweepReport) (members : List Member) : SweepReport :=
  members.foldl (fun report member =>
    match member.stage with
    | .waiting _ => report
    | .done alive evicted =>
        { probed := report.probed + 1
          alive := report.alive + if alive then 1 else 0
          failed := report.failed + if alive then 0 else 1
          evicted := report.evicted + if evicted then 1 else 0 }) report

/-- The hub with as many evictions counted as the members tell. -/
def countEvicted (h : Hub) (members : List Member) : Hub :=
  members.foldl (fun h member =>
    match member.stage with
    | .done _ true => h.count .evicted
    | _ => h) h

/-- Begins to probe the roster of a variant. -/
def beginRoster (h : Hub) (variant : Variant) : Hub × List Member :=
  eachMember (fun h entry => h.beginMember variant entry.1 entry.2.link) h
    (h.roster variant).entries

/-- The sweep of the roster of management clients goes on, and ends when no member waits. -/
def sweepManagement (h : Hub) (id : Nat) (members : List Member) (report : SweepReport) : Hub :=
  if members.any Member.isWaiting then h.suspend id (.sweeping .management members report)
  else (h.countEvicted members).conclude id (.swept (addMembers report members))

/-- The sweep of the roster of devices goes on, and moves on when no member waits. -/
def sweepDevices (h : Hub) (id : Nat) (members : List Member) (report : SweepReport) : Hub :=
  if members.any Member.isWaiting then h.suspend id (.sweeping .device members report)
  else
    let report := addMembers report members
    let (h, members) := (h.countEvicted members).beginRoster .management
    h.sweepManagement id members report

/-- Begins a sweep of both rosters, as a task of its own. -/
def beginSweep (h : Hub) : Hub × Nat :=
  let (h, id) := h.newTask
  let (h, members) := h.beginRoster .device
  (h.sweepDevices id members {}, id)

/-- A sweep goes on with the members whose verdict is known. -/
def resumeSweep (h : Hub) (id : Nat) (variant : Variant) (members : List Member)
    (report : SweepReport) : Hub :=
  let (h, members) := eachMember (fun h member => h.resumeMember variant member) h members
  match variant with
  | .device => h.sweepDevices id members report
  | .management => h.sweepManagement id members report

end StationHub.Hub

import StationHub.Counters
import StationHub.Executor
import StationHub.Link.Writer
import StationHub.PathLock
import StationHub.Roster
import StationHub.Session
import StationHub.Settings
import StationHub.Upgrade

/-!
The state of a hub: its connections and sessions, the rosters of both variants, the path lock, and
the tasks that wait for something. A task runs without interruption from one wait to the next; what
it waits for, and what it needs to go on, is its activity.
-/

namespace StationHub

/-- How a session came to hold the slot of its key. -/
inductive Takeover where
  /-- The slot was empty. -/
  | registered
  /-- The slot was bound to its connection already. -/
  | alreadyCurrent
  /-- The connection in the slot was closed or gone. -/
  | replacedClosed
  /-- The connection in the slot answered a probe and was closed. -/
  | closedDuplicate
  /-- The connection in the slot did not answer. -/
  | adoptedOverDead
  deriving DecidableEq, Repr

/-- What a sweep found. -/
structure SweepReport where
  probed : Nat := 0
  alive : Nat := 0
  failed : Nat := 0
  evicted : Nat := 0
  deriving DecidableEq, Repr

/-- What a task came to. -/
inductive TaskOutcome where
  | opened (result : Except Failure Nat)
  | handled
  | tookOver (takeover : Takeover)
  | swept (report : SweepReport)
  | probed (alive : Bool)
  | answered (outcome : CallOutcome)
  | guarded (owned : Bool)

/-- How far the sweep of one registered session is. -/
inductive Member.Stage where
  | waiting (probe : Link.Probe)
  /-- The probe is decided; `evicted` if the sweep removed the session. -/
  | done (alive evicted : Bool)
  deriving DecidableEq, Repr

/-- A registered session under a sweep. -/
structure Member where
  key : Key
  link : Nat
  stage : Member.Stage
  deriving DecidableEq, Repr

/-- The member still waits for its verdict. -/
def Member.isWaiting (member : Member) : Bool :=
  match member.stage with
  | .waiting _ => true
  | .done .. => false

/-- What a task waits for and what it will need then. -/
inductive Activity where
  /-- An opening waits for the path of its target. -/
  | openWaiting (link : Nat) (target : Target)
  /-- An opening waits for the directory. -/
  | openResolving (link : Nat) (target : Target) (guard : Guard)
  /-- An opening probes the connection in the slot of its session. -/
  | openProbing (link session : Nat) (guard : Guard) (rival : Nat) (probe : Link.Probe)
  /-- A message waits while the connection in the slot of its session is probed. -/
  | messageProbing (session : Nat) (path : String) (message : Message) (rival : Nat)
      (probe : Link.Probe)
  /-- The first call of a session waits for its path. -/
  | callWaiting (session : Nat) (request : Request)
  /-- A later call is about to be executed. -/
  | callStarting (session : Nat) (request : Request)
  /-- A call waits for the executor, which was told the context; the first call of a session holds a
  guard meanwhile. -/
  | executing (session : Nat) (context : CallContext) (request : Request) (guard : Option Guard)
  /-- A session takes over the slot of its key and probes the connection in it. -/
  | takingOver (session rival : Nat) (probe : Link.Probe)
  /-- A probe waits for its verdict. -/
  | probing (link : Nat) (probe : Link.Probe)
  /-- A sweep of the roster of `variant` waits for verdicts; `report` is that of the rosters swept
  before. -/
  | sweeping (variant : Variant) (members : List Member) (report : SweepReport)
  /-- An outgoing call waits for its outcome. -/
  | calling (session : Nat) (id : String)
  /-- Somebody waits for a path. -/
  | guardWaiting
  /-- Somebody holds a guard. -/
  | guarding (guard : Guard)

/-- A task that waits. -/
structure Task where
  id : Nat
  activity : Activity

/-- How a hub marks its own calls: their identifiers, by number. They are drawn at random; nothing
is known of them but that no two are the same. -/
structure Mark where
  id : Nat → String
  distinct : Function.Injective id

namespace Mark

/-- Identifiers that are counted, with `text` in common. -/
def counted (text : String) : Mark where
  id n := "call-" ++ toString n ++ "-" ++ text
  distinct m n same := by
    have reprs : m.repr = n.repr := by simpa using same
    have digits : Nat.toDigits 10 m = Nat.toDigits 10 n := by
      simpa only [Nat.toList_repr] using congrArg String.toList reprs
    simpa using congrArg (fun digits => Nat.ofDigitChars 10 digits 0) digits

instance : Coe String Mark := ⟨counted⟩

end Mark

/-- The state of a hub. Connections and sessions are numbered in the order of their making. -/
structure Hub where
  settings : Settings
  /-- The time in milliseconds. -/
  now : Nat := 0
  counters : Counters := {}
  /-- How often the log says that an answer of the executor was dropped because no queue took it.
  Nothing depends on it. -/
  repliesDropped : Nat := 0
  lock : PathLock
  connections : List Connection := []
  sessions : List Session := []
  devices : Roster Nat Nat := []
  management : Roster Nat Nat := []
  stopping : Bool := false
  mark : Mark
  /-- The tasks that wait, in the order in which they began to. -/
  tasks : List Task := []
  nextTask : Nat := 0
  nextMessage : Nat := 0
  /-- What tasks came to and nobody has taken note of yet, oldest first. -/
  finished : List (Nat × TaskOutcome) := []

namespace Hub

/-- A hub at its start. -/
def fresh (settings : Settings) (mark : Mark := .counted "hub") : Hub :=
  { settings
    lock := { budget := settings.lockBudget, alarmThreshold := settings.alarmThreshold }
    mark }

/-! ### Parts of the state -/

/-- Connection number `i`. -/
def connection? (h : Hub) (i : Nat) : Option Connection := h.connections[i]?

/-- The hub's end of connection number `i`. -/
def link? (h : Hub) (i : Nat) : Option Link := (h.connection? i).map Connection.link

/-- Session number `i`. -/
def session? (h : Hub) (i : Nat) : Option Session := h.sessions[i]?

/-- The hub with connection number `i` changed. -/
def modifyConnection (h : Hub) (i : Nat) (change : Connection → Connection) : Hub :=
  { h with connections := h.connections.modify i change }

/-- The hub with its end of connection number `i` changed. -/
def modifyLink (h : Hub) (i : Nat) (change : Link → Link) : Hub :=
  h.modifyConnection i fun c => { c with link := change c.link }

/-- The hub with session number `i` changed. -/
def modifySession (h : Hub) (i : Nat) (change : Session → Session) : Hub :=
  { h with sessions := h.sessions.modify i change }

/-- The roster of a variant. -/
def roster (h : Hub) : Variant → Roster Nat Nat
  | .device => h.devices
  | .management => h.management

/-- The hub with the roster of a variant replaced. -/
def setRoster (h : Hub) (variant : Variant) (roster : Roster Nat Nat) : Hub :=
  match variant with
  | .device => { h with devices := roster }
  | .management => { h with management := roster }

/-- The session registered under `key`. -/
def registered? (h : Hub) (variant : Variant) (key : Key) : Option (Slot Nat Nat) :=
  Table.get? key (h.roster variant)

/-- The hub with one more occasion counted. -/
def count (h : Hub) (occasion : Counters.Occasion) : Hub :=
  { h with counters := h.counters.count occasion }

/-- The counters, with the exhausted attempts of the path lock among them. -/
def tally (h : Hub) : Counters := { h.counters with lockExhausted := h.lock.exhausted }

/-! ### Connections that somebody still refers to -/

/-- The connections that an activity keeps in existence. A session does not keep its connection. -/
def holds (h : Hub) : Activity → List Nat
  | .openWaiting link _ => [link]
  | .openResolving link _ _ => [link]
  | .openProbing link _ _ rival _ => [link, rival]
  | .messageProbing _ _ _ rival _ => [rival]
  | .executing session .. => (h.session? session).toList.map Session.link
  | .takingOver _ rival _ => [rival]
  | .probing link _ => [link]
  | .sweeping _ members _ =>
      members.filterMap fun member =>
        match member.stage with
        | .waiting _ => some member.link
        | .done .. => none
  | _ => []

/-- Connection number `i` still exists: its socket side or a task refers to it. -/
def isAlive (h : Hub) (i : Nat) : Bool :=
  (h.connection? i).any Connection.isKept ||
    h.tasks.any fun task => (h.holds task.activity).contains i

/-- The connection of a session, if it still exists. -/
def linkOf? (h : Hub) (session : Session) : Option Link :=
  if h.isAlive session.link then h.link? session.link else none

/-- Session number `i`, if its connection still exists. -/
def present? (h : Hub) (i : Nat) : Option Session :=
  (h.session? i).filter fun session => (h.linkOf? session).isSome

/-- The connection of a session exists and is open. -/
def isOpen (h : Hub) (session : Session) : Bool :=
  (h.linkOf? session).any fun link => !link.closed

/-! ### Tasks -/

/-- A number for a new task. -/
def newTask (h : Hub) : Hub × Nat := ({ h with nextTask := h.nextTask + 1 }, h.nextTask)

/-- Task number `id` waits from now on. -/
def suspend (h : Hub) (id : Nat) (activity : Activity) : Hub :=
  { h with tasks := h.tasks ++ [⟨id, activity⟩] }

/-- Task number `id` has come to `outcome`. -/
def conclude (h : Hub) (id : Nat) (outcome : TaskOutcome) : Hub :=
  { h with finished := h.finished ++ [(id, outcome)] }

/-- Somebody takes note of what task number `id` has come to. -/
def takeOutcome? (h : Hub) (id : Nat) : Option (Hub × TaskOutcome) :=
  (h.finished.lookup id).map fun outcome =>
    ({ h with finished := h.finished.filter fun other => other.1 != id }, outcome)

/-- The hub without task number `id`, which is about to go on. -/
def detach (h : Hub) (id : Nat) : Hub :=
  { h with tasks := h.tasks.filter fun task => task.id != id }

/-- Task number `id`, if it waits. -/
def task? (h : Hub) (id : Nat) : Option Task := h.tasks.find? fun task => task.id == id

/-- A guard is given up. -/
def release (h : Hub) (guard : Guard) : Hub := { h with lock := h.lock.release guard }

/-! ### Closing and sending -/

/-- Closes connection number `i`, and whether it was open. -/
def closeLink (h : Hub) (i : Nat) (cause : CloseCause) : Hub × Bool :=
  match h.link? i with
  | none => (h, false)
  | some link => (h.modifyLink i fun _ => (link.close cause).1, (link.close cause).2)

/-- As `closeLink`, where it does not matter whether the connection was open. -/
def closed (h : Hub) (i : Nat) (cause : CloseCause) : Hub := (h.closeLink i cause).1

/-- Offers a text to the queue of connection number `i`. -/
def sendText (h : Hub) (i : Nat) (text : String) : Hub × Delivery :=
  match h.link? i with
  | none => (h, .refused)
  | some link => (h.modifyLink i fun _ => (link.sendText text).1, (link.sendText text).2)

/-- Begins a probe of connection number `i`. -/
def startProbe (h : Hub) (i wait : Nat) : Hub × Option Link.Probe :=
  match h.link? i with
  | none => (h, none)
  | some link =>
      (h.modifyLink i fun _ => (link.startProbe h.now wait).1, (link.startProbe h.now wait).2)

/-- The verdict of a probe of connection number `i`, if there is one yet. -/
def verdict? (h : Hub) (i : Nat) (probe : Link.Probe) : Option Bool :=
  (h.link? i).bind fun link => probe.verdict? link h.now

/-! ### Outgoing calls -/

/-- The identifier of outgoing call number `n`. -/
def messageId (h : Hub) (n : Nat) : String := h.mark.id n

/-- The identifier is that of a call that was made. -/
def isOwnCall (h : Hub) (id : String) : Bool :=
  (List.range h.nextMessage).any fun n => h.messageId n == id

/-- Sends a call to the peer of session number `i`: its identifier, or why it was not sent. A call
that was not queued leaves nothing behind. -/
def sendCall (h : Hub) (i : Nat) (command : String) (payload : Json) :
    Hub × Except Failure String :=
  match h.session? i with
  | none => (h, .error .closed)
  | some session =>
      if !h.isOpen session then (h, .error .closed)
      else
        let id := h.messageId h.nextMessage
        let h := { h with nextMessage := h.nextMessage + 1 }
        if session.isFull then
          (h, .error (.tooMany session.pending.length session.maxPending))
        else
          let (h, delivery) := h.sendText session.link (Message.call id command payload).encode
          if delivery.isQueued then
            (h.modifySession i fun session => session.issue id command h.now, .ok id)
          else (h, .error .dropped)

/-- Settles a call of session number `i`, and whether it was pending. An answer to no pending call
is counted and changes nothing else. -/
def settle (h : Hub) (i : Nat) (id : String) (outcome : CallOutcome) : Hub × Bool :=
  match (h.session? i).bind fun session => session.settle? id outcome with
  | some next => (h.modifySession i fun _ => next, true)
  | none => (h.count .unknownResponse, false)

/-- Fails all pending calls of session number `i`, and how many there were. -/
def failPending (h : Hub) (i : Nat) : Hub × Nat :=
  match h.session? i with
  | none => (h, 0)
  | some session => (h.modifySession i fun _ => session.failPending.1, session.failPending.2)

/-- The time of a pending call of session number `i` runs out. -/
def expire? (h : Hub) (i : Nat) (id : String) : Option Hub :=
  ((h.session? i).bind fun session => session.expire? id h.now).map fun next =>
    (h.modifySession i fun _ => next).count .timedOut

end Hub

end StationHub

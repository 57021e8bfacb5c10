import StationHub.Hub.Run
import StationHub.Rehearsal.Agenda
import StationHub.Rehearsal.Labels
import StationHub.Rehearsal.Play
import StationHub.Rehearsal.Services

/-!
A hub with all that surrounds it in a rehearsal: sockets whose peers answer, keep silent, stall or
fail; a directory and an executor; and somebody who watches what the hub's tasks come to. All who
act take turns: whoever has the turn goes on until there is something to wait for, and those who can
go on then have their turn after all who could before.
-/

namespace StationHub.Rehearsal

/-- How the peer at the other end of a socket behaves. -/
inductive Mode where
  /-- It takes everything, and answers pings. -/
  | answer
  /-- It takes everything, and answers no pings. -/
  | silent
  /-- It takes nothing, so that the writer hangs. -/
  | stalled
  /-- Its socket fails. -/
  | broken
  deriving DecidableEq, Repr

/-- A connection as its socket side knows it. -/
structure Side where
  name : String
  target : Target
  mode : Mode
  /-- How long a pong takes. -/
  pongDelay : Nat := 0
  /-- The session that its last successful opening made. -/
  session : Option Nat := none

/-- A pong on its way. -/
structure Pong where
  number : Nat
  /-- The number of the connection. -/
  link : Nat
  /-- When it arrives. -/
  due : Nat

/-- What a task is waiting for outside the hub. -/
inductive Work where
  /-- The directory answers at `due`. -/
  | resolving (target : Target) (due : Nat)
  /-- The executor answers at `due`. -/
  | sleeping (ms due : Nat)
  /-- The executor waits for the call that task `inner` makes. -/
  | relaying (inner : Nat)

/-- Somebody who asks for a path under a name. -/
structure Holder where
  name : String
  task : Nat
  dismissed : Bool := false

/-- Somebody who acts. -/
inductive Actor where
  /-- A task of the hub. -/
  | task (id : Nat)
  /-- The writer of a connection. -/
  | writer (link : Nat)
  /-- The timer of an outgoing call. -/
  | timer (session : Nat) (call : String)
  /-- A pong on its way. -/
  | pong (number : Nat)
  deriving DecidableEq, Repr

/-- A hub and its surroundings. -/
structure World where
  hub : Hub
  resolver : Resolver := {}
  /-- The socket sides, by the number of the connection. -/
  sides : List Side := []
  /-- The connections that have a name now. -/
  names : Table String Nat := []
  work : Table Nat Work := []
  /-- The pongs on their way, in the order in which they were sent. -/
  pongs : List Pong := []
  nextPong : Nat := 0
  holders : List Holder := []
  /-- Who acts next. -/
  agenda : Agenda Actor := {}
  /-- The tasks that are watched, with the step that began each. -/
  watched : Table Nat Nat := []
  /-- What watched tasks came to, by the number of the step, oldest first. -/
  done : List (Nat × TaskOutcome) := []
  /-- What sockets took, by the number of the connection, oldest first. -/
  out : List (Nat × Wire) := []
  labels : Labels := []

namespace World

/-- The socket side of connection number `i`. -/
def side? (w : World) (i : Nat) : Option Side := w.sides[i]?

/-- The world with socket side number `i` changed. -/
def modifySide (w : World) (i : Nat) (change : Side → Side) : World :=
  { w with sides := w.sides.modify i change }

/-- The world after a move of its hub. -/
def hubMove? (w : World) (move : Hub.Move) : Option World :=
  (w.hub.step? move).map fun hub => { w with hub }

/-- As `hubMove?`, for moves that are always possible. -/
def hubMove (w : World) (move : Hub.Move) : World := (w.hubMove? move).getD w

/-! ### Watching -/

/-- An identifier in the outcome is noted, whoever it concerns. -/
def note (w : World) : TaskOutcome → World
  | .answered (.error (.timedOut id _ _)) => { w with labels := w.labels.see id }
  | _ => w

/-- What a watched task came to is noted under its step; a session that was opened belongs to its
connection from now on. -/
def report (w : World) (step : Nat) (outcome : TaskOutcome) : World :=
  let w := { w with done := w.done ++ [(step, outcome)] }
  match outcome with
  | .opened (.ok session) =>
      match w.hub.session? session with
      | none => w
      | some s => w.modifySide s.link fun side => { side with session := some session }
  | _ => w

/-- The task that waits for the call of task `inner`. -/
def relayOf? (w : World) (inner : Nat) : Option Nat :=
  w.work.findSome? fun (task, work) =>
    match work with
    | .relaying other => if other = inner then some task else none
    | _ => none

/-- The outcomes of tasks are passed on to those who watch them. What a call in a relay came to is
left to the task that waits for it. -/
def collect (w : World) : World :=
  let (kept, others) := w.hub.finished.partition fun (task, _) => (w.relayOf? task).isSome
  others.foldl (fun w (task, outcome) =>
    let w := w.note outcome
    match w.watched.get? task with
    | some step => w.report step outcome
    | none => w) { w with hub := { w.hub with finished := kept } }

/-! ### Tasks -/

/-- The executor begins a call. -/
def beginCommand (w : World) (task : Nat) (context : CallContext) (request : Request) : World :=
  match Command.ofCall context request.command request.payload with
  | .reply reply => w.hubMove (.executorAnswers task reply)
  | .slow ms => { w with work := w.work.put task (.sleeping ms (w.hub.now + ms)) }
  | .held path => w.hubMove (.executorAnswers task (.ok (.bool (w.hub.lock.isHeld path))))
  | .relay variant key command payload =>
      let (hub, inner) := w.hub.beginCall variant key command payload
      { w with hub, work := w.work.put task (.relaying inner) }

/-- The directory begins to identify a peer. -/
def beginResolving (w : World) (task : Nat) (target : Target) : World :=
  { w with work := w.work.put task (.resolving target (w.hub.now + w.resolver.delay)) }

/-- The world after a move of its hub that ends the work of a task. -/
def endWork (w : World) (task : Nat) (move : Hub.Move) : World :=
  { w with work := w.work.erase task }.hubMove move

/-- The call in a relay has come to something, or can. -/
def hasOutcome (w : World) (inner : Nat) : Bool :=
  (w.hub.finished.lookup inner).isSome || (w.hub.task? inner).any w.hub.isReady

/-- Task `inner`, which makes the call in a relay of task `task`, goes on. -/
def relay (w : World) (task inner : Nat) : World :=
  match w.hub.takeOutcome? inner with
  | some (hub, outcome) =>
      let w := { w with hub }.note outcome
      match outcome with
      | .answered result => w.endWork task (.executorAnswers task (Command.relayed result))
      | _ => w
  | none => w.hubMove (.resume inner)

/-- The task has a guard that somebody was told to let go of. -/
def isDismissed (w : World) (task : Nat) : Bool :=
  w.holders.any fun holder => holder.task == task && holder.dismissed

/-- The task can go on. -/
def canGoOn (w : World) (task : Task) : Bool :=
  match w.work.get? task.id with
  | some (.resolving _ due) => decide (due ≤ w.hub.now)
  | some (.sleeping _ due) => decide (due ≤ w.hub.now)
  | some (.relaying inner) => w.hasOutcome inner
  | none =>
      match task.activity with
      | .openResolving .. | .executing .. => true
      | .guarding _ => w.isDismissed task.id
      | _ => w.hub.isReady task

/-- The world after the next thing that a task does. -/
def goOn (w : World) (task : Task) : World :=
  match w.work.get? task.id with
  | some (.resolving target _) =>
      w.endWork task.id (.directoryAnswers task.id (w.resolver.resolve target))
  | some (.sleeping ms _) => w.endWork task.id (.executorAnswers task.id (Command.slept ms))
  | some (.relaying inner) => w.relay task.id inner
  | none =>
      match task.activity with
      | .openResolving _ target _ => w.beginResolving task.id target
      | .executing _ context request _ => w.beginCommand task.id context request
      | .guarding _ =>
          { w.hubMove (.cancel task.id) with
            holders := w.holders.filter fun holder => holder.task != task.id }
      | _ => w.hubMove (.resume task.id)

/-- Task number `id` goes on until it has to wait; `fuel` bounds what it does. -/
def runTask : (fuel : Nat) → World → Nat → World
  | 0, w, _ => w
  | fuel + 1, w, id =>
      match w.hub.task? id with
      | none => w
      | some task => if w.canGoOn task then runTask fuel (w.goOn task) id else w

/-! ### Sockets -/

/-- A pong is sent on its way. -/
def sendPong (w : World) (i delay : Nat) : World :=
  { w.hubMove (.holding i) with
    pongs := w.pongs ++ [⟨w.nextPong, i, w.hub.now + delay⟩]
    nextPong := w.nextPong + 1 }

/-- The pong of that number arrives if it is due. -/
def runPong (w : World) (number : Nat) : World :=
  match w.pongs.find? fun pong => pong.number == number && decide (pong.due ≤ w.hub.now) with
  | none => w
  | some pong =>
      { (w.hubMove (.pong pong.link)).hubMove (.lettingGo pong.link) with
        pongs := w.pongs.filter fun other => other.number != number }

/-- The identifier of a call that the hub itself makes with this text. -/
def ownCall? (w : World) (text : String) : Option String :=
  match Message.decode text with
  | .ok (.call id _ _) => if w.hub.isOwnCall id then some id else none
  | _ => none

/-- A socket has taken something. -/
def took (w : World) (i : Nat) (side : Side) (wire : Wire) : World :=
  let w := { w with out := w.out ++ [(i, wire)] }
  match wire with
  | .parcel (.text text) =>
      match w.ownCall? text with
      | some id => { w with labels := w.labels.see id }
      | none => w
  | .parcel (.ping _) =>
      if side.mode = .answer then
        if side.pongDelay = 0 then w.hubMove (.pong i) else w.sendPong i side.pongDelay
      else w
  | _ => w

/-- What a socket has taken in its last move. -/
def lastTaken? (w : World) (i count : Nat) : Option Wire :=
  ((w.hub.connection? i).map fun c => c.written.drop count).bind List.head?

/-- The socket takes what the writer of connection number `i` hands to it. -/
def accept? (w : World) (i : Nat) (side : Side) : Option World :=
  let count := ((w.hub.connection? i).map fun c => c.written.length).getD 0
  (w.hubMove? (.socketTakes i)).map fun next =>
    match next.lastTaken? i count with
    | some wire => next.took i side wire
    | none => next

/-- The writer of connection number `i` is about to close the socket. -/
def isFinishing (w : World) (i : Nat) : Bool :=
  (w.hub.connection? i).any fun c =>
    match c.writer with
    | .finishing _ => true
    | _ => false

/-- The writer of connection number `i` or its socket goes on. -/
def write? (w : World) (i : Nat) (side : Side) : Option World :=
  ((w.hubMove? (.takeUp i)).orElse fun _ =>
    match side.mode with
    | .answer | .silent => w.accept? i side
    | .stalled => none
    | .broken =>
        if w.isFinishing i then w.accept? i side else w.hubMove? (.socketFails i)).orElse fun _ =>
  w.hubMove? (.writerExpires i)

/-- The writer of connection number `i` can go on. -/
def canWrite (w : World) (i : Nat) (side : Side) : Bool :=
  (w.hub.connection? i).any fun c =>
    match c.writer with
    | .idle => c.link.closed || !c.link.queue.isEmpty
    | .sending _ => side.mode != .stalled
    | .saying deadline | .finishing deadline =>
        side.mode != .stalled || decide (deadline ≤ w.hub.now)
    | .ended => false

/-- The writer of connection number `i` is about to take up a parcel. -/
def isTaking (w : World) (i : Nat) : Bool :=
  (w.hub.connection? i).any fun c =>
    decide (c.writer = .idle) && !c.link.closed && !c.link.queue.isEmpty

/-- The writer of connection number `i` goes on until it has to wait, or has taken up `parcels`
parcels; `fuel` bounds what it does. -/
def runWriter : (fuel parcels : Nat) → World → Nat → World
  | 0, _, w, _ => w
  | fuel + 1, parcels, w, i =>
      match (w.side? i).bind (w.write? i) with
      | none => w
      | some next =>
          if w.isTaking i then
            match parcels with
            | 0 => w
            | parcels + 1 => runWriter fuel parcels next i
          else runWriter fuel parcels next i

/-! ### Taking turns -/

/-- How many parcels a writer takes up in one turn. -/
def batch : Nat := 128

/-- The world after what `actor` does in one turn. -/
def run (w : World) : Actor → World
  | .task id => w.runTask Play.plenty id
  | .writer i => w.runWriter (2 * batch + 4) batch i
  | .timer session call => (w.hubMove? (.expire session call)).getD w
  | .pong number => w.runPong number

/-- When the waits of a task run out. -/
def taskDue : Activity → List Nat
  | .openProbing _ _ _ _ probe => [probe.deadline]
  | .messageProbing _ _ _ _ probe => [probe.deadline]
  | .takingOver _ _ probe => [probe.deadline]
  | .probing _ probe => [probe.deadline]
  | .sweeping _ members _ =>
      members.filterMap fun member =>
        match member.stage with
        | .waiting probe => some probe.deadline
        | .done .. => none
  | _ => []

/-- When an answer is due. -/
def workDue : Work → List Nat
  | .resolving _ due => [due]
  | .sleeping _ due => [due]
  | .relaying _ => []

/-- When the waits of somebody who acts run out. -/
def due (w : World) : Actor → List Nat
  | .task id =>
      (w.hub.lock.waiter? id).toList.map Waiter.deadline ++
        (w.hub.task? id).toList.flatMap (fun task => taskDue task.activity) ++
        (w.work.get? id).toList.flatMap workDue
  | .writer i => ((w.hub.connection? i).bind Connection.deadline?).toList
  | .timer session call =>
      (((w.hub.session? session).bind fun s => s.pending? call).map Pending.deadline).toList
  | .pong number =>
      ((w.pongs.find? fun pong => pong.number == number).map Pong.due).toList

/-- The timers of calls, those of one session after those of the sessions before. -/
def timers (w : World) : List Actor :=
  w.hub.sessions.zipIdx.flatMap fun (session, i) =>
    session.pending.map fun pending => .timer i pending.id

/-- Whoever waits for a moment can act once it has come, or to set an alarm for it. -/
def isDue (w : World) (actor : Actor) : Bool :=
  (w.due actor).any fun time => decide (time ≤ w.hub.now) || !w.agenda.hasAlarm actor

/-- All who can act: timers that have begun, then writers, then tasks, then pongs. -/
def ready (w : World) : List Actor :=
  w.timers.filter w.isDue ++
    (w.sides.zipIdx.filter fun (side, i) => w.canWrite i side).map (fun (_, i) => .writer i) ++
    (w.hub.tasks.filter fun task => w.canGoOn task && (w.relayOf? task.id).isNone).map
      (fun task => .task task.id) ++
    (w.pongs.map fun pong => Actor.pong pong.number).filter w.isDue

/-- After somebody has acted outcomes are passed on, and all who can act are called. -/
def attend (w : World) : World :=
  let w := w.collect
  { w with agenda := w.agenda.callAll w.ready }

/-- The actor is a task that waits for a path. -/
def isWaiter (w : World) : Actor → Bool
  | .task id => (w.hub.lock.waiter? id).isSome
  | _ => false

/-- `actor` has its turn. Whoever waits for a path sets its alarm anew when it waits again. -/
def turn (w : World) (actor : Actor) : World :=
  let agenda := if w.isWaiter actor then w.agenda.setAlarms actor [] else w.agenda
  let w := { w with agenda }.run actor
  { w with agenda := w.agenda.setAlarms actor (w.due actor) }

/-- The turn of the first in the queue. -/
def move? (w : World) : Option World :=
  w.agenda.next?.map fun (actor, agenda) => ({ w with agenda }.turn actor).attend

/-- How a world is played. -/
def play : Play World where
  now w := w.hub.now
  atTime time w :=
    let w := w.hubMove (.advance (time - w.hub.now))
    { w with agenda := w.agenda.ring time }
  move? := move?
  due w := w.agenda.alarms.map (·.1)

end World

end StationHub.Rehearsal

import StationHub.Hub.Calling
import StationHub.Hub.Closing
import StationHub.Hub.Handling
import StationHub.Hub.Opening

/-!
Runs of a hub. A hub moves when somebody outside does something, when a task goes on that has what
it waits for, and when time passes. `step?` makes one such move; a run is a sequence of them, in any
order in which each is possible.
-/

namespace StationHub

namespace Hub

/-- Begins the takeover of the slot of session number `session`, as a task of its own. -/
def beginReconcile (h : Hub) (session : Nat) : Hub × Nat :=
  let (h, id) := h.newTask
  match h.session? session with
  | none => (h, id)
  | some s =>
      match h.beginTakeover session s with
      | (h, .done takeover) => (h.conclude id (.tookOver takeover), id)
      | (h, .probing rival probe) => (h.suspend id (.takingOver session rival probe), id)

/-- Probes connection number `link`, as a task of its own. -/
def beginProbe (h : Hub) (link wait : Nat) : Hub × Nat :=
  let (h, id) := h.newTask
  match h.startProbe link wait with
  | (h, none) => (h.conclude id (.probed false), id)
  | (h, some probe) => (h.suspend id (.probing link probe), id)

/-- Somebody who has a guard keeps it until told otherwise. -/
def keepGuard (h : Hub) (id : Nat) (guard : Guard) : Hub :=
  (h.conclude id (.guarded guard.owned)).suspend id (.guarding guard)

/-- Asks for a path, as a task of its own. -/
def beginGuard (h : Hub) (path : String) : Hub × Nat :=
  let (h, id) := h.newTask
  match h.lock.request id path h.now with
  | (lock, some guard) => ({ h with lock }.keepGuard id guard, id)
  | (lock, none) => ({ h with lock }.suspend id .guardWaiting, id)

/-! ### Tasks that can go on -/

/-- The task has what it waits for, without an answer from outside. -/
def isReady (h : Hub) (task : Task) : Bool :=
  match task.activity with
  | .openWaiting .. | .callWaiting .. | .guardWaiting => h.lock.isReady task.id h.now
  | .openProbing _ _ _ rival probe => (h.verdict? rival probe).isSome
  | .messageProbing _ _ _ rival probe => (h.verdict? rival probe).isSome
  | .takingOver _ rival probe => (h.verdict? rival probe).isSome
  | .probing link probe => (h.verdict? link probe).isSome
  | .callStarting .. => true
  | .sweeping _ members _ =>
      members.any fun member =>
        match member.stage with
        | .waiting probe => (h.verdict? member.link probe).isSome
        | .done .. => false
  | .calling session id => ((h.session? session).bind fun s => s.outcome? id).isSome
  | .openResolving .. | .executing .. | .guarding _ => false

/-- A task tries for its path again; `next` is what it does with its guard. -/
def resumeLock (h : Hub) (task : Task) (next : Hub → Guard → Hub) : Hub :=
  match h.lock.resume task.id h.now with
  | (lock, some guard) => next { h with lock } guard
  | (lock, none) => { h with lock }.suspend task.id task.activity

/-- A task looks at its probe; `next` is what it does with the verdict. -/
def resumeProbe (h : Hub) (task : Task) (link : Nat) (probe : Link.Probe)
    (next : Hub → Bool → Hub) : Hub :=
  match h.verdict? link probe with
  | some alive => next h alive
  | none => h.suspend task.id task.activity

/-- The takeover of session number `session` ends with the verdict on `rival`. -/
def concludeTakeover (h : Hub) (session rival : Nat) (alive : Bool) : Hub × Takeover :=
  match h.session? session with
  | none => (h, .adoptedOverDead)
  | some s => h.endTakeover session s rival alive

/-- A task goes on. -/
def resume (h : Hub) (task : Task) : Hub :=
  let id := task.id
  let h := h.detach id
  match task.activity with
  | .openWaiting link target =>
      h.resumeLock task fun h guard => h.afterGuard id link target guard
  | .openProbing link session guard rival probe =>
      h.resumeProbe task rival probe fun h alive =>
        (h.concludeTakeover session rival alive).1.afterTakeover id link session guard
  | .messageProbing session path message rival probe =>
      h.resumeProbe task rival probe fun h alive =>
        (h.concludeTakeover session rival alive).1.receive id session path message
  | .callWaiting session request =>
      h.resumeLock task fun h guard => h.execute id session request (some guard)
  | .callStarting session request => h.execute id session request none
  | .takingOver session rival probe =>
      h.resumeProbe task rival probe fun h alive =>
        let (h, takeover) := h.concludeTakeover session rival alive
        h.conclude id (.tookOver takeover)
  | .probing link probe =>
      h.resumeProbe task link probe fun h alive => h.conclude id (.probed alive)
  | .sweeping variant members report => h.resumeSweep id variant members report
  | .calling session call =>
      match (h.session? session).bind fun s => s.outcome? call with
      | some outcome => h.conclude id (.answered outcome)
      | none => h.suspend id task.activity
  | .guardWaiting => h.resumeLock task fun h guard => h.keepGuard id guard
  | .openResolving .. | .executing .. | .guarding _ => h.suspend id task.activity

/-- The directory answers an opening. -/
def directoryAnswers? (h : Hub) (id : Nat) (answer : Except Failure Identity) : Option Hub :=
  match (h.task? id).map Task.activity with
  | some (.openResolving link _ guard) => some ((h.detach id).afterDirectory id link guard answer)
  | _ => none

/-- The executor answers a call. -/
def executorAnswers? (h : Hub) (id : Nat) (reply : Reply) : Option Hub :=
  match (h.task? id).map Task.activity with
  | some (.executing session _ request guard) =>
      some ((h.detach id).afterExecution id session request guard reply)
  | _ => none

/-- The guard that a task holds. -/
def Activity.guard? : Activity → Option Guard
  | .openResolving _ _ guard => some guard
  | .openProbing _ _ guard _ _ => some guard
  | .executing _ _ _ guard => guard
  | .guarding guard => some guard
  | _ => none

/-- A task is given up wherever it is: it waits for nothing any more and gives up its guard. -/
def cancel (h : Hub) (id : Nat) : Hub :=
  match h.task? id with
  | none => h
  | some task =>
      let h := { h.detach id with lock := h.lock.withdraw id }
      match Activity.guard? task.activity with
      | some guard => h.release guard
      | none => h

/-! ### Writers -/

/-- Changes connection number `i` if that is possible. -/
def changeConnection? (h : Hub) (i : Nat) (change : Connection → Option Connection) :
    Option Hub :=
  ((h.connection? i).bind change).map fun next => h.modifyConnection i fun _ => next

/-! ### Moves -/

/-- A move of a hub. -/
inductive Move where
  /-- An upgrade is accepted. -/
  | accept (variant : Variant)
  /-- An upgrade is refused. -/
  | refuse
  | opening (link : Nat) (target : Target)
  | handling (session : Nat) (path : String) (decoded : Except Message.Malformation Message)
  /-- Somebody calls the peer of a session. -/
  | sending (session : Nat) (command : String) (payload : Json)
  /-- Somebody calls the peer registered under a key. -/
  | calling (variant : Variant) (key : Key) (command : String) (payload : Json)
  /-- An answer to a call comes. -/
  | settling (session : Nat) (id : String) (answer : Answer)
  | failing (session : Nat)
  | reconciling (session : Nat)
  | sweeping
  | probing (link wait : Nat)
  | ping (link : Nat)
  | pong (link : Nat)
  | text (link : Nat) (text : String)
  | close (link : Nat) (cause : CloseCause)
  | ending (link : Nat) (session : Option Nat)
  /-- The writer of a connection is stopped. -/
  | stopping (link : Nat)
  /-- One more on the socket side holds a connection. -/
  | holding (link : Nat)
  /-- One on the socket side lets go of a connection. -/
  | lettingGo (link : Nat)
  | closeAll (cause : CloseCause)
  | shutDown
  | guarding (path : String)
  | cancel (task : Nat)
  /-- A task that is ready goes on. -/
  | resume (task : Nat)
  | directoryAnswers (task : Nat) (answer : Except Failure Identity)
  | executorAnswers (task : Nat) (reply : Reply)
  /-- The time of a call is over. -/
  | expire (session : Nat) (id : String)
  /-- The writer of a connection takes something up. -/
  | takeUp (link : Nat)
  | socketTakes (link : Nat)
  | socketFails (link : Nat)
  /-- The writer of a connection runs out of patience. -/
  | writerExpires (link : Nat)
  /-- Time passes. -/
  | advance (ms : Nat)

/-- The hub after a move, if the move is possible. -/
def step? (h : Hub) : Move → Option Hub
  | .accept variant => some (h.accept variant).1
  | .refuse => some (h.count .rejected)
  | .opening link target =>
      if h.isAlive link then some (h.beginOpening link target).1 else none
  | .handling session path decoded => some (h.beginHandling session path decoded).1
  | .sending session command payload => some (h.sendCall session command payload).1
  | .calling variant key command payload => some (h.beginCall variant key command payload).1
  | .settling session id answer => some (h.settle session id answer.outcome).1
  | .failing session => some (h.failPending session).1
  | .reconciling session => some (h.beginReconcile session).1
  | .sweeping => some h.beginSweep.1
  | .probing link wait => some (h.beginProbe link wait).1
  | .ping link => some (h.modifyLink link fun l => (l.ping h.now).1)
  | .pong link => some (h.modifyLink link fun l => l.pong h.now)
  | .text link text => some (h.sendText link text).1
  | .close link cause => some (h.closed link cause)
  | .ending link session => some (h.handleEnd link session)
  | .stopping link => some (h.modifyConnection link Connection.stop)
  | .holding link => if h.isAlive link then some (h.modifyConnection link Connection.hold) else none
  | .lettingGo link => some (h.modifyConnection link Connection.letGo)
  | .closeAll cause => some (h.closeAll cause).1
  | .shutDown => some h.shutDown.1
  | .guarding path => some (h.beginGuard path).1
  | .cancel task => some (h.cancel task)
  | .resume id =>
      match h.task? id with
      | none => none
      | some task => if h.isReady task then some (h.resume task) else none
  | .directoryAnswers task answer => h.directoryAnswers? task answer
  | .executorAnswers task reply => h.executorAnswers? task reply
  | .expire session id => h.expire? session id
  | .takeUp link => h.changeConnection? link fun c => c.takeUp? h.now
  | .socketTakes link => h.changeConnection? link Connection.accepted?
  | .socketFails link => h.changeConnection? link Connection.failed?
  | .writerExpires link => h.changeConnection? link fun c => c.expired? h.now
  | .advance ms => some { h with now := h.now + ms }

/-- The hub after a sequence of moves, if each was possible. -/
def run? (h : Hub) (moves : List Move) : Option Hub := moves.foldlM step? h

end Hub

end StationHub

import StationHub.Health
import StationHub.Rehearsal.World

/-!
Scripts for rehearsals of a hub. Each step of a script does one thing to the hub or its
surroundings, and then whatever follows from it without time passing happens.
-/

namespace StationHub.Rehearsal

/-- What can be done in a rehearsal. -/
inductive Step where
  | accept (name path : String) (protocol : Option String) (mode : Mode) (pongDelay : Nat)
  | opening (name : String)
  | message (name text : String)
  | binary (name : String) (bytes : List UInt8)
  /-- A call through the session of a connection. -/
  | sessionCall (name command : String) (payload : Json)
  /-- A call of whoever is registered under a key. -/
  | call (variant : Variant) (key : Key) (command : String) (payload : Json)
  | resolve (name id : String) (payload : Json)
  | reject (name id : String) (rejection : Rejection)
  | isPending (name id : String)
  | failPending (name : String)
  | session (name : String)
  | reconcile (name : String)
  | sweep
  | ping (name : String)
  | pong (name : String)
  | probe (name : String) (ms : Nat)
  | fail (name : String)
  | send (name text : String)
  | close (name : String) (cause : CloseCause)
  /-- The end of a connection is handled, with its session unless `withoutSession`. -/
  | ending (name : String) (withoutSession : Bool)
  | peer (name : String) (mode : Mode) (pongDelay : Nat)
  /-- The socket side of a connection vanishes, and its name with it. -/
  | drop (name : String)
  | lookup (variant : Variant) (key : Key)
  | shutDown
  | closeAll (cause : CloseCause)
  | addTenant (tenant : Tenant)
  | addDevice (tenant token : String) (device : Device)
  | removeDevice (key : Key)
  /-- Somebody asks for a path. Whoever had the name before is told to let go. -/
  | lock (who path : String)
  | unlock (who : String)
  /-- A request to the health endpoint. -/
  | http (method target : String)
  | advance (ms : Nat)
  /-- Something on a connection that has no name. -/
  | unknown

/-- What a step answers at once. -/
inductive Answer where
  | nothing
  | noConnection
  | noSession
  | upgraded (result : Except Upgrade.Refusal Target)
  | sent (id command : String)
  | failed (failure : Failure)
  | success (value : Bool)
  | count (value : Nat)
  | delivered (delivery : Delivery)
  /-- A session, and whether its connection is closed or gone. -/
  | session (session : Session) (closed : Bool)
  | name (name : Option String)
  | response (response : Health.Response)

namespace World

/-- The world in which the outcome of a task is watched for step `number`. -/
def watch (w : World) (number task : Nat) : World :=
  { w with watched := w.watched.put task number }

/-- Starts a task of the hub, which goes on at once, for step `number`. -/
def start (w : World) (number : Nat) (begun : Hub × Nat) : World × Answer :=
  (({ w with hub := begun.1 }.watch number begun.2).turn (.task begun.2), .nothing)

/-- Nobody reads from connection number `i` any more. -/
def letGo (w : World) (i : Nat) : World := w.hubMove (.lettingGo i)

/-- Acts on the connection of that name. -/
def onConnection (w : World) (name : String) (act : Nat → Side → World × Answer) :
    World × Answer :=
  match (w.names.get? name).bind fun i => (w.side? i).map fun side => (i, side) with
  | some (i, side) => act i side
  | none => (w, .noConnection)

/-- Acts on the session of the connection of that name. -/
def onSession (w : World) (name : String) (act : Nat → Session → Side → World × Answer) :
    World × Answer :=
  w.onConnection name fun _ side =>
    match side.session.bind fun number => (w.hub.session? number).map fun s => (number, s) with
    | some (number, session) => act number session side
    | none => (w, .noSession)

/-- A connection is accepted, or its upgrade refused. A connection that had the name before goes on
without one. -/
def accept (w : World) (name path : String) (protocol : Option String) (mode : Mode)
    (pongDelay : Nat) : World × Answer :=
  match Upgrade.target w.hub.settings path protocol with
  | .error refusal => (w.hubMove .refuse, .upgraded (.error refusal))
  | .ok target =>
      let w := ((w.names.get? name).map w.letGo).getD w
      let (hub, i) := w.hub.accept target.variant
      ({ w with
          hub
          sides := w.sides ++ [{ name, target, mode, pongDelay }]
          names := w.names.put name i },
        .upgraded (.ok target))

/-- A call through session number `session`, watched for step `number`. -/
def sessionCall (w : World) (number session : Nat) (command : String) (payload : Json) :
    World × Answer :=
  match w.hub.sendCall session command payload with
  | (hub, .error failure) => ({ w with hub }, .failed failure)
  | (hub, .ok id) =>
      let w := { w with labels := w.labels.see id }
      ((w.start number (hub.awaitCall session id)).1, .sent id command)

/-- The newest holder of that name is told to let go. -/
def unlock (w : World) (who : String) : World :=
  match w.holders.reverse.find? fun holder => holder.name == who with
  | none => w
  | some holder =>
      { w with
        holders := w.holders.map fun other =>
          if other.task = holder.task then { other with dismissed := true } else other }

/-- The world after step `number` itself, and its answer. -/
def act (w : World) (number : Nat) : Step → World × Answer
  | .accept name path protocol mode pongDelay => w.accept name path protocol mode pongDelay
  | .opening name =>
      w.onConnection name fun i side => w.start number (w.hub.beginOpening i side.target)
  | .message name text =>
      w.onSession name fun session _ side =>
        let decoded := Message.decode (w.labels.reveal text)
        w.start number (w.hub.beginHandling session side.target.path decoded)
  | .binary name bytes =>
      w.onSession name fun session _ side =>
        w.start number (w.hub.beginHandling session side.target.path (Message.decodeBytes bytes))
  | .sessionCall name command payload =>
      w.onSession name fun session _ _ => w.sessionCall number session command payload
  | .call variant key command payload =>
      w.start number (w.hub.beginCall variant key command payload)
  | .resolve name id payload =>
      w.onSession name fun session _ _ =>
        let (hub, settled) := w.hub.settle session (w.labels.reveal id) (.ok payload)
        ({ w with hub }, .success settled)
  | .reject name id rejection =>
      w.onSession name fun session _ _ =>
        let failure := .refused rejection.fault rejection.description rejection.details
        let (hub, settled) := w.hub.settle session (w.labels.reveal id) (.error failure)
        ({ w with hub }, .success settled)
  | .isPending name id =>
      w.onSession name fun _ session _ => (w, .success (session.isPending (w.labels.reveal id)))
  | .failPending name =>
      w.onSession name fun session _ _ =>
        let (hub, count) := w.hub.failPending session
        ({ w with hub }, .count count)
  | .session name =>
      w.onSession name fun _ session _ => (w, .session session (!w.hub.isOpen session))
  | .reconcile name =>
      w.onSession name fun session _ _ => w.start number (w.hub.beginReconcile session)
  | .sweep => w.start number w.hub.beginSweep
  | .ping name =>
      w.onConnection name fun i _ =>
        let queued := (w.hub.link? i).any fun link => (link.ping w.hub.now).2
        (w.hubMove (.ping i), .success queued)
  | .pong name => w.onConnection name fun i _ => (w.hubMove (.pong i), .nothing)
  | .probe name ms => w.onConnection name fun i _ => w.start number (w.hub.beginProbe i ms)
  | .fail name =>
      w.onConnection name fun i _ =>
        let hub := w.hub.modifyLink i Link.addFailure
        ({ w with hub }, .count (((hub.link? i).map Link.failures).getD 0))
  | .send name text =>
      w.onConnection name fun i _ =>
        let (hub, delivery) := w.hub.sendText i (w.labels.reveal text)
        ({ w with hub }, .delivered delivery)
  | .close name cause =>
      w.onConnection name fun i _ =>
        let (hub, wasOpen) := w.hub.closeLink i cause
        ({ w with hub }, .success wasOpen)
  | .ending name withoutSession =>
      w.onConnection name fun i side =>
        (w.hubMove (.ending i (if withoutSession then none else side.session)), .nothing)
  | .peer name mode pongDelay =>
      w.onConnection name fun i _ =>
        (w.modifySide i fun side => { side with mode, pongDelay }, .nothing)
  | .drop name =>
      w.onConnection name fun i _ =>
        ({ (w.hubMove (.stopping i)).letGo i with names := w.names.erase name }, .nothing)
  | .lookup variant key =>
      let slot := w.hub.registered? variant key
      (w, .name (slot.bind fun slot => (w.side? slot.link).map Side.name))
  | .shutDown =>
      let (hub, count) := w.hub.shutDown
      ({ w with hub }, .count count)
  | .closeAll cause =>
      let (hub, count) := w.hub.closeAll cause
      ({ w with hub }, .count count)
  | .addTenant tenant =>
      let directory := w.resolver.directory.addTenant tenant
      ({ w with resolver := { w.resolver with directory } }, .nothing)
  | .addDevice tenant token device =>
      let directory := w.resolver.directory.addDevice tenant token device
      ({ w with resolver := { w.resolver with directory } }, .nothing)
  | .removeDevice key =>
      let (directory, removed) := w.resolver.directory.removeDevice key
      ({ w with resolver := { w.resolver with directory } }, .success removed)
  | .lock who path =>
      let w := w.unlock who
      let (hub, task) := w.hub.beginGuard path
      let holder : Holder := { name := who, task }
      { w with holders := w.holders ++ [holder] }.start number (hub, task)
  | .unlock who => (w.unlock who, .nothing)
  | .http method target =>
      (w, .response (Health.respond w.hub.tally (w.hub.now / 1000) method target))
  | .advance ms => (play.pass ms w, .nothing)
  | .unknown => (w, .noConnection)

/-- The registered sessions of a variant, with the names of their connections. -/
def rowsOf (w : World) (variant : Variant) : List (List String) :=
  (w.hub.roster variant).entries.map fun (key, slot) =>
    [variant.name, key.tenant, key.device, ((w.side? slot.link).map Side.name).getD ""]

/-- All registered sessions, sorted. -/
def rows (w : World) : List (List String) :=
  (w.rowsOf .device ++ w.rowsOf .management).mergeSort fun a b =>
    !List.lex b a fun x y => decide (x < y)

/-- What sockets took in the last step, by the name of the connection; connections that have lost
their name are left out. -/
def taken (w : World) : List (String × List Wire) :=
  w.names.filterMap fun (name, i) =>
    match w.out.filterMap fun (j, wire) => if j = i then some wire else none with
    | [] => none
    | wires => some (name, wires)

/-- The world after `wait` milliseconds, step `number` and all that it leads to, and the answer of
the step. -/
def perform (w : World) (number wait : Nat) (step : Step) : World × Answer :=
  let w : World := { w with done := [], out := [] }
  let w : World := if wait = 0 then w else play.pass wait w
  let (w, answer) := w.act number step
  (play.rest w.attend, answer)

end World

end StationHub.Rehearsal

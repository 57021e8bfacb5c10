import StationHub.Hub.Takeover

/-!
Handling what a peer sends. Before anything else the session is put back into its slot if another
one is there. The first call of a session is executed with its path locked and within the handling;
every later one is executed on its own. Answers settle the calls that they name.
-/

namespace StationHub.Hub

/-- Starts to execute a call, unless the connection is gone: the executor is told who calls, the
command and its payload. -/
def execute (h : Hub) (id session : Nat) (request : Request) (guard : Option Guard) : Hub :=
  match h.present? session with
  | some s => h.suspend id (.executing session (s.context request.id) request guard)
  | none =>
      match guard with
      | some guard => (h.release guard).conclude id .handled
      | none => h

/-- The executor has answered: the answer is offered to the connection of the session, and the
guard of a first call given up. -/
def afterExecution (h : Hub) (id session : Nat) (request : Request) (guard : Option Guard)
    (reply : Reply) : Hub :=
  let h :=
    match h.session? session with
    | none => h
    | some s =>
        match h.sendText s.link (Reply.message request.id reply).encode with
        | (h, .refused) => { h with repliesDropped := h.repliesDropped + 1 }
        | (h, _) => h
  match guard with
  | some guard => (h.release guard).conclude id .handled
  | none => h

/-- A call of the peer. -/
def receiveCall (h : Hub) (id session : Nat) (path : String) (request : Request) : Hub :=
  match h.session? session with
  | none => h.conclude id .handled
  | some s =>
      let h := h.modifySession session fun _ => s.noteCall.1
      if s.noteCall.2 then
        match h.lock.request id path h.now with
        | (lock, some guard) => { h with lock }.execute id session request (some guard)
        | (lock, none) => { h with lock }.suspend id (.callWaiting session request)
      else
        let h := h.conclude id .handled
        let (h, later) := h.newTask
        h.suspend later (.callStarting session request)

/-- A message of a session that holds its slot, as far as that could be brought about. -/
def receive (h : Hub) (id session : Nat) (path : String) : Message → Hub
  | .call messageId command payload => h.receiveCall id session path ⟨messageId, command, payload⟩
  | .result messageId payload => (h.settle session messageId (.ok payload)).1.conclude id .handled
  | .error messageId fault description details =>
      (h.settle session messageId (.error (.refused fault description details))).1.conclude id
        .handled

/-- The session should take over its slot before its message is handled: its connection is open
and the slot not bound to it. -/
def isDisplaced (h : Hub) (session : Session) : Bool :=
  h.isOpen session &&
    (h.roster session.variant).boundLink? session.key != some session.link

/-- Begins to handle what arrived on session number `session`, as a task of its own. What is not a
message is counted and dropped. -/
def beginHandling (h : Hub) (session : Nat) (path : String)
    (decoded : Except Message.Malformation Message) : Hub × Nat :=
  let (h, id) := h.newTask
  match decoded with
  | .error _ => ((h.count .protocolError).conclude id .handled, id)
  | .ok message =>
      match h.session? session with
      | none => (h.conclude id .handled, id)
      | some s =>
          if h.isDisplaced s then
            match h.beginTakeover session s with
            | (h, .done _) => (h.receive id session path message, id)
            | (h, .probing rival probe) =>
                (h.suspend id (.messageProbing session path message rival probe), id)
          else (h.receive id session path message, id)

end StationHub.Hub

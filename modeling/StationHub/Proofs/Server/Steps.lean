import StationHub.Server.Run

/-!
What a move of a server comes to.

* `Step`: the server after a move, with one case for each way in which the move is possible.
* `step_of_step?`: a move that is possible is possible in one of these ways. What is proved of the
  moves of a server goes by these cases, and not by the definition of `step?`.
-/

namespace StationHub

/-- The task that begins to handle what arrived gets the next number. -/
theorem Hub.beginHandling_snd (h : Hub) (session : Nat) (path : String)
    (decoded : Except Message.Malformation Message) :
    (h.beginHandling session path decoded).2 = h.nextTask := by
  unfold Hub.beginHandling
  cases decoded with
  | error => rfl
  | ok message =>
      dsimp only [Hub.newTask]
      split
      · rfl
      · split
        · split <;> rfl
        · rfl

namespace Server

variable {s next : Server} {move : Move}

/-- The server without the outcome of a task that has been noted. -/
def forget (s : Server) (task : Nat) : Server :=
  s.onHub fun h => { h with finished := h.finished.filter fun other => other.1 != task }

theorem takeOutcome?_eq_some {task : Nat} {outcome : TaskOutcome}
    (taken : s.takeOutcome? task = some (next, outcome)) :
    s.hub.finished.lookup task = some outcome ∧ next = s.forget task := by
  unfold takeOutcome? Hub.takeOutcome? at taken
  rw [Option.map_map] at taken
  obtain ⟨outcome', found, same⟩ := Option.map_eq_some_iff.mp taken
  cases same
  exact ⟨found, rfl⟩

/-- The server after a move. -/
inductive Step (s : Server) : Move → Server → Prop where
  | hub {move : Hub.Move} {hub : Hub} : move.isInternal = true → s.hub.step? move = some hub →
      Step s (.hub move) { s with hub }
  | upgrade (path : String) (offered : Option String) : s.listening = true →
      Step s (.upgrade path offered) (s.upgrade path offered).1
  /-- An item is read while the connection is being opened. -/
  | readEarly {i task : Nat} {reader : Reader} (item : Item) : s.reader? i = some reader →
      reader.stage = .opening task true → Step s (.read i item) (s.readEarly i reader task item)
  /-- An item is read for a session. -/
  | readLate {i session idleAt pingAt : Nat} {reader : Reader} {handover : Option Handover}
      (item : Item) : s.reader? i = some reader →
      reader.stage = .reading session handover idleAt pingAt →
      Step s (.read i item) (s.readLate i reader session handover pingAt item)
  /-- The opening has returned a session, and the first letter that was kept is taken in hand. -/
  | opened {i task session : Nat} {reader : Reader} {reading : Bool} : s.reader? i = some reader →
      reader.stage = .opening task reading →
      s.hub.finished.lookup task = some (.opened (.ok session)) →
      Step s (.opened i) ((s.forget task).setReader i { reader with
        stage := .reading session reader.next.1 (s.hub.now + s.hub.settings.idleTimeout)
          (s.hub.now + s.hub.settings.pingInterval)
        queue := reader.next.2 })
  /-- The opening has failed. -/
  | failed {i task : Nat} {reader : Reader} {reading : Bool} {failure : Failure} :
      s.reader? i = some reader → reader.stage = .opening task reading →
      s.hub.finished.lookup task = some (.opened (.error failure)) →
      Step s (.opened i) ((s.forget task).stop i reader none)
  | handOver {i session idleAt pingAt : Nat} {reader : Reader} {letter : Letter} :
      s.reader? i = some reader →
      reader.stage = .reading session (some (.waiting letter)) idleAt pingAt →
      Step s (.handOver i)
        ((s.onHub fun h => (h.beginHandling session reader.target.path letter.decode).1).setReader i
          { reader with
            stage := .reading session (some (.running s.hub.nextTask)) idleAt pingAt })
  | handled {i session task idleAt pingAt : Nat} {reader : Reader} {outcome : TaskOutcome} :
      s.reader? i = some reader →
      reader.stage = .reading session (some (.running task)) idleAt pingAt →
      s.hub.finished.lookup task = some outcome →
      Step s (.handled i) ((s.forget task).setReader i { reader with
        stage := .reading session reader.next.1 idleAt pingAt
        queue := reader.next.2 })
  | idle {i session idleAt pingAt : Nat} {reader : Reader} {handover : Option Handover} :
      s.reader? i = some reader → reader.stage = .reading session handover idleAt pingAt →
      idleAt ≤ s.hub.now →
      Step s (.idle i)
        ((s.onHub fun h => h.closed reader.link .idle).stopReading i reader session handover)
  | ping {i session idleAt pingAt : Nat} {reader : Reader} {handover : Option Handover} :
      s.reader? i = some reader → reader.stage = .reading session handover idleAt pingAt →
      s.hub.settings.keepAlive = .passive → pingAt ≤ s.hub.now →
      Step s (.ping i)
        ((s.onHub fun h => h.modifyLink reader.link fun l => (l.ping h.now).1).setReader i
          { reader with
            stage := .reading session handover idleAt (pingAt + s.hub.settings.pingInterval) })
  | noticeClose {i session idleAt pingAt : Nat} {reader : Reader} {handover : Option Handover} :
      s.reader? i = some reader → reader.stage = .reading session handover idleAt pingAt →
      s.hub.isClosed reader.link = true →
      Step s (.noticeClose i) (s.stopReading i reader session handover)
  | leave {i : Nat} {reader : Reader} {connection : Connection} : s.reader? i = some reader →
      s.hub.connection? reader.link = some connection → reader.stage = .ended →
      connection.writer = .ended → 0 < connection.keepers →
      Step s (.leave i) (s.onHub fun h => h.modifyConnection reader.link Connection.letGo)
  | sweep {due : Nat} : s.sweeper = .waiting due → due ≤ s.hub.now →
      Step s .sweep { s with
        hub := s.hub.beginSweep.1
        sweeper := .sweeping s.hub.nextTask (due + s.hub.settings.pingInterval) }
  | swept {task due : Nat} {outcome : TaskOutcome} : s.sweeper = .sweeping task due →
      s.hub.finished.lookup task = some outcome →
      Step s .swept { s.forget task with sweeper := .waiting due }
  | shutDown : Step s .shutDown s.shutDown.1
  | stopListening : s.hub.stopping = true → s.listening = true →
      Step s .stopListening { s with listening := false }
  | advance (ms : Nat) : Step s (.advance ms) (s.onHub fun h => { h with now := h.now + ms })

/-! ### The moves of a reader -/

variable {i : Nat}

theorem step_of_read? {item : Item} (moved : s.read? i item = some next) :
    s.Step (.read i item) next := by
  obtain ⟨reader, here, moved⟩ := Option.bind_eq_some_iff.mp moved
  split at moved
  · next stage =>
    cases moved
    exact .readEarly item here stage
  · next stage =>
    cases moved
    exact .readLate item here stage
  · cases moved

theorem step_of_opened? (moved : s.opened? i = some next) : s.Step (.opened i) next := by
  obtain ⟨reader, here, moved⟩ := Option.bind_eq_some_iff.mp moved
  split at moved
  · next stage =>
    split at moved
    · next taken =>
      obtain ⟨found, rfl⟩ := takeOutcome?_eq_some taken
      cases moved
      exact .opened here stage found
    · next taken =>
      obtain ⟨found, rfl⟩ := takeOutcome?_eq_some taken
      cases moved
      exact .failed here stage found
    · cases moved
  · cases moved

theorem step_of_handOver? (moved : s.handOver? i = some next) : s.Step (.handOver i) next := by
  obtain ⟨reader, here, moved⟩ := Option.bind_eq_some_iff.mp moved
  split at moved
  · next session letter _ _ stage =>
    have step := Step.handOver here stage
    rw [← s.hub.beginHandling_snd session reader.target.path letter.decode] at step
    cases moved
    exact step
  · cases moved

theorem step_of_handled? (moved : s.handled? i = some next) : s.Step (.handled i) next := by
  obtain ⟨reader, here, moved⟩ := Option.bind_eq_some_iff.mp moved
  split at moved
  · next stage =>
    split at moved
    · cases moved
    · next taken =>
      obtain ⟨found, rfl⟩ := takeOutcome?_eq_some taken
      cases moved
      exact .handled here stage found
  · cases moved

theorem step_of_idle? (moved : s.idle? i = some next) : s.Step (.idle i) next := by
  obtain ⟨reader, here, moved⟩ := Option.bind_eq_some_iff.mp moved
  split at moved
  · next stage =>
    split at moved
    · next due =>
      cases moved
      exact .idle here stage due
    · cases moved
  · cases moved

theorem step_of_ping? (moved : s.ping? i = some next) : s.Step (.ping i) next := by
  obtain ⟨reader, here, moved⟩ := Option.bind_eq_some_iff.mp moved
  split at moved
  · next stage =>
    split at moved
    · next due =>
      cases moved
      exact .ping here stage due.1 due.2
    · cases moved
  · cases moved

theorem step_of_noticeClose? (moved : s.noticeClose? i = some next) :
    s.Step (.noticeClose i) next := by
  obtain ⟨reader, here, moved⟩ := Option.bind_eq_some_iff.mp moved
  split at moved
  · next stage =>
    split at moved
    · next closed =>
      cases moved
      exact .noticeClose here stage closed
    · cases moved
  · cases moved

theorem step_of_leave? (moved : s.leave? i = some next) : s.Step (.leave i) next := by
  obtain ⟨reader, here, moved⟩ := Option.bind_eq_some_iff.mp moved
  obtain ⟨connection, there, moved⟩ := Option.bind_eq_some_iff.mp moved
  split at moved
  · next rests =>
    cases moved
    exact .leave here there rests.1 rests.2.1 rests.2.2
  · cases moved

/-! ### The moves of the server -/

theorem step_of_sweep? (moved : s.sweep? = some next) : s.Step .sweep next := by
  unfold sweep? at moved
  split at moved
  · next sweeper =>
    split at moved
    · next isDue =>
      cases moved
      exact .sweep sweeper isDue
    · cases moved
  · cases moved

theorem step_of_swept? (moved : s.swept? = some next) : s.Step .swept next := by
  unfold swept? at moved
  split at moved
  · next sweeper =>
    obtain ⟨⟨_, outcome⟩, taken, rfl⟩ := Option.map_eq_some_iff.mp moved
    obtain ⟨found, rfl⟩ := takeOutcome?_eq_some taken
    exact .swept sweeper found
  · cases moved

theorem step_of_stopListening? (moved : s.stopListening? = some next) :
    s.Step .stopListening next := by
  unfold stopListening? at moved
  split at moved
  · next guard =>
    cases moved
    exact .stopListening guard.1 guard.2
  · cases moved

/-- A move that is possible is possible in one of the ways of `Step`. -/
theorem step_of_step? (moved : s.step? move = some next) : s.Step move next := by
  cases move with
  | hub move =>
      unfold step? at moved
      dsimp only at moved
      split at moved
      · next internal =>
        obtain ⟨hub, stepped, rfl⟩ := Option.map_eq_some_iff.mp moved
        exact .hub internal stepped
      · cases moved
  | upgrade path offered =>
      unfold step? at moved
      dsimp only at moved
      split at moved
      · next listens =>
        cases moved
        exact .upgrade path offered listens
      · cases moved
  | read i item => exact step_of_read? moved
  | opened i => exact step_of_opened? moved
  | handOver i => exact step_of_handOver? moved
  | handled i => exact step_of_handled? moved
  | idle i => exact step_of_idle? moved
  | ping i => exact step_of_ping? moved
  | noticeClose i => exact step_of_noticeClose? moved
  | leave i => exact step_of_leave? moved
  | sweep => exact step_of_sweep? moved
  | swept => exact step_of_swept? moved
  | shutDown =>
      cases moved
      exact .shutDown
  | stopListening => exact step_of_stopListening? moved
  | advance ms =>
      cases moved
      exact .advance ms

end Server

end StationHub

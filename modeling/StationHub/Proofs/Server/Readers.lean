import StationHub.Proofs.Server.Course
import StationHub.Proofs.Tasks.Handlers

/-!
What a move of a server does to one of its readers.

* `Reader.Turn`: the changes of a reader, one for each kind of move that is about it.
* `reader?_of_step?`: every other move leaves the reader alone.
* `turn_of_step?`: a move that is about the reader is a turn of it.
* `newcomer_of_step?`: readers come with upgrades.
* `Grounded`: what holds of every server that runs; `grounded_of_run?`.
-/

namespace StationHub

/-- The item is a letter. -/
def Item.isLetter : Item → Bool
  | .letter _ => true
  | _ => false

/-- The item ends what is read. -/
def Item.isLast : Item → Bool
  | .close | .finish | .failure => true
  | _ => false

/-- The reader once it has stopped. -/
def Reader.atRest (reader : Reader) : Reader := { reader with stage := .ended, queue := [] }

open Server in
/-- How a reader changes with a move that is about it. -/
inductive Reader.Turn (s : Server) (i : Nat) (reader : Reader) : Move → Reader → Prop where
  /-- A letter is kept while the connection is being opened. -/
  | keep {task : Nat} {letter : Letter} : reader.stage = .opening task true →
      Turn s i reader (.read i (.letter letter)) { reader with queue := reader.queue ++ [letter] }
  /-- Nothing to keep is read while the connection is being opened. -/
  | listen {task : Nat} {item : Item} : reader.stage = .opening task true →
      item.isLetter = false → item.isLast = false → Turn s i reader (.read i item) reader
  /-- The stream ends while the connection is being opened. -/
  | deafen {task : Nat} {item : Item} : reader.stage = .opening task true → item.isLast = true →
      Turn s i reader (.read i item) { reader with stage := .opening task false }
  /-- A letter is read and taken in hand at once. -/
  | take {session idleAt pingAt : Nat} {letter : Letter} :
      reader.stage = .reading session none idleAt pingAt →
      Turn s i reader (.read i (.letter letter))
        { reader with
          stage := .reading session (some (.waiting letter))
            (s.hub.now + s.hub.settings.idleTimeout) pingAt }
  /-- A letter is read while another one is in hand. -/
  | queue {session idleAt pingAt : Nat} {handover : Handover} {letter : Letter} :
      reader.stage = .reading session (some handover) idleAt pingAt →
      Turn s i reader (.read i (.letter letter))
        { reader with
          stage := .reading session (some handover)
            (s.hub.now + s.hub.settings.idleTimeout) pingAt
          queue := reader.queue ++ [letter] }
  /-- A ping or a pong is read. -/
  | hear {session idleAt pingAt : Nat} {handover : Option Handover} {item : Item} :
      reader.stage = .reading session handover idleAt pingAt →
      item.isLetter = false → item.isLast = false →
      Turn s i reader (.read i item)
        { reader with
          stage := .reading session handover (s.hub.now + s.hub.settings.idleTimeout) pingAt }
  /-- The connection is open, and the first letter that was kept is taken in hand. -/
  | begin_ {task session : Nat} {reading : Bool} : reader.stage = .opening task reading →
      s.hub.finished.lookup task = some (.opened (.ok session)) →
      Turn s i reader (.opened i)
        { reader with
          stage := .reading session reader.next.1 (s.hub.now + s.hub.settings.idleTimeout)
            (s.hub.now + s.hub.settings.pingInterval)
          queue := reader.next.2 }
  /-- The connection could not be opened. -/
  | fail {task : Nat} {reading : Bool} {failure : Failure} :
      reader.stage = .opening task reading →
      s.hub.finished.lookup task = some (.opened (.error failure)) →
      Turn s i reader (.opened i) reader.atRest
  | handOver {session idleAt pingAt : Nat} {letter : Letter} :
      reader.stage = .reading session (some (.waiting letter)) idleAt pingAt →
      Turn s i reader (.handOver i)
        { reader with
          stage := .reading session (some (.running s.hub.nextTask)) idleAt pingAt }
  | handled {session idleAt pingAt task : Nat} {outcome : TaskOutcome} :
      reader.stage = .reading session (some (.running task)) idleAt pingAt →
      s.hub.finished.lookup task = some outcome →
      Turn s i reader (.handled i)
        { reader with
          stage := .reading session reader.next.1 idleAt pingAt
          queue := reader.next.2 }
  | ping {session idleAt pingAt : Nat} {handover : Option Handover} :
      reader.stage = .reading session handover idleAt pingAt →
      s.hub.settings.keepAlive = .passive → pingAt ≤ s.hub.now →
      Turn s i reader (.ping i)
        { reader with
          stage := .reading session handover idleAt (pingAt + s.hub.settings.pingInterval) }
  /-- The reader stops. -/
  | stop {session idleAt pingAt : Nat} {handover : Option Handover} {move : Move} :
      reader.stage = .reading session handover idleAt pingAt →
      (∃ item, item.isLast = true ∧ move = .read i item) ∨
        move = .idle i ∧ idleAt ≤ s.hub.now ∨
        move = .noticeClose i ∧ s.hub.isClosed reader.link = true →
      Turn s i reader move reader.atRest
  | leave : reader.stage = .ended → Turn s i reader (.leave i) reader

/-- The task that begins to open a connection gets the next number. -/
theorem Hub.beginOpening_snd (h : Hub) (link : Nat) (target : Target) :
    (h.beginOpening link target).2 = h.nextTask := by
  unfold Hub.beginOpening
  dsimp only [Hub.newTask]
  split <;> rfl

namespace Server

variable {s next : Server} {move : Move} {i : Nat} {reader : Reader}

theorem set_reader_self (here : s.reader? i = some reader) :
    s.readers.set i reader = s.readers := by
  obtain ⟨within, same⟩ := List.getElem?_eq_some_iff.mp here
  rw [← same]
  exact List.set_getElem_self within

theorem readers_stopReading (s : Server) (i : Nat) (reader : Reader) (session : Nat)
    (handover : Option Handover) :
    (s.stopReading i reader session handover).readers = s.readers.set i reader.atRest := by
  cases handover with
  | none => rfl
  | some handover => cases handover <;> rfl

theorem readers_readEarly (here : s.reader? i = some reader) {task : Nat}
    (stage : reader.stage = .opening task true) (item : Item) :
    ∃ after, reader.Turn s i (.read i item) after ∧
      (s.readEarly i reader task item).readers = s.readers.set i after := by
  cases item with
  | letter letter => exact ⟨_, .keep stage, rfl⟩
  | ping | pong => exact ⟨_, .listen stage rfl rfl, (set_reader_self here).symm⟩
  | close | finish | failure => exact ⟨_, .deafen stage rfl, rfl⟩

theorem readers_readLate {session idleAt pingAt : Nat} {handover : Option Handover}
    (stage : reader.stage = .reading session handover idleAt pingAt) (item : Item) :
    ∃ after, reader.Turn s i (.read i item) after ∧
      (s.readLate i reader session handover pingAt item).readers = s.readers.set i after := by
  have last {item : Item} (isLast : item.isLast = true) :
      reader.Turn s i (.read i item) reader.atRest := .stop stage (.inl ⟨item, isLast, rfl⟩)
  cases item with
  | letter letter =>
      cases handover with
      | none => exact ⟨_, .take stage, rfl⟩
      | some handover => exact ⟨_, .queue stage, rfl⟩
  | ping | pong => exact ⟨_, .hear stage rfl rfl, rfl⟩
  | close | finish | failure => exact ⟨_, last rfl, readers_stopReading _ i _ session handover⟩

/-- A move that is about a reader changes its place among the readers, and no other. -/
theorem readers_of_step? (about : move.reader? = some i) (moved : s.step? move = some next) :
    ∃ reader after, s.reader? i = some reader ∧ reader.Turn s i move after ∧
      next.readers = s.readers.set i after := by
  cases step_of_step? moved with
  | readEarly item here stage =>
      cases about
      obtain ⟨after, turn, same⟩ := readers_readEarly here stage item
      exact ⟨_, after, here, turn, same⟩
  | readLate item here stage =>
      cases about
      obtain ⟨after, turn, same⟩ := readers_readLate (s := s) (i := i) stage item
      exact ⟨_, after, here, turn, same⟩
  | opened here stage found =>
      cases about
      exact ⟨_, _, here, .begin_ stage found, rfl⟩
  | failed here stage found =>
      cases about
      exact ⟨_, _, here, .fail stage found, rfl⟩
  | handOver here stage =>
      cases about
      exact ⟨_, _, here, .handOver stage, rfl⟩
  | handled here stage found =>
      cases about
      exact ⟨_, _, here, .handled stage found, rfl⟩
  | idle here stage due =>
      cases about
      exact ⟨_, _, here, .stop stage (.inr (.inl ⟨rfl, due⟩)), readers_stopReading _ _ _ _ _⟩
  | ping here stage passive due =>
      cases about
      exact ⟨_, _, here, .ping stage passive due, rfl⟩
  | noticeClose here stage closed =>
      cases about
      exact ⟨_, _, here, .stop stage (.inr (.inr ⟨rfl, closed⟩)), readers_stopReading _ _ _ _ _⟩
  | leave here _ stage =>
      cases about
      exact ⟨_, _, here, .leave stage, (set_reader_self here).symm⟩
  | _ => cases about

/-- A move that is about a reader is a turn of it. -/
theorem turn_of_step? (about : move.reader? = some i) (moved : s.step? move = some next) :
    ∃ reader after, s.reader? i = some reader ∧ reader.Turn s i move after ∧
      next.reader? i = some after := by
  obtain ⟨reader, after, here, turn, same⟩ := readers_of_step? about moved
  refine ⟨reader, after, here, turn, ?_⟩
  obtain ⟨within, -⟩ := List.getElem?_eq_some_iff.mp here
  rw [reader?, same]
  exact List.getElem?_set_self within

/-- A reader that begins: its connection is about to be opened. -/
def newReader (s : Server) (target : Target) : Reader :=
  { link := s.hub.connections.length, target, stage := .opening s.hub.nextTask true }

/-- A move that is about no reader leaves the readers alone, or brings one more. -/
theorem readers_of_nobody (about : move.reader? = none) (moved : s.step? move = some next) :
    next.readers = s.readers ∨
      ∃ path offered target, move = .upgrade path offered ∧
        Upgrade.target s.hub.settings path offered = .ok target ∧
        next.readers = s.readers ++ [s.newReader target] := by
  cases step_of_step? moved with
  | upgrade path offered =>
      rw [upgrade]
      cases is : Upgrade.target s.hub.settings path offered with
      | error refusal => exact .inl rfl
      | ok target =>
          refine .inr ⟨path, offered, target, rfl, is, ?_⟩
          have number := Hub.beginOpening_snd (s.hub.accept target.variant).1
            s.hub.connections.length target
          dsimp only
          rw [newReader, show s.hub.nextTask = _ from number.symm]
          rfl
  | hub | sweep | swept | shutDown | stopListening | advance => exact .inl rfl
  | _ => cases about

/-- A move that is about another reader, or none, leaves a reader alone. -/
theorem reader?_of_step? (about : move.reader? ≠ some i) (here : s.reader? i = some reader)
    (moved : s.step? move = some next) : next.reader? i = some reader := by
  cases whom : move.reader? with
  | none =>
      rcases readers_of_nobody whom moved with same | ⟨_, _, target, -, -, same⟩
      · rw [reader?, same]
        exact here
      · rw [reader?, same]
        obtain ⟨within, -⟩ := List.getElem?_eq_some_iff.mp here
        rw [List.getElem?_append_left within]
        exact here
  | some j =>
      have other : j ≠ i := fun same => about (same ▸ whom)
      obtain ⟨_, after, -, -, same⟩ := readers_of_step? whom moved
      rw [reader?, same, List.getElem?_set_ne other]
      exact here

/-- Readers come with upgrades. -/
theorem newcomer_of_step? (absent : s.reader? i = none) (here : next.reader? i = some reader)
    (moved : s.step? move = some next) :
    ∃ path offered target, move = .upgrade path offered ∧
      Upgrade.target s.hub.settings path offered = .ok target ∧ reader = s.newReader target := by
  have beyond : s.readers.length ≤ i := List.getElem?_eq_none_iff.mp absent
  cases whom : move.reader? with
  | none =>
      rcases readers_of_nobody whom moved with same | ⟨path, offered, target, rfl, is, same⟩
      · rw [reader?, same] at here
        rw [reader?] at absent
        rw [absent] at here
        cases here
      · rw [reader?, same, List.getElem?_append_right beyond] at here
        refine ⟨path, offered, target, rfl, is, ?_⟩
        exact (List.mem_singleton.mp (List.mem_of_getElem? here))
  | some j =>
      obtain ⟨_, after, -, -, same⟩ := readers_of_step? whom moved
      have within : i < (s.readers.set j after).length := by
        rw [← same]
        exact (List.getElem?_eq_some_iff.mp here).1
      rw [List.length_set] at within
      omega

/-! ### What holds of every server -/

/-- The tasks of the hub are told apart by their numbers, and every reader has its connection. -/
structure Grounded (s : Server) : Prop where
  numbered : s.hub.Numbered
  booked : s.hub.Booked
  connected : ∀ {i : Nat} {reader : Reader}, s.reader? i = some reader →
    ∃ c, s.hub.connection? reader.link = some c

/-- The tasks of a hub are told apart after every move of its server. -/
theorem step?_tasks (moved : s.step? move = some next)
    (start : s.hub.Numbered ∧ s.hub.Booked) : next.hub.Numbered ∧ next.hub.Booked := by
  refine step?_keeps (P := fun h => h.Numbered ∧ h.Booked) ?_ ?_ moved start
  · rintro h finished fewer ⟨numbered, booked⟩
    refine ⟨⟨numbered.below, numbered.distinct⟩, fun entry member => ?_⟩
    exact booked entry (fewer.subset member)
  · rintro h next move ⟨numbered, booked⟩ moved
    exact ⟨Hub.step?_numbered numbered moved, Hub.step?_booked numbered booked moved⟩

/-- The connection that an upgrade brings. -/
theorem connection?_of_upgrade {path : String} {offered : Option String} {target : Target}
    (is : Upgrade.target s.hub.settings path offered = .ok target)
    (moved : s.step? (.upgrade path offered) = some next) :
    ∃ c, next.hub.connection? s.hub.connections.length = some c := by
  obtain ⟨finished, -, run⟩ := step?_hub moved
  rw [hubMoves, is, Hub.run?_cons] at run
  obtain ⟨mid, accepted, run⟩ := Option.bind_eq_some_iff.mp run
  cases accepted
  obtain ⟨c, there, -⟩ := (Hub.run?_persists run).connection
    (i := s.hub.connections.length) (List.getElem?_concat_length ..)
  exact ⟨c, there⟩

theorem link_eq_of_turn {after : Reader} (turn : reader.Turn s i move after) :
    after.link = reader.link := by
  cases turn <;> rfl

theorem step?_grounded (grounded : s.Grounded) (moved : s.step? move = some next) :
    next.Grounded := by
  obtain ⟨numbered, booked⟩ := step?_tasks moved ⟨grounded.numbered, grounded.booked⟩
  refine ⟨numbered, booked, fun {i reader} there => ?_⟩
  have still {old : Reader} (here : s.reader? i = some old) :
      ∃ c, next.hub.connection? old.link = some c := by
    obtain ⟨c, before⟩ := grounded.connected here
    obtain ⟨c', after, -⟩ := (step?_persists moved).connection before
    exact ⟨c', after⟩
  cases here : s.reader? i with
  | none =>
      obtain ⟨path, offered, target, rfl, is, rfl⟩ := newcomer_of_step? here there moved
      exact connection?_of_upgrade is moved
  | some old =>
      by_cases about : move.reader? = some i
      · obtain ⟨before, after, here', turn, there'⟩ := turn_of_step? about moved
        rw [here] at here'
        rw [there] at there'
        cases here'
        cases there'
        rw [link_eq_of_turn turn]
        exact still here
      · rw [reader?_of_step? about here moved] at there
        cases there
        exact still here

theorem grounded_fresh (settings : Settings) (mark : Mark) : (fresh settings mark).Grounded :=
  ⟨Hub.numbered_fresh settings mark, nofun, nofun⟩

theorem grounded_of_run? {settings : Settings} {mark : Mark} {moves : List Move}
    (run : (fresh settings mark).run? moves = some s) : s.Grounded :=
  run?_induction (P := fun _ s => s.Grounded) (fun _ => step?_grounded)
    (grounded_fresh settings mark) run

end Server

end StationHub

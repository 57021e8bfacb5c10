import StationHub.Proofs.Runs
import StationHub.Proofs.Server.Steps
import StationHub.Proofs.Tasks.Waiting

/-!
The course of a server.

* `run?_induction`: what every move keeps; `observed`: what is seen of the moves of a run.
* `step?_unnoted`, `step?_hub`: a move of a server is a run of its hub, once the outcome that it
  takes note of is gone; `step?_keeps` carries over what the moves of a hub keep.
-/

namespace StationHub

namespace Server

/-! ### Runs -/

section Runs

variable {α : Type} {s mid last : Server} {see : Server → Move → Option α}

/-- What holds at the start of a run and is kept by every move holds all along, also of the moves
so far. -/
theorem run?_induction {P : List Move → Server → Prop}
    (step : ∀ {moves : List Move} {mid next : Server} {move : Move}, s.run? moves = some mid →
      P moves mid → mid.step? move = some next → P (moves ++ [move]) next)
    {moves : List Move} (start : P [] s) (run : s.run? moves = some last) : P moves last :=
  Runs.run_induction step start run

/-- What is seen of the moves of a run, oldest first. -/
def observed (s : Server) (see : Server → Move → Option α) : List Move → List α
  | [] => []
  | move :: rest =>
      (see s move).toList ++
        match s.step? move with
        | some next => next.observed see rest
        | none => []

/-- It is what is noted of the steps of the run. -/
theorem observed_eq (s : Server) (see : Server → Move → Option α) (moves : List Move) :
    s.observed see moves = Runs.noted step? see s moves := by
  induction moves generalizing s with
  | nil => rfl
  | cons move rest ih =>
      rw [observed, Runs.noted]
      cases s.step? move with
      | none => rfl
      | some next => exact congrArg _ (ih next)

theorem observed_concat {moves : List Move} (run : s.run? moves = some mid) (move : Move) :
    s.observed see (moves ++ [move]) = s.observed see moves ++ (see mid move).toList := by
  simp only [observed_eq]
  exact Runs.noted_concat run move

end Runs

/-! ### The hub of a server -/

/-- What the hub does when a reader drops what it has in hand. -/
def dropMoves : Option Handover → List Hub.Move
  | some (.running task) => [.cancel task]
  | _ => []

/-- What the hub does when a reader stops reading for `session`. -/
def stopMoves (reader : Reader) (session : Nat) (handover : Option Handover) : List Hub.Move :=
  dropMoves handover ++ [.ending reader.link (some session)]

/-- What the hub does when an item is read while the connection is being opened. -/
def earlyMoves (reader : Reader) : Item → List Hub.Move
  | .letter _ | .ping => []
  | .pong => [.pong reader.link]
  | .close | .finish => [.close reader.link .normal]
  | .failure => [.close reader.link .transport]

/-- What the hub does when an item is read for `session`. -/
def lateMoves (reader : Reader) (session : Nat) (handover : Option Handover) :
    Item → List Hub.Move
  | .letter _ | .ping => []
  | .pong => [.pong reader.link]
  | .close | .finish => stopMoves reader session handover
  | .failure => .close reader.link .transport :: stopMoves reader session handover

/-- What the hub does with a move of its server that is about `reader`. -/
def readerMoves (s : Server) (reader : Reader) : Move → List Hub.Move
  | .read _ item =>
      match reader.stage with
      | .opening .. => earlyMoves reader item
      | .reading session handover .. => lateMoves reader session handover item
      | .ended => []
  | .opened _ =>
      match reader.stage with
      | .opening task _ =>
          match s.hub.finished.lookup task with
          | some (.opened (.error _)) => [.ending reader.link none]
          | _ => []
      | _ => []
  | .handOver _ =>
      match reader.stage with
      | .reading session (some (.waiting letter)) .. =>
          [.handling session reader.target.path letter.decode]
      | _ => []
  | .idle _ =>
      match reader.stage with
      | .reading session handover .. =>
          .close reader.link .idle :: stopMoves reader session handover
      | _ => []
  | .handled _ => []
  | .ping _ => [.ping reader.link]
  | .noticeClose _ =>
      match reader.stage with
      | .reading session handover .. => stopMoves reader session handover
      | _ => []
  | .leave _ => [.lettingGo reader.link]
  | _ => []

/-- The reader that a move is about. -/
def Move.reader? : Move → Option Nat
  | .read i _ | .opened i | .handOver i | .handled i | .idle i | .ping i | .noticeClose i
  | .leave i => some i
  | _ => none

/-- What the hub does with a move of its server. -/
def hubMoves (s : Server) (move : Move) : List Hub.Move :=
  match move with
  | .hub move => [move]
  | .upgrade path offered =>
      match Upgrade.target s.hub.settings path offered with
      | .error _ => [.refuse]
      | .ok target => [.accept target.variant, .opening s.hub.connections.length target]
  | .sweep => [.sweeping]
  | .shutDown =>
      match s.sweeper with
      | .sweeping task _ => [.cancel task, .shutDown]
      | _ => [.shutDown]
  | .advance ms => [.advance ms]
  | _ => ((move.reader?.bind s.reader?).map fun reader => s.readerMoves reader move).getD []

variable {s next : Server} {move : Move}

theorem hub_stopReading (s : Server) (i : Nat) (reader : Reader) (session : Nat)
    (handover : Option Handover) :
    s.hub.run? (stopMoves reader session handover) =
      some (s.stopReading i reader session handover).hub := by
  cases handover with
  | none => rfl
  | some handover => cases handover <;> rfl

theorem hubMoves_of_reader {i : Nat} {reader : Reader} (about : move.reader? = some i)
    (here : s.reader? i = some reader) : s.hubMoves move = s.readerMoves reader move := by
  cases move <;> cases about <;> simp [hubMoves, Move.reader?, here]

/-- The task whose outcome a move takes note of. -/
def noted? (s : Server) : Move → Option Nat
  | .opened i =>
      match (s.reader? i).map Reader.stage with
      | some (.opening task _) => some task
      | _ => none
  | .handled i =>
      match (s.reader? i).map Reader.stage with
      | some (.reading _ (some (.running task)) _ _) => some task
      | _ => none
  | .swept =>
      match s.sweeper with
      | .sweeping task _ => some task
      | _ => none
  | _ => none

/-- The outcomes that a move takes no note of. -/
def unnoted (s : Server) (move : Move) : List (Nat × TaskOutcome) :=
  match s.noted? move with
  | some task => (s.forget task).hub.finished
  | none => s.hub.finished

theorem noted?_opened (s : Server) {i task : Nat} {reader : Reader} {reading : Bool}
    (here : s.reader? i = some reader) (stage : reader.stage = .opening task reading) :
    s.noted? (.opened i) = some task := by
  simp only [noted?, here, Option.map_some, stage]

theorem noted?_handled (s : Server) {i session task idleAt pingAt : Nat} {reader : Reader}
    (here : s.reader? i = some reader)
    (stage : reader.stage = .reading session (some (.running task)) idleAt pingAt) :
    s.noted? (.handled i) = some task := by
  simp only [noted?, here, Option.map_some, stage]

theorem noted?_swept (s : Server) {task due : Nat} (sweeping : s.sweeper = .sweeping task due) :
    s.noted? .swept = some task := by
  simp only [noted?, sweeping]

theorem unnoted_of_noted {task : Nat} (noted : s.noted? move = some task) :
    s.unnoted move = (s.forget task).hub.finished := by
  simp only [unnoted, noted]

theorem unnoted_sublist (s : Server) (move : Move) :
    (s.unnoted move).Sublist s.hub.finished := by
  unfold unnoted
  split
  · exact List.filter_sublist
  · exact List.Sublist.refl _

theorem hub_of_internal {m : Hub.Move} (moved : s.step? (.hub m) = some next) :
    m.isInternal = true ∧ ∃ hub, s.hub.step? m = some hub ∧ next = { s with hub } := by
  cases step_of_step? moved with
  | hub internal stepped => exact ⟨internal, _, stepped, rfl⟩

theorem hub_readEarly (s : Server) (i : Nat) (reader : Reader) (task : Nat) (item : Item) :
    s.hub.run? (earlyMoves reader item) = some (s.readEarly i reader task item).hub := by
  cases item <;> rfl

theorem hub_readLate (s : Server) (i : Nat) (reader : Reader) (session : Nat)
    (handover : Option Handover) (pingAt : Nat) (item : Item) :
    s.hub.run? (lateMoves reader session handover item) =
      some (s.readLate i reader session handover pingAt item).hub := by
  cases item with
  | letter letter => cases handover <;> rfl
  | ping | pong => rfl
  | close | finish => exact hub_stopReading s i _ session handover
  | failure =>
      exact hub_stopReading (s.onHub fun h => h.closed reader.link .transport) i _ session handover

theorem hub_upgrade (s : Server) (path : String) (offered : Option String) :
    s.hub.run? (s.hubMoves (.upgrade path offered)) = some (s.upgrade path offered).1.hub := by
  rw [upgrade, hubMoves]
  cases Upgrade.target s.hub.settings path offered with
  | error refusal => rfl
  | ok target =>
      have alive : (s.hub.accept target.variant).1.isAlive s.hub.connections.length = true := by
        simp [Hub.isAlive, Hub.accept, Hub.count, Hub.connection?, Connection.isKept]
      dsimp only
      rw [Hub.run?_cons, Hub.step?, Option.bind_some, Hub.run?_cons, Hub.step?, if_pos alive]
      rfl

/-- **A move of a server is a run of its hub**, once the outcome is gone that it takes note of. -/
theorem step?_unnoted (moved : s.step? move = some next) :
    ({ s.hub with finished := s.unnoted move } : Hub).run? (s.hubMoves move) = some next.hub := by
  cases step_of_step? moved with
  | @hub m hub _ stepped =>
      change s.hub.run? [m] = some hub
      rw [Hub.run?_cons, stepped]
      rfl
  | upgrade path offered => exact hub_upgrade s path offered
  | readEarly item here stage =>
      rw [hubMoves_of_reader rfl here, readerMoves, stage]
      exact hub_readEarly s _ _ _ item
  | readLate item here stage =>
      rw [hubMoves_of_reader rfl here, readerMoves, stage]
      exact hub_readLate s _ _ _ _ _ item
  | opened here stage found | failed here stage found =>
      rw [hubMoves_of_reader rfl here, readerMoves, stage,
        unnoted_of_noted (s.noted?_opened here stage)]
      simp only [found]
      rfl
  | handOver here stage =>
      rw [hubMoves_of_reader rfl here, readerMoves, stage]
      rfl
  | handled here stage =>
      rw [hubMoves_of_reader rfl here, readerMoves,
        unnoted_of_noted (s.noted?_handled here stage)]
      rfl
  | @idle i session _ _ reader handover here stage =>
      rw [hubMoves_of_reader rfl here, readerMoves, stage]
      exact hub_stopReading (s.onHub fun h => h.closed reader.link .idle) i reader session handover
  | ping here | leave here =>
      rw [hubMoves_of_reader rfl here]
      rfl
  | noticeClose here stage =>
      rw [hubMoves_of_reader rfl here, readerMoves, stage]
      exact hub_stopReading s _ _ _ _
  | swept sweeper =>
      rw [unnoted_of_noted (s.noted?_swept sweeper)]
      rfl
  | shutDown =>
      unfold hubMoves shutDown
      cases s.sweeper <;> rfl
  | sweep | stopListening | advance => rfl

theorem step?_hub (moved : s.step? move = some next) :
    ∃ finished, finished.Sublist s.hub.finished ∧
      ({ s.hub with finished } : Hub).run? (s.hubMoves move) = some next.hub :=
  ⟨s.unnoted move, s.unnoted_sublist move, step?_unnoted moved⟩

/-- What the moves of a hub keep, also when outcomes are taken note of, the moves of a server
keep. -/
theorem step?_keeps {P : Hub → Prop}
    (noted : ∀ {h : Hub} {finished}, finished.Sublist h.finished → P h → P { h with finished })
    (step : ∀ {h next : Hub} {move : Hub.Move}, P h → h.step? move = some next → P next)
    (moved : s.step? move = some next) (start : P s.hub) : P next.hub := by
  obtain ⟨finished, fewer, run⟩ := step?_hub moved
  exact Hub.run?_induction step (noted fewer start) run

theorem step?_persists (moved : s.step? move = some next) : s.hub.Persists next.hub := by
  refine step?_keeps (P := s.hub.Persists) (fun _ persists => ?_)
    (fun persists moved => persists.trans (Hub.step?_persists moved)) moved (.refl s.hub)
  exact ⟨persists.settings, persists.mark, persists.now, persists.stopping, persists.nextTask,
    persists.nextMessage, persists.session, persists.connection, persists.newLink⟩

end Server

end StationHub

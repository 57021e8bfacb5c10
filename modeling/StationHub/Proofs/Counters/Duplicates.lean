import StationHub.Proofs.Counters.Connections
import StationHub.Proofs.Hub.History

/-!
The account of duplicates. A takeover whose rival answered its probe closes the rival and counts it
as a duplicate, whether the rival was still open or not.

* `displaces_of_step?`: what a move does that displaces a rival.
* `belated?`: the rival was closed already, and is counted nevertheless.
* `duplicates_of_step?`: what a move adds to the count, and to the connections that were closed as
  duplicates.
* `duplicatesClosed_of_run?`: the count of a run is the number of these connections, and in addition
  how often it was belated.
-/

namespace StationHub

/-- The connection was closed as a duplicate. -/
def Connection.isDuplicate (c : Connection) : Bool := decide (c.link.cause = some .duplicate)

namespace Hub

open Connection (Deed)
open Counters (Occasion)

variable {settings : Settings} {mark : Mark} {moves : List Move} {h next : Hub} {move : Move}
  {i rival : Nat} {c : Connection}

/-- The cause for which somebody outside closes connections with the move. -/
def Move.cause? : Move → Option CloseCause
  | .close _ cause | .closeAll cause => some cause
  | _ => none

/-- The rival that a takeover counts as a duplicate with the move, although it was closed before. -/
def belated? (h : Hub) (move : Move) : Option Nat := (h.displaced? move).filter h.isClosed

/-! ### Moves that displace nobody -/

/-- Nobody but a takeover closes a connection as a duplicate, unless somebody outside does. -/
theorem Warrants.ne_duplicate {deed : Deed} (warranted : h.Warrants move i deed)
    (nobody : h.displaced? move = none) (other : move.cause? ≠ some .duplicate) :
    deed ≠ .close .duplicate := by
  rintro rfl
  cases warranted with
  | plain plain => cases plain
  | meant meant =>
      cases move <;> cases meant
      exact other rfl
  | all same =>
      subst same
      exact other rfl
  | displaces displaced => cases nobody.symm.trans displaced
  | sweeps _ sweeping => cases sweeping

/-- Deeds that close nothing as a duplicate leave the number of duplicates alone. -/
theorem countP_isDuplicate {permits : Nat → Deed → Prop} (does : Does permits h next)
    (never : ∀ i, ¬permits i (.close .duplicate)) :
    next.connections.countP Connection.isDuplicate =
      h.connections.countP Connection.isDuplicate :=
  countP_of_does does fun goes => decide_eq_decide.mpr (goes.cause_iff (by decide) (never _))

/-- A move that displaces nobody counts no duplicate and closes none. -/
theorem duplicates_of_nobody (moved : h.step? move = some next)
    (nobody : h.displaced? move = none) (other : move.cause? ≠ some .duplicate) :
    next.counters.duplicatesClosed = h.counters.duplicatesClosed ∧
      next.connections.countP Connection.isDuplicate =
        h.connections.countP Connection.isDuplicate := by
  constructor
  · refine counted_of_step? moved .duplicateClosed fun happens => ?_
    cases happens with
    | duplicateClosed displaced =>
        rw [nobody] at displaced
        cases displaced
  · rcases step?_warrants moved with does | ⟨variant, rfl⟩ | ⟨ms, rfl⟩
    · exact countP_isDuplicate does fun i warranted => warranted.ne_duplicate nobody other rfl
    · cases moved
      show (h.connections ++ [_]).countP _ = _
      rw [List.countP_append]
      rfl
    · cases moved
      rfl

/-! ### Moves that displace a rival -/

/-- To close an open connection as a duplicate makes one duplicate more. -/
theorem countP_closed_duplicate (here : h.connection? i = some c) :
    (h.closed i .duplicate).connections.countP Connection.isDuplicate =
      h.connections.countP Connection.isDuplicate + if c.link.cause.isNone then 1 else 0 := by
  have at_i : h.link? i = some c.link := link?_eq_some_iff.mpr ⟨c, here, rfl⟩
  have changed := countP_modifyConnection (p := Connection.isDuplicate) here fun c' =>
    { c' with link := (c.link.close .duplicate).1 }
  have closes : (h.closed i .duplicate).connections = (h.modifyConnection i fun c' =>
      { c' with link := (c.link.close .duplicate).1 }).connections := by
    unfold closed closeLink
    rw [at_i]
    rfl
  rw [closes]
  have named := c.link.cause_close .duplicate
  cases known : c.link.cause with
  | none =>
      rw [known] at named
      simpa [Connection.isDuplicate, known, named] using changed
  | some first =>
      rw [known] at named
      simpa [Connection.isDuplicate, known, named] using changed

/-- What a takeover does whose rival answered: it closes the rival and counts it, and does neither a
second time. -/
structure Displaces (base : Hub) (rival : Nat) (next : Hub) : Prop where
  does : Does (fun _ deed => deed ≠ .close .duplicate) (base.closed rival .duplicate) next
  counts : Counts (fun occasion => occasion ≠ .duplicateClosed)
    ((base.closed rival .duplicate).count .duplicateClosed) next

theorem Displaces.andThen {base mid : Hub} (displaces : Displaces base rival mid)
    (does : Does (fun _ deed => deed ≠ .close .duplicate) mid next)
    (counts : Counts (fun occasion => occasion ≠ .duplicateClosed) mid next) :
    Displaces base rival next :=
  ⟨displaces.does.trans does, displaces.counts.trans counts⟩

theorem displaces_concludeTakeover {s : Session} (here : h.session? i = some s) (rival : Nat) :
    Displaces h rival (h.concludeTakeover i rival true).1 := by
  have counted : Does (fun _ deed => deed ≠ .close .duplicate) (h.closed rival .duplicate)
      ((h.closed rival .duplicate).count .duplicateClosed) := does_of_eq rfl rfl
  unfold concludeTakeover
  rw [here]
  exact ⟨counted.trans (does_setRoster _ _ _), counts_setRoster _ _ _⟩

/-- **A move that displaces a rival** closes it and counts it once. -/
theorem displaces_of_step? (run : (fresh settings mark).run? moves = some h)
    (moved : h.step? move = some next) (displaced : h.displaced? move = some rival) :
    Displaces (h.apart move) rival next ∧ (h.link? rival).isSome = true := by
  cases move with
  | resume id =>
      obtain ⟨⟨number, activity⟩, found, -, rfl⟩ := resumed moved
      cases id_of_task? found
      obtain ⟨task, found', displaced⟩ := Option.bind_eq_some_iff.mp displaced
      cases found.symm.trans found'
      obtain ⟨⟨session, rival', probe⟩, probes, displaced⟩ :=
        Option.bind_eq_some_iff.mp displaced
      obtain ⟨verdict, same⟩ := Option.ite_none_right_eq_some.mp displaced
      obtain rfl : rival' = rival := Option.some.inj same
      obtain ⟨l, there, -⟩ := Option.bind_eq_some_iff.mp verdict
      refine ⟨?_, Option.isSome_iff_exists.mpr ⟨l, there⟩⟩
      have taking : activity.taking? = some session := by
        rw [Activity.taking?_eq_map_probes?, probes]
        rfl
      obtain ⟨s, here⟩ := session_of_waiting run (List.mem_of_find?_eq_some found) taking
      have here' : (h.detach number).session? session = some s := here
      have taken := displaces_concludeTakeover here' rival'
      have decided : (h.detach number).verdict? rival' probe = some true := verdict
      have plain : ∀ (i : Nat) (deed : Deed), deed.isPlain = true → deed ≠ .close .duplicate := by
        rintro i deed plain rfl
        cases plain
      show Displaces (h.detach number) rival' (h.resume ⟨number, activity⟩)
      unfold resume
      cases activity with
      | openProbing link session guard rival probe =>
          cases probes
          dsimp only
          rw [resumeProbe_of_verdict decided]
          exact taken.andThen (does_afterTakeover plain _ (fun _ => nofun) number session guard)
            (counts_afterTakeover nofun _ number link session guard)
      | messageProbing session path message rival probe =>
          cases probes
          dsimp only
          rw [resumeProbe_of_verdict decided]
          exact taken.andThen (does_receive _ number session path message)
            (counts_receive (fun _ => nofun) _ number session path)
      | takingOver session rival probe =>
          cases probes
          dsimp only
          rw [resumeProbe_of_verdict decided]
          exact taken.andThen (does_of_eq rfl rfl) (counts_of_eq rfl)
      | _ => cases probes
  | _ => cases displaced

/-! ### Every run -/

/-- **What a move adds** to the count of duplicates and to the duplicates there are: one more is
counted if a rival is displaced, and there is one more if the rival was open. -/
theorem duplicates_of_step? (run : (fresh settings mark).run? moves = some h)
    (moved : h.step? move = some next) (other : move.cause? ≠ some .duplicate) :
    next.counters.duplicatesClosed =
        h.counters.duplicatesClosed + (h.displaced? move).toList.length ∧
      next.connections.countP Connection.isDuplicate + (h.belated? move).toList.length =
        h.connections.countP Connection.isDuplicate + (h.displaced? move).toList.length := by
  cases displaced : h.displaced? move with
  | none =>
      obtain ⟨counted, closed⟩ := duplicates_of_nobody moved displaced other
      simp [belated?, displaced, counted, closed]
  | some rival =>
      obtain ⟨⟨does, counts⟩, known⟩ := displaces_of_step? run moved displaced
      obtain ⟨l, there⟩ := Option.isSome_iff_exists.mp known
      obtain ⟨c, at_rival, rfl⟩ := link?_eq_some_iff.mp there
      have coherent := (sound_of_run? run).coherent there
      have same : (h.apart move).connections = h.connections ∧
          (h.apart move).counters = h.counters := by
        unfold apart
        split <;> exact ⟨rfl, rfl⟩
      have at_apart : (h.apart move).connection? rival = some c := by
        rw [connection?, same.1]
        exact at_rival
      have closes := countP_closed_duplicate at_apart
      rw [same.1] at closes
      have open_ : c.link.cause.isNone = !h.isClosed rival := by
        rw [isClosed, there, Option.any_some, ← coherent.cause]
        cases c.link.cause <;> rfl
      constructor
      · have counted := counts.counted_eq .duplicateClosed fun never => never rfl
        have kept : ((h.apart move).closed rival .duplicate).counters = (h.apart move).counters := by
          unfold closed closeLink
          split <;> rfl
        show next.counters.duplicatesClosed = h.counters.duplicatesClosed + 1
        rw [← same.2, ← kept]
        exact counted
      · rw [countP_isDuplicate does fun _ never => never rfl, closes, open_, belated?, displaced]
        cases shut : h.isClosed rival <;> simp [Option.filter, shut]

/-- **The account of duplicates.** If nobody outside closes connections as duplicates, those counted
are the connections that were closed as duplicates, and in addition those of every takeover whose
rival was closed already when its answer was looked at. So the count is that of the duplicates
exactly if there was no such takeover. -/
theorem duplicatesClosed_of_run? (run : (fresh settings mark).run? moves = some h)
    (others : ∀ move ∈ moves, move.cause? ≠ some .duplicate) :
    h.counters.duplicatesClosed =
        h.connections.countP (fun c => c.link.cause = some .duplicate) +
          ((fresh settings mark).observed belated? moves).length ∧
      (h.counters.duplicatesClosed =
          h.connections.countP (fun c => c.link.cause = some .duplicate) ↔
        (fresh settings mark).observed belated? moves = []) := by
  have counted : h.counters.duplicatesClosed = h.connections.countP Connection.isDuplicate +
      ((fresh settings mark).observed belated? moves).length := by
    -- Induction on the moves, the last one first.
    induction moves using List.reverseRecOn generalizing h with
    | nil =>
        cases run
        rfl
    | append_singleton moves move ih =>
        obtain ⟨mid, run', moved⟩ := run?_concat.mp run
        have before := ih run' fun other member => others other (List.mem_append_left _ member)
        obtain ⟨counted, closed⟩ := duplicates_of_step? run' moved
          (others move (List.mem_append_right _ (List.mem_singleton_self _)))
        rw [observed_concat run', List.length_append]
        omega
  refine ⟨counted, ?_⟩
  rw [← List.length_eq_zero_iff]
  show h.counters.duplicatesClosed = h.connections.countP Connection.isDuplicate ↔ _
  omega

/-- Three connections of one peer come by different paths. The second and the third both probe the
first one, which answers once, so that both takeovers close it and count it. -/
def doubledRun : List Move :=
  let target : Target := ⟨.device, "/OCPP16/T/K/D1", "T", "K", "D1", "ocpp1.6"⟩
  let identity : Identity := ⟨⟨"T", "T"⟩, ⟨"D1", none, none, none⟩⟩
  [.accept .device, .opening 0 target, .directoryAnswers 0 (.ok identity),
    .accept .device, .opening 1 { target with path := "/OCPP16/T/K/%441" },
    .directoryAnswers 1 (.ok identity),
    .accept .device, .opening 2 { target with path := "/OCPP16/T/K/D%31" },
    .directoryAnswers 2 (.ok identity),
    .pong 0, .resume 1, .resume 2]

theorem duplicatesClosed_of_run?_doubledRun : ∃ last,
    (fresh {} "hub").run? doubledRun = some last ∧ last.counters.duplicatesClosed = 2 ∧
    2 = last.connections.countP (fun c => c.link.cause = some .duplicate) +
      ((fresh {} "hub").observed belated? doubledRun).length ∧
    (fresh {} "hub").observed belated? doubledRun = [0] := by
  have ends : ((fresh {} "hub").run? doubledRun).map
      (fun last => last.counters.duplicatesClosed) = some 2 := by
    decide
  obtain ⟨last, run, counted⟩ := Option.map_eq_some_iff.mp ends
  have account := (duplicatesClosed_of_run? run (by decide)).1
  exact ⟨last, run, counted, counted ▸ account, by decide⟩

/-- Two connections of one peer: the first one is closed for another reason while the second probes
it, and its answer comes afterwards. -/
def belatedRun : List Move :=
  let target : Target := ⟨.device, "/OCPP16/T/K/D1", "T", "K", "D1", "ocpp1.6"⟩
  let identity : Identity := ⟨⟨"T", "T"⟩, ⟨"D1", none, none, none⟩⟩
  [.accept .device, .opening 0 target, .directoryAnswers 0 (.ok identity),
    .accept .device, .opening 1 target, .directoryAnswers 1 (.ok identity),
    .close 0 .normal, .pong 0, .resume 1]

/-- A duplicate is counted although no connection was closed as one. -/
theorem duplicateClosed_belated : ∃ last, (fresh {} "hub").run? belatedRun = some last ∧
    last.counters.duplicatesClosed = 1 ∧
    (last.link? 0).bind Link.cause = some .normal ∧
    last.connections.countP (fun c => c.link.cause = some .duplicate) = 0 ∧
    last.counters.duplicatesClosed ≠
      last.connections.countP fun c => c.link.cause = some .duplicate := by
  refine ⟨((fresh {} "hub").run? belatedRun).get (by decide), rfl, ?_, ?_, ?_, ?_⟩
  · decide
  · decide
  · decide
  · decide

end Hub

end StationHub

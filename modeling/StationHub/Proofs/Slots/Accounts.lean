import Mathlib.Data.List.Pairwise
import StationHub.Proofs.Slots.Ledger
import StationHub.Proofs.Slots.Responses

/-!
The accounts of sweeps: what the report of a sweep says, what the counters grow by, and what has
happened to the entries and their connections.

* `SweepStep.Made`: a move of a sweep in a run; `Made.treats`: what it does to a place that it looks
  at, and `Made.leaves`: to a connection at no place that it looks at.
* `Accounted`: the accounts of a sweep.
* `sweep_accounted`: they are right whenever a sweep has come to its end.
-/

namespace StationHub

namespace Hub

variable {settings : Settings} {mark : Mark} {moves earlier later : List Move} {move : Move}
  {h next last : Hub} {id : Nat} {place : Place} {step : SweepStep} {steps : List SweepStep}
  {report : SweepReport} {all : List Finding} {round : Round}

/-! ### Moves of sweeps in a run -/

/-- The move was made, as one of a sweep, in a run that came to `last` later. -/
structure SweepStep.Made (settings : Settings) (mark : Mark) (last : Hub) (step : SweepStep) :
    Prop where
  reached : ∃ moves, (fresh settings mark).run? moves = some step.before
  moved : step.before.step? step.move = some step.after
  sweeps : step.before.isSweep step.move = true
  persists : step.before.Persists last
  fresh : ∀ place ∈ step.before.lookedAt step.move,
    place ∈ step.entries ↔ step.before.sweptBy? step.move ≠ some place.variant

theorem made_of_mem (reached : (fresh settings mark).run? earlier = some h)
    (run : h.run? moves = some last) (ledger : Ledger (h.sweepSteps id moves) all round)
    (member : step ∈ h.sweepSteps id moves) : step.Made settings mark last := by
  have fresh := ledger.fresh step member
  obtain ⟨before, move, after, mid, rfl, run', is⟩ := (mem_observed run).mp member
  unfold sweepStep? at is
  split at is
  · next sweeps =>
    obtain ⟨next, moved, rfl⟩ := Option.map_eq_some_iff.mp is
    rw [Bool.and_eq_true] at sweeps
    rw [run?_append, run', Option.bind_some] at run
    refine ⟨⟨earlier ++ before, ?_⟩, moved, sweeps.1, run?_persists run, fresh⟩
    rw [run?_append, reached]
    exact run'
  · cases is

namespace SweepStep.Made

variable (made : step.Made settings mark last)
include made

theorem keyed : step.before.Keyed := by
  obtain ⟨moves, run⟩ := made.reached
  exact keyed_of_run? run

theorem seated_of_mem (inside : place ∈ step.before.lookedAt step.move) : last.Seated place := by
  obtain ⟨moves, run⟩ := made.reached
  exact ((enrolled_lookedAt run made.sweeps).seated place inside).persists made.persists

theorem link_of_mem (inside : place ∈ step.before.lookedAt step.move) :
    ∃ l, step.before.link? place.link = some l := by
  obtain ⟨moves, run⟩ := made.reached
  exact ((enrolled_lookedAt run made.sweeps).seated place inside).link (attached_of_run? run)

theorem mem_gone_iff (inside : place ∈ step.before.lookedAt step.move) :
    place ∈ step.gone ↔ step.before.skips step.move place = true := by
  rw [SweepStep.gone, List.mem_filter, made.fresh place inside, Hub.skips, Bool.and_eq_true,
    decide_eq_true_eq, and_comm]

variable (alone : last.Alone place)
include alone

/-- A connection whose sessions are all of one place is left alone if the move does not look at that
place, even if the sessions come later. -/
theorem leaves (absent : place ∉ step.before.lookedAt step.move) :
    Leaves place.link step.before step.after :=
  leaves_of_sweep made.moved made.sweeps fun _ inside same =>
    absent (alone (made.seated_of_mem inside) same ▸ inside)

/-- What the move does to a place that has its connection to itself. -/
theorem treats :
    Treats place (step.before.skips step.move place) (step.before.verdictOn? place step.move)
      step.before step.after := by
  obtain ⟨moves, run⟩ := made.reached
  exact treats_of_alone run (alone.of_persists made.persists) made.moved made.sweeps

/-- What is removed failed its probe with the move, and is gone, or closed with as many failures as
the threshold tells. -/
theorem given_up (removed : place ∈ step.removed) :
    (place, false) ∈ step.results ∧ (place ∈ step.gone ∨ ∃ l,
      step.after.link? place.link = some l ∧ l.closed = true ∧
        last.settings.failureThreshold ≤ l.failures) := by
  obtain ⟨moves, run⟩ := made.reached
  obtain ⟨listed, outside⟩ := List.mem_filter.mp removed
  have unbound : step.after.boundTo? place.variant place.key ≠ some place.link := fun bound =>
    of_decide_eq_true outside (mem_listed_iff_mem_places.mpr (mem_places_of_bound bound))
  obtain ⟨inside, failed, -, why⟩ := forfeits_of_unbound run
    (alone.of_persists made.persists) made.moved made.sweeps
    ((mem_listed_iff made.keyed).mp listed) unbound
  refine ⟨mem_resultsAt.mpr ⟨inside, failed⟩, ?_⟩
  rcases why with gone | ⟨-, l, -, there, closed, -, atLeast⟩
  · exact .inl ((made.mem_gone_iff inside).mpr gone)
  · exact .inr ⟨l, there, closed, made.persists.settings ▸ atLeast⟩

/-- Where the move does not learn that a probe failed, it closes no connection and removes no entry.
-/
theorem spares (answered : (place, false) ∉ step.results) :
    step.after.isClosed place.link = step.before.isClosed place.link ∧ place ∉ step.removed := by
  refine ⟨?_, fun removed => answered (made.given_up alone removed).1⟩
  by_cases inside : place ∈ step.before.lookedAt step.move
  · obtain ⟨l, here⟩ := made.link_of_mem inside
    obtain ⟨l', there, alike⟩ := (made.treats alone).link here
    have closed := alike.closed
    rw [isClosed, isClosed, here, there]
    rcases verdict : step.before.verdictOn? place step.move with _ | _ | _ <;>
      rw [verdict] at closed
    · exact closed
    · exact absurd (mem_resultsAt.mpr ⟨inside, verdict⟩) answered
    · exact closed
  · rw [isClosed, isClosed, (made.leaves alone inside).link]

/-- An answered probe leaves no failure. -/
theorem forgives (answered : (place, true) ∈ step.results) :
    (step.after.link? place.link).map Link.failures = some 0 := by
  obtain ⟨inside, verdict⟩ := mem_resultsAt.mp answered
  obtain ⟨l, here⟩ := made.link_of_mem inside
  obtain ⟨l', there, alike⟩ := (made.treats alone).link here
  rw [verdict] at alike
  rw [there, Option.map_some]
  exact congrArg some alike.failures

end SweepStep.Made

/-! ### Accounts -/

/-- The report with which sweep number `id` has come to its end. -/
def report? (h : Hub) (id : Nat) : Option SweepReport :=
  match h.finished.lookup id with
  | some (.swept report) => some report
  | _ => none

theorem mem_finished_of_report? (ended : h.report? id = some report) :
    (id, .swept report) ∈ h.finished := by
  unfold report? at ended
  split at ended
  · next found =>
    cases ended
    obtain ⟨before, after, same, -⟩ := List.lookup_eq_some_iff.mp found
    rw [same]
    exact List.mem_append_right _ List.mem_cons_self
  · cases ended

/-- What the moves of a sweep that has come to its end add up to, and the report of it. -/
structure Balanced (steps : List SweepStep) (report : SweepReport) : Prop where
  /-- There is one result for each entry. -/
  results : ((steps.flatMap SweepStep.results).map Prod.fst).Perm
    (steps.flatMap SweepStep.entries)
  probed : report.probed = (steps.flatMap SweepStep.entries).length
  alive : report.alive = (steps.flatMap SweepStep.results).countP fun result => result.2
  failed : report.failed = (steps.flatMap SweepStep.results).countP fun result => !result.2
  sum : report.probed = report.alive + report.failed
  /-- The evicted are the entries that the sweep removes. -/
  evicted : report.evicted = (steps.flatMap SweepStep.removed).length
  fewer : report.evicted ≤ report.failed
  evictions : growth .evicted steps = (report.evicted : Int)
  /-- Each failure is counted but for the entries whose connection was gone. -/
  pingFailures : growth .pingFailure steps =
    (report.failed : Int) - (steps.flatMap SweepStep.gone).length

/-- What a sweep found, when it has come to its end. -/
theorem Ledger.ended (ledger : Ledger steps all ⟨.management, [], report⟩) :
    report = SweepReport.add {} all ∧
      (all.map Finding.place).Perm (steps.flatMap SweepStep.entries) := by
  obtain ⟨closed, found, looked, same⟩ := ledger.passes
  have none : Round.findings ⟨.management, [], report⟩ = [] := rfl
  rw [none, List.append_nil] at found
  change all.Perm closed at found
  have nowhere : Round.places ⟨.management, [], report⟩ = [] := rfl
  rw [nowhere, List.append_nil] at looked
  change (steps.flatMap SweepStep.entries).Perm _ at looked
  exact ⟨same.trans (SweepReport.add_perm {} found.symm), (found.map _).trans looked.symm⟩

/-- The books of a sweep that has come to its end balance. -/
theorem Ledger.balanced (ledger : Ledger steps all ⟨.management, [], report⟩) :
    Balanced steps report := by
  obtain ⟨same, found⟩ := ledger.ended
  have probed : report.probed = all.length := by rw [same]; exact Nat.zero_add _
  have alive : report.alive = all.countP Finding.alive := by rw [same]; exact Nat.zero_add _
  have failed : report.failed = all.countP Finding.failed := by rw [same]; exact Nat.zero_add _
  have evicted : report.evicted = all.countP Finding.evicted := by rw [same]; exact Nat.zero_add _
  have pingFailures := ledger.pingFailures
  refine ⟨?_, ?_, ?_, ?_, ?_, ?_, ?_, ledger.evictions, ?_⟩
  · rw [← ledger.results, List.map_map]
    exact found
  · rw [probed, ← found.length_eq, List.length_map]
  · rw [alive, ← ledger.results, List.countP_map]
    rfl
  · rw [failed, ← ledger.results, List.countP_map]
    rfl
  · rw [probed, alive, failed, List.length_eq_countP_add_countP Finding.alive]
    simp only [Bool.not_eq_true, Bool.decide_eq_false]
    rfl
  · rw [evicted, ledger.removed]
  · rw [evicted, failed]
    exact List.countP_mono_left ledger.failed
  · omega

/-- A place has one result, with one move of the sweep. -/
theorem result_unique (distinct : ((steps.flatMap SweepStep.results).map Prod.fst).Nodup)
    {other : SweepStep} (member : step ∈ steps) (member' : other ∈ steps) {alive alive' : Bool}
    (here : (place, alive) ∈ step.results) (there : (place, alive') ∈ other.results) :
    other = step ∧ alive' = alive := by
  have among : (place, alive) ∈ steps.flatMap SweepStep.results :=
    List.mem_flatMap.mpr ⟨step, member, here⟩
  have among' : (place, alive') ∈ steps.flatMap SweepStep.results :=
    List.mem_flatMap.mpr ⟨other, member', there⟩
  have same := List.inj_on_of_nodup_map distinct among' among rfl
  cases same
  refine ⟨?_, rfl⟩
  by_contra apart
  have symm : Std.Symm (Function.onFun List.Disjoint SweepStep.results) :=
    ⟨fun _ _ disjoint _ here there => disjoint there here⟩
  have disjoint := (List.nodup_flatMap.mp (List.Nodup.of_map Prod.fst distinct)).2
  exact disjoint.forall member' member apart there here

/-- The accounts of a sweep that began at `start`, by its moves in a run to `last`, and its report.
What is said of one place presupposes that no other place has a session on the connection there, as
it is if the connection is opened once, or always for the same peer. -/
structure Accounted (start : Hub) (steps : List SweepStep) (report : SweepReport) (last : Hub) :
    Prop extends Balanced steps report where
  /-- The sweep probes the devices that there are when it begins, and the management clients that
  there are when it comes to these, -/
  entries : ∃ step ∈ steps, steps.flatMap SweepStep.entries =
    start.places .device ++ step.before.places .management
  /-- no two of them in the same slot. -/
  slots : ((steps.flatMap SweepStep.entries).map Place.slot).Nodup
  /-- A connection that is counted as alive has no failures after its probe, -/
  forgiven : ∀ {place}, last.Alone place → ∀ step ∈ steps,
    (place, true) ∈ step.results → (step.after.link? place.link).map Link.failures = some 0
  /-- and no move of the sweep closes it or removes its entry. -/
  spared : ∀ {place}, last.Alone place →
    (place, true) ∈ steps.flatMap SweepStep.results → ∀ step ∈ steps,
      step.after.isClosed place.link = step.before.isClosed place.link ∧ place ∉ step.removed
  /-- A result says whether a pong has come since the sweep began to probe the connection, or that
  no ping could be queued for it. -/
  told : ∀ {place alive}, last.Alone place → ∀ step ∈ steps, (place, alive) ∈ step.results →
    ∀ {settings : Settings} {mark : Mark} {moves : List Move},
      (fresh settings mark).run? moves = some step.before →
      Says (fresh settings mark) moves step.before step.move place alive
  /-- An entry is removed with the move that learns that its probe failed. Its connection is gone,
  or closed with as many failures as the threshold tells. -/
  removed : ∀ {place}, last.Alone place → ∀ step ∈ steps, place ∈ step.removed →
    (place, false) ∈ step.results ∧ (place ∈ step.gone ∨ ∃ l,
      step.after.link? place.link = some l ∧ l.closed = true ∧
        last.settings.failureThreshold ≤ l.failures)
  /-- An entry whose slot has gone to another connection before its result is learned is not
  removed, -/
  replaced : ∀ {place alive}, last.Alone place → ∀ step ∈ steps,
    (place, alive) ∈ step.results →
    step.before.boundTo? place.variant place.key ≠ some place.link →
    ∀ other ∈ steps, place ∉ other.removed
  /-- and the other connection is left alone in the slot. -/
  newcomer : ∀ {place slot}, place ∈ steps.flatMap SweepStep.entries → ∀ step ∈ steps,
    step.before.registered? place.variant place.key = some slot → slot.link ≠ place.link →
    last.Alone ⟨place.variant, place.key, slot.link⟩ →
    Leaves slot.link step.before step.after ∧
      step.after.registered? place.variant place.key = some slot
  /-- So is every connection that is at none of the entries. -/
  others : ∀ {i}, (∀ place ∈ steps.flatMap SweepStep.entries, place.link ≠ i) → ∀ step ∈ steps,
    Leaves i step.before step.after

/-- **Accounting.** Whenever a sweep has come to its end, with any moves between its own, its
report, the counters and the rosters agree with what it found. -/
theorem sweep_accounted (reached : (fresh settings mark).run? earlier = some h)
    (run : h.run? (.sweeping :: later) = some last)
    (ended : last.report? h.nextTask = some report) :
    Accounted h (h.sweepSteps h.nextTask (.sweeping :: later)) report last := by
  have ended := mem_finished_of_report? ended
  obtain ⟨all, ledger, covers⟩ : ∃ all,
      Ledger (h.sweepSteps h.nextTask (.sweeping :: later)) all ⟨.management, [], report⟩ ∧
      Covers h (h.sweepSteps h.nextTask (.sweeping :: later)) .management := by
    cases audited_of_run? reached run with
    | waits round member unfinished ledger covers => exact absurd ended (unfinished _)
    | ended past reported => exact reported report ended
  have made {step : SweepStep} (member : step ∈ h.sweepSteps h.nextTask (.sweeping :: later)) :
      step.Made settings mark last := made_of_mem reached run ledger member
  generalize h.sweepSteps h.nextTask (.sweeping :: later) = steps at ledger covers made ⊢
  have entries : ∃ step ∈ steps, steps.flatMap SweepStep.entries =
      h.places .device ++ step.before.places .management := by
    cases covers with
    | both member same => exact ⟨_, member, same⟩
  have slots : ((steps.flatMap SweepStep.entries).map Place.slot).Nodup := by
    obtain ⟨step, member, same⟩ := entries
    rw [same]
    exact (keyed_of_run? reached).nodup_append (made member).keyed
  have balanced := ledger.balanced
  have distinct := balanced.results.nodup_iff.mpr (List.Nodup.of_map Place.slot slots)
  refine ⟨balanced, entries, slots, ?forgiven, ?spared, ?told, ?removed, ?replaced, ?newcomer,
    ?others⟩
  case forgiven => exact fun alone step member answered => (made member).forgives alone answered
  case told =>
    intro place alive alone step member learned settings mark moves run
    exact says_of_verdictOn? run (alone.of_persists (made member).persists)
      (mem_resultsAt.mp learned).2
  case removed => exact fun alone step member removed => (made member).given_up alone removed
  case others =>
    intro i away step member
    exact leaves_of_sweep (made member).moved (made member).sweeps
      fun place looked => away place (ledger.looked step member place looked)
  case spared =>
    intro place alone answered step member
    obtain ⟨other, member', answered⟩ := List.mem_flatMap.mp answered
    refine (made member).spares alone fun failed => ?_
    cases (result_unique distinct member' member answered failed).2
  case replaced =>
    intro place alive alone step member learned unbound other member' removed
    have failed := ((made member').given_up alone removed).1
    obtain ⟨rfl, -⟩ := result_unique distinct member member' learned failed
    exact unbound ((mem_listed_iff (made member').keyed).mp (List.mem_filter.mp removed).1)
  case newcomer =>
    intro place slot inside step member there other alone
    have bound : step.before.boundTo? place.variant place.key = some slot.link :=
      congrArg (Option.map Slot.link) there
    -- The connection is at no entry, as the slot has its entry with another one.
    have leaves : Leaves slot.link step.before step.after := by
      refine (made member).leaves alone fun looked => other ?_
      have among := ledger.looked step member _ looked
      exact congrArg Place.link (List.inj_on_of_nodup_map slots among inside rfl)
    refine ⟨leaves, ?_⟩
    rcases leaves.slot place.variant place.key with same | ⟨unbound, -⟩
    · exact same.trans there
    · exact absurd bound unbound

/-- Three devices open their connections. A sweep begins; the first connection is closed and another
one takes its slot, and only the second device answers. -/
def replacedRun : List Move × List Move :=
  let target (name : String) : Target :=
    ⟨.device, "/OCPP16/T/K/" ++ name, "T", "K", name, "ocpp1.6"⟩
  let identity (name : String) : Identity := ⟨⟨"T", "T"⟩, ⟨name, none, none, none⟩⟩
  ([.accept .device, .opening 0 (target "D1"), .directoryAnswers 0 (.ok (identity "D1")),
    .accept .device, .opening 1 (target "D2"), .directoryAnswers 1 (.ok (identity "D2")),
    .accept .device, .opening 2 (target "D3"), .directoryAnswers 2 (.ok (identity "D3"))],
   [.close 0 .normal, .accept .device, .opening 3 (target "D1"),
    .directoryAnswers 4 (.ok (identity "D1")), .pong 1, .advance 5000, .resume 3])

/-- If one failed probe is one too many, the third device is removed, and the new connection of the
first one stays. -/
theorem sweep_accounted_replacedRun : ∃ h last,
    (fresh { failureThreshold := 1 } "hub").run? replacedRun.1 = some h ∧
    h.run? (.sweeping :: replacedRun.2) = some last ∧
    last.report? h.nextTask = some ⟨3, 1, 2, 1⟩ ∧
    (h.sweepSteps h.nextTask (.sweeping :: replacedRun.2)).flatMap SweepStep.removed =
      [⟨.device, ⟨"T", "D3"⟩, 2⟩] ∧
    last.boundTo? .device ⟨"T", "D1"⟩ = some 3 ∧ last.isClosed 3 = false ∧
    Accounted h (h.sweepSteps h.nextTask (.sweeping :: replacedRun.2)) ⟨3, 1, 2, 1⟩ last := by
  let h := ((fresh { failureThreshold := 1 } "hub").run? replacedRun.1).get (by decide)
  have reached : (fresh { failureThreshold := 1 } "hub").run? replacedRun.1 = some h :=
    (Option.some_get _).symm
  let last := (h.run? (.sweeping :: replacedRun.2)).get (by decide)
  have run : h.run? (.sweeping :: replacedRun.2) = some last := (Option.some_get _).symm
  have ended : last.report? h.nextTask = some ⟨3, 1, 2, 1⟩ := by decide
  exact ⟨h, last, reached, run, ended, by decide, by decide, by decide,
    sweep_accounted reached run ended⟩

end Hub

end StationHub

import StationHub.Proofs.Server.Deeds
import StationHub.Proofs.Server.Handovers
import StationHub.Proofs.Tasks.Sweeping

/-!
By when the sweeper pings the peers.

* `Phase`, `InPhase`: where the sweeper stands; `reachesBy`: by when a sweep comes to those in the
  slots of a variant.
* `Settings.longestGap`, `reachesBy_le`: how far off that is at most. A sweep waits for its slowest
  probe, so it is not the ping interval alone.
* `rests`, `limit_of_rests`: time does not pass beyond the end of a phase while nothing is due.
* `inPhase_of_step?`: a move brings that time no later, unless those in the slots are pinged by it.
-/

namespace StationHub

/-- How long those in the slots of a variant wait for the next ping of a sweep at most. Management
clients are pinged when the sweep is done with the devices. -/
def Settings.longestGap (settings : Settings) : Variant → Nat
  | .device => max settings.pingInterval (2 * settings.probeTimeout)
  | .management => max settings.pingInterval settings.probeTimeout + settings.probeTimeout

namespace Hub

variable {h next : Hub} {moves : List Move} {id latest : Nat} {variant : Variant}

theorem sweepsUntil_of_run? (numbered : h.Numbered) (sweeps : h.SweepsUntil id variant latest)
    (others : ∀ move ∈ moves, move.task? ≠ some id) (run : h.run? moves = some next) :
    next.SweepsUntil id variant latest := by
  induction moves generalizing h with
  | nil =>
      cases run
      exact sweeps
  | cons move rest ih =>
      rw [run?_cons] at run
      obtain ⟨mid, moved, run⟩ := Option.bind_eq_some_iff.mp run
      refine ih (step?_numbered numbered moved) ?_ (fun other member => ?_) run
      · exact sweepsUntil_of_step? numbered sweeps moved (others move List.mem_cons_self)
      · exact others other (List.mem_cons_of_mem _ member)

theorem hasSwept_of_run? (numbered : h.Numbered) (swept : h.HasSwept id)
    (run : h.run? moves = some next) : next.HasSwept id := by
  refine (run?_induction (P := fun h => h.Numbered ∧ h.HasSwept id) ?_ ⟨numbered, swept⟩ run).2
  rintro h next move ⟨numbered, swept⟩ moved
  exact ⟨step?_numbered numbered moved, hasSwept_of_step? numbered swept moved⟩

/-- Only going on, or being given up, is a step of a task that sweeps. -/
theorem resume_of_sweepsUntil (numbered : h.Numbered) (sweeps : h.SweepsUntil id variant latest)
    {move : Move} (moved : h.step? move = some next) (touches : move.task? = some id) :
    move = .resume id ∨ move = .cancel id := by
  obtain ⟨members, report, member, -⟩ := sweeps.waits
  cases move with
  | resume task =>
      cases touches
      exact .inl rfl
  | cancel task =>
      cases touches
      exact .inr rfl
  | directoryAnswers task answer =>
      cases touches
      obtain ⟨_, _, _, found, -⟩ := resolved moved
      cases numbered.eq_of_task? found member rfl
  | executorAnswers task reply =>
      cases touches
      obtain ⟨_, _, _, _, found, -⟩ := executed moved
      cases numbered.eq_of_task? found member rfl
  | _ => cases touches

end Hub

namespace Server

variable {s next : Server} {move : Move}

/-! ### Where the sweeper stands -/

/-- Where the sweeper stands. -/
inductive Phase where
  /-- No sweep is under way, and one begins at `due`, or as soon as possible after it. -/
  | rests (due : Nat)
  /-- The roster of a variant is swept until `latest`; the next sweep is to begin at `due`. -/
  | probes (variant : Variant) (latest due : Nat)

/-- By when a sweep comes to those in the slots of a variant. -/
def reachesBy (s : Server) : Phase → Variant → Nat
  | .rests due, .device => due
  | .rests due, .management => max due s.hub.now + s.hub.settings.probeTimeout
  | .probes .device latest due, .device => max due (latest + s.hub.settings.probeTimeout)
  | .probes .device latest _, .management => latest
  | .probes .management latest due, .device => max due latest
  | .probes .management latest due, .management => max due latest + s.hub.settings.probeTimeout

/-- The sweeper stands there. -/
inductive InPhase (s : Server) : Phase → Prop where
  | waiting {due : Nat} : s.sweeper = .waiting due →
      due ≤ s.hub.now + s.hub.settings.pingInterval → InPhase s (.rests due)
  /-- The sweep has come to its end, and the sweeper is about to learn of it. -/
  | swept {task due : Nat} : s.sweeper = .sweeping task due → s.hub.HasSwept task →
      due ≤ s.hub.now + s.hub.settings.pingInterval → InPhase s (.rests due)
  | probes {task due latest : Nat} {variant : Variant} : s.sweeper = .sweeping task due →
      s.hub.SweepsUntil task variant latest → s.hub.now ≤ latest →
      latest ≤ s.hub.now + s.hub.settings.probeTimeout →
      due ≤ s.hub.now + s.hub.settings.pingInterval → InPhase s (.probes variant latest due)

/-- A sweep comes to those in the slots within the longest gap. -/
theorem reachesBy_le {phase : Phase} (inPhase : s.InPhase phase) (variant : Variant) :
    s.reachesBy phase variant ≤ s.hub.now + s.hub.settings.longestGap variant := by
  cases inPhase with
  | waiting _ soon | swept _ _ soon =>
      cases variant <;> dsimp only [reachesBy, Settings.longestGap] <;> omega
  | @probes _ _ _ swept _ _ _ early soon =>
      cases swept <;> cases variant <;> dsimp only [reachesBy, Settings.longestGap] <;> omega

/-- A server that keeps its connections alive actively begins with a sweeper that waits. -/
theorem inPhase_fresh {settings : Settings} {mark : Mark} (active : settings.keepAlive = .active) :
    (fresh settings mark).InPhase (.rests settings.pingInterval) := by
  refine .waiting ?_ (Nat.le_add_left ..)
  simp only [fresh, active]

/-! ### Moves -/

/-- The sweeper comes from one phase to another, and no later to anybody who is not pinged. -/
structure Approaches (s next : Server) (phase phase' : Phase) : Prop where
  there : next.InPhase phase'
  sooner : ∀ variant, next.reachesBy phase' variant ≤ s.reachesBy phase variant ∨
    Hub.Reaches variant s.hub next.hub

theorem sweeper_stopReading (s : Server) (i : Nat) (reader : Reader) (session : Nat)
    (handover : Option Handover) :
    (s.stopReading i reader session handover).sweeper = s.sweeper := by
  cases handover with
  | none => rfl
  | some handover => cases handover <;> rfl

theorem sweeper_readLate (s : Server) (i : Nat) (reader : Reader) (session : Nat)
    (handover : Option Handover) (pingAt : Nat) (item : Item) :
    (s.readLate i reader session handover pingAt item).sweeper = s.sweeper := by
  cases item with
  | letter letter => cases handover <;> rfl
  | ping | pong => rfl
  | close | finish | failure => exact sweeper_stopReading ..

/-- Only sweeps, and the end, concern the sweeper. -/
theorem sweeper_of_step? (other : move ≠ .sweep ∧ move ≠ .swept ∧ move ≠ .shutDown)
    (moved : s.step? move = some next) : next.sweeper = s.sweeper := by
  cases step_of_step? moved with
  | upgrade path offered =>
      rw [upgrade]
      split <;> rfl
  | readEarly item => cases item <;> rfl
  | readLate => exact sweeper_readLate ..
  | idle | noticeClose => exact sweeper_stopReading ..
  | sweep => exact absurd rfl other.1
  | swept => exact absurd rfl other.2.1
  | shutDown => exact absurd rfl other.2.2
  | _ => rfl

/-! ### A sweep step by step -/

section Sweep

variable {phase : Phase} (inPhase : s.InPhase phase)
include inPhase

/-- A sweeper that waits has nothing under way. -/
theorem rests_of_waiting {due : Nat} (sweeper : s.sweeper = .waiting due) :
    phase = .rests due ∧ due ≤ s.hub.now + s.hub.settings.pingInterval := by
  cases inPhase with
  | waiting same soon =>
      cases same.symm.trans sweeper
      exact ⟨rfl, soon⟩
  | swept same | probes same => cases same.symm.trans sweeper

/-- A sweep that begins comes to the devices at once. -/
theorem approaches_sweep (grounded : s.Grounded) (moved : s.step? .sweep = some next) :
    ∃ phase', s.Approaches next phase phase' := by
  cases step_of_step? moved with
  | @sweep due sweeper isDue =>
      obtain ⟨rfl, soon⟩ := rests_of_waiting inPhase sweeper
      have begun : s.hub.step? .sweeping = some s.hub.beginSweep.1 := rfl
      have does : Hub.Does (fun _ _ => True) s.hub s.hub.beginSweep.1 :=
        Hub.does_beginSweep (fun _ _ _ => trivial) s.hub
      have settings : s.hub.beginSweep.1.settings = s.hub.settings :=
        (Hub.step?_persists begun).settings
      have now : s.hub.beginSweep.1.now = s.hub.now := does.now
      have later : due + s.hub.settings.pingInterval ≤
          s.hub.beginSweep.1.now + s.hub.beginSweep.1.settings.pingInterval := by
        rw [now, settings]
        exact Nat.add_le_add_right isDue _
      have early : s.hub.beginSweep.1.now ≤ s.hub.now + s.hub.settings.probeTimeout := by omega
      have inTime : s.hub.now + s.hub.settings.probeTimeout ≤
          s.hub.beginSweep.1.now + s.hub.beginSweep.1.settings.probeTimeout :=
        Nat.le_of_eq (by rw [now, settings])
      obtain ⟨devices, stands⟩ := Hub.beginSweep_reaches grounded.numbered grounded.booked
      rcases stands with sweeps | ⟨clients, sweeps | swept⟩
      · refine ⟨_, .probes rfl sweeps early inTime later, fun variant => ?_⟩
        cases variant with
        | device => exact .inr devices
        | management =>
            left
            dsimp only [reachesBy]
            omega
      · refine ⟨_, .probes rfl sweeps early inTime later, fun variant => .inr ?_⟩
        cases variant with
        | device => exact devices
        | management => exact clients
      · refine ⟨_, .swept rfl swept later, fun variant => .inr ?_⟩
        cases variant with
        | device => exact devices
        | management => exact clients

/-- A sweep that is noted to have come to its end has. -/
theorem approaches_swept (moved : s.step? .swept = some next) :
    ∃ phase', s.Approaches next phase phase' := by
  cases step_of_step? moved with
  | swept sweeper found =>
      cases inPhase with
      | waiting same => cases same.symm.trans sweeper
      | swept same _ soon =>
          cases same.symm.trans sweeper
          refine ⟨_, .waiting rfl soon, fun variant => .inl ?_⟩
          cases variant <;> exact Nat.le_refl _
      | probes same sweeps =>
          cases same.symm.trans sweeper
          obtain ⟨before, after, split, -⟩ := List.lookup_eq_some_iff.mp found
          have member := split ▸ List.mem_append_right before List.mem_cons_self
          exact absurd member (sweeps.unfinished _)

/-- A sweep that goes on comes to the management clients when it is done with the devices. -/
theorem approaches_resume (grounded : s.Grounded) {task due : Nat}
    (sweeper : s.sweeper = .sweeping task due)
    (moved : s.step? (.hub (.resume task)) = some next) :
    ∃ phase', s.Approaches next phase phase' := by
  obtain ⟨-, hub, stepped, rfl⟩ := hub_of_internal moved
  have settings : hub.settings = s.hub.settings := (Hub.step?_persists stepped).settings
  have now : hub.now = s.hub.now := by
    rcases Hub.step?_does stepped with does | ⟨_, ⟨⟩⟩ | ⟨_, ⟨⟩⟩
    exact Hub.Does.now does
  have soon' {due : Nat} (soon : due ≤ s.hub.now + s.hub.settings.pingInterval) :
      due ≤ hub.now + hub.settings.pingInterval := by
    rw [now, settings]
    exact soon
  cases inPhase with
  | waiting same => cases same.symm.trans sweeper
  | swept same swept soon =>
      cases same.symm.trans sweeper
      refine ⟨_, .swept sweeper (Hub.hasSwept_of_step? grounded.numbered swept stepped) (soon' soon),
        fun variant => .inl ?_⟩
      cases variant <;> simp only [reachesBy, now, settings, Nat.le_refl]
  | @probes _ _ latest variant same sweeps early inTime soon =>
      cases same.symm.trans sweeper
      have inTime' {latest : Nat} (inTime : latest ≤ s.hub.now + s.hub.settings.probeTimeout) :
          latest ≤ hub.now + hub.settings.probeTimeout := by
        rw [now, settings]
        exact inTime
      rcases Hub.resumeSweep_reaches grounded.numbered sweeps stepped with
        still | ⟨rfl, clients, sweeps' | swept⟩ | ⟨rfl, swept⟩
      · refine ⟨_, .probes sweeper still (now ▸ early) (inTime' inTime) (soon' soon),
          fun other => .inl ?_⟩
        cases variant <;> cases other <;> simp only [reachesBy, settings, Nat.le_refl]
      · refine ⟨_, .probes sweeper sweeps' (now ▸ Nat.le_add_right ..) (inTime' (Nat.le_refl _))
          (soon' soon), fun other => ?_⟩
        cases other with
        | management => exact .inr clients
        | device =>
            left
            dsimp only [reachesBy]
            omega
      · refine ⟨_, .swept sweeper swept (soon' soon), fun other => ?_⟩
        cases other with
        | management => exact .inr clients
        | device => exact .inl (Nat.le_max_left ..)
      · refine ⟨_, .swept sweeper swept (soon' soon), fun other => .inl ?_⟩
        cases other with
        | management =>
            dsimp only [reachesBy]
            rw [now, settings]
            omega
        | device => exact Nat.le_max_left ..

end Sweep

/-! ### Other moves -/

/-- What a reader has running handles what arrived. -/
def Handling (s : Server) : Prop :=
  ∀ {i : Nat} {reader : Reader} {task : Nat}, s.reader? i = some reader →
    reader.running? = some task → s.hub.Handler task

theorem handling_of_run? {settings : Settings} {mark : Mark} {moves : List Move}
    (run : (fresh settings mark).run? moves = some s) : s.Handling :=
  fun {i} _ _ here runs => (ledger_of_run? run i).handler here runs

/-- A task of a handler does not sweep. -/
theorem ne_of_handler {task id latest : Nat} {variant : Variant} (handler : s.hub.Handler task)
    (sweeps : s.hub.SweepsUntil id variant latest) : task ≠ id := by
  rintro rfl
  obtain ⟨members, report, member, -⟩ := sweeps.waits
  cases handler.handling _ member rfl

/-- A sweep that has come to its end is noted by nobody but the sweeper. -/
theorem noted_ne {id : Nat} (handling : s.Handling)
    (swept : s.hub.HasSwept id) (other : move ≠ .swept) (moved : s.step? move = some next) :
    s.noted? move ≠ some id := by
  intro noted
  obtain ⟨report, ended⟩ := swept.outcome
  cases move with
  | opened i =>
      obtain ⟨reader, after, here, turn, -⟩ := turn_of_step? rfl moved
      cases turn with
      | begin_ stage found | fail stage found =>
          rw [s.noted?_opened here stage] at noted
          cases noted
          cases found.symm.trans ended
      | stop _ why => rcases why with ⟨_, -, why⟩ | ⟨why, -⟩ | ⟨why, -⟩ <;> cases why
  | handled i =>
      obtain ⟨reader, after, here, turn, -⟩ := turn_of_step? rfl moved
      cases turn with
      | handled stage found =>
          rw [s.noted?_handled here stage] at noted
          cases noted
          have handler := handling here (Reader.running?_of_stage stage)
          obtain ⟨before, after, split, -⟩ := List.lookup_eq_some_iff.mp ended
          cases handler.outcome _ (split ▸ List.mem_append_right _ List.mem_cons_self)
      | stop _ why => rcases why with ⟨_, -, why⟩ | ⟨why, -⟩ | ⟨why, -⟩ <;> cases why
  | swept => exact other rfl
  | _ => cases noted

theorem lookup_filter_ne {entries : List (Nat × TaskOutcome)} {task id : Nat} (other : task ≠ id) :
    (entries.filter fun entry => entry.1 != task).lookup id = entries.lookup id := by
  induction entries with
  | nil => rfl
  | cons entry rest ih =>
      by_cases same : entry.1 = task
      · have apart : (id == entry.1) = false := beq_false_of_ne fun equal => other (same ▸ equal.symm)
        rw [List.filter_cons_of_neg (by simp [same]), ih, List.lookup_cons, apart]
      · rw [List.filter_cons_of_pos (by simp [same]), List.lookup_cons, List.lookup_cons, ih]

theorem hasSwept_unnoted {id : Nat} (swept : s.hub.HasSwept id) (other : s.noted? move ≠ some id) :
    ({ s.hub with finished := s.unnoted move } : Hub).HasSwept id := by
  obtain ⟨report, ended⟩ := swept.outcome
  refine ⟨⟨swept.begun, swept.gone⟩, report, ?_⟩
  unfold unnoted
  split
  · next task noted =>
    have apart : task ≠ id := by
      rintro rfl
      exact other noted
    exact (lookup_filter_ne apart).trans ended
  · exact ended

/-- Moves that are no step of a sweep leave the sweeper where it stands. -/
theorem approaches_of_other (grounded : s.Grounded) {phase : Phase} (inPhase : s.InPhase phase)
    (handling : s.Handling)
    (other : move ≠ .sweep ∧ move ≠ .swept ∧ move ≠ .shutDown) (still : ∀ ms, move ≠ .advance ms)
    (noStep : ∀ {task due}, s.sweeper = .sweeping task due → move ≠ .hub (.resume task))
    (moved : s.step? move = some next) : s.Approaches next phase phase := by
  obtain ⟨now, -⟩ := goes_of_step? other.2.2 still moved
  have settings := (step?_persists moved).settings
  have sweeper := sweeper_of_step? other moved
  have numbered : ({ s.hub with finished := s.unnoted move } : Hub).Numbered :=
    ⟨grounded.numbered.below, grounded.numbered.distinct⟩
  have same : next.reachesBy phase = s.reachesBy phase := by
    funext variant
    cases phase with
    | rests => cases variant <;> simp only [reachesBy, now, settings]
    | probes swept => cases swept <;> cases variant <;> simp only [reachesBy, settings]
  refine ⟨?_, fun variant => .inl (Nat.le_of_eq (congrFun same variant))⟩
  cases inPhase with
  | waiting stands soon =>
      refine .waiting (sweeper.trans stands) ?_
      rw [now, settings]
      exact soon
  | swept stands swept soon =>
      refine .swept (sweeper.trans stands) ?_ ?_
      · exact Hub.hasSwept_of_run? numbered
          (hasSwept_unnoted swept (noted_ne handling swept other.2.1 moved)) (step?_unnoted moved)
      · rw [now, settings]
        exact soon
  | @probes task due latest variant stands sweeps early inTime soon =>
      refine .probes (sweeper.trans stands) ?_ ?_ ?_ ?_
      · have unnoted : ({ s.hub with finished := s.unnoted move } : Hub).SweepsUntil task variant
            latest := by
          refine ⟨fun outcome member => ?_, sweeps.waits⟩
          exact sweeps.unfinished outcome ((s.unnoted_sublist move).subset member)
        refine Hub.sweepsUntil_of_run? numbered unnoted (fun m member touches => ?_)
          (step?_unnoted moved)
        cases serves_of_mem other.2.2 still moved member with
        | internal internal =>
            obtain ⟨-, hub, stepped, -⟩ := hub_of_internal moved
            rcases Hub.resume_of_sweepsUntil grounded.numbered sweeps stepped touches with rfl | rfl
            · exact noStep stands rfl
            · cases internal
        | plain plain =>
            cases m with
            | resume | directoryAnswers | executorAnswers | cancel => cases plain
            | _ => cases touches
        | drop here stage =>
            cases touches
            exact ne_of_handler (handling here (Reader.running?_of_stage stage)) sweeps rfl
        | _ => cases touches
      · rw [now]
        exact early
      · rw [now, settings]
        exact inTime
      · rw [now, settings]
        exact soon

/-! ### Time -/

/-- The server some time later. -/
def later (s : Server) (ms : Nat) : Server := s.onHub fun h => { h with now := h.now + ms }

/-- Nothing is due: neither a sweep, or a step of it, nor a ping of a reader. -/
def rests (s : Server) : Bool :=
  (s.step? .sweep).isNone && (s.step? .swept).isNone &&
    (List.range s.readers.length).all (fun i => (s.step? (.ping i)).isNone) &&
    match s.sweeper with
    | .sweeping task _ => (s.step? (.hub (.resume task))).isNone
    | _ => true

/-- The end of a phase. -/
def Phase.limit : Phase → Nat
  | .rests due => due
  | .probes _ latest _ => latest

theorem limit_le_reachesBy (s : Server) (phase : Phase) (variant : Variant) :
    phase.limit ≤ s.reachesBy phase variant := by
  cases phase with
  | rests => cases variant <;> dsimp only [Phase.limit, reachesBy] <;> omega
  | probes swept => cases swept <;> cases variant <;> dsimp only [Phase.limit, reachesBy] <;> omega

/-- **Time does not pass beyond the end of a phase** while nothing is due. -/
theorem limit_of_rests (grounded : s.Grounded) {phase : Phase} (inPhase : s.InPhase phase) {ms : Nat}
    (prompt : ∀ passed < ms, (s.later passed).rests = true) (passes : 0 < ms) :
    s.hub.now + ms ≤ phase.limit := by
  by_contra late
  have before {passed : Nat} (within : passed < ms) :
      (s.later passed).step? .sweep = none ∧ (s.later passed).step? .swept = none ∧
        ∀ {task due}, s.sweeper = .sweeping task due →
          (s.later passed).step? (.hub (.resume task)) = none := by
    have nothing := prompt passed within
    simp only [rests, Bool.and_eq_true, Option.isNone_iff_eq_none] at nothing
    obtain ⟨⟨⟨sweep, swept⟩, -⟩, resume⟩ := nothing
    refine ⟨sweep, swept, fun {task due} sweeper => ?_⟩
    have same : (s.later passed).sweeper = .sweeping task due := sweeper
    rw [same] at resume
    exact Option.isNone_iff_eq_none.mp resume
  cases inPhase with
  | @waiting due sweeper =>
      have within : due - s.hub.now < ms := by
        dsimp only [Phase.limit] at late
        omega
      have same : (s.later (due - s.hub.now)).sweeper = .waiting due := sweeper
      have isDue : due ≤ (s.later (due - s.hub.now)).hub.now := by
        show due ≤ s.hub.now + (due - s.hub.now)
        omega
      have none := (before within).1
      simp only [step?, sweep?, same, if_pos isDue] at none
      cases none
  | swept sweeper swept =>
      obtain ⟨report, ended⟩ := swept.outcome
      have same : (s.later 0).sweeper = _ := sweeper
      have found : (s.later 0).hub.finished.lookup _ = _ := ended
      have none := (before passes).2.1
      simp only [step?, swept?, same, takeOutcome?, Hub.takeOutcome?, found] at none
      cases none
  | @probes task due latest variant sweeper sweeps early =>
      have within : latest - s.hub.now < ms := by
        dsimp only [Phase.limit] at late
        omega
      have numbered : (s.later (latest - s.hub.now)).hub.Numbered :=
        ⟨grounded.numbered.below, grounded.numbered.distinct⟩
      have sweeps' : (s.later (latest - s.hub.now)).hub.SweepsUntil task variant latest :=
        ⟨sweeps.unfinished, sweeps.waits⟩
      have late : latest ≤ (s.later (latest - s.hub.now)).hub.now := by
        show latest ≤ s.hub.now + (latest - s.hub.now)
        omega
      obtain ⟨hub, resumed⟩ := Option.isSome_iff_exists.mp
        (Hub.ready_of_late numbered sweeps' late)
      have none := (before within).2.2 sweeper
      simp only [step?, resumed] at none
      cases none

theorem reachesBy_later {phase : Phase} {ms : Nat} (limit : 0 < ms → s.hub.now + ms ≤ phase.limit)
    (variant : Variant) : (s.later ms).reachesBy phase variant ≤ s.reachesBy phase variant := by
  cases phase with
  | probes swept => cases swept <;> cases variant <;> exact Nat.le_refl _
  | rests due =>
      cases variant with
      | device => exact Nat.le_refl _
      | management =>
          dsimp only [Phase.limit] at limit
          show max due (s.hub.now + ms) + s.hub.settings.probeTimeout ≤
            max due s.hub.now + s.hub.settings.probeTimeout
          omega

theorem inPhase_later (grounded : s.Grounded) {phase : Phase} (inPhase : s.InPhase phase)
    {ms : Nat} (prompt : ∀ passed < ms, (s.later passed).rests = true) :
    (s.later ms).InPhase phase := by
  have limit := limit_of_rests grounded inPhase prompt
  have now : (s.later ms).hub.now = s.hub.now + ms := rfl
  have soon' {due interval : Nat} (soon : due ≤ s.hub.now + interval) :
      due ≤ (s.later ms).hub.now + interval := by omega
  cases inPhase with
  | waiting sweeper soon => exact .waiting sweeper (soon' soon)
  | swept sweeper swept soon =>
      exact .swept sweeper ⟨⟨swept.begun, swept.gone⟩, swept.outcome⟩ (soon' soon)
  | probes sweeper sweeps early inTime soon =>
      refine .probes sweeper ⟨sweeps.unfinished, sweeps.waits⟩ ?_ (soon' inTime) (soon' soon)
      dsimp only [Phase.limit] at limit
      omega

/-- **The sweeper comes nearer.** A move brings the next ping of those in the slots no later, unless
they are pinged by it. -/
theorem inPhase_of_step? (grounded : s.Grounded) (handling : s.Handling) {phase : Phase}
    (inPhase : s.InPhase phase) (goesOn : move ≠ .shutDown) (still : ∀ ms, move ≠ .advance ms)
    (moved : s.step? move = some next) : ∃ phase', s.Approaches next phase phase' := by
  by_cases begins : move = .sweep
  · subst begins
    exact approaches_sweep inPhase grounded moved
  by_cases ends : move = .swept
  · subst ends
    exact approaches_swept inPhase moved
  by_cases steps : ∃ task due, s.sweeper = .sweeping task due ∧ move = .hub (.resume task)
  · obtain ⟨task, due, sweeper, rfl⟩ := steps
    exact approaches_resume inPhase grounded sweeper moved
  refine ⟨phase, approaches_of_other grounded inPhase handling ⟨begins, ends, goesOn⟩ still ?_ moved⟩
  exact fun {task due} sweeper same => steps ⟨task, due, sweeper, same⟩

end Server

end StationHub

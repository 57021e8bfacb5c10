import StationHub.Proofs.Hub.History
import StationHub.Proofs.Slots.Rounds

/-!
The moves of one sweep in a run, and the books over them.

* `SweepStep`: a move of a sweep, by what it begins to probe, learns and removes, and by what the
  counters grow; `sweepSteps`: those of one sweep in a run.
* `SweepStep.Keeps`: what a move means for the books; `keeps_beginSweep`, `keeps_resumeSweep`.
* `Ledger`, `Covers`: the books of a sweep so far, and the entries that it began to probe.
* `Audited`: a sweep waits with its books kept, or is over; `audited_of_run?` has it all along.
-/

namespace StationHub

namespace Hub

open Counters (Occasion)

variable {settings : Settings} {mark : Mark} {moves earlier later : List Move} {move : Move}
  {h next last : Hub} {id : Nat} {place : Place} {round round' : Round} {new all : List Finding}
  {members : List Member} {report : SweepReport} {variant : Variant}

/-! ### The moves of a sweep -/

/-- A move of sweep number `task`, with the hub before and after it. -/
structure SweepStep where
  task : Nat
  before : Hub
  move : Move
  after : Hub

namespace SweepStep

/-- The entries that the sweep begins to probe: those of the devices when it begins, and those of
the management clients when it is done with the devices. -/
def entries (step : SweepStep) : List Place :=
  (if step.move.beginsSweep then step.before.places .device else []) ++
    if (step.move.beginsSweep ∨ step.before.sweeps? step.task = some .device) ∧
        step.after.sweeps? step.task ≠ some .device then
      step.before.places .management
    else []

/-- The results that the sweep learns. -/
def results (step : SweepStep) : List (Place × Bool) :=
  resultsAt (step.before.verdictOn? · step.move) (step.before.lookedAt step.move)

/-- The entries that are not probed because nobody holds their connection any more. -/
def gone (step : SweepStep) : List Place :=
  step.entries.filter fun place => !(step.before.apart step.move).isAlive place.link

/-- The entries that are removed. -/
def removed (step : SweepStep) : List Place :=
  step.before.listed.filter fun place => decide (place ∉ step.after.listed)

/-- By what a counter grows. -/
def growth (step : SweepStep) (occasion : Occasion) : Int :=
  step.after.counters.counted occasion - step.before.counters.counted occasion

end SweepStep

/-- By what a counter grows with all of the moves. -/
def growth (occasion : Occasion) : List SweepStep → Int
  | [] => 0
  | step :: rest => step.growth occasion + growth occasion rest

theorem growth_concat (occasion : Occasion) (steps : List SweepStep) (step : SweepStep) :
    growth occasion (steps ++ [step]) = growth occasion steps + step.growth occasion := by
  induction steps with
  | nil => exact Int.add_comm _ _
  | cons first rest ih =>
      rw [List.cons_append, growth, growth, ih, Int.add_assoc]

/-- The move, if it is one of sweep number `task` and possible. -/
def sweepStep? (task : Nat) (h : Hub) (move : Move) : Option SweepStep :=
  if h.isSweep move && move.task?.getD h.nextTask == task then
    (h.step? move).map fun next => ⟨task, h, move, next⟩
  else none

/-- The moves of sweep number `task` in a run, oldest first. -/
def sweepSteps (h : Hub) (task : Nat) (moves : List Move) : List SweepStep :=
  h.observed (sweepStep? task) moves

theorem sweepStep?_sweeping (moved : h.step? .sweeping = some next) :
    sweepStep? h.nextTask h .sweeping = some ⟨h.nextTask, h, .sweeping, next⟩ := by
  have is : (h.isSweep .sweeping && Move.sweeping.task?.getD h.nextTask == h.nextTask) = true :=
    beq_self_eq_true h.nextTask
  rw [sweepStep?, if_pos is, moved]
  rfl

theorem sweepStep?_resume
    (found : h.task? id = some ⟨id, .sweeping variant members report⟩)
    (moved : h.step? (.resume id) = some next) :
    sweepStep? id h (.resume id) = some ⟨id, h, .resume id, next⟩ := by
  have is : (h.isSweep (.resume id) && (Move.resume id).task?.getD h.nextTask == id) = true := by
    rw [isSweep, found]
    exact beq_self_eq_true id
  rw [sweepStep?, if_pos is, moved]
  rfl

/-- A move that is no step of the task is none of the sweep, which has begun. -/
theorem sweepStep?_of_ne (begun : id < h.nextTask) (other : move.task? ≠ some id) :
    sweepStep? id h move = none := by
  have not : (h.isSweep move && move.task?.getD h.nextTask == id) = false := by
    rw [Bool.and_eq_false_iff, beq_eq_false_iff_ne]
    right
    cases known : move.task? with
    | none => exact Nat.ne_of_gt begun
    | some id' =>
        rintro rfl
        exact other known
  rw [sweepStep?, not, if_neg Bool.false_ne_true]

/-- No move is one of a sweep that is over. -/
theorem sweepStep?_of_over (past : h.Over id) (move : Move) : sweepStep? id h move = none := by
  by_cases touched : move.task? = some id
  · have not : h.isSweep move = false := by
      cases move with
      | resume id' =>
          cases touched
          rw [isSweep, task?_of_gone past.gone]
          rfl
      | sweeping => cases touched
      | _ => rfl
    rw [sweepStep?, not, Bool.false_and, if_neg Bool.false_ne_true]
  · exact sweepStep?_of_ne past.begun touched

/-! ### What sweeps remove -/

/-- A move of a sweep is made in passing, but for the slots that it empties. -/
theorem aside_of_sweep (moved : h.step? move = some next) (sweeps : h.isSweep move = true) :
    Aside True False h next := by
  rcases sweeping_of_isSweep sweeps with rfl | ⟨id, variant, members, report, rfl, found⟩
  · cases moved
    exact aside_beginSweep h
  · obtain ⟨task, found', -, rfl⟩ := resumed moved
    cases found.symm.trans found'
    exact (aside_detach h id).trans (aside_resumeSweep _ id variant members report)

/-- A sweep adds no entry. -/
theorem listed_of_sweep (keyed : h.Keyed) (moved : h.step? move = some next)
    (sweeps : h.isSweep move = true) (inside : place ∈ next.listed) : place ∈ h.listed := by
  have aside := aside_of_sweep moved sweeps
  rw [mem_listed_iff (aside.keyed keyed)] at inside
  rw [mem_listed_iff keyed]
  rcases aside.spares.slot place.variant place.key with same | ⟨-, emptied⟩
  · rwa [boundTo?, same] at inside
  · rw [boundTo?, emptied] at inside
    cases inside

theorem length_removed {step : SweepStep} (keyed : step.before.Keyed)
    (moved : step.before.step? step.move = some step.after)
    (sweeps : step.before.isSweep step.move = true) :
    step.removed.length + step.after.registrations = step.before.registrations := by
  have keyed' : step.after.Keyed := (aside_of_sweep moved sweeps).keyed keyed
  have kept : (step.before.listed.filter fun place => decide (place ∈ step.after.listed)).Perm
      step.after.listed := by
    refine (List.perm_ext_iff_of_nodup (keyed.nodup_listed.filter _) keyed'.nodup_listed).mpr ?_
    intro place
    rw [List.mem_filter, decide_eq_true_eq]
    exact and_iff_right_of_imp (listed_of_sweep keyed moved sweeps)
  have split := List.length_eq_length_filter_add (l := step.before.listed)
    fun place => decide (place ∈ step.after.listed)
  rw [kept.length_eq] at split
  have same : step.removed = step.before.listed.filter fun place =>
      !decide (place ∈ step.after.listed) := by
    simp [SweepStep.removed]
  rw [same, registrations, registrations]
  omega

/-! ### The books of a move -/

/-- What a move of a sweep means for its books, that is at `round` before the move and at `round'`
after it. -/
structure SweepStep.Keeps (step : SweepStep) (round : Round) (new : List Finding) (round' : Round) :
    Prop where
  advances : Advances (step.before.apart step.move) round step.entries new step.after round'
  results : new.map Finding.result = step.results
  looked : step.before.lookedAt step.move = round.places ++ step.entries
  /-- The entries that the sweep begins to probe are the places that are not under it before. -/
  fresh : ∀ place ∈ step.before.lookedAt step.move,
    place ∈ step.entries ↔ step.before.sweptBy? step.move ≠ some place.variant
  removed : step.removed.length = new.countP Finding.evicted

/-- What a move finds evicted is what it removes. -/
theorem removed_of_advances (step : SweepStep) {entries : List Place} (keyed : step.before.Keyed)
    (moved : step.before.step? step.move = some step.after)
    (sweeps : step.before.isSweep step.move = true)
    (advances : Advances (step.before.apart step.move) round entries new step.after round') :
    step.removed.length = new.countP Finding.evicted := by
  have lengths := length_removed keyed moved sweeps
  have registrations := advances.registrations
  have same : (step.before.apart step.move).registrations = step.before.registrations := by
    refine registrations_congr fun variant => ?_
    unfold apart
    split
    · cases variant <;> rfl
    · rfl
  omega

theorem task?_newTask (numbered : h.Numbered) : h.task? h.nextTask = none :=
  task?_of_gone fun task member => Nat.ne_of_lt (numbered.below task member)

theorem task?_detach (h : Hub) (id : Nat) : (h.detach id).task? id = none :=
  task?_of_gone fun _ member => bne_iff_ne.mp (List.mem_filter.mp member).2

/-- Whether the sweep is at the devices shows in its task. -/
theorem Brings.sweeps?_eq (brings : Brings id h next round) (absent : h.task? id = none) :
    next.sweeps? id = some .device ↔ round.variant = .device := by
  unfold task? at absent
  unfold sweeps? task?
  cases brings with
  | waits round after kept =>
      rw [after, List.find?_append, absent]
      simp [Activity.swept?]
  | ends report after ended =>
      rw [after, absent]
      exact iff_of_false nofun nofun

/-- A sweep that waits or has come to its end has begun. -/
theorem Brings.begun (brings : Brings id h next round) (numbered : next.Numbered)
    (booked : next.Booked) : id < next.nextTask := by
  cases brings with
  | waits round tasks finished =>
      exact numbered.below _ (tasks ▸ List.mem_append_right _ List.mem_cons_self)
  | ends report tasks finished =>
      exact booked _ (finished ▸ List.mem_append_right _ List.mem_cons_self)

/-- A sweep that begins. -/
theorem keeps_beginSweep (numbered : h.Numbered) (keyed : h.Keyed)
    (moved : h.step? .sweeping = some next) :
    ∃ new round, SweepStep.Keeps ⟨h.nextTask, h, .sweeping, next⟩ ⟨.device, [], {}⟩ new round ∧
      Brings h.nextTask h next round ∧
      SweepStep.entries ⟨h.nextTask, h, .sweeping, next⟩ = h.places .device ++
        if round.variant = .device then [] else h.places .management := by
  cases moved
  obtain ⟨new, round, advances, brings, results, looked⟩ := advances_beginSweep keyed
  have entries : SweepStep.entries ⟨h.nextTask, h, .sweeping, h.beginSweep.1⟩ =
      h.lookedAt .sweeping := by
    have still := brings.sweeps?_eq (task?_newTask numbered)
    rw [looked, SweepStep.entries]
    by_cases devices : round.variant = .device <;>
      simp [Move.beginsSweep, devices, still]
  refine ⟨new, round, ⟨entries ▸ advances, results, entries.symm, fun place inside => ?_, ?_⟩,
    brings, entries.trans looked⟩
  · rw [entries]
    exact iff_of_true inside nofun
  · exact removed_of_advances ⟨h.nextTask, h, .sweeping, h.beginSweep.1⟩ keyed rfl rfl advances

/-- A sweep that goes on. -/
theorem keeps_resumeSweep (keyed : h.Keyed)
    (found : h.task? id = some ⟨id, .sweeping variant members report⟩)
    (distinct : (members.map (Member.place variant)).Nodup)
    (moved : h.step? (.resume id) = some next) :
    ∃ new round, SweepStep.Keeps ⟨id, h, .resume id, next⟩ ⟨variant, members, report⟩ new round ∧
      Brings id (h.detach id) next round ∧ (round.variant = .device → variant = .device) ∧
      SweepStep.entries ⟨id, h, .resume id, next⟩ =
        if variant = .device ∧ round.variant ≠ .device then h.places .management else [] := by
  have sweeps : h.isSweep (.resume id) = true := by
    rw [isSweep, found]
    rfl
  have under : h.sweeps? id = some variant := by
    rw [sweeps?, found]
    rfl
  obtain ⟨task, found', -, same⟩ := resumed moved
  cases found.symm.trans found'
  have keyed' : (h.detach id).Keyed := keyed.congr fun variant => by cases variant <;> rfl
  obtain ⟨new, round, advances, brings, results, devices, looked⟩ :=
    advances_resumeSweep keyed' distinct id report
  have after : (h.detach id).resumeSweep id variant members report = next := same.symm
  rw [after] at advances brings
  have here : (h.detach id).places .management = h.places .management := rfl
  rw [here] at looked
  have entries : SweepStep.entries ⟨id, h, .resume id, next⟩ =
      (h.detach id).resumedEntries variant members := by
    have still := brings.sweeps?_eq (task?_detach h id)
    rw [looked, SweepStep.entries, under]
    simp [Move.beginsSweep, still]
  have places := lookedAt_resume found
  refine ⟨new, round, ⟨entries ▸ advances, ?_, ?_, fun place inside => ?_, ?_⟩, brings, devices,
    entries.trans looked⟩
  · rw [SweepStep.results, places, results]
    exact resultsAt_congr fun place _ => (verdictOn?_resume found).symm
  · rw [places, entries]
    rfl
  · have swept : h.sweptBy? (.resume id) = some variant := under
    rw [entries, swept]
    rw [places, List.mem_append] at inside
    constructor
    · intro begun other
      rcases resumedEntries_cases (h.detach id) variant members with none | ⟨rfl, all⟩
      · rw [none] at begun
        cases begun
      · rw [all] at begun
        rw [variant_of_mem_places begun] at other
        cases other
    · intro other
      refine inside.resolve_left fun before => other ?_
      obtain ⟨member, -, rfl⟩ := List.mem_map.mp before
      rfl
  · exact removed_of_advances ⟨id, h, .resume id, next⟩ keyed moved sweeps advances

/-! ### The books of a sweep -/

/-- The books of a sweep that is at `round`, by its moves so far and what it found with them. -/
structure Ledger (steps : List SweepStep) (all : List Finding) (round : Round) : Prop where
  passes : Round.Passes ⟨.device, [], {}⟩ (steps.flatMap SweepStep.entries) all round
  results : all.map Finding.result = steps.flatMap SweepStep.results
  removed : (steps.flatMap SweepStep.removed).length = all.countP Finding.evicted
  pingFailures : growth .pingFailure steps + ((steps.flatMap SweepStep.gone).length : Int) =
    all.countP Finding.failed
  evictions : growth .evicted steps = (round.report.evicted : Int)
  failed : ∀ finding ∈ all, finding.evicted = true → finding.failed = true
  looked : ∀ step ∈ steps, ∀ place ∈ step.before.lookedAt step.move,
    place ∈ steps.flatMap SweepStep.entries
  fresh : ∀ step ∈ steps, ∀ place ∈ step.before.lookedAt step.move,
    place ∈ step.entries ↔ step.before.sweptBy? step.move ≠ some place.variant

theorem Ledger.nil : Ledger [] [] ⟨.device, [], {}⟩ where
  passes := Round.Passes.refl ⟨.device, [], {}⟩
  results := List.map_nil
  removed := rfl
  pingFailures := by simp [growth]
  evictions := by simp [growth]
  failed := fun _ inside => nomatch inside
  looked := fun _ inside => nomatch inside
  fresh := fun _ inside => nomatch inside

/-- The places that a sweep is at are entries that it began to probe. -/
theorem Ledger.mem_entries {steps : List SweepStep} (ledger : Ledger steps all round)
    (inside : place ∈ round.places) : place ∈ steps.flatMap SweepStep.entries := by
  obtain ⟨closed, -, looked, -⟩ := ledger.passes
  exact looked.mem_iff.mpr (List.mem_append_right _ inside)

theorem counters_apart (h : Hub) (move : Move) : (h.apart move).counters = h.counters := by
  unfold apart
  split <;> rfl

namespace SweepStep.Keeps

variable {step : SweepStep} (keeps : step.Keeps round new round')
include keeps

theorem pingFailures :
    step.growth .pingFailure + (step.gone.length : Int) = new.countP Finding.failed := by
  have failures := keeps.advances.pingFailures
  rw [counters_apart, List.countP_eq_length_filter] at failures
  change _ + step.gone.length = _ at failures
  unfold SweepStep.growth
  omega

theorem evictions :
    round.report.evicted + step.growth .evicted = (round'.report.evicted : Int) := by
  have evicted := keeps.advances.evicted
  rw [counters_apart] at evicted
  unfold SweepStep.growth
  omega

end SweepStep.Keeps

theorem flatMap_concat {α β : Type} (f : α → List β) (items : List α) (item : α) :
    (items ++ [item]).flatMap f = items.flatMap f ++ f item := by
  rw [List.flatMap_append, List.flatMap_singleton]

/-- A move more. -/
theorem Ledger.concat {steps : List SweepStep} {step : SweepStep}
    (ledger : Ledger steps all round) (keeps : step.Keeps round new round') :
    Ledger (steps ++ [step]) (all ++ new) round' := by
  have failures := ledger.pingFailures
  have failures' := keeps.pingFailures
  have evictions := ledger.evictions
  have evictions' := keeps.evictions
  have removed := ledger.removed
  have removed' := keeps.removed
  have entries := flatMap_concat SweepStep.entries steps step
  refine ⟨entries ▸ ledger.passes.trans keeps.advances.passes, ?_, ?_, ?_, ?_,
    List.forall_mem_append.mpr ⟨ledger.failed, keeps.advances.failed⟩, ?_,
    List.forall_mem_append.mpr ⟨ledger.fresh, List.forall_mem_singleton.mpr keeps.fresh⟩⟩
  · rw [List.map_append, flatMap_concat, ledger.results, keeps.results]
  · rw [flatMap_concat, List.length_append, List.countP_append]
    omega
  · rw [growth_concat, flatMap_concat, List.length_append, List.countP_append]
    omega
  · rw [growth_concat]
    omega
  · rw [entries]
    intro other member place inside
    rw [List.mem_append]
    rcases List.mem_append.mp member with old | now
    · exact .inl (ledger.looked other old place inside)
    · rw [List.mem_singleton.mp now, keeps.looked] at inside
      exact (List.mem_append.mp inside).imp_left ledger.mem_entries

/-- The entries that a sweep began to probe since the hub was at `start`, by the roster that it is
at: those of the devices, and those that the management clients had when it came to these. -/
inductive Covers (start : Hub) (steps : List SweepStep) : Variant → Prop where
  | devices : steps.flatMap SweepStep.entries = start.places .device → Covers start steps .device
  | both {step : SweepStep} : step ∈ steps →
      steps.flatMap SweepStep.entries =
        start.places .device ++ step.before.places .management → Covers start steps .management

/-- The entries of a sweep that begins. -/
theorem covers_single {step : SweepStep} (entries : step.entries = step.before.places .device ++
      if variant = .device then [] else step.before.places .management) :
    Covers step.before [step] variant := by
  have all : [step].flatMap SweepStep.entries = step.entries := List.flatMap_singleton _ _
  cases variant with
  | device => exact .devices (all.trans (entries.trans (List.append_nil _)))
  | management => exact .both List.mem_cons_self (all.trans entries)

/-- A move of a sweep that goes on. -/
theorem Covers.concat {start : Hub} {steps : List SweepStep} {step : SweepStep}
    {variant' : Variant} (covers : Covers start steps variant)
    (stays : variant' = .device → variant = .device)
    (entries : step.entries = if variant = .device ∧ variant' ≠ .device then
      step.before.places .management else []) :
    Covers start (steps ++ [step]) variant' := by
  have all := flatMap_concat SweepStep.entries steps step
  cases covers with
  | devices covers =>
      cases variant' with
      | device => exact .devices (by rw [all, entries, covers]; simp)
      | management =>
          exact .both (List.mem_append_right _ List.mem_cons_self)
            (by rw [all, entries, covers]; simp)
  | both member covers =>
      cases variant' with
      | device => cases stays rfl
      | management =>
          exact .both (List.mem_append_left _ member) (by rw [all, entries, covers]; simp)

/-! ### Sweeps in the course of a run -/

/-- A sweep with the books kept of its moves since the hub was at `start`: -/
inductive Audited (start : Hub) (id : Nat) (steps : List SweepStep) (h : Hub) : Prop where
  /-- it waits, -/
  | waits (round : Round) {all : List Finding} :
      (⟨id, .sweeping round.variant round.members round.report⟩ : Task) ∈ h.tasks →
      (∀ outcome, (id, outcome) ∉ h.finished) → Ledger steps all round →
      Covers start steps round.variant → Audited start id steps h
  /-- or it has come to its end with a report, or was given up. -/
  | ended : h.Over id → (∀ report, (id, .swept report) ∈ h.finished →
      ∃ all, Ledger steps all ⟨.management, [], report⟩ ∧ Covers start steps .management) →
      Audited start id steps h

theorem audited_of_brings {start : Hub} {steps : List SweepStep} (brings : Brings id h next round)
    (gone : ∀ task ∈ h.tasks, task.id ≠ id) (unfinished : ∀ outcome, (id, outcome) ∉ h.finished)
    (begun : id < next.nextTask) (ledger : Ledger steps all round)
    (covers : Covers start steps round.variant) : Audited start id steps next := by
  cases brings with
  | waits round tasks finished =>
      exact .waits round (tasks ▸ List.mem_append_right _ List.mem_cons_self)
        (finished ▸ unfinished) ledger covers
  | ends report tasks finished =>
      refine .ended ⟨begun, tasks ▸ gone⟩ fun report' ended => ?_
      rw [finished] at ended
      rcases List.mem_append.mp ended with old | new
      · exact absurd old (unfinished _)
      · cases List.mem_singleton.mp new
        exact ⟨all, ledger, covers⟩

/-- The books are kept by every move. -/
theorem audited_of_step? {start : Hub} {steps : List SweepStep}
    (run : (fresh settings mark).run? moves = some h) (audited : Audited start id steps h)
    (moved : h.step? move = some next) :
    Audited start id (steps ++ (sweepStep? id h move).toList) next := by
  have numbered := numbered_of_run? run
  have grows := (step?_persists moved).nextTask
  cases audited with
  | ended past reported =>
      rw [sweepStep?_of_over past, Option.toList_none, List.append_nil]
      refine .ended (step?_over numbered past moved) fun report ended => reported report ?_
      exact finished_of_step? past.begun (fun _ => task?_of_gone past.gone) moved ended
  | waits round member unfinished ledger covers =>
      have begun := numbered.below _ member
      have found := numbered.task?_of_mem member
      dsimp only at begun found
      by_cases touched : move.task? = some id
      · cases move with
        | cancel _ =>
            cases touched
            cases moved
            have none : sweepStep? id h (.cancel id) = none := rfl
            rw [none, Option.toList_none, List.append_nil]
            refine .ended (over_of_detach numbered found (tasks_cancel h id) grows)
              fun report ended => ?_
            rw [finished_cancel] at ended
            exact absurd ended (unfinished _)
        | resume _ =>
            cases touched
            have distinct := (enrolled_of_run? run _ member rfl).distinct
            obtain ⟨new, round', keeps, brings, stays, entries⟩ :=
              keeps_resumeSweep (keyed_of_run? run) found distinct moved
            rw [sweepStep?_resume found moved, Option.toList_some]
            refine audited_of_brings brings (fun task inside => ?_) unfinished
              (Nat.lt_of_lt_of_le begun grows) (ledger.concat keeps) (covers.concat stays entries)
            simpa using (List.mem_filter.mp inside).2
        | directoryAnswers _ answer =>
            cases touched
            obtain ⟨link, target, guard, resolving, -⟩ := resolved moved
            cases found.symm.trans resolving
        | executorAnswers _ reply =>
            cases touched
            obtain ⟨session, _, request, guard, executing, -⟩ := executed moved
            cases found.symm.trans executing
        | _ => cases touched
      · rw [sweepStep?_of_ne begun touched, Option.toList_none, List.append_nil]
        obtain ⟨added, turnover⟩ := step?_tasks numbered moved
        refine .waits round ?_ (fun outcome ended => unfinished outcome ?_) ledger covers
        · rw [turnover.tasks]
          exact List.mem_append_left _ (mem_apart.mpr ⟨member, touched⟩)
        · exact finished_of_step? begun (fun is => absurd is touched) moved ended

/-- **The books of a sweep are kept all along**, whatever moves come between its own. -/
theorem audited_of_run? (reached : (fresh settings mark).run? earlier = some h)
    (run : h.run? (.sweeping :: later) = some last) :
    Audited h h.nextTask (h.sweepSteps h.nextTask (.sweeping :: later)) last := by
  have numbered := numbered_of_run? reached
  have booked := booked_of_run? reached
  -- Induction on the moves after the beginning, the last one first.
  induction later using List.reverseRecOn generalizing last with
  | nil =>
      rw [run?_cons] at run
      obtain ⟨next, moved, ends⟩ := Option.bind_eq_some_iff.mp run
      cases ends
      obtain ⟨new, round, keeps, brings, entries⟩ :=
        keeps_beginSweep numbered (keyed_of_run? reached) moved
      have steps : h.sweepSteps h.nextTask [.sweeping] = [⟨h.nextTask, h, .sweeping, last⟩] := by
        rw [sweepSteps, observed, sweepStep?_sweeping moved, moved]
        rfl
      rw [steps]
      refine audited_of_brings brings (fun task member => ?_) (fun outcome ended => ?_)
        (brings.begun (step?_numbered numbered moved) (step?_booked numbered booked moved))
        (Ledger.nil.concat keeps) (covers_single entries)
      · exact Nat.ne_of_lt (numbered.below task member)
      · exact Nat.lt_irrefl _ (booked _ ended)
  | append_singleton later move ih =>
      rw [← List.cons_append] at run ⊢
      obtain ⟨mid, run, moved⟩ := run?_concat.mp run
      have reached' : (fresh settings mark).run? (earlier ++ .sweeping :: later) = some mid := by
        rw [run?_append, reached]
        exact run
      have kept := audited_of_step? reached' (ih run) moved
      rw [sweepSteps, observed_concat run]
      exact kept

end Hub

end StationHub

import StationHub.Proofs.Link.Traffic
import StationHub.Proofs.Lock.Steps
import StationHub.Proofs.Tasks.Verdicts

/-!
Probes as tasks of their own, however many there are of one connection.

* `beginProbe_of_open`: how a probe of an open connection begins.
* `Pending`: a probe that was begun and waits; `Pending.task`, `Pending.verdicts`: its task, and the
  verdict so far.
* `Attentive`: the task of a probe goes on as soon as it can; `inTime_of_attentive`: when it does.
* `probes_of_run?`: the verdict of every probe.
-/

namespace StationHub.Hub

variable {settings : Settings} {mark : Mark} {moves later : List Move} {h base next : Hub}
  {move : Move} {i id wait : Nat} {l : Link}

/-! ### How a probe begins -/

/-- A probe of an open connection pings it. -/
theorem beginProbe_of_open (here : h.link? i = some l) (isOpen : l.closed = false) (wait : Nat) :
    (h.beginProbe i wait).1 =
      if (l.ping h.now).2 then
        (h.newTask.1.modifyLink i fun _ => (l.ping h.now).1).suspend h.nextTask
          (.probing i ⟨l.pongs, h.now + wait⟩)
      else
        (h.newTask.1.modifyLink i fun _ => (l.ping h.now).1).conclude h.nextTask
          (.probed false) := by
  have there : h.newTask.1.link? i = some l := here
  have started : h.newTask.1.startProbe i wait =
      (h.newTask.1.modifyLink i fun _ => (l.ping h.now).1,
        if (l.ping h.now).2 then some ⟨l.pongs, h.now + wait⟩ else none) := by
    unfold startProbe
    simp only [there, Link.startProbe, isOpen, Bool.false_eq_true, if_false]
    rfl
  unfold beginProbe
  dsimp only
  rw [started]
  cases (l.ping h.now).2 <;> rfl

theorem link?_beginProbe (here : h.link? i = some l) (isOpen : l.closed = false) (wait j : Nat) :
    (h.beginProbe i wait).1.link? j =
      (h.link? j).map fun other => if i = j then (l.ping h.now).1 else other := by
  have changed := link?_modifyLink h.newTask.1 i (fun _ => (l.ping h.now).1) j
  rw [beginProbe_of_open here isOpen]
  split <;> exact changed

/-- No probe changes how many have failed, however it begins. -/
theorem failures_beginProbe {j : Nat} (there : h.link? j = some l) (i wait : Nat) :
    ∃ l', (h.beginProbe i wait).1.link? j = some l' ∧ l'.failures = l.failures := by
  cases here : h.link? i with
  | none =>
      have absent : h.newTask.1.link? i = none := here
      refine ⟨l, ?_, rfl⟩
      unfold beginProbe startProbe
      simp only [absent]
      exact there
  | some l₀ =>
      cases isOpen : l₀.closed with
      | true =>
          rw [beginProbe_of_closed here isOpen]
          exact ⟨l, there, rfl⟩
      | false =>
          rw [link?_beginProbe here isOpen, there, Option.map_some]
          by_cases same : i = j
          · subst same
            cases here.symm.trans there
            rw [if_pos rfl]
            exact ⟨_, rfl, l.failures_ping h.now⟩
          · rw [if_neg same]
            exact ⟨l, rfl, rfl⟩

/-! ### How a probe goes on -/

/-- A probe of connection number `i` was begun in a run, at `base`, and its ping was queued; the
connection was in the state `l`. Nothing of what has happened `later` was a step of its task. -/
structure Pending (start : Hub) (moves : List Move) (i wait : Nat) (base : Hub) (l : Link)
    (later : List Move) : Prop where
  begun : ∃ earlier, moves = earlier ++ .probing i wait :: later ∧ start.run? earlier = some base
  known : base.link? i = some l
  isOpen : l.closed = false
  queued : (l.ping base.now).2 = true
  untouched : ∀ move ∈ later, move.task? ≠ some base.nextTask

namespace Pending

variable {start : Hub} {rest : List Move}

/-- Such a probe was pending before as well. -/
theorem before (pending : Pending start moves i wait base l (later ++ rest)) :
    ∃ earlier, moves = earlier ++ rest ∧ Pending start earlier i wait base l later := by
  obtain ⟨earlier, split, run⟩ := pending.begun
  refine ⟨earlier ++ .probing i wait :: later, by simp [split], ⟨earlier, rfl, run⟩,
    pending.known, pending.isOpen, pending.queued, fun move member => ?_⟩
  exact pending.untouched move (List.mem_append_left _ member)

/-- It stays so with what is no step of its task. -/
theorem more (pending : Pending start moves i wait base l later)
    (other : move.task? ≠ some base.nextTask) :
    Pending start (moves ++ [move]) i wait base l (later ++ [move]) := by
  obtain ⟨earlier, split, run⟩ := pending.begun
  refine ⟨⟨earlier, by simp [split], run⟩, pending.known, pending.isOpen, pending.queued,
    fun one member => ?_⟩
  rcases List.mem_append.mp member with old | new
  · exact pending.untouched one old
  · exact List.mem_singleton.mp new ▸ other

theorem run_later (pending : Pending start moves i wait base l later)
    (run : start.run? moves = some h) : (base.beginProbe i wait).1.run? later = some h := by
  obtain ⟨earlier, split, run'⟩ := pending.begun
  rw [split, run?_append, run', Option.bind_some, run?_cons] at run
  exact run

section

variable (pending : Pending (fresh settings mark) moves i wait base l later)
  (run : (fresh settings mark).run? moves = some h)
include pending run

/-- Its task waits for a pong beyond those that the connection had counted. -/
theorem task : h.task? base.nextTask =
    some ⟨base.nextTask, .probing i ⟨l.pongs, base.now + wait⟩⟩ := by
  obtain ⟨earlier, split, run'⟩ := pending.begun
  have begins : base.step? (.probing i wait) = some (base.beginProbe i wait).1 := rfl
  have numbered := numbered_of_run? (run?_concat.mpr ⟨base, run', begins⟩)
  have member : (⟨base.nextTask, .probing i ⟨l.pongs, base.now + wait⟩⟩ : Task) ∈
      (base.beginProbe i wait).1.tasks := by
    rw [beginProbe_of_open pending.known pending.isOpen, if_pos pending.queued]
    exact List.mem_append_right _ List.mem_cons_self
  exact task?_of_run? numbered (pending.run_later run) (numbered.task?_of_mem member)
    pending.untouched

/-- Its verdict is positive once a pong has come since, whatever else has happened, and negative
once its time is over without one. -/
theorem verdicts :
    (h.verdict? i ⟨l.pongs, base.now + wait⟩ = some true ↔ .pong i ∈ later) ∧
      (h.verdict? i ⟨l.pongs, base.now + wait⟩ = some false ↔
        .pong i ∉ later ∧ base.now + wait ≤ h.now) := by
  have at_mid : (base.beginProbe i wait).1.link? i = some (l.ping base.now).1 := by
    rw [link?_beginProbe pending.known pending.isOpen, pending.known, Option.map_some, if_pos rfl]
  have verdicts := verdict?_of_run? (pending.run_later run) at_mid (base.now + wait)
  rwa [Link.pongs_ping] at verdicts

theorem isSome_verdict? : (h.verdict? i ⟨l.pongs, base.now + wait⟩).isSome = true ↔
    .pong i ∈ later ∨ base.now + wait ≤ h.now := by
  obtain ⟨answered, silent⟩ := pending.verdicts run
  rw [Option.isSome_iff_exists]
  constructor
  · rintro ⟨alive, verdict⟩
    cases alive with
    | true => exact .inl (answered.mp verdict)
    | false => exact .inr (silent.mp verdict).2
  · intro decided
    by_cases pong : Move.pong i ∈ later
    · exact ⟨true, answered.mpr pong⟩
    · exact ⟨false, silent.mpr ⟨pong, decided.resolve_left pong⟩⟩

/-- Its task goes on as soon as there is a verdict, and returns it. -/
theorem step?_eq_some : h.step? (.resume base.nextTask) = some next ↔
    ∃ alive, h.verdict? i ⟨l.pongs, base.now + wait⟩ = some alive ∧
      next = (h.detach base.nextTask).conclude base.nextTask (.probed alive) := by
  have found := pending.task run
  have goesOn : ∀ alive, h.verdict? i ⟨l.pongs, base.now + wait⟩ = some alive →
      h.step? (.resume base.nextTask) =
        some ((h.detach base.nextTask).conclude base.nextTask (.probed alive)) := by
    intro alive verdict
    have decided : (h.detach base.nextTask).verdict? i ⟨l.pongs, base.now + wait⟩ = some alive :=
      verdict
    have ready : h.isReady ⟨base.nextTask, .probing i ⟨l.pongs, base.now + wait⟩⟩ = true :=
      Option.isSome_iff_exists.mpr ⟨alive, verdict⟩
    rw [step?, found]
    dsimp only
    rw [if_pos ready, resume]
    dsimp only
    rw [resumeProbe_of_verdict decided]
  constructor
  · intro moved
    obtain ⟨task, found', ready, -⟩ := resumed moved
    cases found.symm.trans found'
    obtain ⟨alive, verdict⟩ := Option.isSome_iff_exists.mp ready
    exact ⟨alive, verdict, Option.some.inj (moved.symm.trans (goesOn alive verdict))⟩
  · rintro ⟨alive, verdict, rfl⟩
    exact goesOn alive verdict

end

end Pending

/-! ### When it goes on -/

/-- Task number `id` goes on as soon as it can: nothing else happens, and no time passes, while it
is ready. -/
def Attentive (start : Hub) (moves : List Move) (id : Nat) : Prop :=
  ∀ earlier move rest mid, moves = earlier ++ move :: rest → start.run? earlier = some mid →
    ∀ task, mid.task? id = some task → ∀ passed ≤ move.elapsed - 1,
      { mid with now := mid.now + passed }.isReady task = false

/-- Task number `id` is not ready, at any time before the move is over. -/
def isUnready (id : Nat) (h : Hub) (move : Move) : Bool :=
  (h.task? id).all fun task =>
    (List.range (move.elapsed - 1 + 1)).all fun passed =>
      !{ h with now := h.now + passed }.isReady task

theorem attentive_of_always {start : Hub}
    (unready : Runs.always step? (isUnready id) start moves = true) : start.Attentive moves id := by
  rintro earlier move rest mid rfl run task found passed within
  rw [Runs.always_append run, Bool.and_eq_true, Runs.always, Bool.and_eq_true, isUnready, found,
    Option.all_some, List.all_eq_true] at unready
  simpa using unready.2.1 passed (List.mem_range.mpr (Nat.lt_succ_of_le within))

section

variable (run : (fresh settings mark).run? moves = some h)
include run

/-- Whatever else happens, it happens before the verdict. -/
theorem undecided_of_attentive {rest : List Move}
    (attentive : (fresh settings mark).Attentive moves base.nextTask)
    (pending : Pending (fresh settings mark) moves i wait base l (later ++ move :: rest)) :
    .pong i ∉ later ∧ ∃ earlier mid, moves = earlier ++ move :: rest ∧
      (fresh settings mark).run? earlier = some mid ∧
      Pending (fresh settings mark) earlier i wait base l later ∧
      mid.now + (move.elapsed - 1) < base.now + wait := by
  obtain ⟨earlier, split, before⟩ := pending.before
  subst split
  obtain ⟨mid, run', -⟩ := run?_split run
  -- Let the time pass until just before the move is over.
  have passes : mid.step? (.advance (move.elapsed - 1)) =
      some { mid with now := mid.now + (move.elapsed - 1) } := rfl
  have waits : Pending (fresh settings mark) _ i wait base l
      (later ++ [.advance (move.elapsed - 1)]) := before.more nofun
  have ran := run?_concat.mpr ⟨mid, run', passes⟩
  have unready := attentive earlier move rest mid rfl run' _ (before.task run') _ (Nat.le_refl _)
  have undecided := mt (waits.isSome_verdict? ran).mpr (Bool.eq_false_iff.mp unready)
  rw [not_or, Nat.not_le] at undecided
  exact ⟨fun answered => undecided.1 (List.mem_append_left _ answered), earlier, mid, rfl, run',
    before, undecided.2⟩

/-- A task that goes on as soon as it can goes on with the first pong if that comes in time, and
when the time is over otherwise. -/
theorem inTime_of_attentive
    (attentive : (fresh settings mark).Attentive moves base.nextTask)
    (pending : Pending (fresh settings mark) moves i wait base l later)
    (decided : .pong i ∈ later ∨ base.now + wait ≤ h.now) :
    (h.now < base.now + wait ∧ ∃ silent, later = silent ++ [.pong i] ∧ .pong i ∉ silent) ∨
      (h.now = base.now + wait ∧ .pong i ∉ later) := by
  by_cases answered : Move.pong i ∈ later
  · left
    obtain ⟨silent, rest, rfl, first⟩ := List.eq_append_cons_of_mem answered
    cases rest with
    | cons move rest =>
        rw [List.append_cons] at pending
        have early := (undecided_of_attentive run attentive pending).1
        exact absurd (List.mem_append_right _ (List.mem_singleton_self _)) early
    | nil =>
        obtain ⟨-, earlier, mid, rfl, run', -, early⟩ :=
          undecided_of_attentive run attentive pending
        obtain ⟨mid', run'', moved⟩ := run?_concat.mp run
        cases run'.symm.trans run''
        cases moved
        exact ⟨early, silent, rfl, first⟩
  · refine .inr ⟨Nat.le_antisymm ?_ (decided.resolve_left answered), answered⟩
    rcases List.eq_nil_or_concat' later with rfl | ⟨silent, last, rfl⟩
    · have begun := pending.run_later run
      cases begun
      rw [beginProbe_of_open pending.known pending.isOpen, if_pos pending.queued]
      exact Nat.le_add_right _ _
    · obtain ⟨-, earlier, mid, rfl, run', -, early⟩ :=
        undecided_of_attentive run attentive pending
      obtain ⟨mid', run'', moved⟩ := run?_concat.mp run
      cases run'.symm.trans run''
      have now := (handover_of_step? (numbered_of_run? run') (custody_of_run? run') moved).2
      omega

end

/-! ### The verdict -/

/-- The probes of connection number `i` after the moves of a run: one that begins now, and all that
were begun and wait. -/
structure Probes (start : Hub) (moves : List Move) (h : Hub) (i : Nat) : Prop where
  /-- A probe of a closed connection fails at once and queues nothing. -/
  closed : ∀ l wait, h.link? i = some l → l.closed = true →
    ∃ next, h.step? (.probing i wait) = some next ∧
      next.finished = h.finished ++ [(h.nextTask, .probed false)] ∧
      next.connections = h.connections
  /-- A probe fails at once whose ping is not queued. -/
  refused : ∀ l wait, h.link? i = some l → l.closed = false → (l.ping h.now).2 = false →
    ∃ next, h.step? (.probing i wait) = some next ∧
      next.finished = h.finished ++ [(h.nextTask, .probed false)] ∧
      next.link? i = some { l with pings := l.pings + 1 }
  /-- Otherwise it waits; its ping comes last in the queue. -/
  begins : ∀ l wait, h.link? i = some l → l.closed = false → (l.ping h.now).2 = true →
    ∃ next, h.step? (.probing i wait) = some next ∧ next.finished = h.finished ∧
      Pending start (moves ++ [.probing i wait]) i wait h l [] ∧
      ∃ l', next.link? i = some l' ∧ l'.queue = l.queue ++ [.ping l.pings]
  /-- It can go on exactly if a pong has come since it began or its time is over, -/
  goesOn : ∀ wait base l later, Pending start moves i wait base l later →
    ((h.step? (.resume base.nextTask)).isSome = true ↔
      .pong i ∈ later ∨ base.now + wait ≤ h.now)
  /-- and is positive exactly if a pong has come since it began. -/
  verdict : ∀ wait base l later, Pending start moves i wait base l later →
    ∀ next, h.step? (.resume base.nextTask) = some next →
      ∃ alive, next.finished = h.finished ++ [(base.nextTask, .probed alive)] ∧
        (alive = true ↔ .pong i ∈ later) ∧ next.connections = h.connections
  /-- If it goes on as soon as it can, that is with the first pong before its time is over, or
  without one just when its time is over. -/
  inTime : ∀ wait base l later, Pending start moves i wait base l later →
    start.Attentive moves base.nextTask → (h.step? (.resume base.nextTask)).isSome = true →
      (h.now < base.now + wait ∧ ∃ silent, later = silent ++ [.pong i] ∧ .pong i ∉ silent) ∨
        (h.now = base.now + wait ∧ .pong i ∉ later)
  /-- One pong is enough for all that wait. -/
  shared : ∀ next, h.step? (.pong i) = some next →
    ∀ wait base l later, Pending start moves i wait base l later →
      ∃ last, next.step? (.resume base.nextTask) = some last ∧
        last.finished = next.finished ++ [(base.nextTask, .probed true)]
  /-- To begin a probe changes no number of failures. -/
  failures : ∀ wait next, h.step? (.probing i wait) = some next →
    ∀ j l, h.link? j = some l → ∃ l', next.link? j = some l' ∧ l'.failures = l.failures

/-- **The verdict of a probe.** -/
theorem probes_of_run? (run : (fresh settings mark).run? moves = some h) (i : Nat) :
    Probes (fresh settings mark) moves h i := by
  refine ⟨?_, ?_, ?_, ?_, ?_, ?_, ?_, ?_⟩
  · intro l wait here closed
    refine ⟨_, rfl, ?_⟩
    rw [beginProbe_of_closed here closed]
    exact ⟨rfl, rfl⟩
  · intro l wait here isOpen refused
    refine ⟨_, rfl, ?_, ?_⟩
    · rw [beginProbe_of_open here isOpen, refused]
      rfl
    · rw [link?_beginProbe here isOpen, here, Option.map_some, if_pos rfl,
        Link.ping_of_refuses (Link.refuses_of_ping refused)]
  · intro l wait here isOpen queued
    refine ⟨_, rfl, ?_, ?_, ?_⟩
    · rw [beginProbe_of_open here isOpen, if_pos queued]
      rfl
    · exact ⟨⟨moves, rfl, run⟩, here, isOpen, queued, nofun⟩
    · refine ⟨(l.ping h.now).1, ?_, ?_⟩
      · rw [link?_beginProbe here isOpen, here, Option.map_some, if_pos rfl]
      · rw [Link.ping_of_not_refuses (Link.not_refuses_of_ping queued)]
  · intro wait base l later pending
    rw [← pending.isSome_verdict? run, Option.isSome_iff_exists, Option.isSome_iff_exists]
    simp only [pending.step?_eq_some run]
    exact ⟨fun ⟨_, alive, verdict, _⟩ => ⟨alive, verdict⟩,
      fun ⟨alive, verdict⟩ => ⟨_, alive, verdict, rfl⟩⟩
  · intro wait base l later pending next moved
    obtain ⟨alive, verdict, rfl⟩ := (pending.step?_eq_some run).mp moved
    obtain ⟨answered, silent⟩ := pending.verdicts run
    refine ⟨alive, rfl, ?_, rfl⟩
    cases alive with
    | true => exact iff_of_true rfl (answered.mp verdict)
    | false => exact iff_of_false nofun (silent.mp verdict).1
  · intro wait base l later pending attentive possible
    obtain ⟨next, moved⟩ := Option.isSome_iff_exists.mp possible
    obtain ⟨alive, verdict, -⟩ := (pending.step?_eq_some run).mp moved
    refine inTime_of_attentive run attentive pending ((pending.isSome_verdict? run).mp ?_)
    rw [verdict]
    rfl
  · intro next moved wait base l later pending
    have waits : Pending (fresh settings mark) _ i wait base l (later ++ [.pong i]) :=
      pending.more nofun
    have ran := run?_concat.mpr ⟨h, run, moved⟩
    have answered := (waits.verdicts ran).1.mpr
      (List.mem_append_right _ (List.mem_singleton_self _))
    exact ⟨_, (waits.step?_eq_some ran).mpr ⟨true, answered, rfl⟩, rfl⟩
  · intro wait next moved j l there
    cases moved
    exact failures_beginProbe there i wait

/-- A run with two probes of a connection that is closed while they wait, before a pong comes. -/
def probingRun : List Move :=
  [.accept .device, .probing 0 50, .probing 0 80, .close 0 .idle, .advance 20, .pong 0]

/-- After `probingRun` both probes can go on with the same pong, and neither could before. -/
theorem probes_of_run?_probingRun : ∃ h base l base' l' last,
    (fresh {} "hub").run? probingRun = some h ∧
    Pending (fresh {} "hub") probingRun 0 50 base l
      [.probing 0 80, .close 0 .idle, .advance 20, .pong 0] ∧
    Pending (fresh {} "hub") probingRun 0 80 base' l' [.close 0 .idle, .advance 20, .pong 0] ∧
    (fresh {} "hub").Attentive probingRun base.nextTask ∧
    (fresh {} "hub").Attentive probingRun base'.nextTask ∧
    h.run? [.resume base'.nextTask, .resume base.nextTask] = some last ∧
    last.finished = [(base'.nextTask, .probed true), (base.nextTask, .probed true)] ∧
    last.now = 20 ∧ Probes (fresh {} "hub") probingRun h 0 := by
  let base := ((fresh {} "hub").run? [.accept .device]).get (by decide)
  let base' := ((fresh {} "hub").run? [.accept .device, .probing 0 50]).get (by decide)
  refine ⟨_, base, (base.link? 0).get (by decide), base', (base'.link? 0).get (by decide), _, rfl,
    ⟨⟨[.accept .device], rfl, rfl⟩, rfl, by decide, by decide, by simp [Move.task?]⟩,
    ⟨⟨[.accept .device, .probing 0 50], rfl, rfl⟩, rfl, by decide, by decide,
      by simp [Move.task?]⟩, attentive_of_always (by decide), attentive_of_always (by decide), rfl,
    rfl, rfl, probes_of_run? rfl 0⟩

end StationHub.Hub

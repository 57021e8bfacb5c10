import StationHub.Proofs.Slots.Entries
import StationHub.Proofs.Slots.Examined
import StationHub.Proofs.Slots.Reconciling
import StationHub.Proofs.Slots.Shutdown
import StationHub.Proofs.Tasks.Handlers
import StationHub.Proofs.Tasks.Verdicts

/-!
A takeover as a task of its own, from its beginning to its end.

* `Reconciles`: the course of a takeover.
* `Returns`, `Reconciled`: that it ends, and what is true of it then.
* `reconciled_of_run?`: every takeover returns, and comes to what is due.
-/

namespace StationHub.Hub

variable {settings : Settings} {mark : Mark} {moves later : List Move} {h mid last next : Hub}
  {i id owner : Nat} {s : Session} {l : Link} {touched : Nat → Prop}

/-! ### How a takeover ends -/

section Concludes

variable (here : h.session? i = some s)
include here

theorem concludeTakeover_snd (owner : Nat) (alive : Bool) :
    (h.concludeTakeover i owner alive).2 =
      if alive then .closedDuplicate else .adoptedOverDead := by
  unfold concludeTakeover
  rw [here]
  cases alive <;> rfl

theorem boundTo?_concludeTakeover (owner : Nat) (alive : Bool) :
    (h.concludeTakeover i owner alive).1.boundTo? s.variant s.key = some s.link := by
  unfold concludeTakeover
  rw [here]
  cases alive <;> exact congrArg (Option.map Slot.link) (registered?_register_self _ i s)

theorem retakes_concludeTakeover (touches : touched owner) (alive : Bool) :
    Retakes s touched h (h.concludeTakeover i owner alive).1 := by
  have counted : Retakes s touched (h.closed owner .duplicate)
      ((h.closed owner .duplicate).count .duplicateClosed) :=
    retakes_of_eq rfl (fun _ => rfl) rfl
  unfold concludeTakeover
  rw [here]
  cases alive with
  | false => exact retakes_register h i s
  | true => exact ((retakes_closed touches _).trans counted).trans (retakes_register _ i s)

theorem connections_concludeTakeover (owner : Nat) :
    (h.concludeTakeover i owner false).1.connections = h.connections := by
  unfold concludeTakeover
  rw [here]
  exact connections_register h i s

end Concludes

/-! ### The course of a takeover -/

/-- The course of a takeover for session number `i` that is a task of its own: with its first step
it comes from `h` to `mid`. It comes to `takeover` with that step, or goes on with its last one,
from `last` to `next`; `later` is what happened while it waited. -/
inductive Reconciles (h : Hub) (i : Nat) (mid : Hub) :
    List Move → Hub → Hub → Takeover → Prop where
  | atOnce {takeover : Takeover} :
      mid.finished = h.finished ++ [(h.nextTask, .tookOver takeover)] →
      Reconciles h i mid [] mid mid takeover
  | waited {later : List Move} {last next : Hub} {takeover : Takeover} :
      mid.run? later = some last → (∀ move ∈ later, move.task? ≠ some h.nextTask) →
      last.step? (.resume h.nextTask) = some next →
      next.finished = last.finished ++ [(h.nextTask, .tookOver takeover)] →
      Reconciles h i mid later last next takeover

/-- The takeover returns: at once, or as soon as the owner of the slot has answered or the time of
the probe is over, if nobody gives it up before. -/
def Returns (h : Hub) (i : Nat) (s : Session) (mid : Hub) : Prop :=
  (∃ takeover, h.Reconciles i mid [] mid mid takeover) ∨
    ∃ owner, h.boundTo? s.variant s.key = some owner ∧ ∀ later last, mid.run? later = some last →
      (∀ move ∈ later, move.task? ≠ some h.nextTask) →
      .pong owner ∈ later ∨ h.now + h.settings.probeTimeout ≤ last.now →
      ∃ next takeover, h.Reconciles i mid later last next takeover

/-- What is true of a takeover that has returned: to what it came, who holds the slot, whom it
closed, and what it left alone with its first and its last step. -/
structure Reconciled (h : Hub) (s : Session) (mid : Hub) (later : List Move) (last next : Hub)
    (takeover : Takeover) : Prop extends h.ComesTo s later takeover where
  bound : next.boundTo? s.variant s.key = some s.link
  unchanged : takeover = .alreadyCurrent →
    next.registered? s.variant s.key = h.registered? s.variant s.key
  /-- A takeover whose task goes on in time counts the pongs within the time of the probe. -/
  inTime : last.now ≤ h.now + h.settings.probeTimeout →
    (takeover = .closedDuplicate ↔ ∃ owner l, h.Disputed s owner l ∧ (l.ping h.now).2 = true ∧
      mid.RecordsPong later owner (h.now + h.settings.probeTimeout))
  /-- Without a pong it waits for all of that time. -/
  patient : ∀ owner l, h.Disputed s owner l → (l.ping h.now).2 = true → .pong owner ∉ later →
    h.now + h.settings.probeTimeout ≤ last.now
  closes : takeover = .closedDuplicate → ∀ owner, h.boundTo? s.variant s.key = some owner →
    next.isClosed owner = true
  closesNothing : (∀ j, mid.isClosed j = h.isClosed j) ∧
    (takeover ≠ .closedDuplicate → next.connections = last.connections)
  first : Retakes s (fun owner => ∃ l, h.Disputed s owner l) h mid
  last : Retakes s (fun owner => ∃ l, h.Disputed s owner l) last next

/-- The connections in the slots of a hub are known. -/
theorem known_of_run? (run : (fresh settings mark).run? moves = some h) {variant : Variant}
    {key : Key} (bound : h.boundTo? variant key = some owner) : (h.link? owner).isSome = true := by
  obtain ⟨slot, there, rfl⟩ := Option.map_eq_some_iff.mp bound
  obtain ⟨t, at_slot, -, -, on⟩ := (sound_of_run? run).slots there
  exact on ▸ attached_of_run? run at_slot

/-- A takeover that is a task of its own begins, and returns at once or waits for its probe. -/
theorem begun_beginReconcile (run : (fresh settings mark).run? moves = some h)
    (here : h.session? i = some s) :
    (∃ next takeover, h.newTask.1.Begun i s next (.done takeover) ∧
      (h.beginReconcile i).1 = next.conclude h.nextTask (.tookOver takeover)) ∨
    ∃ next owner probe, h.newTask.1.Begun i s next (.probing owner probe) ∧
      (h.beginReconcile i).1 = next.suspend h.nextTask (.takingOver i owner probe) := by
  have known : ∀ owner, h.boundTo? s.variant s.key = some owner → (h.link? owner).isSome = true :=
    fun owner bound => known_of_run? run bound
  have there : h.newTask.1.session? i = some s := here
  unfold beginReconcile
  dsimp only
  rw [there]
  dsimp only
  split
  · next next takeover started =>
    exact .inl ⟨next, takeover, begun_beginTakeover known started, rfl⟩
  · next next owner probe started =>
    exact .inr ⟨next, owner, probe, begun_beginTakeover known started, rfl⟩

/-- A takeover goes on with its last step as soon as its probe is decided. -/
theorem step?_takingOver {probe : Link.Probe} {alive : Bool}
    (found : h.task? id = some ⟨id, .takingOver i owner probe⟩) (here : h.session? i = some s)
    (verdict : h.verdict? owner probe = some alive) :
    h.step? (.resume id) = some ((((h.detach id).concludeTakeover i owner alive).1).conclude id
      (.tookOver (if alive then .closedDuplicate else .adoptedOverDead))) := by
  have there : (h.detach id).session? i = some s := here
  have decided : (h.detach id).verdict? owner probe = some alive := verdict
  have ready : h.isReady ⟨id, .takingOver i owner probe⟩ = true :=
    Option.isSome_iff_exists.mpr ⟨alive, verdict⟩
  rw [← concludeTakeover_snd there owner alive, step?, found]
  dsimp only
  rw [if_pos ready, resume]
  dsimp only
  rw [resumeProbe_of_verdict decided]

theorem finished_takingOver (h : Hub) (id i owner : Nat) (alive : Bool) (outcome : TaskOutcome) :
    (((h.detach id).concludeTakeover i owner alive).1.conclude id outcome).finished =
      h.finished ++ [(id, outcome)] :=
  congrArg (· ++ [(id, outcome)]) (reseats_concludeTakeover (h.detach id) i owner alive).finished

/-- If it goes on, its probe is decided. -/
theorem verdict_of_takingOver {probe : Link.Probe}
    (found : h.task? id = some ⟨id, .takingOver i owner probe⟩)
    (moved : h.step? (.resume id) = some next) : ∃ alive, h.verdict? owner probe = some alive := by
  obtain ⟨task, found', ready, -⟩ := resumed moved
  cases found.symm.trans found'
  exact Option.isSome_iff_exists.mp ready

/-- A takeover whose probe was sent: it waits until a pong comes or the time is over. -/
structure Waits (h : Hub) (i : Nat) (s : Session) (owner : Nat) (l : Link) (mid : Hub)
    (later : List Move) (last : Hub) : Prop where
  disputed : h.Disputed s owner l
  queued : (l.ping h.now).2 = true
  unfinished : mid.finished = h.finished
  found : last.task? h.nextTask =
    some ⟨h.nextTask, .takingOver i owner ⟨l.pongs, h.now + h.settings.probeTimeout⟩⟩
  session : ∃ s', last.session? i = some s' ∧ s.SamePeer s'
  answered : last.verdict? owner ⟨l.pongs, h.now + h.settings.probeTimeout⟩ = some true ↔
    .pong owner ∈ later
  silent : last.verdict? owner ⟨l.pongs, h.now + h.settings.probeTimeout⟩ = some false ↔
    .pong owner ∉ later ∧ h.now + h.settings.probeTimeout ≤ last.now
  coherent : ∀ {j : Nat} {l : Link}, last.link? j = some l → l.Coherent

theorem waits_of_begun {base : Hub} {probe : Link.Probe}
    (run : (fresh settings mark).run? moves = some h) (here : h.session? i = some s)
    (begun : h.newTask.1.Begun i s base (.probing owner probe))
    (same : (h.beginReconcile i).1 = base.suspend h.nextTask (.takingOver i owner probe))
    (goesOn : (h.beginReconcile i).1.run? later = some last)
    (others : ∀ move ∈ later, move.task? ≠ some h.nextTask) :
    ∃ l, h.Waits i s owner l (h.beginReconcile i).1 later last := by
  have begins : h.step? (.reconciling i) = some (h.beginReconcile i).1 := rfl
  have run' := run?_concat.mpr ⟨h, run, begins⟩
  have run'' : (fresh settings mark).run? (moves ++ [.reconciling i] ++ later) = some last := by
    rw [run?_append, run', Option.bind_some]
    exact goesOn
  cases begun with
  | @pinged _ l disputed queued =>
      have at_mid : (h.beginReconcile i).1.link? owner = some (l.ping h.now).1 := by
        have changed := link?_modifyLink h.newTask.1 owner (fun _ => (l.ping h.now).1) owner
        rw [disputed.known, Option.map_some, if_pos rfl] at changed
        rw [same]
        exact changed
      have verdicts := verdict?_of_run? goesOn at_mid (h.now + h.settings.probeTimeout)
      rw [Link.pongs_ping] at verdicts
      have numbered := numbered_of_run? run'
      have member : (⟨h.nextTask, .takingOver i owner ⟨l.pongs,
          h.now + h.settings.probeTimeout⟩⟩ : Task) ∈ (h.beginReconcile i).1.tasks := by
        rw [same]
        exact List.mem_append_right _ List.mem_cons_self
      refine ⟨l, disputed.of_newTask, queued, ?_,
        task?_of_run? numbered goesOn (numbered.task?_of_mem member) others,
        ((step?_persists begins).trans (run?_persists goesOn)).session here, verdicts.1, verdicts.2,
        (sound_of_run? run'').coherent⟩
      rw [same]
      rfl

/-! ### Takeovers that have returned -/

/-- The pongs in the time of the probe, for a task that goes on in time. -/
theorem ComesTo.inTime {takeover : Takeover} (comesTo : h.ComesTo s later takeover) {latest : Nat}
    (goesOn : mid.run? later = some last) (early : last.now ≤ latest) :
    takeover = .closedDuplicate ↔ ∃ owner l, h.Disputed s owner l ∧ (l.ping h.now).2 = true ∧
      mid.RecordsPong later owner latest := by
  simp only [recordsPong_iff goesOn early]
  exact comesTo.closedDuplicate

theorem concluded_eq {finished : List (Nat × TaskOutcome)} {first second : Takeover}
    (same : finished ++ [(id, .tookOver first)] = finished ++ [(id, .tookOver second)]) :
    first = second := by
  simpa using same

/-- A takeover that returns at once. -/
theorem reconciled_atOnce {base : Hub} {takeover : Takeover}
    (begun : h.newTask.1.Begun i s base (.done takeover)) :
    h.Reconciled s (base.conclude id (.tookOver takeover)) []
      (base.conclude id (.tookOver takeover)) (base.conclude id (.tookOver takeover)) takeover := by
  have due : h.Due s [] takeover := begun.due.of_newTask
  have concluded : Retakes s (fun owner => ∃ l, h.Disputed s owner l) base
      (base.conclude id (.tookOver takeover)) := retakes_of_eq rfl (fun _ => rfl) rfl
  refine { due.comesTo with
    bound := begun.boundTo?
    unchanged := ?_
    inTime := due.comesTo.inTime (run?_nil _)
    patient := ?_
    closes := ?_
    closesNothing := ⟨begun.isClosed, fun _ => rfl⟩
    first := ?_
    last := retakes_of_eq rfl (fun _ => rfl) rfl }
  · rintro rfl
    cases begun with
    | own => rfl
  · intro owner l disputed queued _
    obtain rfl := due.unique (.adoptedOverDead disputed fun answered => nomatch answered.2)
    cases begun with
    | refused disputed' refused =>
        obtain ⟨rfl, rfl⟩ := disputed.unique disputed'.of_newTask
        exact absurd (queued.symm.trans refused) (by decide)
  · intro closes
    obtain ⟨_, _, -, -, answered⟩ := due.comesTo.closedDuplicate.mp closes
    cases answered
  · exact begun.retakes_newTask.trans concluded

/-- What is due when a probe is decided. -/
theorem Waits.due {alive : Bool} (waits : h.Waits i s owner l mid later last)
    (verdict : last.verdict? owner ⟨l.pongs, h.now + h.settings.probeTimeout⟩ = some alive) :
    h.Due s later (if alive then .closedDuplicate else .adoptedOverDead) := by
  cases alive with
  | true => exact .closedDuplicate waits.disputed waits.queued (waits.answered.mp verdict)
  | false =>
      exact .adoptedOverDead waits.disputed fun answered =>
        (waits.silent.mp verdict).1 answered.2

/-- A takeover that returns when its probe is decided. -/
theorem reconciled_waited {alive : Bool} (waits : h.Waits i s owner l mid later last)
    (goesOn : mid.run? later = some last) (closed : ∀ j, mid.isClosed j = h.isClosed j)
    (first : Retakes s (fun owner => ∃ l, h.Disputed s owner l) h mid)
    (verdict : last.verdict? owner ⟨l.pongs, h.now + h.settings.probeTimeout⟩ = some alive) :
    h.Reconciled s mid later last
      (((last.detach id).concludeTakeover i owner alive).1.conclude id
        (.tookOver (if alive then .closedDuplicate else .adoptedOverDead)))
      (if alive then .closedDuplicate else .adoptedOverDead) := by
  have due := waits.due verdict
  obtain ⟨s', here, same⟩ := waits.session
  have there : (last.detach id).session? i = some s' := here
  have apart : Retakes s (fun owner => ∃ l, h.Disputed s owner l) last (last.detach id) :=
    retakes_of_eq rfl (fun _ => rfl) rfl
  refine { due.comesTo with
    bound := ?_
    unchanged := ?_
    inTime := due.comesTo.inTime goesOn
    patient := ?_
    closes := ?_
    closesNothing := ⟨closed, ?_⟩
    first := first
    last := ?_ }
  · rw [← same.variant, ← same.key, ← same.link]
    exact boundTo?_concludeTakeover there owner alive
  · intro current
    cases alive <;> cases current
  · intro owner' l' disputed _ silent
    obtain ⟨rfl, rfl⟩ := waits.disputed.unique disputed
    cases alive with
    | true => exact absurd (waits.answered.mp verdict) silent
    | false => exact (waits.silent.mp verdict).2
  · intro closes owner' bound
    obtain rfl := Option.some.inj (waits.disputed.bound.symm.trans bound)
    cases alive with
    | false => cases closes
    | true =>
        obtain ⟨l', known, -⟩ := Option.bind_eq_some_iff.mp verdict
        exact isClosed_concludeTakeover there known (waits.coherent known)
  · intro other
    cases alive with
    | true => exact absurd rfl other
    | false => exact connections_concludeTakeover there owner
  · have touches : ∃ l, h.Disputed s owner l := ⟨l, waits.disputed⟩
    have ends : Retakes s' (fun owner => ∃ l, h.Disputed s owner l) (last.detach id)
        ((last.detach id).concludeTakeover i owner alive).1 :=
      retakes_concludeTakeover there touches alive
    exact (apart.trans ⟨ends.sessions, fun variant key => same.variant ▸ same.key ▸
      ends.slots variant key, ends.connections⟩).trans (retakes_of_eq rfl (fun _ => rfl) rfl)

/-- A task that has returned with its first step does not go on. -/
theorem spent_of_atOnce {base : Hub} {takeover : Takeover}
    (run : (fresh settings mark).run? moves = some h)
    (begun : h.newTask.1.Begun i s base (.done takeover))
    (same : (h.beginReconcile i).1 = base.conclude h.nextTask (.tookOver takeover))
    (goesOn : (h.beginReconcile i).1.run? later = some last) :
    last.step? (.resume h.nextTask) = none := by
  have run' := run?_concat.mpr ⟨h, run, show h.step? (.reconciling i) = some _ from rfl⟩
  have past : (h.beginReconcile i).1.Over h.nextTask := by
    rw [same]
    refine ⟨Nat.lt_of_lt_of_eq (Nat.lt_succ_self _) begun.reseats.nextTask.symm, ?_⟩
    intro task member
    have old : task ∈ h.tasks := begun.reseats.tasks ▸ member
    exact Nat.ne_of_lt ((numbered_of_run? run).below task old)
  cases moved : last.step? (.resume h.nextTask) with
  | none => rfl
  | some next =>
      obtain ⟨task, found, -, -⟩ := resumed moved
      have gone := (run?_over (numbered_of_run? run') past goesOn).gone
      exact absurd (id_of_task? found) (gone task (List.mem_of_find?_eq_some found))

/-- **Takeovers.** A takeover for a session, whatever the hub has done before, returns at once or
when its probe is decided, and then the slot of the session is bound to its connection. It comes to
what it found in the slot when it began, and to what came of the ping of an open connection there:
that one is closed exactly if a pong came meanwhile, and otherwise nothing is. No other slot, no
other connection and no session is touched by it, whatever others do meanwhile. -/
theorem reconciled_of_run? (run : (fresh settings mark).run? moves = some h)
    (here : h.session? i = some s) : ∃ mid, h.step? (.reconciling i) = some mid ∧
      h.Returns i s mid ∧ ∀ {later last next takeover},
        h.Reconciles i mid later last next takeover →
          h.Reconciled s mid later last next takeover := by
  refine ⟨(h.beginReconcile i).1, rfl, ?_⟩
  rcases begun_beginReconcile run here with
    ⟨base, takeover, begun, same⟩ | ⟨base, owner, probe, begun, same⟩
  · have ended : (h.beginReconcile i).1.finished =
        h.finished ++ [(h.nextTask, .tookOver takeover)] := by
      rw [same]
      exact congrArg (· ++ _) begun.reseats.finished
    refine ⟨.inl ⟨takeover, .atOnce ended⟩, fun reconciles => ?_⟩
    cases reconciles with
    | atOnce ended' =>
        obtain rfl := concluded_eq (ended.symm.trans ended')
        rw [same]
        exact reconciled_atOnce begun
    | waited goesOn _ moved _ =>
        cases (spent_of_atOnce run begun same goesOn).symm.trans moved
  · have begins : Retakes s (fun owner => ∃ l, h.Disputed s owner l) h (h.beginReconcile i).1 := by
      rw [same]
      exact begun.retakes_newTask.trans (retakes_of_eq rfl (fun _ => rfl) rfl)
    have closed : ∀ j, (h.beginReconcile i).1.isClosed j = h.isClosed j := by
      rw [same]
      exact begun.isClosed
    constructor
    · obtain ⟨l, waits⟩ := waits_of_begun run here begun same (run?_nil _) nofun
      refine .inr ⟨owner, waits.disputed.bound, fun later last goesOn others decided => ?_⟩
      obtain ⟨l, waits⟩ := waits_of_begun run here begun same goesOn others
      obtain ⟨s', there, -⟩ := waits.session
      have returns {alive : Bool} (verdict : last.verdict? owner
          ⟨l.pongs, h.now + h.settings.probeTimeout⟩ = some alive) :
          ∃ next takeover, h.Reconciles i (h.beginReconcile i).1 later last next takeover :=
        ⟨_, _, .waited goesOn others (step?_takingOver waits.found there verdict)
          (finished_takingOver last h.nextTask i owner alive _)⟩
      by_cases answered : Move.pong owner ∈ later
      · exact returns (waits.answered.mpr answered)
      · exact returns (waits.silent.mpr ⟨answered, decided.resolve_left answered⟩)
    · intro later last next takeover reconciles
      cases reconciles with
      | atOnce ended =>
          obtain ⟨l, waits⟩ := waits_of_begun run here begun same (run?_nil _) nofun
          exact (not_returned (waits.unfinished.symm.trans ended)).elim
      | waited goesOn others moved ended =>
          obtain ⟨l, waits⟩ := waits_of_begun run here begun same goesOn others
          obtain ⟨s', there, -⟩ := waits.session
          obtain ⟨alive, verdict⟩ := verdict_of_takingOver waits.found moved
          have moved' := step?_takingOver waits.found there verdict
          obtain rfl := Option.some.inj (moved.symm.trans moved')
          rw [finished_takingOver] at ended
          obtain rfl := concluded_eq ended
          exact reconciled_waited waits goesOn closed begins verdict

/-- After `displacedRun` the first session takes its slot back: the second connection, which is in
it by then, answers in time and is closed. -/
theorem reconciled_of_run?_displacedRun : ∃ h s mid last next,
    (fresh {} "hub").run? displacedRun = some h ∧ h.session? 0 = some s ∧
    h.step? (.reconciling 0) = some mid ∧ mid.run? [.pong 1] = some last ∧
    last.step? (.resume 2) = some next ∧
    h.Reconciled s mid [.pong 1] last next .closedDuplicate ∧ next.isClosed 1 = true := by
  let h := ((fresh {} "hub").run? displacedRun).get (by decide)
  have run : (fresh {} "hub").run? displacedRun = some h := (Option.some_get _).symm
  let s := (h.session? 0).get (by decide)
  have here : h.session? 0 = some s := (Option.some_get _).symm
  have bound : h.boundTo? s.variant s.key = some 1 := by decide
  obtain ⟨mid, begun, -, reconciled⟩ := reconciled_of_run? run here
  cases begun
  have waited : h.Reconciles 0 (h.beginReconcile 0).1 [.pong 1] _ _ .closedDuplicate :=
    .waited rfl (by decide) rfl rfl
  exact ⟨h, s, _, _, _, run, here, rfl, rfl, rfl, reconciled waited,
    (reconciled waited).closes rfl 1 bound⟩

end StationHub.Hub

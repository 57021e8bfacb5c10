import Mathlib.Data.List.Nodup
import StationHub.Proofs.Tasks.Operations

/-!
The tasks that wait. A move takes at most one task up, the one that it is a step of, and lets at
most one begin to wait.

* `Begets`: where a task comes from that opens, takes over or sweeps.
* `Numbered`: the tasks that wait have different numbers, in every run from the start.
* `step?_tasks`, `tasks_apart`: the tasks after a move, and those without the one that it takes up.
* `task?_of_run?`: a task that no move of a run is a step of waits all along.
-/

namespace StationHub

/-- Of items with different keys one can be taken out by its key. -/
theorem perm_cons_filter {α : Type} {key : α → Nat} {items : List α}
    (distinct : (items.map key).Nodup) {item : α} (member : item ∈ items) :
    items.Perm (item :: items.filter fun other => key other != key item) := by
  induction items with
  | nil => cases member
  | cons first rest ih =>
      obtain ⟨new, distinct⟩ := List.nodup_cons.mp distinct
      rcases List.mem_cons.mp member with rfl | later
      · have others : rest.filter (fun other => key other != key item) = rest := by
          refine List.filter_eq_self.mpr fun other member => bne_iff_ne.mpr fun same => ?_
          exact new (same ▸ List.mem_map_of_mem member)
        rw [List.filter_cons_of_neg (by simp), others]
      · have other : key first ≠ key item := fun same =>
          new (same ▸ List.mem_map_of_mem later)
        have kept : (key first != key item) = true := bne_iff_ne.mpr other
        rw [List.filter_cons, kept, if_pos rfl]
        exact ((ih distinct later).cons first).trans (.swap item first _)

/-- The task that the move is a step of: it goes on, is answered or is given up. -/
def Hub.Move.task? : Move → Option Nat
  | .resume id | .directoryAnswers id _ | .executorAnswers id _ | .cancel id => some id
  | _ => none

namespace Hub

/-- The hub without the task that the move is a step of. -/
def apart (h : Hub) (move : Move) : Hub :=
  match move.task? with
  | some id => h.detach id
  | none => h

/-- Where a task comes from that begins to wait with a move, if it opens a connection, takes over a
slot or sweeps a roster. -/
structure Begets (h : Hub) (move : Move) (next : Hub) (task : Task) : Prop where
  opens : ∀ {link : Nat}, task.activity.opened? = some link →
    h.opens? move = some (task.id, link)
  takes : ∀ {i rival : Nat} {probe : Link.Probe},
    task.activity.probes? = some (i, rival, probe) →
    h.takeoverBegun? move = some (task.id, i) ∧
      ∃ s, next.session? i = some s ∧ h.Examines s rival probe
  own : ∀ {link : Nat}, task.activity.probes?.isSome = true →
    h.opens? move = some (task.id, link) → task.activity.opened? = some link
  sweeps : ∀ {variant : Variant} {members : List Member} {report : SweepReport},
    task.activity = .sweeping variant members report →
    members.map (Member.place variant) = h.places variant ∨
      ∃ old report', h.task? task.id = some ⟨task.id, .sweeping variant old report'⟩ ∧
        members.map (Member.place variant) = old.map (Member.place variant)
  /-- Only a sweep sweeps on. -/
  swept : task.activity.isSweeping = true → h.isSweep move = true

variable {id : Nat} {allowed : Activity → Prop}

/-! ### Numbers of tasks -/

/-- The tasks that wait have different numbers, all of them used up. -/
structure Numbered (h : Hub) : Prop where
  below : ∀ task ∈ h.tasks, task.id < h.nextTask
  distinct : (h.tasks.map Task.id).Nodup

theorem Numbered.eq_of_task? {h : Hub} (numbered : h.Numbered) {id : Nat} {task other : Task}
    (found : h.task? id = some task) (member : other ∈ h.tasks) (same : other.id = id) :
    other = task :=
  List.inj_on_of_nodup_map numbered.distinct member (List.mem_of_find?_eq_some found)
    (same.trans (id_of_task? found).symm)

theorem Numbered.task?_of_mem {h : Hub} (numbered : h.Numbered) {task : Task}
    (member : task ∈ h.tasks) : h.task? task.id = some task := by
  cases found : h.task? task.id with
  | none => simpa using List.find?_eq_none.mp found task member
  | some other => rw [numbered.eq_of_task? found member rfl]

/-! ### Identified peers -/

theorem identified?_eq_some {h mid : Hub} {id : Nat} {identity : Identity}
    (identified : h.identified? id identity = some mid) :
    ∃ link target guard l, h.task? id = some ⟨id, .openResolving link target guard⟩ ∧
      h.link? link = some l ∧ mid = (h.detach id).withSession link l.variant identity := by
  unfold identified? at identified
  split at identified
  · rename_i link target guard found
    split at identified
    · cases identified
    · obtain ⟨l, here, rfl⟩ := Option.map_eq_some_iff.mp identified
      obtain ⟨⟨number, activity⟩, found, rfl⟩ := Option.map_eq_some_iff.mp found
      cases id_of_task? found
      exact ⟨link, target, guard, l, found, here, rfl⟩
  · cases identified

/-- An opening whose peer is identified goes on with it. -/
theorem afterDirectory_identified {h mid : Hub} {id link : Nat} {target : Target} {guard : Guard}
    {identity : Identity} (identified : h.identified? id identity = some mid)
    (found : h.task? id = some ⟨id, .openResolving link target guard⟩) :
    (h.detach id).afterDirectory id link guard (.ok identity) =
      (h.detach id).afterIdentified id link guard identity := by
  unfold identified? at identified
  rw [found, Option.map_some] at identified
  dsimp only at identified
  split at identified
  · cases identified
  · rename_i goesOn
    obtain ⟨open_, runs⟩ : ¬h.isClosed link = true ∧ ¬h.stopping = true := by simpa using goesOn
    have open' : ¬(h.detach id).isClosed link = true := open_
    have runs' : ¬(h.detach id).stopping = true := runs
    rw [afterDirectory, if_neg open', if_neg runs']

/-- To identify a peer brings no connection into existence, and no other one than its own out of
it. -/
theorem isAlive_identified {h : Hub} (numbered : h.Numbered) {id link : Nat} {target : Target}
    {guard : Guard} (found : h.task? id = some ⟨id, .openResolving link target guard⟩)
    (variant : Variant) (identity : Identity) {i : Nat} (other : i ≠ link) :
    ((h.detach id).withSession link variant identity).isAlive i = h.isAlive i := by
  have kept : (((h.detach id).withSession link variant identity).connection? i).any
      Connection.isKept = (h.connection? i).any Connection.isKept := by
    have away : ((h.detach id).withSession link variant identity).connection? i =
        (h.connection? i).map fun c => if link = i then _ else c :=
      connection?_modifyConnection _ link i _
    rw [away]
    simp [Ne.symm other]
  have holds : ∀ activity, (((h.detach id).withSession link variant identity).holds
      activity).contains i = (h.holds activity).contains i := by
    intro activity
    cases activity with
    | executing session context request guard =>
        simp only [Hub.holds]
        have sessions : ((h.detach id).withSession link variant identity).session? session =
            (h.sessions ++ [h.newSession link variant identity])[session]? := rfl
        rw [sessions, List.getElem?_append]
        split
        · rfl
        · rename_i beyond
          rw [session?, List.getElem?_eq_none (Nat.le_of_not_lt beyond)]
          rw [List.getElem?_singleton]
          split
          · simp [newSession, Session.fresh, other]
          · rfl
    | _ => rfl
  unfold isAlive
  rw [kept]
  congr 1
  rw [Bool.eq_iff_iff, List.any_eq_true, List.any_eq_true]
  constructor
  · rintro ⟨task, member, refers⟩
    rw [holds] at refers
    exact ⟨task, (List.mem_filter.mp member).1, refers⟩
  · rintro ⟨task, member, refers⟩
    refine ⟨task, List.mem_filter.mpr ⟨member, ?_⟩, (holds task.activity).trans refers⟩
    -- The task that is taken up holds the connection that it opens, and no other.
    refine bne_iff_ne.mpr fun same => ?_
    rw [numbered.eq_of_task? found member same] at refers
    simp [Hub.holds, other] at refers

section

variable {h mid : Hub} (numbered : h.Numbered) {id link : Nat} {target : Target} {guard : Guard}
  {identity : Identity} (found : h.task? id = some ⟨id, .openResolving link target guard⟩)
  (identified : h.identified? id identity = some mid) {rival : Nat} (other : rival ≠ link)
include found identified other

theorem link?_identified : mid.link? rival = h.link? rival := by
  obtain ⟨_, _, _, l, found', -, rfl⟩ := identified?_eq_some identified
  rw [found] at found'
  cases found'
  exact link?_modifyLink_of_ne (Ne.symm other) _ _

theorem startProbe_identified :
    (mid.startProbe rival mid.settings.probeTimeout).2 =
      (h.startProbe rival h.settings.probeTimeout).2 := by
  have same := link?_identified found identified other
  obtain ⟨_, _, _, l, -, -, rfl⟩ := identified?_eq_some identified
  rw [startProbe_snd, startProbe_snd, same]
  rfl

include numbered

/-- To identify a peer does not change who else holds a slot with an open connection. -/
theorem held_identified (variant : Variant) (key : Key) :
    (mid.registered? variant key).bind mid.openRival? = some rival ↔
      (h.registered? variant key).bind h.openRival? = some rival := by
  have same := link?_identified found identified other
  obtain ⟨_, _, _, l, found', -, rfl⟩ := identified?_eq_some identified
  rw [found] at found'
  cases found'
  have slots : ((h.detach id).withSession link l.variant identity).registered? variant key =
      h.registered? variant key := by
    cases variant <;> rfl
  have alive := isAlive_identified numbered found l.variant identity other
  rw [slots, Option.bind_eq_some_iff, Option.bind_eq_some_iff]
  refine exists_congr fun slot => and_congr_right fun _ => ?_
  constructor
  · intro held
    have is := link_of_openRival? held
    unfold openRival? at held ⊢
    rw [is, same, alive] at held
    rw [is]
    exact held
  · intro held
    have is := link_of_openRival? held
    unfold openRival? at held ⊢
    rw [is] at held
    rw [is, same, alive]
    exact held

end

theorem Examines.of_identified {h mid : Hub} (numbered : h.Numbered) {id link : Nat}
    {target : Target} {guard : Guard} {identity : Identity}
    (found : h.task? id = some ⟨id, .openResolving link target guard⟩)
    (identified : h.identified? id identity = some mid) {s : Session} (on : s.link = link)
    {rival : Nat} {probe : Link.Probe} (examines : mid.Examines s rival probe) :
    h.Examines s rival probe := by
  have other : rival ≠ link := on ▸ examines.other
  refine ⟨examines.other, ?_, ?_⟩
  · exact (held_identified numbered found identified other s.variant s.key).mp examines.held
  · exact (startProbe_identified found identified other).symm.trans examines.begun

theorem Examines.samePeer {h : Hub} {s t : Session} (same : s.SamePeer t) {rival : Nat}
    {probe : Link.Probe} (examines : h.Examines s rival probe) : h.Examines t rival probe := by
  refine ⟨same.link ▸ examines.other, ?_, examines.begun⟩
  rw [same.variant, same.key]
  exact examines.held

/-! ### Where tasks come from -/

theorem begets_of_minor {h next : Hub} {move : Move} {task : Task}
    (minor : task.activity.isMinor = true) : h.Begets move next task := by
  obtain ⟨id, activity⟩ := task
  refine ⟨fun opened => ?_, fun probes => ?_, fun probes _ => ?_, fun sweeping => ?_,
    fun swept => ?_⟩
  · cases activity <;> simp_all [Activity.isMinor, Activity.opened?]
  · cases activity <;> simp_all [Activity.isMinor, Activity.probes?]
  · cases activity <;> simp_all [Activity.isMinor, Activity.probes?]
  · cases activity <;> simp_all [Activity.isMinor]
  · cases activity <;> simp_all [Activity.isMinor, Activity.isSweeping]

/-- What seeks its peer opens a connection, and neither takes over nor sweeps. -/
theorem begets_of_seeks {h next : Hub} {move : Move} {task : Task} {link : Nat}
    (seeks : task.activity.seeks? = some link) (opens : h.opens? move = some (task.id, link)) :
    h.Begets move next task := by
  obtain ⟨id, activity⟩ := task
  refine ⟨fun opened => ?_, fun probes => ?_, fun probes _ => ?_, fun sweeping => ?_,
    fun swept => ?_⟩
  · cases activity <;> simp_all [Activity.seeks?, Activity.opened?]
  · cases activity <;> simp_all [Activity.seeks?, Activity.probes?]
  · cases activity <;> simp_all [Activity.seeks?, Activity.probes?]
  · cases activity <;> simp_all [Activity.seeks?]
  · cases activity <;> simp_all [Activity.seeks?, Activity.isSweeping]

/-- What takes over the slot of a session, and is no step of an opening. -/
theorem begets_of_examines {h next : Hub} {move : Move} {id i rival : Nat} {s : Session}
    {probe : Link.Probe} {activity : Activity} (persists : h.Persists next)
    (begun : h.takeoverBegun? move = some (id, i)) (here : h.session? i = some s)
    (examines : h.Examines s rival probe) (probes : activity.probes? = some (i, rival, probe))
    (other : activity.opened? = none) (nobody : h.opens? move = none) :
    h.Begets move next ⟨id, activity⟩ := by
  obtain ⟨s', there, same⟩ := persists.session here
  refine ⟨fun opened => ?_, fun probes' => ?_, fun _ opens => ?_, fun sweeping => ?_,
    fun swept => ?_⟩
  · rw [other] at opened
    cases opened
  · rw [probes] at probes'
    cases probes'
    exact ⟨begun, s', there, examines.samePeer same⟩
  · rw [nobody] at opens
    cases opens
  · subst sweeping
    cases probes
  · cases activity <;> simp_all [Activity.isSweeping, Activity.probes?]

/-- What probes a rival for an opening whose peer was identified. -/
theorem begets_of_identified {h mid next : Hub} (numbered : h.Numbered) {id link : Nat}
    {target : Target} {guard : Guard} {identity : Identity}
    (found : h.task? id = some ⟨id, .openResolving link target guard⟩)
    (identified : h.identified? id identity = some mid) {s : Session}
    (there : next.session? h.sessions.length = some s) (on : s.link = link) {rival : Nat}
    {probe : Link.Probe} (examines : mid.Examines s rival probe) :
    h.Begets (.directoryAnswers id (.ok identity)) next
      ⟨id, .openProbing link h.sessions.length guard rival probe⟩ := by
  refine ⟨fun opened => ?_, fun probes => ?_, fun _ opens => ?_, fun sweeping => ?_,
    fun swept => ?_⟩
  · cases opened
    simp [opens?, found, Activity.opened?]
  · cases probes
    refine ⟨?_, s, there, examines.of_identified numbered found identified on⟩
    simp [takeoverBegun?, identified]
  · simpa [opens?, found, Activity.opened?] using opens
  · cases sweeping
  · cases swept

/-- What sweeps a roster, and is neither a step of an opening nor a takeover. -/
theorem begets_of_sweeps {h next : Hub} {move : Move} (swept : h.isSweep move = true) {id : Nat}
    {activity : Activity} {variant : Variant} {places : List Place}
    (sweeps : SweepsAt variant places activity)
    (known : places = h.places variant ∨ ∃ old report,
      h.task? id = some ⟨id, .sweeping variant old report⟩ ∧
        places = old.map (Member.place variant)) :
    h.Begets move next ⟨id, activity⟩ := by
  obtain ⟨members, report, rfl, rfl⟩ := sweeps
  refine ⟨fun opened => (nomatch opened), fun probes => (nomatch probes),
    fun probes => (nomatch probes), fun sweeping => ?_, fun _ => swept⟩
  cases sweeping
  exact known

/-! ### Moves -/

/-- The tasks after a move: the others as before, and at most one more that begins to wait. -/
structure Turnover (h : Hub) (move : Move) (next : Hub) (added : Option Task) : Prop where
  tasks : next.tasks = (h.apart move).tasks ++ added.toList
  number : ∀ task ∈ added, move.task? = some task.id ∧ (h.task? task.id).isSome = true ∨
    h.nextTask ≤ task.id ∧ task.id < next.nextTask
  begets : ∀ task ∈ added, h.Begets move next task

theorem turnover_of_tasks {h next : Hub} {move : Move} (same : next.tasks = (h.apart move).tasks) :
    ∃ added, h.Turnover move next added :=
  ⟨none, same.trans (List.append_nil _).symm, fun _ member => (nomatch member),
    fun _ member => (nomatch member)⟩

/-- An operation on the tasks apart from the one that goes on. -/
theorem turnover_of_engages {h base next : Hub} {move : Move}
    (tasks : base.tasks = (h.apart move).tasks) (grows : h.nextTask ≤ base.nextTask)
    (number : move.task? = some id ∧ (h.task? id).isSome = true ∨
      h.nextTask ≤ id ∧ id < base.nextTask)
    (engages : Engages id allowed base next)
    (begets : ∀ activity, allowed activity → h.Begets move next ⟨id, activity⟩) :
    ∃ added, h.Turnover move next added := by
  cases engages with
  | nobody same => exact turnover_of_tasks (same.tasks.trans tasks)
  | waits activity after nextTask isAllowed =>
      refine ⟨some ⟨id, activity⟩, tasks ▸ after, ?_, ?_⟩
      · rintro task ⟨⟩
        rw [nextTask]
        exact number
      · rintro task ⟨⟩
        rcases isAllowed with minor | isAllowed
        · exact begets_of_minor minor
        · exact begets activity isAllowed
  | later activity after nextTask minor =>
      refine ⟨some ⟨base.nextTask, activity⟩, tasks ▸ after, ?_, ?_⟩
      · rintro task ⟨⟩
        rw [nextTask]
        exact .inr ⟨grows, Nat.lt_succ_self _⟩
      · rintro task ⟨⟩
        exact begets_of_minor minor

/-- An operation of a new task. -/
theorem turnover_of_begun {h next : Hub} {move : Move} (nobody : move.task? = none)
    (engages : Engages h.nextTask allowed h.newTask.1 next)
    (begets : ∀ activity, allowed activity → h.Begets move next ⟨h.nextTask, activity⟩) :
    ∃ added, h.Turnover move next added := by
  have tasks : h.newTask.1.tasks = (h.apart move).tasks := by
    rw [Hub.apart, nobody]
    rfl
  exact turnover_of_engages tasks (Nat.le_succ _) (.inr ⟨Nat.le_refl _, Nat.lt_succ_self _⟩)
    engages begets

/-- An operation of a new task with a minor activity. -/
theorem turnover_of_minor {h next : Hub} {move : Move} (nobody : move.task? = none)
    (engages : Engages h.nextTask (fun _ => False) h.newTask.1 next) :
    ∃ added, h.Turnover move next added :=
  turnover_of_begun nobody engages fun _ impossible => impossible.elim

theorem tasks_handleEnd (h : Hub) (link : Nat) (session : Option Nat) :
    (h.handleEnd link session).tasks = h.tasks := by
  have closed := (Quiet.sameTasks (quiet_closed h link .normal)).tasks
  have removed : ((h.closed link .normal).withoutSession link session).tasks = h.tasks := by
    unfold withoutSession
    split
    · exact closed
    · rw [failPending_eq_book]
      exact (reseats_setRoster _ _ _).tasks.trans closed
  rw [handleEnd_eq, ← removed]
  unfold finishLink
  split
  · rfl
  · dsimp only
    split <;> rfl

/-- The tasks after a move. -/
theorem step?_tasks {h next : Hub} {move : Move} (numbered : h.Numbered)
    (moved : h.step? move = some next) : ∃ added, h.Turnover move next added := by
  have persists := step?_persists moved
  cases move with
  | opening link target =>
      simp only [step?, Option.ite_none_right_eq_some, Option.some.injEq] at moved
      obtain ⟨-, rfl⟩ := moved
      exact turnover_of_begun rfl (engages_beginOpening h link target) fun activity seeks =>
        begets_of_seeks seeks rfl
  | handling session path decoded =>
      cases moved
      refine turnover_of_begun rfl (engages_beginHandling h session path decoded) ?_
      rintro activity ⟨message, s, rival, probe, rfl, here, displaced, rfl, examines⟩
      refine begets_of_examines persists ?_ here examines rfl rfl rfl
      simp [takeoverBegun?, here, displaced]
  | reconciling session =>
      cases moved
      refine turnover_of_begun rfl (engages_beginReconcile h session) ?_
      rintro activity ⟨s, rival, probe, here, rfl, examines⟩
      refine begets_of_examines persists ?_ here examines rfl rfl rfl
      simp [takeoverBegun?, here]
  | calling variant key command payload =>
      cases moved
      exact turnover_of_minor rfl (engages_beginCall h variant key command payload)
  | sweeping =>
      cases moved
      refine turnover_of_begun rfl (engages_beginSweep h) ?_
      rintro activity ⟨variant, sweeps⟩
      exact begets_of_sweeps rfl sweeps (.inl rfl)
  | probing link wait =>
      cases moved
      exact turnover_of_minor rfl (engages_beginProbe h link wait)
  | guarding path =>
      cases moved
      exact turnover_of_minor rfl (engages_beginGuard h path)
  | resume id =>
      obtain ⟨task, found, ready, rfl⟩ := resumed moved
      have same := id_of_task? found
      subst same
      refine turnover_of_engages rfl (Nat.le_refl _) (.inl ⟨rfl, by rw [found]; rfl⟩)
        (engages_resume ready) ?_
      rintro activity (⟨link, opened, seeks⟩ | ⟨variant, members, report, sweeping, sweeps⟩)
      · refine begets_of_seeks seeks ?_
        simp [opens?, found, opened]
      · obtain ⟨number, waited⟩ := task
        cases sweeping
        have swept : h.isSweep (.resume number) = true := by
          rw [isSweep, found]
          rfl
        rcases sweeps with sweeps | ⟨variant', sweeps⟩
        · exact begets_of_sweeps swept sweeps (.inr ⟨members, report, found, rfl⟩)
        · exact begets_of_sweeps swept sweeps (.inl rfl)
  | directoryAnswers id answer =>
      obtain ⟨link, target, guard, found, rfl⟩ := resolved moved
      refine turnover_of_engages rfl (Nat.le_refl _) (.inl ⟨rfl, by rw [found]; rfl⟩)
        (engages_afterDirectory found answer) ?_
      rintro activity ⟨identity, mid, rival, probe, rfl, identified, rfl, s, there, on, examines⟩
      exact begets_of_identified numbered found identified there on examines
  | executorAnswers id reply =>
      obtain ⟨session, _, request, guard, -, rfl⟩ := executed moved
      exact turnover_of_tasks
        (sameTasks_afterExecution (h.detach id) id session request guard reply).tasks
  | cancel id =>
      cases moved
      exact turnover_of_tasks (tasks_cancel h id)
  | accept | refuse | advance | ping | pong | stopping | lettingGo =>
      cases moved
      exact turnover_of_tasks rfl
  | holding link =>
      simp only [step?, Option.ite_none_right_eq_some, Option.some.injEq] at moved
      obtain ⟨-, rfl⟩ := moved
      exact turnover_of_tasks rfl
  | sending session command payload =>
      cases moved
      exact turnover_of_tasks (sameTasks_sendCall h session command payload).tasks
  | settling session id answer =>
      cases moved
      exact turnover_of_tasks (sameTasks_settle h session id _).tasks
  | failing session =>
      cases moved
      rw [failPending_eq_book]
      exact turnover_of_tasks rfl
  | text link text =>
      cases moved
      exact turnover_of_tasks (Quiet.sameTasks (quiet_sendText h link text)).tasks
  | close link cause =>
      cases moved
      exact turnover_of_tasks (Quiet.sameTasks (quiet_closed h link cause)).tasks
  | ending link session =>
      cases moved
      exact turnover_of_tasks (tasks_handleEnd h link session)
  | closeAll cause =>
      cases moved
      exact turnover_of_tasks (Quiet.sameTasks (quiet_closeAll h cause)).tasks
  | shutDown =>
      cases moved
      have closed := Quiet.sameTasks (quiet_closeAll { h with stopping := true } .shutdown)
      exact turnover_of_tasks closed.tasks
  | expire session id =>
      rw [expire?_eq_book moved]
      exact turnover_of_tasks rfl
  | takeUp | socketTakes | socketFails | writerExpires =>
      obtain ⟨c, -, rfl⟩ := Option.map_eq_some_iff.mp moved
      exact turnover_of_tasks rfl

/-! ### What a move leaves of the tasks -/

theorem mem_apart {h : Hub} {move : Move} {task : Task} :
    task ∈ (h.apart move).tasks ↔ task ∈ h.tasks ∧ move.task? ≠ some task.id := by
  unfold apart
  cases known : move.task? with
  | none => simp
  | some id =>
      dsimp only
      rw [detach, List.mem_filter, bne_iff_ne, Ne, Ne, Option.some.injEq, eq_comm]

/-- The tasks without the one that the move is a step of. -/
theorem tasks_apart {h : Hub} (numbered : h.Numbered) (move : Move) :
    h.tasks.Perm ((move.task?.bind h.task?).toList ++ (h.apart move).tasks) := by
  cases known : move.task? with
  | none =>
      rw [apart, known]
      exact .refl _
  | some id =>
      rw [apart, known, Option.bind_some]
      cases found : h.task? id with
      | none =>
          have same : (h.detach id).tasks = h.tasks := by
            refine List.filter_eq_self.mpr fun task member => ?_
            simpa using List.find?_eq_none.mp found task member
          rw [same]
          exact .refl _
      | some task =>
          cases id_of_task? found
          exact perm_cons_filter numbered.distinct (List.mem_of_find?_eq_some found)

/-- A task that waits after a move waited before and the move is no step of it, or comes with the
move. -/
theorem mem_tasks_of_step? {h next : Hub} {move : Move} (numbered : h.Numbered)
    (moved : h.step? move = some next) {task : Task} (member : task ∈ next.tasks) :
    (task ∈ h.tasks ∧ move.task? ≠ some task.id) ∨ h.Begets move next task := by
  obtain ⟨added, turnover⟩ := step?_tasks numbered moved
  rw [turnover.tasks] at member
  rcases List.mem_append.mp member with old | new
  · exact .inl (mem_apart.mp old)
  · exact .inr (turnover.begets task (Option.mem_toList.mp new))

theorem step?_numbered {h next : Hub} {move : Move} (numbered : h.Numbered)
    (moved : h.step? move = some next) : next.Numbered := by
  obtain ⟨added, turnover⟩ := step?_tasks numbered moved
  have grows := (step?_persists moved).nextTask
  have kept : (h.apart move).tasks.Sublist h.tasks := by
    unfold apart
    split
    · exact List.filter_sublist
    · exact List.Sublist.refl _
  have below : ∀ task ∈ added, task.id < next.nextTask := by
    intro task member
    rcases turnover.number task member with ⟨-, waited⟩ | ⟨-, new⟩
    · obtain ⟨old, found⟩ := Option.isSome_iff_exists.mp waited
      have before := numbered.below old (List.mem_of_find?_eq_some found)
      rw [id_of_task? found] at before
      exact Nat.lt_of_lt_of_le before grows
    · exact new
  constructor
  · intro task member
    rw [turnover.tasks] at member
    rcases List.mem_append.mp member with old | new
    · exact Nat.lt_of_lt_of_le (numbered.below task (kept.subset old)) grows
    · exact below task (Option.mem_toList.mp new)
  · rw [turnover.tasks, List.map_append, List.nodup_append]
    refine ⟨numbered.distinct.sublist (kept.map _), ?_, ?_⟩
    · cases added <;> simp
    · intro number old number' new same
      obtain ⟨task, member, rfl⟩ := List.mem_map.mp old
      obtain ⟨task', member', rfl⟩ := List.mem_map.mp new
      obtain ⟨inside, untouched⟩ := mem_apart.mp member
      rcases turnover.number task' (Option.mem_toList.mp member') with ⟨touched, -⟩ | ⟨above, -⟩
      · exact untouched (same ▸ touched)
      · have before := numbered.below task inside
        omega

theorem numbered_fresh (settings : Settings) (mark : Mark) : (fresh settings mark).Numbered :=
  ⟨fun _ member => (nomatch member), List.nodup_nil⟩

theorem numbered_of_run? {settings : Settings} {mark : Mark} {moves : List Move} {h : Hub}
    (run : (fresh settings mark).run? moves = some h) : h.Numbered :=
  run?_induction (P := Numbered) step?_numbered (numbered_fresh settings mark) run

/-- A task that a move is no step of waits as before. -/
theorem task?_of_step? {h next : Hub} {move : Move} (numbered : h.Numbered)
    (moved : h.step? move = some next) {task : Task} (found : h.task? task.id = some task)
    (other : move.task? ≠ some task.id) : next.task? task.id = some task := by
  obtain ⟨added, turnover⟩ := step?_tasks numbered moved
  have member : task ∈ (h.apart move).tasks :=
    mem_apart.mpr ⟨List.mem_of_find?_eq_some found, other⟩
  refine (step?_numbered numbered moved).task?_of_mem ?_
  rw [turnover.tasks]
  exact List.mem_append_left _ member

/-- A task that no move of a run is a step of waits all along. -/
theorem task?_of_run? {h last : Hub} {moves : List Move} (numbered : h.Numbered)
    (run : h.run? moves = some last) {task : Task} (found : h.task? task.id = some task)
    (others : ∀ move ∈ moves, move.task? ≠ some task.id) : last.task? task.id = some task := by
  induction moves generalizing h with
  | nil =>
      cases run
      exact found
  | cons move rest ih =>
      rw [run?_cons] at run
      obtain ⟨next, moved, run⟩ := Option.bind_eq_some_iff.mp run
      have still := task?_of_step? numbered moved found (others move List.mem_cons_self)
      exact ih (step?_numbered numbered moved) run still fun other member =>
        others other (List.mem_cons_of_mem _ member)

end Hub

end StationHub

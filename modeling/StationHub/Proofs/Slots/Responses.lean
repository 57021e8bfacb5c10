import StationHub.Proofs.Slots.Rounds
import StationHub.Proofs.Tasks.Verdicts

/-!
What the results of sweeps say of the probed connections.

* `TakesPing`: a sweep that comes to a connection can begin to probe it; `verdict?_beginMember`: if
  not, its probe fails at once.
* `Asks`: a probe waits for a pong beyond those that its connection has counted; `Asked`: a sweep
  has begun such a probe at a place, in the course of a run; `asked_of_run?` has it for all probes
  that sweeps wait for.
* `verdictOn?_of_waiting`: a sweep that goes on learns the verdicts of the probes it waits for.
* `Says`, `says_of_verdictOn?`: a result is negative because the connection takes no ping, or tells
  whether a pong has come since the sweep asked for one.
-/

namespace StationHub.Hub

open Connection (Deed)

variable {settings : Settings} {mark : Mark} {start h mid next last base : Hub} {i id link : Nat}
  {moves later : List Move} {move : Move} {place : Place} {variant : Variant} {key : Key}
  {member : Member} {members : List Member} {report : SweepReport} {probe : Link.Probe}
  {alive : Bool}

/-! ### Pongs -/

/-- What only sweeps counts no pong. -/
theorem pongs_of_does (does : Does (fun _ deed => deed.isSweeping = true) h next) (i : Nat) :
    (next.link? i).map Link.pongs = (h.link? i).map Link.pongs := by
  cases here : h.connection? i with
  | none =>
      have beyond := List.getElem?_eq_none_iff.mp here
      rw [← Does.length does] at beyond
      have there : next.connection? i = none := List.getElem?_eq_none_iff.mpr beyond
      rw [link?, link?, here, there]
  | some c =>
      obtain ⟨c', there, goes⟩ := Does.connection does here
      rw [link?, link?, here, there]
      exact congrArg some (goes.pongs (by decide))

theorem verdict?_of_does (does : Does (fun _ deed => deed.isSweeping = true) h next) (i : Nat)
    (probe : Link.Probe) : next.verdict? i probe = h.verdict? i probe := by
  have pongs := pongs_of_does does i
  unfold verdict?
  rw [Does.now does]
  cases here : h.link? i with
  | none =>
      rw [here, Option.map_none, Option.map_eq_none_iff] at pongs
      rw [pongs]
  | some l =>
      rw [here, Option.map_some] at pongs
      obtain ⟨l', there, same⟩ := Option.map_eq_some_iff.mp pongs
      rw [there, Option.bind_some, Option.bind_some, Link.Probe.verdict?, Link.Probe.verdict?, same]

/-- The probe waits for a pong beyond those that connection number `i` has counted, for as long as
the settings tell. -/
def Asks (h : Hub) (i : Nat) (probe : Link.Probe) : Prop :=
  ∃ l, h.link? i = some l ∧ probe = ⟨l.pongs, h.now + h.settings.probeTimeout⟩

theorem Asks.of_does (does : Does (fun _ deed => deed.isSweeping = true) h mid)
    (settings : mid.settings = h.settings) (asks : mid.Asks i probe) : h.Asks i probe := by
  obtain ⟨l, there, rfl⟩ := asks
  have pongs := pongs_of_does does i
  rw [there, Option.map_some] at pongs
  obtain ⟨l₀, here, same⟩ := Option.map_eq_some_iff.mp pongs.symm
  exact ⟨l₀, here, by rw [same, Does.now does, settings]⟩

theorem asks_of_startProbe (begun : (h.startProbe i h.settings.probeTimeout).2 = some probe) :
    h.Asks i probe := by
  obtain ⟨l, here, -, -, is⟩ := startProbe_eq_some_iff.mp begun
  exact ⟨l, here, is⟩

/-! ### The beginning of a probe -/

/-- A sweep that comes to connection number `i` can ping it: somebody holds it, it is open, and its
queue takes the ping. -/
def TakesPing (h : Hub) (i : Nat) : Prop :=
  h.isAlive i = true ∧ ∃ l, h.link? i = some l ∧ l.closed = false ∧ (l.ping h.now).2 = true

theorem takesPing_congr (same : next.isAlive i = h.isAlive i) (link : next.link? i = h.link? i)
    (now : next.now = h.now) : next.TakesPing i ↔ h.TakesPing i := by
  rw [TakesPing, TakesPing, same, link, now]

/-- The probe of a connection that somebody holds begins exactly if it takes a ping. -/
theorem isSome_startProbe_iff (wait : Nat) (alive : h.isAlive i = true) :
    (h.startProbe i wait).2.isSome = true ↔ h.TakesPing i := by
  rw [Option.isSome_iff_exists]
  simp only [startProbe_eq_some_iff]
  constructor
  · rintro ⟨_, l, here, isOpen, queued, -⟩
    exact ⟨alive, l, here, isOpen, queued⟩
  · rintro ⟨-, l, here, isOpen, queued⟩
    exact ⟨_, l, here, isOpen, queued, rfl⟩

/-- The probe of a member fails at once exactly if its connection takes no ping. -/
theorem verdict?_beginMember (h : Hub) (variant : Variant) (key : Key) (link : Nat) :
    (h.TakesPing link → (h.beginMember variant key link).2.verdict? = none) ∧
      (¬h.TakesPing link → (h.beginMember variant key link).2.verdict? = some false) := by
  have begins := isSome_startProbe_iff (h := h) (i := link) h.settings.probeTimeout
  unfold beginMember
  split
  · next alive =>
    have begins := begins alive
    split <;> rename_i started <;> rw [started] at begins
    · exact ⟨fun _ => rfl, fun refuses => absurd (begins.mp rfl) refuses⟩
    · obtain ⟨evicted, stage⟩ := stage_failMember _ variant key link
      refine ⟨fun takes => (nomatch begins.mpr takes), fun _ => ?_⟩
      dsimp only [Member.verdict?]
      rw [stage]
  · next gone =>
    exact ⟨fun takes => absurd takes.1 gone, fun _ => rfl⟩

theorem asks_beginMember (h : Hub) (variant : Variant) (key : Key) (link : Nat)
    (waits : (h.beginMember variant key link).2.stage = .waiting probe) :
    h.Asks (h.beginMember variant key link).2.link probe := by
  rw [show (h.beginMember variant key link).2.link = link from
    congrArg Place.link (place_beginMember h variant key link)]
  unfold beginMember at waits
  split at waits
  · split at waits <;> rename_i started
    · cases waits
      exact asks_of_startProbe (congrArg Prod.snd started)
    · obtain ⟨evicted, stage⟩ := stage_failMember _ variant key link
      cases stage.symm.trans waits
  · cases waits

theorem asks_beginRoster (h : Hub) (variant : Variant) :
    ∀ member ∈ (h.beginRoster variant).2, ∀ probe, member.stage = .waiting probe →
      h.Asks member.link probe := by
  unfold beginRoster
  generalize (h.roster variant).entries = entries
  induction entries generalizing h with
  | nil => exact nofun
  | cons entry rest ih =>
      intro member among probe waits
      rcases List.mem_cons.mp among with rfl | later
      · exact asks_beginMember h variant entry.1 entry.2.link waits
      · exact (ih _ member later probe waits).of_does
          (does_beginMember (fun _ _ => id) h variant entry.1 entry.2.link)
          (settings_of_quiet (quiet_beginMember h variant entry.1 entry.2.link))

/-! ### Results of one roster -/

/-- The verdict at a place is what its member comes to when it has its turn. -/
theorem verdictAt?_eachMember {α : Type} (act : Hub → α → Hub × Member) {placeOf : α → Place}
    {items : List α} (keeps : Hub → Prop)
    (placed : ∀ h item, (act h item).2.place variant = placeOf item)
    (others : ∀ mid, ∀ item ∈ items, placeOf item ≠ place → keeps mid → keeps (act mid item).1)
    (inside : place ∈ items.map placeOf) (start : keeps h) :
    ∃ mid, ∃ item ∈ items, keeps mid ∧ placeOf item = place ∧
      verdictAt? variant (eachMember act h items).2 place = (act mid item).2.verdict? := by
  induction items generalizing h with
  | nil => cases inside
  | cons item rest ih =>
      by_cases here : placeOf item = place
      · exact ⟨h, item, List.mem_cons_self, start, here, by
          simp [eachMember, verdictAt?, placed, here]⟩
      · have later : place ∈ rest.map placeOf :=
          (List.mem_cons.mp inside).resolve_left (Ne.symm here)
        obtain ⟨mid, other, among, kept, own, verdict⟩ :=
          ih (fun mid other among => others mid other (List.mem_cons_of_mem _ among)) later
            (others h item List.mem_cons_self here start)
        refine ⟨mid, other, List.mem_cons_of_mem _ among, kept, own, ?_⟩
        rw [← verdict]
        simp [eachMember, verdictAt?, placed, here]

/-- Where a roster is begun to be swept, the probe at a place fails at once exactly if its
connection takes no ping. -/
theorem verdictAt?_beginRoster (sole : Sole place (h.places variant))
    (inside : place ∈ h.places variant) :
    (h.TakesPing place.link → verdictAt? variant (h.beginRoster variant).2 place = none) ∧
      (¬h.TakesPing place.link →
        verdictAt? variant (h.beginRoster variant).2 place = some false) := by
  obtain ⟨mid, entry, -, ⟨same, left, now⟩, rfl, verdict⟩ := verdictAt?_eachMember
    (fun h entry => h.beginMember variant entry.1 entry.2.link)
    (fun mid => mid.isAlive place.link = h.isAlive place.link ∧ Leaves place.link h mid ∧
      mid.now = h.now)
    (fun h entry => place_beginMember h variant entry.1 entry.2.link)
    (fun mid entry among other ⟨same, left, now⟩ => by
      have away : entry.2.link ≠ place.link :=
        fun shared => other (sole.clear _ (List.mem_map_of_mem among) shared)
      exact ⟨(isAlive_beginMember mid variant entry.1 entry.2.link place.link).trans same,
        left.trans (leaves_beginMember away mid variant entry.1),
        (Does.now (does_beginMember (fun _ _ => id) mid variant entry.1 entry.2.link)).trans now⟩)
    inside ⟨rfl, .refl _ h, rfl⟩
  have begun := verdict?_beginMember mid variant entry.1 entry.2.link
  rw [takesPing_congr same left.link now, ← verdict] at begun
  exact begun

/-- A member that waits goes on with the verdict of its probe. -/
theorem verdictAt?_resumeMembers (distinct : (members.map (Member.place variant)).Nodup)
    (inside : member ∈ members) (waits : member.stage = .waiting probe) :
    verdictAt? variant (eachMember (fun h member => h.resumeMember variant member) h members).2
      (member.place variant) = h.verdict? member.link probe := by
  obtain ⟨mid, other, among, does, own, verdict⟩ := verdictAt?_eachMember
    (fun h member => h.resumeMember variant member)
    (Does (fun _ deed => deed.isSweeping = true) h)
    (fun h member => place_resumeMember h variant member)
    (fun mid member _ _ does =>
      Relation.ReflTransGen.trans does (does_resumeMember (fun _ _ => id) mid variant member))
    (List.mem_map_of_mem inside) .refl
  obtain rfl := List.inj_on_of_nodup_map distinct among inside own
  rw [verdict, ← verdict?_of_does does]
  unfold resumeMember
  rw [waits]
  dsimp only
  cases mid.verdict? other.link probe with
  | none => rw [Member.verdict?, waits]
  | some alive =>
      cases alive with
      | true => rfl
      | false =>
          obtain ⟨evicted, stage⟩ := stage_failMember mid variant other.key other.link
          dsimp only [Member.verdict?]
          rw [stage]

/-! ### Probes that sweeps wait for -/

/-- The member is at a place of the roster, and if it waits for a probe, this begins now. -/
def Starts (h : Hub) (variant : Variant) (member : Member) : Prop :=
  member.place variant ∈ h.places variant ∧
    ∀ probe, member.stage = .waiting probe → h.Asks member.link probe

theorem starts_beginRoster (does : Does (fun _ deed => deed.isSweeping = true) h mid)
    (settings : mid.settings = h.settings) (same : mid.roster variant = h.roster variant) :
    ∀ member ∈ (mid.beginRoster variant).2, h.Starts variant member := by
  intro member among
  refine ⟨?_, fun probe waits => ?_⟩
  · rw [← places_congr same, ← places_beginRoster]
    exact List.mem_map_of_mem among
  · exact (asks_beginRoster mid variant member among probe waits).of_does does settings

/-- A member that waits after the members have gone on waited before. -/
theorem mem_of_resumeMembers (h : Hub) (variant : Variant) (waits : member.stage = .waiting probe)
    (among : member ∈
      (eachMember (fun h member => h.resumeMember variant member) h members).2) :
    member ∈ members := by
  induction members generalizing h with
  | nil => cases among
  | cons first rest ih =>
      rcases List.mem_cons.mp among with
        (is : member = (h.resumeMember variant first).2) | later
      · rw [is] at waits ⊢
        unfold resumeMember at waits ⊢
        split at waits
        · exact List.mem_cons_self
        · split at waits
          · exact List.mem_cons_self
          · cases waits
          · obtain ⟨evicted, stage⟩ := stage_failMember h variant first.key first.link
            cases stage.symm.trans waits
      · exact List.mem_cons_of_mem _ (ih _ later)

section Tasks

variable {P : Variant → Member → Prop}

/-- Whoever waits after a part of a sweep and did not before is task number `id`, and `P` holds of
all that it sweeps. -/
def Enlists (P : Variant → Member → Prop) (id : Nat) (h next : Hub) : Prop :=
  ∀ task ∈ next.tasks, task ∈ h.tasks ∨ task.id = id ∧ ∀ {variant members report},
    task.activity = .sweeping variant members report → ∀ member ∈ members, P variant member

theorem enlists_suspend (all : ∀ member ∈ members, P variant member) (h : Hub) (id : Nat)
    (report : SweepReport) :
    Enlists P id h (h.suspend id (.sweeping variant members report)) := by
  intro task among
  rcases List.mem_append.mp among with old | new
  · exact .inl old
  · cases List.mem_singleton.mp new
    refine .inr ⟨rfl, fun sweeping => ?_⟩
    cases sweeping
    exact all

theorem enlists_of_tasks (tasks : next.tasks = h.tasks) : Enlists P id h next :=
  fun _ among => .inl (tasks ▸ among)

theorem Enlists.after (enlists : Enlists P id mid next) (tasks : mid.tasks = h.tasks) :
    Enlists P id h next :=
  fun task among => (enlists task among).imp_left fun old => tasks ▸ old

theorem enlists_sweepManagement (all : ∀ member ∈ members, P .management member) (h : Hub)
    (id : Nat) (report : SweepReport) :
    Enlists P id h (h.sweepManagement id members report) := by
  unfold sweepManagement
  split
  · exact enlists_suspend all h id report
  · exact enlists_of_tasks (Quiet.tasks (quiet_countEvicted h members)).1

theorem enlists_sweepDevices (devices : ∀ member ∈ members, P .device member)
    (management : ∀ member ∈ ((h.countEvicted members).beginRoster .management).2,
      P .management member) (id : Nat) (report : SweepReport) :
    Enlists P id h (h.sweepDevices id members report) := by
  unfold sweepDevices
  split
  · exact enlists_suspend devices h id report
  · have quiet : Quiet True h ((h.countEvicted members).beginRoster .management).1 :=
      (quiet_countEvicted h members).trans (quiet_beginRoster _ .management)
    exact (enlists_sweepManagement management _ id _).after (Quiet.tasks quiet).1

end Tasks

/-- Task number `id` has the member among those that it sweeps. -/
def Sweeps (h : Hub) (id : Nat) (variant : Variant) (member : Member) : Prop :=
  ∃ members report, (⟨id, .sweeping variant members report⟩ : Task) ∈ h.tasks ∧ member ∈ members

/-- With the move, one of the sweep that is task number `id`, the connection of a place begins to be
probed, which is registered there. -/
structure BeginsProbe (h : Hub) (move : Move) (id : Nat) (place : Place) (probe : Link.Probe) :
    Prop where
  sweeps : h.isSweep move = true
  task : move.task?.getD h.nextTask = id
  registered : place ∈ h.places place.variant
  asks : h.Asks place.link probe

/-- What waits after the beginning of a sweep is probed from now on. -/
theorem enlists_beginSweep (h : Hub) :
    Enlists (h.Starts · ·) h.nextTask h h.beginSweep.1 := by
  have does : Does (fun _ deed => deed.isSweeping = true) h h.newTask.1 := does_of_eq rfl rfl
  have devices := starts_beginRoster does (h := h) rfl (show _ = h.roster .device from rfl)
  have first : Does (fun _ deed => deed.isSweeping = true) h.newTask.1
      (h.newTask.1.beginRoster .device).1 := does_beginRoster (fun _ _ => id) h.newTask.1 .device
  have quiet : Quiet True h.newTask.1 (h.newTask.1.beginRoster .device).1 :=
    quiet_beginRoster h.newTask.1 .device
  have other : (h.newTask.1.beginRoster .device).1.roster .management = h.roster .management :=
    roster_beginRoster_of_ne (by decide) h.newTask.1
  unfold beginSweep
  dsimp only
  generalize h.newTask.1.beginRoster .device = begun at devices first quiet other ⊢
  have counts : Does (fun _ deed => deed.isSweeping = true) begun.1
      (begun.1.countEvicted begun.2) := does_countEvicted begun.1 begun.2
  have settings := settings_of_quiet (quiet.trans (quiet_countEvicted begun.1 begun.2))
  have management := starts_beginRoster ((does.trans first).trans counts) settings
    ((roster_countEvicted ..).trans other)
  exact (enlists_sweepDevices devices management h.nextTask {}).after (Quiet.tasks quiet).1

/-- What waits after a sweep went on waited before, or is probed from now on. -/
theorem enlists_resumeSweep (h : Hub) (id : Nat) (variant : Variant) (members : List Member)
    (report : SweepReport) :
    Enlists (fun variant' member => h.Starts variant' member ∨ variant' = variant ∧
        ∀ probe, member.stage = .waiting probe → member ∈ members)
      id h (h.resumeSweep id variant members report) := by
  have still : ∀ member ∈
      (eachMember (fun h member => h.resumeMember variant member) h members).2,
      h.Starts variant member ∨ variant = variant ∧
        ∀ probe, member.stage = .waiting probe → member ∈ members :=
    fun member among => .inr ⟨rfl, fun probe waits => mem_of_resumeMembers h variant waits among⟩
  have first : Does (fun _ deed => deed.isSweeping = true) h
      (eachMember (fun h member => h.resumeMember variant member) h members).1 :=
    does_eachMember (fun h member =>
      does_resumeMember (fun _ _ sweeping => sweeping) h variant member) h members
  have quiet : Quiet True h
      (eachMember (fun h member => h.resumeMember variant member) h members).1 :=
    quiet_eachMember (fun h member => quiet_resumeMember h variant member) h members
  have other (others : Variant.management ≠ variant) :
      (eachMember (fun h member => h.resumeMember variant member) h members).1.roster .management =
        h.roster .management := roster_resumeMembers_of_ne others h members
  unfold resumeSweep
  dsimp only
  generalize eachMember (fun h member => h.resumeMember variant member) h members = gone
    at still first quiet other ⊢
  cases variant with
  | management =>
      exact (enlists_sweepManagement still gone.1 id report).after (Quiet.tasks quiet).1
  | device =>
      have counts : Does (fun _ deed => deed.isSweeping = true) gone.1
          (gone.1.countEvicted gone.2) := does_countEvicted gone.1 gone.2
      have settings := settings_of_quiet (quiet.trans (quiet_countEvicted gone.1 gone.2))
      have management := starts_beginRoster (first.trans counts) settings
        ((roster_countEvicted ..).trans (other (by decide)))
      exact (enlists_sweepDevices still (fun member among => .inl (management member among)) id
        report).after (Quiet.tasks quiet).1

/-- A member that waits for a probe after a move waited for it before, or the move is one of its
sweep with which the probe has begun. -/
theorem begun_of_step? (numbered : h.Numbered) (moved : h.step? move = some next)
    (waits : member.stage = .waiting probe) (swept : next.Sweeps id variant member) :
    h.Sweeps id variant member ∨ h.BeginsProbe move id (member.place variant) probe := by
  obtain ⟨members, report, among, inside⟩ := swept
  rcases mem_tasks_of_step? numbered moved among with ⟨old, -⟩ | begets
  · exact .inl ⟨members, report, old, inside⟩
  · have sweeps := begets.swept rfl
    rcases sweeping_of_isSweep sweeps with rfl | ⟨id', variant', members', report', rfl, found⟩
    · cases moved
      rcases enlists_beginSweep h _ among with old | ⟨rfl, starts⟩
      · exact .inl ⟨members, report, old, inside⟩
      · obtain ⟨registered, asks⟩ := starts rfl member inside
        exact .inr ⟨rfl, rfl, registered, asks probe waits⟩
    · obtain ⟨task, found', -, rfl⟩ := resumed moved
      cases found.symm.trans found'
      have old := List.mem_of_find?_eq_some found
      rcases enlists_resumeSweep (h.detach id') id' variant' members' report' _ among with
        other | ⟨rfl, starts⟩
      · exact .inl ⟨members, report, (List.mem_filter.mp other).1, inside⟩
      · rcases starts rfl member inside with ⟨registered, asks⟩ | ⟨rfl, waited⟩
        · exact .inr ⟨sweeps, rfl, registered, asks probe waits⟩
        · exact .inl ⟨members', report', old, waited probe waits⟩

/-- The sweep that is task number `id` began at `base`, in a run from `start`, to probe the
connection of a place; `later` has happened since. -/
structure Asked (start : Hub) (moves : List Move) (id : Nat) (place : Place) (probe : Link.Probe)
    (base : Hub) (later : List Move) : Prop where
  begun : ∃ earlier begins, moves = earlier ++ begins :: later ∧ start.run? earlier = some base ∧
    base.BeginsProbe begins id place probe

/-- Every probe that a sweep waits for it has begun in the run. -/
theorem asked_of_run? (run : (fresh settings mark).run? moves = some h)
    (waits : member.stage = .waiting probe) (swept : h.Sweeps id variant member) :
    ∃ base later, Asked (fresh settings mark) moves id (member.place variant) probe base later := by
  -- Induction on the moves, the last one first.
  induction moves using List.reverseRecOn generalizing h with
  | nil =>
      cases run
      obtain ⟨members, report, among, -⟩ := swept
      cases among
  | append_singleton moves move ih =>
      obtain ⟨mid, run, moved⟩ := run?_concat.mp run
      rcases begun_of_step? (numbered_of_run? run) moved waits swept with before | begun
      · obtain ⟨base, later, ⟨earlier, begins, rfl, reached, begun⟩⟩ := ih run before
        exact ⟨base, later ++ [move], ⟨earlier, begins, by simp, reached, begun⟩⟩
      · exact ⟨mid, [], ⟨moves, move, rfl, run, begun⟩⟩

/-- The verdict of such a probe is positive once a pong has come since, and negative once its time
is over without one. -/
theorem Asked.verdicts (asked : Asked (fresh settings mark) moves id place probe base later)
    (run : (fresh settings mark).run? moves = some h) :
    (h.verdict? place.link probe = some true ↔ .pong place.link ∈ later) ∧
      (h.verdict? place.link probe = some false ↔
        .pong place.link ∉ later ∧ base.now + base.settings.probeTimeout ≤ h.now) := by
  obtain ⟨earlier, begins, rfl, reached, begun⟩ := asked.begun
  obtain ⟨l, here, rfl⟩ := begun.asks
  have since : base.run? (begins :: later) = some h := by
    rw [run?_append, reached] at run
    exact run
  have other : Move.pong place.link ≠ begins := by
    rintro rfl
    cases begun.sweeps
  have verdicts := verdict?_of_run? since here (base.now + base.settings.probeTimeout)
  rwa [List.mem_cons, or_iff_right other] at verdicts

/-! ### What the results say -/

/-- A sweep that goes on learns the verdicts of the probes that it waits for. -/
theorem verdictOn?_of_waiting (run : (fresh settings mark).run? moves = some h)
    (found : h.task? id = some ⟨id, .sweeping variant members report⟩)
    (inside : member ∈ members) (waits : member.stage = .waiting probe) :
    h.verdictOn? (member.place variant) (.resume id) = h.verdict? member.link probe := by
  have distinct := (enrolled_of_run? run _ (List.mem_of_find?_eq_some found) rfl).distinct
  have awaited : isAwaited variant members (member.place variant) = true := by
    rw [isAwaited_of_mem distinct inside, Member.isWaiting, waits]
  have learned : learned? variant members (eachMember (fun h member =>
      h.resumeMember variant member) (h.detach id) members).2 (member.place variant) =
      h.verdict? member.link probe := by
    rw [learned?, if_pos awaited]
    exact verdictAt?_resumeMembers distinct inside waits
  rw [verdictOn?_resume found]
  unfold resumedVerdict?
  dsimp only
  rw [learned]
  cases variant with
  | management => exact Option.or_none
  | device =>
      rw [managementVerdict?_of_ne (show Variant.device ≠ .management by decide), Option.or_none]

/-- Where a roster is begun to be swept, a result is there at once only of who takes no ping. -/
theorem refuses_of_beginRoster (sole : Sole place (h.places variant))
    (learns : verdictAt? variant (h.beginRoster variant).2 place = some alive) :
    alive = false ∧ place ∈ h.places variant ∧ ¬h.TakesPing place.link := by
  have inside : place ∈ h.places variant := by
    by_contra absent
    rw [← places_beginRoster] at absent
    rw [verdictAt?_of_not_mem absent] at learns
    cases learns
  obtain ⟨waits, fails⟩ := verdictAt?_beginRoster sole inside
  by_cases takes : h.TakesPing place.link
  · cases (waits takes).symm.trans learns
  · cases (fails takes).symm.trans learns
    exact ⟨rfl, inside, takes⟩

theorem refuses_of_managementVerdict? (sole : Sole place (h.places .management))
    (learns : h.managementVerdict? members place = some alive) :
    alive = false ∧ place ∈ h.places .management ∧ ¬h.TakesPing place.link := by
  unfold managementVerdict? at learns
  split at learns
  · cases learns
  · have same := places_countEvicted h members .management
    obtain ⟨failed, inside, refuses⟩ := refuses_of_beginRoster (same ▸ sole) learns
    refine ⟨failed, same ▸ inside, fun takes => refuses ?_⟩
    have now : (h.countEvicted members).now = h.now := by
      obtain ⟨counters, counted⟩ := countEvicted_eq h members
      rw [counted]
    exact (takesPing_congr (isAlive_countEvicted h members place.link)
      (leaves_countEvicted h members).link now).mpr takes

/-- What the result at a place says that a sweep learns with the move, after the moves of a run. -/
inductive Says (start : Hub) (moves : List Move) (h : Hub) (move : Move) (place : Place) :
    Bool → Prop where
  /-- The sweep has come to the place, and its connection takes no ping. -/
  | refused : place ∈ h.places place.variant → ¬(h.apart move).TakesPing place.link →
      Says start moves h move place false
  /-- A pong has come since the sweep began to probe the connection. -/
  | answered {id : Nat} {probe : Link.Probe} {base : Hub} {later : List Move} :
      move = .resume id → Asked start moves id place probe base later →
      .pong place.link ∈ later → Says start moves h move place true
  /-- None has, and the time that a probe has is over. -/
  | silent {id : Nat} {probe : Link.Probe} {base : Hub} {later : List Move} :
      move = .resume id → Asked start moves id place probe base later →
      .pong place.link ∉ later → base.now + base.settings.probeTimeout ≤ h.now →
      Says start moves h move place false

theorem says_of_asked (asked : Asked (fresh settings mark) moves id place probe base later)
    (run : (fresh settings mark).run? moves = some h)
    (verdict : h.verdict? place.link probe = some alive) :
    Says (fresh settings mark) moves h (.resume id) place alive := by
  obtain ⟨answered, silent⟩ := asked.verdicts run
  cases alive with
  | true => exact .answered rfl asked (answered.mp verdict)
  | false =>
      obtain ⟨none, late⟩ := silent.mp verdict
      exact .silent rfl asked none late

/-- A result that is there at once among the management clients is that of a connection that takes
no ping when the sweep is done with the devices, which are elsewhere. -/
theorem refuses_of_devices (sole : Sole place (h.places .management))
    (leaves : place.variant = .management → Leaves place.link h mid)
    (same : mid.isAlive place.link = h.isAlive place.link) (now : mid.now = h.now)
    (roster : mid.roster .management = h.roster .management)
    (learns : mid.managementVerdict? members place = some alive) :
    alive = false ∧ place ∈ h.places place.variant ∧ ¬h.TakesPing place.link := by
  have places := places_congr roster
  obtain ⟨failed, inside, refuses⟩ := refuses_of_managementVerdict? (places ▸ sole) learns
  have own := variant_of_mem_places inside
  refine ⟨failed, own ▸ places ▸ inside, fun takes => refuses ?_⟩
  exact (takesPing_congr same (leaves own).link now).mpr takes

theorem Enrolled.away {places : List Place} (enrolled : h.Enrolled places) (alone : h.Alone place)
    (others : ∀ other ∈ places, other.variant ≠ place.variant) :
    ∀ other ∈ places, other.link ≠ place.link := by
  intro other inside shared
  have is := alone (enrolled.seated other inside) shared
  exact others other inside (congrArg Place.variant is)

theorem says_of_sweeping (run : (fresh settings mark).run? moves = some h)
    (alone : h.Alone place) (learns : h.verdictOn? place .sweeping = some alive) :
    Says (fresh settings mark) moves h .sweeping place alive := by
  have enrolled := enrolled_places (sound_of_run? run) (keyed_of_run? run)
  have sole (variant : Variant) : Sole place (h.newTask.1.places variant) :=
    (enrolled variant).sole alone
  have does : Does (fun _ deed => deed.isSweeping = true) h.newTask.1
      (h.newTask.1.beginRoster .device).1 := does_beginRoster (fun _ _ => id) h.newTask.1 .device
  have learns : (verdictAt? .device (h.newTask.1.beginRoster .device).2 place).or
      ((h.newTask.1.beginRoster .device).1.managementVerdict?
        (h.newTask.1.beginRoster .device).2 place) = some alive := learns
  obtain ⟨rfl, inside, refuses⟩ : alive = false ∧ place ∈ h.newTask.1.places place.variant ∧
      ¬h.newTask.1.TakesPing place.link := by
    rcases Option.or_eq_some_iff.mp learns with device | ⟨-, management⟩
    · obtain ⟨failed, inside, refuses⟩ := refuses_of_beginRoster (sole .device) device
      exact ⟨failed, variant_of_mem_places inside ▸ inside, refuses⟩
    · refine refuses_of_devices (sole .management) (fun own => leaves_beginRoster ?_)
        (isAlive_beginRoster h.newTask.1 .device place.link) (Does.now does)
        (roster_beginRoster_of_ne (by decide) h.newTask.1) management
      exact (enrolled .device).away alone fun other among same =>
        nomatch (variant_of_mem_places among).symm.trans (same.trans own)
  exact .refused inside refuses

theorem says_of_resume (run : (fresh settings mark).run? moves = some h) (alone : h.Alone place)
    (found : h.task? id = some ⟨id, .sweeping variant members report⟩)
    (learns : h.verdictOn? place (.resume id) = some alive) :
    Says (fresh settings mark) moves h (.resume id) place alive := by
  have among := List.mem_of_find?_eq_some found
  cases awaited : isAwaited variant members place with
  | true =>
      obtain ⟨member, inside, own⟩ := List.any_eq_true.mp awaited
      rw [Bool.and_eq_true, decide_eq_true_eq] at own
      obtain ⟨rfl, waiting⟩ := own
      obtain ⟨probe, waits⟩ : ∃ probe, member.stage = .waiting probe := by
        unfold Member.isWaiting at waiting
        cases stage : member.stage with
        | waiting probe => exact ⟨probe, rfl⟩
        | done => simp [stage] at waiting
      obtain ⟨base, later, asked⟩ := asked_of_run? run waits ⟨members, report, among, inside⟩
      rw [verdictOn?_of_waiting run found inside waits] at learns
      exact says_of_asked asked run learns
  | false =>
      have under : h.Enrolled (members.map (Member.place variant)) :=
        enrolled_of_run? run _ among rfl
      have sole : Sole place ((h.detach id).places .management) :=
        (enrolled_places (sound_of_run? run) (keyed_of_run? run) .management).sole alone
      rw [verdictOn?_resume found] at learns
      unfold resumedVerdict? learned? at learns
      rw [awaited] at learns
      cases variant with
      | management => cases learns
      | device =>
          have does : Does (fun _ deed => deed.isSweeping = true) (h.detach id)
              (eachMember (fun h member => h.resumeMember .device member) (h.detach id)
                members).1 :=
            does_eachMember (fun h member =>
              does_resumeMember (fun _ _ sweeping => sweeping) h .device member) _ members
          have away (own : place.variant = .management) :
              ∀ other ∈ members.map (Member.place .device), other.link ≠ place.link := by
            refine under.away alone fun other inside same => ?_
            obtain ⟨member, -, rfl⟩ := List.mem_map.mp inside
            cases same.trans own
          obtain ⟨rfl, inside, refuses⟩ := refuses_of_devices sole
            (fun own => leaves_resumeMembers (away own))
            (isAlive_resumeMembers (h.detach id) .device members place.link) (Does.now does)
            (roster_resumeMembers_of_ne (by decide) (h.detach id) members) learns
          exact .refused inside refuses

/-- **What the result of a sweep says.** A sweep learns of a connection that has its place to itself
that no ping could be queued for it when its turn came, or whether a pong has come since then. -/
theorem says_of_verdictOn? (run : (fresh settings mark).run? moves = some h)
    (alone : h.Alone place) (learns : h.verdictOn? place move = some alive) :
    Says (fresh settings mark) moves h move place alive := by
  have sweeps : h.isSweep move = true := by
    by_contra other
    rw [verdictOn?_of_not_sweep (Bool.eq_false_iff.mpr other)] at learns
    cases learns
  rcases sweeping_of_isSweep sweeps with rfl | ⟨id, variant, members, report, rfl, found⟩
  · exact says_of_sweeping run alone learns
  · exact says_of_resume run alone found learns

end StationHub.Hub

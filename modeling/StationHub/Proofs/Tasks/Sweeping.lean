import StationHub.Proofs.Link.Pings
import StationHub.Proofs.Slots.Sweeps
import StationHub.Proofs.Tasks.Deeds
import StationHub.Proofs.Tasks.Handlers

/-!
What a sweep reaches, and by when.

* `Reaches`: every connection in the slots of a variant that has room for a ping is pinged.
* `SweepsUntil`, `HasSwept`: where a sweep stands; a sweep of a roster takes as long as a probe at
  most.
* `beginSweep_reaches`, `resumeSweep_reaches`: a sweep reaches the devices when it begins, and the
  management clients when it is done with the devices.
* `sweepsUntil_of_step?`, `hasSwept_of_step?`: no other move concerns it.
* `ready_of_late`: a sweep that has come to its end goes on.
-/

namespace StationHub

/-- The probe of a member, if there is one, is decided by `latest`, and its connection is known. -/
def Member.DecidedBy (h : Hub) (latest : Nat) (member : Member) : Prop :=
  ∀ probe, member.stage = .waiting probe → probe.deadline ≤ latest ∧ (h.link? member.link).isSome

namespace Hub

open Connection (Deed)

/-- Connection number `i` was pinged just now, or is closed. -/
def WasPinged (h : Hub) (i : Nat) : Prop := ∃ c, h.connection? i = some c ∧ c.WasPinged h.now

/-- A probe of connection number `i` would ping it. -/
def HasRoom (h : Hub) (i : Nat) : Prop := ∃ c, h.connection? i = some c ∧ c.HasRoom h.now

/-- Between `h` and `next` all in the slots of `variant` are pinged that have room for it. -/
def Reaches (variant : Variant) (h next : Hub) : Prop :=
  ∀ key slot, h.registered? variant key = some slot → h.HasRoom slot.link →
    next.WasPinged slot.link

variable {permits : Nat → Deed → Prop} {h mid next : Hub} {i id latest : Nat} {variant : Variant}

/-! ### Who is pinged -/

theorem mem_entries {key : Key} {slot : Slot Nat Nat} (there : h.registered? variant key = some slot) :
    (key, slot) ∈ (h.roster variant).entries := by
  unfold registered? at there
  unfold Roster.entries
  generalize h.roster variant = roster at there
  induction roster with
  | nil => cases there
  | cons entry rest ih =>
      unfold Table.get? at there
      split at there
      · next same =>
        cases there
        exact same ▸ List.mem_cons_self
      · exact List.mem_cons_of_mem _ (ih there)

theorem wasPinged_of_does (does : Does permits h next) (pinged : h.WasPinged i) :
    next.WasPinged i := by
  obtain ⟨c, here, pinged⟩ := pinged
  obtain ⟨c', there, goes⟩ := Does.connection does here
  exact ⟨c', there, Does.now does ▸ Connection.wasPinged_of_goes goes pinged⟩

theorem hasRoom_of_does (does : Does (fun _ deed => deed.isSweeping = true) h next)
    (has : h.HasRoom i) : next.HasRoom i := by
  obtain ⟨c, here, has⟩ := has
  obtain ⟨c', there, goes⟩ := Does.connection does here
  exact ⟨c', there, Does.now does ▸
    goes.keeps (fun sweeping has acted => Connection.hasRoom_of_sweeping sweeping acted has) has⟩

/-- What only sweeps and leaves the slots of a variant alone puts nobody there out of reach. -/
theorem Reaches.after (does : Does (fun _ deed => deed.isSweeping = true) h mid)
    (same : mid.roster variant = h.roster variant) (reaches : Reaches variant mid next) :
    Reaches variant h next := by
  intro key slot there has
  refine reaches key slot ?_ (hasRoom_of_does does has)
  rw [registered?, same]
  exact there

theorem Reaches.before (reaches : Reaches variant h mid) (does : Does permits mid next) :
    Reaches variant h next :=
  fun key slot there has => wasPinged_of_does does (reaches key slot there has)

theorem wasPinged_beginMember (has : h.HasRoom i) (variant : Variant) (key : Key) :
    (h.beginMember variant key i).1.WasPinged i := by
  obtain ⟨c, here, has⟩ := has
  have alive : h.isAlive i = true := by simp [isAlive, here, has.kept]
  have known : h.link? i = some c.link := link?_eq_some_iff.mpr ⟨c, here, rfl⟩
  have probed : (h.startProbe i h.settings.probeTimeout).1.WasPinged i := by
    have same : (h.startProbe i h.settings.probeTimeout).1 =
        h.modifyConnection i fun c' => { c' with
          link := (c.link.startProbe h.now h.settings.probeTimeout).1 } := by
      simp only [startProbe, known]
      rfl
    rw [same]
    refine ⟨_, ?_, Connection.wasPinged_startProbe has h.settings.probeTimeout⟩
    rw [connection?_modifyConnection, here, Option.map_some, if_pos rfl]
    rfl
  unfold beginMember
  rw [if_pos alive]
  split <;> rename_i started <;> rw [started] at probed
  · exact probed
  · have does (h : Hub) :
        Does (fun _ deed => deed.isSweeping = true) h (h.failMember variant key i).1 :=
      does_failMember (fun _ _ => id) h variant key i
    exact wasPinged_of_does (does _) probed

theorem wasPinged_eachMember {key : Key} {slot : Slot Nat Nat} {entries : List (Key × Slot Nat Nat)}
    (member : (key, slot) ∈ entries) (has : h.HasRoom slot.link) :
    (eachMember (fun h entry => h.beginMember variant entry.1 entry.2.link) h
      entries).1.WasPinged slot.link := by
  have does (h : Hub) (entry : Key × Slot Nat Nat) :
      Does (fun _ deed => deed.isSweeping = true) h
        (h.beginMember variant entry.1 entry.2.link).1 :=
    does_beginMember (fun _ _ => id) h variant entry.1 entry.2.link
  induction entries generalizing h with
  | nil => cases member
  | cons entry rest ih =>
      rcases List.mem_cons.mp member with rfl | later
      · exact wasPinged_of_does (does_eachMember does _ rest) (wasPinged_beginMember has variant key)
      · exact ih later (hasRoom_of_does (does h entry) has)

/-- Who is in a slot when its roster is swept is pinged. -/
theorem beginRoster_reaches (h : Hub) (variant : Variant) :
    Reaches variant h (h.beginRoster variant).1 :=
  fun _ _ there has => wasPinged_eachMember (mem_entries there) has

/-! ### How long a member waits -/

theorem settings_of_quiet (quiet : Quiet True h next) : next.settings = h.settings := by
  have spares : Spares True False h next := Aside.spares (Quiet.aside quiet)
  exact spares.settings

theorem knows_of_does (does : Does permits h next) (known : (h.link? i).isSome = true) :
    (next.link? i).isSome = true := by
  obtain ⟨link, here⟩ := Option.isSome_iff_exists.mp known
  obtain ⟨c, at_i, -⟩ := link?_eq_some_iff.mp here
  obtain ⟨c', there, -⟩ := Does.connection does at_i
  exact Option.isSome_iff_exists.mpr ⟨_, link?_eq_some_iff.mpr ⟨c', there, rfl⟩⟩

theorem decidedBy_of_does (does : Does permits h next) {member : Member}
    (decided : member.DecidedBy h latest) : member.DecidedBy next latest :=
  fun probe waits => (decided probe waits).imp_right (knows_of_does does)

/-- A member that the sweep is done with waits for nothing. -/
theorem decidedBy_of_done {member : Member} {alive evicted : Bool}
    (done : member.stage = .done alive evicted) : member.DecidedBy h latest := by
  intro probe waits
  cases done.symm.trans waits

theorem stage_failMember (h : Hub) (variant : Variant) (key : Key) (link : Nat) :
    ∃ evicted, (h.failMember variant key link).2 = .done false evicted := by
  unfold failMember
  dsimp only
  split <;> exact ⟨_, rfl⟩

theorem deadline_of_startProbe {wait : Nat} {probe : Link.Probe}
    (begun : (h.startProbe i wait).2 = some probe) :
    probe.deadline = h.now + wait ∧ (h.link? i).isSome = true := by
  obtain ⟨link, here, -, -, rfl⟩ := startProbe_eq_some_iff.mp begun
  exact ⟨rfl, Option.isSome_iff_exists.mpr ⟨link, here⟩⟩

/-- A probe that begins now is decided as soon as its time has passed. -/
theorem decidedBy_beginMember (h : Hub) (variant : Variant) (key : Key) (link : Nat) :
    (h.beginMember variant key link).2.DecidedBy (h.beginMember variant key link).1
      (h.now + h.settings.probeTimeout) := by
  have probed : Does (fun _ deed => deed.isSweeping = true) h
      (h.startProbe link h.settings.probeTimeout).1 := does_startProbe rfl
  have begun {probe : Link.Probe}
      (started : (h.startProbe link h.settings.probeTimeout).2 = some probe) :=
    deadline_of_startProbe started
  unfold beginMember
  split
  · split <;> rename_i started <;> rw [started] at probed
    · intro probe waits
      cases waits
      obtain ⟨deadline, known⟩ := begun (congrArg Prod.snd started)
      exact ⟨Nat.le_of_eq deadline, knows_of_does probed known⟩
    · obtain ⟨evicted, done⟩ := stage_failMember _ variant key link
      exact decidedBy_of_done done
  · exact decidedBy_of_done rfl

theorem decidedBy_beginRoster (h : Hub) (variant : Variant) :
    ∀ member ∈ (h.beginRoster variant).2,
      member.DecidedBy (h.beginRoster variant).1 (h.now + h.settings.probeTimeout) := by
  have does (h : Hub) (entry : Key × Slot Nat Nat) :
      Does (fun _ deed => deed.isSweeping = true) h
        (h.beginMember variant entry.1 entry.2.link).1 :=
    does_beginMember (fun _ _ => id) h variant entry.1 entry.2.link
  unfold beginRoster
  generalize (h.roster variant).entries = entries
  induction entries generalizing h with
  | nil => exact nofun
  | cons entry rest ih =>
      intro member among
      have begun := ih (h.beginMember variant entry.1 entry.2.link).1
      rw [Does.now (does h entry),
        settings_of_quiet (quiet_beginMember h variant entry.1 entry.2.link)] at begun
      rcases List.mem_cons.mp among with rfl | later
      · exact decidedBy_of_does (does_eachMember does _ rest)
          (decidedBy_beginMember h variant entry.1 entry.2.link)
      · exact begun member later

theorem decidedBy_resumeMember {member : Member} (decided : member.DecidedBy h latest)
    (variant : Variant) :
    (h.resumeMember variant member).2.DecidedBy (h.resumeMember variant member).1 latest := by
  unfold resumeMember
  split
  · exact decided
  · split
    · exact decided
    · exact decidedBy_of_done rfl
    · obtain ⟨evicted, done⟩ := stage_failMember h variant member.key member.link
      exact decidedBy_of_done done

theorem decidedBy_resumeMembers {members : List Member}
    (decided : ∀ member ∈ members, member.DecidedBy h latest) (variant : Variant) :
    ∀ member ∈ (eachMember (fun h member => h.resumeMember variant member) h members).2,
      member.DecidedBy (eachMember (fun h member => h.resumeMember variant member) h members).1
        latest := by
  have does (h : Hub) (member : Member) :
      Does (fun _ deed => deed.isSweeping = true) h (h.resumeMember variant member).1 :=
    does_resumeMember (fun _ _ => id) h variant member
  induction members generalizing h with
  | nil => exact nofun
  | cons first rest ih =>
      intro member among
      rcases List.mem_cons.mp among with rfl | later
      · exact decidedBy_of_does (does_eachMember does _ rest)
          (decidedBy_resumeMember (decided first List.mem_cons_self) variant)
      · refine ih (fun other inside => ?_) member later
        exact decidedBy_of_does (does h first) (decided other (List.mem_cons_of_mem _ inside))

/-! ### Where a sweep stands -/

/-- Task number `id` sweeps the roster of `variant`, and is done with it by `latest`. -/
structure SweepsUntil (h : Hub) (id : Nat) (variant : Variant) (latest : Nat) : Prop where
  unfinished : ∀ outcome, (id, outcome) ∉ h.finished
  waits : ∃ members report, (⟨id, .sweeping variant members report⟩ : Task) ∈ h.tasks ∧
    members.any Member.isWaiting = true ∧ ∀ member ∈ members, member.DecidedBy h latest

/-- Task number `id` was a sweep and has come to its end, which nobody has noted yet. -/
structure HasSwept (h : Hub) (id : Nat) : Prop extends h.Over id where
  outcome : ∃ report, h.finished.lookup id = some (.swept report)

/-- Task number `id` was begun, does not wait, and has come to nothing yet. -/
structure InHand (h : Hub) (id : Nat) : Prop extends h.Over id where
  unfinished : ∀ outcome, (id, outcome) ∉ h.finished

theorem InHand.quiet (inHand : h.InHand id) (quiet : Quiet True h next) : next.InHand id := by
  obtain ⟨tasks, nextTask, finished⟩ := Quiet.tasks quiet
  refine ⟨⟨nextTask ▸ inHand.begun, tasks ▸ inHand.gone⟩, finished ▸ inHand.unfinished⟩

theorem inHand_newTask (numbered : h.Numbered) (booked : h.Booked) :
    h.newTask.1.InHand h.nextTask := by
  refine ⟨⟨Nat.lt_succ_self _, fun task member => ?_⟩, fun outcome ended => ?_⟩
  · exact Nat.ne_of_lt (numbered.below task member)
  · exact Nat.lt_irrefl _ (booked _ ended)

theorem lookup_concat_self {entries : List (Nat × TaskOutcome)} {outcome : TaskOutcome}
    (absent : ∀ outcome, (id, outcome) ∉ entries) :
    (entries ++ [(id, outcome)]).lookup id = some outcome := by
  rw [List.lookup_append, List.lookup_eq_none_iff.mpr, Option.none_or]
  · simp
  · intro entry member
    refine bne_iff_ne.mpr ?_
    rintro rfl
    exact absent entry.2 member

/-- The sweep of the management clients ends when no member waits. -/
theorem stands_sweepManagement {members : List Member} (inHand : h.InHand id)
    (decided : ∀ member ∈ members, member.DecidedBy h latest) (report : SweepReport) :
    (h.sweepManagement id members report).SweepsUntil id .management latest ∨
      (h.sweepManagement id members report).HasSwept id := by
  unfold sweepManagement
  split
  · next waits =>
    exact .inl ⟨inHand.unfinished, members, report, List.mem_append_right _ List.mem_cons_self,
      waits, decided⟩
  · right
    have counted := inHand.quiet (quiet_countEvicted h members)
    exact ⟨⟨counted.begun, counted.gone⟩, _, lookup_concat_self counted.unfinished⟩

/-- What a sweep comes to that is done with the devices at once or later: it reaches the management
clients, and is done with them after the time of a probe. -/
def Moves (id now : Nat) (h next : Hub) : Prop :=
  Reaches .management h next ∧
    (next.SweepsUntil id .management (now + h.settings.probeTimeout) ∨ next.HasSwept id)

theorem stands_sweepDevices {members : List Member} (inHand : h.InHand id)
    (decided : ∀ member ∈ members, member.DecidedBy h latest) (report : SweepReport) :
    (h.sweepDevices id members report).SweepsUntil id .device latest ∨
      Moves id h.now h (h.sweepDevices id members report) := by
  unfold sweepDevices
  split
  · next waits =>
    exact .inl ⟨inHand.unfinished, members, report, List.mem_append_right _ List.mem_cons_self,
      waits, decided⟩
  · right
    have counting : Quiet True h (h.countEvicted members) := quiet_countEvicted h members
    have counted : Does (fun _ deed => deed.isSweeping = true) h (h.countEvicted members) :=
      does_countEvicted h members
    have begun := decidedBy_beginRoster (h.countEvicted members) .management
    rw [Does.now counted, settings_of_quiet counting] at begun
    have inHand' := (inHand.quiet counting).quiet (quiet_beginRoster _ .management)
    refine ⟨?_, stands_sweepManagement inHand' begun _⟩
    refine Reaches.after counted (roster_countEvicted h members .management) ?_
    have rest : Does (fun _ deed => deed.isSweeping = true) _ _ := does_sweepManagement
      ((h.countEvicted members).beginRoster .management).1 id
      ((h.countEvicted members).beginRoster .management).2 (addMembers report members)
    exact (beginRoster_reaches _ .management).before rest

/-- **A sweep reaches the devices when it begins**, and the management clients if it is done with
the devices at once. -/
theorem beginSweep_reaches (numbered : h.Numbered) (booked : h.Booked) :
    Reaches .device h h.beginSweep.1 ∧
      (h.beginSweep.1.SweepsUntil h.nextTask .device (h.now + h.settings.probeTimeout) ∨
        Moves h.nextTask h.now h h.beginSweep.1) := by
  have sweeps : ∀ (i : Nat) (deed : Deed), deed.isSweeping = true → deed.isSweeping = true :=
    fun _ _ => id
  have begun : Does (fun _ deed => deed.isSweeping = true) h h.newTask.1 := does_of_eq rfl rfl
  have probed : Does (fun _ deed => deed.isSweeping = true) h.newTask.1
      (h.newTask.1.beginRoster .device).1 := does_beginRoster sweeps _ .device
  have quiet : Quiet True h.newTask.1 (h.newTask.1.beginRoster .device).1 :=
    quiet_beginRoster h.newTask.1 .device
  have inHand := (inHand_newTask numbered booked).quiet quiet
  have decided := decidedBy_beginRoster h.newTask.1 .device
  have first := (beginRoster_reaches h.newTask.1 .device).before
    (does_sweepDevices sweeps _ h.nextTask (h.newTask.1.beginRoster .device).2 {})
  refine ⟨first.after begun rfl, (stands_sweepDevices inHand decided {}).imp_right ?_⟩
  rintro ⟨reaches, stands⟩
  have other : Variant.management ≠ Variant.device := by decide
  have same := roster_beginRoster_of_ne other h.newTask.1
  rw [Does.now probed, settings_of_quiet quiet] at stands
  exact ⟨(reaches.after probed same).after begun rfl, stands⟩

/-- **A sweep that goes on** still sweeps the roster, or is done with the devices and reaches the
management clients, or has come to its end. -/
theorem resumeSweep_reaches (numbered : h.Numbered) (sweeps : h.SweepsUntil id variant latest)
    (moved : h.step? (.resume id) = some next) :
    next.SweepsUntil id variant latest ∨ variant = .device ∧ Moves id h.now h next ∨
      variant = .management ∧ next.HasSwept id := by
  obtain ⟨members, report, member, waits, decided⟩ := sweeps.waits
  obtain ⟨task, found, ready, rfl⟩ := resumed moved
  have same := numbered.eq_of_task? found member rfl
  subst same
  have inHand : (h.detach id).InHand id := by
    refine ⟨⟨numbered.below _ member, fun task inside => ?_⟩, sweeps.unfinished⟩
    exact bne_iff_ne.mp (List.mem_filter.mp inside).2
  have looked : Quiet True (h.detach id) _ :=
    quiet_eachMember (fun h member => quiet_resumeMember h variant member) (h.detach id) members
  have resumes : Does (fun _ deed => deed.isSweeping = true) (h.detach id) _ :=
    does_eachMember (fun h member => does_resumeMember (fun _ _ sweeping => sweeping) h variant member)
      (h.detach id) members
  have apart : Does (fun _ deed => deed.isSweeping = true) h (h.detach id) := does_of_eq rfl rfl
  have decided' := decidedBy_resumeMembers (h := h.detach id) decided variant
  cases variant with
  | management =>
      rcases stands_sweepManagement (inHand.quiet looked) decided' report with still | past
      · exact .inl still
      · exact .inr (.inr ⟨rfl, past⟩)
  | device =>
      rcases stands_sweepDevices (inHand.quiet looked) decided' report with still | ⟨reaches, stands⟩
      · exact .inl still
      · refine .inr (.inl ⟨rfl, ?_, ?_⟩)
        · have other : Variant.management ≠ Variant.device := by decide
          exact (reaches.after resumes (roster_resumeMembers_of_ne other _ members)).after apart rfl
        · rw [Does.now resumes, settings_of_quiet looked] at stands
          exact stands

/-! ### Other moves -/

variable {move : Move}

theorem sweepsUntil_of_step? (numbered : h.Numbered) (sweeps : h.SweepsUntil id variant latest)
    (moved : h.step? move = some next) (other : move.task? ≠ some id) :
    next.SweepsUntil id variant latest := by
  obtain ⟨members, report, member, waits, decided⟩ := sweeps.waits
  have begun := numbered.below _ member
  refine ⟨fun outcome ended => ?_, members, report, ?_, waits, fun one inside probe asked => ?_⟩
  · rcases step?_finished moved with same | ⟨id', ⟨new, kept, only⟩, whose⟩
    · exact sweeps.unfinished outcome (same ▸ ended)
    · rw [kept] at ended
      rcases List.mem_append.mp ended with old | added
      · exact sweeps.unfinished outcome old
      · cases only _ added
        rcases whose with ⟨touched, -⟩ | ⟨above, -⟩
        · exact other touched
        · exact absurd begun (Nat.not_lt.mpr above)
  · obtain ⟨added, turnover⟩ := step?_tasks numbered moved
    rw [turnover.tasks]
    exact List.mem_append_left _ (mem_apart.mpr ⟨member, other⟩)
  · exact (decided one inside probe asked).imp_right (step?_persists moved).knows

/-- A sweep that has come to its end stays so until somebody notes it. -/
theorem hasSwept_of_step? (numbered : h.Numbered) (swept : h.HasSwept id)
    (moved : h.step? move = some next) : next.HasSwept id := by
  obtain ⟨report, ended⟩ := swept.outcome
  refine ⟨step?_over numbered swept.toOver moved, report, ?_⟩
  rcases step?_finished moved with same | ⟨_, ⟨new, kept, -⟩, -⟩
  · rw [same, ended]
  · rw [kept, List.lookup_append, ended, Option.some_or]

/-- A sweep whose time is over goes on. -/
theorem ready_of_late (numbered : h.Numbered) (sweeps : h.SweepsUntil id variant latest)
    (late : latest ≤ h.now) : (h.step? (.resume id)).isSome = true := by
  obtain ⟨members, report, member, waits, decided⟩ := sweeps.waits
  have found := numbered.task?_of_mem member
  have ready : h.isReady ⟨id, .sweeping variant members report⟩ = true := by
    obtain ⟨one, inside, waiting⟩ := List.any_eq_true.mp waits
    refine List.any_eq_true.mpr ⟨one, inside, ?_⟩
    obtain ⟨probe, stage⟩ : ∃ probe, one.stage = .waiting probe := by
      unfold Member.isWaiting at waiting
      split at waiting
      · next probe stage => exact ⟨probe, stage⟩
      · cases waiting
    obtain ⟨early, known⟩ := decided one inside probe stage
    obtain ⟨link, here⟩ := Option.isSome_iff_exists.mp known
    rw [stage]
    simp only [verdict?, here, Option.bind_some, Link.Probe.verdict?]
    split
    · rfl
    · rw [if_pos (Nat.le_trans early late)]
      rfl
  simp only [step?, show h.task? id = _ from found, ready, if_true, Option.isSome_some]

end Hub

end StationHub

import StationHub.Proofs.Slots.Entries
import StationHub.Proofs.Tasks.Sweeping

/-!
What the moves of sweeps learn of one place.

* `verdictAt?`, `learned?`, `verdictOn?`: the result of the probe at a place, with the move that
  learns it.
* `Sole`, `Enrolled`: the places under a sweep are different and have sessions; `enrolled_of_run?`
  has it for all sweeps that wait.
* `due`: how many sweeps have yet to learn the result at a place.
* `balance_sweepDevices`, `balance_resumeSweep`, `balance_of_sweep`: every sweep learns one result
  at a place that stays in its roster.
-/

namespace StationHub

/-- The result of the probe of a member, if there is one yet. -/
def Member.verdict? (member : Member) : Option Bool :=
  match member.stage with
  | .waiting _ => none
  | .done alive _ => some alive

/-- The sweep waits for the result at a place. -/
def isAwaited (variant : Variant) (members : List Member) (place : Place) : Bool :=
  members.any fun member => member.place variant = place && member.isWaiting

/-- The activity has yet to learn the result at the place. -/
def Activity.owes (place : Place) : Activity → Bool
  | .sweeping variant members _ =>
      isAwaited variant members place || decide (variant = .device ∧ place.variant = .management)
  | _ => false

namespace Hub

variable {place : Place} {variant : Variant} {h mid next : Hub} {verdict? : Option Bool}

/-! ### Results -/

/-- The result at a place, as the members tell. -/
def verdictAt? (variant : Variant) (members : List Member) (place : Place) : Option Bool :=
  (members.find? fun member => member.place variant = place).bind Member.verdict?

/-- The result at a place that is there after the members went on, and was not before. -/
def learned? (variant : Variant) (before after : List Member) (place : Place) : Option Bool :=
  if isAwaited variant before place then verdictAt? variant after place else none

/-- The result at a place that is there with the beginning of the sweep of the management clients,
if the sweep comes to these. -/
def managementVerdict? (h : Hub) (devices : List Member) (place : Place) : Option Bool :=
  if devices.any Member.isWaiting then none
  else verdictAt? .management ((h.countEvicted devices).beginRoster .management).2 place

/-- The result at a place that is there with the beginning of a sweep. -/
def begunVerdict? (h : Hub) (place : Place) : Option Bool :=
  let (h, devices) := h.beginRoster .device
  (verdictAt? .device devices place).or (h.managementVerdict? devices place)

/-- The result at a place that a sweep learns when it goes on. -/
def resumedVerdict? (h : Hub) (variant : Variant) (members : List Member) (place : Place) :
    Option Bool :=
  let (h, after) := eachMember (fun h member => h.resumeMember variant member) h members
  (learned? variant members after place).or
    (match variant with
      | .device => h.managementVerdict? after place
      | .management => none)

/-- The result at a place that a sweep learns with the move. -/
def verdictOn? (h : Hub) (place : Place) : Move → Option Bool
  | .sweeping => h.newTask.1.begunVerdict? place
  | .resume id =>
      (h.task? id).bind fun task =>
        match task.activity with
        | .sweeping variant members _ => (h.detach id).resumedVerdict? variant members place
        | _ => none
  | _ => none

theorem verdictOn?_resume {id : Nat} {members : List Member} {report : SweepReport}
    (found : h.task? id = some ⟨id, .sweeping variant members report⟩) :
    h.verdictOn? place (.resume id) = (h.detach id).resumedVerdict? variant members place := by
  rw [verdictOn?, found]
  rfl

/-- A move of a sweep begins one, or is a step of one that waits. -/
theorem sweeping_of_isSweep {move : Move} (sweeps : h.isSweep move = true) :
    move = .sweeping ∨ ∃ id variant members report, move = .resume id ∧
      h.task? id = some ⟨id, .sweeping variant members report⟩ := by
  cases move with
  | sweeping => exact .inl rfl
  | resume id =>
      unfold isSweep at sweeps
      rw [Option.any_eq_true] at sweeps
      obtain ⟨⟨id', activity⟩, found, isSweeping⟩ := sweeps
      cases id_of_task? found
      cases activity with
      | sweeping variant members report => exact .inr ⟨_, variant, members, report, rfl, found⟩
      | _ => cases isSweeping
  | _ => cases sweeps

theorem verdictAt?_of_not_mem {members : List Member}
    (absent : place ∉ members.map (Member.place variant)) :
    verdictAt? variant members place = none := by
  have missing : members.find? (fun member => member.place variant = place) = none := by
    rw [List.find?_eq_none]
    rintro member inside same
    exact absent (List.mem_map.mpr ⟨member, inside, of_decide_eq_true same⟩)
  rw [verdictAt?, missing]
  rfl

theorem verdictAt?_of_ne (other : place.variant ≠ variant) (members : List Member) :
    verdictAt? variant members place = none := by
  refine verdictAt?_of_not_mem fun inside => other ?_
  obtain ⟨member, -, rfl⟩ := List.mem_map.mp inside
  rfl

theorem learned?_of_ne (other : place.variant ≠ variant) (before after : List Member) :
    learned? variant before after place = none := by
  unfold learned?
  split
  · exact verdictAt?_of_ne other after
  · rfl

theorem managementVerdict?_of_ne (other : place.variant ≠ .management) (h : Hub)
    (devices : List Member) : h.managementVerdict? devices place = none := by
  unfold managementVerdict?
  split
  · rfl
  · exact verdictAt?_of_ne other _

/-- A sweep learns the result at a place among the devices or among the management clients, and not
among both. -/
theorem none_or_none (own : place.variant ≠ .device → verdict? = none) (mid : Hub)
    (devices : List Member) : verdict? = none ∨ mid.managementVerdict? devices place = none := by
  cases known : place.variant with
  | device => exact .inr (managementVerdict?_of_ne (by simp [known]) mid devices)
  | management => exact .inl (own (by simp [known]))

/-! ### Places with sessions -/

/-- There is a session of the variant and key of the place, on its connection. -/
def Seated (h : Hub) (place : Place) : Prop :=
  ∃ i s, h.session? i = some s ∧ s.variant = place.variant ∧ s.key = place.key ∧
    s.link = place.link

/-- The places are different, and each has a session. -/
structure Enrolled (h : Hub) (places : List Place) : Prop where
  distinct : places.Nodup
  seated : ∀ place ∈ places, h.Seated place

theorem Seated.persists (persists : h.Persists next) (seated : h.Seated place) :
    next.Seated place := by
  obtain ⟨i, s, here, variant, key, link⟩ := seated
  obtain ⟨s', there, same⟩ := persists.session here
  exact ⟨i, s', there, same.variant.trans variant, same.key.trans key, same.link.trans link⟩

theorem Enrolled.persists {places : List Place} (persists : h.Persists next)
    (enrolled : h.Enrolled places) : next.Enrolled places :=
  ⟨enrolled.distinct, fun place inside => (enrolled.seated place inside).persists persists⟩

/-- The places are different, and no other one than the place itself has its connection. -/
structure Sole (place : Place) (places : List Place) : Prop where
  distinct : places.Nodup
  clear : ∀ other ∈ places, other.link = place.link → other = place

/-- No other place has a session on the connection of the place. -/
def Alone (h : Hub) (place : Place) : Prop :=
  ∀ {other : Place}, h.Seated other → other.link = place.link → other = place

theorem Alone.of_persists (persists : h.Persists next) (alone : next.Alone place) :
    h.Alone place :=
  fun seated same => alone (seated.persists persists) same

/-- A place with a session is alone if its connection has no other session. -/
theorem Seated.alone (seated : h.Seated place) (few : h.dwellers place.link ≤ 1) :
    h.Alone place := by
  intro other seated' same
  obtain ⟨i, s, here, variant, key, link⟩ := seated
  obtain ⟨j, s', there, variant', key', link'⟩ := seated'
  obtain rfl := session_unique few here there link (link'.trans same)
  cases here.symm.trans there
  cases place
  cases other
  simp_all

theorem Enrolled.sole {places : List Place} (enrolled : h.Enrolled places)
    (alone : h.Alone place) : Sole place places :=
  ⟨enrolled.distinct, fun other inside same => alone (enrolled.seated other inside) same⟩

theorem seated_of_bound (sound : h.Sound)
    (bound : h.boundTo? place.variant place.key = some place.link) : h.Seated place := by
  obtain ⟨slot, there, link⟩ := Option.map_eq_some_iff.mp bound
  obtain ⟨s, here, variant, key, on⟩ := sound.slots there
  exact ⟨slot.session, s, here, variant, key, on.trans link⟩

/-- The connection of a session was accepted. -/
theorem Seated.link (seated : h.Seated place) (attached : h.Attached) :
    ∃ l, h.link? place.link = some l := by
  obtain ⟨i, s, here, -, -, on⟩ := seated
  exact Option.isSome_iff_exists.mp (on ▸ attached here)

theorem variant_of_mem_places (inside : place ∈ h.places variant) : place.variant = variant := by
  obtain ⟨entry, -, rfl⟩ := List.mem_map.mp inside
  rfl

/-- The places of a roster are different. -/
theorem Keyed.distinct (keyed : h.Keyed) : (h.places variant).Nodup := by
  have keys : (h.places variant).map Place.key = (h.roster variant).map Prod.fst := by
    rw [places, List.map_map]
    rfl
  exact List.Nodup.of_map Place.key (keys ▸ keyed variant)

/-- The places of a roster are different, and each has a session. -/
theorem enrolled_places (sound : h.Sound) (keyed : h.Keyed) (variant : Variant) :
    h.Enrolled (h.places variant) := by
  refine ⟨keyed.distinct, fun place inside => ?_⟩
  obtain ⟨entry, member, rfl⟩ := List.mem_map.mp inside
  obtain ⟨s, here, is⟩ := sound.slots (Table.get?_of_mem (keyed variant) member)
  exact ⟨entry.2.session, s, here, is⟩

/-- The places under a sweep are different, and each has a session. -/
theorem enrolled_of_run? {settings : Settings} {mark : Mark} {moves : List Move} {last : Hub}
    (run : (fresh settings mark).run? moves = some last) :
    ∀ task ∈ last.tasks, ∀ {variant members report},
      task.activity = .sweeping variant members report →
      last.Enrolled (members.map (Member.place variant)) := by
  -- Induction on the moves, the last one first.
  induction moves using List.reverseRecOn generalizing last with
  | nil =>
      cases run
      exact nofun
  | append_singleton moves move ih =>
      obtain ⟨mid, run', moved⟩ := run?_concat.mp run
      have persists := step?_persists moved
      intro task member variant members report sweeping
      rcases mem_tasks_of_step? (numbered_of_run? run') moved member with ⟨old, -⟩ | begets
      · exact (ih run' task old sweeping).persists persists
      · rcases begets.sweeps sweeping with begun | ⟨members', report', found, same⟩
        · rw [begun]
          have places := enrolled_places (sound_of_run? run') (keyed_of_run? run') variant
          exact places.persists persists
        · rw [same]
          exact (ih run' _ (List.mem_of_find?_eq_some found) rfl).persists persists

/-! ### Results of one roster -/

theorem isAwaited_of_not_mem {members : List Member}
    (absent : place ∉ members.map (Member.place variant)) :
    isAwaited variant members place = false := by
  rw [isAwaited, List.any_eq_false]
  intro member inside awaited
  rw [Bool.and_eq_true, decide_eq_true_eq] at awaited
  exact absent (List.mem_map.mpr ⟨member, inside, awaited.1⟩)

theorem isAwaited_of_ne (other : place.variant ≠ variant) (members : List Member) :
    isAwaited variant members place = false := by
  refine isAwaited_of_not_mem fun inside => other ?_
  obtain ⟨member, -, rfl⟩ := List.mem_map.mp inside
  rfl

/-- Nothing is awaited at any place if no member waits. -/
theorem isAwaited_of_none {members : List Member} (none : ¬members.any Member.isWaiting = true)
    (variant : Variant) (place : Place) : isAwaited variant members place = false := by
  rw [isAwaited, List.any_eq_false]
  intro member inside awaited
  rw [Bool.and_eq_true] at awaited
  exact none (List.any_eq_true.mpr ⟨member, inside, awaited.2⟩)

/-- There is a result at each place, or it is awaited. -/
theorem balance_members {members : List Member}
    (distinct : (members.map (Member.place variant)).Nodup)
    (inside : place ∈ members.map (Member.place variant)) :
    (verdictAt? variant members place).toList.length + (isAwaited variant members place).toNat =
      1 := by
  induction members with
  | nil => cases inside
  | cons member rest ih =>
      obtain ⟨new, distinct⟩ := List.nodup_cons.mp distinct
      by_cases here : member.place variant = place
      · have none : isAwaited variant rest place = false := isAwaited_of_not_mem (here ▸ new)
        have verdict : verdictAt? variant (member :: rest) place = member.verdict? := by
          simp [verdictAt?, here]
        have awaited : isAwaited variant (member :: rest) place = member.isWaiting := by
          unfold isAwaited at none ⊢
          simp [here, none]
        rw [verdict, awaited, Member.verdict?, Member.isWaiting]
        cases member.stage <;> rfl
      · have later : place ∈ rest.map (Member.place variant) :=
          (List.mem_cons.mp inside).resolve_left (Ne.symm here)
        have verdict : verdictAt? variant (member :: rest) place =
            verdictAt? variant rest place := by
          simp [verdictAt?, here]
        have awaited : isAwaited variant (member :: rest) place = isAwaited variant rest place := by
          simp [isAwaited, here]
        rw [verdict, awaited]
        exact ih distinct later

/-- Every place of a roster has its result when its sweep has begun, or this is awaited. -/
theorem balance_beginRoster (distinct : (h.places variant).Nodup)
    (inside : place.variant = variant → place ∈ h.places variant) :
    (verdictAt? variant (h.beginRoster variant).2 place).toList.length +
      (isAwaited variant (h.beginRoster variant).2 place).toNat =
        (decide (place.variant = variant)).toNat := by
  by_cases own : place.variant = variant
  · rw [decide_eq_true own]
    refine balance_members ?_ ?_ <;> rw [places_beginRoster]
    · exact distinct
    · exact inside own
  · rw [decide_eq_false own, verdictAt?_of_ne own, isAwaited_of_ne own]
    rfl

/-- A member that waits waited before. -/
theorem isAwaited_resumeMembers {members : List Member} (h : Hub)
    (awaited : isAwaited variant
      (eachMember (fun h member => h.resumeMember variant member) h members).2 place = true) :
    isAwaited variant members place = true := by
  have waited (h : Hub) (member : Member)
      (waits : (h.resumeMember variant member).2.isWaiting = true) : member.isWaiting = true := by
    unfold resumeMember Member.isWaiting at *
    cases stage : member.stage with
    | done => simp [stage] at waits
    | waiting => rfl
  induction members generalizing h with
  | nil => cases awaited
  | cons member rest ih =>
      simp only [isAwaited, eachMember, List.any_cons, Bool.or_eq_true, Bool.and_eq_true,
        decide_eq_true_eq, place_resumeMember] at awaited ih ⊢
      rcases awaited with ⟨here, waits⟩ | later
      · exact .inl ⟨here, waited h member waits⟩
      · exact .inr (ih _ later)

/-- What a sweep awaits at a place it learns, or awaits it still. -/
theorem balance_resumeMembers {members : List Member}
    (distinct : (members.map (Member.place variant)).Nodup) (h : Hub) (place : Place) :
    (learned? variant members
        (eachMember (fun h member => h.resumeMember variant member) h members).2
        place).toList.length +
      (isAwaited variant
        (eachMember (fun h member => h.resumeMember variant member) h members).2 place).toNat =
        (isAwaited variant members place).toNat := by
  unfold learned?
  cases before : isAwaited variant members place with
  | true =>
      have inside : place ∈ members.map (Member.place variant) := by
        by_contra absent
        rw [isAwaited_of_not_mem absent] at before
        cases before
      rw [if_pos rfl]
      refine balance_members ?_ ?_ <;> rw [places_resumeMembers]
      · exact distinct
      · exact inside
  | false =>
      have after := mt (isAwaited_resumeMembers h) (Bool.eq_false_iff.mp before)
      rw [Bool.eq_false_iff.mpr after]
      rfl

/-! ### What sweeps have yet to learn -/

/-- How many tasks have yet to learn the result at the place. -/
def due (h : Hub) (place : Place) : Nat := h.tasks.countP fun task => task.activity.owes place

theorem due_congr (tasks : next.tasks = h.tasks) (place : Place) :
    next.due place = h.due place := by
  rw [due, due, tasks]

theorem due_suspend (h : Hub) (id : Nat) (activity : Activity) (place : Place) :
    (h.suspend id activity).due place = h.due place + (activity.owes place).toNat := by
  rw [due, due, suspend, List.countP_append, List.countP_singleton]
  cases activity.owes place <;> rfl

theorem due_countEvicted (h : Hub) (members : List Member) (place : Place) :
    (h.countEvicted members).due place = h.due place := by
  obtain ⟨counters, same⟩ := countEvicted_eq h members
  rw [same]
  rfl

/-- The task that a move is a step of owes nothing while it is taken up. -/
theorem due_apart (numbered : h.Numbered) (move : Move) (place : Place) :
    h.due place = (h.apart move).due place +
      ((move.task?.bind h.task?).any fun task => task.activity.owes place).toNat := by
  unfold due
  rw [(tasks_apart numbered move).countP_eq, List.countP_append, Nat.add_comm]
  cases move.task?.bind h.task? with
  | none => rfl
  | some task =>
      rw [Option.toList_some, List.countP_singleton, Option.any_some]
      cases task.activity.owes place <;> rfl

/-! ### One result for each sweep -/

theorem due_sweepManagement (h : Hub) (id : Nat) (members : List Member) (report : SweepReport)
    (place : Place) :
    (h.sweepManagement id members report).due place =
      h.due place + (isAwaited .management members place).toNat := by
  unfold sweepManagement
  split
  · rw [due_suspend, Activity.owes, decide_eq_false nofun, Bool.or_false]
  · next none =>
    rw [isAwaited_of_none none]
    exact due_countEvicted h members place

/-- What is owed while a sweep is at the devices: the result among these, or the one among the
management clients. -/
theorem toNat_owes (members : List Member) (report : SweepReport) (place : Place) :
    ((Activity.sweeping .device members report).owes place).toNat =
      (isAwaited .device members place).toNat + (decide (place.variant = .management)).toNat := by
  cases known : place.variant with
  | device => simp [Activity.owes, known]
  | management => simp [Activity.owes, known, isAwaited_of_ne]

/-- A sweep that is at the devices learns the result at a place of the management clients with the
move, or owes it still. -/
theorem balance_sweepDevices (distinct : (h.places .management).Nodup)
    (inside : place.variant = .management → place ∈ h.places .management) (id : Nat)
    (devices : List Member) (report : SweepReport) :
    (h.managementVerdict? devices place).toList.length +
        (h.sweepDevices id devices report).due place =
      h.due place + (isAwaited .device devices place).toNat +
        (decide (place.variant = .management)).toNat := by
  unfold managementVerdict? sweepDevices
  split
  · rw [due_suspend, toNat_owes, Option.toList_none, List.length_nil]
    omega
  · next none =>
    have same := places_countEvicted h devices .management
    have begun := balance_beginRoster (same ▸ distinct) (same ▸ inside)
    have tasks := due_congr (Quiet.tasks (quiet_beginRoster (h.countEvicted devices) .management)).1
      place
    rw [due_countEvicted] at tasks
    dsimp only
    rw [due_sweepManagement, tasks, isAwaited_of_none none, Bool.toNat_false]
    omega

/-- What a sweep learns of two rosters, one of them without the place. -/
theorem length_or_managementVerdict? (own : place.variant ≠ .device → verdict? = none) (h : Hub)
    (devices : List Member) :
    (verdict?.or (h.managementVerdict? devices place)).toList.length =
      verdict?.toList.length + (h.managementVerdict? devices place).toList.length := by
  rcases none_or_none own h devices with none | none <;> simp [none]

/-- A sweep that begins learns the result at a place of its rosters, or owes it. -/
theorem balance_beginSweep (distinct : ∀ variant, (h.places variant).Nodup)
    (inside : place ∈ h.places place.variant) :
    (h.verdictOn? place .sweeping).toList.length + h.beginSweep.1.due place = h.due place + 1 := by
  have own {variant : Variant} (is : place.variant = variant) : place ∈ h.places variant :=
    is ▸ inside
  have same : (h.newTask.1.beginRoster .device).1.places .management = h.places .management :=
    places_congr (roster_beginRoster_of_ne (by decide) h.newTask.1)
  have devices := balance_beginRoster (h := h.newTask.1) (distinct .device) own
  have management := balance_sweepDevices (same ▸ distinct .management) (same ▸ own) h.nextTask
    (h.newTask.1.beginRoster .device).2 {}
  have tasks : (h.newTask.1.beginRoster .device).1.due place = h.due place :=
    due_congr (Quiet.tasks (quiet_beginRoster h.newTask.1 .device)).1 place
  have both : (h.verdictOn? place .sweeping).toList.length =
      (verdictAt? .device (h.newTask.1.beginRoster .device).2 place).toList.length +
        ((h.newTask.1.beginRoster .device).1.managementVerdict?
          (h.newTask.1.beginRoster .device).2 place).toList.length :=
    length_or_managementVerdict? (fun other => verdictAt?_of_ne other _) _ _
  have one : (decide (place.variant = .device)).toNat +
      (decide (place.variant = .management)).toNat = 1 := by
    cases place.variant <;> rfl
  have begun : h.beginSweep.1 = (h.newTask.1.beginRoster .device).1.sweepDevices h.nextTask
    (h.newTask.1.beginRoster .device).2 {} := rfl
  rw [begun]
  omega

/-- A sweep that goes on learns what it owes at a place, or owes it still. -/
theorem balance_resumeSweep {members : List Member}
    (distinct : (members.map (Member.place variant)).Nodup)
    (distinct' : (h.places .management).Nodup)
    (inside : place.variant = .management → place ∈ h.places .management) (id : Nat)
    (report : SweepReport) :
    (h.resumedVerdict? variant members place).toList.length +
        (h.resumeSweep id variant members report).due place =
      h.due place + ((Activity.sweeping variant members report).owes place).toNat := by
  have quiet : Quiet True h
      (eachMember (fun h member => h.resumeMember variant member) h members).1 :=
    quiet_eachMember (fun h member => quiet_resumeMember h variant member) h members
  have learns := balance_resumeMembers distinct h place
  have tasks := due_congr (Quiet.tasks quiet).1 place
  unfold resumedVerdict? resumeSweep
  generalize resumed :
    eachMember (fun h member => h.resumeMember variant member) h members = after at learns tasks ⊢
  obtain ⟨mid, after⟩ := after
  cases variant with
  | management =>
      dsimp only at learns tasks ⊢
      rw [Option.or_none, due_sweepManagement, Activity.owes, decide_eq_false nofun, Bool.or_false]
      omega
  | device =>
      have other : Variant.management ≠ .device := by decide
      have roster := roster_resumeMembers_of_ne other h members
      rw [resumed] at roster
      have same : mid.places .management = h.places .management := places_congr roster
      have management := balance_sweepDevices (same ▸ distinct') (same ▸ inside) id after report
      dsimp only at learns tasks ⊢
      rw [toNat_owes, length_or_managementVerdict? fun other => learned?_of_ne other members after]
      omega

/-- The move begins a sweep. -/
def Move.beginsSweep : Move → Bool
  | .sweeping => true
  | _ => false

theorem mem_places_of_bound (bound : h.boundTo? place.variant place.key = some place.link) :
    place ∈ h.places place.variant := by
  obtain ⟨slot, there, link⟩ := Option.map_eq_some_iff.mp bound
  exact List.mem_map.mpr ⟨(place.key, slot), mem_entries there, by rw [link]⟩

variable {settings : Settings} {mark : Mark} {moves : List Move} {move : Move}

/-- **Every sweep learns one result at a place that stays in its roster**: a move that begins a
sweep learns it or has it owed, and what is owed the sweep learns or owes still. -/
theorem balance_of_sweep (run : (fresh settings mark).run? moves = some h)
    (bound : h.boundTo? place.variant place.key = some place.link)
    (moved : h.step? move = some next) (sweeps : h.isSweep move = true) :
    (h.verdictOn? place move).toList.length + next.due place =
      h.due place + (Move.beginsSweep move).toNat := by
  have rosters (variant : Variant) : (h.places variant).Nodup := (keyed_of_run? run).distinct
  have inside := mem_places_of_bound bound
  rcases sweeping_of_isSweep sweeps with rfl | ⟨id, variant, members, report, rfl, found⟩
  · cases moved
    exact balance_beginSweep rosters inside
  · obtain ⟨task, found', -, rfl⟩ := resumed moved
    cases found.symm.trans found'
    have distinct := (enrolled_of_run? run _ (List.mem_of_find?_eq_some found) rfl).distinct
    have among : place.variant = .management → place ∈ (h.detach id).places .management :=
      fun is => is ▸ inside
    have resumes := balance_resumeSweep (h := h.detach id) distinct (rosters .management) among id
      report
    have taken : (Move.resume id).task?.bind h.task? =
        some ⟨id, .sweeping variant members report⟩ := found
    rw [verdictOn?_resume found, due_apart (numbered_of_run? run) (.resume id), taken]
    exact resumes

/-- The move gives up a sweep that waits. -/
def abandons (h : Hub) : Move → Bool
  | .cancel id => (h.task? id).any fun task => task.activity.isSweeping
  | _ => false

/-- A move that is no step of a sweep and does not give one up takes up none. -/
theorem isSweeping_of_taken (moved : h.step? move = some next) (other : h.isSweep move = false)
    (goesOn : h.abandons move = false) {task : Task}
    (taken : move.task?.bind h.task? = some task) : task.activity.isSweeping = false := by
  obtain ⟨id, takes, found⟩ := Option.bind_eq_some_iff.mp taken
  cases move <;> cases takes
  case cancel =>
    rw [abandons, found] at goesOn
    exact goesOn
  case resume =>
    rw [isSweep, found] at other
    exact other
  case directoryAnswers =>
    obtain ⟨link, target, guard, found', -⟩ := resolved moved
    cases found.symm.trans found'
    rfl
  case executorAnswers =>
    obtain ⟨session, _, request, guard, found', -⟩ := executed moved
    cases found.symm.trans found'
    rfl

theorem not_owes {activity : Activity} (idle : activity.isSweeping = false) (place : Place) :
    activity.owes place = false := by
  cases activity <;> first | rfl | cases idle

theorem verdictOn?_of_not_sweep (other : h.isSweep move = false) (place : Place) :
    h.verdictOn? place move = none := by
  cases move with
  | sweeping => cases other
  | resume id =>
      rw [verdictOn?]
      cases found : h.task? id with
      | none => rfl
      | some task =>
          rw [isSweep, found, Option.any_some] at other
          rw [Option.bind_some]
          split
          · next sweeping =>
            rw [sweeping] at other
            cases other
          · rfl
  | _ => rfl

/-- What a sweep owes it owes still after another move, unless this gives it up. -/
theorem due_of_step? (numbered : h.Numbered) (moved : h.step? move = some next)
    (other : h.isSweep move = false) (goesOn : h.abandons move = false) (place : Place) :
    next.due place = h.due place := by
  obtain ⟨added, turnover⟩ := step?_tasks numbered moved
  have new : added.toList.countP (fun task => task.activity.owes place) = 0 := by
    rw [List.countP_eq_zero]
    intro task inside owes
    have begets := turnover.begets task (Option.mem_toList.mp inside)
    cases sweeping : task.activity.isSweeping with
    | true => exact Bool.false_ne_true (other.symm.trans (begets.swept sweeping))
    | false => exact Bool.false_ne_true ((not_owes sweeping place).symm.trans owes)
  have taken : ((move.task?.bind h.task?).any fun task => task.activity.owes place) = false := by
    cases known : move.task?.bind h.task? with
    | none => rfl
    | some task => exact not_owes (isSweeping_of_taken moved other goesOn known) place
  rw [due_apart numbered move place, taken]
  unfold due
  rw [turnover.tasks, List.countP_append, new]
  rfl

end Hub

end StationHub

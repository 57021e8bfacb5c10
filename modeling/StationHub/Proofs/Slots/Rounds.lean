import StationHub.Proofs.Slots.Tallies

/-!
How far sweeps are, and the books of their moves.

* `resultsAt`: the results that a part of a sweep learns; `results_findings`,
  `results_learnedFindings`: they are those of what it finds.
* `Round`, `Round.Passes`: how far a sweep is, and how it goes on.
* `Advances`: the books of a part of a sweep; `Brings`: its task waits, or has come to its end.
* `advances_beginSweep`, `advances_resumeSweep`: the moves of sweeps keep the books.
-/

namespace StationHub

namespace Hub

variable {h mid next : Hub} {variant : Variant} {place : Place} {first second new : List Finding}
  {gone gone' : Nat} {id : Nat}

/-! ### Results -/

/-- The results at the places where there is one. -/
def resultsAt (verdict? : Place → Option Bool) (places : List Place) : List (Place × Bool) :=
  places.filterMap fun place => (verdict? place).map (place, ·)

theorem mem_resultsAt {verdict? : Place → Option Bool} {places : List Place} {alive : Bool} :
    (place, alive) ∈ resultsAt verdict? places ↔ place ∈ places ∧ verdict? place = some alive := by
  simp [resultsAt]

theorem resultsAt_append (verdict? : Place → Option Bool) (places others : List Place) :
    resultsAt verdict? (places ++ others) =
      resultsAt verdict? places ++ resultsAt verdict? others := List.filterMap_append

theorem resultsAt_congr {verdict? verdict?' : Place → Option Bool} {places : List Place}
    (same : ∀ place ∈ places, verdict? place = verdict?' place) :
    resultsAt verdict? places = resultsAt verdict?' places :=
  List.filterMap_congr fun place inside => by rw [same place inside]

theorem result_finding? (variant : Variant) (member : Member) :
    (member.finding? variant).map Finding.result =
      member.verdict?.map (member.place variant, ·) := by
  unfold Member.finding? Member.verdict?
  cases member.stage <;> rfl

section Places

variable {members : List Member} (distinct : (members.map (Member.place variant)).Nodup)
  {member : Member} (inside : member ∈ members)
include distinct

include inside in
theorem verdictAt?_of_mem :
    verdictAt? variant members (member.place variant) = member.verdict? := by
  unfold verdictAt?
  cases found : members.find? fun other => other.place variant = member.place variant with
  | none => simpa using List.find?_eq_none.mp found member inside
  | some other =>
      have same : other.place variant = member.place variant := by
        simpa using List.find?_some found
      have is := List.inj_on_of_nodup_map distinct (List.mem_of_find?_eq_some found) inside same
      rw [is]
      rfl

include inside in
theorem isAwaited_of_mem :
    isAwaited variant members (member.place variant) = member.isWaiting := by
  rw [isAwaited, Bool.eq_iff_iff, List.any_eq_true]
  constructor
  · rintro ⟨other, among, waits⟩
    rw [Bool.and_eq_true, decide_eq_true_eq] at waits
    exact List.inj_on_of_nodup_map distinct among inside waits.1 ▸ waits.2
  · intro waits
    exact ⟨member, inside, by rw [waits, decide_eq_true rfl]; rfl⟩

theorem results_findings :
    (findings variant members).map Finding.result =
      resultsAt (verdictAt? variant members) (members.map (Member.place variant)) := by
  rw [findings, List.map_filterMap, resultsAt, List.filterMap_map]
  refine List.filterMap_congr fun member inside => ?_
  rw [result_finding?, Function.comp_apply, verdictAt?_of_mem distinct inside]

theorem results_learnedFindings (h : Hub) :
    (learnedFindings variant members
        (eachMember (fun h member => h.resumeMember variant member) h members).2).map
        Finding.result =
      resultsAt (learned? variant members
        (eachMember (fun h member => h.resumeMember variant member) h members).2)
        (members.map (Member.place variant)) := by
  have lengths := length_eachMember (fun h (member : Member) => h.resumeMember variant member) h
    members
  have places := places_resumeMembers h variant members
  have firsts := List.map_fst_zip (Nat.le_of_eq lengths.symm)
  rw [learnedFindings, List.map_filterMap, resultsAt]
  conv => rhs; arg 2; rw [← firsts]
  rw [List.map_map, List.filterMap_map]
  refine List.filterMap_congr fun pair inside => ?_
  obtain ⟨first, second⟩ := List.of_mem_zip inside
  obtain ⟨mid, goesOn⟩ := mem_zip_eachMember h inside
  have here : pair.2.place variant = pair.1.place variant := by
    rw [goesOn, place_resumeMember]
  have verdict := verdictAt?_of_mem (places ▸ distinct) second
  rw [here] at verdict
  rw [Function.comp_apply, Function.comp_apply, learned?, isAwaited_of_mem distinct first, verdict]
  cases pair.1.isWaiting with
  | false => rfl
  | true =>
      rw [if_pos rfl, if_pos rfl, result_finding?, here]

end Places

theorem results_beginRoster (keyed : h.Keyed) (variant : Variant) :
    (findings variant (h.beginRoster variant).2).map Finding.result =
      resultsAt (verdictAt? variant (h.beginRoster variant).2) (h.places variant) := by
  rw [← places_beginRoster]
  refine results_findings ?_
  rw [places_beginRoster]
  exact keyed.distinct

/-! ### How far a sweep is -/

/-- How far a sweep is: the roster that it is at, with its members, and the report of those swept
before. -/
structure Round where
  variant : Variant
  members : List Member
  report : SweepReport

namespace Round

/-- What is found, and not in the report yet. -/
def findings (round : Round) : List Finding := StationHub.findings round.variant round.members

def places (round : Round) : List Place := round.members.map (Member.place round.variant)

variable {round round' round'' : Round} {entries entries' : List Place}

/-- A sweep that is at `round` begins to probe the `entries`, has found what is `new`, and is at
`round'` then: what was found is taken into the report, or is found of the members of the roster. -/
def Passes (round : Round) (entries : List Place) (new : List Finding) (round' : Round) : Prop :=
  ∃ closed, (round.findings ++ new).Perm (closed ++ round'.findings) ∧
    (round.places ++ entries).Perm (closed.map Finding.place ++ round'.places) ∧
    round'.report = round.report.add closed

theorem passes_of_report (found : (round.findings ++ new).Perm round'.findings)
    (looked : (round.places ++ entries).Perm round'.places) (same : round'.report = round.report) :
    round.Passes entries new round' := ⟨[], found, looked, same⟩

theorem Passes.refl (round : Round) : round.Passes [] [] round :=
  passes_of_report (by simp) (by simp) rfl

theorem Passes.trans (left : round.Passes entries first round')
    (right : round'.Passes entries' second round'') :
    round.Passes (entries ++ entries') (first ++ second) round'' := by
  obtain ⟨closed, found, looked, report⟩ := left
  obtain ⟨closed', found', looked', report'⟩ := right
  refine ⟨closed ++ closed', ?_, ?_, ?_⟩
  · rw [← List.append_assoc, List.append_assoc closed]
    refine (found.append_right second).trans ?_
    rw [List.append_assoc]
    exact found'.append_left closed
  · rw [← List.append_assoc, List.map_append, List.append_assoc (closed.map _)]
    refine (looked.append_right entries').trans ?_
    rw [List.append_assoc]
    exact looked'.append_left _
  · rw [report', report, SweepReport.add_append]

end Round

variable {round round' round'' : Round} {entries entries' : List Place}

/-- The books of a part of a sweep. It begins to probe the `entries`, and has found what is `new`.
-/
structure Advances (h : Hub) (round : Round) (entries : List Place) (new : List Finding)
    (next : Hub) (round' : Round) : Prop where
  passes : round.Passes entries new round'
  pingFailures : next.counters.counted .pingFailure +
      entries.countP (fun place => !h.isAlive place.link) =
    h.counters.counted .pingFailure + new.countP Finding.failed
  registrations : next.registrations + new.countP Finding.evicted = h.registrations
  /-- Evictions are counted when they are taken into the report. -/
  evicted : next.counters.counted .evicted + round.report.evicted =
    h.counters.counted .evicted + round'.report.evicted
  failed : ∀ finding ∈ new, finding.evicted = true → finding.failed = true

theorem Advances.trans (left : Advances h round entries first mid round')
    (right : Advances mid round' entries' second next round'')
    (alive : ∀ i, mid.isAlive i = h.isAlive i) :
    Advances h round (entries ++ entries') (first ++ second) next round'' := by
  have failures := left.pingFailures
  have failures' := right.pingFailures
  have rosters := left.registrations
  have rosters' := right.registrations
  have evictions := left.evicted
  have evictions' := right.evicted
  simp only [alive] at failures'
  refine ⟨left.passes.trans right.passes, ?_, ?_, ?_,
    List.forall_mem_append.mpr ⟨left.failed, right.failed⟩⟩
  · rw [List.countP_append, List.countP_append]
    omega
  · rw [List.countP_append]
    omega
  · omega

theorem Advances.after (left : Advances h round [] [] mid round')
    (right : Advances mid round' entries new next round'')
    (alive : ∀ i, mid.isAlive i = h.isAlive i) : Advances h round entries new next round'' :=
  left.trans right alive

theorem Advances.before (left : Advances h round entries new mid round')
    (right : Advances mid round' [] [] next round'')
    (alive : ∀ i, mid.isAlive i = h.isAlive i) : Advances h round entries new next round'' := by
  have both := left.trans right alive
  rwa [List.append_nil, List.append_nil] at both

/-- What is found and recorded while the report stays as it is. -/
theorem Records.advances (records : Records gone new h next)
    (counts : entries.countP (fun place => !h.isAlive place.link) = gone)
    (found : (round.findings ++ new).Perm round'.findings)
    (looked : (round.places ++ entries).Perm round'.places) (same : round'.report = round.report) :
    Advances h round entries new next round' where
  passes := Round.passes_of_report found looked same
  pingFailures := counts ▸ records.pingFailures
  registrations := records.registrations
  evicted := by rw [records.evicted, same]
  failed := records.failed

/-- Nothing happens that concerns the books. -/
theorem advances_of_eq (counters : next.counters = h.counters)
    (rosters : ∀ variant, next.roster variant = h.roster variant) (round : Round) :
    Advances h round [] [] next round :=
  (records_of_eq counters rosters).advances rfl (by simp) (by simp) rfl

theorem advances_suspend (h : Hub) (id : Nat) (activity : Activity) (round : Round) :
    Advances h round [] [] (h.suspend id activity) round := by
  have counters : (h.suspend id activity).counters = h.counters := rfl
  exact advances_of_eq counters (fun variant => by cases variant <;> rfl) round

theorem advances_conclude (h : Hub) (id : Nat) (outcome : TaskOutcome) (round : Round) :
    Advances h round [] [] (h.conclude id outcome) round := by
  have counters : (h.conclude id outcome).counters = h.counters := rfl
  exact advances_of_eq counters (fun variant => by cases variant <;> rfl) round

/-- The sweep of a roster begins. -/
theorem advances_beginRoster (keyed : h.Keyed) (variant' variant : Variant)
    (report : SweepReport) :
    Advances h ⟨variant', [], report⟩ (h.places variant)
      (findings variant (h.beginRoster variant).2) (h.beginRoster variant).1
      ⟨variant, (h.beginRoster variant).2, report⟩ := by
  refine (records_beginRoster keyed variant).advances rfl (.refl _) ?_ rfl
  change (h.places variant).Perm ((h.beginRoster variant).2.map (Member.place variant))
  rw [places_beginRoster]

/-- The members of a roster go on. -/
theorem advances_resumeMembers (keyed : h.Keyed) (variant : Variant) (members : List Member)
    (report : SweepReport) :
    Advances h ⟨variant, members, report⟩ []
      (learnedFindings variant members
        (eachMember (fun h member => h.resumeMember variant member) h members).2)
      (eachMember (fun h member => h.resumeMember variant member) h members).1
      ⟨variant, (eachMember (fun h member => h.resumeMember variant member) h members).2,
        report⟩ := by
  refine (records_resumeMembers keyed variant members).advances rfl
    (perm_findings h variant members).symm ?_ rfl
  rw [Round.places, Round.places, places_resumeMembers, List.append_nil]

/-- What was found of all members of a roster is taken into the report. -/
theorem advances_countEvicted {members : List Member}
    (none : ¬members.any Member.isWaiting = true) (variant : Variant) (report : SweepReport) :
    Advances h ⟨variant, members, report⟩ [] [] (h.countEvicted members)
      ⟨variant, [], addMembers report members⟩ := by
  have counts : Counts (.evicted = ·) h (h.countEvicted members) :=
    counts_countEvicted rfl h members
  have failures : (h.countEvicted members).counters.counted .pingFailure =
      h.counters.counted .pingFailure :=
    counts.counted_eq _ (by decide)
  have report_eq := addMembers_eq report members variant
  refine ⟨⟨findings variant members, ?_, ?_, report_eq⟩, ?_, ?_, ?_, nofun⟩
  · change (findings variant members ++ []).Perm (findings variant members ++ [])
    exact .refl _
  · rw [findings_of_none none]
    exact .refl _
  · rw [failures]
    rfl
  · exact registrations_congr (roster_countEvicted h members)
  · rw [counted_countEvicted h members variant, report_eq]
    exact (Nat.add_right_comm _ _ _).trans (Nat.add_assoc _ _ _)

/-- Task number `id` of a sweep waits, or has come to its end. -/
inductive Brings (id : Nat) (h next : Hub) : Round → Prop where
  | waits (round : Round) :
      next.tasks = h.tasks ++ [⟨id, .sweeping round.variant round.members round.report⟩] →
      next.finished = h.finished → Brings id h next round
  | ends (report : SweepReport) : next.tasks = h.tasks →
      next.finished = h.finished ++ [(id, .swept report)] →
      Brings id h next ⟨.management, [], report⟩

theorem Brings.congr (brings : Brings id mid next round) (tasks : mid.tasks = h.tasks)
    (finished : mid.finished = h.finished) : Brings id h next round := by
  cases brings with
  | waits round after kept => exact .waits round (tasks ▸ after) (kept.trans finished)
  | ends report after ended => exact .ends report (after.trans tasks) (finished ▸ ended)

theorem Brings.after (quiet : Quiet True h mid) (brings : Brings id mid next round) :
    Brings id h next round := by
  obtain ⟨tasks, -, finished⟩ := Quiet.tasks quiet
  exact brings.congr tasks finished

/-! ### Moves of sweeps -/

theorem advances_sweepManagement (h : Hub) (id : Nat) (members : List Member)
    (report : SweepReport) :
    ∃ round, Advances h ⟨.management, members, report⟩ [] []
        (h.sweepManagement id members report) round ∧
      Brings id h (h.sweepManagement id members report) round ∧ round.variant = .management := by
  unfold sweepManagement
  split
  · exact ⟨⟨.management, members, report⟩, advances_suspend h id _ _, .waits _ rfl rfl, rfl⟩
  · next none =>
    refine ⟨_, (advances_countEvicted none .management report).after (advances_conclude _ id _ _)
      (isAlive_countEvicted h members), ?_, rfl⟩
    exact .after (quiet_countEvicted h members) (.ends _ rfl rfl)

/-- The sweep of the devices goes on, or moves on to the management clients. -/
theorem advances_sweepDevices (keyed : h.Keyed) (id : Nat) (devices : List Member)
    (report : SweepReport) :
    ∃ new round, Advances h ⟨.device, devices, report⟩ (h.managementEntries devices) new
        (h.sweepDevices id devices report) round ∧
      Brings id h (h.sweepDevices id devices report) round ∧
      new.map Finding.result =
        resultsAt (h.managementVerdict? devices) (h.managementEntries devices) ∧
      h.managementEntries devices =
        if round.variant = .device then [] else h.places .management := by
  unfold sweepDevices managementEntries
  split
  · exact ⟨[], ⟨.device, devices, report⟩, advances_suspend h id _ _, .waits _ rfl rfl, rfl, rfl⟩
  · next none =>
    have counting : Quiet True h (h.countEvicted devices) := quiet_countEvicted h devices
    have beginning : Quiet True (h.countEvicted devices) _ := quiet_beginRoster _ .management
    have keyed' := keyed.quiet counting
    have same := places_countEvicted h devices .management
    have begun := advances_beginRoster keyed' .device .management (addMembers report devices)
    have learned := results_beginRoster keyed' .management
    rw [same] at learned begun
    obtain ⟨round, rest, brings, variant⟩ := advances_sweepManagement
      ((h.countEvicted devices).beginRoster .management).1 id
      ((h.countEvicted devices).beginRoster .management).2 (addMembers report devices)
    refine ⟨findings .management ((h.countEvicted devices).beginRoster .management).2, round, ?_,
      .after (counting.trans beginning) brings, ?_, by rw [variant]; rfl⟩
    · exact (advances_countEvicted none .device report).after
        (begun.before rest (isAlive_beginRoster _ .management))
        (isAlive_countEvicted h devices)
    · rw [learned]
      refine resultsAt_congr fun place _ => ?_
      rw [managementVerdict?, if_neg none]

/-- Results at places of two rosters. -/
theorem resultsAt_or {verdict? verdict?' : Place → Option Bool} {places others : List Place}
    (first : ∀ place ∈ places, verdict?' place = none)
    (second : ∀ place ∈ others, verdict? place = none) :
    resultsAt (fun place => (verdict? place).or (verdict?' place)) (places ++ others) =
      resultsAt verdict? places ++ resultsAt verdict?' others := by
  rw [resultsAt_append]
  congr 1
  · exact resultsAt_congr fun place inside => by rw [first place inside, Option.or_none]
  · exact resultsAt_congr fun place inside => by rw [second place inside, Option.none_or]

theorem variant_of_mem_managementEntries {devices : List Member}
    (inside : place ∈ h.managementEntries devices) : place.variant = .management := by
  rcases managementEntries_cases h devices with none | all
  · rw [none] at inside
    cases inside
  · exact variant_of_mem_places (all ▸ inside)

/-- A sweep begins. -/
theorem advances_beginSweep (keyed : h.Keyed) :
    ∃ new round, Advances h ⟨.device, [], {}⟩ (h.lookedAt .sweeping) new h.beginSweep.1 round ∧
      Brings h.nextTask h h.beginSweep.1 round ∧
      new.map Finding.result = resultsAt (h.verdictOn? · .sweeping) (h.lookedAt .sweeping) ∧
      h.lookedAt .sweeping = h.places .device ++
        if round.variant = .device then [] else h.places .management := by
  have keyed₁ : h.newTask.1.Keyed := keyed
  have beginning : Quiet True h.newTask.1 (h.newTask.1.beginRoster .device).1 :=
    quiet_beginRoster h.newTask.1 .device
  have numbered : Advances h ⟨.device, [], {}⟩ [] [] h.newTask.1 ⟨.device, [], {}⟩ := by
    have counters : h.newTask.1.counters = h.counters := rfl
    exact advances_of_eq counters (fun variant => by cases variant <;> rfl) _
  have begun := advances_beginRoster keyed₁ .device .device {}
  have learned := results_beginRoster keyed₁ .device
  obtain ⟨new, round, rest, brings, results, devices⟩ := advances_sweepDevices
    (keyed₁.quiet beginning) h.nextTask (h.newTask.1.beginRoster .device).2 {}
  have goesOn := begun.trans rest (isAlive_beginRoster h.newTask.1 .device)
  refine ⟨_, round, numbered.after goesOn fun _ => rfl, (brings.after beginning).congr rfl rfl,
    ?_, ?_⟩
  · rw [List.map_append, learned, results]
    refine (resultsAt_or (fun place inside => ?_) fun place inside => ?_).symm
    · exact managementVerdict?_of_ne (by rw [variant_of_mem_places inside]; decide) _ _
    · exact verdictAt?_of_ne (by rw [variant_of_mem_managementEntries inside]; decide) _
  · have same : (h.newTask.1.beginRoster .device).1.places .management = h.places .management :=
      places_congr (roster_beginRoster_of_ne (by decide) h.newTask.1)
    rw [same] at devices
    change h.newTask.1.places .device ++ (h.newTask.1.beginRoster .device).1.managementEntries
      (h.newTask.1.beginRoster .device).2 = _
    rw [devices]
    rfl

/-- A sweep that waits goes on. -/
theorem advances_resumeSweep (keyed : h.Keyed) {members : List Member}
    (distinct : (members.map (Member.place variant)).Nodup) (id : Nat) (report : SweepReport) :
    ∃ new round, Advances h ⟨variant, members, report⟩ (h.resumedEntries variant members) new
        (h.resumeSweep id variant members report) round ∧
      Brings id h (h.resumeSweep id variant members report) round ∧
      new.map Finding.result = resultsAt (h.resumedVerdict? variant members)
        (members.map (Member.place variant) ++ h.resumedEntries variant members) ∧
      (round.variant = .device → variant = .device) ∧ h.resumedEntries variant members =
        if variant = .device ∧ round.variant ≠ .device then h.places .management else [] := by
  have resuming : Quiet True h
      (eachMember (fun h member => h.resumeMember variant member) h members).1 :=
    quiet_eachMember (fun h member => quiet_resumeMember h variant member) h members
  have resumed := advances_resumeMembers keyed variant members report
  have learned := results_learnedFindings distinct h
  have alive := isAlive_resumeMembers h variant members
  have own : ∀ place ∈ members.map (Member.place variant), place.variant = variant := by
    intro place inside
    obtain ⟨member, -, rfl⟩ := List.mem_map.mp inside
    rfl
  unfold resumeSweep resumedEntries resumedVerdict?
  cases variant with
  | management =>
      obtain ⟨round, rest, brings, variant⟩ := advances_sweepManagement
        (eachMember (fun h member => h.resumeMember .management member) h members).1 id
        (eachMember (fun h member => h.resumeMember .management member) h members).2 report
      refine ⟨_, round, resumed.before rest alive, .after resuming brings, ?_,
        fun device => variant.symm.trans device, by simp⟩
      rw [learned, List.append_nil]
      exact resultsAt_congr fun place _ => (Option.or_none).symm
  | device =>
      obtain ⟨new, round, rest, brings, results, devices⟩ := advances_sweepDevices
        (keyed.quiet resuming) id
        (eachMember (fun h member => h.resumeMember .device member) h members).2 report
      refine ⟨_, round, resumed.trans rest alive, .after resuming brings, ?_, fun _ => rfl, ?_⟩
      · rw [List.map_append, learned, results]
        refine (resultsAt_or (fun place inside => ?_) fun place inside => ?_).symm
        · exact managementVerdict?_of_ne (by rw [own place inside]; decide) _ _
        · exact learned?_of_ne (by rw [variant_of_mem_managementEntries inside]; decide) _ _
      · have same : (eachMember (fun h member => h.resumeMember .device member) h
            members).1.places .management = h.places .management :=
          places_congr (roster_resumeMembers_of_ne (by decide) h members)
        rw [same] at devices
        by_cases stays : round.variant = .device <;> simp [devices, stays]

end Hub

end StationHub

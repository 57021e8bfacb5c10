import StationHub.Proofs.Slots.Sweeps

/-!
What the operations of a hub do to its tasks: each lets at most one begin to wait.

* `Examines`: a session finds another connection in its slot and begins to probe it.
* `Engages`: the task that begins to wait, and with which activity; each operation has its lemma
  `engages_…`, or `sameTasks_…` where nobody begins to wait.
-/

namespace StationHub

/-- The session for which the activity probes a rival, the rival and the probe. -/
def Activity.probes? : Activity → Option (Nat × Nat × Link.Probe)
  | .openProbing _ session _ rival probe => some (session, rival, probe)
  | .messageProbing session _ _ rival probe => some (session, rival, probe)
  | .takingOver session rival probe => some (session, rival, probe)
  | _ => none

/-- The activity is no step of an opening, a takeover or a sweep. -/
def Activity.isMinor : Activity → Bool
  | .openWaiting .. | .openResolving .. | .openProbing .. | .messageProbing .. | .takingOver ..
  | .sweeping .. => false
  | _ => true

/-- The activity is that of a sweep. -/
def Activity.isSweeping : Activity → Bool
  | .sweeping .. => true
  | _ => false

theorem Activity.taking?_eq_map_probes? (activity : Activity) :
    activity.taking? = activity.probes?.map Prod.fst := by
  cases activity <;> rfl

namespace Hub

/-- The move is a step of a sweep. -/
def isSweep (h : Hub) : Move → Bool
  | .sweeping => true
  | .resume id => (h.task? id).any fun task => task.activity.isSweeping
  | _ => false

/-- The session finds another connection in its slot, which exists and is open, and begins to probe
it. -/
structure Examines (h : Hub) (s : Session) (rival : Nat) (probe : Link.Probe) : Prop where
  other : rival ≠ s.link
  held : (h.registered? s.variant s.key).bind h.openRival? = some rival
  begun : (h.startProbe rival h.settings.probeTimeout).2 = some probe

theorem startProbe_snd (h : Hub) (i wait : Nat) :
    (h.startProbe i wait).2 = (h.link? i).bind fun l => (l.startProbe h.now wait).2 := by
  unfold startProbe
  cases h.link? i <;> rfl

/-- A probe waits for a pong beyond those that its connection has counted, if this is open and its
queue takes the ping. -/
theorem startProbe_eq_some_iff {h : Hub} {i wait : Nat} {probe : Link.Probe} :
    (h.startProbe i wait).2 = some probe ↔ ∃ l, h.link? i = some l ∧ l.closed = false ∧
      (l.ping h.now).2 = true ∧ probe = ⟨l.pongs, h.now + wait⟩ := by
  rw [startProbe_snd, Option.bind_eq_some_iff]
  refine exists_congr fun l => and_congr_right fun _ => ?_
  unfold Link.startProbe
  cases l.closed with
  | true => simp
  | false =>
      cases queued : (l.ping h.now).2 with
      | true => simp [queued, eq_comm (a := probe)]
      | false => simp [queued]

theorem Examines.of_newTask {h : Hub} {s : Session} {rival : Nat} {probe : Link.Probe}
    (examines : h.newTask.1.Examines s rival probe) : h.Examines s rival probe := by
  refine ⟨examines.other, examines.held, ?_⟩
  have begun := examines.begun
  rw [startProbe_snd] at begun ⊢
  exact begun

/-! ### Operations -/

/-- The tasks are the same, and so is the number for the next one. -/
structure SameTasks (h next : Hub) : Prop where
  tasks : next.tasks = h.tasks
  nextTask : next.nextTask = h.nextTask

theorem SameTasks.refl (h : Hub) : h.SameTasks h := ⟨rfl, rfl⟩

theorem SameTasks.trans {h mid next : Hub} (first : h.SameTasks mid)
    (second : mid.SameTasks next) : h.SameTasks next :=
  ⟨second.tasks.trans first.tasks, second.nextTask.trans first.nextTask⟩

theorem Reseats.sameTasks {h next : Hub} (same : h.Reseats next) : h.SameTasks next :=
  ⟨same.tasks, same.nextTask⟩

theorem Quiet.sameTasks {h next : Hub} (quiet : Quiet True h next) : h.SameTasks next :=
  ⟨(Quiet.tasks quiet).1, (Quiet.tasks quiet).2.1⟩

/-- At most one task begins to wait: task number `id`, with a minor activity or one that is
`allowed`, or a new task with a minor activity. -/
inductive Engages (id : Nat) (allowed : Activity → Prop) (h next : Hub) : Prop where
  | nobody : h.SameTasks next → Engages id allowed h next
  | waits (activity : Activity) : next.tasks = h.tasks ++ [⟨id, activity⟩] →
      next.nextTask = h.nextTask → activity.isMinor = true ∨ allowed activity →
      Engages id allowed h next
  | later (activity : Activity) : next.tasks = h.tasks ++ [⟨h.nextTask, activity⟩] →
      next.nextTask = h.nextTask + 1 → activity.isMinor = true → Engages id allowed h next

variable {id : Nat} {allowed : Activity → Prop}

theorem Engages.after {h mid next : Hub} (same : h.SameTasks mid)
    (engages : Engages id allowed mid next) : Engages id allowed h next := by
  cases engages with
  | nobody same' => exact .nobody (same.trans same')
  | waits activity tasks nextTask isAllowed =>
      exact .waits activity (same.tasks ▸ tasks) (nextTask.trans same.nextTask) isAllowed
  | later activity tasks nextTask minor =>
      rw [same.tasks, same.nextTask] at tasks
      exact .later activity tasks (nextTask.trans (congrArg (· + 1) same.nextTask)) minor

theorem Engages.mono {allowed' : Activity → Prop} {h next : Hub}
    (weaker : ∀ activity, allowed activity → allowed' activity)
    (engages : Engages id allowed h next) : Engages id allowed' h next := by
  cases engages with
  | nobody same => exact .nobody same
  | waits activity tasks nextTask isAllowed =>
      exact .waits activity tasks nextTask (isAllowed.imp_right (weaker activity))
  | later activity tasks nextTask minor => exact .later activity tasks nextTask minor

theorem Engages.nextTask_le {h next : Hub} (engages : Engages id allowed h next) :
    h.nextTask ≤ next.nextTask := by
  cases engages with
  | nobody same => exact Nat.le_of_eq same.nextTask.symm
  | waits _ _ nextTask _ => exact Nat.le_of_eq nextTask.symm
  | later _ _ nextTask _ => exact nextTask ▸ Nat.le_succ _

theorem engages_suspend {activity : Activity}
    (isAllowed : activity.isMinor = true ∨ allowed activity) (h : Hub) (id : Nat) :
    Engages id allowed h (h.suspend id activity) :=
  .waits activity rfl rfl isAllowed

theorem sameTasks_conclude (h : Hub) (id : Nat) (outcome : TaskOutcome) :
    h.SameTasks (h.conclude id outcome) := ⟨rfl, rfl⟩

theorem sameTasks_lock (h : Hub) (lock : PathLock) : h.SameTasks { h with lock } := ⟨rfl, rfl⟩

theorem sameTasks_endOpening (h : Hub) (id : Nat) (guard : Guard) (result : Except Failure Nat) :
    h.SameTasks (h.endOpening id guard result) := ⟨rfl, rfl⟩

/-! ### Takeovers -/

/-- A takeover that has to probe probes the connection that holds the slot. -/
theorem examines_of_beginTakeover {h next : Hub} {i rival : Nat} {s : Session} {probe : Link.Probe}
    (started : h.beginTakeover i s = (next, .probing rival probe)) :
    h.Examines s rival probe := by
  unfold beginTakeover at started
  split at started
  · cases started
  · rename_i slot there
    split at started
    · cases started
    · rename_i other
      split at started
      · cases started
      · rename_i rival' found
        split at started <;> rename_i began <;> cases started
        have same := link_of_openRival? found
        refine ⟨same ▸ other, ?_, ?_⟩
        · rw [there]
          exact found
        · rw [began]

/-- A task begins the takeover of its session and goes on. -/
theorem Engages.of_done {h mid next : Hub} {i : Nat} {s : Session} {takeover : Takeover}
    (started : h.beginTakeover i s = (mid, .done takeover))
    (goesOn : Engages id allowed mid next) : Engages id allowed h next := by
  have begun := (reseats_beginTakeover h i s).sameTasks
  rw [started] at begun
  exact .after begun goesOn

/-- A task begins the takeover of its session and waits for the probe of a rival. -/
theorem Engages.of_probing {h mid : Hub} {i rival : Nat} {s : Session} {probe : Link.Probe}
    {activity : Activity} (started : h.beginTakeover i s = (mid, .probing rival probe))
    (waits : h.Examines s rival probe → allowed activity) :
    Engages id allowed h (mid.suspend id activity) := by
  have begun := (reseats_beginTakeover h i s).sameTasks
  rw [started] at begun
  exact .after begun (engages_suspend (.inr (waits (examines_of_beginTakeover started))) mid id)

/-! ### Openings -/

theorem sameTasks_afterTakeover (h : Hub) (id link session : Nat) (guard : Guard) :
    h.SameTasks (h.afterTakeover id link session guard) := by
  unfold afterTakeover
  split
  · have closed := Quiet.sameTasks (quiet_closed h link .shutdown)
    dsimp only
    split
    · exact closed.trans (sameTasks_endOpening _ id guard _)
    · exact (closed.trans (reseats_setRoster _ _ _).sameTasks).trans
        (sameTasks_endOpening _ id guard _)
  · exact ⟨rfl, rfl⟩

theorem engages_afterGuard (h : Hub) (id link : Nat) (target : Target) (guard : Guard) :
    Engages id (fun activity => activity.seeks? = some link) h
      (h.afterGuard id link target guard) := by
  unfold afterGuard
  split
  · exact .nobody (sameTasks_endOpening h id guard _)
  · split
    · have closed := Quiet.sameTasks (quiet_closed h link .shutdown)
      exact .nobody (closed.trans (sameTasks_endOpening _ id guard _))
    · exact .waits (.openResolving link target guard) rfl rfl (.inr rfl)

theorem engages_beginOpening (h : Hub) (link : Nat) (target : Target) :
    Engages h.nextTask (fun activity => activity.seeks? = some link) h.newTask.1
      (h.beginOpening link target).1 := by
  unfold beginOpening
  dsimp only
  split
  · exact .after (sameTasks_lock h.newTask.1 _) (engages_afterGuard _ _ link target _)
  · exact .waits (.openWaiting link target) rfl rfl (.inr rfl)

/-- An opening whose peer is identified ends or probes a rival for the session it makes. -/
theorem engages_afterIdentified {h : Hub} {id link : Nat} {target : Target} {guard : Guard}
    (found : h.task? id = some ⟨id, .openResolving link target guard⟩) (identity : Identity)
    (open_ : h.isClosed link = false) (running : h.stopping = false) :
    Engages id (fun activity => ∃ mid rival probe, h.identified? id identity = some mid ∧
        activity = .openProbing link h.sessions.length guard rival probe ∧
        ∃ s, ((h.detach id).afterIdentified id link guard identity).session? h.sessions.length =
          some s ∧ s.link = link ∧ mid.Examines s rival probe)
      (h.detach id) ((h.detach id).afterIdentified id link guard identity) := by
  cases here : h.link? link with
  | none =>
      have absent : (h.detach id).link? link = none := here
      unfold afterIdentified
      rw [absent]
      exact .nobody (sameTasks_endOpening _ id guard _)
  | some l =>
      have there : (h.detach id).link? link = some l := here
      have identified : h.identified? id identity =
          some ((h.detach id).withSession link l.variant identity) := by
        unfold identified?
        rw [found, Option.map_some]
        simp [open_, running, here]
      have made : ((h.detach id).afterIdentified id link guard identity).session?
          h.sessions.length = some ((h.detach id).newSession link l.variant identity) := by
        rw [session?, (afterIdentified_staff there id guard identity).1]
        exact session?_withSession (h.detach id) link l.variant identity
      have same : (h.detach id).SameTasks
          ((h.detach id).withSession link l.variant identity) := ⟨rfl, rfl⟩
      rw [afterIdentified_eq there] at made ⊢
      refine .after same ?_
      split
      · rename_i next _ started
        exact .of_done started (.nobody (sameTasks_afterTakeover next id link _ guard))
      · rename_i started
        rw [started] at made
        refine .of_probing started fun examines => ?_
        exact ⟨_, _, _, identified, rfl, _, made, rfl, examines⟩

/-- When the directory has answered, an opening ends or goes on with the peer. -/
theorem engages_afterDirectory {h : Hub} {id link : Nat} {target : Target} {guard : Guard}
    (found : h.task? id = some ⟨id, .openResolving link target guard⟩)
    (answer : Except Failure Identity) :
    Engages id (fun activity => ∃ identity mid rival probe,
        answer = .ok identity ∧ h.identified? id identity = some mid ∧
        activity = .openProbing link h.sessions.length guard rival probe ∧
        ∃ s, ((h.detach id).afterDirectory id link guard answer).session? h.sessions.length =
          some s ∧ s.link = link ∧ mid.Examines s rival probe)
      (h.detach id) ((h.detach id).afterDirectory id link guard answer) := by
  unfold afterDirectory
  cases answer with
  | error failure =>
      have closed : Quiet True (h.detach id)
          (((h.detach id).count .resolutionFailed).closed link .unidentified) :=
        (quiet_count (by decide) _).trans (quiet_closed _ link _)
      exact .nobody ((Quiet.sameTasks closed).trans (sameTasks_endOpening _ id guard _))
  | ok identity =>
      dsimp only
      split
      · exact .nobody (sameTasks_endOpening _ id guard _)
      · rename_i open_
        split
        · have closed := Quiet.sameTasks (quiet_closed (h.detach id) link .shutdown)
          exact .nobody (closed.trans (sameTasks_endOpening _ id guard _))
        · rename_i running
          have engages := engages_afterIdentified found identity (Bool.eq_false_iff.mpr open_)
            (Bool.eq_false_iff.mpr running)
          exact engages.mono fun activity ⟨mid, rival, probe, rest⟩ =>
            ⟨identity, mid, rival, probe, rfl, rest⟩

/-! ### Handling -/

theorem engages_execute (h : Hub) (id session : Nat) (request : Request) (guard : Option Guard) :
    Engages id allowed h (h.execute id session request guard) := by
  unfold execute
  split
  · exact engages_suspend (.inl rfl) h id
  · split
    · exact .nobody ⟨rfl, rfl⟩
    · exact .nobody (.refl h)

/-- A task that is given up is gone. -/
theorem tasks_cancel (h : Hub) (id : Nat) : (h.cancel id).tasks = (h.detach id).tasks := by
  unfold cancel
  split
  · rename_i absent
    refine (List.filter_eq_self.mpr fun task member => ?_).symm
    simpa using List.find?_eq_none.mp absent task member
  · dsimp only
    split <;> rfl

theorem sameTasks_afterExecution (h : Hub) (id session : Nat) (request : Request)
    (guard : Option Guard) (reply : Reply) :
    h.SameTasks (h.afterExecution id session request guard reply) := by
  have answered := Quiet.sameTasks (quiet_afterExecution h id session request reply)
  cases guard with
  | none => exact answered
  | some guard => exact answered.trans ⟨rfl, rfl⟩

theorem sameTasks_settle (h : Hub) (i : Nat) (id : String) (outcome : CallOutcome) :
    h.SameTasks (h.settle i id outcome).1 := by
  unfold settle
  split <;> exact ⟨rfl, rfl⟩

theorem engages_receive (h : Hub) (id session : Nat) (path : String) (message : Message) :
    Engages id allowed h (h.receive id session path message) := by
  cases message with
  | call messageId command payload =>
      show Engages id allowed h (h.receiveCall id session path _)
      unfold receiveCall
      split
      · exact .nobody (sameTasks_conclude h id _)
      · rename_i s _
        have noted : h.SameTasks (h.modifySession session fun _ => s.noteCall.1) := ⟨rfl, rfl⟩
        dsimp only
        split
        · split
          · exact .after (noted.trans (sameTasks_lock _ _)) (engages_execute _ id session _ _)
          · exact .after (noted.trans (sameTasks_lock _ _)) (engages_suspend (.inl rfl) _ id)
        · exact .later (.callStarting session _) rfl rfl rfl
  | result messageId payload =>
      exact .nobody ((sameTasks_settle h session messageId _).trans (sameTasks_conclude _ id _))
  | error messageId fault description details =>
      exact .nobody ((sameTasks_settle h session messageId _).trans (sameTasks_conclude _ id _))

theorem sameTasks_sendCall (h : Hub) (i : Nat) (command : String) (payload : Json) :
    h.SameTasks (h.sendCall i command payload).1 := by
  rcases @sendCall_cases True h i command payload with
    ⟨next, failure, quiet, sent⟩ | ⟨s, mid, -, quiet, -, sent⟩
  · rw [sent]
    exact Quiet.sameTasks quiet
  · rw [sent]
    exact (Quiet.sameTasks quiet).trans ⟨rfl, rfl⟩

theorem engages_beginHandling (h : Hub) (session : Nat) (path : String)
    (decoded : Except Message.Malformation Message) :
    Engages h.nextTask (fun activity => ∃ message s rival probe, decoded = .ok message ∧
        h.session? session = some s ∧ h.isDisplaced s = true ∧
        activity = .messageProbing session path message rival probe ∧ h.Examines s rival probe)
      h.newTask.1 (h.beginHandling session path decoded).1 := by
  unfold beginHandling
  cases decoded with
  | error malformed => exact .nobody ⟨rfl, rfl⟩
  | ok message =>
      cases here : h.session? session with
      | none =>
          have absent : h.newTask.1.session? session = none := here
          simp only [absent]
          exact .nobody (sameTasks_conclude _ _ _)
      | some s =>
          have there : h.newTask.1.session? session = some s := here
          simp only [there]
          by_cases displaced : h.isDisplaced s = true
          · rw [isDisplaced_newTask, if_pos displaced]
            split
            · rename_i next _ started
              exact .of_done started (engages_receive next h.nextTask session path message)
            · rename_i rival probe started
              exact .of_probing started fun examines => ⟨message, s, rival, probe, rfl, rfl,
                displaced, rfl, examines.of_newTask⟩
          · rw [isDisplaced_newTask, if_neg displaced]
            exact engages_receive _ _ session path message

theorem engages_beginReconcile (h : Hub) (session : Nat) :
    Engages h.nextTask (fun activity => ∃ s rival probe, h.session? session = some s ∧
        activity = .takingOver session rival probe ∧ h.Examines s rival probe)
      h.newTask.1 (h.beginReconcile session).1 := by
  unfold beginReconcile
  cases here : h.session? session with
  | none =>
      have absent : h.newTask.1.session? session = none := here
      simp only [absent]
      exact .nobody (.refl _)
  | some s =>
      have there : h.newTask.1.session? session = some s := here
      simp only [there]
      split
      · rename_i next takeover started
        exact .of_done started (.nobody (sameTasks_conclude next h.nextTask (.tookOver takeover)))
      · rename_i rival probe started
        exact .of_probing started fun examines => ⟨s, rival, probe, rfl, rfl,
          examines.of_newTask⟩

/-! ### Calls, probes and guards -/

theorem engages_beginCall (h : Hub) (variant : Variant) (key : Key) (command : String)
    (payload : Json) :
    Engages h.nextTask allowed h.newTask.1 (h.beginCall variant key command payload).1 := by
  unfold beginCall
  dsimp only
  split
  · exact .nobody (sameTasks_conclude _ _ _)
  · rename_i slot _
    have sent := sameTasks_sendCall h.newTask.1 slot.session command payload
    split <;> rename_i called <;> rw [called] at sent
    · exact .nobody (sent.trans (sameTasks_conclude _ _ _))
    · exact .after sent (engages_suspend (.inl rfl) _ _)

theorem engages_beginProbe (h : Hub) (link wait : Nat) :
    Engages h.nextTask allowed h.newTask.1 (h.beginProbe link wait).1 := by
  have probed := Quiet.sameTasks (quiet_startProbe h.newTask.1 link wait)
  unfold beginProbe
  dsimp only
  split <;> rename_i started <;> rw [started] at probed
  · exact .nobody (probed.trans (sameTasks_conclude _ _ _))
  · exact .after probed (engages_suspend (.inl rfl) _ _)

theorem engages_keepGuard (h : Hub) (id : Nat) (guard : Guard) :
    Engages id allowed h (h.keepGuard id guard) :=
  .after (sameTasks_conclude h id _) (engages_suspend (.inl rfl) _ id)

theorem engages_beginGuard (h : Hub) (path : String) :
    Engages h.nextTask allowed h.newTask.1 (h.beginGuard path).1 := by
  unfold beginGuard
  dsimp only
  split
  · exact .after (sameTasks_lock h.newTask.1 _) (engages_keepGuard _ _ _)
  · exact .after (sameTasks_lock h.newTask.1 _) (engages_suspend (.inl rfl) _ _)

/-! ### Sweeps -/

/-- The activity sweeps a roster, with members at the places given. -/
def SweepsAt (variant : Variant) (places : List Place) (activity : Activity) : Prop :=
  ∃ members report, activity = .sweeping variant members report ∧
    members.map (Member.place variant) = places

theorem engages_sweepManagement (h : Hub) (id : Nat) (members : List Member)
    (report : SweepReport) :
    Engages id (SweepsAt .management (members.map (Member.place .management))) h
      (h.sweepManagement id members report) := by
  unfold sweepManagement
  split
  · exact engages_suspend (.inr ⟨members, report, rfl, rfl⟩) h id
  · exact .nobody ((Quiet.sameTasks (quiet_countEvicted h members)).trans
      (sameTasks_conclude _ id _))

/-- The sweep of the devices goes on or moves on to the management clients. -/
theorem engages_sweepDevices (h : Hub) (id : Nat) (members : List Member) (report : SweepReport) :
    Engages id (fun activity =>
        SweepsAt .device (members.map (Member.place .device)) activity ∨
          SweepsAt .management (h.places .management) activity) h
      (h.sweepDevices id members report) := by
  unfold sweepDevices
  split
  · exact engages_suspend (.inr (.inl ⟨members, report, rfl, rfl⟩)) h id
  · have begun : Quiet True h ((h.countEvicted members).beginRoster .management).1 :=
      (quiet_countEvicted h members).trans (quiet_beginRoster _ .management)
    have swept := engages_sweepManagement ((h.countEvicted members).beginRoster .management).1 id
      ((h.countEvicted members).beginRoster .management).2 (addMembers report members)
    rw [places_beginRoster, places_countEvicted] at swept
    exact .after (Quiet.sameTasks begun) (swept.mono fun _ => .inr)

theorem engages_beginSweep (h : Hub) :
    Engages h.nextTask (fun activity => ∃ variant, SweepsAt variant (h.places variant) activity)
      h.newTask.1 h.beginSweep.1 := by
  have swept := engages_sweepDevices (h.newTask.1.beginRoster .device).1 h.nextTask
    (h.newTask.1.beginRoster .device).2 {}
  rw [places_beginRoster, places_congr (roster_beginRoster_of_ne (by decide) _)] at swept
  refine .after (Quiet.sameTasks (quiet_beginRoster h.newTask.1 .device)) (swept.mono ?_)
  rintro activity (sweeps | sweeps)
  · exact ⟨.device, sweeps⟩
  · exact ⟨.management, sweeps⟩

theorem engages_resumeSweep (h : Hub) (id : Nat) (variant : Variant) (members : List Member)
    (report : SweepReport) :
    Engages id (fun activity => SweepsAt variant (members.map (Member.place variant)) activity ∨
        ∃ variant, SweepsAt variant (h.places variant) activity) h
      (h.resumeSweep id variant members report) := by
  have resumed : Quiet True h
      (eachMember (fun h member => h.resumeMember variant member) h members).1 :=
    quiet_eachMember (fun h member => quiet_resumeMember h variant member) h members
  unfold resumeSweep
  refine .after (Quiet.sameTasks resumed) ?_
  cases variant with
  | device =>
      have swept := engages_sweepDevices
        (eachMember (fun h member => h.resumeMember .device member) h members).1 id
        (eachMember (fun h member => h.resumeMember .device member) h members).2 report
      rw [places_resumeMembers, places_congr (roster_resumeMembers_of_ne (by decide) h members)]
        at swept
      exact swept.mono fun activity => Or.imp_right fun sweeps => ⟨.management, sweeps⟩
  | management =>
      have swept := engages_sweepManagement
        (eachMember (fun h member => h.resumeMember .management member) h members).1 id
        (eachMember (fun h member => h.resumeMember .management member) h members).2 report
      rw [places_resumeMembers] at swept
      exact swept.mono fun activity => Or.inl

/-! ### Tasks that go on -/

theorem engages_resumeLock {h : Hub} {task : Task} {next : Hub → Guard → Hub}
    (waits : task.activity.isMinor = true ∨ allowed task.activity)
    (goesOn : ∀ mid guard, Engages task.id allowed mid (next mid guard)) :
    Engages task.id allowed h (h.resumeLock task next) := by
  unfold resumeLock
  split
  · exact .after (sameTasks_lock h _) (goesOn _ _)
  · exact .after (sameTasks_lock h _) (engages_suspend waits _ _)

theorem engages_resumeProbe {h : Hub} {task : Task} {link : Nat} {probe : Link.Probe}
    {next : Hub → Bool → Hub} (decided : (h.verdict? link probe).isSome = true)
    (goesOn : ∀ alive, Engages task.id allowed h (next h alive)) :
    Engages task.id allowed h (h.resumeProbe task link probe next) := by
  obtain ⟨alive, verdict⟩ := Option.isSome_iff_exists.mp decided
  unfold resumeProbe
  rw [verdict]
  exact goesOn alive

/-- A task that goes on seeks on or sweeps on, if it does not wait for something minor. -/
theorem engages_resume {h : Hub} {task : Task} (ready : h.isReady task = true) :
    Engages task.id (fun activity =>
        (∃ link, task.activity.opened? = some link ∧ activity.seeks? = some link) ∨
        ∃ variant members report, task.activity = .sweeping variant members report ∧
          (SweepsAt variant (members.map (Member.place variant)) activity ∨
            ∃ variant, SweepsAt variant (h.places variant) activity))
      (h.detach task.id) (h.resume task) := by
  obtain ⟨id, activity⟩ := task
  unfold resume
  unfold isReady at ready
  cases activity with
  | openWaiting link target =>
      refine engages_resumeLock (.inr (.inl ⟨link, rfl, rfl⟩)) fun mid guard => ?_
      exact (engages_afterGuard mid id link target guard).mono fun _ seeks =>
        .inl ⟨link, rfl, seeks⟩
  | openResolving => cases ready
  | openProbing link session guard rival probe =>
      exact engages_resumeProbe ready fun alive => .nobody
        ((reseats_concludeTakeover _ session rival alive).sameTasks.trans
          (sameTasks_afterTakeover _ id link session guard))
  | messageProbing session path message rival probe =>
      exact engages_resumeProbe ready fun alive =>
        .after (reseats_concludeTakeover _ session rival alive).sameTasks
          (engages_receive _ id session path message)
  | callWaiting session request =>
      exact engages_resumeLock (.inl rfl) fun mid guard =>
        engages_execute mid id session request _
  | callStarting session request => exact engages_execute _ id session request none
  | executing => cases ready
  | takingOver session rival probe =>
      exact engages_resumeProbe ready fun alive => .nobody
        ((reseats_concludeTakeover _ session rival alive).sameTasks.trans
          (sameTasks_conclude _ id _))
  | probing link probe =>
      exact engages_resumeProbe ready fun alive => .nobody (sameTasks_conclude _ id _)
  | sweeping variant members report =>
      refine (engages_resumeSweep (h.detach id) id variant members report).mono ?_
      intro activity sweeps
      exact .inr ⟨variant, members, report, rfl, sweeps⟩
  | calling session call =>
      dsimp only
      split
      · exact .nobody (sameTasks_conclude _ id _)
      · exact engages_suspend (.inl rfl) _ id
  | guardWaiting =>
      exact engages_resumeLock (.inl rfl) fun mid guard => engages_keepGuard mid id guard
  | guarding => cases ready

end Hub

end StationHub

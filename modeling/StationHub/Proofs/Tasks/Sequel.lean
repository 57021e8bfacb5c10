import StationHub.Proofs.Lock.Steps

/-!
What a task waits for that begins to wait with a move.

* `waitingCall?`, `callInHand?`: the call of a peer that a task has yet to execute, and the one that
  a move is to carry on.
* `Errand.Fits`: what a task may wait for that asked for a path.
* `Sequel`: where the task comes from, or why nobody begins to wait; `sequel_of_step?` has it for
  every move.
-/

namespace StationHub

/-- The call of a peer that is yet to be executed, and the number of its session. -/
def Activity.waitingCall? : Activity → Option (Nat × Request)
  | .messageProbing session _ (.call id command payload) _ _ =>
      some (session, ⟨id, command, payload⟩)
  | .callWaiting session request | .callStarting session request => some (session, request)
  | _ => none

/-- The call of a peer that waits for the executor, and the number of its session. -/
def Activity.runningCall? : Activity → Option (Nat × Request)
  | .executing session _ request _ => some (session, request)
  | _ => none

/-- The call of a peer that the activity is about. -/
def Activity.call? (activity : Activity) : Option (Nat × Request) :=
  activity.waitingCall? <|> activity.runningCall?

/-- What a task may wait for next that goes on. -/
inductive Activity.Onward : Activity → Activity → Prop where
  /-- The path is still in use. -/
  | again {activity : Activity} : activity.waitsForPath = true → Onward activity activity
  | resolving {link : Nat} {target : Target} {guard : Guard} :
      Onward (.openWaiting link target) (.openResolving link target guard)
  | probing {link session rival : Nat} {target : Target} {guard : Guard} {probe : Link.Probe} :
      Onward (.openResolving link target guard) (.openProbing link session guard rival probe)
  | executing {session : Nat} {context : CallContext} {request : Request} {guard : Guard} :
      Onward (.callWaiting session request) (.executing session context request (some guard))
  | starting {session : Nat} {context : CallContext} {request : Request} :
      Onward (.callStarting session request) (.executing session context request none)
  | keeping {guard : Guard} : Onward .guardWaiting (.guarding guard)

/-- What a task may wait for that asked for its path with the errand. -/
inductive Errand.Fits : Errand → Activity → Prop where
  | openWaiting {link : Nat} {target : Target} :
      Fits (.opening link target) (.openWaiting link target)
  | openResolving {link : Nat} {target : Target} {guard : Guard} :
      Fits (.opening link target) (.openResolving link target guard)
  | openProbing {link session rival : Nat} {target : Target} {guard : Guard} {probe : Link.Probe} :
      Fits (.opening link target) (.openProbing link session guard rival probe)
  | callWaiting {session : Nat} {request : Request} :
      Fits (.call session request) (.callWaiting session request)
  | executing {session : Nat} {context : CallContext} {request : Request} {guard : Guard} :
      Fits (.call session request) (.executing session context request (some guard))
  | guardWaiting : Fits .keeping .guardWaiting
  | guarding {guard : Guard} : Fits .keeping (.guarding guard)

/-- Who has asked for a path has a stake. -/
theorem Errand.Fits.stake {errand : Errand} {task : Task} (fits : errand.Fits task.activity) :
    task.stake?.isSome = true := by
  obtain ⟨id, activity⟩ := task
  cases fits <;> rfl

theorem Errand.Fits.opening {errand : Errand} {link : Nat} {target : Target} {guard : Guard}
    (fits : errand.Fits (.openResolving link target guard)) : errand = .opening link target := by
  cases fits
  rfl

theorem Errand.Fits.onward {errand : Errand} {old new : Activity} (fits : errand.Fits old)
    (onward : old.Onward new) : errand.Fits new := by
  cases onward with
  | again => exact fits
  | resolving =>
      cases fits
      exact .openResolving
  | probing =>
      cases fits
      exact .openProbing
  | executing =>
      cases fits
      exact .executing
  | starting => cases fits
  | keeping =>
      cases fits
      exact .guarding

/-- Who has a stake has had one, unless no path was asked for. -/
theorem Activity.Onward.stake {old new : Task} (onward : old.activity.Onward new.activity)
    (has : new.stake?.isSome = true) : old.stake?.isSome = true := by
  obtain ⟨id, activity⟩ := old
  obtain ⟨id', activity'⟩ := new
  cases onward with
  | again waits =>
      unfold Task.stake?
      rw [if_pos waits]
      rfl
  | resolving | probing | executing | keeping => rfl
  | starting => cases has

/-- Only a call that is yet to be executed goes on with its task. -/
theorem Activity.Onward.waitingCall? {old new : Activity} (onward : old.Onward new) :
    old.waitingCall? = new.call? := by
  cases onward with
  | again waits => cases old <;> first | rfl | cases waits
  | resolving | probing | executing | starting | keeping => rfl

namespace Hub

/-- The call of a peer that is to be carried on with the move: it arrives, or the task goes on or
is given up that has yet to execute it. -/
def callInHand? (h : Hub) : Move → Option (Nat × Request)
  | .handling session _ (.ok (.call id command payload)) =>
      (h.session? session).map fun _ => (session, ⟨id, command, payload⟩)
  | .resume id | .cancel id => (h.task? id).bind fun task => task.activity.waitingCall?
  | _ => none

/-- If the activity waits for the executor, that was told who calls, as the session has it. -/
def Informs (h : Hub) : Activity → Prop
  | .executing session context request _ =>
      ∃ s, h.session? session = some s ∧ context = s.context request.id
  | _ => True

theorem informs_of_isSide (h : Hub) {activity : Activity} (side : activity.isSide = true) :
    h.Informs activity := by
  cases activity <;> trivial

/-- The task that begins to wait with a move, if one does. -/
inductive Sequel (h : Hub) (move : Move) : Option Task → Prop where
  | nobody : h.callInHand? move = none → Sequel h move none
  /-- A call is not executed: it is given up, or the connection of its session is gone. -/
  | lost {i : Nat} {request : Request} : h.callInHand? move = some (i, request) →
      (∃ id, move = .cancel id) ∨ (h.apart move).isGone i = true → Sequel h move none
  | aside {added : Option Task} : h.isPlain move = true →
      (∀ task ∈ added, task.activity.isSide = true) → Sequel h move added
  /-- The task that was taken up waits again. -/
  | onward {old task : Task} : move.task?.bind h.task? = some old → old.id = task.id →
      old.activity.Onward task.activity → h.Informs task.activity → Sequel h move (some task)
  /-- The task asks for a path. -/
  | asked {asking : Asking} {task : Task} : h.asking? move = some asking →
      asking.task = task.id → asking.errand.Fits task.activity →
      h.callInHand? move = task.activity.call? → h.Informs task.activity →
      Sequel h move (some task)
  /-- A message is delayed. -/
  | delayed {i rival : Nat} {path : String} {message : Message} {probe : Link.Probe} :
      move = .handling i path (.ok message) → (h.session? i).isSome = true → h.delays i = true →
      Sequel h move (some ⟨h.nextTask, .messageProbing i path message rival probe⟩)
  /-- A later call is about to be executed. -/
  | later {receipt : Receipt} {request : Request} {number : Nat} :
      h.received? move = some receipt → h.isFirst receipt = false →
      h.callInHand? move = some (receipt.session, request) → h.nextTask ≤ number →
      Sequel h move (some ⟨number, .callStarting receipt.session request⟩)

theorem Sequel.informs {h : Hub} {move : Move} {task : Task} (sequel : h.Sequel move (some task)) :
    h.Informs task.activity := by
  cases sequel with
  | aside _ side => exact informs_of_isSide h (side task rfl)
  | onward _ _ _ informs | asked _ _ _ _ informs => exact informs
  | delayed | later => trivial

/-! ### Operations -/

/-- A call is executed unless the connection of its session is gone. -/
theorem tasks_execute (h : Hub) (id session : Nat) (request : Request) (guard : Option Guard) :
    (h.execute id session request guard).tasks = h.tasks ++ ((h.present? session).map fun s =>
      (⟨id, .executing session (s.context request.id) request guard⟩ : Task)).toList := by
  unfold execute
  cases h.present? session with
  | some s => rfl
  | none => cases guard <;> exact (List.append_nil _).symm

/-- A message for no session is not looked at. -/
theorem sameTasks_receive_absent {h : Hub} {i : Nat} (absent : h.session? i = none) (id : Nat)
    (path : String) (message : Message) : h.SameTasks (h.receive id i path message) := by
  cases message with
  | call messageId command payload =>
      simp only [receive, receiveCall, absent]
      exact sameTasks_conclude h id _
  | result messageId payload =>
      exact (sameTasks_settle h i messageId _).trans (sameTasks_conclude _ id _)
  | error messageId fault description details =>
      exact (sameTasks_settle h i messageId _).trans (sameTasks_conclude _ id _)

/-- When the directory has answered, an opening ends or waits with a probe. -/
theorem tasks_afterDirectory (h : Hub) (id link : Nat) (guard : Guard)
    (answer : Except Failure Identity) :
    (h.afterDirectory id link guard answer).tasks = h.tasks ∨
      ∃ session rival probe, (h.afterDirectory id link guard answer).tasks =
        h.tasks ++ [⟨id, .openProbing link session guard rival probe⟩] := by
  unfold afterDirectory
  cases answer with
  | error failure => exact .inl (sameStaff_closed (h.count .resolutionFailed) link _).tasks
  | ok identity =>
      dsimp only
      split
      · exact .inl rfl
      · split
        · exact .inl (sameStaff_closed h link .shutdown).tasks
        · cases here : h.link? link with
          | none =>
              left
              unfold afterIdentified
              rw [here]
              rfl
          | some l =>
              rcases (afterIdentified_staff here id guard identity).2 with
                same | ⟨rival, probe, -, waits⟩
              · exact .inl same
              · exact .inr ⟨_, rival, probe, waits⟩

section

variable {h next : Hub} {move : Move}

/-- Nobody begins to wait, and no call of a peer was to be carried on. -/
theorem sequel_of_nobody (none : h.callInHand? move = none)
    (same : next.tasks = (h.apart move).tasks) :
    ∃ added, next.tasks = (h.apart move).tasks ++ added.toList ∧ h.Sequel move added :=
  ⟨.none, by rw [same, Option.toList_none, List.append_nil], .nobody none⟩

/-- A call of a peer that is in hand is executed, unless the connection of its session is gone. -/
theorem sequel_of_execute {mid : Hub} {id i : Nat} {request : Request} {guard : Option Guard}
    (inHand : h.callInHand? move = some (i, request)) (tasks : mid.tasks = (h.apart move).tasks)
    (gone : mid.isGone i = (h.apart move).isGone i)
    (told : ∀ s, mid.session? i = some s → ∃ t, h.session? i = some t ∧
      s.context request.id = t.context request.id)
    (executes : ∀ context, h.Informs (.executing i context request guard) →
      h.Sequel move (some ⟨id, .executing i context request guard⟩)) :
    ∃ added, (mid.execute id i request guard).tasks = (h.apart move).tasks ++ added.toList ∧
      h.Sequel move added := by
  rw [tasks_execute, tasks]
  cases present : mid.present? i with
  | none =>
      rw [← isNone_present?, present] at gone
      exact ⟨none, rfl, .lost inHand (.inr gone.symm)⟩
  | some s => exact ⟨some _, rfl, executes _ (told s (present?_eq_some.mp present).1)⟩

/-- A session looks at a message. -/
theorem sequel_of_receive {mid : Hub} (receipt : Receipt)
    (looks : h.received? move = some receipt)
    (asking : ∀ request, receipt.request? = some request → h.isFirst receipt = true →
      h.asking? move = some ⟨receipt.task, receipt.path, .call receipt.session request, h.now⟩)
    (inHand : h.callInHand? move = receipt.request?.map fun request => (receipt.session, request))
    (tasks : mid.tasks = (h.apart move).tasks) (grows : h.nextTask ≤ mid.nextTask)
    (anchors : (h.apart move).Anchors mid) (sessions : mid.sessions = h.sessions) {s : Session}
    (here : h.session? receipt.session = some s)
    (done : next = mid.receive receipt.task receipt.session receipt.path receipt.message) :
    ∃ added, next.tasks = (h.apart move).tasks ++ added.toList ∧ h.Sequel move added := by
  obtain ⟨id, i, path, message⟩ := receipt
  dsimp only at here done inHand
  have there : mid.session? i = some s := by
    rw [session?, sessions]
    exact here
  subst done
  cases message with
  | result messageId payload =>
      refine ⟨none, ?_, .nobody inHand⟩
      rw [← tasks, Option.toList_none, List.append_nil]
      exact ((sameTasks_settle mid i messageId _).trans (sameTasks_conclude _ id _)).tasks
  | error messageId fault description details =>
      refine ⟨none, ?_, .nobody inHand⟩
      rw [← tasks, Option.toList_none, List.append_nil]
      exact ((sameTasks_settle mid i messageId _).trans (sameTasks_conclude _ id _)).tasks
  | call messageId command payload =>
      have first : h.isFirst ⟨id, i, path, .call messageId command payload⟩ = s.noteCall.2 := by
        simp [isFirst, hasCalled, here, Message.kind, Session.noteCall]
      have noted := anchors.trans (anchors_noteCall there)
      simp only [receive, receiveCall, there]
      cases new : s.noteCall.2 with
      | false =>
          refine ⟨some ⟨mid.nextTask, .callStarting i ⟨messageId, command, payload⟩⟩, ?_, ?_⟩
          · rw [← tasks]
            rfl
          · exact .later looks (first.trans new) inHand grows
      | true =>
          have asked := asking _ rfl (first.trans new)
          rw [if_pos rfl]
          split
          · refine sequel_of_execute inHand tasks (noted.isGone i) (fun t found => ?_)
              fun _ informs => .asked asked rfl .executing inHand informs
            have known : (mid.modifySession i fun _ => s.noteCall.1).session? i =
                some s.noteCall.1 := by
              rw [session?_modifySession, there]
              simp
            cases known.symm.trans found
            exact ⟨s, here, rfl⟩
          · refine ⟨some ⟨id, .callWaiting i ⟨messageId, command, payload⟩⟩, ?_,
              .asked asked rfl .callWaiting inHand trivial⟩
            rw [← tasks]
            rfl

/-- A task that is no step of a call begins to wait, or nobody does. -/
theorem sequel_of_opening {id link : Nat} (moved : h.step? move = some next)
    (opens : h.opens? move = some (id, link)) :
    ∃ added, next.tasks = (h.apart move).tasks ++ added.toList ∧ h.Sequel move added := by
  cases openingStep_of_step? moved opens with
  | begins target lock is =>
      exact ⟨some ⟨id, _⟩, rfl, .asked rfl is.symm .openWaiting rfl trivial⟩
  | enters target lock guard is =>
      rcases (afterGuard_staff { h.newTask.1 with lock } id link target guard).2 with same | waits
      · exact sequel_of_nobody rfl same
      · exact ⟨some ⟨id, _⟩, waits, .asked rfl is.symm .openResolving rfl trivial⟩
  | waits target lock found =>
      exact ⟨some ⟨id, _⟩, rfl, .onward found rfl (.again rfl) trivial⟩
  | guarded target lock guard found =>
      rcases (afterGuard_staff { h.detach id with lock } id link target guard).2 with same | waits
      · exact sequel_of_nobody (by simp [callInHand?, found, Activity.waitingCall?]) same
      · exact ⟨some ⟨id, _⟩, waits, .onward found rfl .resolving trivial⟩
  | answered target guard answer found =>
      rcases tasks_afterDirectory (h.detach id) id link guard answer with
        same | ⟨session, rival, probe, waits⟩
      · exact sequel_of_nobody rfl same
      · exact ⟨some ⟨id, _⟩, waits, .onward found rfl .probing trivial⟩
  | probed session guard rival probe alive found =>
      have same := sameStaff_probed (h.detach id) id link session rival guard alive
      exact sequel_of_nobody (by simp [callInHand?, found, Activity.waitingCall?]) same.tasks

/-- A message arrives. -/
theorem sequel_of_handling (i : Nat) (path : String)
    (decoded : Except Message.Malformation Message) :
    ∃ added, (h.beginHandling i path decoded).1.tasks =
      (h.apart (.handling i path decoded)).tasks ++ added.toList ∧
        h.Sequel (.handling i path decoded) added := by
  cases decoded with
  | error malformed => exact sequel_of_nobody rfl rfl
  | ok message =>
      cases here : h.session? i with
      | none =>
          have absent : h.newTask.1.session? i = none := here
          refine sequel_of_nobody ?_ ?_
          · cases message <;> simp [callInHand?, here]
          · unfold beginHandling
            simp only [absent]
            rfl
      | some s =>
          have at_newTask : h.newTask.1.session? i = some s := here
          cases delayed : h.delays i with
          | true =>
              have begun := (reseats_beginTakeover h.newTask.1 i s).tasks
              have late := delayed
              simp only [delays, here, Option.any_some, Bool.and_eq_true, Bool.not_eq_true'] at late
              have displaced : h.newTask.1.isDisplaced s = true := late.1
              unfold beginHandling
              simp only [at_newTask, displaced, if_true]
              rcases started : h.newTask.1.beginTakeover i s with
                ⟨next, takeover | ⟨rival, probe⟩⟩
              · rw [takesAtOnce_of_done at_newTask started] at late
                cases late.2
              · rw [started] at begun
                refine ⟨some ⟨h.nextTask, .messageProbing i path message rival probe⟩, ?_,
                  .delayed rfl (by rw [here]; rfl) delayed⟩
                exact congrArg (· ++ _) begun
          | false =>
              obtain ⟨mid, calm, anchors, sessions, numbered, done⟩ :=
                calm_handled here delayed path message
              have looks : h.received? (.handling i path (.ok message)) =
                  some ⟨h.nextTask, i, path, message⟩ := by
                simp [received?, delayed, here]
              refine sequel_of_receive ⟨h.nextTask, i, path, message⟩ looks ?_ ?_ calm.tasks
                (numbered ▸ Nat.le_succ _) anchors sessions here done
              · intro request is first
                simp [asking?, asks?, errand, looks, first, is]
              · cases message <;> simp [callInHand?, here, Receipt.request?]

/-- A task goes on that is not on the side. -/
theorem sequel_of_resume {id : Nat} (moved : h.step? (.resume id) = some next)
    (busy : h.isPlain (.resume id) = false) :
    ∃ added, next.tasks = (h.apart (.resume id)).tasks ++ added.toList ∧
      h.Sequel (.resume id) added := by
  obtain ⟨⟨number, activity⟩, found, ready, rfl⟩ := resumed moved
  cases id_of_task? found
  have taken : (Move.resume number).task?.bind h.task? = some ⟨number, activity⟩ := found
  have inHand : h.callInHand? (.resume number) = activity.waitingCall? := by
    simp [callInHand?, found]
  cases activity with
  | openWaiting link target | openProbing link session guard rival probe =>
      have opens : h.opens? (.resume number) = some (number, link) := by
        simp [opens?, found, Activity.opened?]
      exact sequel_of_opening moved opens
  | callWaiting i request =>
      simp only [resume, resumeLock]
      split
      · exact sequel_of_execute inHand rfl rfl (fun s here => ⟨s, here, rfl⟩)
          fun _ informs => .onward taken rfl .executing informs
      · exact ⟨some _, rfl, .onward taken rfl (.again rfl) trivial⟩
  | guardWaiting =>
      simp only [resume, resumeLock]
      split
      · exact ⟨some _, rfl, .onward taken rfl .keeping trivial⟩
      · exact ⟨some _, rfl, .onward taken rfl (.again rfl) trivial⟩
  | callStarting i request =>
      exact sequel_of_execute inHand rfl rfl (fun s here => ⟨s, here, rfl⟩)
        fun _ informs => .onward taken rfl .starting informs
  | messageProbing i path message rival probe =>
      obtain ⟨alive, verdict⟩ := Option.isSome_iff_exists.mp ready
      have decided : (h.detach number).verdict? rival probe = some alive := verdict
      have concluded := reseats_concludeTakeover (h.detach number) i rival alive
      have anchors := anchors_concludeTakeover (h.detach number) i rival alive
      have goesOn : h.resume ⟨number, .messageProbing i path message rival probe⟩ =
          ((h.detach number).concludeTakeover i rival alive).1.receive number i path message := by
        simp only [resume, resumeProbe, decided]
      cases here : h.session? i with
      | none =>
          have absent : ((h.detach number).concludeTakeover i rival alive).1.session? i = none := by
            rw [session?, concluded.sessions]
            exact here
          have gone : (h.apart (.resume number)).isGone i = true := by
            have left : (h.apart (.resume number)).session? i = none := here
            simp [isGone, left]
          have same := (sameTasks_receive_absent absent number path message).tasks.trans
            concluded.tasks
          rw [goesOn]
          cases message with
          | call messageId command payload =>
              refine ⟨none, ?_, .lost inHand (.inr gone)⟩
              rw [same, Option.toList_none, List.append_nil]
              rfl
          | result | error => exact sequel_of_nobody inHand same
      | some s =>
          have looks : h.received? (.resume number) = some ⟨number, i, path, message⟩ := by
            simp [received?, found, here]
          refine sequel_of_receive ⟨number, i, path, message⟩ looks ?_ ?_ concluded.tasks
            (Nat.le_of_eq concluded.nextTask.symm) anchors concluded.sessions here goesOn
          · intro request is first
            simp [asking?, asks?, errand, looks, first, is]
          · rw [inHand]
            cases message <;> rfl
  | openResolving | executing | guarding => cases ready
  | takingOver | probing | sweeping | calling => simp [isPlain, found, Activity.isSide] at busy

theorem sequel_of_tasks (numbered : h.Numbered) (moved : h.step? move = some next) :
    ∃ added, next.tasks = (h.apart move).tasks ++ added.toList ∧ h.Sequel move added := by
  cases plain : h.isPlain move with
  | true =>
      obtain ⟨added, turnover⟩ := step?_tasks numbered moved
      refine ⟨added, turnover.tasks, .aside plain fun task member => ?_⟩
      have tasks := turnover.tasks
      cases sideways_of_step? plain moved with
      | waits others calm side =>
          rw [calm.tasks] at tasks
          refine side task ?_
          rw [List.append_cancel_left tasks]
          exact Option.mem_toList.mpr member
  | false =>
      cases move with
      | opening link target => exact sequel_of_opening moved rfl
      | guarding path =>
          cases moved
          unfold beginGuard
          dsimp only
          split
          · exact ⟨some ⟨h.nextTask, _⟩, rfl, .asked rfl rfl .guarding rfl trivial⟩
          · exact ⟨some ⟨h.nextTask, _⟩, rfl, .asked rfl rfl .guardWaiting rfl trivial⟩
      | handling i path decoded =>
          cases moved
          exact sequel_of_handling i path decoded
      | cancel id =>
          cases moved
          have same := tasks_cancel h id
          cases inHand : h.callInHand? (.cancel id) with
          | none => exact sequel_of_nobody inHand same
          | some call =>
              refine ⟨none, ?_, .lost inHand (.inl ⟨id, rfl⟩)⟩
              rw [same, Option.toList_none, List.append_nil]
              rfl
      | text link text =>
          cases moved
          exact sequel_of_nobody rfl (aloof_sendText h link text).tasks
      | advance ms =>
          cases moved
          exact sequel_of_nobody rfl rfl
      | resume id => exact sequel_of_resume moved plain
      | directoryAnswers id answer =>
          obtain ⟨link, target, guard, found, -⟩ := resolved moved
          have opens : h.opens? (.directoryAnswers id answer) = some (id, link) := by
            simp [opens?, found, Activity.opened?]
          exact sequel_of_opening moved opens
      | executorAnswers id reply =>
          obtain ⟨session, _, request, guard, -, rfl⟩ := executed moved
          exact sequel_of_nobody rfl
            (sameTasks_afterExecution (h.detach id) id session request guard reply).tasks
      | _ => cases plain

/-- Where the task comes from that begins to wait with a move. -/
theorem sequel_of_step? (numbered : h.Numbered) (moved : h.step? move = some next) :
    ∃ added, h.Turnover move next added ∧ h.Sequel move added := by
  obtain ⟨added, turnover⟩ := step?_tasks numbered moved
  obtain ⟨added', tasks, sequel⟩ := sequel_of_tasks numbered moved
  have same : added = added' := by
    have lists := List.append_cancel_left (turnover.tasks.symm.trans tasks)
    cases added <;> cases added' <;> simp_all
  exact ⟨added, turnover, same ▸ sequel⟩

end

end Hub

end StationHub

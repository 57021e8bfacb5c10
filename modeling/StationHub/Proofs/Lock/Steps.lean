import StationHub.Proofs.Lock.Attempts

/-!
What a move does to the path lock and to the stakes in it.

* `Handover`: the ways in which a move changes the lock; `handover_of_step?` has every move be one
  of them.
* `custody_of_run?`: the lock and the stakes agree in every run.
-/

namespace StationHub.Hub

variable {id : Nat} {guard : Guard} {tried : PathLock × Option Guard}

/-! ### Moves -/

/-- What a move does to the path lock. -/
inductive Handover (h : Hub) (move : Move) (next : Hub) : Prop where
  /-- Nothing; a task may have gone on with its guard. -/
  | idle : h.attempt? move = none → next.lock = h.lock → next.stakes.Perm h.stakes →
      Handover h move next
  /-- Somebody asks for a path or tries again, and waits then or has a guard. -/
  | keeps (id : Nat) (lock : PathLock) (result : Option Guard) :
      h.attempt? move = some (id, lock, result) → next.lock = lock →
      next.stakes.Perm (⟨id, result⟩ :: (h.apart move).stakes) → Handover h move next
  /-- Somebody gets a guard, is done at once, and gives it up again. -/
  | passes (id : Nat) (lock : PathLock) (guard : Guard) :
      h.attempt? move = some (id, lock, some guard) → next.lock = lock.release guard →
      next.stakes.Perm (h.apart move).stakes → Handover h move next
  /-- Somebody who has a guard gives it up. -/
  | drops (id : Nat) (guard : Guard) : h.attempt? move = none →
      h.stakes.Perm (⟨id, some guard⟩ :: next.stakes) → next.lock = h.lock.release guard →
      Handover h move next
  /-- Somebody who waits is given up. -/
  | leaves (id : Nat) : move = .cancel id → h.attempt? move = none →
      h.stakes.Perm (⟨id, none⟩ :: next.stakes) → next.lock = h.lock.withdraw id →
      Handover h move next

section

variable {h next : Hub} {move : Move}

theorem lock_apart (h : Hub) (move : Move) : (h.apart move).lock = h.lock := by
  unfold apart
  split <;> rfl

theorem now_apart (h : Hub) (move : Move) : (h.apart move).now = h.now := by
  unfold apart
  split <;> rfl

/-- A task that has no stake goes on. -/
theorem handover_of_apathy (numbered : h.Numbered)
    (nothing : (move.task?.bind h.task?).bind Task.stake? = none)
    (nobody : h.attempt? move = none) (apathy : (h.apart move).Apathy next) :
    h.Handover move next ∧ next.now = h.now := by
  have stakes := stakes_apart numbered move
  rw [nothing] at stakes
  refine ⟨.idle nobody (apathy.lock.trans (lock_apart h move)) ?_,
    apathy.now.trans (now_apart h move)⟩
  rw [apathy.stakes]
  exact stakes.symm

/-- A task asks for a path or tries again. -/
theorem handover_of_tries (attempts : h.attempt? move = some (id, tried))
    (tries : Tries id tried (h.apart move) next) :
    h.Handover move next ∧ next.now = h.now := by
  cases tries with
  | keeps lock stakes now =>
      refine ⟨.keeps id tried.1 tried.2 attempts lock ?_, now.trans (now_apart h move)⟩
      rw [stakes]
      exact List.perm_append_singleton _ _
  | passes guard got lock stakes now =>
      refine ⟨.passes id tried.1 guard (got ▸ attempts) lock ?_, now.trans (now_apart h move)⟩
      rw [stakes]

/-- A task that has a guard goes on with it or gives it up. -/
theorem handover_of_guard (numbered : h.Numbered)
    (has : (move.task?.bind h.task?).bind Task.stake? = some ⟨id, some guard⟩)
    (nobody : h.attempt? move = none)
    (tries : Tries id ((h.apart move).lock, some guard) (h.apart move) next) :
    h.Handover move next ∧ next.now = h.now := by
  have before := stakes_apart numbered move
  rw [has] at before
  cases tries with
  | keeps lock stakes now =>
      refine ⟨.idle nobody (lock.trans (lock_apart h move)) ?_, now.trans (now_apart h move)⟩
      rw [stakes]
      exact (List.perm_append_singleton _ _).trans before.symm
  | passes guard' got lock stakes now =>
      cases got
      refine ⟨.drops id guard nobody ?_ ?_, now.trans (now_apart h move)⟩
      · rw [stakes]
        exact before
      · rw [lock, lock_apart]

/-- A session looks at a message. -/
theorem handover_of_received (numbered : h.Numbered) (receipt : Receipt) {mid : Hub}
    (asks : h.asks? move = if h.isFirst receipt then some (receipt.task, receipt.path) else none)
    (retries : h.retries? move = none)
    (nothing : (move.task?.bind h.task?).bind Task.stake? = none)
    (calm : (h.apart move).Calm mid) (sessions : mid.sessions = h.sessions) {s : Session}
    (here : h.session? receipt.session = some s)
    (done : next = mid.receive receipt.task receipt.session receipt.path receipt.message) :
    h.Handover move next ∧ next.now = h.now := by
  have there : mid.session? receipt.session = some s := by
    rw [session?, sessions]
    exact here
  have first : mid.isFirst receipt = h.isFirst receipt := by
    unfold isFirst hasCalled
    rw [there, here]
  subst done
  cases known : h.isFirst receipt with
  | true =>
      rw [known, if_pos rfl] at asks
      rw [known] at first
      have tries := Tries.after calm.toAloof (tries_receive there first)
      rw [calm.lock, calm.now, lock_apart, now_apart] at tries
      refine handover_of_tries ?_ tries
      rw [attempt?, asks]
  | false =>
      rw [known, if_neg Bool.false_ne_true] at asks
      rw [known] at first
      refine handover_of_apathy numbered nothing ?_ (.after calm.toAloof
        (apathy_receive receipt fun _ _ => first))
      rw [attempt?, asks, retries]
      rfl

theorem ticket?_stake (task : Task) : (task.stake?.bind Stake.ticket?) =
    if task.activity.waitsForPath then some task.id else none := by
  unfold Task.stake?
  split
  · rfl
  · cases Activity.guard? task.activity <;> rfl

/-- Who waits in the queue. -/
theorem tickets_eq (h : Hub) : h.stakes.filterMap Stake.ticket? =
    (h.tasks.filter fun task => task.activity.waitsForPath).map Task.id := by
  rw [stakes, List.filterMap_filterMap]
  induction h.tasks with
  | nil => rfl
  | cons task rest ih =>
      rw [List.filterMap_cons, List.filter_cons, ticket?_stake, ih]
      cases task.activity.waitsForPath <;> rfl

theorem mem_tickets : id ∈ h.stakes.filterMap Stake.ticket? ↔
    ∃ task ∈ h.tasks, task.id = id ∧ task.activity.waitsForPath = true := by
  rw [tickets_eq, List.mem_map]
  refine exists_congr fun task => ?_
  rw [List.mem_filter, and_assoc, and_comm (a := task.id = id)]

theorem not_mem_tickets_apart (touched : move.task? = some id) :
    id ∉ (h.apart move).stakes.filterMap Stake.ticket? := by
  intro member
  obtain ⟨task, inside, same, -⟩ := mem_tickets.mp member
  exact (mem_apart.mp inside).2 (same ▸ touched)

/-- A task that is given up leaves the queue or gives up its guard. -/
theorem handover_cancel (numbered : h.Numbered) (custody : Custody h.lock h.stakes) (id : Nat) :
    h.Handover (.cancel id) (h.cancel id) := by
  have before := stakes_apart numbered (.cancel id)
  have split : h.stakes.Perm (((h.task? id).bind Task.stake?).toList ++ (h.detach id).stakes) :=
    before
  have absent : ∀ task, h.task? id = some task → task.activity.waitsForPath = false →
      h.lock.withdraw id = h.lock := by
    intro task found rests
    refine custody.withdraw_of_absent fun member => ?_
    obtain ⟨other, inside, same, waits⟩ := mem_tickets.mp member
    rw [numbered.eq_of_task? found inside same, rests] at waits
    cases waits
  unfold cancel
  cases found : h.task? id with
  | none =>
      exact .idle rfl rfl (.refl _)
  | some task =>
      rw [found, Option.bind_some] at split
      dsimp only
      cases waits : task.activity.waitsForPath with
      | true =>
          have without := Activity.guard?_of_waitsForPath waits
          have stake : task.stake? = some ⟨id, none⟩ := by
            rw [Task.stake?, if_pos waits, id_of_task? found]
          rw [without]
          rw [stake] at split
          exact .leaves id rfl rfl split rfl
      | false =>
          have same := absent task found waits
          cases has : Hub.Activity.guard? task.activity with
          | none =>
              have stake : task.stake? = none := by
                rw [Task.stake?, waits, if_neg Bool.false_ne_true, has]
                rfl
              rw [stake] at split
              exact .idle rfl same split.symm
          | some guard =>
              have stake : task.stake? = some ⟨id, some guard⟩ := by
                rw [Task.stake?, waits, if_neg Bool.false_ne_true, has, Option.map_some,
                  id_of_task? found]
              rw [stake] at split
              refine .drops id guard rfl split ?_
              show (h.lock.withdraw id).release guard = _
              rw [same]

end

theorem attempt?_of_isPlain {h : Hub} {move : Move} (plain : h.isPlain move = true) :
    h.attempt? move = none := by
  cases move with
  | opening | handling | guarding | cancel | directoryAnswers | executorAnswers | text | advance =>
      cases plain
  | resume id =>
      cases found : h.task? id with
      | none => simp [isPlain, found] at plain
      | some task =>
          obtain ⟨number, activity⟩ := task
          have side : activity.isSide = true := by simpa [isPlain, found] using plain
          cases activity <;> first
            | simp [attempt?, asks?, received?, retries?, found, Activity.waitsForPath]; done
            | cases side
  | _ => rfl

theorem stake_of_isPlain {h : Hub} {move : Move} (plain : h.isPlain move = true) :
    (move.task?.bind h.task?).bind Task.stake? = none := by
  cases move with
  | opening | handling | guarding | cancel | directoryAnswers | executorAnswers | text | advance =>
      cases plain
  | resume id =>
      show (h.task? id).bind Task.stake? = none
      cases found : h.task? id with
      | none => rfl
      | some task => exact Task.stake?_of_isSide (by simpa [isPlain, found] using plain)
  | _ => rfl

/-- A message arrives. -/
theorem handover_handling {h : Hub} (numbered : h.Numbered) (i : Nat) (path : String)
    (decoded : Except Message.Malformation Message) :
    h.Handover (.handling i path decoded) (h.beginHandling i path decoded).1 ∧
      (h.beginHandling i path decoded).1.now = h.now := by
  cases decoded with
  | error malformed =>
      have calm := ((calm_newTask h).trans (calm_count _ .protocolError)).trans
        (calm_conclude _ h.nextTask .handled)
      exact handover_of_apathy numbered rfl rfl calm.toAloof.apathy
  | ok message =>
      cases delayed : h.delays i with
      | true =>
          refine handover_of_apathy numbered rfl ?_ (apathy_delayed delayed path message)
          simp [attempt?, asks?, received?, retries?, delayed]
      | false =>
          cases here : h.session? i with
          | none =>
              have absent : h.newTask.1.session? i = none := here
              have calm := (calm_newTask h).trans (calm_conclude _ h.nextTask .handled)
              refine handover_of_apathy numbered rfl ?_ ?_
              · simp [attempt?, asks?, received?, retries?, delayed, here]
              · unfold beginHandling
                simp only [absent]
                exact calm.toAloof.apathy
          | some s =>
              obtain ⟨mid, calm, -, sessions, -, done⟩ := calm_handled here delayed path message
              refine handover_of_received numbered ⟨h.nextTask, i, path, message⟩ ?_ rfl rfl
                calm sessions here done
              simp [asks?, received?, delayed, here]

/-- A task goes on that is not on the side. -/
theorem handover_resume {h next : Hub} {id : Nat} (numbered : h.Numbered)
    (moved : h.step? (.resume id) = some next) (busy : h.isPlain (.resume id) = false) :
    h.Handover (.resume id) next ∧ next.now = h.now := by
  obtain ⟨⟨number, activity⟩, found, ready, rfl⟩ := resumed moved
  cases id_of_task? found
  have apart : h.apart (.resume number) = h.detach number := rfl
  have waiting : activity.waitsForPath = true →
      h.attempt? (.resume number) = some (number, h.lock.resume number h.now) := by
    intro waits
    cases activity <;> first
      | simp [attempt?, asks?, received?, retries?, found, Activity.waitsForPath]; done
      | cases waits
  cases activity with
  | openWaiting link target =>
      have tries : Tries number (h.lock.resume number h.now) (h.detach number)
          ((h.detach number).resumeLock ⟨number, .openWaiting link target⟩
            fun h guard => h.afterGuard number link target guard) :=
        tries_resumeLock (h.detach number) ⟨number, .openWaiting link target⟩ rfl
          fun lock _ => tries_afterGuard { h.detach number with lock } link target
      exact handover_of_tries (waiting rfl) tries
  | callWaiting session request =>
      have tries : Tries number (h.lock.resume number h.now) (h.detach number)
          ((h.detach number).resumeLock ⟨number, .callWaiting session request⟩
            fun h guard => h.execute number session request (some guard)) :=
        tries_resumeLock (h.detach number) ⟨number, .callWaiting session request⟩ rfl
          fun lock _ => tries_execute { h.detach number with lock } session request
      exact handover_of_tries (waiting rfl) tries
  | guardWaiting =>
      have tries : Tries number (h.lock.resume number h.now) (h.detach number)
          ((h.detach number).resumeLock ⟨number, .guardWaiting⟩
            fun h guard => h.keepGuard number guard) :=
        tries_resumeLock (h.detach number) ⟨number, .guardWaiting⟩ rfl
          fun lock _ => tries_keepGuard { h.detach number with lock }
      exact handover_of_tries (waiting rfl) tries
  | openProbing link session guard rival probe =>
      obtain ⟨alive, verdict⟩ := Option.isSome_iff_exists.mp ready
      have decided : (h.detach number).verdict? rival probe = some alive := verdict
      have concluded := calm_concludeTakeover (h.detach number) session rival alive
      have has : ((Move.resume number).task?.bind h.task?).bind Task.stake? =
          some ⟨number, some guard⟩ := by
        show (h.task? number).bind Task.stake? = _
        rw [found]
        rfl
      refine handover_of_guard numbered has ?_ ?_
      · simp [attempt?, asks?, received?, retries?, found, Activity.waitsForPath]
      · simp only [resume, resumeProbe, decided]
        rw [apart, ← concluded.lock]
        exact .after concluded.toAloof (tries_afterTakeover _ link session)
  | messageProbing session path message rival probe =>
      obtain ⟨alive, verdict⟩ := Option.isSome_iff_exists.mp ready
      have decided : (h.detach number).verdict? rival probe = some alive := verdict
      have concluded := calm_concludeTakeover (h.detach number) session rival alive
      have nothing : ((Move.resume number).task?.bind h.task?).bind Task.stake? = none := by
        show (h.task? number).bind Task.stake? = _
        rw [found]
        rfl
      have goesOn : h.resume ⟨number, .messageProbing session path message rival probe⟩ =
          ((h.detach number).concludeTakeover session rival alive).1.receive number session path
            message := by
        simp only [resume, resumeProbe, decided]
      cases here : h.session? session with
      | none =>
          have same := concludeTakeover_absent (h := h.detach number) here rival alive
          refine handover_of_apathy numbered nothing ?_ ?_
          · simp [attempt?, asks?, received?, retries?, found, here, Activity.waitsForPath]
          · rw [goesOn, same]
            refine apathy_receive ⟨number, session, path, message⟩ fun s there => ?_
            have there' : h.session? session = some s := there
            rw [here] at there'
            cases there'
      | some s =>
          have sessions := (reseats_concludeTakeover (h.detach number) session rival alive).sessions
          refine handover_of_received numbered ⟨number, session, path, message⟩ ?_ ?_ nothing
            concluded sessions here goesOn
          · simp [asks?, received?, found, here]
          · simp [retries?, found, Activity.waitsForPath]
  | callStarting session request =>
      refine handover_of_apathy numbered ?_ ?_ (apathy_execute _ number session request)
      · show (h.task? number).bind Task.stake? = _
        rw [found]
        rfl
      · simp [attempt?, asks?, received?, retries?, found, Activity.waitsForPath]
  | openResolving | executing | guarding => cases ready
  | takingOver | probing | sweeping | calling => simp [isPlain, found, Activity.isSide] at busy

/-- Every move is one of the ways in which the lock changes, and takes the time that it takes. -/
theorem handover_of_step? {h next : Hub} {move : Move} (numbered : h.Numbered)
    (custody : Custody h.lock h.stakes) (moved : h.step? move = some next) :
    h.Handover move next ∧ next.now = h.now + move.elapsed := by
  cases plain : h.isPlain move with
  | true =>
      have still : move.elapsed = 0 := by cases move <;> first | rfl | cases plain
      rw [still]
      exact handover_of_apathy numbered (stake_of_isPlain plain) (attempt?_of_isPlain plain)
        (sideways_of_step? plain moved).apathy
  | false =>
      cases move with
      | opening link target =>
          simp only [step?, Option.ite_none_right_eq_some, Option.some.injEq] at moved
          obtain ⟨-, rfl⟩ := moved
          exact handover_of_tries rfl (tries_beginOpening h link target)
      | guarding path =>
          cases moved
          exact handover_of_tries rfl (tries_beginGuard h path)
      | handling session path decoded =>
          cases moved
          exact handover_handling numbered session path decoded
      | cancel id =>
          cases moved
          refine ⟨handover_cancel numbered custody id, ?_⟩
          unfold cancel
          split
          · rfl
          · dsimp only
            split <;> rfl
      | text link text =>
          cases moved
          exact handover_of_apathy numbered rfl rfl (aloof_sendText h link text).apathy
      | advance ms =>
          cases moved
          exact ⟨.idle rfl rfl (.refl _), rfl⟩
      | resume id => exact handover_resume numbered moved plain
      | directoryAnswers id answer =>
          obtain ⟨link, target, guard, found, rfl⟩ := resolved moved
          have has : (h.task? id).bind Task.stake? = some ⟨id, some guard⟩ := by
            rw [found]
            rfl
          exact handover_of_guard numbered has rfl (tries_afterDirectory (h.detach id) link answer)
      | executorAnswers id reply =>
          obtain ⟨session, _, request, guard, found, rfl⟩ := executed moved
          cases guard with
          | none =>
              refine handover_of_apathy numbered ?_ rfl
                (aloof_afterExecution (h.detach id) id session request reply).apathy
              show (h.task? id).bind Task.stake? = _
              rw [found]
              rfl
          | some guard =>
              have has : (h.task? id).bind Task.stake? = some ⟨id, some guard⟩ := by
                rw [found]
                rfl
              exact handover_of_guard numbered has rfl
                (tries_afterExecution (h.detach id) session request reply)
      | _ => cases plain

/-! ### Runs -/

/-- Nobody waits twice. -/
theorem nodup_tickets {h : Hub} (numbered : h.Numbered) :
    (h.stakes.filterMap Stake.ticket?).Nodup := by
  rw [tickets_eq]
  exact numbered.distinct.sublist (List.filter_sublist.map _)

section

variable {h next : Hub} {move : Move}

/-- Who asks for a path has no stake yet. -/
theorem stake_of_asks? {path : String} (asks : h.asks? move = some (id, path)) :
    (move.task?.bind h.task?).bind Task.stake? = none := by
  cases move with
  | resume id =>
      show (h.task? id).bind Task.stake? = none
      cases found : h.task? id with
      | none => rfl
      | some task =>
          obtain ⟨number, activity⟩ := task
          cases activity <;> first
            | rfl
            | simp [asks?, received?, found] at asks
  | opening | guarding | handling => rfl
  | _ => cases asks

theorem retries?_eq_some (retries : h.retries? move = some id) :
    move = .resume id ∧ ∃ task, h.task? id = some task ∧ task.activity.waitsForPath = true := by
  cases move with
  | resume number =>
      obtain ⟨task, found, waits⟩ := Option.bind_eq_some_iff.mp retries
      split at waits
      · rename_i is
        cases waits
        exact ⟨rfl, task, found, is⟩
      · cases waits
  | _ => cases retries

/-- Who has asked for a path or tried again waits or has a guard. -/
theorem custody_of_attempt? (numbered : h.Numbered) (custody : Custody h.lock h.stakes)
    {lock : PathLock} {result : Option Guard}
    (attempts : h.attempt? move = some (id, lock, result)) :
    Custody lock (⟨id, result⟩ :: (h.apart move).stakes) := by
  have apart := stakes_apart numbered move
  unfold attempt? at attempts
  split at attempts
  · rename_i id path asks
    rw [stake_of_asks? asks] at apart
    obtain ⟨rfl, asked⟩ := Prod.mk.inj (Option.some.inj attempts)
    exact (custody.perm apart).request asked
  · obtain ⟨id, retries, tried⟩ := Option.map_eq_some_iff.mp attempts
    obtain ⟨rfl, again⟩ := Prod.mk.inj tried
    obtain ⟨rfl, task, found, waits⟩ := retries?_eq_some retries
    have stake : (((Move.resume id).task?.bind h.task?).bind Task.stake?) = some ⟨id, none⟩ := by
      show (h.task? id).bind Task.stake? = _
      rw [found, Option.bind_some, Task.stake?, if_pos waits, id_of_task? found]
    rw [stake] at apart
    exact (custody.perm apart).resume (not_mem_tickets_apart rfl) again

/-- The lock and the stakes agree after every move. -/
theorem custody_of_step? (numbered : h.Numbered) (custody : Custody h.lock h.stakes)
    (moved : h.step? move = some next) : Custody next.lock next.stakes := by
  cases (handover_of_step? numbered custody moved).1 with
  | idle _ lock stakes =>
      rw [lock]
      exact custody.perm stakes.symm
  | keeps id lock result attempts same stakes =>
      rw [same]
      exact (custody_of_attempt? numbered custody attempts).perm stakes.symm
  | passes id lock guard attempts same stakes =>
      rw [same]
      exact (custody_of_attempt? numbered custody attempts).release.perm stakes.symm
  | drops id guard _ stakes same =>
      rw [same]
      exact (custody.perm stakes).release
  | leaves id _ _ stakes same =>
      rw [same]
      have distinct := (stakes.filterMap Stake.ticket?).nodup_iff.mp (nodup_tickets numbered)
      exact (custody.perm stakes).withdraw (List.nodup_cons.mp distinct).1

end

/-- The lock and the stakes agree in every run. -/
theorem custody_of_run? {settings : Settings} {mark : Mark} {moves : List Move} {h : Hub}
    (run : (fresh settings mark).run? moves = some h) : Custody h.lock h.stakes := by
  have kept := run?_induction (P := fun h => h.Numbered ∧ Custody h.lock h.stakes)
    (fun ⟨numbered, custody⟩ moved =>
      ⟨step?_numbered numbered moved, custody_of_step? numbered custody moved⟩)
    ⟨numbered_fresh settings mark, custody_fresh _ _⟩ run
  exact kept.2

end StationHub.Hub

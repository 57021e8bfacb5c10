import StationHub.Proofs.Calls.Received
import StationHub.Proofs.Lock.Custody

/-!
What operations do to the path lock and to the stakes in it.

* `asks?`, `retries?`, `attempt?`: who asks for a path with a move, or tries again.
* `Tries`: a task is left with what it tried; each operation that has to do with the lock has its
  lemma `tries_…`.
* `Apathy`: everything else leaves the lock and the stakes alone.
-/

namespace StationHub

/-- The activity waits for a path. -/
def Activity.waitsForPath : Activity → Bool
  | .openWaiting .. | .callWaiting .. | .guardWaiting => true
  | _ => false

/-- Who waits for a path has no guard. -/
theorem Activity.guard?_of_waitsForPath {activity : Activity}
    (waits : activity.waitsForPath = true) : Hub.Activity.guard? activity = none := by
  cases activity <;> first | rfl | cases waits

/-- The stake of a task in the path lock. -/
def Task.stake? (task : Task) : Option Stake :=
  if task.activity.waitsForPath then some ⟨task.id, none⟩
  else (Hub.Activity.guard? task.activity).map fun guard => ⟨task.id, some guard⟩

theorem Task.holder_stake? {task : Task} {stake : Stake} (is : task.stake? = some stake) :
    stake.holder = task.id := by
  unfold stake? at is
  split at is
  · cases is
    rfl
  · obtain ⟨guard, -, rfl⟩ := Option.map_eq_some_iff.mp is
    rfl

theorem Task.stake?_of_isSide {task : Task} (side : task.activity.isSide = true) :
    task.stake? = none := by
  obtain ⟨id, activity⟩ := task
  cases activity <;> first | rfl | cases side

/-- What a path is wanted for. -/
inductive Errand where
  | opening (link : Nat) (target : Target)
  /-- The first call of a session is to be executed. -/
  | call (session : Nat) (request : Request)
  /-- Somebody else wants to have the guard. -/
  | keeping

/-- Somebody asks for a path. -/
structure Asking where
  task : Nat
  path : String
  errand : Errand
  time : Nat

namespace Hub

/-- The stakes of all tasks that wait. -/
def stakes (h : Hub) : List Stake := h.tasks.filterMap Task.stake?

/-! ### Who asks for a path -/

/-- The task that asks for a path with the move, and the path. -/
def asks? (h : Hub) (move : Move) : Option (Nat × String) :=
  match move with
  | .opening _ target => some (h.nextTask, target.path)
  | .guarding path => some (h.nextTask, path)
  | move =>
      (h.received? move).bind fun receipt =>
        if h.isFirst receipt then some (receipt.task, receipt.path) else none

/-- What the path is wanted for that is asked for with the move. -/
def errand (h : Hub) : Move → Errand
  | .opening link target => .opening link target
  | move =>
      match h.received? move with
      | some receipt => receipt.request?.elim .keeping (.call receipt.session)
      | none => .keeping

/-- What is asked with the move. -/
def asking? (h : Hub) (move : Move) : Option Asking :=
  (h.asks? move).map fun asks => ⟨asks.1, asks.2, h.errand move, h.now⟩

/-- The task that tries for its path again with the move. -/
def retries? (h : Hub) : Move → Option Nat
  | .resume id =>
      (h.task? id).bind fun task => if task.activity.waitsForPath then some id else none
  | _ => none

/-- The task that asks for a path or tries again, the lock after that, and the guard, if the task
gets one. -/
def attempt? (h : Hub) (move : Move) : Option (Nat × PathLock × Option Guard) :=
  match h.asks? move with
  | some (id, path) => some (id, h.lock.request id path h.now)
  | none => (h.retries? move).map fun id => (id, h.lock.resume id h.now)

/-- How much time passes with the move. -/
def Move.elapsed : Move → Nat
  | .advance ms => ms
  | _ => 0

/-! ### Stakes -/

theorem stakes_congr {h next : Hub} (tasks : next.tasks = h.tasks) : next.stakes = h.stakes := by
  unfold stakes
  rw [tasks]

theorem Sideways.stakes {h next : Hub} (sideways : h.Sideways next) : next.stakes = h.stakes := by
  cases sideways with
  | waits added calm side =>
      have none : added.filterMap Task.stake? = [] := by
        rw [List.filterMap_eq_nil_iff]
        exact fun task member => Task.stake?_of_isSide (side task member)
      unfold Hub.stakes
      rw [List.filterMap_append, none, List.append_nil, calm.tasks]

theorem stakes_suspend (h : Hub) (id : Nat) (activity : Activity) :
    (h.suspend id activity).stakes = h.stakes ++ (Task.stake? ⟨id, activity⟩).toList := by
  unfold stakes suspend
  rw [List.filterMap_append, List.filterMap_cons]
  cases Task.stake? ⟨id, activity⟩ <;> rfl

/-- What the tasks have, without what the one has that the move is a step of. -/
theorem filterMap_apart {α : Type} {h : Hub} (numbered : h.Numbered) (move : Move)
    (item? : Task → Option α) :
    (h.tasks.filterMap item?).Perm (((move.task?.bind h.task?).bind item?).toList ++
      (h.apart move).tasks.filterMap item?) := by
  have split := (tasks_apart numbered move).filterMap item?
  rw [List.filterMap_append] at split
  cases known : move.task?.bind h.task? with
  | none =>
      rw [known] at split
      exact split
  | some task =>
      rw [known, Option.toList_some, List.filterMap_cons] at split
      rw [Option.bind_some]
      cases is : item? task <;> rw [is] at split <;> exact split

theorem stakes_apart {h : Hub} (numbered : h.Numbered) (move : Move) :
    h.stakes.Perm (((move.task?.bind h.task?).bind Task.stake?).toList ++
      (h.apart move).stakes) :=
  filterMap_apart numbered move Task.stake?

/-! ### Attempts -/

/-- Task number `id`, which asks for a path or tries again, is left with what it `tried`: it waits,
or goes on with its guard, or is done and gives the guard up again. -/
inductive Tries (id : Nat) (tried : PathLock × Option Guard) (h next : Hub) : Prop where
  | keeps : next.lock = tried.1 → next.stakes = h.stakes ++ [⟨id, tried.2⟩] → next.now = h.now →
      Tries id tried h next
  | passes (guard : Guard) : tried.2 = some guard → next.lock = tried.1.release guard →
      next.stakes = h.stakes → next.now = h.now → Tries id tried h next

variable {id : Nat} {guard : Guard} {tried : PathLock × Option Guard}

theorem Tries.after {h mid next : Hub} (aloof : h.Aloof mid) (tries : Tries id tried mid next) :
    Tries id tried h next := by
  cases tries with
  | keeps lock stakes now =>
      exact .keeps lock (stakes_congr aloof.tasks ▸ stakes) (now.trans aloof.now)
  | passes guard got lock stakes now =>
      exact .passes guard got lock (stakes.trans (stakes_congr aloof.tasks)) (now.trans aloof.now)

/-- What has been tried may leave the lock behind. -/
theorem Tries.withLock {h next : Hub} {lock : PathLock} {result : Option Guard}
    (tries : Tries id (lock, result) { h with lock } next) : Tries id (lock, result) h next := by
  cases tries with
  | keeps lock' stakes now => exact .keeps lock' stakes now
  | passes guard got lock' stakes now => exact .passes guard got lock' stakes now

theorem tries_endOpening (h : Hub) (result : Except Failure Nat) :
    Tries id (h.lock, some guard) h (h.endOpening id guard result) :=
  .passes guard rfl rfl rfl rfl

theorem tries_afterGuard (h : Hub) (link : Nat) (target : Target) :
    Tries id (h.lock, some guard) h (h.afterGuard id link target guard) := by
  unfold afterGuard
  split
  · exact tries_endOpening h _
  · split
    · have closed := (calm_closed h link .shutdown).toAloof
      rw [← closed.lock]
      exact .after closed (tries_endOpening _ _)
    · exact .keeps rfl (stakes_suspend _ id _) rfl

theorem tries_afterTakeover (h : Hub) (link session : Nat) :
    Tries id (h.lock, some guard) h (h.afterTakeover id link session guard) := by
  unfold afterTakeover
  split
  · have closed := calm_closed h link .shutdown
    dsimp only
    split
    · rw [← closed.lock]
      exact .after closed.toAloof (tries_endOpening _ _)
    · rename_i s _
      have emptied := closed.trans (calm_setRoster _ s.variant
        (((h.closed link .shutdown).roster s.variant).removeIfBound s.key link).1)
      rw [← emptied.lock]
      exact .after emptied.toAloof (tries_endOpening _ _)
  · exact .passes guard rfl rfl rfl rfl

theorem tries_afterIdentified (h : Hub) (link : Nat) (identity : Identity) :
    Tries id (h.lock, some guard) h (h.afterIdentified id link guard identity) := by
  cases here : h.link? link with
  | none =>
      unfold afterIdentified
      rw [here]
      exact tries_endOpening h _
  | some l =>
      have made := calm_withSession h link l.variant identity
      have begun := made.trans (calm_beginTakeover (h.withSession link l.variant identity)
        h.sessions.length (h.newSession link l.variant identity))
      rw [afterIdentified_eq here]
      split <;> rename_i started <;> rw [started] at begun
      · rw [← begun.lock]
        exact .after begun.toAloof (tries_afterTakeover _ link _)
      · rw [← begun.lock]
        exact .after begun.toAloof (.keeps rfl (stakes_suspend _ id _) rfl)

/-- An opening keeps its guard or gives it up when the directory has answered. -/
theorem tries_afterDirectory (h : Hub) (link : Nat) (answer : Except Failure Identity) :
    Tries id (h.lock, some guard) h (h.afterDirectory id link guard answer) := by
  unfold afterDirectory
  cases answer with
  | error failure =>
      have closed := (calm_count h .resolutionFailed).trans (calm_closed _ link .unidentified)
      rw [← closed.lock]
      exact .after closed.toAloof (tries_endOpening _ _)
  | ok identity =>
      dsimp only
      split
      · exact tries_endOpening h _
      · split
        · have closed := (calm_closed h link .shutdown).toAloof
          rw [← closed.lock]
          exact .after closed (tries_endOpening _ _)
        · exact tries_afterIdentified h link identity

theorem tries_execute (h : Hub) (session : Nat) (request : Request) :
    Tries id (h.lock, some guard) h (h.execute id session request (some guard)) := by
  unfold execute
  split
  · exact .keeps rfl (stakes_suspend h id _) rfl
  · exact .passes guard rfl rfl rfl rfl

/-- The answer to a call leaves the lock to the guard of the call. -/
theorem aloof_afterExecution (h : Hub) (id session : Nat) (request : Request) (reply : Reply) :
    h.Aloof (h.afterExecution id session request none reply) := by
  unfold afterExecution
  dsimp only
  split
  · exact .refl h
  · rename_i s _
    have sent := aloof_sendText h s.link (Reply.message request.id reply).encode
    split <;> rename_i offered <;> rw [offered] at sent
    · exact sent.trans ⟨rfl, rfl, rfl⟩
    · exact sent

theorem tries_afterExecution (h : Hub) (session : Nat) (request : Request) (reply : Reply) :
    Tries id (h.lock, some guard) h (h.afterExecution id session request (some guard) reply) := by
  have answered := aloof_afterExecution h id session request reply
  rw [← answered.lock]
  exact .after answered (.passes guard rfl rfl rfl rfl)

theorem tries_keepGuard (h : Hub) : Tries id (h.lock, some guard) h (h.keepGuard id guard) :=
  .keeps rfl (stakes_suspend _ id _) rfl

theorem tries_beginOpening (h : Hub) (link : Nat) (target : Target) :
    Tries h.nextTask (h.lock.request h.nextTask target.path h.now) h
      (h.beginOpening link target).1 := by
  have begun := (calm_newTask h).toAloof
  unfold beginOpening
  dsimp only
  split
  · rename_i lock guard asked
    have asked' : h.lock.request h.nextTask target.path h.now = (lock, some guard) := asked
    rw [asked']
    exact .after begun (.withLock (tries_afterGuard { h.newTask.1 with lock } link target))
  · rename_i lock asked
    have asked' : h.lock.request h.nextTask target.path h.now = (lock, none) := asked
    rw [asked']
    exact .after begun (.keeps rfl (stakes_suspend _ _ _) rfl)

theorem tries_beginGuard (h : Hub) (path : String) :
    Tries h.nextTask (h.lock.request h.nextTask path h.now) h (h.beginGuard path).1 := by
  have begun := (calm_newTask h).toAloof
  unfold beginGuard
  dsimp only
  split
  · rename_i lock guard asked
    have asked' : h.lock.request h.nextTask path h.now = (lock, some guard) := asked
    rw [asked']
    exact .after begun (.withLock (tries_keepGuard { h.newTask.1 with lock }))
  · rename_i lock asked
    have asked' : h.lock.request h.nextTask path h.now = (lock, none) := asked
    rw [asked']
    exact .after begun (.keeps rfl (stakes_suspend _ _ _) rfl)

theorem tries_resumeLock (h : Hub) (task : Task) {next : Hub → Guard → Hub}
    (waits : task.activity.waitsForPath = true)
    (goesOn : ∀ lock guard, Tries task.id (lock, some guard) { h with lock }
      (next { h with lock } guard)) :
    Tries task.id (h.lock.resume task.id h.now) h (h.resumeLock task next) := by
  unfold resumeLock
  split <;> rename_i tried
  · rw [tried]
    exact .withLock (goesOn _ _)
  · rw [tried]
    refine .keeps rfl ?_ rfl
    have stake : Task.stake? ⟨task.id, task.activity⟩ = some ⟨task.id, none⟩ := if_pos waits
    rw [stakes_suspend, stake]
    rfl

/-! ### Messages -/

theorem aloof_noteCall (h : Hub) (i : Nat) (change : Session → Session) :
    h.Aloof (h.modifySession i change) := ⟨rfl, rfl, rfl⟩

/-- The first call of a session asks for its path. -/
theorem tries_receive {h : Hub} {receipt : Receipt} {s : Session}
    (here : h.session? receipt.session = some s) (first : h.isFirst receipt = true) :
    Tries receipt.task (h.lock.request receipt.task receipt.path h.now) h
      (h.receive receipt.task receipt.session receipt.path receipt.message) := by
  obtain ⟨id, session, path, message⟩ := receipt
  cases message with
  | result => cases first
  | error => cases first
  | call messageId command payload =>
      have new : s.noteCall.2 = true := by
        have here' : h.session? session = some s := here
        simpa [isFirst, hasCalled, here', Message.kind, Session.noteCall] using first
      refine .after (aloof_noteCall h session fun _ => s.noteCall.1) ?_
      dsimp only at here ⊢
      simp only [receive, receiveCall, here, new, if_true]
      split
      · rename_i lock guard asked
        have asked' : h.lock.request id path h.now = (lock, some guard) := asked
        rw [asked']
        exact .withLock (tries_execute { h.modifySession session _ with lock } session _)
      · rename_i lock asked
        have asked' : h.lock.request id path h.now = (lock, none) := asked
        rw [asked']
        exact .keeps rfl (stakes_suspend _ id _) rfl

/-- The lock and the stakes are the same, and no time passes. -/
structure Apathy (h next : Hub) : Prop where
  lock : next.lock = h.lock
  stakes : next.stakes = h.stakes
  now : next.now = h.now

theorem Aloof.apathy {h next : Hub} (aloof : h.Aloof next) : h.Apathy next :=
  ⟨aloof.lock, stakes_congr aloof.tasks, aloof.now⟩

theorem Apathy.after {h mid next : Hub} (aloof : h.Aloof mid) (apathy : mid.Apathy next) :
    h.Apathy next :=
  ⟨apathy.lock.trans aloof.lock, apathy.stakes.trans (stakes_congr aloof.tasks),
    apathy.now.trans aloof.now⟩

theorem Sideways.apathy {h next : Hub} (sideways : h.Sideways next) : h.Apathy next := by
  have stakes := sideways.stakes
  cases sideways with
  | waits added calm side => exact ⟨calm.lock, stakes, calm.now⟩

theorem apathy_suspend {activity : Activity} {id : Nat}
    (none : Task.stake? ⟨id, activity⟩ = none) (h : Hub) : h.Apathy (h.suspend id activity) :=
  ⟨rfl, by rw [stakes_suspend, none]; exact List.append_nil _, rfl⟩

theorem apathy_execute (h : Hub) (id session : Nat) (request : Request) :
    h.Apathy (h.execute id session request none) := by
  unfold execute
  split
  · exact apathy_suspend rfl h
  · exact (Aloof.refl h).apathy

/-- No other message has to do with the lock. -/
theorem apathy_receive {h : Hub} (receipt : Receipt)
    (other : ∀ s, h.session? receipt.session = some s → h.isFirst receipt = false) :
    h.Apathy (h.receive receipt.task receipt.session receipt.path receipt.message) := by
  obtain ⟨id, session, path, message⟩ := receipt
  cases message with
  | result messageId payload =>
      exact ((calm_settle h session messageId _).trans (calm_conclude _ id _)).toAloof.apathy
  | error messageId fault description details =>
      exact ((calm_settle h session messageId _).trans (calm_conclude _ id _)).toAloof.apathy
  | call messageId command payload =>
      simp only [receive, receiveCall]
      split
      · exact (calm_conclude h id _).toAloof.apathy
      · rename_i s here
        have old : s.noteCall.2 = false := by
          simpa [isFirst, hasCalled, here, Message.kind, Session.noteCall] using other s here
        simp only [old, Bool.false_eq_true, if_false]
        have noted := aloof_noteCall h session fun _ => s.noteCall.1
        exact .after ((noted.trans (calm_conclude _ id _).toAloof).trans
          (calm_newTask _).toAloof) (apathy_suspend rfl _)

/-- A message that is delayed has nothing to do with the lock yet. -/
theorem apathy_delayed {h : Hub} {i : Nat} (delayed : h.delays i = true) (path : String)
    (message : Message) : h.Apathy (h.beginHandling i path (.ok message)).1 := by
  cases here : h.session? i with
  | none =>
      simp [delays, here] at delayed
  | some s =>
      have at_newTask : h.newTask.1.session? i = some s := here
      simp only [delays, here, Option.any_some, Bool.and_eq_true, Bool.not_eq_true'] at delayed
      obtain ⟨displaced, notAtOnce⟩ := delayed
      have displaced' : h.newTask.1.isDisplaced s = true := displaced
      have calm := (calm_newTask h).trans (calm_beginTakeover h.newTask.1 i s)
      unfold beginHandling
      simp only [at_newTask, displaced', if_true]
      rcases started : h.newTask.1.beginTakeover i s with ⟨next, takeover | ⟨rival, probe⟩⟩
      · rw [takesAtOnce_of_done at_newTask started] at notAtOnce
        cases notAtOnce
      · rw [started] at calm
        exact .after calm.toAloof (apathy_suspend rfl next)

end Hub

end StationHub

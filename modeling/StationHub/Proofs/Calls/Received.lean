import StationHub.Proofs.Calls.InTime
import StationHub.Proofs.Hub.Gone
import StationHub.Proofs.Tasks.Sideways

/-!
Messages that sessions look at, and what else is said to peers meanwhile.

* `received?`: the message that a session looks at with a move; `isFirst`: it is the first call.
* `step?_hasCalled`: a session has been called once it has looked at a call.
* `silent_of_step?`: nobody is answered with a move that is neither an answer of the executor nor
  somebody else's text.
-/

namespace StationHub

/-- A message that a session looks at. -/
structure Receipt where
  /-- The task that handles the message. -/
  task : Nat
  session : Nat
  path : String
  message : Message

/-- The call that the message is. -/
def Receipt.request? (receipt : Receipt) : Option Request :=
  match receipt.message with
  | .call id command payload => some ⟨id, command, payload⟩
  | _ => none

namespace Hub

/-! ### Messages -/

/-- The message that a session looks at with the move: it arrives and is not delayed, or it was
delayed and the connection in its way has been probed. -/
def received? (h : Hub) : Move → Option Receipt
  | .handling session path (.ok message) =>
      if h.delays session then none
      else (h.session? session).map fun _ => ⟨h.nextTask, session, path, message⟩
  | .resume id =>
      match (h.task? id).map Task.activity with
      | some (.messageProbing session path message _ _) =>
          (h.session? session).map fun _ => ⟨id, session, path, message⟩
      | _ => none
  | _ => none

/-- The message is the first call of its session. -/
def isFirst (h : Hub) (receipt : Receipt) : Bool :=
  receipt.message.kind == .call && !h.hasCalled receipt.session

/-- A message that is not delayed is looked at in a hub that is calm but for the task. -/
theorem calm_handled {h : Hub} {i : Nat} {s : Session} (here : h.session? i = some s)
    (prompt : h.delays i = false) (path : String) (message : Message) :
    ∃ mid, h.Calm mid ∧ h.Anchors mid ∧ mid.sessions = h.sessions ∧
      mid.nextTask = h.nextTask + 1 ∧
        (h.beginHandling i path (.ok message)).1 = mid.receive h.nextTask i path message := by
  have at_newTask : h.newTask.1.session? i = some s := here
  have numbered : h.Anchors h.newTask.1 := ⟨fun _ => rfl, fun _ => rfl, fun _ => rfl⟩
  unfold beginHandling
  simp only [at_newTask]
  split
  · rename_i displaced
    have displaced' : h.isDisplaced s = true := displaced
    have atOnce : h.newTask.1.takesAtOnce i = true := by
      simpa [delays, here, displaced'] using prompt
    have calm := (calm_newTask h).trans (calm_beginTakeover h.newTask.1 i s)
    have anchors := numbered.trans (anchors_beginTakeover h.newTask.1 i s)
    have same := reseats_beginTakeover h.newTask.1 i s
    rcases started : h.newTask.1.beginTakeover i s with ⟨next, takeover | ⟨rival, probe⟩⟩
    · rw [started] at calm anchors same
      exact ⟨next, calm, anchors, same.sessions, same.nextTask, rfl⟩
    · rw [takesAtOnce_of_probing at_newTask started] at atOnce
      cases atOnce
  · exact ⟨_, calm_newTask h, numbered, rfl, rfl, rfl⟩

/-- The session has been called once a call of its peer is noted. -/
theorem hasCalled_noteCall {h : Hub} {i : Nat} {s : Session} (here : h.session? i = some s)
    (j : Nat) :
    (h.modifySession i fun _ => s.noteCall.1).hasCalled j = (h.hasCalled j || i == j) := by
  unfold hasCalled
  rw [session?_modifySession]
  by_cases same : i = j
  · subst same
    simp [here, Session.noteCall]
  · cases h.session? j <;> simp [same]

/-! ### Silence -/

variable {id : Nat} {guard : Guard}

theorem mute_suspend (h : Hub) (id : Nat) (activity : Activity) : h.Mute (h.suspend id activity) :=
  mute_of_eq rfl rfl rfl

theorem mute_endOpening (h : Hub) (id : Nat) (guard : Guard) (result : Except Failure Nat) :
    h.Mute (h.endOpening id guard result) :=
  mute_of_eq rfl rfl rfl

theorem mute_afterGuard (h : Hub) (id link : Nat) (target : Target) (guard : Guard) :
    h.Mute (h.afterGuard id link target guard) := by
  unfold afterGuard
  split
  · exact mute_endOpening h id guard _
  · split
    · exact (calm_closed h link .shutdown).toMute.trans (mute_endOpening _ id guard _)
    · have entered := calm_of_queue (fun l => l.enter .resolving) (fun l => l.queue_enter _) h link
      exact entered.toMute.trans (mute_suspend _ id _)

theorem mute_afterTakeover (h : Hub) (id link session : Nat) (guard : Guard) :
    h.Mute (h.afterTakeover id link session guard) := by
  unfold afterTakeover
  split
  · have closed := calm_closed h link .shutdown
    dsimp only
    split
    · exact closed.toMute.trans (mute_endOpening _ id guard _)
    · exact (closed.trans (calm_setRoster _ _ _)).toMute.trans (mute_endOpening _ id guard _)
  · have entered := calm_of_queue (fun l => l.enter .bound) (fun l => l.queue_enter _) h link
    exact (entered.trans (calm_count _ .resolved)).toMute.trans (mute_endOpening _ id guard _)

theorem mute_afterIdentified (h : Hub) (id link : Nat) (guard : Guard) (identity : Identity) :
    h.Mute (h.afterIdentified id link guard identity) := by
  cases here : h.link? link with
  | none =>
      unfold afterIdentified
      rw [here]
      exact mute_endOpening h id guard _
  | some l =>
      have begun := (calm_withSession h link l.variant identity).trans
        (calm_beginTakeover (h.withSession link l.variant identity) h.sessions.length
          (h.newSession link l.variant identity))
      rw [afterIdentified_eq here]
      split <;> rename_i started <;> rw [started] at begun
      · exact begun.toMute.trans (mute_afterTakeover _ id link _ guard)
      · exact begun.toMute.trans (mute_suspend _ id _)

theorem mute_afterDirectory (h : Hub) (id link : Nat) (guard : Guard)
    (answer : Except Failure Identity) : h.Mute (h.afterDirectory id link guard answer) := by
  unfold afterDirectory
  cases answer with
  | error failure =>
      exact ((calm_count h .resolutionFailed).trans (calm_closed _ link _)).toMute.trans
        (mute_endOpening _ id guard _)
  | ok identity =>
      dsimp only
      split
      · exact mute_endOpening h id guard _
      · split
        · exact (calm_closed h link .shutdown).toMute.trans (mute_endOpening _ id guard _)
        · exact mute_afterIdentified h id link guard identity

theorem mute_execute (h : Hub) (id session : Nat) (request : Request) (guard : Option Guard) :
    h.Mute (h.execute id session request guard) := by
  unfold execute
  split
  · exact mute_suspend h id _
  · split
    · exact mute_of_eq rfl rfl rfl
    · exact .refl h

theorem mute_lock (h : Hub) (lock : PathLock) : h.Mute { h with lock } := mute_of_eq rfl rfl rfl

theorem mute_resumeLock (h : Hub) (task : Task) {next : Hub → Guard → Hub}
    (goesOn : ∀ (mid : Hub) (guard : Guard), mid.Mute (next mid guard)) :
    h.Mute (h.resumeLock task next) := by
  unfold resumeLock
  split
  · exact (mute_lock h _).trans (goesOn _ _)
  · exact (mute_lock h _).trans (mute_suspend _ _ _)

theorem mute_beginOpening (h : Hub) (link : Nat) (target : Target) :
    h.Mute (h.beginOpening link target).1 := by
  have begun := (calm_newTask h).toMute
  unfold beginOpening
  dsimp only
  split
  · exact (begun.trans (mute_lock _ _)).trans (mute_afterGuard _ _ link target _)
  · exact (begun.trans (mute_lock _ _)).trans (mute_suspend _ _ _)

theorem mute_beginGuard (h : Hub) (path : String) : h.Mute (h.beginGuard path).1 := by
  unfold beginGuard
  dsimp only
  split <;> exact mute_of_eq rfl rfl rfl

theorem mute_cancel (h : Hub) (id : Nat) : h.Mute (h.cancel id) := by
  unfold cancel
  split
  · exact .refl h
  · dsimp only
    split <;> exact mute_of_eq rfl rfl rfl

theorem mute_apart (h : Hub) (move : Move) : h.Mute (h.apart move) := by
  unfold apart
  split <;> exact mute_of_eq rfl rfl rfl

/-- The session notes a call that it looks at, and nobody is answered. -/
structure Notes (h : Hub) (receipt : Receipt) (next : Hub) : Prop where
  dropped : next.repliesDropped = h.repliesDropped
  called : ∀ i, next.hasCalled i =
    (h.hasCalled i || (receipt.message.kind == .call && receipt.session == i))
  speech : ∀ i, Speech (h.queueOf i) (next.queueOf i)

theorem notes_receive {h : Hub} (receipt : Receipt) {s : Session}
    (here : h.session? receipt.session = some s) :
    h.Notes receipt (h.receive receipt.task receipt.session receipt.path receipt.message) := by
  obtain ⟨id, session, path, message⟩ := receipt
  have answered : ∀ (messageId : String) (outcome : CallOutcome),
      h.Mute ((h.settle session messageId outcome).1.conclude id .handled) :=
    fun messageId outcome =>
      ((calm_settle h session messageId outcome).trans (calm_conclude _ id _)).toMute
  cases message with
  | result messageId payload =>
      have mute := answered messageId (.ok payload)
      exact ⟨mute.dropped, fun i => (mute.called i).trans (Bool.or_false _).symm, mute.speech⟩
  | error messageId fault description details =>
      have mute := answered messageId (.error (.refused fault description details))
      exact ⟨mute.dropped, fun i => (mute.called i).trans (Bool.or_false _).symm, mute.speech⟩
  | call messageId command payload =>
      dsimp only at here
      have onward : (h.modifySession session fun _ => s.noteCall.1).Mute
          (h.receive id session path (.call messageId command payload)) := by
        simp only [receive, receiveCall, here]
        split
        · split
          · exact (mute_lock _ _).trans (mute_execute _ id session _ _)
          · exact (mute_lock _ _).trans (mute_suspend _ id _)
        · exact mute_of_eq rfl rfl rfl
      refine ⟨onward.dropped, fun i => ?_, onward.speech⟩
      rw [onward.called i, hasCalled_noteCall here]
      rfl

/-- A message for no session is not looked at. -/
theorem mute_receive_absent {h : Hub} {i : Nat} (absent : h.session? i = none) (id : Nat)
    (path : String) (message : Message) : h.Mute (h.receive id i path message) := by
  cases message with
  | call messageId command payload =>
      simp only [receive, receiveCall, absent]
      exact (calm_conclude h id _).toMute
  | result | error => exact ((calm_settle h i _ _).trans (calm_conclude _ id _)).toMute

theorem Notes.after {h mid next : Hub} {receipt : Receipt} (mute : h.Mute mid)
    (notes : mid.Notes receipt next) : h.Notes receipt next where
  dropped := notes.dropped.trans mute.dropped
  called := fun i => by rw [notes.called, mute.called]
  speech := fun i => (mute.speech i).trans (notes.speech i)

/-! ### Moves -/

/-- What is said with a move that is neither an answer of the executor nor somebody else's text. -/
def Silent (h : Hub) (move : Move) (next : Hub) : Prop :=
  match h.received? move with
  | some receipt => h.Notes receipt next
  | none => h.Mute next

theorem silent_handling {h : Hub} (i : Nat) (path : String)
    (decoded : Except Message.Malformation Message) :
    h.Silent (.handling i path decoded) (h.beginHandling i path decoded).1 := by
  cases decoded with
  | error malformed =>
      exact (((calm_newTask h).trans (calm_count _ .protocolError)).trans
        (calm_conclude _ h.nextTask .handled)).toMute
  | ok message =>
      cases here : h.session? i with
      | none =>
          have absent : h.newTask.1.session? i = none := here
          have nothing : h.received? (.handling i path (.ok message)) = none := by
            simp [received?, here]
          unfold Silent
          rw [nothing]
          unfold beginHandling
          simp only [absent]
          exact ((calm_newTask h).trans (calm_conclude _ h.nextTask .handled)).toMute
      | some s =>
          cases delayed : h.delays i with
          | true =>
              have nothing : h.received? (.handling i path (.ok message)) = none := by
                simp [received?, delayed]
              have begun := (calm_newTask h).trans (calm_beginTakeover h.newTask.1 i s)
              have at_newTask : h.newTask.1.session? i = some s := here
              simp only [delays, here, Option.any_some, Bool.and_eq_true, Bool.not_eq_true']
                at delayed
              obtain ⟨displaced, notAtOnce⟩ := delayed
              have displaced' : h.newTask.1.isDisplaced s = true := displaced
              unfold Silent
              rw [nothing]
              unfold beginHandling
              simp only [at_newTask, displaced', if_true]
              rcases started : h.newTask.1.beginTakeover i s with
                ⟨next, takeover | ⟨rival, probe⟩⟩
              · rw [takesAtOnce_of_done at_newTask started] at notAtOnce
                cases notAtOnce
              · rw [started] at begun
                exact begun.toMute.trans (mute_suspend _ _ _)
          | false =>
              have looks : h.received? (.handling i path (.ok message)) =
                  some ⟨h.nextTask, i, path, message⟩ := by
                simp [received?, delayed, here]
              obtain ⟨mid, calm, -, sessions, -, done⟩ := calm_handled here delayed path message
              have there : mid.session? i = some s := by
                rw [session?, sessions]
                exact here
              unfold Silent
              rw [looks, done]
              exact .after calm.toMute (notes_receive ⟨h.nextTask, i, path, message⟩ there)

theorem silent_resume {h next : Hub} {id : Nat} (moved : h.step? (.resume id) = some next)
    (busy : h.isPlain (.resume id) = false) : h.Silent (.resume id) next := by
  obtain ⟨⟨number, activity⟩, found, ready, rfl⟩ := resumed moved
  cases id_of_task? found
  have detached : h.Mute (h.detach number) := mute_of_eq rfl rfl rfl
  have nothing : (∀ session path message rival probe,
        activity ≠ .messageProbing session path message rival probe) →
      h.Mute (h.resume ⟨number, activity⟩) →
      h.Silent (.resume number) (h.resume ⟨number, activity⟩) := by
    intro other mute
    have unread : h.received? (.resume number) = none := by
      cases activity <;> first
        | simp [received?, found]; done
        | exact absurd rfl (other _ _ _ _ _)
    unfold Silent
    rw [unread]
    exact mute
  cases activity with
  | openWaiting link target =>
      have tried := mute_resumeLock (h.detach number) ⟨number, .openWaiting link target⟩
        fun mid guard => mute_afterGuard mid number link target guard
      exact nothing (by simp) (detached.trans tried)
  | callWaiting session request =>
      have tried := mute_resumeLock (h.detach number) ⟨number, .callWaiting session request⟩
        fun mid guard => mute_execute mid number session request (some guard)
      exact nothing (by simp) (detached.trans tried)
  | guardWaiting =>
      have kept : ∀ (mid : Hub) (guard : Guard), mid.Mute (mid.keepGuard number guard) :=
        fun _ _ => mute_of_eq rfl rfl rfl
      have tried := mute_resumeLock (h.detach number) ⟨number, .guardWaiting⟩ kept
      exact nothing (by simp) (detached.trans tried)
  | openProbing link session guard rival probe =>
      obtain ⟨alive, verdict⟩ := Option.isSome_iff_exists.mp ready
      have decided : (h.detach number).verdict? rival probe = some alive := verdict
      have concluded := calm_concludeTakeover (h.detach number) session rival alive
      refine nothing (by simp) ?_
      simp only [resume, resumeProbe, decided]
      exact (detached.trans concluded.toMute).trans (mute_afterTakeover _ number link session guard)
  | callStarting session request =>
      exact nothing (by simp) (detached.trans (mute_execute _ number session request none))
  | messageProbing session path message rival probe =>
      obtain ⟨alive, verdict⟩ := Option.isSome_iff_exists.mp ready
      have decided : (h.detach number).verdict? rival probe = some alive := verdict
      have concluded := calm_concludeTakeover (h.detach number) session rival alive
      have sessions := (reseats_concludeTakeover (h.detach number) session rival alive).sessions
      have goesOn : h.resume ⟨number, .messageProbing session path message rival probe⟩ =
          ((h.detach number).concludeTakeover session rival alive).1.receive number session path
            message := by
        simp only [resume, resumeProbe, decided]
      have reached := detached.trans concluded.toMute
      cases here : h.session? session with
      | none =>
          have unread : h.received? (.resume number) = none := by simp [received?, found, here]
          have absent :
              ((h.detach number).concludeTakeover session rival alive).1.session? session =
                none := by
            rw [session?, sessions]
            exact here
          unfold Silent
          rw [unread, goesOn]
          exact reached.trans (mute_receive_absent absent number path message)
      | some s =>
          have looks : h.received? (.resume number) = some ⟨number, session, path, message⟩ := by
            simp [received?, found, here]
          have there : ((h.detach number).concludeTakeover session rival alive).1.session? session =
              some s := by
            rw [session?, sessions]
            exact here
          unfold Silent
          rw [looks, goesOn]
          exact .after reached (notes_receive ⟨number, session, path, message⟩ there)
  | openResolving | executing | guarding => cases ready
  | takingOver | probing | sweeping | calling => simp [isPlain, found, Activity.isSide] at busy

theorem Sideways.mute {h next : Hub} (sideways : h.Sideways next) : h.Mute next := by
  cases sideways with
  | waits added calm side => exact calm.toMute.trans (mute_of_eq rfl rfl rfl)

theorem received?_of_isPlain {h : Hub} {move : Move} (plain : h.isPlain move = true) :
    h.received? move = none := by
  cases move with
  | handling => cases plain
  | resume id =>
      cases found : h.task? id with
      | none => simp [received?, found]
      | some task =>
          obtain ⟨number, activity⟩ := task
          have side : activity.isSide = true := by simpa [isPlain, found] using plain
          cases activity <;> first
            | simp [received?, found]; done
            | cases side
  | _ => rfl

/-- The move says something of its own to a peer: the executor has answered a call, or somebody
else has a text. -/
def Move.speaks : Move → Bool
  | .executorAnswers .. | .text .. => true
  | _ => false

/-- With every other move nobody is answered, and no call is noted but the one that is looked at. -/
theorem silent_of_step? {h next : Hub} {move : Move} (moved : h.step? move = some next)
    (quiet : move.speaks = false) : h.Silent move next := by
  cases plain : h.isPlain move with
  | true =>
      unfold Silent
      rw [received?_of_isPlain plain]
      exact (mute_apart h move).trans (sideways_of_step? plain moved).mute
  | false =>
      cases move with
      | opening link target =>
          simp only [step?, Option.ite_none_right_eq_some, Option.some.injEq] at moved
          obtain ⟨-, rfl⟩ := moved
          exact mute_beginOpening h link target
      | guarding path =>
          cases moved
          exact mute_beginGuard h path
      | handling session path decoded =>
          cases moved
          exact silent_handling session path decoded
      | cancel id =>
          cases moved
          exact mute_cancel h id
      | advance ms =>
          cases moved
          exact mute_of_eq rfl rfl rfl
      | resume id => exact silent_resume moved plain
      | directoryAnswers id answer =>
          obtain ⟨link, target, guard, -, rfl⟩ := resolved moved
          exact (mute_apart h (.cancel id)).trans (mute_afterDirectory _ id link guard answer)
      | executorAnswers | text => cases quiet
      | _ => cases plain

theorem hasCalled_sendText (h : Hub) (i : Nat) (text : String) (j : Nat) :
    (h.sendText i text).1.hasCalled j = h.hasCalled j := by
  unfold sendText
  split <;> rfl

theorem hasCalled_afterExecution (h : Hub) (id session : Nat) (request : Request)
    (guard : Option Guard) (reply : Reply) (j : Nat) :
    (h.afterExecution id session request guard reply).hasCalled j = h.hasCalled j := by
  have answered : (h.afterExecution id session request none reply).hasCalled j =
      h.hasCalled j := by
    unfold afterExecution
    dsimp only
    split
    · rfl
    · rename_i s _
      have sent := hasCalled_sendText h s.link (Reply.message request.id reply).encode j
      split <;> rename_i offered <;> rw [offered] at sent <;> exact sent
  cases guard with
  | none => exact answered
  | some guard => exact answered

/-- A session has been called once it has looked at a call. -/
theorem step?_hasCalled {h next : Hub} {move : Move} (moved : h.step? move = some next)
    (i : Nat) : next.hasCalled i = (h.hasCalled i || (h.received? move).any fun receipt =>
      receipt.message.kind == .call && receipt.session == i) := by
  cases speaks : move.speaks with
  | false =>
      have silent := silent_of_step? moved speaks
      unfold Silent at silent
      split at silent <;> rename_i looks <;> rw [looks]
      · exact silent.called i
      · exact (silent.called i).trans (Bool.or_false _).symm
  | true =>
      cases move with
      | text link text =>
          cases moved
          exact (hasCalled_sendText h link text i).trans (Bool.or_false _).symm
      | executorAnswers id reply =>
          obtain ⟨session, _, request, guard, -, rfl⟩ := executed moved
          exact (hasCalled_afterExecution (h.detach id) id session request guard reply i).trans
            (Bool.or_false _).symm
      | _ => cases speaks

end Hub

end StationHub

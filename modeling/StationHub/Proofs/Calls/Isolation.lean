import StationHub.Proofs.Calls.Ended
import StationHub.Proofs.Link.Lifecycle
import StationHub.Proofs.Slots.Examined

/-!
How far the messages of a session reach.

* `handles?`: the session whose message a move is about, from its arrival to the answer of the
  executor.
* `Confined`: no other session changes, no slot but some, and no connection is closed but some; each
  operation has its lemma `confined_…`.
* `confined_of_handles`: a move is confined to the slot of the session whose message it is about,
  and to the rival that the takeover of this slot has probed.
* `Secluded`: what this leaves alone in a run; `secluded_of_handles`.
-/

namespace StationHub

/-- The session whose message the activity is about. -/
def Activity.handles? : Activity → Option Nat
  | .messageProbing session .. | .callWaiting session _ | .callStarting session _
  | .executing session .. => some session
  | _ => none

namespace Hub

/-- The session whose message the move is about: the message arrives, or its handling goes on, is
answered by the executor, or is given up. -/
def handles? (h : Hub) : Move → Option Nat
  | .handling session _ _ => some session
  | .resume id | .executorAnswers id _ | .cancel id =>
      (h.task? id).bind fun task => task.activity.handles?
  | _ => none

/-- No session changes but session number `i`, no slot but those that are its own, and no connection
is closed but those that may be. -/
structure Confined (i : Nat) (own : Variant → Key → Prop) (closes : Nat → Prop) (h next : Hub) :
    Prop where
  sessions : ∀ j, j ≠ i → next.session? j = h.session? j
  slots : ∀ variant key, ¬own variant key →
    next.registered? variant key = h.registered? variant key
  closed : ∀ link, next.isClosed link = true → h.isClosed link = true ∨ closes link

variable {i : Nat} {own : Variant → Key → Prop} {closes : Nat → Prop} {h mid next : Hub}
  {s : Session} {move : Move}

theorem Confined.trans (first : Confined i own closes h mid)
    (second : Confined i own closes mid next) : Confined i own closes h next where
  sessions := fun j other => (second.sessions j other).trans (first.sessions j other)
  slots := fun variant key other =>
    (second.slots variant key other).trans (first.slots variant key other)
  closed := fun link closed => (second.closed link closed).elim (first.closed link) .inr

/-! ### Operations -/

theorem confined_of_eq (sessions : next.sessions = h.sessions)
    (slots : ∀ variant, next.roster variant = h.roster variant)
    (connections : next.connections = h.connections) : Confined i own closes h next where
  sessions := fun j _ => by rw [session?, session?, sessions]
  slots := fun variant key _ => by rw [registered?, registered?, slots]
  closed := fun link closed => by
    rw [isClosed, link?, connection?, connections] at closed
    exact .inl closed

/-- Tasks, locks and counters are nobody's. -/
theorem confined_of_books {now : Nat} {counters : Counters} {repliesDropped : Nat} {lock : PathLock}
    {stopping : Bool} {mark : Mark} {tasks : List Task} {nextTask nextMessage : Nat}
    {finished : List (Nat × TaskOutcome)} (h : Hub) :
    Confined i own closes h
      { h with now, counters, repliesDropped, lock, stopping, mark, tasks, nextTask, nextMessage,
               finished } :=
  confined_of_eq rfl (fun variant => by cases variant <;> rfl) rfl

/-- A change of a connection that leaves its latch alone is nobody's either. -/
theorem confined_replaceLink {j : Nat} {l l' : Link} (here : h.link? j = some l)
    (same : l'.closed = l.closed) : Confined i own closes h (h.modifyLink j fun _ => l') where
  sessions := fun _ _ => rfl
  slots := fun variant key _ => by cases variant <;> rfl
  closed := fun link closed => by
    left
    rw [isClosed, link?_modifyLink] at closed
    unfold isClosed
    by_cases is : j = link
    · subst is
      rw [here] at closed ⊢
      simpa [same] using closed
    · simpa [is] using closed

theorem confined_startProbe (h : Hub) (j wait : Nat) :
    Confined i own closes h (h.startProbe j wait).1 := by
  unfold startProbe
  split
  · exact confined_of_books h
  · next l here =>
    obtain ⟨_, _, _, same⟩ := Link.startProbe_eq l h.now wait
    exact confined_replaceLink here (by rw [same])

theorem confined_sendText (h : Hub) (j : Nat) (text : String) :
    Confined i own closes h (h.sendText j text).1 := by
  unfold sendText
  split
  · exact confined_of_books h
  · next l here =>
    obtain ⟨_, same⟩ := Link.offer_eq l (.text text)
    refine confined_replaceLink here ?_
    rw [Link.sendText, same]

theorem confined_closed (h : Hub) {j : Nat} (may : closes j) (cause : CloseCause) :
    Confined i own closes h (h.closed j cause) where
  sessions := fun k _ => session?_closed h j cause k
  slots := fun variant key _ => by
    rw [registered?, registered?]
    exact congrArg _ (roster_closeLink h j cause variant)
  closed := fun link closed => by
    by_cases is : j = link
    · exact .inr (is ▸ may)
    · left
      rw [isClosed, link?_closed] at closed
      simpa [isClosed, is] using closed

theorem confined_register (h : Hub) (j : Nat) (allowed : own s.variant s.key) :
    Confined i own closes h (h.register j s) where
  sessions := fun k _ => session?_setRoster h s.variant _ k
  slots := fun variant key other => by
    refine registered?_register_of_ne ?_
    rintro ⟨rfl, rfl⟩
    exact other allowed
  closed := fun link closed => .inl (by rwa [isClosed, link?_register] at closed)

theorem confined_modifySession (h : Hub) (change : Session → Session) :
    Confined i own closes h (h.modifySession i change) where
  sessions := fun j other => by
    rw [session?_modifySession]
    cases h.session? j <;> simp [Ne.symm other]
  slots := fun variant key _ => by cases variant <;> rfl
  closed := fun _ closed => .inl closed

theorem confined_settle (h : Hub) (id : String) (outcome : CallOutcome) :
    Confined i own closes h (h.settle i id outcome).1 := by
  unfold settle
  split
  · exact confined_modifySession h _
  · exact confined_of_books h

theorem confined_beginTakeover (h : Hub) (j : Nat) (allowed : own s.variant s.key) :
    Confined i own closes h (h.beginTakeover j s).1 := by
  unfold beginTakeover
  split
  · exact confined_register h j allowed
  · split
    · exact confined_of_books h
    · split
      · exact confined_register h j allowed
      · rename_i rival _
        have probed : Confined i own closes h _ :=
          confined_startProbe h rival h.settings.probeTimeout
        split <;> rename_i started <;> rw [started] at probed
        · exact probed.trans (confined_register _ j allowed)
        · exact probed

theorem confined_concludeTakeover {j rival : Nat} (here : h.session? j = some s)
    (allowed : own s.variant s.key) (may : closes rival) (alive : Bool) :
    Confined i own closes h (h.concludeTakeover j rival alive).1 := by
  unfold concludeTakeover
  rw [here]
  cases alive with
  | false => exact confined_register h j allowed
  | true =>
      have counted : Confined i own closes (h.closed rival .duplicate)
          ((h.closed rival .duplicate).count .duplicateClosed) := confined_of_books _
      exact ((confined_closed h may .duplicate).trans counted).trans (confined_register _ j allowed)

theorem confined_execute (h : Hub) (id session : Nat) (request : Request) (guard : Option Guard) :
    Confined i own closes h (h.execute id session request guard) := by
  unfold execute
  split
  · exact confined_of_books h
  · split <;> exact confined_of_books h

theorem confined_afterExecution (h : Hub) (id session : Nat) (request : Request)
    (guard : Option Guard) (reply : Reply) :
    Confined i own closes h (h.afterExecution id session request guard reply) := by
  unfold afterExecution
  dsimp only
  cases h.session? session with
  | none => cases guard <;> exact confined_of_books h
  | some s =>
      have sent : Confined i own closes h _ :=
        confined_sendText h s.link (Reply.message request.id reply).encode
      dsimp only
      rcases offered : h.sendText s.link (Reply.message request.id reply).encode with
        ⟨next, delivery⟩
      rw [offered] at sent
      cases delivery <;> cases guard <;> exact sent.trans (confined_of_books _)

theorem confined_receive (h : Hub) (id : Nat) (path : String) (message : Message) :
    Confined i own closes h (h.receive id i path message) := by
  cases message with
  | call messageId command payload =>
      show Confined i own closes h (h.receiveCall id i path _)
      unfold receiveCall
      split
      · exact confined_of_books h
      · rename_i s _
        have noted : Confined i own closes h (h.modifySession i fun _ => s.noteCall.1) :=
          confined_modifySession h _
        refine noted.trans ?_
        dsimp only
        split
        · split
          · exact (confined_of_books _).trans (confined_execute _ id i _ _)
          · exact confined_of_books _
        · exact confined_of_books _
  | result messageId payload => exact (confined_settle h messageId _).trans (confined_of_books _)
  | error messageId fault description details =>
      exact (confined_settle h messageId _).trans (confined_of_books _)

theorem confined_beginHandling (h : Hub) (path : String)
    (decoded : Except Message.Malformation Message)
    (allowed : ∀ s, h.session? i = some s → own s.variant s.key) :
    Confined i own closes h (h.beginHandling i path decoded).1 := by
  unfold beginHandling
  cases decoded with
  | error malformed => exact confined_of_books h
  | ok message =>
      dsimp only
      split
      · exact confined_of_books h
      · rename_i s here
        have numbered : Confined i own closes h h.newTask.1 := confined_of_books h
        split
        · have begun : Confined i own closes h.newTask.1 _ :=
            confined_beginTakeover h.newTask.1 i (allowed s here)
          split <;> rename_i started <;> rw [started] at begun
          · exact (numbered.trans begun).trans (confined_receive _ _ path message)
          · exact (numbered.trans begun).trans (confined_of_books _)
        · exact numbered.trans (confined_receive _ _ path message)

/-! ### Moves -/

/-- The slot is that of session number `i`. -/
def OwnSlot (h : Hub) (i : Nat) (variant : Variant) (key : Key) : Prop :=
  ∃ s, h.session? i = some s ∧ s.variant = variant ∧ s.key = key

/-- A message of session number `i` goes on with the move that waited for a verdict on the
connection. -/
def Rivals (h : Hub) (i : Nat) (move : Move) (link : Nat) : Prop :=
  ∃ task path message probe, move = .resume task ∧
    h.task? task = some ⟨task, .messageProbing i path message link probe⟩

theorem confined_resume {task : Task} (found : h.task? task.id = some task)
    (about : task.activity.handles? = some i) :
    Confined i (h.OwnSlot i) (h.Rivals i (.resume task.id)) h (h.resume task) := by
  obtain ⟨id, activity⟩ := task
  have detached : Confined i (h.OwnSlot i) (h.Rivals i (.resume id)) h (h.detach id) :=
    confined_of_books h
  unfold resume
  cases activity with
  | messageProbing session path message rival probe =>
      cases about
      refine detached.trans ?_
      dsimp only [resumeProbe]
      split
      · rename_i alive _
        cases here : (h.detach id).session? i with
        | none =>
            rw [concludeTakeover_absent here]
            exact confined_receive _ id path message
        | some s =>
            have own : h.OwnSlot i s.variant s.key := ⟨s, here, rfl, rfl⟩
            have may : h.Rivals i (.resume id) rival := ⟨id, path, message, probe, rfl, found⟩
            exact (confined_concludeTakeover here own may alive).trans
              (confined_receive _ id path message)
      · exact confined_of_books _
  | callWaiting session request =>
      refine detached.trans ?_
      dsimp only [resumeLock]
      split
      · exact (confined_of_books _).trans (confined_execute _ id session request _)
      · exact confined_of_books _
  | callStarting session request =>
      exact detached.trans (confined_execute _ id session request none)
  | executing session context request guard => exact detached.trans (confined_of_books _)
  | _ => cases about

/-- **What the messages of a session bring about** is confined to the session, its slot, and the
connection that it has probed for it. -/
theorem confined_of_handles (moved : h.step? move = some next)
    (about : h.handles? move = some i) :
    Confined i (h.OwnSlot i) (h.Rivals i move) h next := by
  cases move with
  | handling session path decoded =>
      cases about
      cases moved
      exact confined_beginHandling h path decoded fun s here => ⟨s, here, rfl, rfl⟩
  | resume id =>
      obtain ⟨task, found, -, rfl⟩ := resumed moved
      simp only [handles?, found, Option.bind_some] at about
      cases id_of_task? found
      exact confined_resume found about
  | executorAnswers id reply =>
      obtain ⟨session, _, request, guard, found, rfl⟩ := executed moved
      have detached : Confined i (h.OwnSlot i) (h.Rivals i (.executorAnswers id reply)) h
          (h.detach id) := confined_of_books h
      exact detached.trans (confined_afterExecution _ id session request guard reply)
  | cancel id =>
      cases moved
      unfold cancel
      split
      · exact confined_of_books h
      · dsimp only
        split <;> exact confined_of_books h
  | _ => cases about

/-! ### In a run -/

variable {settings : Settings} {mark : Mark} {moves : List Move} {link : Nat}

/-- The connection, not its own, of the session that held the slot of session number `i` when the
takeover began whose task goes on with the move. -/
def Occupant (start : Hub) (moves : List Move) (h : Hub) (i : Nat) (move : Move) (link : Nat) :
    Prop :=
  ∃ n task first s slot t, move = .resume task ∧ h.session? i = some s ∧
    start.run? (moves.take n) = some first ∧ start.begunAt? moves n = some (task, i) ∧
    first.registered? s.variant s.key = some slot ∧ first.session? slot.session = some t ∧
    t.link = link ∧ link ≠ s.link

theorem occupant_of_rivals (run : (fresh settings mark).run? moves = some h)
    (rivals : h.Rivals i move link) : Occupant (fresh settings mark) moves h i move link := by
  obtain ⟨task, path, message, probe, rfl, found⟩ := rivals
  obtain ⟨n, first, s, run₀, begun, -, here, examines⟩ :=
    begun_of_waiting run (List.mem_of_find?_eq_some found) rfl
  obtain ⟨slot, there, rival⟩ := Option.bind_eq_some_iff.mp examines.held
  obtain ⟨t, at_slot, -, -, on⟩ := (sound_of_run? run₀).slots there
  have is := link_of_openRival? rival
  exact ⟨n, task, first, s, slot, t, rfl, here, run₀, begun, there, at_slot, on.trans is,
    examines.other⟩

/-- What a message of session number `i` leaves alone with the move. -/
structure Secluded (start : Hub) (moves : List Move) (h : Hub) (i : Nat) (move : Move)
    (next : Hub) : Prop where
  /-- The other sessions are as before, their pending calls included. -/
  sessions : ∀ j, j ≠ i → next.session? j = h.session? j
  /-- So are all slots but that of the session. -/
  slots : ∀ variant key, ¬h.OwnSlot i variant key →
    next.registered? variant key = h.registered? variant key
  /-- Whoever waits for the outcome of a call goes on waiting for it. -/
  waiting : ∀ task j call, h.task? task = some ⟨task, .calling j call⟩ →
    next.task? task = some ⟨task, .calling j call⟩
  /-- Nobody else's connection is closed. -/
  closed : ∀ link, next.isClosed link = true →
    h.isClosed link = true ∨ Occupant start moves h i move link

/-- A message is about a task that handles what arrived, and not one that waits for a call. -/
theorem task?_ne_of_handles {task j : Nat} {call : String} (about : h.handles? move = some i)
    (found : h.task? task = some ⟨task, .calling j call⟩) : move.task? ≠ some task := by
  intro own
  cases move with
  | resume id | executorAnswers id reply | cancel id =>
      cases own
      rw [handles?, found] at about
      cases about
  | handling session path decoded => cases own
  | _ => cases about

/-- **The messages of a session leave all other sessions alone.** -/
theorem secluded_of_handles (run : (fresh settings mark).run? moves = some h)
    (moved : h.step? move = some next) (about : h.handles? move = some i) :
    Secluded (fresh settings mark) moves h i move next := by
  have confined := confined_of_handles moved about
  refine ⟨confined.sessions, confined.slots, fun task j call found => ?_, fun link closed => ?_⟩
  · have waits : h.task? (⟨task, .calling j call⟩ : Task).id = some ⟨task, .calling j call⟩ := found
    exact task?_of_step? (numbered_of_run? run) moved waits (task?_ne_of_handles about found)
  · exact (confined.closed link closed).imp_right (occupant_of_rivals run)

end Hub

end StationHub

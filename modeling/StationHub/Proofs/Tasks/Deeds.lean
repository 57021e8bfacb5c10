import StationHub.Proofs.Hub.Deeds
import StationHub.Proofs.Hub.Course
import StationHub.Proofs.Link.Writing
import StationHub.Proofs.Tasks.Operations

/-!
What each move of a hub does to the connections.

* `Move.Permits`: the deeds that a move may do to a connection.
* `Warrants`: those that a hub has reason for; an opening brings its connection to the phase that
  `brings?` names, a takeover closes the rival that `displaced?` names, and the steps of sweeps are
  those that `isSweep` tells.
* `Allows`: the same, where it does not matter who closes a connection or counts its failures.
* `step?_warrants`, `step?_allows`, `step?_does`: the move does no others.
* `history_of_run?`: whatever a hub has done, each of its connections came by a history of deeds.
* `written_of_run?`: so each socket took parcels first, then at most a close frame and the end.
-/

namespace StationHub

/-- The connection of an opening that waits, and the phase to which it brings the connection when it
goes on. -/
def Activity.brings? : Activity → Option (Nat × Phase)
  | .openWaiting link _ => some (link, .resolving)
  | .openResolving link _ _ => some (link, .bound)
  | .openProbing link _ _ _ _ => some (link, .bound)
  | _ => none

namespace Hub

open Connection (Deed)

/-- The deed that the move is to do to a connection. -/
def Move.deed? : Move → Option (Nat × Deed)
  | .pong link => some (link, .pong)
  | .close link cause => some (link, .close cause)
  | .stopping link => some (link, .stop)
  | .holding link => some (link, .hold)
  | .lettingGo link => some (link, .letGo)
  | .takeUp link => some (link, .takeUp)
  | .socketTakes link => some (link, .socketTakes)
  | .socketFails link => some (link, .socketFails)
  | .writerExpires link => some (link, .expire)
  | _ => none

/-- The move may do the deed to connection number `i`. -/
def Move.Permits (move : Move) (i : Nat) (deed : Deed) : Prop :=
  deed.isCommon = true ∨ move.deed? = some (i, deed) ∨
    ∃ cause, move = .closeAll cause ∧ deed = .close cause

/-- The connection that an opening brings to a new phase with the move, unless it is closed, and the
phase. None is brought on in a hub that shuts down. -/
def brings? (h : Hub) (move : Move) : Option (Nat × Phase) :=
  if h.stopping then none
  else
    match move with
    | .opening link _ => some (link, .resolving)
    | .resume id => (h.task? id).bind fun task => task.activity.brings?
    | .directoryAnswers id (.ok identity) =>
        (h.identified? id identity).bind fun _ =>
          (h.task? id).bind fun task => task.activity.brings?
    | _ => none

/-- The rival that a takeover closes with the move: its probe was answered. -/
def displaced? (h : Hub) : Move → Option Nat
  | .resume id =>
      (h.task? id).bind fun task =>
        task.activity.probes?.bind fun (_, rival, probe) =>
          if h.verdict? rival probe = some true then some rival else none
  | _ => none

/-- The hub has reason for the deed on connection number `i` with the move: what any operation may
do, what the move is meant to do, what an opening does to its connection and the end of a connection
to it, what a takeover does to the rival that answered, and what sweeps do. -/
inductive Warrants (h : Hub) (move : Move) (i : Nat) : Deed → Prop where
  | plain {deed : Deed} : deed.isPlain = true → Warrants h move i deed
  | meant {deed : Deed} : move.deed? = some (i, deed) → Warrants h move i deed
  | all {cause : CloseCause} : move = .closeAll cause → Warrants h move i (.close cause)
  | enter {phase : Phase} : h.brings? move = some (i, phase) → Warrants h move i (.enter phase)
  | finish {session : Option Nat} : move = .ending i session → Warrants h move i .finish
  | displaces : h.displaced? move = some i → Warrants h move i (.close .duplicate)
  | sweeps {deed : Deed} : h.isSweep move = true → deed.isSweeping = true → Warrants h move i deed

/-- The hub may do the deed to connection number `i` with the move: what takes a connection further
in its course is done by its opening and at its end. -/
inductive Allows (h : Hub) (move : Move) (i : Nat) : Deed → Prop where
  | passing {deed : Deed} : deed.isPassing = true → Allows h move i deed
  | meant {deed : Deed} : move.deed? = some (i, deed) → Allows h move i deed
  | all {cause : CloseCause} : move = .closeAll cause → Allows h move i (.close cause)
  | enter {phase : Phase} : h.brings? move = some (i, phase) → Allows h move i (.enter phase)
  | finish {session : Option Nat} : move = .ending i session → Allows h move i .finish

theorem Warrants.allows {h : Hub} {move : Move} {i : Nat} {deed : Deed}
    (warranted : h.Warrants move i deed) : h.Allows move i deed := by
  cases warranted with
  | plain plain => exact .passing (Deed.isPassing_of_isPlain plain)
  | meant meant => exact .meant meant
  | all same => exact .all same
  | enter brings => exact .enter brings
  | finish same => exact .finish same
  | displaces => exact .passing rfl
  | sweeps _ sweeping => exact .passing (Deed.isPassing_of_isSweeping sweeping)

theorem Allows.permits {h : Hub} {move : Move} {i : Nat} {deed : Deed}
    (allowed : h.Allows move i deed) : move.Permits i deed := by
  cases allowed with
  | passing passing => exact .inl (Deed.isCommon_of_isPassing passing)
  | meant meant => exact .inr (.inl meant)
  | all same => exact .inr (.inr ⟨_, same, rfl⟩)
  | enter => exact .inl rfl
  | finish => exact .inl rfl

theorem phase_of_activity {activity : Activity} {link : Nat} {phase : Phase}
    (brings : activity.brings? = some (link, phase)) : phase = .resolving ∨ phase = .bound := by
  cases activity <;> cases brings <;> simp

theorem phase_of_brings? {h : Hub} {move : Move} {link : Nat} {phase : Phase}
    (brings : h.brings? move = some (link, phase)) : phase = .resolving ∨ phase = .bound := by
  unfold brings? at brings
  split at brings
  · cases brings
  · split at brings
    · cases brings
      exact .inl rfl
    · obtain ⟨task, -, brings⟩ := Option.bind_eq_some_iff.mp brings
      exact phase_of_activity brings
    · obtain ⟨mid, -, brings⟩ := Option.bind_eq_some_iff.mp brings
      obtain ⟨task, -, brings⟩ := Option.bind_eq_some_iff.mp brings
      exact phase_of_activity brings
    · cases brings

/-- A hub brings about the last phases of a connection by closes and at its end. -/
theorem Allows.isOrderly {h : Hub} {move : Move} {i : Nat} {deed : Deed}
    (allowed : h.Allows move i deed) : deed.isOrderly = true := by
  cases allowed with
  | passing passing => cases deed <;> first | rfl | cases passing
  | meant meant => cases move <;> cases meant <;> rfl
  | all => rfl
  | enter brings => rcases phase_of_brings? brings with rfl | rfl <;> rfl
  | finish => rfl

variable {permits : Nat → Deed → Prop} {h next : Hub} {move : Move}

/-! ### Tasks -/

theorem does_resumeLock {task : Task} {goesOn : Hub → Guard → Hub}
    (does : ∀ lock guard, Does permits { h with lock } (goesOn { h with lock } guard)) :
    Does permits h (h.resumeLock task goesOn) := by
  unfold resumeLock
  split
  · next lock guard _ => exact (does_of_eq rfl rfl : Does permits h { h with lock }).trans (does _ _)
  · exact does_of_eq rfl rfl

theorem does_resumeProbe {task : Task} {link : Nat} {probe : Link.Probe}
    {goesOn : Hub → Bool → Hub}
    (does : ∀ alive, h.verdict? link probe = some alive → Does permits h (goesOn h alive)) :
    Does permits h (h.resumeProbe task link probe goesOn) := by
  unfold resumeProbe
  split
  · next verdict => exact does _ verdict
  · exact does_of_eq rfl rfl

section Plain

variable (plain : ∀ i deed, deed.isPlain = true → permits i deed)
include plain

/-- A task goes on, and an opening may bring its connection on unless the hub shuts down. -/
theorem does_resume {h : Hub} {task : Task}
    (enters : h.stopping = false → ∀ {link phase}, task.activity.brings? = some (link, phase) →
      permits link (.enter phase))
    (displaces : ∀ {i rival probe}, task.activity.probes? = some (i, rival, probe) →
      h.verdict? rival probe = some true → permits rival (.close .duplicate))
    (sweeps : task.activity.isSweeping = true → ∀ i deed, deed.isSweeping = true →
      permits i deed) : Does permits h (h.resume task) := by
  have apart : Does permits h (h.detach task.id) := does_of_eq rfl rfl
  obtain ⟨id, activity⟩ := task
  refine apart.trans ?_
  have takes {session rival : Nat} {probe : Link.Probe} {alive : Bool}
      (probes : activity.probes? = some (session, rival, probe))
      (verdict : h.verdict? rival probe = some alive) :
      Does permits (h.detach id) ((h.detach id).concludeTakeover session rival alive).1 :=
    does_concludeTakeover _ session fun positive => displaces probes (positive ▸ verdict)
  unfold resume
  cases activity with
  | openWaiting link target =>
      refine does_resumeLock fun lock guard => ?_
      exact does_afterGuard plain { h.detach id with lock } (fun running => enters running rfl) id
        target guard
  | openProbing link session guard rival probe =>
      refine does_resumeProbe fun alive verdict => ?_
      have same := (reseats_concludeTakeover (h.detach id) session rival alive).stopping
      exact (takes rfl verdict).trans
        (does_afterTakeover plain _ (fun running => enters (same.symm.trans running) rfl) id
          session guard)
  | messageProbing session path message rival probe =>
      exact does_resumeProbe fun alive verdict =>
        (takes rfl verdict).trans (does_receive _ id session path message)
  | callWaiting session request =>
      exact does_resumeLock fun lock guard => does_execute _ id session request (some guard)
  | callStarting session request => exact does_execute _ id session request none
  | takingOver session rival probe =>
      exact does_resumeProbe fun alive verdict =>
        (takes rfl verdict).trans (does_of_eq rfl rfl)
  | probing link probe => exact does_resumeProbe fun alive _ => does_of_eq rfl rfl
  | sweeping variant members report =>
      exact does_resumeSweep (sweeps rfl) _ id variant members report
  | calling session call =>
      dsimp only
      split <;> exact does_of_eq rfl rfl
  | guardWaiting => exact does_resumeLock fun lock guard => does_of_eq rfl rfl
  | openResolving | executing | guarding => exact does_of_eq rfl rfl

theorem does_beginCall (h : Hub) (variant : Variant) (key : Key) (command : String)
    (payload : Json) : Does permits h (h.beginCall variant key command payload).1 := by
  have begun : Does permits h h.newTask.1 := does_of_eq rfl rfl
  unfold beginCall
  dsimp only
  split
  · exact does_of_eq rfl rfl
  · rename_i slot _
    have sent := begun.trans (does_sendCall plain h.newTask.1 slot.session command payload)
    split <;> rename_i called <;> rw [called] at sent
    · exact sent.trans (does_of_eq rfl rfl)
    · exact sent.trans (does_of_eq rfl rfl)

theorem does_beginProbe (h : Hub) (link wait : Nat) :
    Does permits h (h.beginProbe link wait).1 := by
  have begun : Does permits h h.newTask.1 := does_of_eq rfl rfl
  have probed : Does permits h (h.newTask.1.startProbe link wait).1 :=
    begun.trans (does_startProbe (plain _ _ rfl))
  unfold beginProbe
  dsimp only
  split <;> rename_i started <;> rw [started] at probed
  · exact probed.trans (does_of_eq rfl rfl)
  · exact probed.trans (does_of_eq rfl rfl)

theorem does_beginReconcile (h : Hub) (session : Nat) :
    Does permits h (h.beginReconcile session).1 := by
  have begun : Does permits h h.newTask.1 := does_of_eq rfl rfl
  unfold beginReconcile
  dsimp only
  split
  · exact begun
  · rename_i s _
    have taken := begun.trans (does_beginTakeover plain h.newTask.1 session s)
    split <;> rename_i started <;> rw [started] at taken
    · exact taken.trans (does_of_eq rfl rfl)
    · exact taken.trans (does_of_eq rfl rfl)

end Plain

theorem does_beginGuard (h : Hub) (path : String) : Does permits h (h.beginGuard path).1 := by
  unfold beginGuard
  dsimp only
  split <;> exact does_of_eq rfl rfl

theorem does_cancel (h : Hub) (id : Nat) : Does permits h (h.cancel id) := by
  unfold cancel
  split
  · exact .refl
  · dsimp only
    split <;> exact does_of_eq rfl rfl

/-! ### Moves -/

/-- **What a move does to the connections**: deeds that the hub has reason for. Only new connections
and the time that passes are something else. -/
theorem step?_warrants (moved : h.step? move = some next) :
    Does (h.Warrants move) h next ∨ (∃ variant, move = .accept variant) ∨
      ∃ ms, move = .advance ms := by
  have plain : ∀ i deed, deed.isPlain = true → h.Warrants move i deed := fun _ _ => .plain
  cases move with
  | accept variant => exact .inr (.inl ⟨variant, rfl⟩)
  | advance ms => exact .inr (.inr ⟨ms, rfl⟩)
  | refuse => cases moved; exact .inl (does_of_eq rfl rfl)
  | opening link target =>
      cases (Option.ite_none_right_eq_some.mp moved).2
      refine .inl (does_beginOpening plain h (fun running => .enter ?_) target)
      simp [brings?, running]
  | handling session path decoded =>
      cases moved
      exact .inl (does_beginHandling plain h session path decoded)
  | sending session command payload =>
      cases moved
      exact .inl (does_sendCall plain h session command payload)
  | calling variant key command payload =>
      cases moved
      exact .inl (does_beginCall plain h variant key command payload)
  | settling session id answer =>
      cases moved
      exact .inl (does_settle h session id _)
  | failing session =>
      cases moved
      exact .inl (does_failPending h session)
  | reconciling session =>
      cases moved
      exact .inl (does_beginReconcile plain h session)
  | sweeping =>
      cases moved
      exact .inl (does_beginSweep (fun _ _ => .sweeps rfl) h)
  | probing link wait =>
      cases moved
      exact .inl (does_beginProbe plain h link wait)
  | ping link =>
      cases moved
      exact .inl (does_modifyLink .ping (plain _ _ rfl) fun _ => rfl)
  | pong link =>
      cases moved
      exact .inl (does_modifyLink .pong (.meant rfl) fun _ => rfl)
  | text link text =>
      cases moved
      exact .inl (does_sendText (plain _ _ rfl))
  | close link cause =>
      cases moved
      exact .inl (does_closed (.meant rfl))
  | ending link session =>
      cases moved
      exact .inl (does_handleEnd plain h (.finish rfl) session)
  | stopping link =>
      cases moved
      exact .inl (.single (.deed .stop _ (.meant rfl) fun _ _ => rfl))
  | holding link =>
      cases (Option.ite_none_right_eq_some.mp moved).2
      exact .inl (.single (.deed .hold _ (.meant rfl) fun _ _ => rfl))
  | lettingGo link =>
      cases moved
      exact .inl (.single (.deed .letGo _ (.meant rfl) fun _ _ => rfl))
  | closeAll cause =>
      cases moved
      exact .inl (does_closeAll (fun _ => .all rfl) h)
  | shutDown =>
      cases moved
      have halted : Does (h.Warrants .shutDown) h { h with stopping := true } := does_of_eq rfl rfl
      exact .inl (halted.trans (does_closeAll (fun i => plain i _ rfl) _))
  | guarding path =>
      cases moved
      exact .inl (does_beginGuard h path)
  | cancel task =>
      cases moved
      exact .inl (does_cancel h task)
  | resume id =>
      obtain ⟨task, found, -, rfl⟩ := resumed moved
      refine .inl (does_resume plain ?_ ?_ ?_)
      · intro running link phase brings
        refine .enter ?_
        simp [brings?, running, found, brings]
      · intro i rival probe probes verdict
        refine .displaces ?_
        simp [displaced?, found, probes, verdict]
      · intro sweeping i deed
        refine .sweeps ?_
        simp [isSweep, found, sweeping]
  | directoryAnswers id answer =>
      obtain ⟨link, target, guard, found, rfl⟩ := resolved moved
      have apart : Does (h.Warrants (.directoryAnswers id answer)) h (h.detach id) :=
        does_of_eq rfl rfl
      refine .inl (apart.trans (does_afterDirectory plain _ ?_ id guard))
      rintro identity rfl open_ running known
      refine .enter ?_
      obtain ⟨l, here⟩ := Option.isSome_iff_exists.mp known
      have open' : h.isClosed link = false := open_
      have running' : h.stopping = false := running
      have here' : h.link? link = some l := here
      simp [brings?, running', found, Activity.brings?, identified?, open', here']
  | executorAnswers id reply =>
      obtain ⟨session, _, request, guard, -, rfl⟩ := executed moved
      exact .inl ((does_of_eq rfl rfl : Does _ h (h.detach id)).trans
        (does_afterExecution plain _ id session request guard reply))
  | expire session id => exact .inl (does_expire? moved)
  | takeUp link =>
      exact .inl (does_changeConnection? .takeUp (.meant rfl) (fun _ => rfl) moved)
  | socketTakes link =>
      exact .inl (does_changeConnection? .socketTakes (.meant rfl) (fun _ => rfl) moved)
  | socketFails link =>
      exact .inl (does_changeConnection? .socketFails (.meant rfl) (fun _ => rfl) moved)
  | writerExpires link =>
      exact .inl (does_changeConnection? .expire (.meant rfl) (fun _ => rfl) moved)

/-- A move does to the connections what the hub allows with it. -/
theorem step?_allows (moved : h.step? move = some next) :
    Does (h.Allows move) h next ∨ (∃ variant, move = .accept variant) ∨
      ∃ ms, move = .advance ms :=
  (step?_warrants moved).imp_left (Does.mono fun _ _ => Warrants.allows)

/-- A move does to the connections what it permits in any hub. -/
theorem step?_does (moved : h.step? move = some next) :
    Does move.Permits h next ∨ (∃ variant, move = .accept variant) ∨ ∃ ms, move = .advance ms :=
  (step?_allows moved).imp_left (Does.mono fun _ _ => Allows.permits)

/-! ### Histories -/

theorem connection?_of_accept {variant : Variant} (moved : h.step? (.accept variant) = some next)
    {i : Nat} {c : Connection} (there : next.connection? i = some c) :
    h.connection? i = some c ∨
      c = .fresh variant h.settings.queueCapacity h.settings.watermark := by
  cases moved
  cases here : h.connection? i with
  | none => exact .inr (eq_of_getElem?_concat here there)
  | some c' =>
      left
      obtain ⟨bound, -⟩ := List.getElem?_eq_some_iff.mp here
      have kept : (h.connections ++ [_])[i]? = some c := there
      rw [List.getElem?_append_left bound] at kept
      exact here.symm.trans kept

/-- The connection came from its start by orderly deeds, none of them later than now. -/
def HasHistory (settings : Settings) (now : Nat) (c : Connection) : Prop :=
  ∃ variant history, (Connection.fresh variant settings.queueCapacity settings.watermark).run?
    history = some c ∧ ∀ done ∈ history, done.1 ≤ now ∧ done.2.isOrderly = true

theorem HasHistory.later {settings : Settings} {now now' : Nat} {c : Connection}
    (has : HasHistory settings now c) (le : now ≤ now') : HasHistory settings now' c := by
  obtain ⟨variant, history, run, early⟩ := has
  exact ⟨variant, history, run, fun done member =>
    ⟨Nat.le_trans (early done member).1 le, (early done member).2⟩⟩

/-- **Each connection of a hub has a history**, whatever the hub did. -/
theorem history_of_run? {settings : Settings} {mark : Mark} {moves : List Move}
    (run : (fresh settings mark).run? moves = some h) {i : Nat} {c : Connection}
    (here : h.connection? i = some c) : HasHistory settings h.now c := by
  refine (run?_induction (P := fun h => h.settings = settings ∧ ∀ {i c}, h.connection? i = some c →
    HasHistory settings h.now c) ?_ ⟨rfl, fun there => ?_⟩ run).2 here
  swap
  · cases there
  rintro h next move ⟨same, known⟩ moved
  have persists := step?_persists moved
  refine ⟨persists.settings.trans same, fun {i c} there => ?_⟩
  rcases step?_allows moved with does | ⟨variant, rfl⟩ | ⟨ms, rfl⟩
  · obtain ⟨bound, -⟩ := List.getElem?_eq_some_iff.mp there
    rw [Does.length does] at bound
    obtain ⟨c', there', deeds, allowed, goes⟩ :=
      Does.connection does (List.getElem?_eq_getElem bound)
    cases there.symm.trans there'
    obtain ⟨variant, history, run, early⟩ :=
      (known (List.getElem?_eq_getElem bound)).later persists.now
    refine ⟨variant, history ++ deeds.map fun deed => (h.now, deed), ?_, fun done member => ?_⟩
    · unfold Connection.run? at run goes ⊢
      rw [Runs.run_append, run]
      exact goes
    · rcases List.mem_append.mp member with old | new
      · exact early done old
      · obtain ⟨deed, done, rfl⟩ := List.mem_map.mp new
        exact ⟨persists.now, (allowed deed done).isOrderly⟩
  · rcases connection?_of_accept moved there with here | rfl
    · exact (known here).later persists.now
    · exact ⟨variant, [], same ▸ rfl, nofun⟩
  · cases moved
    exact (known there).later persists.now

/-- Whatever a hub did, the socket of each connection took parcels, and after them at most the close
frame of the connection and the end of the stream. -/
theorem written_of_run? {settings : Settings} {mark : Mark} {moves : List Move}
    (run : (fresh settings mark).run? moves = some h) {i : Nat} {c : Connection}
    (here : h.connection? i = some c) :
    ∃ ending, c.written = c.parcels.map Wire.parcel ++ ending ∧
      ending.Sublist [c.link.farewell, .finish] ∧ (ending ≠ [] → c.link.closed = true) := by
  obtain ⟨variant, history, run, -⟩ := history_of_run? run here
  have accounted := Connection.accounted_of_run? (Connection.accounted_fresh ..) run
  obtain ⟨parcels, ending, written, stands⟩ := accounted.wire
  exact ⟨ending, Connection.parcels_of_stands written stands ▸ written, stands.ending_sublist,
    stands.closed⟩

end Hub

end StationHub

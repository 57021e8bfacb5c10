import StationHub.Proofs.Link.Lifecycle
import StationHub.Proofs.Openings.Contract
import StationHub.Proofs.Slots.Departure
import StationHub.Proofs.Tasks.Deeds

/-!
The course of a connection in a run of a hub.

* `proceeds_of_step?`, `brought_of_step?`: what a move does to the phase of a connection; only its
  opening brings it to an earlier phase than the last two, and no opening does in a hub that shuts
  down.
* `session_of_bound`: a connection that is bound has a session.
* `rank_le_of_step?`: the phase of a connection that is opened once does not go back.
* `Lifecycle`, `lifecycle_of_run?`: what holds all along of a connection that is opened once.
-/

namespace StationHub.Hub

open Connection (Deed)

variable {settings : Settings} {mark : Mark} {moves later : List Move} {h next last : Hub}
  {move : Move} {i : Nat} {l l' : Link}

/-! ### What a move does to a phase -/

theorem brings?_of_enter {phase : Phase} (allowed : h.Allows move i (.enter phase)) :
    h.brings? move = some (i, phase) := by
  cases allowed with
  | passing passing => cases passing
  | meant meant => cases move <;> cases meant
  | enter brings => exact brings

/-- A move changes a connection by deeds that the hub allows with it. -/
theorem goes_of_step? {c c' : Connection} (moved : h.step? move = some next)
    (here : h.connection? i = some c) (there : next.connection? i = some c') :
    c.Goes (h.Allows move i) h.now c' := by
  rcases step?_allows moved with does | ⟨variant, rfl⟩ | ⟨ms, rfl⟩
  · obtain ⟨c'', there', goes⟩ := does.connection here
    cases there.symm.trans there'
    exact goes
  · cases moved
    obtain ⟨bound, -⟩ := List.getElem?_eq_some_iff.mp here
    have kept : (h.connections ++ [_])[i]? = some c' := there
    rw [List.getElem?_append_left bound] at kept
    cases here.symm.trans kept
    exact .refl _ _ c
  · cases moved
    cases here.symm.trans there
    exact .refl _ _ c

/-- A connection that no opening brings on with the move proceeds. -/
theorem proceeds_of_step? (moved : h.step? move = some next) (here : h.link? i = some l)
    (there : next.link? i = some l') (others : ∀ phase, h.brings? move ≠ some (i, phase)) :
    l.Proceeds l' := by
  obtain ⟨c, at_i, rfl⟩ := link?_eq_some_iff.mp here
  obtain ⟨c', at_i', rfl⟩ := link?_eq_some_iff.mp there
  exact (goes_of_step? moved at_i at_i').proceeds fun phase allowed =>
    others phase (brings?_of_enter allowed)

/-- A connection that its opening brings to a phase does not go back, if it has not come further. -/
theorem brought_of_step? (moved : h.step? move = some next) (here : h.link? i = some l)
    (there : next.link? i = some l') {phase : Phase} (brings : h.brings? move = some (i, phase))
    (ahead : l.NotBeyond phase) : l.phase.rank ≤ l'.phase.rank ∧ l'.NotBeyond phase := by
  obtain ⟨c, at_i, rfl⟩ := link?_eq_some_iff.mp here
  obtain ⟨c', at_i', rfl⟩ := link?_eq_some_iff.mp there
  refine (goes_of_step? moved at_i at_i').brought (fun other allowed => ?_) ahead
  cases (brings?_of_enter allowed).symm.trans brings
  rfl

/-! ### Bound connections -/

/-- Whoever is brought to be bound has a session then. -/
theorem session_of_brings (sound : h.Sound) (moved : h.step? move = some next)
    (brings : h.brings? move = some (i, .bound)) :
    ∃ j s, next.session? j = some s ∧ s.link = i := by
  have persists := step?_persists moved
  unfold brings? at brings
  split at brings
  · cases brings
  · split at brings
    · cases brings
    · next id =>
      obtain ⟨⟨number, activity⟩, found, brings⟩ := Option.bind_eq_some_iff.mp brings
      cases activity with
      | openResolving link target guard =>
          obtain ⟨task, found', ready, -⟩ := resumed moved
          cases found.symm.trans found'
          cases ready
      | openProbing link session guard rival probe =>
          cases brings
          obtain ⟨-, s, here, on⟩ := sound.fit _ (List.mem_of_find?_eq_some found) rfl
          obtain ⟨s', there, same⟩ := persists.session here
          exact ⟨session, s', there, same.link.trans on⟩
      | _ => cases brings
    · next id identity =>
      obtain ⟨mid, identified, brings⟩ := Option.bind_eq_some_iff.mp brings
      obtain ⟨task, found, brings⟩ := Option.bind_eq_some_iff.mp brings
      obtain ⟨link, target, guard, l, found', here, -⟩ := identified?_eq_some identified
      cases found.symm.trans found'
      cases brings
      obtain ⟨_, _, _, found'', rfl⟩ := resolved moved
      cases found.symm.trans found''
      have here' : (h.detach id).link? i = some l := here
      have sessions := (afterIdentified_staff here' id guard identity).1
      rw [afterDirectory_identified identified found]
      refine ⟨h.sessions.length, h.newSession i l.variant identity, ?_, rfl⟩
      rw [session?, sessions]
      exact List.getElem?_concat_length
    · cases brings

/-- A connection that comes with a move is accepted. -/
theorem accepted_of_newcomer (moved : h.step? move = some next) (absent : h.link? i = none)
    (there : next.link? i = some l') : l'.phase = .accepted := by
  obtain ⟨c, at_i, rfl⟩ := link?_eq_some_iff.mp there
  have unknown : h.connection? i = none := Option.map_eq_none_iff.mp absent
  rcases step?_allows moved with does | ⟨variant, rfl⟩ | ⟨ms, rfl⟩
  · have beyond := List.getElem?_eq_none_iff.mp unknown
    have within := (List.getElem?_eq_some_iff.mp at_i).1
    rw [does.length] at within
    omega
  · rcases connection?_of_accept moved at_i with old | rfl
    · cases unknown.symm.trans old
    · rfl
  · cases moved
    cases unknown.symm.trans at_i

/-- A move leaves a connection bound only if it has a session. -/
theorem session_of_bound_step (sound : h.Sound)
    (before : ∀ {i l}, h.link? i = some l → l.phase = .bound →
      ∃ j s, h.session? j = some s ∧ s.link = i)
    (moved : h.step? move = some next) (there : next.link? i = some l')
    (bound : l'.phase = .bound) : ∃ j s, next.session? j = some s ∧ s.link = i := by
  have running : l'.phase.isOver = false := by rw [bound]; rfl
  cases here : h.link? i with
  | none =>
      rw [accepted_of_newcomer moved here there] at bound
      cases bound
  | some l =>
      have kept : l.phase = .bound → ∃ j s, next.session? j = some s ∧ s.link = i := by
        intro bound
        obtain ⟨j, s, at_j, on⟩ := before here bound
        obtain ⟨s', at_next, same⟩ := (step?_persists moved).session at_j
        exact ⟨j, s', at_next, same.link.trans on⟩
      by_cases brings : ∃ phase, h.brings? move = some (i, phase)
      · obtain ⟨phase, brings⟩ := brings
        rcases phase_of_brings? brings with rfl | rfl
        · by_cases already : l.phase = .bound
          · exact kept already
          · have ahead : l.NotBeyond .resolving := Link.notBeyond_of_ne_bound already
            rcases (brought_of_step? moved here there brings ahead).2 with past | early
            · rw [running] at past
              cases past
            · rw [bound] at early
              exact absurd early (by decide)
        · exact session_of_brings sound moved brings
      · have proceeds := proceeds_of_step? moved here there fun phase is => brings ⟨phase, is⟩
        exact kept ((proceeds.phase_eq running).symm.trans bound)

/-- A connection that is bound has a session. -/
theorem session_of_bound (run : (fresh settings mark).run? moves = some h)
    (here : h.link? i = some l) (bound : l.phase = .bound) :
    ∃ j s, h.session? j = some s ∧ s.link = i := by
  refine (run?_induction (P := fun h => h.Sound ∧ ∀ {i l}, h.link? i = some l → l.phase = .bound →
    ∃ j s, h.session? j = some s ∧ s.link = i) ?_
    ⟨sound_fresh settings mark, fun here => nomatch here⟩ run).2 here bound
  rintro h next move ⟨sound, before⟩ moved
  exact ⟨step?_sound sound moved, session_of_bound_step sound before moved⟩

/-! ### Forward -/

/-- An opening that comes to ask for its peer is the only bearer of a connection that is opened
once. -/
theorem dwellers_of_brings (run : (fresh settings mark).run? moves = some h)
    (once : (moves ++ [move]).countP (Move.opensLink i) ≤ 1)
    (brings : h.brings? move = some (i, .resolving)) : h.dwellers i = 0 := by
  have borne := bearers_le_of_run? run i
  rw [show (fresh settings mark).bearers i = 0 from rfl, Nat.zero_add] at borne
  rw [List.countP_append, List.countP_singleton] at once
  unfold brings? at brings
  split at brings
  · cases brings
  · split at brings
    · next target =>
      cases brings
      have first : (if Move.opensLink i (.opening i target) = true then 1 else 0) = 1 := by
        simp [Move.opensLink]
      unfold bearers at borne
      omega
    · next id =>
      obtain ⟨⟨number, activity⟩, found, brings⟩ := Option.bind_eq_some_iff.mp brings
      cases activity with
      | openWaiting link target =>
          cases brings
          have left : (h.detach id).bearers i + 1 ≤ h.bearers i := by
            simpa [Activity.seeks?] using bearers_detach found i
          have stay : (h.detach id).dwellers i = h.dwellers i := rfl
          unfold bearers at left borne
          omega
      | _ => cases brings
    · obtain ⟨mid, identified, brings⟩ := Option.bind_eq_some_iff.mp brings
      obtain ⟨task, found, brings⟩ := Option.bind_eq_some_iff.mp brings
      obtain ⟨link, target, guard, l, found', -⟩ := identified?_eq_some identified
      cases found.symm.trans found'
      cases brings
    · cases brings

/-- No move takes a connection back that is opened once. -/
theorem rank_le_of_step? (run : (fresh settings mark).run? moves = some h)
    (once : (moves ++ [move]).countP (Move.opensLink i) ≤ 1) (moved : h.step? move = some next)
    (here : h.link? i = some l) (there : next.link? i = some l') :
    l.phase.rank ≤ l'.phase.rank := by
  by_cases brings : ∃ phase, h.brings? move = some (i, phase)
  · obtain ⟨phase, brings⟩ := brings
    rcases phase_of_brings? brings with rfl | rfl
    · -- Whoever asks for the peer has no session yet, so that the connection is not bound.
      have unbound : l.phase ≠ .bound := by
        intro bound
        obtain ⟨j, s, at_j, on⟩ := session_of_bound run here bound
        exact no_session_of_dwellers (dwellers_of_brings run once brings) at_j on
      exact (brought_of_step? moved here there brings (Link.notBeyond_of_ne_bound unbound)).1
    · exact (brought_of_step? moved here there brings l.notBeyond_bound).1
  · exact (proceeds_of_step? moved here there fun phase is => brings ⟨phase, is⟩).rank_le

/-- No run takes a connection back that is opened once. -/
theorem rank_le_of_run? (run : (fresh settings mark).run? moves = some h)
    (ran : h.run? later = some last) (once : (moves ++ later).countP (Move.opensLink i) ≤ 1)
    (here : h.link? i = some l) (there : last.link? i = some l') :
    l.phase.rank ≤ l'.phase.rank := by
  induction later using List.reverseRecOn generalizing last l' with
  | nil =>
      cases ran
      cases here.symm.trans there
      exact Nat.le_refl _
  | append_singleton earlier move ih =>
      obtain ⟨mid, reached, moved⟩ := run?_concat.mp ran
      obtain ⟨l'', at_mid, -⟩ := (run?_persists reached).link here
      rw [← List.append_assoc] at once
      have before : (moves ++ earlier).countP (Move.opensLink i) ≤ 1 := by
        rw [List.countP_append] at once
        omega
      have run' : (fresh settings mark).run? (moves ++ earlier) = some mid := by
        rw [run?_append, run, Option.bind_some, reached]
      exact Nat.le_trans (ih reached before at_mid)
        (rank_le_of_step? run' once moved at_mid there)

/-! ### The whole course -/

/-- In a run a connection changes by deeds. -/
theorem history_between {c : Connection} (ran : h.run? later = some last)
    (here : h.connection? i = some c) :
    ∃ c' history, last.connection? i = some c' ∧ c.run? history = some c' := by
  induction later using List.reverseRecOn generalizing last with
  | nil =>
      cases ran
      exact ⟨c, [], here, rfl⟩
  | append_singleton earlier move ih =>
      obtain ⟨mid, reached, moved⟩ := run?_concat.mp ran
      obtain ⟨c', history, at_mid, came⟩ := ih reached
      obtain ⟨c'', at_last, -⟩ := (step?_persists moved).connection at_mid
      obtain ⟨deeds, -, goes⟩ := goes_of_step? moved at_mid at_last
      refine ⟨c'', history ++ deeds.map fun deed => (mid.now, deed), at_last, ?_⟩
      unfold Connection.run? at came goes ⊢
      rw [Runs.run_append, came]
      exact goes

/-- The connection may have come to be what it is by the history: its deeds are orderly, and the
first of them was done to a fresh connection. -/
structure CameBy (c start : Connection) (history : List (Nat × Deed)) : Prop where
  fresh : ∃ variant capacity watermark, start = .fresh variant capacity watermark
  run : start.run? history = some c
  orderly : ∀ done ∈ history, done.2.isOrderly = true

theorem CameBy.closings_eq {c start : Connection} {history : List (Nat × Deed)}
    (came : CameBy c start history) : start.closings history = c.link.cause.toList := by
  obtain ⟨variant, capacity, watermark, rfl⟩ := came.fresh
  exact Connection.closings_eq (Connection.accounted_fresh ..) came.run

theorem CameBy.length_endings {c start : Connection} {history : List (Nat × Deed)}
    (came : CameBy c start history) :
    (start.endings history).length = if c.link.phase = .closed then 1 else 0 := by
  obtain ⟨variant, capacity, watermark, rfl⟩ := came.fresh
  exact Connection.length_endings nofun came.run came.orderly

theorem CameBy.cause {c start : Connection} {history : List (Nat × Deed)}
    (came : CameBy c start history) : c.link.cause = (start.causes history).head? := by
  obtain ⟨variant, capacity, watermark, rfl⟩ := came.fresh
  exact (Connection.accounted_of_run? (Connection.accounted_fresh ..) came.run).cause

/-- What holds of connection number `i`, which is `c` after the moves of a run from `start`. -/
structure Lifecycle (start : Hub) (moves : List Move) (last : Hub) (i : Nat) (c : Connection) :
    Prop where
  /-- It has come no further at any earlier point of the run. -/
  forward : ∀ {earlier later : List Move} {mid : Hub} {l : Link}, moves = earlier ++ later →
    start.run? earlier = some mid → mid.link? i = some l → l.phase.rank ≤ c.link.phase.rank
  /-- It is closed exactly if a cause is known, -/
  caused : c.link.closed = true ↔ c.link.cause ≠ none
  /-- and exactly in the last two phases. -/
  shut : c.link.closed = true ↔ c.link.phase = .closing ∨ c.link.phase = .closed
  /-- A cause that was known at an earlier point of the run is the cause still. -/
  kept : ∀ {earlier later : List Move} {mid : Hub} {l : Link} {cause : CloseCause},
    moves = earlier ++ later → start.run? earlier = some mid → mid.link? i = some l →
    l.cause = some cause → c.link.cause = some cause
  /-- It came by a history of deeds. -/
  came : ∃ start history, CameBy c start history
  /-- Whatever the history, one close at most found the connection open, and its end was handled for
  the first time once at most; and the cause is that of the first close of all. -/
  once : ∀ {start : Connection} {history : List (Nat × Deed)}, CameBy c start history →
    (start.closings history).length ≤ 1 ∧ (start.endings history).length ≤ 1 ∧
      c.link.cause = (start.causes history).head?
  /-- Once the end was handled, there was exactly one of each. -/
  ended : ∀ {earlier later : List Move} {mid : Hub} {session : Option Nat},
    moves = earlier ++ .ending i session :: later → start.run? earlier = some mid →
    (mid.link? i).isSome = true → c.link.phase = .closed ∧
      ∀ {start : Connection} {history : List (Nat × Deed)}, CameBy c start history →
        (start.closings history).length = 1 ∧ (start.endings history).length = 1
  /-- A close now would find it open exactly if it is not closed, and an end handled now would be
  the first one exactly if it is not in its last phase. -/
  answers : (∀ cause, (last.closeLink i cause).2 = !c.link.closed) ∧
    c.link.finish.2 = decide (c.link.phase ≠ .closed)
  /-- Since it was closed, nothing was put into its queue. -/
  drained : ∀ {earlier later : List Move} {mid : Hub} {c' : Connection}, moves = earlier ++ later →
    start.run? earlier = some mid → mid.connection? i = some c' → c'.link.closed = true →
    c.link.queue <:+ c'.link.queue ∧
      ∀ history, c'.run? history = some c → c'.queued history = []
  /-- Once it is closed, no parcel is accepted, -/
  refuses : c.link.closed = true → ∀ parcel, c.link.offer parcel = (c.link, .refused)
  /-- no ping is queued, -/
  pingless : c.link.closed = true → ∀ now, (c.link.ping now).2 = false ∧
    (c.link.ping now).1.queue = c.link.queue
  /-- and a probe of any kind fails at once. -/
  unprobed : c.link.closed = true → ∀ wait, last.startProbe i wait = (last, none) ∧
    last.beginProbe i wait = (last.newTask.1.conclude last.nextTask (.probed false), last.nextTask)

/-- A closed connection is not probed. -/
theorem startProbe_of_closed (here : h.link? i = some l) (closed : l.closed = true) (wait : Nat) :
    h.startProbe i wait = (h, none) := by
  unfold startProbe
  simp only [here, Link.startProbe_of_closed closed]
  rw [modifyLink_eq_self here rfl]

theorem beginProbe_of_closed (here : h.link? i = some l) (closed : l.closed = true) (wait : Nat) :
    h.beginProbe i wait = (h.newTask.1.conclude h.nextTask (.probed false), h.nextTask) := by
  have here' : h.newTask.1.link? i = some l := here
  unfold beginProbe
  dsimp only
  rw [startProbe_of_closed here' closed]
  rfl

/-- Once the end of a connection was handled, it is in its last phase. -/
theorem phase_of_ended {session : Option Nat} (known : (h.link? i).isSome = true)
    (ran : h.run? (.ending i session :: later) = some last) (there : last.link? i = some l') :
    l'.phase = .closed := by
  obtain ⟨l, here⟩ := Option.isSome_iff_exists.mp known
  rw [run?_cons] at ran
  obtain ⟨next, moved, ran⟩ := Option.bind_eq_some_iff.mp ran
  cases moved
  obtain ⟨l₁, at_next, shut⟩ := phase_handleEnd here session
  obtain ⟨l₂, at_last, leads⟩ := (run?_persists ran).link at_next
  cases there.symm.trans at_last
  exact leads.stays shut

/-- **The course of a connection that is opened once** goes forward only; it is closed by the first
close and by no other, for its cause, and its end is handled once; and nothing is queued after the
close. -/
theorem lifecycle_of_run? {c : Connection} (run : (fresh settings mark).run? moves = some last)
    (there : last.connection? i = some c) (once : moves.countP (Move.opensLink i) ≤ 1) :
    Lifecycle (fresh settings mark) moves last i c := by
  have at_last : last.link? i = some c.link := link?_eq_some_iff.mpr ⟨c, there, rfl⟩
  have coherent : c.link.Coherent := (sound_of_run? run).coherent at_last
  have caused : c.link.closed = c.link.cause.isSome := coherent.cause.symm
  have parts : ∀ {earlier later : List Move} {mid : Hub}, moves = earlier ++ later →
      (fresh settings mark).run? earlier = some mid → mid.run? later = some last := by
    rintro earlier later mid rfl reached
    rw [run?_append, reached, Option.bind_some] at run
    exact run
  exact {
    forward := by
      rintro earlier later mid l rfl reached here
      exact rank_le_of_run? reached (parts rfl reached) once here at_last
    caused := by rw [caused, Option.isSome_iff_ne_none]
    shut := by rw [← coherent.phase]; simp [Phase.isOver]
    kept := by
      rintro earlier later mid l cause rfl reached here known
      obtain ⟨l', there', leads⟩ := (run?_persists (parts rfl reached)).link here
      cases at_last.symm.trans there'
      exact leads.cause known
    came := by
      obtain ⟨variant, history, came, done⟩ := history_of_run? run there
      exact ⟨_, history, ⟨variant, _, _, rfl⟩, came, fun deed member => (done deed member).2⟩
    once := by
      intro start history came
      refine ⟨?_, ?_, came.cause⟩
      · rw [came.closings_eq]
        cases c.link.cause <;> simp
      · rw [came.length_endings]
        split <;> simp
    ended := by
      rintro earlier later mid session rfl reached known
      have shut := phase_of_ended known (parts rfl reached) at_last
      refine ⟨shut, fun came => ⟨?_, ?_⟩⟩
      · have past : c.link.cause.isSome = true := by
          rw [coherent.cause, ← coherent.phase, shut]
          rfl
        obtain ⟨cause, known⟩ := Option.isSome_iff_exists.mp past
        rw [came.closings_eq, known]
        rfl
      · rw [came.length_endings, if_pos shut]
    answers := by
      refine ⟨fun cause => ?_, Link.finish_snd c.link⟩
      unfold closeLink
      simp [at_last, Link.close_snd, caused]
    drained := by
      rintro earlier later mid c' rfl reached here closed
      obtain ⟨c'', history, there', came⟩ := history_between (parts rfl reached) here
      cases there.symm.trans there'
      exact ⟨(Connection.drained_of_run? closed came).2,
        fun history came => (Connection.drained_of_run? closed came).1⟩
    refuses := fun closed => Link.offer_of_closed closed
    pingless := by
      intro closed now
      rw [Link.ping_of_closed closed]
      exact ⟨rfl, rfl⟩
    unprobed := fun closed wait =>
      ⟨startProbe_of_closed at_last closed wait, beginProbe_of_closed at_last closed wait⟩ }

/-- The second connection of `closedRun` is closed while the first is probed; its opening goes on to
its end nevertheless, it is closed once more, and its end is handled twice. -/
def endedRun : List Move :=
  closedRun ++ [.resume 1, .close 1 .idle, .ending 1 (some 1), .ending 1 (some 1)]

theorem lifecycle_of_run?_endedRun : ∃ last c, (fresh {} "hub").run? endedRun = some last ∧
    last.connection? 1 = some c ∧ c.link.cause = some .normal ∧
    Lifecycle (fresh {} "hub") endedRun last 1 c := by
  have ends : (((fresh {} "hub").run? endedRun).bind fun last =>
      (last.connection? 1).map fun c => c.link.cause) = some (some .normal) := by
    decide
  obtain ⟨last, run, ends⟩ := Option.bind_eq_some_iff.mp ends
  obtain ⟨c, there, cause⟩ := Option.map_eq_some_iff.mp ends
  exact ⟨last, c, run, there, cause, lifecycle_of_run? run there (by decide)⟩

end StationHub.Hub

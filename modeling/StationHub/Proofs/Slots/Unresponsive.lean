import StationHub.Proofs.Hub.History
import StationHub.Proofs.Slots.Judging
import StationHub.Proofs.Slots.Responses

/-!
How a registered connection is evicted that does not respond to its probes.

* `inTurn`, `isSpared`: sweeps take turns, and nothing else changes a slot and its connection;
  `Probed`: a run like that from a hub in which the connection is fresh in its slot.
* `judges_of_step?`, `balance_of_step?`: what a move makes of the place, and what it learns there.
* `Course`: so the connection stands as the results so far tell, one for each sweep.
* `EvictedIn`: it is evicted in a sweep, the `k`-th of the run.
* `evicted_of_run?`: that is so for the `k` after which the last results were failures for the first
  time, as many as the threshold tells, and for no other.
-/

namespace StationHub.Hub

variable {settings : Settings} {mark : Mark} {earlier moves : List Move} {move : Move}
  {place : Place} {h mid next last : Hub} {threshold k : Nat}

/-! ### Runs in which only sweeps concern a place -/

instance (h : Hub) (place : Place) : Decidable (h.Held place) :=
  inferInstanceAs (Decidable (_ → _))

/-- Sweeps take turns: one begins when none is under way, and none is given up. -/
def inTurn (h : Hub) (move : Move) : Bool :=
  !h.abandons move && (!move.beginsSweep || h.tasks.all fun task => !task.activity.isSweeping)

/-- Nothing but sweeps changes the slot of the place and its connection: other moves leave the slot
as it is, and the connection as open as it is, which somebody holds apart from the sweep that
moves. -/
def isSpared (place : Place) (h : Hub) (move : Move) : Bool :=
  if h.isSweep move then decide ((h.apart move).Held place)
  else
    (h.step? move).all fun next =>
      decide (next.registered? place.variant place.key = h.registered? place.variant place.key) &&
        next.isClosed place.link == h.isClosed place.link

/-- `moves` is a run from `h` in which sweeps take turns and nothing else changes the slot of the
place and its connection, which is registered and open at the beginning, with no failed probe
counted. The hub was in use before, and no sweep is under way. -/
structure Probed (settings : Settings) (mark : Mark) (earlier : List Move) (h : Hub)
    (place : Place) (moves : List Move) : Prop where
  reached : (fresh settings mark).run? earlier = some h
  once : (earlier ++ moves).countP (Move.opensLink place.link) ≤ 1
  positive : 0 < settings.failureThreshold
  fits : settings.failureThreshold < Nat.pow 2 32
  bound : h.boundTo? place.variant place.key = some place.link
  unfailed : (h.link? place.link).any (fun l => !l.closed && l.failures == 0) = true
  idle : (h.tasks.all fun task => !task.activity.isSweeping) = true
  turns : Runs.always step? inTurn h moves = true
  spared : Runs.always step? (isSpared place) h moves = true

theorem Probed.before (probed : Probed settings mark earlier h place (moves ++ [move]))
    (run : h.run? moves = some mid) :
    Probed settings mark earlier h place moves ∧ mid.inTurn move = true ∧
      mid.isSpared place move = true := by
  obtain ⟨turns, turn⟩ := Runs.always_concat run probed.turns
  obtain ⟨spared, spares⟩ := Runs.always_concat run probed.spared
  refine ⟨{ probed with turns, spared, once := ?_ }, turn, spares⟩
  have once := probed.once
  rw [← List.append_assoc, List.countP_append] at once
  omega

/-- What is known of the hub in the course of such a run. -/
theorem Probed.known (probed : Probed settings mark earlier h place moves)
    (run : h.run? moves = some last) :
    (fresh settings mark).run? (earlier ++ moves) = some last ∧ last.Alone place := by
  have reached : (fresh settings mark).run? (earlier ++ moves) = some last := by
    rw [run?_append, probed.reached]
    exact run
  have seated := seated_of_bound (sound_of_run? probed.reached) probed.bound
  exact ⟨reached, (seated.persists (run?_persists run)).alone (single_of_run? reached probed.once)⟩

/-! ### One move -/

/-- **Nothing but a sweep counts failures or forgets them**, whatever it does besides; no pong does
that arrives. -/
theorem failures_of_step? (moved : h.step? move = some next) (other : h.isSweep move = false)
    {i : Nat} {l : Link} (here : h.link? i = some l) :
    ∃ l', next.link? i = some l' ∧ l'.failures = l.failures := by
  obtain ⟨c, at_i, rfl⟩ := link?_eq_some_iff.mp here
  rcases step?_warrants moved with does | ⟨variant, rfl⟩ | ⟨ms, rfl⟩
  · obtain ⟨c', there, goes⟩ := Does.connection does at_i
    refine ⟨c'.link, link?_eq_some_iff.mpr ⟨c', there, rfl⟩, goes.failures ?_ ?_⟩ <;>
    · intro warranted
      cases warranted with
      | plain plain => cases plain
      | meant meant => cases move <;> cases meant
      | sweeps sweeps => exact Bool.false_ne_true (other.symm.trans sweeps)
  · cases moved
    refine ⟨c.link, link?_eq_some_iff.mpr ⟨c, ?_, rfl⟩, rfl⟩
    obtain ⟨within, -⟩ := List.getElem?_eq_some_iff.mp at_i
    exact (List.getElem?_append_left within).trans at_i
  · cases moved
    exact ⟨c.link, here, rfl⟩

/-- A move that is no step of a sweep makes nothing of a place that it spares. -/
theorem judges_of_spared (sound : next.Sound) (moved : h.step? move = some next)
    (other : h.isSweep move = false) (spares : h.isSpared place move = true) :
    Judges place none h next := by
  have persists := step?_persists moved
  rw [isSpared, other, if_neg Bool.false_ne_true, moved, Option.all_some, Bool.and_eq_true,
    decide_eq_true_eq, beq_iff_eq] at spares
  obtain ⟨slot, shut⟩ := spares
  refine ⟨persists.settings, fun standing stands => ?_⟩
  cases standing with
  | registered failures =>
      obtain ⟨l, here, open_, -, counted⟩ := stands.link
      obtain ⟨l', there, still⟩ := failures_of_step? moved other here
      have open' : l'.closed = false := by
        rw [isClosed, isClosed, here, there] at shut
        exact shut.trans open_
      have cause : l'.cause = none := (sound.coherent there).cause_eq_none open'
      have bound : next.boundTo? place.variant place.key = some place.link :=
        (congrArg (Option.map Slot.link) slot).trans stands.bound
      exact ⟨bound, persists.settings ▸ stands.fewer, persists.settings ▸ stands.fits, l', there,
        open', cause, still.trans counted⟩
  | evicted =>
      obtain ⟨l, here, closed, cause⟩ := stands.link
      obtain ⟨l', there, leads⟩ := persists.link here
      exact ⟨slot.trans stands.free, l', there, leads.closed closed, leads.cause cause⟩

/-- What a move makes of a place, in a run in which only sweeps concern it. -/
theorem judges_of_step? {moves : List Move} (run : (fresh settings mark).run? moves = some h)
    (alone : h.Alone place) (spares : h.isSpared place move = true)
    (moved : h.step? move = some next) :
    Judges place (h.verdictOn? place move) h next := by
  cases sweeps : h.isSweep move with
  | true =>
      rw [isSpared, sweeps, if_pos rfl, decide_eq_true_eq] at spares
      exact judges_of_sweep run alone spares moved sweeps
  | false =>
      rw [verdictOn?_of_not_sweep sweeps]
      exact judges_of_spared (sound_of_run? (run?_concat.mpr ⟨h, run, moved⟩)) moved sweeps spares

/-- What a move learns at a place is no longer owed. -/
theorem balance_of_step? {moves : List Move} (run : (fresh settings mark).run? moves = some h)
    (bound : h.boundTo? place.variant place.key = some place.link)
    (goesOn : h.abandons move = false) (moved : h.step? move = some next) :
    (h.verdictOn? place move).toList.length + next.due place =
      h.due place + move.beginsSweep.toNat := by
  cases sweeps : h.isSweep move with
  | true => exact balance_of_sweep run bound moved sweeps
  | false =>
      have none : move.beginsSweep = false := by
        cases move <;> first | rfl | cases sweeps
      rw [verdictOn?_of_not_sweep sweeps, none,
        due_of_step? (numbered_of_run? run) moved sweeps goesOn]
      exact Nat.add_comm 0 _

/-- As long as no sweep is under way nothing is owed. -/
theorem due_of_idle (idle : (h.tasks.all fun task => !task.activity.isSweeping) = true)
    (place : Place) : h.due place = 0 := by
  rw [due, List.countP_eq_zero]
  intro task member owes
  have rests : task.activity.isSweeping = false := by
    simpa using List.all_eq_true.mp idle task member
  exact Bool.false_ne_true ((not_owes rests place).symm.trans owes)

/-! ### Runs -/

/-- The results at the place that a run learns, oldest first. -/
def results (h : Hub) (place : Place) (moves : List Move) : List Bool :=
  h.observed (fun h move => h.verdictOn? place move) moves

/-- Where the hub stands after a run: the connection stands as the results tell, and as long as it
is registered each sweep that has begun has a result, except the last one if that is still owed. -/
structure Course (threshold : Nat) (h : Hub) (place : Place) (moves : List Move) (last : Hub) :
    Prop where
  settings : last.settings.failureThreshold = threshold
  stands : last.Stands place (.after threshold (h.results place moves))
  balance : last.boundTo? place.variant place.key = some place.link →
    (h.results place moves).length + last.due place = moves.countP Move.beginsSweep ∧
      last.due place ≤ 1

theorem Probed.start (probed : Probed settings mark earlier h place []) :
    Course settings.failureThreshold h place [] h := by
  have persists : (fresh settings mark).Persists h := run?_persists probed.reached
  have same : h.settings = settings := persists.settings
  have due := due_of_idle probed.idle place
  obtain ⟨l, here, unfailed⟩ := (Option.any_eq_true _ _).mp probed.unfailed
  rw [Bool.and_eq_true, Bool.not_eq_true', beq_iff_eq] at unfailed
  have cause : l.cause = none :=
    ((sound_of_run? probed.reached).coherent here).cause_eq_none unfailed.1
  exact ⟨congrArg _ same, ⟨probed.bound, same ▸ probed.positive, same ▸ probed.fits, l, here,
    unfailed.1, cause, unfailed.2⟩, fun _ => ⟨by rw [due]; rfl, by rw [due]; exact Nat.zero_le 1⟩⟩

/-- As long as the connection is registered, a move learns what is owed or what the sweep that it
begins is to learn, one result at most. -/
theorem Course.learns (course : Course threshold h place moves mid)
    (probed : Probed settings mark earlier h place (moves ++ [move]))
    (run : h.run? moves = some mid) (moved : mid.step? move = some next)
    (bound : mid.boundTo? place.variant place.key = some place.link) :
    (mid.verdictOn? place move).toList.length + next.due place =
        mid.due place + move.beginsSweep.toNat ∧
      mid.due place + move.beginsSweep.toNat ≤ 1 := by
  obtain ⟨before, turn, -⟩ := probed.before run
  rw [inTurn, Bool.and_eq_true, Bool.not_eq_true', Bool.or_eq_true, Bool.not_eq_true'] at turn
  obtain ⟨goesOn, turn⟩ := turn
  refine ⟨balance_of_step? (before.known run).1 bound goesOn moved, ?_⟩
  rcases turn with none | idle
  · rw [none]
    exact (course.balance bound).2
  · rw [due_of_idle idle]
    exact Nat.le_trans (Nat.le_of_eq (Nat.zero_add _)) (Bool.toNat_le _)

theorem results_concat (run : h.run? moves = some mid) (move : Move) :
    h.results place (moves ++ [move]) =
      h.results place moves ++ (mid.verdictOn? place move).toList := observed_concat run move

theorem sweepsBegun_concat (moves : List Move) (move : Move) :
    (moves ++ [move]).countP Move.beginsSweep =
      moves.countP Move.beginsSweep + move.beginsSweep.toNat := by
  rw [List.countP_append, List.countP_singleton]
  cases move.beginsSweep <;> rfl

theorem Course.turn (course : Course threshold h place moves mid)
    (probed : Probed settings mark earlier h place (moves ++ [move]))
    (run : h.run? moves = some mid) (moved : mid.step? move = some next) :
    Course threshold h place (moves ++ [move]) next := by
  obtain ⟨before, -, spares⟩ := probed.before run
  obtain ⟨reached, alone⟩ := before.known run
  have judges := judges_of_step? reached alone spares moved
  refine ⟨(congrArg _ judges.settings).trans course.settings, ?_, fun bound => ?_⟩
  · have stands := judges.stands _ course.stands
    rw [course.settings] at stands
    rw [results_concat run]
    cases verdict : mid.verdictOn? place move with
    | none =>
        rw [verdict] at stands
        rw [Option.toList_none, List.append_nil]
        exact stands
    | some alive =>
        rw [verdict] at stands
        rw [Option.toList_some, Standing.after_concat]
        exact stands
  · have bound' := judges.bound course.stands bound
    have balance := (course.balance bound').1
    obtain ⟨learns, most⟩ := course.learns probed run moved bound'
    rw [results_concat run, List.length_append, sweepsBegun_concat]
    omega

theorem Probed.course (probed : Probed settings mark earlier h place moves)
    (run : h.run? moves = some last) : Course settings.failureThreshold h place moves last := by
  -- Induction on the moves, the last one first.
  induction moves using List.reverseRecOn generalizing last with
  | nil =>
      cases run
      exact probed.start
  | append_singleton moves move ih =>
      obtain ⟨mid, run, moved⟩ := run?_concat.mp run
      exact (ih (probed.before run).1 run).turn probed run moved

/-! ### Evictions -/

/-- With the move, one of a sweep, the connection of the place is evicted that is registered and
open before. -/
structure Evicts (place : Place) (h : Hub) (move : Move) (next : Hub) : Prop where
  sweeps : h.isSweep move = true
  up : ∃ failures, h.Up place failures
  evicted : next.Evicted place

/-- The connection of the place is evicted in sweep number `k` of a run from `h`: by the move that
evicts it as many sweeps have begun. -/
def EvictedIn (h : Hub) (place : Place) (moves : List Move) (k : Nat) : Prop :=
  ∃ before move after mid next, moves = before ++ move :: after ∧ h.run? before = some mid ∧
    mid.step? move = some next ∧ Evicts place mid move next ∧
    (before ++ [move]).countP Move.beginsSweep = k

theorem not_evictedIn_nil : ¬h.EvictedIn place [] k := by
  rintro ⟨before, move, after, -, -, split, -⟩
  cases before <;> cases split

/-- The eviction of a run is one of the run without its last move, or the last move is it. -/
theorem evictedIn_concat (run : h.run? moves = some mid) (moved : mid.step? move = some next) :
    h.EvictedIn place (moves ++ [move]) k ↔ h.EvictedIn place moves k ∨
      Evicts place mid move next ∧ (moves ++ [move]).countP Move.beginsSweep = k := by
  constructor
  · rintro ⟨before, move', after, mid', next', split, run', moved', evicts, begun⟩
    rcases List.eq_nil_or_concat after with rfl | ⟨after, last, rfl⟩
    · obtain ⟨rfl, same⟩ := List.append_inj' split rfl
      cases same
      cases run.symm.trans run'
      cases moved.symm.trans moved'
      exact .inr ⟨evicts, begun⟩
    · rw [List.concat_eq_append, ← List.cons_append, ← List.append_assoc] at split
      obtain ⟨rfl, -⟩ := List.append_inj' split rfl
      exact .inl ⟨before, move', after, mid', next', rfl, run', moved', evicts, begun⟩
  · rintro (⟨before, move', after, mid', next', rfl, rest⟩ | ⟨evicts, begun⟩)
    · exact ⟨before, move', after ++ [move], mid', next', by simp, rest⟩
    · exact ⟨moves, move, [], mid, next, rfl, run, moved, evicts, begun⟩

theorem Course.evicted_iff (course : Course threshold h place moves last)
    (positive : 0 < threshold) :
    last.Evicted place ↔ ∃ k, FirstExhausts threshold (h.results place moves) k :=
  course.stands.evicted_iff.trans (after_eq_evicted_iff positive)

/-- Until the threshold is reached the connection is registered, with as many failures as the
results end with. -/
theorem Course.up (course : Course threshold h place moves last)
    (never : ∀ k, ¬FirstExhausts threshold (h.results place moves) k) :
    last.Up place (failuresInARow (h.results place moves)) := by
  have stands := course.stands
  rw [after_of_never never] at stands
  exact stands

/-- A move evicts the connection if and only if the threshold is reached with its result for the
first time, and then this is the result of the sweep that began last. -/
theorem Course.evicts_iff (course : Course threshold h place moves mid) (positive : 0 < threshold)
    (probed : Probed settings mark earlier h place (moves ++ [move]))
    (run : h.run? moves = some mid) (moved : mid.step? move = some next) :
    Evicts place mid move next ∧ (moves ++ [move]).countP Move.beginsSweep = k ↔
      (¬∃ j, FirstExhausts threshold (h.results place moves) j) ∧
        FirstExhausts threshold (h.results place (moves ++ [move])) k := by
  have after := course.turn probed run moved
  -- Whoever reaches the threshold with the move is at the last result, that of the last sweep.
  have isLast {j : Nat} (bound : mid.boundTo? place.variant place.key = some place.link)
      (never : ¬∃ j, FirstExhausts threshold (h.results place moves) j)
      (is : FirstExhausts threshold (h.results place (moves ++ [move])) j) :
      (moves ++ [move]).countP Move.beginsSweep = j := by
    have balance := (course.balance bound).1
    obtain ⟨learns, most⟩ := course.learns probed run moved bound
    rw [results_concat run] at is
    have within := is.within
    rw [List.length_append] at within
    have beyond : (h.results place moves).length < j := by
      by_contra inside
      exact never ⟨j, (firstExhausts_append (Nat.le_of_not_lt inside)).mp is⟩
    rw [sweepsBegun_concat]
    omega
  constructor
  · rintro ⟨⟨-, ⟨failures, up⟩, evicted⟩, begun⟩
    have never : ¬∃ j, FirstExhausts threshold (h.results place moves) j := by
      rw [← course.evicted_iff positive]
      intro gone
      cases gone.unbound.symm.trans up.bound
    obtain ⟨j, is⟩ := (after.evicted_iff positive).mp evicted
    exact ⟨never, begun ▸ isLast up.bound never is ▸ is⟩
  · rintro ⟨never, is⟩
    have up := course.up fun j sooner => never ⟨j, sooner⟩
    refine ⟨⟨?_, ⟨_, up⟩, (after.evicted_iff positive).mpr ⟨k, is⟩⟩, isLast up.bound never is⟩
    by_contra other
    rw [results_concat run, verdictOn?_of_not_sweep (Bool.eq_false_iff.mpr other),
      Option.toList_none, List.append_nil] at is
    exact never ⟨k, is⟩

theorem Probed.evictedIn_iff (probed : Probed settings mark earlier h place moves)
    (run : h.run? moves = some last) :
    h.EvictedIn place moves k ↔
      FirstExhausts settings.failureThreshold (h.results place moves) k := by
  induction moves using List.reverseRecOn generalizing last with
  | nil =>
      refine iff_of_false not_evictedIn_nil fun is => ?_
      have reached := exhausts_iff.mp is.exhausts
      rw [results, observed_nil, List.take_nil] at reached
      exact absurd probed.positive (Nat.not_lt.mpr reached)
  | append_singleton moves move ih =>
      obtain ⟨mid, run, moved⟩ := run?_concat.mp run
      have before := (probed.before run).1
      have course := before.course run
      rw [evictedIn_concat run moved, ih before run,
        course.evicts_iff probed.positive probed run moved, results_concat run, ← firstExhausts_iff]

/-- What becomes of the connection of the place in a run follows from the results of its probes. -/
structure FollowsResults (threshold : Nat) (h : Hub) (place : Place) (moves : List Move)
    (last : Hub) : Prop where
  /-- It is evicted in the sweep with which the threshold is reached for the first time, -/
  evictedIn : ∀ k, h.EvictedIn place moves k ↔
    FirstExhausts threshold (h.results place moves) k
  evicted : last.Evicted place ↔ ∃ k, h.EvictedIn place moves k
  /-- and until then it is registered and open, with as many failures as the results end with. -/
  up : (∀ k, ¬h.EvictedIn place moves k) →
    last.Up place (failuresInARow (h.results place moves))
  /-- Until then each sweep that has ended has its result. -/
  each : (∀ k, ¬h.EvictedIn place moves k) →
    (last.tasks.all fun task => !task.activity.isSweeping) = true →
      (h.results place moves).length = moves.countP Move.beginsSweep
  /-- A result says whether a pong has come since the sweep began to probe the connection, or that
  no ping could be queued for it. -/
  told : ∀ {before move after mid alive}, moves = before ++ move :: after →
    h.run? before = some mid → mid.verdictOn? place move = some alive →
    ∀ {settings : Settings} {mark : Mark} {earlier : List Move},
      (fresh settings mark).run? earlier = some h →
      Says (fresh settings mark) (earlier ++ before) mid move place alive
  /-- Nothing but a sweep counts failures or forgets them, not even a pong. -/
  counted : ∀ {move next l}, last.step? move = some next → last.isSweep move = false →
    last.link? place.link = some l → ∃ l', next.link? place.link = some l' ∧
      l'.failures = l.failures

/-- **Eviction.** A connection that sweeps probe is evicted in the sweep after which the last
results of its probes are failures for the first time, as many as the threshold tells, and in no
other one. Until then it stays registered and open, and its failures are counted in a row. The
results of other probes and the pongs that come between the probes do not matter. -/
theorem evicted_of_run? (probed : Probed settings mark earlier h place moves)
    (run : h.run? moves = some last) :
    FollowsResults settings.failureThreshold h place moves last := by
  have course := probed.course run
  have iff := fun k => probed.evictedIn_iff (k := k) run
  have up (never : ∀ k, ¬h.EvictedIn place moves k) :
      last.Up place (failuresInARow (h.results place moves)) :=
    course.up fun k is => never k ((iff k).mpr is)
  refine ⟨iff, ?_, up, fun never idle => ?_, ?_, fun moved other here => ?_⟩
  · rw [course.evicted_iff probed.positive]
    exact exists_congr fun k => (iff k).symm
  · have balance := (course.balance (up never).bound).1
    rw [due_of_idle idle] at balance
    exact balance
  · intro before move after mid alive split run' learned settings mark earlier reached
    subst split
    obtain ⟨mid', run'', goesOn⟩ := run?_split run
    cases run'.symm.trans run''
    refine says_of_verdictOn? ?_ (Alone.of_persists (run?_persists goesOn) (probed.known run).2)
      learned
    rw [run?_append, reached]
    exact run'
  · exact failures_of_step? moved other here

/-- Two devices open their connections. -/
def devicesRun : List Move :=
  let target (name : String) : Target :=
    ⟨.device, "/OCPP16/T/K/" ++ name, "T", "K", name, "ocpp1.6"⟩
  let identity (name : String) : Identity := ⟨⟨"T", "T"⟩, ⟨name, none, none, none⟩⟩
  [.accept .device, .opening 0 (target "D1"), .directoryAnswers 0 (.ok (identity "D1")),
    .accept .device, .opening 1 (target "D2"), .directoryAnswers 1 (.ok (identity "D2"))]

/-- Four sweeps. The first device answers in time in the second one only, and once between two of
them; the second device does not answer in the third one. -/
def sweptRun : List Move :=
  [.sweeping, .pong 1, .advance 5000, .resume 2,
    .sweeping, .pong 0, .pong 1, .resume 3,
    .sweeping, .advance 5000, .resume 4, .pong 0,
    .sweeping, .pong 1, .advance 5000, .resume 5]

/-- If two failed probes are one too many, the first device is evicted in the fourth sweep. -/
theorem evicted_of_run?_sweptRun : ∃ h last,
    (fresh { failureThreshold := 2 } "hub").run? devicesRun = some h ∧
    h.run? sweptRun = some last ∧
    h.results ⟨.device, ⟨"T", "D1"⟩, 0⟩ sweptRun = [false, true, false, false] ∧
    h.EvictedIn ⟨.device, ⟨"T", "D1"⟩, 0⟩ sweptRun 4 ∧
    last.Evicted ⟨.device, ⟨"T", "D1"⟩, 0⟩ := by
  let h := ((fresh { failureThreshold := 2 } "hub").run? devicesRun).get (by decide)
  have reached : (fresh { failureThreshold := 2 } "hub").run? devicesRun = some h :=
    (Option.some_get _).symm
  let last := (h.run? sweptRun).get (by decide)
  have run : h.run? sweptRun = some last := (Option.some_get _).symm
  have results : h.results ⟨.device, ⟨"T", "D1"⟩, 0⟩ sweptRun = [false, true, false, false] := by
    decide
  have probed : Probed { failureThreshold := 2 } "hub" devicesRun h ⟨.device, ⟨"T", "D1"⟩, 0⟩
      sweptRun := by
    refine ⟨reached, ?_, ?_, ?_, ?_, ?_, ?_, ?_, ?_⟩ <;> decide
  have follows := evicted_of_run? probed run
  have inFourth := (follows.evictedIn 4).mpr
    (results ▸ ⟨by decide, by decide, by decide⟩)
  exact ⟨h, last, reached, run, results, inFourth, follows.evicted.mpr ⟨4, inFourth⟩⟩

end StationHub.Hub

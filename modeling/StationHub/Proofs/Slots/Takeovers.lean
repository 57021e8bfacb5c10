import StationHub.Proofs.Slots.Newest
import StationHub.Proofs.Tasks.Waiting

/-!
How takeovers begin and end in a run.

* `Begins`, `Ends`: the ways in which the takeover of a task for a session begins and ends;
  `begins_of_begun` and `ends_of_ended` read them off a move.
* `slot_of_step?`: a session comes into a slot with the end of its own takeover.
* `begun_of_waiting`: a takeover that waits probes the connection that it found in its slot.
* `takes_cases`: a takeover ends at once, or with the verdict on that connection.
-/

namespace StationHub.Hub

/-! ### Slots -/

/-- Whoever is in a slot was there before the move, or comes into it with the end of its
takeover. -/
theorem slot_of_step? {h next : Hub} {move : Move} (moved : h.step? move = some next)
    {variant : Variant} {key : Key} {slot : Slot Nat Nat}
    (there : next.registered? variant key = some slot) :
    h.registered? variant key = some slot ∨
      ∃ task, h.takeoverEnded? move = some (task, slot.session) := by
  obtain ⟨a, b, before, seats, -, slots⟩ := (step?_effect moved).slots
  have in_b : b.registered? variant key = some slot := by
    rcases slots variant key with same | ⟨-, emptied⟩
    · exact same.symm.trans there
    · rw [emptied] at there
      cases there
  have in_a : a.registered? variant key = some slot → h.registered? variant key = some slot := by
    intro at_a
    rcases before.slot variant key with same | ⟨-, emptied⟩
    · exact same.symm.trans at_a
    · rw [emptied] at at_a
      cases at_a
  cases ended : h.takeoverEnded? move with
  | none =>
      rw [ended] at seats
      obtain rfl : b = a := seats
      exact .inl (in_a in_b)
  | some taken =>
      rw [ended] at seats
      obtain ⟨s, -, rfl | ⟨rfl, -⟩⟩ := seats
      · by_cases same : s.variant = variant ∧ s.key = key
        · obtain ⟨rfl, rfl⟩ := same
          rw [registered?_register_self] at in_b
          cases in_b
          exact .inr ⟨taken.1, rfl⟩
        · rw [registered?_register_of_ne same] at in_b
          exact .inl (in_a in_b)
      · exact .inl (in_a in_b)

/-! ### Positions of a run -/

variable {h : Hub} {moves : List Move}

theorem run?_take_succ {n : Nat} {next : Hub} (within : n < moves.length)
    (run : h.run? (moves.take (n + 1)) = some next) :
    ∃ mid move, h.run? (moves.take n) = some mid ∧ moves[n]? = some move ∧
      mid.step? move = some next := by
  rw [List.take_succ_eq_append_getElem within] at run
  obtain ⟨mid, before, moved⟩ := run?_concat.mp run
  exact ⟨mid, moves[n], before, List.getElem?_eq_getElem within, moved⟩

theorem begunAt?_eq {n : Nat} {mid : Hub} {move : Move} (run : h.run? (moves.take n) = some mid)
    (there : moves[n]? = some move) : h.begunAt? moves n = mid.takeoverBegun? move := by
  rw [begunAt?, run, there]
  rfl

theorem endedAt?_eq {n : Nat} {mid : Hub} {move : Move} (run : h.run? (moves.take n) = some mid)
    (there : moves[n]? = some move) : h.endedAt? moves n = mid.takeoverEnded? move := by
  rw [endedAt?, run, there]
  rfl

theorem run?_take_le {n m : Nat} (before : n ≤ m) {last : Hub}
    (run : h.run? (moves.take m) = some last) :
    ∃ mid, h.run? (moves.take n) = some mid ∧ h.Persists mid ∧ mid.Persists last := by
  have whole := List.take_append_drop n (moves.take m)
  rw [List.take_take, Nat.min_eq_left before] at whole
  rw [← whole] at run
  obtain ⟨mid, first, second⟩ := run?_split run
  exact ⟨mid, first, run?_persists first, run?_persists second⟩

/-! ### How takeovers begin -/

/-- How the takeover of a task for a session begins with a move, in the hub `base`. -/
inductive Begins (h : Hub) : Move → Hub → Nat → Nat → Prop where
  /-- Somebody asks for it. -/
  | asked {i : Nat} {s : Session} : h.session? i = some s →
      Begins h (.reconciling i) h.newTask.1 h.nextTask i
  /-- A message arrives of a session whose slot is held by another one. -/
  | displaced {i : Nat} {path : String} {message : Message} {s : Session} :
      h.session? i = some s → h.isDisplaced s = true →
      Begins h (.handling i path (.ok message)) h.newTask.1 h.nextTask i
  /-- The peer of an opening is identified. -/
  | identified {id : Nat} {identity : Identity} {mid : Hub} :
      h.identified? id identity = some mid →
      Begins h (.directoryAnswers id (.ok identity)) mid id h.sessions.length

/-- How the takeover of a task for a session ends with a move. -/
inductive Ends (h : Hub) (move : Move) (task i : Nat) : Prop where
  /-- It needs no probe, and ends with the move with which it begins. -/
  | atOnce {base : Hub} : h.Begins move base task i → base.takesAtOnce i = true → Ends h move task i
  /-- Its task goes on. -/
  | resumed {activity : Activity} {s : Session} : move = .resume task →
      h.task? task = some ⟨task, activity⟩ → activity.taking? = some i → h.session? i = some s →
      Ends h move task i

variable {next base : Hub} {move : Move} {task i : Nat}

theorem begins_of_begun (begun : h.takeoverBegun? move = some (task, i)) :
    ∃ base, h.Begins move base task i := by
  cases move with
  | reconciling session =>
      simp only [takeoverBegun?, Option.ite_none_right_eq_some, Option.some.injEq,
        Prod.mk.injEq] at begun
      obtain ⟨known, rfl, rfl⟩ := begun
      obtain ⟨s, here⟩ := Option.isSome_iff_exists.mp known
      exact ⟨_, .asked here⟩
  | handling session path decoded =>
      cases decoded with
      | error => cases begun
      | ok message =>
          simp only [takeoverBegun?, Option.ite_none_right_eq_some, Option.some.injEq,
            Prod.mk.injEq] at begun
          obtain ⟨displaced, rfl, rfl⟩ := begun
          obtain ⟨s, here, displaced⟩ := (Option.any_eq_true _ _).mp displaced
          exact ⟨_, .displaced here displaced⟩
  | directoryAnswers id answer =>
      cases answer with
      | error => cases begun
      | ok identity =>
          obtain ⟨mid, identified, same⟩ := Option.map_eq_some_iff.mp begun
          cases same
          exact ⟨mid, .identified identified⟩
  | _ => cases begun

theorem Begins.begun (begins : h.Begins move base task i) :
    h.takeoverBegun? move = some (task, i) := by
  cases begins with
  | asked here => simp [takeoverBegun?, here]
  | displaced here displaced => simp [takeoverBegun?, here, displaced]
  | identified identified => simp [takeoverBegun?, identified]

theorem ends_of_ended (ended : h.takeoverEnded? move = some (task, i)) : h.Ends move task i := by
  cases move with
  | reconciling session =>
      simp only [takeoverEnded?, Option.ite_none_right_eq_some, Option.some.injEq,
        Prod.mk.injEq] at ended
      obtain ⟨atOnce, rfl, rfl⟩ := ended
      obtain ⟨s, here, -⟩ := (Option.any_eq_true _ _).mp atOnce
      exact .atOnce (.asked here) atOnce
  | handling session path decoded =>
      cases decoded with
      | error => cases ended
      | ok message =>
          simp only [takeoverEnded?, Option.ite_none_right_eq_some, Option.some.injEq,
            Prod.mk.injEq, Bool.and_eq_true] at ended
          obtain ⟨⟨displaced, atOnce⟩, rfl, rfl⟩ := ended
          obtain ⟨s, here, displaced⟩ := (Option.any_eq_true _ _).mp displaced
          exact .atOnce (.displaced here displaced) atOnce
  | directoryAnswers id answer =>
      cases answer with
      | error => cases ended
      | ok identity =>
          unfold takeoverEnded? at ended
          dsimp only at ended
          split at ended
          · rename_i mid identified
            simp only [Option.ite_none_right_eq_some, Option.some.injEq, Prod.mk.injEq] at ended
            obtain ⟨atOnce, rfl, rfl⟩ := ended
            exact .atOnce (.identified identified) atOnce
          · cases ended
  | resume id =>
      simp only [takeoverEnded?] at ended
      obtain ⟨session, taking, made⟩ := Option.bind_eq_some_iff.mp ended
      obtain ⟨s, here, same⟩ := Option.map_eq_some_iff.mp made
      cases same
      obtain ⟨⟨number, activity⟩, found, taken⟩ := Option.bind_eq_some_iff.mp taking
      cases id_of_task? found
      exact .resumed rfl found taken here
  | _ => cases ended

/-- An opening whose peer is identified goes on with a session of it. -/
theorem step?_identified {mid next : Hub} {id : Nat} {identity : Identity}
    (moved : h.step? (.directoryAnswers id (.ok identity)) = some next)
    (identified : h.identified? id identity = some mid) :
    ∃ link target guard s, h.task? id = some ⟨id, .openResolving link target guard⟩ ∧
      s.link = link ∧ mid.session? h.sessions.length = some s ∧
      next.session? h.sessions.length = some s := by
  obtain ⟨link, target, guard, l, found, here, rfl⟩ := identified?_eq_some identified
  have there : (h.detach id).link? link = some l := here
  have goesOn : next = (h.detach id).afterIdentified id link guard identity := by
    have answered : h.directoryAnswers? id (.ok identity) = some next := moved
    rw [directoryAnswers?, found] at answered
    exact (Option.some.inj answered).symm.trans (afterDirectory_identified identified found)
  have made := session?_withSession (h.detach id) link l.variant identity
  refine ⟨link, target, guard, _, found, rfl, made, ?_⟩
  rw [goesOn, session?, (afterIdentified_staff there id guard identity).1]
  exact made

/-- The session of a takeover that begins is there when it does and after the move. -/
theorem Begins.session (begins : h.Begins move base task i) (moved : h.step? move = some next) :
    ∃ s s', base.session? i = some s ∧ next.session? i = some s' ∧ s.SamePeer s' := by
  cases begins with
  | asked here | displaced here =>
      obtain ⟨s', there, same⟩ := (step?_persists moved).session here
      exact ⟨_, s', here, there, same⟩
  | identified identified =>
      obtain ⟨-, -, -, s, -, -, at_base, at_next⟩ := step?_identified moved identified
      exact ⟨s, s, at_base, at_next, .refl s⟩

/-- The number of a takeover that begins is used up. -/
theorem Begins.lt_nextTask (begins : h.Begins move base task i) (numbered : h.Numbered)
    (moved : h.step? move = some next) : task < next.nextTask := by
  cases begins with
  | asked here =>
      cases moved
      exact (engages_beginReconcile h i).nextTask_le
  | displaced here displaced =>
      cases moved
      exact (engages_beginHandling h i _ _).nextTask_le
  | identified identified =>
      obtain ⟨_, _, _, -, found, -, -⟩ := identified?_eq_some identified
      have below := numbered.below _ (List.mem_of_find?_eq_some found)
      exact Nat.lt_of_lt_of_le below (step?_persists moved).nextTask

/-- A takeover that begins has a new number, or a new session of an opening that waited for the
directory. -/
theorem Begins.new (begins : h.Begins move base task i) :
    task = h.nextTask ∨ h.session? i = none ∧
      ∃ link target guard, h.task? task = some ⟨task, .openResolving link target guard⟩ := by
  cases begins with
  | asked | displaced => exact .inl rfl
  | identified identified =>
      obtain ⟨link, target, guard, -, found, -, -⟩ := identified?_eq_some identified
      exact .inr ⟨List.getElem?_eq_none (Nat.le_refl _), link, target, guard, found⟩

/-- The task of a takeover that just begins does not wait for a probe. -/
theorem Begins.probes?_eq_none (begins : h.Begins move base task i) (numbered : h.Numbered)
    {activity : Activity} (found : h.task? task = some ⟨task, activity⟩) :
    activity.probes? = none := by
  rcases begins.new with new | ⟨-, _, _, _, resolving⟩
  · have below := numbered.below _ (List.mem_of_find?_eq_some found)
    exact absurd new (Nat.ne_of_lt below)
  · rw [found] at resolving
    cases resolving
    rfl

/-- What a takeover that begins finds of another connection in its slot. -/
theorem Begins.finds (begins : h.Begins move base task i) (numbered : h.Numbered) {s : Session}
    (here : base.session? i = some s) {link : Nat} (other : link ≠ s.link) :
    ((base.registered? s.variant s.key).bind base.openRival? = some link ↔
        (h.registered? s.variant s.key).bind h.openRival? = some link) ∧
      (base.startProbe link base.settings.probeTimeout).2 =
        (h.startProbe link h.settings.probeTimeout).2 := by
  cases begins with
  | asked | displaced =>
      refine ⟨Iff.rfl, ?_⟩
      rw [startProbe_snd, startProbe_snd]
      rfl
  | @identified _ identity _ identified =>
      obtain ⟨on, target, guard, l, found, -, made⟩ := identified?_eq_some identified
      have there := session?_withSession (h.detach task) on l.variant identity
      rw [made] at here
      obtain rfl := Option.some.inj (there.symm.trans here)
      exact ⟨held_identified numbered found identified other _ _,
        startProbe_identified found identified other⟩

/-- A takeover begins once. -/
theorem begunAt?_unique (numbered : ∀ {n mid}, h.run? (moves.take n) = some mid → mid.Numbered)
    {n m : Nat} (begun : h.begunAt? moves n = some (task, i))
    (again : h.begunAt? moves m = some (task, i)) : n = m := by
  have ordered : ∀ {n m : Nat}, h.begunAt? moves n = some (task, i) →
      h.begunAt? moves m = some (task, i) → ¬n < m := by
    intro n m begun again before
    obtain ⟨last, run, rest⟩ := Option.bind_eq_some_iff.mp again
    obtain ⟨move', -, again⟩ := Option.bind_eq_some_iff.mp rest
    obtain ⟨next, run', -, persists⟩ := run?_take_le (Nat.succ_le_of_lt before) run
    obtain ⟨mid, runs, rest⟩ := Option.bind_eq_some_iff.mp begun
    obtain ⟨move, there, begun⟩ := Option.bind_eq_some_iff.mp rest
    obtain ⟨within, -⟩ := List.getElem?_eq_some_iff.mp there
    obtain ⟨mid', other, runs', there', moved⟩ := run?_take_succ within run'
    rw [runs] at runs'
    cases runs'
    rw [there] at there'
    cases there'
    obtain ⟨base, begins⟩ := begins_of_begun begun
    obtain ⟨base', begins'⟩ := begins_of_begun again
    have below := begins.lt_nextTask (numbered runs) moved
    obtain ⟨-, s, -, made, -⟩ := begins.session moved
    obtain ⟨s', still, -⟩ := persists.session made
    have grows := persists.nextTask
    rcases begins'.new with new | ⟨absent, -⟩
    · omega
    · rw [still] at absent
      cases absent
  have notBefore := ordered begun again
  have notAfter := ordered again begun
  omega

/-- No other takeover ends with the move with which a takeover begins. -/
theorem endedAt?_of_begunAt? {n : Nat} {first last : Nat × Nat}
    (begun : h.begunAt? moves n = some first) (ended : h.endedAt? moves n = some last) :
    last = first := by
  obtain ⟨mid, run, rest⟩ := Option.bind_eq_some_iff.mp ended
  obtain ⟨move, there, ended⟩ := Option.bind_eq_some_iff.mp rest
  rw [begunAt?_eq run there] at begun
  cases ends_of_ended ended with
  | atOnce begins => exact Option.some.inj (begins.begun.symm.trans begun)
  | resumed isResume =>
      subst isResume
      cases begun

/-! ### Takeovers that wait -/

theorem begunAt?_of_lt {n : Nat} (before : n < moves.length) (move : Move) :
    h.begunAt? (moves ++ [move]) n = h.begunAt? moves n := by
  unfold begunAt?
  rw [List.take_append_of_le_length (Nat.le_of_lt before), List.getElem?_append_left before]

/-- A takeover that waits has begun, found its rival in its slot then, and waits for the probe that
it began then. -/
theorem begun_of_waiting {settings : Settings} {mark : Mark} {last : Hub}
    (run : (fresh settings mark).run? moves = some last) {task : Task}
    (member : task ∈ last.tasks) {i rival : Nat} {probe : Link.Probe}
    (probes : task.activity.probes? = some (i, rival, probe)) :
    ∃ n first s, (fresh settings mark).run? (moves.take n) = some first ∧
      (fresh settings mark).begunAt? moves n = some (task.id, i) ∧ n < moves.length ∧
      last.session? i = some s ∧ first.Examines s rival probe := by
  induction moves using List.reverseRecOn generalizing last with
  | nil =>
      cases run
      cases member
  | append_singleton moves move ih =>
      obtain ⟨mid, run, moved⟩ := run?_concat.mp run
      rw [List.length_append, List.length_singleton]
      rcases mem_tasks_of_step? (numbered_of_run? run) moved member with ⟨old, -⟩ | begets
      · obtain ⟨n, first, s, run', begun, within, here, examines⟩ := ih run old
        obtain ⟨s', there, same⟩ := (step?_persists moved).session here
        refine ⟨n, first, s', ?_, ?_, Nat.lt_succ_of_lt within, there, examines.samePeer same⟩
        · rw [List.take_append_of_le_length (Nat.le_of_lt within)]
          exact run'
        · rw [begunAt?_of_lt within]
          exact begun
      · obtain ⟨begun, s, there, examines⟩ := begets.takes probes
        have run' : (fresh settings mark).run? ((moves ++ [move]).take moves.length) =
            some mid := by
          rw [List.take_left' rfl]
          exact run
        have last_move : (moves ++ [move])[moves.length]? = some move := by simp
        refine ⟨moves.length, mid, s, run', ?_, Nat.lt_succ_self _, there, examines⟩
        rw [begunAt?_eq run' last_move]
        exact begun

/-- The same at a position of a run. -/
theorem begun_of_waiting_at {settings : Settings} {mark : Mark} {m : Nat} {last : Hub}
    (run : (fresh settings mark).run? (moves.take m) = some last) {task : Task}
    (member : task ∈ last.tasks) {i rival : Nat} {probe : Link.Probe}
    (probes : task.activity.probes? = some (i, rival, probe)) :
    ∃ n first s, (fresh settings mark).run? (moves.take n) = some first ∧
      (fresh settings mark).begunAt? moves n = some (task.id, i) ∧ n < m ∧
      last.session? i = some s ∧ first.Examines s rival probe := by
  obtain ⟨n, first, s, run', begun, within, here, examines⟩ := begun_of_waiting run member probes
  rw [List.length_take] at within
  have before : n < m := Nat.lt_of_lt_of_le within (Nat.min_le_left _ _)
  have cut : (moves.take m).take n = moves.take n := by
    rw [List.take_take, Nat.min_eq_left (Nat.le_of_lt before)]
  rw [cut] at run'
  unfold begunAt? at begun
  rw [cut, List.getElem?_take_of_lt before] at begun
  exact ⟨n, first, s, run', begun, before, here, examines⟩

/-! ### Takeovers in a run -/

/-- How a takeover ends: at once, or when its task goes on with the probe that it began then. -/
theorem takes_cases {settings : Settings} {mark : Mark} {task i start finish : Nat}
    {first last next : Hub} {s : Session}
    (takes : Takes (fresh settings mark) moves task i start finish)
    (run₀ : (fresh settings mark).run? (moves.take start) = some first)
    (run₁ : (fresh settings mark).run? (moves.take finish) = some last)
    (run₂ : (fresh settings mark).run? (moves.take (finish + 1)) = some next)
    (here : next.session? i = some s) :
    (start = finish ∧ first = last ∧ ∃ move base, last.step? move = some next ∧
      last.Begins move base task i ∧ base.takesAtOnce i = true) ∨
    (start < finish ∧ last.step? (.resume task) = some next ∧
      (∃ s', last.session? i = some s') ∧
      ∃ activity rival probe, last.task? task = some ⟨task, activity⟩ ∧
        activity.probes? = some (i, rival, probe) ∧ first.Examines s rival probe) := by
  have numbered : ∀ {n mid}, (fresh settings mark).run? (moves.take n) = some mid →
      mid.Numbered := fun run => numbered_of_run? run
  have within := lt_length_of_endedAt? takes.ended
  obtain ⟨last', move, run₁', there, moved⟩ := run?_take_succ within run₂
  rw [run₁] at run₁'
  cases run₁'
  have ended := takes.ended
  rw [endedAt?_eq run₁ there] at ended
  cases ends_of_ended ended with
  | atOnce begins atOnce =>
      left
      have again : (fresh settings mark).begunAt? moves finish = some (task, i) :=
        (begunAt?_eq run₁ there).trans begins.begun
      have same := begunAt?_unique numbered takes.begun again
      subst same
      rw [run₀] at run₁
      cases run₁
      exact ⟨rfl, rfl, move, _, moved, begins, atOnce⟩
  | @resumed activity t isResume found taking at_last =>
      subst isResume
      right
      obtain ⟨⟨j, rival, probe⟩, probes, rfl⟩ : ∃ probed, activity.probes? = some probed ∧
          probed.1 = i := by
        rw [Activity.taking?_eq_map_probes?] at taking
        exact Option.map_eq_some_iff.mp taking
      obtain ⟨n, first', s', run₀', begun, before, at_last, examines⟩ :=
        begun_of_waiting_at run₁ (List.mem_of_find?_eq_some found) probes
      have same := begunAt?_unique numbered takes.begun begun
      subst same
      rw [run₀] at run₀'
      cases run₀'
      obtain ⟨s'', at_next, peer⟩ := (step?_persists moved).session at_last
      rw [here] at at_next
      cases at_next
      exact ⟨before, moved, ⟨s', at_last⟩, activity, rival, probe, found, probes,
        examines.samePeer peer⟩

/-- Whoever is in a slot at a point of a run was there at an earlier point, or came into it
with a takeover that ended in between. -/
theorem slot_of_run? {n m : Nat} (before : n ≤ m) {first last : Hub}
    (run₀ : h.run? (moves.take n) = some first) (run₁ : h.run? (moves.take m) = some last)
    (inside : m ≤ moves.length) {variant : Variant} {key : Key} {slot : Slot Nat Nat}
    (there : last.registered? variant key = some slot) :
    first.registered? variant key = some slot ∨
      ∃ k task, n ≤ k ∧ k < m ∧ h.endedAt? moves k = some (task, slot.session) := by
  obtain ⟨distance, rfl⟩ := Nat.exists_eq_add_of_le before
  -- Induction on the number of moves in between.
  induction distance generalizing last with
  | zero =>
      rw [Nat.add_zero, run₀] at run₁
      cases run₁
      exact .inl there
  | succ distance ih =>
      obtain ⟨mid, move, run, at_m, moved⟩ := run?_take_succ inside run₁
      rcases slot_of_step? moved there with old | ⟨task, ended⟩
      · rcases ih old (Nat.le_add_right _ _) run (Nat.le_of_succ_le inside) with
          same | ⟨k, task, from_n, to_m, ended⟩
        · exact .inl same
        · exact .inr ⟨k, task, from_n, Nat.lt_succ_of_lt to_m, ended⟩
      · refine .inr ⟨n + distance, task, Nat.le_add_right _ _, Nat.lt_succ_self _, ?_⟩
        exact (endedAt?_eq run at_m).trans ended

end StationHub.Hub

import StationHub.Proofs.Hub.Course

/-!
The steps of openings. An opening waits for its path, for the directory and for the verdict on its
rival; in between it makes its session.

* `step?_idles`: a move that is not a step of an opening makes no session and lets no opening wait.
* `openingStep_of_step?`: a move that is a step of an opening is one of the six of `OpeningStep`.
-/

namespace StationHub.Hub

/-! ### Moves that are no steps of openings -/

theorem links_modifySession {h : Hub} {i : Nat} {change : Session → Session}
    (same : ∀ s, h.session? i = some s → (change s).link = s.link) :
    (h.modifySession i change).sessions.map Session.link = h.sessions.map Session.link := by
  apply List.ext_getElem?
  intro j
  rw [List.getElem?_map, List.getElem?_map]
  show ((h.modifySession i change).session? j).map _ = (h.session? j).map _
  rw [session?_modifySession]
  cases here : h.session? j with
  | none => rfl
  | some s =>
      by_cases at_i : i = j
      · subst at_i
        simp [same s here]
      · simp [at_i]

theorem sessions_setRoster (h : Hub) (variant : Variant) (roster : Roster Nat Nat) :
    (h.setRoster variant roster).sessions = h.sessions := by
  cases variant <;> rfl

theorem tasks_setRoster (h : Hub) (variant : Variant) (roster : Roster Nat Nat) :
    (h.setRoster variant roster).tasks = h.tasks := by
  cases variant <;> rfl

/-- No opening begins to wait, and no session is made. -/
structure Idles (h next : Hub) : Prop where
  tasks : Task.GoOn h.tasks next.tasks
  links : next.sessions.map Session.link = h.sessions.map Session.link

theorem Idles.refl (h : Hub) : h.Idles h := ⟨.refl h.tasks, rfl⟩

theorem Idles.trans {h mid next : Hub} (first : h.Idles mid) (second : mid.Idles next) :
    h.Idles next :=
  ⟨first.tasks.trans second.tasks, second.links.trans first.links⟩

theorem idles_of_eq {h next : Hub} (tasks : next.tasks = h.tasks)
    (links : next.sessions.map Session.link = h.sessions.map Session.link) : h.Idles next :=
  ⟨tasks ▸ .refl h.tasks, links⟩

theorem QuietStep.idles {clears : Prop} {h next : Hub} (step : QuietStep clears h next) :
    h.Idles next := by
  refine idles_of_eq (Quiet.tasks (.single step)).1 ?_
  cases step with
  | books => rfl
  | connection => rfl
  | vacate _ variant key => rw [sessions_setRoster]
  | desert _ variant => rw [sessions_setRoster]
  | called i change noted =>
      refine links_modifySession fun s here => ?_
      rw [noted s here]
      rfl

theorem SideStep.idles {clears opens : Prop} (shut : ¬opens) {h next : Hub}
    (step : SideStep clears opens h next) : h.Idles next := by
  cases step with
  | quiet step => exact step.idles
  | tasks tasks finished nextTask _ goOn => exact ⟨goOn.resolve_left shut, rfl⟩
  | accept c => exact idles_of_eq rfl rfl
  | identified allowed => exact absurd allowed shut
  | clock ms => exact idles_of_eq rfl rfl
  | halt => exact idles_of_eq rfl rfl

theorem Aside.idles {clears opens : Prop} (shut : ¬opens) {h next : Hub}
    (aside : Aside clears opens h next) : h.Idles next := by
  induction aside with
  | refl => exact .refl h
  | tail _ step ih => exact ih.trans (step.idles shut)

theorem Seats.idles {h next : Hub} {seated : Option Nat} (seats : Seats h next seated) :
    h.Idles next := by
  cases seated with
  | none =>
      obtain rfl : next = h := seats
      exact .refl _
  | some i =>
      obtain ⟨s, -, rfl | ⟨rfl, -⟩⟩ := seats
      · refine idles_of_eq (tasks_setRoster h s.variant _) ?_
        exact congrArg (List.map Session.link) (sessions_setRoster h s.variant _)
      · exact .refl _

theorem idles_book (h : Hub) (i : Nat) (event : CallEvent) : h.Idles (h.book i event) := by
  have links : (h.modifySession i event.apply).sessions.map Session.link =
      h.sessions.map Session.link :=
    links_modifySession fun s _ => (event.samePeer_apply s).link
  unfold book
  split
  · exact idles_of_eq rfl links
  · exact idles_of_eq rfl links

theorem Books.idles {h next : Hub} {event : Option (Nat × CallEvent)} (books : Books h next event) :
    h.Idles next := by
  cases event with
  | none =>
      obtain rfl : next = h := books
      exact .refl _
  | some booked =>
      obtain rfl : next = h.book booked.1 booked.2 := books
      exact idles_book h booked.1 booked.2

/-- A move that is not a step of an opening makes no session and lets no opening wait. -/
theorem step?_idles {h next : Hub} {move : Move} (moved : h.step? move = some next)
    (other : h.opens? move = none) : h.Idles next := by
  obtain ⟨a, b, c, d, first, seats, second, books, third⟩ := step?_effect moved
  have shut : ¬(h.opens? move).isSome = true := by simp [other]
  have before := ((first.idles shut).trans seats.idles).trans (second.idles shut)
  exact (before.trans books.idles).trans (third.idles shut)

/-! ### Steps of openings -/

/-- What a takeover leaves as it is: it is about connections and slots. -/
structure Reseats (h next : Hub) : Prop where
  tasks : next.tasks = h.tasks
  nextTask : next.nextTask = h.nextTask
  finished : next.finished = h.finished
  sessions : next.sessions = h.sessions
  stopping : next.stopping = h.stopping
  unknown : next.counters.unknownResponses = h.counters.unknownResponses

theorem Reseats.refl (h : Hub) : h.Reseats h := ⟨rfl, rfl, rfl, rfl, rfl, rfl⟩

theorem Reseats.trans {h mid next : Hub} (first : h.Reseats mid) (second : mid.Reseats next) :
    h.Reseats next where
  tasks := second.tasks.trans first.tasks
  nextTask := second.nextTask.trans first.nextTask
  finished := second.finished.trans first.finished
  sessions := second.sessions.trans first.sessions
  stopping := second.stopping.trans first.stopping
  unknown := second.unknown.trans first.unknown

theorem reseats_setRoster (h : Hub) (variant : Variant) (roster : Roster Nat Nat) :
    h.Reseats (h.setRoster variant roster) := by
  cases variant <;> exact ⟨rfl, rfl, rfl, rfl, rfl, rfl⟩

theorem reseats_closed (h : Hub) (i : Nat) (cause : CloseCause) : h.Reseats (h.closed i cause) := by
  unfold closed closeLink
  split <;> exact ⟨rfl, rfl, rfl, rfl, rfl, rfl⟩

theorem reseats_startProbe (h : Hub) (i wait : Nat) : h.Reseats (h.startProbe i wait).1 := by
  unfold startProbe
  split <;> exact ⟨rfl, rfl, rfl, rfl, rfl, rfl⟩

theorem reseats_beginTakeover (h : Hub) (i : Nat) (s : Session) :
    h.Reseats (h.beginTakeover i s).1 := by
  unfold beginTakeover
  split
  · exact reseats_setRoster h _ _
  · split
    · exact .refl h
    · split
      · exact reseats_setRoster h _ _
      · rename_i rival _
        have probed := reseats_startProbe h rival h.settings.probeTimeout
        split <;> rename_i started <;> rw [started] at probed
        · exact probed.trans (reseats_setRoster _ _ _)
        · exact probed

theorem reseats_concludeTakeover (h : Hub) (i rival : Nat) (alive : Bool) :
    h.Reseats (h.concludeTakeover i rival alive).1 := by
  unfold concludeTakeover
  split
  · exact .refl h
  · cases alive with
    | false => exact reseats_setRoster h _ _
    | true =>
        have counted : (h.closed rival .duplicate).Reseats
            ((h.closed rival .duplicate).count .duplicateClosed) := ⟨rfl, rfl, rfl, rfl, rfl, rfl⟩
        exact ((reseats_closed h rival .duplicate).trans counted).trans (reseats_setRoster _ _ _)

/-- Tasks and sessions are the same. -/
structure SameStaff (h next : Hub) : Prop where
  tasks : next.tasks = h.tasks
  sessions : next.sessions = h.sessions

theorem SameStaff.trans {h mid next : Hub} (first : h.SameStaff mid) (second : mid.SameStaff next) :
    h.SameStaff next :=
  ⟨second.tasks.trans first.tasks, second.sessions.trans first.sessions⟩

theorem SameStaff.session? {h next : Hub} (same : h.SameStaff next) (i : Nat) :
    next.session? i = h.session? i := by
  unfold Hub.session?
  rw [same.sessions]

theorem Reseats.sameStaff {h next : Hub} (same : h.Reseats next) : h.SameStaff next :=
  ⟨same.tasks, same.sessions⟩

theorem sameStaff_closed (h : Hub) (i : Nat) (cause : CloseCause) :
    h.SameStaff (h.closed i cause) := (reseats_closed h i cause).sameStaff

theorem sameStaff_endOpening (h : Hub) (id : Nat) (guard : Guard) (result : Except Failure Nat) :
    h.SameStaff (h.endOpening id guard result) := ⟨rfl, rfl⟩

theorem sameStaff_afterTakeover (h : Hub) (id link session : Nat) (guard : Guard) :
    h.SameStaff (h.afterTakeover id link session guard) := by
  unfold afterTakeover
  split
  · have closed := sameStaff_closed h link .shutdown
    dsimp only
    split
    · exact closed.trans (sameStaff_endOpening _ id guard _)
    · exact (closed.trans (reseats_setRoster _ _ _).sameStaff).trans
        (sameStaff_endOpening _ id guard _)
  · exact ⟨rfl, rfl⟩

/-- The last step of an opening that probed its rival. -/
theorem sameStaff_probed (h : Hub) (id link session rival : Nat) (guard : Guard) (alive : Bool) :
    h.SameStaff ((h.concludeTakeover session rival alive).1.afterTakeover id link session guard) :=
  (reseats_concludeTakeover h session rival alive).sameStaff.trans
    (sameStaff_afterTakeover _ id link session guard)

/-- An opening that has its guard ends or waits for the directory. -/
theorem afterGuard_staff (h : Hub) (id link : Nat) (target : Target) (guard : Guard) :
    (h.afterGuard id link target guard).sessions = h.sessions ∧
      ((h.afterGuard id link target guard).tasks = h.tasks ∨
        (h.afterGuard id link target guard).tasks =
          h.tasks ++ [⟨id, .openResolving link target guard⟩]) := by
  unfold afterGuard
  split
  · exact ⟨rfl, .inl rfl⟩
  · split
    · have closed := sameStaff_closed h link .shutdown
      exact ⟨closed.sessions, .inl closed.tasks⟩
    · exact ⟨rfl, .inr rfl⟩

/-- An opening whose peer is identified makes its session, and ends or waits with a probe of another
connection than its own. -/
theorem afterIdentified_staff {h : Hub} {link : Nat} {l : Link} (here : h.link? link = some l)
    (id : Nat) (guard : Guard) (identity : Identity) :
    (h.afterIdentified id link guard identity).sessions =
        h.sessions ++ [h.newSession link l.variant identity] ∧
      ((h.afterIdentified id link guard identity).tasks = h.tasks ∨
        ∃ rival probe, rival ≠ link ∧ (h.afterIdentified id link guard identity).tasks =
          h.tasks ++ [⟨id, .openProbing link h.sessions.length guard rival probe⟩]) := by
  have begun := reseats_beginTakeover (h.withSession link l.variant identity) h.sessions.length
    (h.newSession link l.variant identity)
  rw [afterIdentified_eq here]
  rcases @beginTakeover_cases True _ _ _ (session?_withSession h link l.variant identity) with
    ⟨mid, next, takeover, -, -, started⟩ | ⟨next, rival, probe, -, other, started⟩
  · rw [started] at begun ⊢
    have ended := sameStaff_afterTakeover next id link h.sessions.length guard
    exact ⟨ended.sessions.trans begun.sessions, .inl (ended.tasks.trans begun.tasks)⟩
  · rw [started] at begun ⊢
    refine ⟨begun.sessions, .inr ⟨rival, probe, other, ?_⟩⟩
    show next.tasks ++ _ = _
    rw [begun.tasks]
    rfl

/-- A step of the opening `id` of connection number `link`. -/
inductive OpeningStep (h : Hub) (id link : Nat) : Move → Hub → Prop where
  /-- The opening begins and waits for its path. -/
  | begins (target : Target) (lock : PathLock) : id = h.nextTask →
      OpeningStep h id link (.opening link target)
        ({ h.newTask.1 with lock }.suspend id (.openWaiting link target))
  /-- The opening begins and gets its guard at once. -/
  | enters (target : Target) (lock : PathLock) (guard : Guard) : id = h.nextTask →
      OpeningStep h id link (.opening link target)
        ({ h.newTask.1 with lock }.afterGuard id link target guard)
  /-- The opening tried for its path in vain. -/
  | waits (target : Target) (lock : PathLock) :
      h.task? id = some ⟨id, .openWaiting link target⟩ →
      OpeningStep h id link (.resume id)
        ({ h.detach id with lock }.suspend id (.openWaiting link target))
  /-- The opening gets its guard. -/
  | guarded (target : Target) (lock : PathLock) (guard : Guard) :
      h.task? id = some ⟨id, .openWaiting link target⟩ →
      OpeningStep h id link (.resume id)
        ({ h.detach id with lock }.afterGuard id link target guard)
  /-- The directory answers. -/
  | answered (target : Target) (guard : Guard) (answer : Except Failure Identity) :
      h.task? id = some ⟨id, .openResolving link target guard⟩ →
      OpeningStep h id link (.directoryAnswers id answer)
        ((h.detach id).afterDirectory id link guard answer)
  /-- The probe of the rival is decided. -/
  | probed (session : Nat) (guard : Guard) (rival : Nat) (probe : Link.Probe) (alive : Bool) :
      h.task? id = some ⟨id, .openProbing link session guard rival probe⟩ →
      OpeningStep h id link (.resume id)
        (((h.detach id).concludeTakeover session rival alive).1.afterTakeover id link session guard)

theorem openingStep_of_step? {h next : Hub} {move : Move} {id link : Nat}
    (moved : h.step? move = some next) (opens : h.opens? move = some (id, link)) :
    OpeningStep h id link move next := by
  cases move with
  | opening other target =>
      simp only [opens?, Option.some.injEq, Prod.mk.injEq] at opens
      obtain ⟨rfl, rfl⟩ := opens
      simp only [step?, Option.ite_none_right_eq_some, Option.some.injEq] at moved
      obtain ⟨-, rfl⟩ := moved
      unfold beginOpening
      dsimp only
      split
      · exact .enters target _ _ rfl
      · exact .begins target _ rfl
  | resume number =>
      obtain ⟨task, found, ready, rfl⟩ := resumed moved
      have same := id_of_task? found
      simp only [opens?, found, Option.bind_some, Option.map_eq_some_iff, Prod.mk.injEq] at opens
      obtain ⟨other, opened, rfl, rfl⟩ := opens
      obtain ⟨taskId, activity⟩ := task
      cases same
      cases activity with
      | openWaiting there target =>
          cases opened
          simp only [resume, resumeLock]
          split
          · exact .guarded target _ _ found
          · exact .waits target _ found
      | openResolving => cases ready
      | openProbing there session guard rival probe =>
          cases opened
          obtain ⟨alive, verdict⟩ := Option.isSome_iff_exists.mp ready
          have decided : (h.detach taskId).verdict? rival probe = some alive := verdict
          simp only [resume, resumeProbe, decided]
          exact .probed session guard rival probe alive found
      | _ => cases opened
  | directoryAnswers number answer =>
      obtain ⟨task, found, opened⟩ : ∃ task, h.task? number = some task ∧
          task.activity.opened? = some link ∧ number = id := by
        simp only [opens?, Option.map_eq_some_iff, Option.bind_eq_some_iff, Prod.mk.injEq] at opens
        obtain ⟨other, ⟨task, found, opened⟩, rfl, rfl⟩ := opens
        exact ⟨task, found, opened, rfl⟩
      obtain ⟨opened, rfl⟩ := opened
      obtain ⟨taskId, activity⟩ := task
      cases id_of_task? found
      simp only [step?, directoryAnswers?, found, Option.map_some] at moved
      split at moved
      · rename_i there target guard same
        cases same
        cases opened
        cases moved
        exact .answered target guard answer found
      · cases moved
  | _ => cases opens

end StationHub.Hub

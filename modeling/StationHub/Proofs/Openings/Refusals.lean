import StationHub.Proofs.Openings.Lifecycle
import StationHub.Proofs.Slots.Ownership
import StationHub.Proofs.Tasks.Handlers

/-!
Openings that return after a shutdown.

* `opens?_of_over`: an opening that is over takes no further step.
* `Unresolved`: what a step of an opening leaves alone unless it returns a session;
  `unresolved_or_returned` has it for every step.
* `boundTo?_of_returns`: which slots are bound to the connection of an opening that returns in a hub
  that shuts down.
* `not_retainsSlot_of_once`: none is bound to it by another session, if it is opened once.
* `refused_after_shutDown`: such an opening has failed, no slot is bound to its connection, and
  nothing has come of any of its steps.
-/

namespace StationHub.Hub

variable {settings : Settings} {mark : Mark} {h mid next last : Hub} {move : Move}
  {moves later : List Move} {id link : Nat} {result : Except Failure Nat}

/-! ### Openings that are over -/

/-- No move is a step of an opening that is over. -/
theorem opens?_of_over (past : h.Over id) (opens : h.opens? move = some (id, link)) : False := by
  cases move with
  | opening other target =>
      cases opens
      exact Nat.lt_irrefl _ past.begun
  | resume number | directoryAnswers number answer =>
      obtain ⟨other, opened, same⟩ := Option.map_eq_some_iff.mp opens
      cases same
      obtain ⟨task, found, -⟩ := Option.bind_eq_some_iff.mp opened
      exact past.gone task (List.mem_of_find?_eq_some found) (id_of_task? found)
  | _ => cases opens

/-! ### What comes of an opening -/

/-- Connection number `i` is bound. -/
def isBound (h : Hub) (i : Nat) : Bool := (h.link? i).any fun l => l.phase == .bound

/-- Nobody is counted as resolved, and the connection has not become bound. -/
structure Unresolved (h : Hub) (link : Nat) (next : Hub) : Prop where
  resolved : next.counters.resolved = h.counters.resolved
  bound : next.isBound link = true → h.isBound link = true

theorem Unresolved.trans (first : h.Unresolved link mid) (second : mid.Unresolved link next) :
    h.Unresolved link next :=
  ⟨second.resolved.trans first.resolved, fun bound => first.bound (second.bound bound)⟩

theorem unresolved_of_eq (resolved : next.counters.resolved = h.counters.resolved)
    (same : next.link? link = h.link? link) : h.Unresolved link next :=
  ⟨resolved, fun bound => by rwa [isBound, same] at bound⟩

theorem Unresolved.after (rest : mid.Unresolved link next)
    (resolved : mid.counters.resolved = h.counters.resolved)
    (same : mid.link? link = h.link? link) : h.Unresolved link next :=
  (unresolved_of_eq resolved same).trans rest

theorem unresolved_modifyLink (h : Hub) (i : Nat) (change : Link → Link)
    (unbound : ∀ l, (change l).phase = .bound → l.phase = .bound) (link : Nat) :
    h.Unresolved link (h.modifyLink i change) := by
  refine ⟨rfl, fun bound => ?_⟩
  unfold isBound at bound ⊢
  rw [link?_modifyLink] at bound
  cases here : h.link? link with
  | none => rw [here] at bound; cases bound
  | some l =>
      rw [here] at bound
      by_cases same : i = link
      · simpa using unbound l (by simpa [same] using bound)
      · simpa [same] using bound

theorem unresolved_setRoster (h : Hub) (variant : Variant) (roster : Roster Nat Nat) (link : Nat) :
    h.Unresolved link (h.setRoster variant roster) :=
  unresolved_of_eq (by cases variant <;> rfl) (link?_setRoster h variant roster link)

theorem unresolved_closed (h : Hub) (i : Nat) (cause : CloseCause) (link : Nat) :
    h.Unresolved link (h.closed i cause) := by
  unfold closed closeLink
  cases here : h.link? i with
  | none => exact unresolved_of_eq rfl rfl
  | some l =>
      refine ⟨rfl, fun bound => ?_⟩
      unfold isBound at bound ⊢
      dsimp only at bound
      rw [link?_modifyLink] at bound
      by_cases same : i = link
      · subst same
        rw [here] at bound ⊢
        have still : (l.close cause).1.phase = .bound := by simpa using bound
        have proceeds := (Link.proceeds_close l cause).phase_eq (by rw [still]; rfl)
        simpa using proceeds.symm.trans still
      · simpa [same] using bound

theorem unresolved_startProbe (h : Hub) (i wait link : Nat) :
    h.Unresolved link (h.startProbe i wait).1 := by
  unfold startProbe
  cases here : h.link? i with
  | none => exact unresolved_of_eq rfl rfl
  | some l =>
      refine ⟨rfl, fun bound => ?_⟩
      unfold isBound at bound ⊢
      dsimp only at bound
      rw [link?_modifyLink] at bound
      by_cases same : i = link
      · subst same
        rw [here] at bound ⊢
        simpa [Link.phase_startProbe] using bound
      · simpa [same] using bound

theorem unresolved_beginTakeover (h : Hub) (i : Nat) (s : Session) (link : Nat) :
    h.Unresolved link (h.beginTakeover i s).1 := by
  unfold beginTakeover
  split
  · exact unresolved_setRoster h _ _ link
  · split
    · exact unresolved_of_eq rfl rfl
    · split
      · exact unresolved_setRoster h _ _ link
      · rename_i rival _
        have probed := unresolved_startProbe h rival h.settings.probeTimeout link
        split <;> rename_i started <;> rw [started] at probed
        · exact probed.trans (unresolved_setRoster _ _ _ link)
        · exact probed

theorem unresolved_concludeTakeover (h : Hub) (i rival : Nat) (alive : Bool) (link : Nat) :
    h.Unresolved link (h.concludeTakeover i rival alive).1 := by
  unfold concludeTakeover
  split
  · exact unresolved_of_eq rfl rfl
  · cases alive with
    | false => exact unresolved_setRoster h _ _ link
    | true =>
        have counted : (h.closed rival .duplicate).Unresolved link
            ((h.closed rival .duplicate).count .duplicateClosed) := unresolved_of_eq rfl rfl
        exact ((unresolved_closed h rival .duplicate link).trans counted).trans
          (unresolved_setRoster _ _ _ link)

theorem unresolved_afterGuard (h : Hub) (id link : Nat) (target : Target) (guard : Guard) :
    h.Unresolved link (h.afterGuard id link target guard) := by
  unfold afterGuard
  split
  · exact unresolved_of_eq rfl rfl
  · split
    · exact (unresolved_closed h link .shutdown link).trans (unresolved_of_eq rfl rfl)
    · have entered : h.Unresolved link (h.modifyLink link fun l => l.enter .resolving) := by
        refine unresolved_modifyLink h link _ (fun l bound => ?_) link
        unfold Link.enter at bound
        split at bound
        · exact bound
        · cases bound
      exact entered.trans (unresolved_of_eq rfl rfl)

/-- The last steps of an opening either resolve it, and then it returns its session, or do not. -/
theorem afterTakeover_resolves (h : Hub) (id link session : Nat) (guard : Guard) :
    h.Unresolved link (h.afterTakeover id link session guard) ∨
      (h.afterTakeover id link session guard).finished =
        h.finished ++ [(id, .opened (.ok session))] := by
  unfold afterTakeover
  split
  · left
    have closed := unresolved_closed h link .shutdown link
    dsimp only
    split
    · exact closed.trans (unresolved_of_eq rfl rfl)
    · exact (closed.trans (unresolved_setRoster _ _ _ link)).trans (unresolved_of_eq rfl rfl)
  · exact .inr rfl

/-- An opening that was answered resolves nothing unless it returns its session and ends. -/
theorem afterDirectory_resolves (h : Hub) (id link : Nat) (guard : Guard)
    (answer : Except Failure Identity) :
    h.Unresolved link (h.afterDirectory id link guard answer) ∨
      ∃ session, (h.afterDirectory id link guard answer).finished =
          h.finished ++ [(id, .opened (.ok session))] ∧
        (h.afterDirectory id link guard answer).tasks = h.tasks := by
  unfold afterDirectory
  cases answer with
  | error failure =>
      have counted : h.Unresolved link (h.count .resolutionFailed) := unresolved_of_eq rfl rfl
      exact .inl ((counted.trans (unresolved_closed _ link .unidentified link)).trans
        (unresolved_of_eq rfl rfl))
  | ok identity =>
      dsimp only
      split
      · exact .inl (unresolved_of_eq rfl rfl)
      · split
        · exact .inl ((unresolved_closed h link .shutdown link).trans (unresolved_of_eq rfl rfl))
        · cases here : h.link? link with
          | none =>
              unfold afterIdentified
              rw [here]
              exact .inl (unresolved_of_eq rfl rfl)
          | some l =>
              have made : h.Unresolved link (h.withSession link l.variant identity) :=
                (unresolved_modifyLink
                  { h with sessions := h.sessions ++ [h.newSession link l.variant identity] } link
                  (fun l => l.identify identity) (fun _ bound => bound) link).after rfl rfl
              have begun := made.trans (unresolved_beginTakeover _ h.sessions.length
                (h.newSession link l.variant identity) link)
              have same := reseats_beginTakeover (h.withSession link l.variant identity)
                h.sessions.length (h.newSession link l.variant identity)
              rw [afterIdentified_eq here]
              rcases started : (h.withSession link l.variant identity).beginTakeover
                h.sessions.length (h.newSession link l.variant identity) with
                ⟨next, takeover | ⟨rival, probe⟩⟩ <;> rw [started] at begun same
              · rcases afterTakeover_resolves next id link h.sessions.length guard with
                  unresolved | returns
                · exact .inl (begun.trans unresolved)
                · refine .inr ⟨_, returns.trans (congrArg (· ++ _) same.finished), ?_⟩
                  exact (sameStaff_afterTakeover next id link _ guard).tasks.trans same.tasks
              · exact .inl (begun.trans (unresolved_of_eq rfl rfl))

/-- **A step of an opening** resolves nothing unless it returns the session of the opening, which
ends with it. -/
theorem unresolved_or_returned (numbered : h.Numbered) (moved : h.step? move = some next)
    (opens : h.opens? move = some (id, link)) :
    h.Unresolved link next ∨ next.Over id ∧
      ∃ session, next.finished = h.finished ++ [(id, .opened (.ok session))] := by
  have grows := (step?_persists moved).nextTask
  cases openingStep_of_step? moved opens with
  | begins target lock | waits target lock found => exact .inl (unresolved_of_eq rfl rfl)
  | enters target lock guard =>
      have entered := unresolved_afterGuard { h.newTask.1 with lock } id link target guard
      exact .inl (entered.after rfl rfl)
  | guarded target lock guard found =>
      have entered := unresolved_afterGuard { h.detach id with lock } id link target guard
      exact .inl (entered.after rfl rfl)
  | answered target guard answer found =>
      rcases afterDirectory_resolves (h.detach id) id link guard answer with
        unresolved | ⟨session, returns, tasks⟩
      · exact .inl (unresolved.after rfl rfl)
      · exact .inr ⟨over_of_detach numbered found tasks grows, session, returns⟩
  | probed session guard rival probe alive found =>
      have concluded := unresolved_concludeTakeover (h.detach id) session rival alive link
      have same := reseats_concludeTakeover (h.detach id) session rival alive
      rcases afterTakeover_resolves ((h.detach id).concludeTakeover session rival alive).1 id link
        session guard with unresolved | returns
      · exact .inl ((concluded.trans unresolved).after rfl rfl)
      · have tasks := (sameStaff_probed (h.detach id) id link session rival guard alive).tasks
        exact .inr ⟨over_of_detach numbered found tasks grows, session,
          returns.trans (congrArg (· ++ _) same.finished)⟩

/-! ### Slots -/

/-- The slot that the opening `id` is about to take for its session. -/
def ownSlot? (h : Hub) (id : Nat) : Option (Variant × Key) :=
  match (h.task? id).map Task.activity with
  | some (.openProbing _ session _ _ _) => (h.session? session).map fun s => (s.variant, s.key)
  | _ => none

theorem registered?_closed (h : Hub) (i : Nat) (cause : CloseCause) (variant : Variant)
    (key : Key) : (h.closed i cause).registered? variant key = h.registered? variant key := by
  have same : (h.closed i cause).roster variant = h.roster variant :=
    roster_closeLink h i cause variant
  rw [registered?, registered?, same]

theorem registered?_endOpening (h : Hub) (id : Nat) (guard : Guard) (result : Except Failure Nat)
    (variant : Variant) (key : Key) :
    (h.endOpening id guard result).registered? variant key = h.registered? variant key := by
  cases variant <;> rfl

theorem registered?_afterGuard (h : Hub) (id link : Nat) (target : Target) (guard : Guard)
    (variant : Variant) (key : Key) :
    (h.afterGuard id link target guard).registered? variant key = h.registered? variant key := by
  unfold afterGuard
  split
  · exact registered?_endOpening h id guard _ variant key
  · split
    · rw [registered?_endOpening, registered?_closed]
    · cases variant <;> rfl

theorem registered?_afterDirectory (stopping : h.stopping = true) (id link : Nat) (guard : Guard)
    (answer : Except Failure Identity) (variant : Variant) (key : Key) :
    (h.afterDirectory id link guard answer).registered? variant key =
      h.registered? variant key := by
  unfold afterDirectory
  cases answer with
  | error failure =>
      have counted : (h.count .resolutionFailed).registered? variant key =
          h.registered? variant key := by
        cases variant <;> rfl
      dsimp only
      rw [registered?_endOpening, registered?_closed, counted]
  | ok identity =>
      dsimp only
      split
      · exact registered?_endOpening h id guard _ variant key
      · rw [registered?_endOpening, registered?_closed]

/-- In a hub that shuts down, an opening that returns leaves the slot of its session, and every
other slot is bound to its connection as it was before. -/
theorem boundTo?_of_returns (sound : h.Sound) (numbered : h.Numbered) (stopping : h.stopping = true)
    (moved : h.step? move = some next) (opens : h.opens? move = some (id, link))
    (returns : next.finished = h.finished ++ [(id, .opened result)]) (variant : Variant)
    (key : Key) : next.boundTo? variant key = some link ↔
      h.boundTo? variant key = some link ∧ h.ownSlot? id ≠ some (variant, key) := by
  have kept (same : next.registered? variant key = h.registered? variant key)
      (none : h.ownSlot? id = none) : next.boundTo? variant key = some link ↔
        h.boundTo? variant key = some link ∧ h.ownSlot? id ≠ some (variant, key) := by
    rw [boundTo?, same, boundTo?, none]
    simp
  cases openingStep_of_step? moved opens with
  | begins target lock | waits target lock found => exact (not_returned returns).elim
  | enters target lock guard fresh =>
      refine kept (registered?_afterGuard _ id link target guard variant key) ?_
      cases found : h.task? id with
      | none => simp [ownSlot?, found]
      | some task =>
          have below := numbered.below task (List.mem_of_find?_eq_some found)
          rw [id_of_task? found, fresh] at below
          exact absurd below (Nat.lt_irrefl _)
  | guarded target lock guard found =>
      exact kept (registered?_afterGuard _ id link target guard variant key)
        (by simp [ownSlot?, found])
  | answered target guard answer found =>
      exact kept (registered?_afterDirectory (h := h.detach id) stopping id link guard answer
        variant key) (by simp [ownSlot?, found])
  | probed session guard rival probe alive found =>
      obtain ⟨other, s, at_session, rfl⟩ := sound.fit _ (List.mem_of_find?_eq_some found) rfl
      have at_detached : (h.detach id).session? session = some s := at_session
      have adopts := concludeTakeover_adopts at_detached other alive
      have own : h.ownSlot? id = some (s.variant, s.key) := by simp [ownSlot?, found, at_session]
      by_cases same : s.variant = variant ∧ s.key = key
      · obtain ⟨rfl, rfl⟩ := same
        have vacated := vacated_afterTakeover (adopts.stopping.trans stopping) adopts.session id
          s.link guard
        exact ⟨fun bound => absurd bound vacated, fun held => absurd own held.2⟩
      · rw [boundTo?, registered?_afterTakeover_of_ne adopts.session same,
          registered?_concludeTakeover_of_ne at_detached same, own]
        refine (and_iff_left fun is => same ?_).symm
        simpa using is

/-- A slot is bound to the connection of the opening `id` that is not the one the opening is about
to take: another session of the connection holds it. -/
def RetainsSlot (h : Hub) (id link : Nat) : Prop :=
  ∃ variant key, h.boundTo? variant key = some link ∧ h.ownSlot? id ≠ some (variant, key)

theorem unbound_of_returns (sound : h.Sound) (numbered : h.Numbered) (stopping : h.stopping = true)
    (moved : h.step? move = some next) (opens : h.opens? move = some (id, link))
    (returns : next.finished = h.finished ++ [(id, .opened result)]) :
    next.Unbound link ↔ ¬h.RetainsSlot id link := by
  have bound := boundTo?_of_returns sound numbered stopping moved opens returns
  constructor
  · rintro unbound ⟨variant, key, held, other⟩
    exact unbound variant key ((bound variant key).mpr ⟨held, other⟩)
  · intro none variant key held
    exact none ⟨variant, key, (bound variant key).mp held⟩

/-- An opening that probes a rival takes the slot of the only session of its connection, if that is
opened once; any other opening of it finds no session. -/
theorem not_retainsSlot_of_once (run : (fresh settings mark).run? moves = some h)
    (opens : h.opens? move = some (id, link))
    (once : (moves ++ [move]).countP (Move.opensLink link) ≤ 1) : ¬h.RetainsSlot id link := by
  rintro ⟨variant, key, bound, other⟩
  have sound := sound_of_run? run
  obtain ⟨slot, there, rfl⟩ := Option.map_eq_some_iff.mp bound
  obtain ⟨t, at_slot, rfl, rfl, on⟩ := sound.slots there
  have borne := bearers_le_of_run? run slot.link
  rw [show (fresh settings mark).bearers slot.link = 0 from rfl, Nat.zero_add] at borne
  rw [List.countP_append, List.countP_singleton] at once
  have alone (none : h.dwellers slot.link = 0) : False := no_session_of_dwellers none at_slot on
  have seeking {task : Task} (found : h.task? id = some task)
      (seeks : task.activity.seeks? = some slot.link) : False := by
    have left := bearers_detach found slot.link
    rw [if_pos seeks] at left
    have stay : (h.detach id).dwellers slot.link = h.dwellers slot.link := rfl
    unfold bearers at left borne
    exact alone (by omega)
  cases move with
  | opening other target =>
      cases opens
      have first : (if Move.opensLink slot.link (.opening slot.link target) = true then 1 else 0) =
          1 := by
        simp [Move.opensLink]
      unfold bearers at borne
      exact alone (by omega)
  | resume number | directoryAnswers number answer =>
      obtain ⟨opened, goesOn, same⟩ := Option.map_eq_some_iff.mp opens
      cases same
      obtain ⟨⟨task, activity⟩, found, is⟩ := Option.bind_eq_some_iff.mp goesOn
      cases id_of_task? found
      cases activity with
      | openWaiting | openResolving => exact seeking found is
      | openProbing there session guard rival probe =>
          cases is
          obtain ⟨-, s, at_session, isLink⟩ := sound.fit _ (List.mem_of_find?_eq_some found) rfl
          have few : h.dwellers slot.link ≤ 1 := single_of_run? run (by omega)
          obtain rfl := session_unique few at_slot at_session on isLink
          cases at_slot.symm.trans at_session
          exact other (by simp [ownSlot?, found, at_session])
      | _ => cases is
  | _ => cases opens

/-! ### Runs -/

/-- What there is to say of the opening `id` of connection number `link` that returns `result` with
`move`, to `next`, after the moves of a run from `start`. -/
structure Refused (start : Hub) (moves : List Move) (move : Move) (next : Hub) (id link : Nat)
    (result : Except Failure Nat) : Prop where
  failed : ∃ failure, result = .error failure
  closed : next.isClosed link = true
  /-- No slot is bound to the connection. -/
  unbound : next.Unbound link
  /-- At no step of the opening was the connection bound or counted as resolved. -/
  unresolved : ∀ {earlier later : List Move} {step : Move} {h h' : Hub} {other : Nat},
    moves ++ [move] = earlier ++ step :: later → start.run? earlier = some h →
    h.step? step = some h' → h.opens? step = some (id, other) → h.Unresolved other h'

/-- An opening that returns in a hub that shuts down has failed, and its connection is closed. -/
theorem failed_of_returns (sound : h.Sound) (stopping : h.stopping = true)
    (moved : h.step? move = some next) (opens : h.opens? move = some (id, link)) {l : Link}
    (here : h.link? link = some l)
    (returns : next.finished = h.finished ++ [(id, .opened result)]) :
    (∃ failure, result = .error failure) ∧ next.isClosed link = true := by
  have coherent := sound.coherent here
  cases openingStep_of_step? moved opens with
  | begins target lock | waits target lock found => exact (not_returned returns).elim
  | enters target lock guard =>
      have there : ({ h.newTask.1 with lock } : Hub).link? link = some l := here
      obtain ⟨closed, failed⟩ := afterGuard_refuses there coherent returns
      exact ⟨⟨_, failed⟩, closed⟩
  | guarded target lock guard found =>
      have there : ({ h.detach id with lock } : Hub).link? link = some l := here
      obtain ⟨closed, failed⟩ := afterGuard_refuses there coherent returns
      exact ⟨⟨_, failed⟩, closed⟩
  | answered target guard answer found =>
      have there : (h.detach id).link? link = some l := here
      have stops : (h.detach id).stopping = true := stopping
      unfold afterDirectory at returns ⊢
      cases answer with
      | error failure =>
          have ended := finished_closed ((h.detach id).count .resolutionFailed) link .unidentified
          exact ⟨⟨_, result_of_ended ended returns⟩,
            isClosed_closed (h := (h.detach id).count .resolutionFailed) there coherent _⟩
      | ok identity =>
          dsimp only at returns ⊢
          split at returns <;> rename_i open_
          · rw [if_pos open_]
            exact ⟨⟨_, result_of_ended rfl returns⟩, open_⟩
          · rw [if_neg open_, if_pos stops]
            exact ⟨⟨_, result_of_ended (finished_closed (h.detach id) link _) returns⟩,
              isClosed_closed there coherent .shutdown⟩
  | probed session guard rival probe alive found =>
      obtain ⟨other, s, at_session, rfl⟩ := sound.fit _ (List.mem_of_find?_eq_some found) rfl
      have at_detached : (h.detach id).session? session = some s := at_session
      have adopts := concludeTakeover_adopts at_detached other alive
      have stops := adopts.stopping.trans stopping
      have ended := result_of_afterTakeover adopts.finished returns
      rw [if_pos stops] at ended
      exact ⟨⟨_, ended⟩,
        isClosed_afterTakeover stops (adopts.link.trans here) coherent id session guard⟩

/-- **An opening that returns after the shutdown** fails and leaves its connection closed; no slot
is bound to the connection then, and no step of the opening resolved anything. A connection is
opened once, right after it was accepted. -/
theorem refused_after_shutDown {before : List Move} {l : Link}
    (run : (fresh settings mark).run? (before ++ .shutDown :: later) = some mid)
    (moved : mid.step? move = some next) (opens : mid.opens? move = some (id, link))
    (here : mid.link? link = some l)
    (returns : next.finished = mid.finished ++ [(id, .opened result)])
    (once : ((before ++ .shutDown :: later) ++ [move]).countP (Move.opensLink link) ≤ 1) :
    Refused (fresh settings mark) (before ++ .shutDown :: later) move next id link result := by
  have sound := sound_of_run? run
  have numbered := numbered_of_run? run
  have stopping : mid.stopping = true := by
    obtain ⟨h, -, ran⟩ := run?_split run
    rw [run?_cons] at ran
    obtain ⟨down, shut, ran⟩ := Option.bind_eq_some_iff.mp ran
    cases shut
    exact (run?_persists ran).stopping (stopping_shutDown h)
  obtain ⟨failed, closed⟩ := failed_of_returns sound stopping moved opens here returns
  have unbound := (unbound_of_returns sound numbered stopping moved opens returns).mpr
    (not_retainsSlot_of_once run opens once)
  refine ⟨failed, closed, unbound, ?_⟩
  intro earlier rest step h h' other split reached stepped isStep
  rcases unresolved_or_returned (numbered_of_run? reached) stepped isStep with
    unresolved | ⟨past, session, returned⟩
  · exact unresolved
  · -- The opening would have returned a session with this step already.
    have whole : (fresh settings mark).run? ((before ++ .shutDown :: later) ++ [move]) =
        some next := run?_concat.mpr ⟨mid, run, moved⟩
    rcases List.eq_nil_or_concat rest with rfl | ⟨front, final, rfl⟩
    · obtain ⟨rfl, same⟩ := List.append_inj' split rfl
      cases same
      cases run.symm.trans reached
      cases moved.symm.trans stepped
      obtain ⟨failure, rfl⟩ := failed
      have both := List.append_cancel_left (returned.symm.trans returns)
      simp at both
    · have parts : earlier ++ step :: (front ++ [final]) =
          (earlier ++ step :: front) ++ [final] := by simp
      rw [List.concat_eq_append, parts] at split
      obtain ⟨same, last⟩ := List.append_inj' split rfl
      cases last
      rw [same, run?_append, reached, Option.bind_some, run?_cons, stepped,
        Option.bind_some] at run
      have still := run?_over (step?_numbered (numbered_of_run? reached) stepped) past run
      exact (opens?_of_over still opens).elim

/-- A run in which the hub shuts down while the opening of the second of two connections of one peer
probes the first. -/
def refusedRun : List Move :=
  let target : Target := ⟨.device, "/OCPP16/T/K/D1", "T", "K", "D1", "ocpp1.6"⟩
  let identity : Identity := ⟨⟨"T", "T"⟩, ⟨"D1", none, none, none⟩⟩
  [.accept .device, .opening 0 target, .directoryAnswers 0 (.ok identity),
    .accept .device, .opening 1 target, .directoryAnswers 1 (.ok identity)] ++
  .shutDown :: [.advance 5000]

theorem refused_after_shutDown_refusedRun : ∃ mid next,
    (fresh {} "hub").run? refusedRun = some mid ∧ mid.step? (.resume 1) = some next ∧
    next.finished = mid.finished ++ [(1, .opened (.error .closed))] ∧
    Refused (fresh {} "hub") refusedRun (.resume 1) next 1 1 (.error .closed) := by
  obtain ⟨mid, next, l, run, moved, opens, here, returns⟩ : ∃ mid next l,
      (fresh {} "hub").run? refusedRun = some mid ∧ mid.step? (.resume 1) = some next ∧
      mid.opens? (.resume 1) = some (1, 1) ∧ mid.link? 1 = some l ∧
      next.finished = mid.finished ++ [(1, .opened (.error .closed))] := by
    refine ⟨((fresh {} "hub").run? refusedRun).get (by decide), _, _, rfl, rfl, ?_, rfl, ?_⟩
    · decide
    · rfl
  exact ⟨mid, next, run, moved, returns,
    refused_after_shutDown run moved opens here returns (by decide)⟩

end StationHub.Hub

import StationHub.Proofs.Hub.Effect

/-!
The effects of takeovers, of openings and of what a session receives.

* `beginTakeover_cases`, `concludeTakeover_effect`: a takeover seats its session with its last step.
* `begun_effect`, `verdict_effect`: the takeover of a session and what its task does next.
* `receive_effect`: of what a session receives, only an answer concerns its calls.
-/

namespace StationHub.Hub

variable {clears opens : Prop}

/-! ### Takeovers -/

theorem stopping_of_quiet {h next : Hub} (quiet : Quiet clears h next) :
    next.stopping = h.stopping := by
  induction quiet with
  | refl => rfl
  | tail _ step ih =>
      rw [← ih]
      cases step with
      | books => rfl
      | connection => rfl
      | vacate _ variant _ => cases variant <;> rfl
      | desert _ variant => cases variant <;> rfl
      | called => rfl

theorem stopping_of_seats {h next : Hub} {seated : Option Nat} (seats : Seats h next seated) :
    next.stopping = h.stopping := by
  cases seated with
  | none =>
      obtain rfl : next = h := seats
      rfl
  | some i =>
      obtain ⟨s, -, rfl | ⟨rfl, -⟩⟩ := seats
      · unfold register setRoster
        split <;> rfl
      · rfl

@[simp] theorem session?_startProbe (h : Hub) (i wait j : Nat) :
    (h.startProbe i wait).1.session? j = h.session? j := by
  unfold startProbe
  split <;> rfl

@[simp] theorem session?_closed (h : Hub) (i : Nat) (cause : CloseCause) (j : Nat) :
    (h.closed i cause).session? j = h.session? j := by
  unfold closed closeLink
  split <;> rfl

/-- The first steps of a takeover seat the session, or begin to probe another connection. -/
theorem beginTakeover_cases {h : Hub} {i : Nat} {s : Session} (here : h.session? i = some s) :
    (∃ mid next takeover, Quiet clears h mid ∧ Seats mid next (some i) ∧
      h.beginTakeover i s = (next, .done takeover)) ∨
    ∃ next rival probe, Quiet clears h next ∧ rival ≠ s.link ∧
      h.beginTakeover i s = (next, .probing rival probe) := by
  unfold beginTakeover
  cases slot_of : h.registered? s.variant s.key with
  | none => exact .inl ⟨h, _, _, .refl, ⟨s, here, .inl rfl⟩, rfl⟩
  | some slot =>
      dsimp only
      split
      · rename_i bound
        refine .inl ⟨h, _, _, .refl, ⟨s, here, .inr ⟨rfl, ?_⟩⟩, rfl⟩
        have found : Table.get? s.key (h.roster s.variant) = some slot := slot_of
        simp [Roster.boundLink?, found, bound]
      · rename_i other
        cases rival_of : h.openRival? slot with
        | none => exact .inl ⟨h, _, _, .refl, ⟨s, here, .inl rfl⟩, rfl⟩
        | some rival =>
            have same : slot.link = rival := by
              unfold openRival? at rival_of
              split at rival_of
              · exact Option.some.inj rival_of
              · cases rival_of
            have probed : Quiet clears h _ := quiet_startProbe h rival h.settings.probeTimeout
            dsimp only
            split <;> rename_i started
            · have still : (h.startProbe rival h.settings.probeTimeout).1.session? i = some s := by
                simpa using here
              rw [started] at probed still
              exact .inl ⟨_, _, _, probed, ⟨s, still, .inl rfl⟩, rfl⟩
            · rw [started] at probed
              exact .inr ⟨_, rival, _, probed, same ▸ other, rfl⟩

theorem takesAtOnce_of_done {h next : Hub} {i : Nat} {s : Session} {takeover : Takeover}
    (here : h.session? i = some s) (started : h.beginTakeover i s = (next, .done takeover)) :
    h.takesAtOnce i = true := by
  simp [takesAtOnce, here, started, TakeoverStart.isDone]

theorem takesAtOnce_of_probing {h next : Hub} {i rival : Nat} {s : Session} {probe : Link.Probe}
    (here : h.session? i = some s) (started : h.beginTakeover i s = (next, .probing rival probe)) :
    h.takesAtOnce i = false := by
  simp [takesAtOnce, here, started, TakeoverStart.isDone]

/-- The takeover of a session begins: it is seated and its task goes on with `done`, or its task
waits with `activity`. -/
theorem begun_effect {h : Hub} {i : Nat} {s : Session} (here : h.session? i = some s) (id : Nat)
    {done : Hub → Takeover → Hub} (activity : Nat → Link.Probe → Activity)
    (waits : ∀ rival probe, opens ∨ (activity rival probe).opened? = none)
    {event : Option (Nat × CallEvent)}
    (goesOn : ∀ next takeover, next.stopping = h.stopping →
      Effect clears opens next (done next takeover) none event) :
    Effect clears opens h
      (match h.beginTakeover i s with
        | (next, .done takeover) => done next takeover
        | (next, .probing rival probe) => next.suspend id (activity rival probe))
      (if h.takesAtOnce i then some i else none) (if h.takesAtOnce i then event else none) := by
  rcases beginTakeover_cases here with
    ⟨mid, next, takeover, quiet, seats, started⟩ | ⟨next, rival, probe, quiet, -, started⟩
  · rw [takesAtOnce_of_done here started, started]
    have still : next.stopping = h.stopping :=
      (stopping_of_seats seats).trans (stopping_of_quiet quiet)
    exact (Effect.after (Quiet.aside quiet) (.of_seats seats)).andThen (goesOn next takeover still)
  · rw [takesAtOnce_of_probing here started, started]
    exact .of_aside ((Quiet.aside quiet).trans (aside_suspend (waits rival probe) next id))

/-- The last step of a takeover seats the session. -/
theorem concludeTakeover_effect {h : Hub} {i : Nat} {s : Session} (here : h.session? i = some s)
    (rival : Nat) (alive : Bool) :
    ∃ mid, Quiet clears h mid ∧ Seats mid (h.concludeTakeover i rival alive).1 (some i) := by
  unfold concludeTakeover
  rw [here]
  cases alive with
  | false => exact ⟨h, .refl, s, here, .inl rfl⟩
  | true =>
      have closed : Quiet clears h ((h.closed rival .duplicate).count .duplicateClosed) :=
        (quiet_closed h rival .duplicate).trans (quiet_count (by decide) _)
      have still : ((h.closed rival .duplicate).count .duplicateClosed).session? i = some s :=
        (session?_closed h rival .duplicate i).trans here
      exact ⟨_, closed, s, still, .inl rfl⟩

theorem concludeTakeover_absent {h : Hub} {i : Nat} (absent : h.session? i = none)
    (rival : Nat) (alive : Bool) : (h.concludeTakeover i rival alive).1 = h := by
  unfold concludeTakeover
  rw [absent]

/-- A takeover goes on with its verdict, and then its task with `next`. -/
theorem verdict_effect {h : Hub} {i : Nat} (rival : Nat) (alive : Bool) (next : Hub → Hub)
    {event : Option (Nat × CallEvent)}
    (goesOn : ∀ mid, mid.stopping = h.stopping → Effect clears opens mid (next mid) none event) :
    Effect clears opens h (next (h.concludeTakeover i rival alive).1)
      ((h.session? i).map fun _ => i) event := by
  cases here : h.session? i with
  | none =>
      rw [concludeTakeover_absent here]
      exact goesOn h rfl
  | some s =>
      obtain ⟨mid, quiet, seats⟩ := concludeTakeover_effect here rival alive
      have still := (stopping_of_seats seats).trans (stopping_of_quiet quiet)
      exact (Effect.after (Quiet.aside quiet) (.of_seats seats)).andThen (goesOn _ still)

/-! ### Openings -/

theorem aside_endOpening (h : Hub) (id : Nat) (guard : Guard) (result : Except Failure Nat) :
    Aside clears opens h (h.endOpening id guard result) :=
  (Quiet.aside (quiet_release h guard)).trans (aside_conclude _ id _)

/-- The last steps of an opening empty a slot only in a hub that shuts down. -/
theorem aside_afterTakeover (h : Hub) (id link session : Nat) (guard : Guard) :
    Aside (h.stopping = true) opens h (h.afterTakeover id link session guard) := by
  unfold afterTakeover
  split
  · rename_i stopping
    have closed : Quiet (h.stopping = true) h (h.closed link .shutdown) := quiet_closed h link _
    dsimp only
    split
    · exact (Quiet.aside closed).trans (aside_endOpening _ id guard _)
    · rename_i s _
      have emptied : Aside True opens (h.closed link .shutdown) _ :=
        Quiet.aside (quiet_setRoster_removeIfBound (h.closed link .shutdown) s.variant s.key link)
      have emptied' := emptied.mono fun _ => stopping
      exact ((Quiet.aside closed).trans emptied').trans (aside_endOpening _ id guard _)
  · have bound : Quiet (h.stopping = true) h
        ((h.modifyLink link fun l => l.enter .bound).count .resolved) :=
      (quiet_modifyLink (fun l => l.leadsTo_enter rfl) h link).trans (quiet_count (by decide) _)
    exact (Quiet.aside bound).trans (aside_endOpening _ id guard _)

theorem aside_afterGuard (allowed : opens) (h : Hub) (id link : Nat) (target : Target)
    (guard : Guard) : Aside clears opens h (h.afterGuard id link target guard) := by
  unfold afterGuard
  split
  · exact aside_endOpening h id guard _
  · split
    · have closed : Quiet clears h (h.closed link .shutdown) := quiet_closed h link _
      exact (Quiet.aside closed).trans (aside_endOpening _ id guard _)
    · have entered : Quiet clears h (h.modifyLink link fun l => l.enter .resolving) :=
        quiet_modifyLink (fun l => l.leadsTo_enter rfl) h link
      exact (Quiet.aside entered).trans (aside_suspend (.inl allowed) _ id)

theorem aside_beginOpening (allowed : opens) (h : Hub) (link : Nat) (target : Target) :
    Aside clears opens h (h.beginOpening link target).1 := by
  have begun : Aside clears opens h h.newTask.1 := aside_newTask h
  unfold beginOpening
  dsimp only
  split
  · exact (begun.trans (aside_lock _ _)).trans (aside_afterGuard allowed _ _ link target _)
  · exact (begun.trans (aside_lock _ _)).trans (aside_suspend (.inl allowed) _ _)

theorem aside_withSession (allowed : opens) (h : Hub) (link : Nat) (variant : Variant)
    (identity : Identity) : Aside clears opens h (h.withSession link variant identity) := by
  have made : Aside clears opens h
      { h with sessions := h.sessions ++ [h.newSession link variant identity] } :=
    .single (.identified allowed _ rfl rfl)
  exact made.trans (Quiet.aside (quiet_modifyLink (fun l => l.leadsTo_identify identity) _ link))

theorem session?_withSession (h : Hub) (link : Nat) (variant : Variant) (identity : Identity) :
    (h.withSession link variant identity).session? h.sessions.length =
      some (h.newSession link variant identity) := by
  show (h.sessions ++ [h.newSession link variant identity])[h.sessions.length]? = _
  simp

/-- An opening whose peer is identified goes on with a session of it. -/
theorem afterIdentified_eq {h : Hub} {link : Nat} {l : Link} (here : h.link? link = some l)
    (id : Nat) (guard : Guard) (identity : Identity) :
    h.afterIdentified id link guard identity =
      match (h.withSession link l.variant identity).beginTakeover h.sessions.length
          (h.newSession link l.variant identity) with
      | (next, .done _) => next.afterTakeover id link h.sessions.length guard
      | (next, .probing rival probe) =>
          next.suspend id (.openProbing link h.sessions.length guard rival probe) := by
  unfold afterIdentified
  rw [here]
  rfl

theorem afterIdentified_effect (allowed : opens) {h : Hub} {link : Nat} {l : Link}
    (here : h.link? link = some l) (running : h.stopping = false) (id : Nat) (guard : Guard)
    (identity : Identity) :
    Effect clears opens h (h.afterIdentified id link guard identity)
      (if (h.withSession link l.variant identity).takesAtOnce h.sessions.length then
        some h.sessions.length else none) none := by
  have made := session?_withSession h link l.variant identity
  rw [afterIdentified_eq here]
  refine .after (aside_withSession allowed h link l.variant identity) ?_
  have ended : ∀ next, next.stopping = (h.withSession link l.variant identity).stopping →
      Aside clears opens next (next.afterTakeover id link h.sessions.length guard) := by
    intro next same
    refine (aside_afterTakeover next id link h.sessions.length guard).mono fun stopping => ?_
    rw [same, show (h.withSession link l.variant identity).stopping = h.stopping from rfl,
      running] at stopping
    cases stopping
  have begun : Effect clears opens _ _ _ (if _ then none else none) :=
    begun_effect made id (fun rival probe => .openProbing link h.sessions.length guard rival probe)
      (fun _ _ => .inl allowed) fun next _ same => .of_aside (ended next same)
  rwa [ite_self] at begun

/-! ### Handling -/

theorem aside_execute (h : Hub) (id session : Nat) (request : Request) (guard : Option Guard) :
    Aside clears opens h (h.execute id session request guard) := by
  unfold execute
  split
  · exact aside_suspend (.inr rfl) h id
  · split
    · exact (Quiet.aside (quiet_release h _)).trans (aside_conclude _ id _)
    · exact .refl

/-- The answer to a call that was executed without a guard is offered in passing. -/
theorem quiet_afterExecution (h : Hub) (id session : Nat) (request : Request) (reply : Reply) :
    Quiet clears h (h.afterExecution id session request none reply) := by
  unfold afterExecution
  dsimp only
  split
  · exact .refl
  · rename_i s _
    have sent : Quiet clears h _ :=
      quiet_sendText h s.link (Reply.message request.id reply).encode
    split <;> rename_i delivered <;> rw [delivered] at sent
    · exact sent.trans (quiet_drop _)
    · exact sent

theorem aside_afterExecution (h : Hub) (id session : Nat) (request : Request)
    (guard : Option Guard) (reply : Reply) :
    Aside clears opens h (h.afterExecution id session request guard reply) := by
  have answered : Quiet clears h (h.afterExecution id session request none reply) :=
    quiet_afterExecution h id session request reply
  cases guard with
  | none => exact Quiet.aside answered
  | some guard =>
      exact (Quiet.aside (answered.trans (quiet_release _ guard))).trans (aside_conclude _ id _)

theorem aside_receiveCall (h : Hub) (id session : Nat) (path : String) (request : Request) :
    Aside clears opens h (h.receiveCall id session path request) := by
  unfold receiveCall
  split
  · exact aside_conclude h id _
  · rename_i s here
    have noted : Aside clears opens h _ := Quiet.aside (quiet_noteCall here)
    dsimp only
    split
    · split
      · exact (noted.trans (aside_lock _ _)).trans (aside_execute _ id session request _)
      · exact (noted.trans (aside_lock _ _)).trans (aside_suspend (.inr rfl) _ id)
    · exact ((noted.trans (aside_conclude _ id _)).trans (aside_newTask _)).trans
        (aside_suspend (.inr rfl) _ _)

/-- Of what a session receives, only an answer concerns its calls. -/
theorem receive_effect (h : Hub) (id session : Nat) (path : String) (message : Message) :
    Effect clears opens h (h.receive id session path message) none
      (answeredBy? session message) := by
  cases message with
  | call messageId command payload => exact .of_aside (aside_receiveCall h id session path _)
  | result messageId payload =>
      exact .before (settle_effect h session messageId (.result payload)) (aside_conclude _ id _)
  | error messageId fault description details =>
      exact .before (settle_effect h session messageId (.refusal fault description details))
        (aside_conclude _ id _)

theorem beginReconcile_effect (h : Hub) (session : Nat) :
    Effect clears opens h (h.beginReconcile session).1
      ((h.takeoverEnded? (.reconciling session)).map Prod.snd) none := by
  refine .after (aside_newTask h) ?_
  unfold beginReconcile takeoverEnded?
  cases here : h.newTask.1.session? session with
  | none =>
      have notAtOnce : h.newTask.1.takesAtOnce session = false := by simp [takesAtOnce, here]
      simp only [here, notAtOnce]
      exact .of_aside .refl
  | some s =>
      have begun : Effect clears opens h.newTask.1 _ _ (if _ then none else none) :=
        begun_effect here h.nextTask (fun rival probe => .takingOver session rival probe)
          (fun _ _ => .inr rfl) fun next takeover _ =>
            .of_aside (aside_conclude next h.nextTask (.tookOver takeover))
      rw [ite_self] at begun
      simp only [here]
      have seated : ∀ b : Bool, (if b then some (h.nextTask, session) else none).map Prod.snd =
          if b then some session else none := by
        intro b
        cases b <;> rfl
      rw [seated]
      rcases started : h.newTask.1.beginTakeover session s with ⟨next, takeover | ⟨rival, probe⟩⟩
      · rw [started] at begun
        exact begun
      · rw [started] at begun
        exact begun

theorem isDisplaced_newTask (h : Hub) (s : Session) : h.newTask.1.isDisplaced s = h.isDisplaced s :=
  rfl

theorem beginHandling_effect (h : Hub) (session : Nat) (path : String)
    (decoded : Except Message.Malformation Message) :
    Effect clears opens h (h.beginHandling session path decoded).1
      ((h.takeoverEnded? (.handling session path decoded)).map Prod.snd)
      (h.callEvent? (.handling session path decoded)) := by
  refine .after (aside_newTask h) ?_
  unfold beginHandling
  cases decoded with
  | error malformed =>
      have counted : Quiet clears h.newTask.1 (h.newTask.1.count .protocolError) :=
        quiet_count (by decide) _
      exact .of_aside ((Quiet.aside counted).trans (aside_conclude _ _ _))
  | ok message =>
      unfold takeoverEnded? callEvent?
      cases here : h.session? session with
      | none =>
          have absent : h.newTask.1.session? session = none := here
          simp only [here, absent]
          exact .of_aside (aside_conclude _ _ _)
      | some s =>
          have there : h.newTask.1.session? session = some s := here
          simp only [here, there, Option.any_some, Option.bind_some, isDisplaced_newTask]
          by_cases displaced : h.isDisplaced s = true
          · have begun : Effect clears opens h.newTask.1 _ _
                (if _ then answeredBy? session message else none) :=
              begun_effect there h.nextTask
                (fun rival probe => .messageProbing session path message rival probe)
                (fun _ _ => .inr rfl) fun next takeover _ =>
                  receive_effect next h.nextTask session path message
            simp only [displaced, if_true, Bool.true_and]
            cases atOnce : h.newTask.1.takesAtOnce session <;>
              rcases started : h.newTask.1.beginTakeover session s with
                ⟨next, takeover | ⟨rival, probe⟩⟩ <;>
              rw [atOnce, started] at begun <;>
              exact begun
          · simp only [displaced]
            exact receive_effect h.newTask.1 h.nextTask session path message

end StationHub.Hub

import StationHub.Proofs.Link.Pings
import StationHub.Proofs.Link.Writing

/-!
The course of a connection from acceptance to its end, over a history of deeds.

* `Link.Proceeds`: the phase stays, or it is one of the last two and no earlier one.
* `Goes.proceeds`, `Goes.brought`: deeds that enter no phase go on like that, and deeds that enter
  one phase only do not go back either, if the connection had not come further before.
* `closings`, `endings`: the deeds of a history that closed the connection and that handled its end,
  leaving out those that found this done.
* `closings_eq`, `length_endings`: there is one of each at most, and the cause that is kept is that
  of the first close.
* `drained_of_run?`: nothing is put into the queue of a closed connection.
-/

namespace StationHub

theorem Phase.isOver_or_rank_le (phase : Phase) : phase.isOver = true ∨ phase.rank ≤ 2 := by
  cases phase <;> simp [isOver, rank]

theorem Phase.rank_le_of_isOver {phase : Phase} (running : phase.isOver = false) {other : Phase}
    (past : other.isOver = true) : phase.rank ≤ other.rank := by
  have early : phase.rank ≤ 2 := phase.isOver_or_rank_le.resolve_left (by simp [running])
  have late : 3 ≤ other.rank := by cases other <;> first | decide | cases past
  omega

namespace Link

/-- The phase stays, or the next one is one of the last two and comes no earlier. -/
def Proceeds (link next : Link) : Prop :=
  next.phase = link.phase ∨ next.phase.isOver = true ∧ link.phase.rank ≤ next.phase.rank

theorem Proceeds.refl (link : Link) : link.Proceeds link := .inl rfl

theorem Proceeds.trans {link mid next : Link} (first : link.Proceeds mid)
    (second : mid.Proceeds next) : link.Proceeds next := by
  rcases second with same | ⟨past, later⟩
  · unfold Proceeds
    rw [same]
    exact first
  · rcases first with same | ⟨-, earlier⟩
    · exact .inr ⟨past, same ▸ later⟩
    · exact .inr ⟨past, Nat.le_trans earlier later⟩

theorem Proceeds.rank_le {link next : Link} (proceeds : link.Proceeds next) :
    link.phase.rank ≤ next.phase.rank := by
  rcases proceeds with same | ⟨-, later⟩
  · exact Nat.le_of_eq (congrArg Phase.rank same.symm)
  · exact later

/-- What proceeds to a phase before the last two was in it. -/
theorem Proceeds.phase_eq {link next : Link} (proceeds : link.Proceeds next)
    (running : next.phase.isOver = false) : next.phase = link.phase := by
  rcases proceeds with same | ⟨past, -⟩
  · exact same
  · rw [running] at past
    cases past

theorem proceeds_enter (link : Link) {phase : Phase} (past : phase.isOver = true) :
    link.Proceeds (link.enter phase) := by
  unfold enter
  split
  · exact .refl link
  · next running =>
    exact .inr ⟨past, Phase.rank_le_of_isOver (Bool.eq_false_iff.mpr running) past⟩

theorem proceeds_close (link : Link) (cause : CloseCause) :
    link.Proceeds (link.close cause).1 := by
  unfold close
  split
  · exact .refl link
  · exact proceeds_enter { link with cause := some cause } rfl

theorem proceeds_finish (link : Link) : link.Proceeds link.finish.1 := by
  unfold finish
  split
  · exact .refl link
  · refine .inr ⟨rfl, ?_⟩
    cases link.phase <;> simp [Phase.rank]

/-- What is offered concerns the queue. -/
theorem offer_eq (link : Link) (parcel : Parcel) :
    ∃ queue, (link.offer parcel).1 = { link with queue } := by
  unfold offer
  split
  · exact ⟨link.queue, rfl⟩
  · exact ⟨_, rfl⟩

/-- A ping concerns the queue and the account of pings. -/
theorem ping_eq (link : Link) (now : Nat) :
    ∃ queue pings lastPing, (link.ping now).1 = { link with queue, pings, lastPing } := by
  obtain ⟨queue, same⟩ := offer_eq { link with pings := link.pings + 1 } (.ping link.pings)
  unfold ping
  dsimp only
  split <;> rw [same] <;> exact ⟨_, _, _, rfl⟩

theorem startProbe_eq (link : Link) (now wait : Nat) :
    ∃ queue pings lastPing,
      (link.startProbe now wait).1 = { link with queue, pings, lastPing } := by
  unfold startProbe
  split
  · exact ⟨_, _, _, rfl⟩
  · exact ping_eq link now

theorem phase_offer (link : Link) (parcel : Parcel) : (link.offer parcel).1.phase = link.phase := by
  obtain ⟨_, same⟩ := offer_eq link parcel
  rw [same]

theorem phase_ping (link : Link) (now : Nat) : (link.ping now).1.phase = link.phase := by
  obtain ⟨_, _, _, same⟩ := ping_eq link now
  rw [same]

theorem phase_startProbe (link : Link) (now wait : Nat) :
    (link.startProbe now wait).1.phase = link.phase := by
  obtain ⟨_, _, _, same⟩ := startProbe_eq link now wait
  rw [same]

/-- A close finds the connection open exactly if no cause is known. -/
theorem close_snd (link : Link) (cause : CloseCause) :
    (link.close cause).2 = link.cause.isNone := by
  unfold close
  split <;> next known => rw [known]; rfl

theorem finish_snd (link : Link) : link.finish.2 = decide (link.phase ≠ .closed) := by
  unfold finish
  split <;> next phase => simp [phase]

/-- A close does not handle the end. -/
theorem phase_close_eq_closed_iff (link : Link) (cause : CloseCause) :
    (link.close cause).1.phase = .closed ↔ link.phase = .closed := by
  unfold close
  split
  · rfl
  · show (enter { link with cause := some cause } .closing).phase = .closed ↔ _
    unfold enter
    split
    · rfl
    · next running =>
      constructor
      · intro impossible
        cases impossible
      · intro shut
        have shut' : ({ link with cause := some cause } : Link).phase = .closed := shut
        rw [shut'] at running
        exact absurd rfl running

theorem phase_finish (link : Link) : link.finish.1.phase = .closed := by
  unfold finish
  split
  · assumption
  · rfl

/-- The connection is over, or has come no further than the phase. -/
def NotBeyond (link : Link) (phase : Phase) : Prop :=
  link.phase.isOver = true ∨ link.phase.rank ≤ phase.rank

theorem notBeyond_of_ne_bound {link : Link} (other : link.phase ≠ .bound) :
    link.NotBeyond .resolving := by
  unfold NotBeyond
  cases phase : link.phase <;> first | exact absurd phase other | simp [Phase.isOver, Phase.rank]

theorem notBeyond_bound (link : Link) : link.NotBeyond .bound := link.phase.isOver_or_rank_le

/-- A closed connection takes no ping. -/
theorem ping_of_closed {link : Link} (closed : link.closed = true) (now : Nat) :
    link.ping now = ({ link with pings := link.pings + 1 }, false) := by
  have closed' : ({ link with pings := link.pings + 1 } : Link).closed = true := closed
  unfold ping
  rw [offer_of_closed closed']
  rfl

/-- A closed connection is not probed. -/
theorem startProbe_of_closed {link : Link} (closed : link.closed = true) (now wait : Nat) :
    link.startProbe now wait = (link, none) := by
  rw [startProbe, if_pos closed]

end Link

namespace Connection

variable {c next start : Connection} {now : Nat} {deed : Deed} {history : List (Nat × Deed)}

/-! ### Phases -/

/-- What is done to a connection without entering a phase lets it proceed. -/
theorem proceeds_of_act? (other : ∀ phase, deed ≠ .enter phase)
    (acted : c.act? now deed = some next) : c.link.Proceeds next.link := by
  cases writing : deed.isWriting with
  | true =>
      obtain ⟨-, link, queue, hasReader, before, same⟩ := link_of_writing writing acted
      have proceeds : c.link.Proceeds link := by
        rcases before with rfl | rfl
        · exact .refl c.link
        · exact Link.proceeds_close c.link .transport
      rw [same]
      exact proceeds
  | false =>
      cases deed with
      | takeUp | socketTakes | socketFails | expire | stop => cases writing
      | enter phase => exact absurd rfl (other phase)
      | text text => cases acted; exact .inl (Link.phase_offer c.link _)
      | ping => cases acted; exact .inl (Link.phase_ping c.link now)
      | probe wait => cases acted; exact .inl (Link.phase_startProbe c.link now wait)
      | close cause => cases acted; exact Link.proceeds_close c.link cause
      | finish => cases acted; exact Link.proceeds_finish c.link
      | pong | probeFails | probeSucceeds | identify | hold | letGo => cases acted; exact .refl _

/-- Deeds that enter no phase let a connection proceed. -/
theorem Goes.proceeds {permits : Deed → Prop} (goes : c.Goes permits now next)
    (never : ∀ phase, ¬permits (.enter phase)) : c.link.Proceeds next.link := by
  refine goes.keeps (P := fun mid => c.link.Proceeds mid.link) ?_ (.refl c.link)
  intro mid next deed permitted before acted
  refine before.trans (proceeds_of_act? ?_ acted)
  rintro phase rfl
  exact never phase permitted

/-- Deeds that enter one phase only do not go back, if the connection had not come further. -/
theorem Goes.brought {permits : Deed → Prop} (goes : c.Goes permits now next) {phase : Phase}
    (only : ∀ other, permits (.enter other) → other = phase) (ahead : c.link.NotBeyond phase) :
    c.link.phase.rank ≤ next.link.phase.rank ∧ next.link.NotBeyond phase := by
  refine goes.keeps (P := fun mid => c.link.phase.rank ≤ mid.link.phase.rank ∧
    mid.link.NotBeyond phase) ?_ ⟨Nat.le_refl _, ahead⟩
  rintro mid next deed permitted ⟨later, within⟩ acted
  by_cases entering : ∃ other, deed = .enter other
  · obtain ⟨other, rfl⟩ := entering
    obtain rfl := only other permitted
    cases acted
    show c.link.phase.rank ≤ (mid.link.enter other).phase.rank ∧
      (mid.link.enter other).NotBeyond other
    unfold Link.enter
    split
    · exact ⟨later, within⟩
    · next running => exact ⟨Nat.le_trans later (within.resolve_left running), .inr (Nat.le_refl _)⟩
  · have proceeds := proceeds_of_act? (fun other same => entering ⟨other, same⟩) acted
    refine ⟨Nat.le_trans later proceeds.rank_le, ?_⟩
    rcases proceeds with same | ⟨past, -⟩
    · unfold Link.NotBeyond
      rw [same]
      exact within
    · exact .inl past

/-! ### Closes and ends -/

/-- The cause of a close that finds the connection open. -/
def shuts? (c : Connection) (deed : Deed) : Option CloseCause :=
  (c.closes? deed).filter fun cause => (c.link.close cause).2

/-- When the end of the connection is handled, if that was not done before. -/
def ends? (c : Connection) (now : Nat) : Deed → Option Nat
  | .finish => if c.link.finish.2 then some now else none
  | _ => none

/-- The closes of a history that found the connection open, by their causes. -/
def closings (c : Connection) (history : List (Nat × Deed)) : List CloseCause :=
  Runs.noted step? (fun c done => c.shuts? done.2) c history

/-- When a history handled the end of the connection, leaving out where that was done before. -/
def endings (c : Connection) (history : List (Nat × Deed)) : List Nat :=
  Runs.noted step? (fun c done => c.ends? done.1 done.2) c history

/-- The first close is the only one that finds the connection open, and its cause is kept. -/
theorem closings_eq (begun : Accounted [] [] start) (run : start.run? history = some c) :
    start.closings history = c.link.cause.toList := by
  rw [(accounted_of_run? begun run).cause]
  refine Runs.run_induction (P := fun history _ =>
    start.closings history = (start.causes history).head?.toList) ?_ rfl run
  intro history mid next done run ih acted
  have known := (accounted_of_run? begun run).cause
  rw [closings, causes, Runs.noted_concat run, Runs.noted_concat run]
  show start.closings history ++ (mid.shuts? done.2).toList =
    (start.causes history ++ (mid.closes? done.2).toList).head?.toList
  rw [ih]
  cases earlier : start.causes history with
  | nil =>
      have open_ : mid.link.cause = none := by rw [known, earlier]; rfl
      cases closes : mid.closes? done.2 with
      | none => simp [shuts?, closes]
      | some cause => simp [shuts?, closes, Link.close_snd, open_]
  | cons first rest =>
      have shut : mid.link.cause = some first := by rw [known, earlier]; rfl
      cases closes : mid.closes? done.2 with
      | none => simp [shuts?, closes]
      | some cause => simp [shuts?, closes, Link.close_snd, shut]

/-- A connection comes to its last phase when its end is handled, and stays in it. -/
theorem phase_eq_closed_iff (orderly : deed.isOrderly = true)
    (acted : c.act? now deed = some next) :
    next.link.phase = .closed ↔ c.link.phase = .closed ∨ deed = .finish := by
  cases writing : deed.isWriting with
  | true =>
      obtain ⟨-, link, queue, hasReader, before, same⟩ := link_of_writing writing acted
      have kept : link.phase = .closed ↔ c.link.phase = .closed := by
        rcases before with rfl | rfl
        · rfl
        · exact Link.phase_close_eq_closed_iff c.link .transport
      have other : deed ≠ .finish := by
        rintro rfl
        cases writing
      rw [same, or_iff_left other]
      exact kept
  | false =>
      cases deed with
      | takeUp | socketTakes | socketFails | expire | stop => cases writing
      | finish =>
          cases acted
          simp [onLink, Link.phase_finish]
      | enter phase =>
          cases acted
          have running : phase ≠ .closed := by
            rintro rfl
            cases orderly
          rw [or_iff_left (by simp)]
          show (c.link.enter phase).phase = .closed ↔ _
          unfold Link.enter
          split
          · rfl
          · next open_ =>
            refine ⟨fun shut => absurd shut running, fun shut => absurd ?_ open_⟩
            rw [shut]
            rfl
      | close cause =>
          cases acted
          rw [or_iff_left (by simp)]
          exact Link.phase_close_eq_closed_iff c.link cause
      | text text => cases acted; simp [onLink, Link.sendText, Link.phase_offer]
      | ping => cases acted; simp [onLink, Link.phase_ping]
      | probe wait => cases acted; simp [onLink, Link.phase_startProbe]
      | pong | probeFails | probeSucceeds | identify | hold | letGo =>
          cases acted
          rw [or_iff_left (by simp)]
          rfl

/-- The end of a connection is handled for the first time once, when it comes to its last phase. -/
theorem length_endings (open_ : start.link.phase ≠ .closed) (run : start.run? history = some c)
    (orderly : ∀ done ∈ history, done.2.isOrderly = true) :
    (start.endings history).length = if c.link.phase = .closed then 1 else 0 := by
  revert orderly
  refine Runs.run_induction (P := fun history c => (∀ done ∈ history, done.2.isOrderly = true) →
    (start.endings history).length = if c.link.phase = .closed then 1 else 0)
    ?_ (fun _ => (if_neg open_).symm) run
  intro history mid next done run ih acted orderly
  have before := ih fun other member => orderly other (List.mem_append_left _ member)
  have iff := phase_eq_closed_iff
    (orderly done (List.mem_append_right _ (List.mem_singleton_self _))) acted
  rw [endings, Runs.noted_concat run, List.length_append]
  show (start.endings history).length + _ = _
  rw [before]
  by_cases ends : done.2 = .finish
  · by_cases shut : mid.link.phase = .closed
    · simp [ends, shut, iff, ends?, Link.finish_snd]
    · simp [ends, shut, iff, ends?, Link.finish_snd]
  · have none : mid.ends? done.1 done.2 = none := by
      unfold ends?
      split
      · next same => exact absurd same ends
      · rfl
    simp [none, iff, ends]

/-! ### After a close -/

/-- The writer and the socket only take from the queue. -/
theorem queue_of_writing (writing : deed.isWriting = true) (acted : c.act? now deed = some next) :
    next.link.queue <:+ c.link.queue := by
  cases deed with
  | takeUp =>
      unfold act? takeUp? at acted
      dsimp only at acted
      split at acted
      · split at acted
        · cases acted
          exact List.suffix_refl _
        · obtain ⟨⟨parcel, link⟩, taken, rfl⟩ := Option.map_eq_some_iff.mp acted
          unfold Link.take? at taken
          split at taken
          · cases taken
          · next queue =>
            cases taken
            rw [queue]
            exact List.suffix_cons _ _
      · cases acted
  | socketTakes =>
      unfold act? accepted? at acted
      dsimp only at acted
      split at acted <;> cases acted
      · exact List.suffix_refl _
      · exact List.suffix_refl _
      · exact List.nil_suffix
  | socketFails =>
      unfold act? failed? at acted
      dsimp only at acted
      split at acted <;> cases acted
      · exact List.nil_suffix
      · exact List.suffix_refl _
      · exact List.nil_suffix
  | expire =>
      unfold act? expired? at acted
      dsimp only at acted
      split at acted
      · cases (Option.ite_none_right_eq_some.mp acted).2
        exact List.nil_suffix
      · cases (Option.ite_none_right_eq_some.mp acted).2
        exact List.nil_suffix
      · cases acted
  | stop =>
      cases acted
      exact List.nil_suffix
  | _ => cases writing

/-- Nothing done to a closed connection puts anything into its queue. -/
theorem queues?_of_closed (closed : c.link.closed = true) (now : Nat) (deed : Deed) :
    c.queues? now deed = none := by
  cases deed with
  | text text => simp [queues?, Link.sendText, Link.offer_of_closed closed, Delivery.isQueued]
  | ping => simp [queues?, Link.ping_of_closed closed]
  | probe wait => simp [queues?, Link.startProbe_of_closed closed]
  | _ => rfl

/-- A deed on a closed connection only takes from its queue. -/
theorem queue_of_act? (closed : c.link.closed = true) (acted : c.act? now deed = some next) :
    next.link.queue <:+ c.link.queue := by
  cases writing : deed.isWriting with
  | true => exact queue_of_writing writing acted
  | false =>
      obtain ⟨-, -, takes⟩ := takes_of_act? writing acted
      have same := takes.queue
      rw [queues?_of_closed closed, Option.toList_none, List.append_nil] at same
      exact same ▸ List.suffix_refl _

/-- Nothing is put into the queue of a connection once it is closed. -/
theorem drained_of_run? (closed : c.link.closed = true) (run : c.run? history = some next) :
    c.queued history = [] ∧ next.link.queue <:+ c.link.queue := by
  have still : next.link.closed = true ∧ c.queued history = [] ∧
      next.link.queue <:+ c.link.queue := by
    refine Runs.run_induction (P := fun history next => next.link.closed = true ∧
      c.queued history = [] ∧ next.link.queue <:+ c.link.queue) ?_
      ⟨closed, rfl, List.suffix_refl _⟩ run
    rintro history mid next done run ⟨shut, nothing, fewer⟩ acted
    refine ⟨(pinged_of_act? acted).2 shut, ?_, (queue_of_act? shut acted).trans fewer⟩
    rw [queued, Runs.noted_concat run, queues?_of_closed shut]
    exact (List.append_nil _).trans nothing
  exact still.2

end Connection

end StationHub

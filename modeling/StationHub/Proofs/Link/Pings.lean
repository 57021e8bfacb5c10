import StationHub.Proofs.Hub.Deeds

/-!
Pings, pongs and idleness of a connection.

* `pinged_of_act?`, `ponged_of_act?`, `keepers_of_act?`: which deeds are noted as pings and pongs or
  let go of the connection.
* `cause_of_act?`, `notIdle_of_act?`: who closes the connection says for what cause.
* `WasPinged`: the connection was pinged just now, or is closed; no deed undoes it.
* `HasRoom`: a probe would ping it; sweeping keeps it so.
-/

namespace StationHub

namespace Link

theorem lastPing_offer (link : Link) (parcel : Parcel) :
    (link.offer parcel).1.lastPing = link.lastPing ∧
      (link.offer parcel).1.lastPong = link.lastPong ∧
      (link.offer parcel).1.closed = link.closed := by
  unfold offer
  split <;> exact ⟨rfl, rfl, rfl⟩

/-- A ping that is queued is noted with its time. -/
theorem lastPing_ping (link : Link) (now : Nat) :
    (link.ping now).1.lastPing = if (link.ping now).2 then some now else link.lastPing := by
  obtain ⟨pinged, -, -⟩ := lastPing_offer { link with pings := link.pings + 1 } (.ping link.pings)
  unfold ping
  dsimp only
  split
  · rfl
  · exact pinged

theorem lastPong_ping (link : Link) (now : Nat) :
    (link.ping now).1.lastPong = link.lastPong ∧ (link.ping now).1.closed = link.closed := by
  obtain ⟨-, ponged, closed⟩ := lastPing_offer { link with pings := link.pings + 1 } (.ping link.pings)
  unfold ping
  dsimp only
  split <;> exact ⟨ponged, closed⟩

theorem lastPing_startProbe (link : Link) (now wait : Nat) :
    (link.startProbe now wait).1.lastPing =
      if !link.closed && (link.ping now).2 then some now else link.lastPing := by
  unfold startProbe
  cases closed : link.closed with
  | true => rfl
  | false => exact lastPing_ping link now

theorem lastPong_startProbe (link : Link) (now wait : Nat) :
    (link.startProbe now wait).1.lastPong = link.lastPong ∧
      (link.startProbe now wait).1.closed = link.closed := by
  unfold startProbe
  split
  · exact ⟨rfl, rfl⟩
  · exact lastPong_ping link now

/-- A ping is queued unless the connection is closed or its queue full or without a reader. -/
theorem ping_snd (link : Link) (now : Nat) :
    (link.ping now).2 =
      !(link.closed || !link.hasReader || decide (link.capacity ≤ link.queue.length)) := by
  unfold ping offer
  dsimp only
  cases link.closed || !link.hasReader || decide (link.capacity ≤ link.queue.length) with
  | true => rfl
  | false =>
      simp only [Bool.false_eq_true, if_false]
      split <;> split <;> first | rfl | contradiction

theorem lastPing_enter (link : Link) (phase : Phase) :
    (link.enter phase).lastPing = link.lastPing ∧ (link.enter phase).lastPong = link.lastPong ∧
      (link.enter phase).closed = link.closed := by
  unfold enter
  split <;> exact ⟨rfl, rfl, rfl⟩

theorem lastPing_finish (link : Link) :
    link.finish.1.lastPing = link.lastPing ∧ link.finish.1.lastPong = link.lastPong ∧
      link.finish.1.closed = link.closed := by
  unfold finish
  split <;> exact ⟨rfl, rfl, rfl⟩

theorem lastPing_close (link : Link) (cause : CloseCause) :
    (link.close cause).1.lastPing = link.lastPing ∧
      (link.close cause).1.lastPong = link.lastPong ∧
      ((link.close cause).1 = link ∨ (link.close cause).1.closed = true) := by
  cases known : link.cause with
  | some first =>
      rw [close_of_cause known]
      exact ⟨rfl, rfl, .inl rfl⟩
  | none =>
      obtain ⟨pinged, ponged, -⟩ := lastPing_enter { link with cause := some cause } .closing
      rw [close_of_open known]
      exact ⟨pinged, ponged, .inr rfl⟩

theorem closed_close_of_closed {link : Link} (closed : link.closed = true) (cause : CloseCause) :
    (link.close cause).1.closed = true := by
  rcases (link.lastPing_close cause).2.2 with same | shut
  · rw [same]
    exact closed
  · exact shut

end Link

namespace Connection

variable {c next : Connection} {now : Nat} {deed : Deed}

/-! ### One deed -/

/-- What the writer and the socket do is no ping and no pong, and opens no connection again. -/
theorem same_of_writing (writing : deed.isWriting = true) (acted : c.act? now deed = some next) :
    next.link.lastPing = c.link.lastPing ∧ next.link.lastPong = c.link.lastPong ∧
      (c.link.closed = true → next.link.closed = true) := by
  obtain ⟨-, link, queue, hasReader, rfl | rfl, same⟩ := link_of_writing writing acted
  · rw [same]
    exact ⟨rfl, rfl, id⟩
  · obtain ⟨pinged, ponged, -⟩ := c.link.lastPing_close .transport
    rw [same]
    exact ⟨pinged, ponged, fun was => Link.closed_close_of_closed was .transport⟩

/-- No deed opens a connection again, and a ping is noted with its time. -/
theorem pinged_of_act? (acted : c.act? now deed = some next) :
    (next.link.lastPing = c.link.lastPing ∨ next.link.lastPing = some now) ∧
      (c.link.closed = true → next.link.closed = true) := by
  cases writing : deed.isWriting with
  | true =>
      obtain ⟨pinged, -, closed⟩ := same_of_writing writing acted
      exact ⟨.inl pinged, closed⟩
  | false =>
      cases deed with
      | takeUp | socketTakes | socketFails | expire | stop => cases writing
      | text text =>
          cases acted
          obtain ⟨pinged, -, closed⟩ := c.link.lastPing_offer (.text text)
          exact ⟨.inl pinged, closed.trans⟩
      | ping =>
          cases acted
          have pinged := c.link.lastPing_ping now
          refine ⟨?_, (c.link.lastPong_ping now).2.trans⟩
          split at pinged
          · exact .inr pinged
          · exact .inl pinged
      | probe wait =>
          cases acted
          have pinged := c.link.lastPing_startProbe now wait
          refine ⟨?_, (c.link.lastPong_startProbe now wait).2.trans⟩
          split at pinged
          · exact .inr pinged
          · exact .inl pinged
      | enter phase =>
          cases acted
          obtain ⟨pinged, -, closed⟩ := c.link.lastPing_enter phase
          exact ⟨.inl pinged, closed.trans⟩
      | close cause =>
          cases acted
          exact ⟨.inl (c.link.lastPing_close cause).1, fun was =>
            Link.closed_close_of_closed was cause⟩
      | finish =>
          cases acted
          obtain ⟨pinged, -, closed⟩ := c.link.lastPing_finish
          exact ⟨.inl pinged, closed.trans⟩
      | pong | probeFails | probeSucceeds | identify | hold | letGo =>
          cases acted
          exact ⟨.inl rfl, id⟩

/-- Only a pong is noted as one. -/
theorem ponged_of_act? (other : deed ≠ .pong) (acted : c.act? now deed = some next) :
    next.link.lastPong = c.link.lastPong := by
  cases writing : deed.isWriting with
  | true => exact (same_of_writing writing acted).2.1
  | false =>
      cases deed with
      | takeUp | socketTakes | socketFails | expire | stop => cases writing
      | pong => exact absurd rfl other
      | text text => cases acted; exact (c.link.lastPing_offer (.text text)).2.1
      | ping => cases acted; exact (c.link.lastPong_ping now).1
      | probe wait => cases acted; exact (c.link.lastPong_startProbe now wait).1
      | enter phase => cases acted; exact (c.link.lastPing_enter phase).2.1
      | close cause => cases acted; exact (c.link.lastPing_close cause).2.1
      | finish => cases acted; exact c.link.lastPing_finish.2.1
      | probeFails | probeSucceeds | identify | hold | letGo => cases acted; rfl

theorem keepers_of_act? (kept : deed ≠ .hold ∧ deed ≠ .letGo) (acted : c.act? now deed = some next) :
    next.keepers = c.keepers := by
  cases writing : deed.isWriting with
  | true => exact (link_of_writing writing acted).1
  | false =>
      cases deed with
      | hold => exact absurd rfl kept.1
      | letGo => exact absurd rfl kept.2
      | takeUp | socketTakes | socketFails | expire | stop => cases writing
      | _ => cases acted; rfl

/-- A connection is closed for a cause, unless that is a failure of the transport, only by who says
so. -/
theorem cause_of_act? {cause : CloseCause} (named : cause ≠ .transport)
    (other : deed ≠ .close cause) (acted : c.act? now deed = some next) :
    next.link.cause = some cause ↔ c.link.cause = some cause := by
  have kept {cause? : Option CloseCause} (away : cause? ≠ some cause) :
      c.link.cause.or cause? = some cause ↔ c.link.cause = some cause := by
    cases c.link.cause with
    | none => simp [away]
    | some first => rfl
  cases writing : deed.isWriting with
  | false =>
      obtain ⟨-, -, takes⟩ := takes_of_act? writing acted
      rw [takes.cause]
      refine kept fun closes => ?_
      cases deed with
      | close cause' => exact other (congrArg Deed.close (Option.some.inj closes))
      | socketFails => cases writing
      | _ => cases closes
  | true =>
      obtain ⟨-, link, queue, hasReader, rfl | rfl, same⟩ := link_of_writing writing acted
      · rw [same]
      · rw [same]
        show (c.link.close .transport).1.cause = some cause ↔ _
        rw [(Link.takes_close c.link .transport).cause]
        exact kept fun closes => named (Option.some.inj closes).symm

/-- A connection is closed as idle only by who says so. -/
theorem notIdle_of_act? (other : deed ≠ .close .idle) (acted : c.act? now deed = some next)
    (before : c.link.cause ≠ some .idle) : next.link.cause ≠ some .idle :=
  fun idle => before ((cause_of_act? (by decide) other acted).mp idle)

theorem Deed.ne_of_isCommon (common : deed.isCommon = true) :
    (deed ≠ .hold ∧ deed ≠ .letGo) ∧ deed ≠ .close .idle := by
  refine ⟨⟨?_, ?_⟩, ?_⟩ <;> rintro rfl <;> cases common

theorem Deed.ne_of_isWriting (writing : deed.isWriting = true) :
    (deed ≠ .hold ∧ deed ≠ .letGo) ∧ deed ≠ .close .idle := by
  refine ⟨⟨?_, ?_⟩, ?_⟩ <;> rintro rfl <;> cases writing

/-! ### Many deeds -/

section Many

variable {permits : Deed → Prop} (goes : c.Goes permits now next)
include goes

theorem pinged_of_goes :
    (next.link.lastPing = c.link.lastPing ∨ next.link.lastPing = some now) ∧
      (c.link.closed = true → next.link.closed = true) := by
  refine goes.keeps (P := fun mid => (mid.link.lastPing = c.link.lastPing ∨
    mid.link.lastPing = some now) ∧ (c.link.closed = true → mid.link.closed = true)) ?_ ⟨.inl rfl, id⟩
  rintro mid last deed - ⟨pinged, closed⟩ acted
  obtain ⟨pinged', closed'⟩ := pinged_of_act? acted
  refine ⟨?_, closed' ∘ closed⟩
  rcases pinged' with same | just
  · exact pinged.imp same.trans same.trans
  · exact .inr just

/-- A pong is noted with its time, and nothing else is. -/
theorem ponged_of_goes : next.link.lastPong = c.link.lastPong ∨
    permits .pong ∧ next.link.lastPong = some now := by
  refine goes.keeps (P := fun mid => mid.link.lastPong = c.link.lastPong ∨
    permits .pong ∧ mid.link.lastPong = some now) ?_ (.inl rfl)
  intro mid last deed permitted ponged acted
  by_cases pong : deed = .pong
  · subst pong
    cases acted
    exact .inr ⟨permitted, rfl⟩
  · have same := ponged_of_act? pong acted
    exact ponged.imp same.trans (And.imp_right same.trans)

theorem keepers_of_goes (kept : ∀ deed, permits deed → deed ≠ .hold ∧ deed ≠ .letGo) :
    next.keepers = c.keepers :=
  goes.keeps (P := fun mid => mid.keepers = c.keepers)
    (fun permitted same acted => (keepers_of_act? (kept _ permitted) acted).trans same) rfl

theorem notIdle_of_goes (other : ∀ deed, permits deed → deed ≠ .close .idle)
    (before : c.link.cause ≠ some .idle) : next.link.cause ≠ some .idle :=
  goes.keeps (P := fun mid => mid.link.cause ≠ some .idle)
    (fun permitted before acted => notIdle_of_act? (other _ permitted) acted before) before

end Many

/-! ### Pinged or to be pinged -/

/-- The connection was pinged just now, or is closed. -/
def WasPinged (now : Nat) (c : Connection) : Prop :=
  c.link.closed = true ∨ c.link.lastPing = some now

/-- The connection exists, and a probe would have it pinged, unless it was already. -/
structure HasRoom (now : Nat) (c : Connection) : Prop where
  kept : c.isKept = true
  room : c.WasPinged now ∨ (c.link.ping now).2 = true

theorem wasPinged_of_act? (acted : c.act? now deed = some next) (pinged : c.WasPinged now) :
    next.WasPinged now := by
  obtain ⟨noted, closed⟩ := pinged_of_act? acted
  rcases pinged with shut | just
  · exact .inl (closed shut)
  · exact .inr (noted.elim (fun same => same.trans just) id)

theorem wasPinged_of_goes {permits : Deed → Prop} (goes : c.Goes permits now next)
    (pinged : c.WasPinged now) : next.WasPinged now :=
  goes.keeps (fun _ pinged acted => wasPinged_of_act? acted pinged) pinged

/-- A probe of a connection that has room for it pings it. -/
theorem wasPinged_startProbe (has : c.HasRoom now) (wait : Nat) :
    (c.onLink fun link => (link.startProbe now wait).1).WasPinged now := by
  rcases has.room with pinged | room
  · have acted : c.act? now (.probe wait) =
        some (c.onLink fun link => (link.startProbe now wait).1) := rfl
    exact wasPinged_of_act? acted pinged
  · have noted := c.link.lastPing_startProbe now wait
    cases closed : c.link.closed with
    | true => exact .inl ((c.link.lastPong_startProbe now wait).2.trans closed)
    | false =>
        rw [closed, room] at noted
        exact .inr noted

theorem hasRoom_of_sweeping (sweeping : deed.isSweeping = true)
    (acted : c.act? now deed = some next) (has : c.HasRoom now) : next.HasRoom now := by
  cases deed with
  | probe wait =>
      cases acted
      exact ⟨has.kept, .inl (wasPinged_startProbe has wait)⟩
  | probeFails | probeSucceeds =>
      cases acted
      refine ⟨has.kept, has.room.imp_right fun room => ?_⟩
      rw [Link.ping_snd] at room ⊢
      exact room
  | close cause =>
      cases acted
      refine ⟨has.kept, ?_⟩
      obtain ⟨-, -, same | shut⟩ := c.link.lastPing_close cause
      · have unchanged : (c.onLink fun link => (link.close cause).1) = c := by
          rw [onLink, same]
        rw [unchanged]
        exact has.room
      · exact .inl (.inl shut)
  | _ => cases sweeping

end Connection

end StationHub

import StationHub.Proofs.Hub.Deeds
import StationHub.Proofs.Link.Lifecycle

/-!
Which deeds concern the failures, the pongs and the cause of a connection.

* `failures_of_act?`: only what a sweep makes of its probes counts or forgives failures.
* `pongs_of_act?`: only a pong is counted as one.
* `Goes.failures`, `Goes.pongs`, `Goes.cause_iff`, `Goes.phase_iff`: the same for many deeds.
-/

namespace StationHub

namespace Link

theorem pongs_offer (link : Link) (parcel : Parcel) : (link.offer parcel).1.pongs = link.pongs := by
  obtain ⟨_, same⟩ := offer_eq link parcel
  rw [same]

theorem pongs_ping (link : Link) (now : Nat) : (link.ping now).1.pongs = link.pongs := by
  obtain ⟨_, _, _, same⟩ := ping_eq link now
  rw [same]

theorem pongs_startProbe (link : Link) (now wait : Nat) :
    (link.startProbe now wait).1.pongs = link.pongs := by
  obtain ⟨_, _, _, same⟩ := startProbe_eq link now wait
  rw [same]

/-- To enter a phase concerns the phase. -/
theorem enter_eq (link : Link) (phase : Phase) :
    ∃ phase', link.enter phase = { link with phase := phase' } := by
  unfold enter
  split <;> exact ⟨_, rfl⟩

/-- To handle the end concerns the phase. -/
theorem finish_eq (link : Link) : ∃ phase, link.finish.1 = { link with phase } := by
  unfold finish
  split <;> exact ⟨_, rfl⟩

/-- A close concerns the cause, the latch and the phase. -/
theorem close_eq (link : Link) (cause : CloseCause) :
    ∃ cause' phase closed, (link.close cause).1 = { link with cause := cause', phase, closed } := by
  unfold close
  split
  · exact ⟨_, _, _, rfl⟩
  · obtain ⟨phase, same⟩ := enter_eq { link with cause := some cause } .closing
    rw [same]
    exact ⟨_, _, _, rfl⟩

theorem failures_enter (link : Link) (phase : Phase) :
    (link.enter phase).failures = link.failures := by
  obtain ⟨_, same⟩ := enter_eq link phase
  rw [same]

theorem failures_finish (link : Link) : link.finish.1.failures = link.failures := by
  obtain ⟨_, same⟩ := finish_eq link
  rw [same]

theorem pongs_enter (link : Link) (phase : Phase) : (link.enter phase).pongs = link.pongs := by
  obtain ⟨_, same⟩ := enter_eq link phase
  rw [same]

theorem pongs_finish (link : Link) : link.finish.1.pongs = link.pongs := by
  obtain ⟨_, same⟩ := finish_eq link
  rw [same]

theorem pongs_close (link : Link) (cause : CloseCause) :
    (link.close cause).1.pongs = link.pongs := by
  obtain ⟨_, _, _, same⟩ := close_eq link cause
  rw [same]

end Link

namespace Connection

variable {c next : Connection} {now : Nat} {deed : Deed}

/-! ### One deed -/

/-- Nobody but a sweep counts failures or forgives them, -/
theorem failures_of_act? (fails : deed ≠ .probeFails) (succeeds : deed ≠ .probeSucceeds)
    (acted : c.act? now deed = some next) : next.link.failures = c.link.failures := by
  cases writing : deed.isWriting with
  | true =>
      obtain ⟨-, link, queue, hasReader, rfl | rfl, same⟩ := link_of_writing writing acted
      · rw [same]
      · rw [same]
        exact c.link.failures_close .transport
  | false =>
      cases deed with
      | takeUp | socketTakes | socketFails | expire | stop => cases writing
      | probeFails => exact absurd rfl fails
      | probeSucceeds => exact absurd rfl succeeds
      | text text => cases acted; exact c.link.failures_offer _
      | ping => cases acted; exact c.link.failures_ping now
      | probe wait => cases acted; exact c.link.failures_startProbe now wait
      | close cause => cases acted; exact c.link.failures_close cause
      | enter phase => cases acted; exact c.link.failures_enter phase
      | finish => cases acted; exact c.link.failures_finish
      | pong | identify | hold | letGo => cases acted; rfl

/-- and nothing but a pong is counted as one. -/
theorem pongs_of_act? (other : deed ≠ .pong) (acted : c.act? now deed = some next) :
    next.link.pongs = c.link.pongs := by
  cases writing : deed.isWriting with
  | true =>
      obtain ⟨-, link, queue, hasReader, rfl | rfl, same⟩ := link_of_writing writing acted
      · rw [same]
      · rw [same]
        exact c.link.pongs_close .transport
  | false =>
      cases deed with
      | takeUp | socketTakes | socketFails | expire | stop => cases writing
      | pong => exact absurd rfl other
      | text text => cases acted; exact c.link.pongs_offer _
      | ping => cases acted; exact c.link.pongs_ping now
      | probe wait => cases acted; exact c.link.pongs_startProbe now wait
      | close cause => cases acted; exact c.link.pongs_close cause
      | enter phase => cases acted; exact c.link.pongs_enter phase
      | finish => cases acted; exact c.link.pongs_finish
      | probeFails | probeSucceeds | identify | hold | letGo => cases acted; rfl

/-! ### Many deeds -/

section Many

variable {permits : Deed → Prop} (goes : c.Goes permits now next)
include goes

theorem Goes.failures (fails : ¬permits .probeFails) (succeeds : ¬permits .probeSucceeds) :
    next.link.failures = c.link.failures := by
  refine goes.keeps (P := fun mid => mid.link.failures = c.link.failures) ?_ rfl
  intro mid next deed permitted same acted
  refine (failures_of_act? ?_ ?_ acted).trans same
  · rintro rfl
    exact fails permitted
  · rintro rfl
    exact succeeds permitted

theorem Goes.pongs (never : ¬permits .pong) : next.link.pongs = c.link.pongs := by
  refine goes.keeps (P := fun mid => mid.link.pongs = c.link.pongs) ?_ rfl
  intro mid next deed permitted same acted
  refine (pongs_of_act? ?_ acted).trans same
  rintro rfl
  exact never permitted

theorem Goes.cause_iff {cause : CloseCause} (named : cause ≠ .transport)
    (never : ¬permits (.close cause)) :
    next.link.cause = some cause ↔ c.link.cause = some cause := by
  refine goes.keeps
    (P := fun mid => mid.link.cause = some cause ↔ c.link.cause = some cause) ?_ Iff.rfl
  intro mid next deed permitted same acted
  refine (cause_of_act? named ?_ acted).trans same
  rintro rfl
  exact never permitted

theorem Goes.phase_iff (orderly : ∀ deed, permits deed → deed.isOrderly = true)
    (never : ¬permits .finish) : next.link.phase = .closed ↔ c.link.phase = .closed := by
  refine goes.keeps (P := fun mid => mid.link.phase = .closed ↔ c.link.phase = .closed) ?_ Iff.rfl
  intro mid next deed permitted same acted
  rw [phase_eq_closed_iff (orderly deed permitted) acted, same]
  refine or_iff_left ?_
  rintro rfl
  exact never permitted

end Many

end Connection

end StationHub

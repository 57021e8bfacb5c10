import StationHub.Link.Writer

/-!
The course of a connection: what stays true of it whatever is done to it.

* `LeadsTo` is the order in which a connection changes: its variant stays, a latch that is set
  stays set, the first cause stays, the last phase stays, pongs are never uncounted, and coherence
  is kept.
* `Coherent` ties the three signs of a close together: there is a cause exactly if the latch is
  set, and exactly then the phase is over.

Every operation on a link leads on, apart from `finish`, which is for links that have a cause.
-/

namespace StationHub

namespace Link

/-- The cause, the latch and the phase agree on whether the connection was closed. -/
structure Coherent (link : Link) : Prop where
  cause : link.cause.isSome = link.closed
  phase : link.phase.isOver = link.closed

/-- An open connection has no cause for its end. -/
theorem Coherent.cause_eq_none {link : Link} (coherent : link.Coherent)
    (open_ : link.closed = false) : link.cause = none := by
  have same := coherent.cause
  rwa [open_, Option.isSome_eq_false_iff, Option.isNone_iff_eq_none] at same

/-- What stays true of a connection while it changes from `link` to `next`. -/
structure LeadsTo (link next : Link) : Prop where
  variant : next.variant = link.variant
  closed : link.closed = true → next.closed = true
  cause : ∀ {cause : CloseCause}, link.cause = some cause → next.cause = some cause
  pongs : link.pongs ≤ next.pongs
  coherent : link.Coherent → next.Coherent
  stays : link.phase = .closed → next.phase = .closed

namespace LeadsTo

theorem refl (link : Link) : link.LeadsTo link := ⟨rfl, id, id, Nat.le_refl _, id, id⟩

theorem trans {first second third : Link} (h : first.LeadsTo second)
    (h' : second.LeadsTo third) : first.LeadsTo third where
  variant := h'.variant.trans h.variant
  closed := fun closed => h'.closed (h.closed closed)
  cause := fun cause => h'.cause (h.cause cause)
  pongs := Nat.le_trans h.pongs h'.pongs
  coherent := fun coherent => h'.coherent (h.coherent coherent)
  stays := fun shut => h'.stays (h.stays shut)

end LeadsTo

theorem coherent_fresh (variant : Variant) (capacity watermark : Nat) :
    (fresh variant capacity watermark).Coherent := ⟨rfl, rfl⟩

/-! ### The operations -/

/-- An operation that leaves the signs of a close alone leads on. -/
theorem leadsTo_of_eq {link next : Link} (variant : next.variant = link.variant)
    (closed : next.closed = link.closed) (cause : next.cause = link.cause)
    (phase : next.phase = link.phase) (pongs : link.pongs ≤ next.pongs) : link.LeadsTo next where
  variant := variant
  closed := fun h => closed.trans h
  cause := fun h => cause.trans h
  pongs := pongs
  coherent := fun h => ⟨by rw [cause, closed, h.cause], by rw [phase, closed, h.phase]⟩
  stays := fun h => phase.trans h

theorem leadsTo_offer (link : Link) (parcel : Parcel) : link.LeadsTo (link.offer parcel).1 := by
  unfold offer
  split
  · exact .refl link
  · exact leadsTo_of_eq rfl rfl rfl rfl (Nat.le_refl _)

theorem leadsTo_sendText (link : Link) (text : String) : link.LeadsTo (link.sendText text).1 :=
  leadsTo_offer link _

theorem leadsTo_ping (link : Link) (now : Nat) : link.LeadsTo (link.ping now).1 := by
  have counted : link.LeadsTo { link with pings := link.pings + 1 } :=
    leadsTo_of_eq rfl rfl rfl rfl (Nat.le_refl _)
  have offered := counted.trans (leadsTo_offer _ (.ping link.pings))
  unfold ping
  dsimp only
  split
  · exact offered.trans (leadsTo_of_eq rfl rfl rfl rfl (Nat.le_refl _))
  · exact offered

theorem leadsTo_pong (link : Link) (now : Nat) : link.LeadsTo (link.pong now) :=
  leadsTo_of_eq rfl rfl rfl rfl (Nat.le_succ _)

theorem leadsTo_startProbe (link : Link) (now wait : Nat) :
    link.LeadsTo (link.startProbe now wait).1 := by
  unfold startProbe
  split
  · exact .refl link
  · exact leadsTo_ping link now

theorem failures_offer (link : Link) (parcel : Parcel) :
    (link.offer parcel).1.failures = link.failures := by
  unfold offer
  split <;> rfl

theorem failures_ping (link : Link) (now : Nat) : (link.ping now).1.failures = link.failures := by
  have offered := failures_offer { link with pings := link.pings + 1 } (.ping link.pings)
  unfold ping
  dsimp only
  split
  · exact offered
  · exact offered

/-- The ping of a probe counts no failure. -/
theorem failures_startProbe (link : Link) (now wait : Nat) :
    (link.startProbe now wait).1.failures = link.failures := by
  unfold startProbe
  split
  · rfl
  · exact failures_ping link now

theorem leadsTo_dropReader (link : Link) : link.LeadsTo link.dropReader :=
  leadsTo_of_eq rfl rfl rfl rfl (Nat.le_refl _)

theorem leadsTo_addFailure (link : Link) : link.LeadsTo link.addFailure :=
  leadsTo_of_eq rfl rfl rfl rfl (Nat.le_refl _)

theorem leadsTo_resetFailures (link : Link) : link.LeadsTo link.resetFailures :=
  leadsTo_of_eq rfl rfl rfl rfl (Nat.le_refl _)

theorem leadsTo_identify (link : Link) (identity : Identity) :
    link.LeadsTo (link.identify identity) :=
  leadsTo_of_eq rfl rfl rfl rfl (Nat.le_refl _)

/-- The phases that are entered before a close are not over. -/
theorem leadsTo_enter (link : Link) {phase : Phase} (open_ : phase.isOver = false) :
    link.LeadsTo (link.enter phase) := by
  unfold enter
  split
  · exact .refl link
  · rename_i notOver
    refine ⟨rfl, id, id, Nat.le_refl _, fun coherent => ⟨coherent.cause, ?_⟩, fun shut => ?_⟩
    · have closed : link.closed = false := by
        rw [← coherent.phase]
        exact Bool.eq_false_iff.mpr notOver
      exact open_.trans closed.symm
    · exact absurd (congrArg Phase.isOver shut) notOver

/-- What a close leaves of a link that had no cause before. -/
theorem close_of_open {link : Link} (noCause : link.cause = none) (cause : CloseCause) :
    link.close cause =
      ({ { link with cause := some cause }.enter .closing with closed := true }, true) := by
  simp [close, noCause]

theorem isOver_enter_closing (link : Link) : (link.enter .closing).phase.isOver = true := by
  unfold enter
  split
  · assumption
  · rfl

/-- A connection in its last phase enters no other one. -/
theorem enter_of_closed {link : Link} (shut : link.phase = .closed) (phase : Phase) :
    link.enter phase = link := by
  simp [enter, shut, Phase.isOver]

theorem leadsTo_close (link : Link) (cause : CloseCause) : link.LeadsTo (link.close cause).1 := by
  cases known : link.cause with
  | some first => rw [close_of_cause known]; exact .refl link
  | none =>
      have ended := isOver_enter_closing { link with cause := some cause }
      rw [close_of_open known]
      have same : ∀ changed : Link, (changed.enter .closing).variant = changed.variant ∧
          (changed.enter .closing).cause = changed.cause ∧
          (changed.enter .closing).pongs = changed.pongs := by
        intro changed
        unfold enter
        split <;> exact ⟨rfl, rfl, rfl⟩
      obtain ⟨variant, kept, pongs⟩ := same { link with cause := some cause }
      refine ⟨variant, fun _ => rfl, fun h => ?_, Nat.le_of_eq pongs.symm, fun _ => ⟨?_, ended⟩,
        fun shut => ?_⟩
      · rw [known] at h
        cases h
      · exact congrArg Option.isSome kept
      · have shut' : ({ link with cause := some cause } : Link).phase = .closed := shut
        show (enter _ .closing).phase = .closed
        rw [enter_of_closed shut']
        exact shut

theorem isSome_cause_close (link : Link) (cause : CloseCause) :
    (link.close cause).1.cause.isSome = true := by
  rw [cause_close]
  rfl

theorem failures_close (link : Link) (cause : CloseCause) :
    (link.close cause).1.failures = link.failures := by
  unfold close enter
  split
  · rfl
  · dsimp only
    split <;> rfl

/-- The end of a connection leads on once there is a cause. -/
theorem leadsTo_finish {link : Link} (known : link.cause.isSome = true) :
    link.LeadsTo link.finish.1 := by
  unfold finish
  split
  · exact .refl link
  · refine ⟨rfl, id, id, Nat.le_refl _, fun coherent => ⟨coherent.cause, ?_⟩, fun _ => rfl⟩
    exact (known.symm.trans coherent.cause)

/-- A coherent connection is closed once it was told to close. -/
theorem closed_close {link : Link} (coherent : link.Coherent) (cause : CloseCause) :
    (link.close cause).1.closed = true := by
  have kept := ((leadsTo_close link cause).coherent coherent).cause
  rw [← kept]
  exact isSome_cause_close link cause

end Link

/-! ### The writer -/

namespace Connection

theorem leadsTo_stop (c : Connection) : c.link.LeadsTo c.stop.link :=
  Link.leadsTo_dropReader c.link

theorem leadsTo_takeUp? {c next : Connection} {now : Nat} (h : c.takeUp? now = some next) :
    c.link.LeadsTo next.link := by
  unfold takeUp? at h
  split at h
  · split at h
    · cases h
      exact .refl c.link
    · obtain ⟨⟨parcel, link⟩, taken, rfl⟩ := Option.map_eq_some_iff.mp h
      unfold Link.take? at taken
      split at taken
      · cases taken
      · cases taken
        exact Link.leadsTo_of_eq rfl rfl rfl rfl (Nat.le_refl _)
  · cases h

theorem leadsTo_accepted? {c next : Connection} (h : c.accepted? = some next) :
    c.link.LeadsTo next.link := by
  unfold accepted? at h
  split at h
  · cases h
    exact .refl c.link
  · cases h
    exact .refl c.link
  · cases h
    exact Link.leadsTo_dropReader c.link
  · cases h

theorem leadsTo_failed? {c next : Connection} (h : c.failed? = some next) :
    c.link.LeadsTo next.link := by
  unfold failed? at h
  split at h
  · cases h
    exact (Link.leadsTo_close c.link .transport).trans (Link.leadsTo_dropReader _)
  · cases h
    exact .refl c.link
  · cases h
    exact Link.leadsTo_dropReader c.link
  · cases h

theorem leadsTo_expired? {c next : Connection} {now : Nat} (h : c.expired? now = some next) :
    c.link.LeadsTo next.link := by
  unfold expired? at h
  split at h
  · split at h
    · cases h
      exact Link.leadsTo_dropReader c.link
    · cases h
  · split at h
    · cases h
      exact Link.leadsTo_dropReader c.link
    · cases h
  · cases h

end Connection

end StationHub

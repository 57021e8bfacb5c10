import StationHub.Proofs.Slots.Threshold
import StationHub.Proofs.Slots.Treatment

/-!
What the moves of sweeps make of one place.

* `Stands`: how the connection at a place stands in a hub; `Judges`: what is made of it.
* `Held`: somebody holds the connection as long as it is registered.
* `judges_of_treats`: a connection that is not gone stands as the result of its probe tells.
* `judges_of_sweep`: so every move of a sweep judges a place by the result that it learns there.
-/

namespace StationHub

namespace Hub

variable {place : Place} {h next : Hub} {standing : Standing} {verdict? : Option Bool}
  {failures : Nat}

/-! ### Standings -/

/-- The slot of the place is bound to its connection, which is open, and the last probes of which
failed, so many in a row. The threshold fits into the count of failures. -/
structure Up (h : Hub) (place : Place) (failures : Nat) : Prop where
  bound : h.boundTo? place.variant place.key = some place.link
  fewer : failures < h.settings.failureThreshold
  fits : h.settings.failureThreshold < Nat.pow 2 32
  link : ∃ l, h.link? place.link = some l ∧ l.closed = false ∧ l.cause = none ∧
    l.failures = failures

/-- The slot of the place is empty, and its connection was closed because it did not respond. -/
structure Evicted (h : Hub) (place : Place) : Prop where
  free : h.registered? place.variant place.key = none
  link : ∃ l, h.link? place.link = some l ∧ l.closed = true ∧ l.cause = some .unresponsive

/-- How the connection at a place stands. -/
def Stands (h : Hub) (place : Place) : Standing → Prop
  | .registered failures => h.Up place failures
  | .evicted => h.Evicted place

/-- What happens makes of the place what follows from the result there, and nothing if there is
none. -/
structure Judges (place : Place) (verdict? : Option Bool) (h next : Hub) : Prop where
  settings : next.settings = h.settings
  stands : ∀ standing, h.Stands place standing → next.Stands place
    (verdict?.elim standing (standing.judge h.settings.failureThreshold))

/-- Who is evicted stays so, whatever the result. -/
theorem Judges.evicted (judges : Judges place verdict? h next) (evicted : h.Evicted place) :
    next.Evicted place := by
  have still := judges.stands .evicted evicted
  rcases verdict? with _ | _ | _ <;> exact still

theorem Evicted.unbound (evicted : h.Evicted place) :
    h.boundTo? place.variant place.key = none :=
  congrArg (Option.map Slot.link) evicted.free

theorem Stands.evicted_iff (stands : h.Stands place standing) :
    h.Evicted place ↔ standing = .evicted := by
  cases standing with
  | registered failures =>
      refine iff_of_false (fun evicted => ?_) nofun
      cases evicted.unbound.symm.trans stands.bound
  | evicted => exact iff_of_true stands rfl

/-- Who is registered was so before. -/
theorem Judges.bound (judges : Judges place verdict? h next) (stands : h.Stands place standing)
    (bound : next.boundTo? place.variant place.key = some place.link) :
    h.boundTo? place.variant place.key = some place.link := by
  cases standing with
  | registered failures => exact stands.bound
  | evicted => cases (judges.evicted stands).unbound.symm.trans bound

/-! ### What sweeps make of a place -/

/-- As long as the slot of the place is bound to its connection, somebody holds this. -/
def Held (h : Hub) (place : Place) : Prop :=
  h.boundTo? place.variant place.key = some place.link → h.isAlive place.link = true

/-- Who is evicted stays so, whatever the result. -/
theorem Treats.evicted {gone : Bool} (treats : Treats place gone verdict? h next)
    (evicted : h.Evicted place) : next.Evicted place := by
  obtain ⟨l, here, closed, cause⟩ := evicted.link
  obtain ⟨l', there, alike⟩ := treats.link here
  obtain ⟨latched, first⟩ :=
    Link.latched_judged closed cause h.settings.failureThreshold gone verdict?
  refine ⟨?_, l', there, alike.closed.trans latched, alike.cause.trans first⟩
  rcases treats.unbound (unbound_of_free evicted.free) with same | emptied
  · exact same.trans evicted.free
  · exact emptied

/-- A connection that is up, and is not gone, stands as the result tells. -/
theorem Treats.up (treats : Treats place false verdict? h next) (up : h.Up place failures) :
    next.Stands place (verdict?.elim (.registered failures)
      ((Standing.registered failures).judge h.settings.failureThreshold)) := by
  obtain ⟨l, here, closed, cause, counted⟩ := up.link
  obtain ⟨l', there, alike⟩ := treats.link here
  have slot := treats.bound here up.bound
  have bound (kept : l.forfeits h.settings.failureThreshold false verdict? = false) :
      next.boundTo? place.variant place.key = some place.link := by
    rw [kept, if_neg Bool.false_ne_true] at slot
    rw [boundTo?, slot]
    exact up.bound
  have settings := treats.settings
  rcases verdict? with _ | _ | _
  · exact ⟨bound rfl, settings ▸ up.fewer, settings ▸ up.fits, l', there,
      alike.closed.trans closed, alike.cause.trans cause, alike.failures.trans counted⟩
  · have counts : l.addFailure.failures = failures + 1 := by
      rw [Link.addFailure, counted]
      exact Nat.mod_eq_of_lt (Nat.lt_of_le_of_lt (Nat.succ_le_of_lt up.fewer) up.fits)
    rcases Nat.lt_or_ge (failures + 1) h.settings.failureThreshold with fewer | tooMany
    · have judged : (Standing.registered failures).judge h.settings.failureThreshold false =
          .registered (failures + 1) := if_pos fewer
      have kept : l.forfeits h.settings.failureThreshold false (some false) = false := by
        simpa [Link.forfeits, counts] using fewer
      rw [Link.judged_of_lt (counts ▸ fewer)] at alike
      rw [Option.elim_some, judged]
      exact ⟨bound kept, settings ▸ fewer, settings ▸ up.fits, l', there,
        alike.closed.trans closed, alike.cause.trans cause, alike.failures.trans counts⟩
    · have judged : (Standing.registered failures).judge h.settings.failureThreshold false =
          .evicted := if_neg (Nat.not_lt.mpr tooMany)
      have lost : l.forfeits h.settings.failureThreshold false (some false) = true := by
        simpa [Link.forfeits, counts] using tooMany
      have open_ : l.addFailure.cause = none := cause
      rw [Link.judged_of_le (counts ▸ tooMany)] at alike
      rw [Option.elim_some, judged]
      rw [lost, if_pos rfl] at slot
      refine ⟨slot, l', there, alike.closed.trans ?_, alike.cause.trans ?_⟩
      · rw [Link.close_of_open open_]
      · rw [Link.cause_close, open_]
        rfl
  · exact ⟨bound rfl, settings ▸ Nat.lt_of_le_of_lt (Nat.zero_le _) up.fewer, settings ▸ up.fits,
      l', there, alike.closed.trans closed, alike.cause.trans cause, alike.failures⟩

/-- A place whose connection is not gone is judged by the result there. -/
theorem judges_of_treats {gone : Bool} (treats : Treats place gone verdict? h next)
    (there : h.boundTo? place.variant place.key = some place.link → gone = false) :
    Judges place verdict? h next := by
  refine ⟨treats.settings, fun standing stands => ?_⟩
  cases standing with
  | registered failures =>
      cases there stands.bound
      exact treats.up stands
  | evicted =>
      have still := treats.evicted stands
      rcases verdict? with _ | _ | _ <;> exact still

/-- **What a move of a sweep makes of a place**: what follows from the result that it learns there,
whatever it learns elsewhere. -/
theorem judges_of_sweep {settings : Settings} {mark : Mark} {moves : List Move} {move : Move}
    (run : (fresh settings mark).run? moves = some h) (alone : h.Alone place)
    (held : (h.apart move).Held place)
    (moved : h.step? move = some next) (sweeps : h.isSweep move = true) :
    Judges place (h.verdictOn? place move) h next := by
  have sole : Sole place (h.lookedAt move) := (enrolled_lookedAt run sweeps).sole alone
  refine judges_of_treats (treats_of_sweep moved sweeps sole) fun bound => ?_
  have same : (h.apart move).boundTo? place.variant place.key =
      h.boundTo? place.variant place.key := by
    unfold apart
    split
    · cases place.variant <;> rfl
    · rfl
  rw [skips, held (same.trans bound)]
  rfl

end Hub

end StationHub

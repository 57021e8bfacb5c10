import Mathlib.Logic.Relation
import StationHub.Hub.Run
import StationHub.Proofs.Link.Course

/-!
Changes in passing. Most of what the operations of a hub do concerns neither who holds a slot nor
what has become of a call. `Quiet` is the closure of such changes that leave the tasks alone as
well; each operation that is of this kind has its lemma `quiet_…`, and what all of them leave
untouched is read off the few constructors of `QuietStep`.

Emptying slots counts as a change in passing where it is allowed: `Quiet True` may, `Quiet False`
may not, and what is proved for any `clears` does not.
-/

namespace StationHub.Hub

/-- One change in passing; slots may be emptied if `clears`. -/
inductive QuietStep (clears : Prop) : Hub → Hub → Prop where
  /-- Counters other than that of overdue calls, the path lock, and numbers not used yet. -/
  | books {h : Hub} (counters : Counters) (lock : PathLock) (dropped message : Nat) :
      counters.timedOut = h.counters.timedOut → h.nextMessage ≤ message →
      QuietStep clears h
        { h with counters, lock, repliesDropped := dropped, nextMessage := message }
  /-- A connection leads on. -/
  | connection {h : Hub} (i : Nat) (change : Connection → Connection) :
      (∀ c, h.connection? i = some c → c.link.LeadsTo (change c).link) →
      QuietStep clears h (h.modifyConnection i change)
  /-- A slot is emptied. -/
  | vacate {h : Hub} (allowed : clears) (variant : Variant) (key : Key) :
      QuietStep clears h (h.setRoster variant (Table.erase key (h.roster variant)))
  /-- All slots of a variant are emptied. -/
  | desert {h : Hub} (allowed : clears) (variant : Variant) :
      QuietStep clears h (h.setRoster variant [])
  /-- A call of the peer is noted. -/
  | called {h : Hub} (i : Nat) (change : Session → Session) :
      (∀ s, h.session? i = some s → change s = s.noteCall.1) →
      QuietStep clears h (h.modifySession i change)

/-- Any number of changes in passing. -/
abbrev Quiet (clears : Prop) : Hub → Hub → Prop := Relation.ReflTransGen (QuietStep clears)

variable {clears : Prop}

/-! ### Elementary operations -/

theorem timedOut_count {occasion : Counters.Occasion} (other : occasion ≠ .timedOut)
    (counters : Counters) : (counters.count occasion).timedOut = counters.timedOut := by
  cases occasion <;> first | rfl | exact absurd rfl other

theorem quiet_count {occasion : Counters.Occasion} (other : occasion ≠ .timedOut) (h : Hub) :
    Quiet clears h (h.count occasion) :=
  .single (.books _ _ _ _ (timedOut_count other h.counters) (Nat.le_refl _))

theorem quiet_lock (h : Hub) (lock : PathLock) : Quiet clears h { h with lock } :=
  .single (.books _ _ _ _ rfl (Nat.le_refl _))

theorem quiet_release (h : Hub) (guard : Guard) : Quiet clears h (h.release guard) := quiet_lock h _

theorem quiet_drop (h : Hub) : Quiet clears h { h with repliesDropped := h.repliesDropped + 1 } :=
  .single (.books _ _ _ _ rfl (Nat.le_refl _))

theorem quiet_nextMessage (h : Hub) : Quiet clears h { h with nextMessage := h.nextMessage + 1 } :=
  .single (.books _ _ _ _ rfl (Nat.le_succ _))

theorem quiet_modifyLink {change : Link → Link}
    (leads : ∀ link : Link, link.LeadsTo (change link))
    (h : Hub) (i : Nat) : Quiet clears h (h.modifyLink i change) :=
  .single (.connection i _ fun c _ => leads c.link)

/-- A link is replaced by what it leads to. -/
theorem quiet_replaceLink {h : Hub} {i : Nat} {link next : Link} (here : h.link? i = some link)
    (leads : link.LeadsTo next) : Quiet clears h (h.modifyLink i fun _ => next) := by
  refine .single (.connection i _ fun c at_i => ?_)
  have same : c.link = link := by simpa [link?, at_i] using here
  exact same ▸ leads

theorem quiet_noteCall {h : Hub} {i : Nat} {s : Session} (here : h.session? i = some s) :
    Quiet clears h (h.modifySession i fun _ => s.noteCall.1) := by
  refine .single (.called i _ fun s' at_i => ?_)
  rw [here] at at_i
  cases at_i
  rfl

theorem quiet_closeLink (h : Hub) (i : Nat) (cause : CloseCause) :
    Quiet clears h (h.closeLink i cause).1 := by
  unfold closeLink
  split
  · exact .refl
  · rename_i link here
    exact quiet_replaceLink here (Link.leadsTo_close link cause)

theorem quiet_closed (h : Hub) (i : Nat) (cause : CloseCause) : Quiet clears h (h.closed i cause) :=
  quiet_closeLink h i cause

theorem quiet_sendText (h : Hub) (i : Nat) (text : String) :
    Quiet clears h (h.sendText i text).1 := by
  unfold sendText
  split
  · exact .refl
  · rename_i link here
    exact quiet_replaceLink here (Link.leadsTo_sendText link text)

theorem quiet_startProbe (h : Hub) (i wait : Nat) : Quiet clears h (h.startProbe i wait).1 := by
  unfold startProbe
  split
  · exact .refl
  · rename_i link here
    exact quiet_replaceLink here (Link.leadsTo_startProbe link h.now wait)

theorem quiet_changeConnection? {h next : Hub} {i : Nat} {change : Connection → Option Connection}
    (leads : ∀ c c', change c = some c' → c.link.LeadsTo c'.link)
    (done : h.changeConnection? i change = some next) : Quiet clears h next := by
  unfold changeConnection? at done
  obtain ⟨c', changed, rfl⟩ := Option.map_eq_some_iff.mp done
  obtain ⟨c, here, changed⟩ := Option.bind_eq_some_iff.mp changed
  refine .single (.connection i _ fun c'' at_i => ?_)
  rw [here] at at_i
  cases at_i
  exact leads c c' changed

/-! ### Emptying slots -/

theorem quiet_setRoster_removeIfBound (h : Hub) (variant : Variant) (key : Key) (link : Nat) :
    Quiet True h (h.setRoster variant ((h.roster variant).removeIfBound key link).1) := by
  unfold Roster.removeIfBound
  split
  · exact .single (.vacate trivial variant key)
  · have same : h.setRoster variant (h.roster variant) = h := by cases variant <;> rfl
    rw [same]

theorem quiet_unregister (h : Hub) (variant : Variant) (key : Key) (link : Nat) :
    Quiet True h (h.unregister variant key link).1 :=
  quiet_setRoster_removeIfBound h variant key link

/-! ### Sweeps -/

theorem quiet_failMember (h : Hub) (variant : Variant) (key : Key) (link : Nat) :
    Quiet True h (h.failMember variant key link).1 := by
  have counted : Quiet True h ((h.count .pingFailure).modifyLink link Link.addFailure) :=
    (quiet_count (by decide) h).trans (quiet_modifyLink Link.leadsTo_addFailure _ link)
  unfold failMember
  dsimp only
  split
  · exact counted
  · exact (counted.trans (quiet_closed _ link .unresponsive)).trans
      (quiet_unregister _ variant key link)

theorem quiet_beginMember (h : Hub) (variant : Variant) (key : Key) (link : Nat) :
    Quiet True h (h.beginMember variant key link).1 := by
  have probed : Quiet True h _ := quiet_startProbe h link h.settings.probeTimeout
  unfold beginMember
  split
  · split <;> rename_i started <;> rw [started] at probed
    · exact probed
    · exact probed.trans (quiet_failMember _ variant key link)
  · exact quiet_unregister h variant key link

theorem quiet_resumeMember (h : Hub) (variant : Variant) (member : Member) :
    Quiet True h (h.resumeMember variant member).1 := by
  unfold resumeMember
  split
  · exact .refl
  · split
    · exact .refl
    · exact quiet_modifyLink Link.leadsTo_resetFailures h member.link
    · exact quiet_failMember h variant member.key member.link

theorem quiet_eachMember {α β : Type} {act : Hub → α → Hub × β}
    (quiet : ∀ h item, Quiet True h (act h item).1) (h : Hub) (items : List α) :
    Quiet True h (eachMember act h items).1 := by
  induction items generalizing h with
  | nil => exact .refl
  | cons item rest ih => exact (quiet h item).trans (ih (act h item).1)

theorem quiet_beginRoster (h : Hub) (variant : Variant) :
    Quiet True h (h.beginRoster variant).1 := by
  unfold beginRoster
  refine quiet_eachMember ?_ h _
  intro h entry
  exact quiet_beginMember h variant entry.1 entry.2.link

theorem quiet_countEvicted (h : Hub) (members : List Member) :
    Quiet True h (h.countEvicted members) := by
  unfold countEvicted
  induction members generalizing h with
  | nil => exact .refl
  | cons member rest ih =>
      refine .trans ?_ (ih _)
      dsimp only
      split
      · exact quiet_count (by decide) h
      · exact .refl

/-! ### Closing -/

theorem quiet_closeSlots (h : Hub) (cause : CloseCause) (slots : List (Key × Slot Nat Nat)) :
    Quiet True h (h.closeSlots cause slots).1 := by
  induction slots generalizing h with
  | nil => exact .refl
  | cons entry rest ih =>
      unfold closeSlots
      dsimp only
      refine .trans ?_ (ih _)
      split
      · exact quiet_closeLink h entry.2.link cause
      · exact .refl

theorem quiet_closeRoster (h : Hub) (cause : CloseCause) (variant : Variant) :
    Quiet True h (h.closeRoster cause variant).1 :=
  (Relation.ReflTransGen.single (.desert trivial variant)).trans (quiet_closeSlots _ cause _)

theorem quiet_closeAll (h : Hub) (cause : CloseCause) : Quiet True h (h.closeAll cause).1 :=
  (quiet_closeRoster h cause .device).trans (quiet_closeRoster _ cause .management)

/-! ### Tasks -/

theorem Quiet.tasks {h next : Hub} (quiet : Quiet clears h next) :
    next.tasks = h.tasks ∧ next.nextTask = h.nextTask ∧ next.finished = h.finished := by
  induction quiet with
  | refl => exact ⟨rfl, rfl, rfl⟩
  | tail _ step ih =>
      rw [← ih.1, ← ih.2.1, ← ih.2.2]
      cases step with
      | books => exact ⟨rfl, rfl, rfl⟩
      | connection => exact ⟨rfl, rfl, rfl⟩
      | vacate _ variant _ => cases variant <;> exact ⟨rfl, rfl, rfl⟩
      | desert _ variant => cases variant <;> exact ⟨rfl, rfl, rfl⟩
      | called => exact ⟨rfl, rfl, rfl⟩

end StationHub.Hub

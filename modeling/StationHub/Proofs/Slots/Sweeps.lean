import StationHub.Proofs.Openings.Ends
import StationHub.Proofs.Openings.Sound

/-!
The places that a sweep looks at, and what the parts of which it is made leave as it was.

* `Place`: a slot under a sweep, with the connection that the sweep found there.
* `isAlive_beginRoster`, `isAlive_resumeMembers`: the parts of a sweep end no reader and no task, so
  that what is gone or is not stays so.
* `roster_beginRoster_of_ne`, `roster_resumeMembers_of_ne`: they leave the other roster alone.
* `places_beginRoster`, `places_resumeMembers`: the members of a sweep stay at their places.
-/

namespace StationHub

/-- A slot under a sweep, with the connection that the sweep found there. -/
structure Place where
  variant : Variant
  key : Key
  link : Nat
  deriving DecidableEq

/-- Where a member is in the roster of a variant. -/
def Member.place (variant : Variant) (member : Member) : Place := ⟨variant, member.key, member.link⟩

namespace Hub

/-- The places of the roster of a variant. -/
def places (h : Hub) (variant : Variant) : List Place :=
  (h.roster variant).entries.map fun entry => ⟨variant, entry.1, entry.2.link⟩

theorem places_congr {h next : Hub} {variant : Variant}
    (same : next.roster variant = h.roster variant) : next.places variant = h.places variant := by
  unfold places
  rw [same]

/-! ### Connections that exist -/

/-- What exists does not depend on anything but connections, tasks and sessions. -/
theorem isAlive_congr {h next : Hub}
    (kept : ∀ i, (next.connection? i).any Connection.isKept =
      (h.connection? i).any Connection.isKept)
    (tasks : next.tasks = h.tasks) (sessions : next.sessions = h.sessions) (i : Nat) :
    next.isAlive i = h.isAlive i := by
  have holds : next.holds = h.holds := by
    funext activity
    cases activity <;> first | rfl | simp only [Hub.holds, session?, sessions]
  unfold isAlive
  rw [kept, tasks, holds]

theorem isAlive_modifyLink (h : Hub) (i : Nat) (change : Link → Link) (j : Nat) :
    (h.modifyLink i change).isAlive j = h.isAlive j := by
  have kept : ∀ j, ((h.modifyLink i change).connection? j).any Connection.isKept =
      (h.connection? j).any Connection.isKept := by
    intro j
    rw [modifyLink, connection?_modifyConnection]
    cases h.connection? j with
    | none => rfl
    | some c =>
        simp only [Option.map_some, Option.any_some]
        split <;> rfl
  exact isAlive_congr kept rfl rfl j

theorem isAlive_closed (h : Hub) (i : Nat) (cause : CloseCause) (j : Nat) :
    (h.closed i cause).isAlive j = h.isAlive j := by
  unfold closed closeLink
  split
  · rfl
  · exact isAlive_modifyLink h i _ j

theorem isAlive_startProbe (h : Hub) (i wait j : Nat) :
    (h.startProbe i wait).1.isAlive j = h.isAlive j := by
  unfold startProbe
  split
  · rfl
  · exact isAlive_modifyLink h i _ j

theorem isAlive_setRoster (h : Hub) (variant : Variant) (roster : Roster Nat Nat) (i : Nat) :
    (h.setRoster variant roster).isAlive i = h.isAlive i :=
  isAlive_congr (fun j => by rw [connection?_setRoster]) (tasks_setRoster h variant roster)
    (sessions_setRoster h variant roster) i

theorem isAlive_failMember (h : Hub) (variant : Variant) (key : Key) (link i : Nat) :
    (h.failMember variant key link).1.isAlive i = h.isAlive i := by
  have counted : ((h.count .pingFailure).modifyLink link Link.addFailure).isAlive i =
      h.isAlive i := isAlive_modifyLink (h.count .pingFailure) link _ i
  unfold failMember
  dsimp only
  split
  · exact counted
  · calc
      _ = _ := isAlive_setRoster _ variant _ i
      _ = _ := isAlive_closed _ link .unresponsive i
      _ = h.isAlive i := counted

theorem isAlive_beginMember (h : Hub) (variant : Variant) (key : Key) (link i : Nat) :
    (h.beginMember variant key link).1.isAlive i = h.isAlive i := by
  have probed := isAlive_startProbe h link h.settings.probeTimeout i
  unfold beginMember
  split
  · split <;> rename_i started <;> rw [started] at probed
    · exact probed
    · exact (isAlive_failMember _ variant key link i).trans probed
  · exact isAlive_setRoster h variant _ i

theorem isAlive_resumeMember (h : Hub) (variant : Variant) (member : Member) (i : Nat) :
    (h.resumeMember variant member).1.isAlive i = h.isAlive i := by
  unfold resumeMember
  split
  · rfl
  · split
    · rfl
    · exact isAlive_modifyLink h member.link _ i
    · exact isAlive_failMember h variant member.key member.link i

theorem isAlive_eachMember {α β : Type} {act : Hub → α → Hub × β} {i : Nat}
    (same : ∀ h item, (act h item).1.isAlive i = h.isAlive i) (h : Hub) (items : List α) :
    (eachMember act h items).1.isAlive i = h.isAlive i := by
  induction items generalizing h with
  | nil => rfl
  | cons item rest ih => exact (ih (act h item).1).trans (same h item)

theorem isAlive_beginRoster (h : Hub) (variant : Variant) (i : Nat) :
    (h.beginRoster variant).1.isAlive i = h.isAlive i := by
  refine isAlive_eachMember ?_ h _
  exact fun h entry => isAlive_beginMember h variant entry.1 entry.2.link i

theorem isAlive_resumeMembers (h : Hub) (variant : Variant) (members : List Member) (i : Nat) :
    (eachMember (fun h member => h.resumeMember variant member) h members).1.isAlive i =
      h.isAlive i :=
  isAlive_eachMember (fun h member => isAlive_resumeMember h variant member i) h members

/-! ### Rosters -/

theorem roster_modifyLink (h : Hub) (i : Nat) (change : Link → Link) (variant : Variant) :
    (h.modifyLink i change).roster variant = h.roster variant := by
  cases variant <;> rfl

theorem roster_startProbe (h : Hub) (i wait : Nat) (variant : Variant) :
    (h.startProbe i wait).1.roster variant = h.roster variant := by
  unfold startProbe
  split
  · rfl
  · exact roster_modifyLink h i _ variant

theorem settings_setRoster (h : Hub) (variant : Variant) (roster : Roster Nat Nat) :
    (h.setRoster variant roster).settings = h.settings :=
  (persists_setRoster h variant roster).settings

theorem roster_unregister_of_ne {variant other : Variant} (ne : other ≠ variant) (h : Hub)
    (key : Key) (link : Nat) : (h.unregister variant key link).1.roster other = h.roster other :=
  roster_setRoster_of_ne ne h _

/-- A slot is let go only if it is bound to the connection. -/
theorem registered?_unregister (h : Hub) (variant : Variant) (key : Key) (link : Nat)
    (other : Variant) (key' : Key) :
    (h.unregister variant key link).1.registered? other key' = h.registered? other key' ∨
      (other = variant ∧ key' = key) ∧ h.boundTo? variant key = some link ∧
        (h.unregister variant key link).1.registered? other key' = none := by
  unfold unregister registered?
  by_cases same : other = variant
  · subst same
    dsimp only
    rw [roster_setRoster_self]
    unfold Roster.removeIfBound
    split
    · rename_i bound
      by_cases here : key' = key
      · subst here
        exact .inr ⟨⟨rfl, rfl⟩, bound, Table.get?_erase_self _ _⟩
      · exact .inl (Table.get?_erase_of_ne here _)
    · exact .inl rfl
  · left
    dsimp only
    rw [roster_setRoster_of_ne same]

theorem link?_modifyLink_of_ne {i j : Nat} (other : i ≠ j) (h : Hub) (change : Link → Link) :
    (h.modifyLink i change).link? j = h.link? j := by
  rw [link?_modifyLink]
  simp [other]

theorem settings_startProbe (h : Hub) (i wait : Nat) :
    (h.startProbe i wait).1.settings = h.settings := by
  unfold startProbe
  split <;> rfl

/-! ### The roster of the other variant -/

section

variable {variant other : Variant} (ne : other ≠ variant)
include ne

theorem roster_failMember_of_ne (h : Hub) (key : Key) (link : Nat) :
    (h.failMember variant key link).1.roster other = h.roster other := by
  have counted : ((h.count .pingFailure).modifyLink link Link.addFailure).roster other =
      h.roster other := roster_modifyLink (h.count .pingFailure) link _ other
  unfold failMember
  dsimp only
  split
  · exact counted
  · exact ((roster_unregister_of_ne ne _ key link).trans
      (roster_closeLink _ link .unresponsive other)).trans counted

theorem roster_beginMember_of_ne (h : Hub) (key : Key) (link : Nat) :
    (h.beginMember variant key link).1.roster other = h.roster other := by
  have probed := roster_startProbe h link h.settings.probeTimeout other
  unfold beginMember
  split
  · split <;> rename_i started <;> rw [started] at probed
    · exact probed
    · exact (roster_failMember_of_ne ne _ key link).trans probed
  · exact roster_unregister_of_ne ne h key link

theorem roster_resumeMember_of_ne (h : Hub) (member : Member) :
    (h.resumeMember variant member).1.roster other = h.roster other := by
  unfold resumeMember
  split
  · rfl
  · split
    · rfl
    · exact roster_modifyLink h member.link _ other
    · exact roster_failMember_of_ne ne h member.key member.link

omit ne in
theorem roster_eachMember {α β : Type} {act : Hub → α → Hub × β}
    (same : ∀ h item, (act h item).1.roster other = h.roster other) (h : Hub) (items : List α) :
    (eachMember act h items).1.roster other = h.roster other := by
  induction items generalizing h with
  | nil => rfl
  | cons item rest ih => exact (ih (act h item).1).trans (same h item)

theorem roster_beginRoster_of_ne (h : Hub) :
    (h.beginRoster variant).1.roster other = h.roster other := by
  unfold beginRoster
  refine roster_eachMember ?_ h _
  intro h entry
  exact roster_beginMember_of_ne ne h entry.1 entry.2.link

theorem roster_resumeMembers_of_ne (h : Hub) (members : List Member) :
    (eachMember (fun h member => h.resumeMember variant member) h members).1.roster other =
      h.roster other :=
  roster_eachMember (fun h member => roster_resumeMember_of_ne ne h member) h members

end

/-! ### The count of evictions -/

theorem countEvicted_eq (h : Hub) (members : List Member) :
    ∃ counters, h.countEvicted members = { h with counters } := by
  unfold countEvicted
  induction members generalizing h with
  | nil => exact ⟨h.counters, rfl⟩
  | cons member rest ih =>
      rw [List.foldl_cons]
      split
      · exact ih (h.count .evicted)
      · exact ih h

theorem roster_countEvicted (h : Hub) (members : List Member) (variant : Variant) :
    (h.countEvicted members).roster variant = h.roster variant := by
  obtain ⟨counters, counted⟩ := countEvicted_eq h members
  rw [counted]
  cases variant <;> rfl

theorem places_countEvicted (h : Hub) (members : List Member) (variant : Variant) :
    (h.countEvicted members).places variant = h.places variant :=
  places_congr (roster_countEvicted h members variant)

theorem isAlive_countEvicted (h : Hub) (members : List Member) (i : Nat) :
    (h.countEvicted members).isAlive i = h.isAlive i := by
  obtain ⟨counters, counted⟩ := countEvicted_eq h members
  rw [counted]
  rfl

/-! ### Where members are -/

theorem map_eachMember {α β γ : Type} {act : Hub → α → Hub × β} {f : α → γ} {g : β → γ}
    (same : ∀ h item, g (act h item).2 = f item) (h : Hub) (items : List α) :
    (eachMember act h items).2.map g = items.map f := by
  induction items generalizing h with
  | nil => rfl
  | cons item rest ih => exact congrArg₂ List.cons (same h item) (ih (act h item).1)

theorem place_beginMember (h : Hub) (variant : Variant) (key : Key) (link : Nat) :
    (h.beginMember variant key link).2.place variant = ⟨variant, key, link⟩ := by
  unfold beginMember
  split
  · split <;> rfl
  · rfl

theorem place_resumeMember (h : Hub) (variant : Variant) (member : Member) :
    (h.resumeMember variant member).2.place variant = member.place variant := by
  unfold resumeMember
  split
  · rfl
  · split <;> rfl

theorem places_beginRoster (h : Hub) (variant : Variant) :
    (h.beginRoster variant).2.map (Member.place variant) = h.places variant :=
  map_eachMember (fun h entry => place_beginMember h variant entry.1 entry.2.link) h _

theorem places_resumeMembers (h : Hub) (variant : Variant) (members : List Member) :
    (eachMember (fun h member => h.resumeMember variant member) h members).2.map
      (Member.place variant) = members.map (Member.place variant) :=
  map_eachMember (fun h member => place_resumeMember h variant member) h members

end Hub

end StationHub

import StationHub.Proofs.Openings.Contract
import StationHub.Proofs.Tasks.Waiting

/-!
The entries of rosters, and the connections of the sessions that they name.

* `keyed_of_run?`: a roster has one entry for a key.
* `attached_of_run?`: the connection of a session was accepted once.
-/

namespace StationHub

/-! ### Keys of tables -/

namespace Table

variable {κ ν : Type} [DecidableEq κ] {key : κ} {value : ν} {table : Table κ ν}

theorem get?_of_mem (distinct : (table.map Prod.fst).Nodup) (member : (key, value) ∈ table) :
    table.get? key = some value := by
  induction table with
  | nil => cases member
  | cons entry rest ih =>
      obtain ⟨new, distinct⟩ := List.nodup_cons.mp distinct
      unfold get?
      rcases List.mem_cons.mp member with rfl | inRest
      · exact if_pos rfl
      · have other : entry.1 ≠ key := by
          rintro rfl
          exact new (List.mem_map.mpr ⟨_, inRest, rfl⟩)
        rw [if_neg other]
        exact ih distinct inRest

theorem keys_put_subset (key : κ) (value : ν) (table : Table κ ν) :
    (put key value table).map Prod.fst ⊆ key :: table.map Prod.fst := by
  induction table with
  | nil => exact List.Subset.refl _
  | cons entry rest ih =>
      unfold put
      split
      · simp
      · intro other member
        rcases List.mem_cons.mp member with rfl | inRest
        · simp
        · rcases List.mem_cons.mp (ih inRest) with rfl | inside
          · exact List.mem_cons_self
          · exact List.mem_cons_of_mem _ (List.mem_cons_of_mem _ inside)

theorem nodup_put (distinct : (table.map Prod.fst).Nodup) :
    ((put key value table).map Prod.fst).Nodup := by
  induction table with
  | nil => exact List.nodup_singleton key
  | cons entry rest ih =>
      obtain ⟨new, distinct'⟩ := List.nodup_cons.mp distinct
      unfold put
      split
      · rename_i same
        exact List.nodup_cons.mpr ⟨same ▸ new, distinct'⟩
      · rename_i other
        refine List.nodup_cons.mpr ⟨fun member => ?_, ih distinct'⟩
        rcases List.mem_cons.mp (keys_put_subset key value rest member) with same | inRest
        · exact other same
        · exact new inRest

theorem nodup_erase (distinct : (table.map Prod.fst).Nodup) (key : κ) :
    ((erase key table).map Prod.fst).Nodup :=
  distinct.sublist (List.filter_sublist.map _)

end Table

namespace Hub

/-! ### One entry for a key -/

/-- Each roster has at most one entry for a key. -/
def Keyed (h : Hub) : Prop := ∀ variant, ((h.roster variant).map Prod.fst).Nodup

theorem Keyed.setRoster {h : Hub} (keyed : h.Keyed) {variant : Variant} {roster : Roster Nat Nat}
    (distinct : (roster.map Prod.fst).Nodup) : (h.setRoster variant roster).Keyed := by
  intro other
  by_cases same : other = variant
  · subst same
    rw [roster_setRoster_self]
    exact distinct
  · rw [roster_setRoster_of_ne same]
    exact keyed other

theorem Keyed.congr {h next : Hub} (keyed : h.Keyed)
    (same : ∀ variant, next.roster variant = h.roster variant) : next.Keyed :=
  fun variant => same variant ▸ keyed variant

theorem QuietStep.keyed {clears : Prop} {h next : Hub} (step : QuietStep clears h next)
    (keyed : h.Keyed) : next.Keyed := by
  cases step with
  | books | connection | called => exact keyed.congr fun variant => by cases variant <;> rfl
  | vacate _ variant key => exact keyed.setRoster (Table.nodup_erase (keyed variant) key)
  | desert _ variant => exact keyed.setRoster List.nodup_nil

theorem Aside.keyed {clears opens : Prop} {h next : Hub} (aside : Aside clears opens h next)
    (keyed : h.Keyed) : next.Keyed := by
  induction aside with
  | refl => exact keyed
  | tail _ step ih =>
      cases step with
      | quiet step => exact step.keyed ih
      | tasks | accept | identified | clock | halt =>
          exact ih.congr fun variant => by cases variant <;> rfl

theorem Keyed.quiet {h next : Hub} (keyed : h.Keyed) (quiet : Quiet True h next) : next.Keyed := by
  have aside : Aside True False h next := Quiet.aside quiet
  exact aside.keyed keyed

theorem Seats.keyed {h next : Hub} {seated : Option Nat} (seats : Seats h next seated)
    (keyed : h.Keyed) : next.Keyed := by
  cases seated with
  | none =>
      obtain rfl : next = h := seats
      exact keyed
  | some i =>
      obtain ⟨s, -, rfl | ⟨rfl, -⟩⟩ := seats
      · exact keyed.setRoster (Table.nodup_put (keyed s.variant))
      · exact keyed

theorem Books.keyed {h next : Hub} {event : Option (Nat × CallEvent)} (books : Books h next event)
    (keyed : h.Keyed) : next.Keyed := by
  cases event with
  | none =>
      obtain rfl : next = h := books
      exact keyed
  | some booked =>
      obtain rfl : next = h.book booked.1 booked.2 := books
      refine keyed.congr fun variant => ?_
      unfold book
      split <;> cases variant <;> rfl

theorem step?_keyed {h next : Hub} {move : Move} (keyed : h.Keyed)
    (moved : h.step? move = some next) : next.Keyed := by
  obtain ⟨a, b, c, d, first, seats, second, books, third⟩ := step?_effect moved
  exact third.keyed (books.keyed (second.keyed (seats.keyed (first.keyed keyed))))

theorem keyed_of_run? {settings : Settings} {mark : Mark} {moves : List Move} {h : Hub}
    (run : (fresh settings mark).run? moves = some h) : h.Keyed := by
  have empty : (fresh settings mark).Keyed := by
    intro variant
    cases variant <;> exact List.nodup_nil
  exact run?_induction (P := Keyed) step?_keyed empty run

/-! ### Connections of sessions -/

/-- The connection of every session was accepted. -/
def Attached (h : Hub) : Prop :=
  ∀ {i : Nat} {s : Session}, h.session? i = some s → (h.link? s.link).isSome = true

/-- The directory's answer makes a session at most, of a connection that was accepted. -/
theorem sessions_afterDirectory (h : Hub) (id link : Nat) (guard : Guard)
    (answer : Except Failure Identity) :
    (h.afterDirectory id link guard answer).sessions = h.sessions ∨
      ∃ s, s.link = link ∧ (h.link? link).isSome = true ∧
        (h.afterDirectory id link guard answer).sessions = h.sessions ++ [s] := by
  unfold afterDirectory
  cases answer with
  | error failure => exact .inl (sameStaff_closed (h.count .resolutionFailed) link _).sessions
  | ok identity =>
      dsimp only
      split
      · exact .inl rfl
      · split
        · exact .inl (sameStaff_closed h link .shutdown).sessions
        · cases here : h.link? link with
          | none =>
              left
              unfold afterIdentified
              rw [here]
              rfl
          | some l =>
              exact .inr ⟨h.newSession link l.variant identity, rfl, rfl,
                (afterIdentified_staff here id guard identity).1⟩

/-- A session that comes with a move is on a connection that was accepted. -/
theorem attached_newcomer {h next : Hub} {move : Move} (moved : h.step? move = some next) {i : Nat}
    {s : Session} (absent : h.session? i = none) (there : next.session? i = some s) :
    (h.link? s.link).isSome = true := by
  have noneNew : next.sessions.map Session.link = h.sessions.map Session.link → False := by
    intro same
    have lengths := congrArg List.length same
    rw [List.length_map, List.length_map] at lengths
    have beyond := List.getElem?_eq_none_iff.mp absent
    have within := (List.getElem?_eq_some_iff.mp there).1
    omega
  cases known : h.opens? move with
  | none => exact (noneNew (step?_idles moved known).links).elim
  | some opened =>
      obtain ⟨id, link⟩ := opened
      cases openingStep_of_step? moved known with
      | begins target lock => exact (noneNew rfl).elim
      | waits target lock found => exact (noneNew rfl).elim
      | enters target lock guard =>
          exact (noneNew (congrArg _ (afterGuard_staff _ id link target guard).1)).elim
      | guarded target lock guard found =>
          exact (noneNew (congrArg _ (afterGuard_staff _ id link target guard).1)).elim
      | answered target guard answer found =>
          rcases sessions_afterDirectory (h.detach id) id link guard answer with
            same | ⟨made, rfl, known, grown⟩
          · exact (noneNew (congrArg _ same)).elim
          · rw [session?, grown] at there
            rw [eq_of_getElem?_concat absent there]
            exact known
      | probed session guard rival probe alive found =>
          have same := sameStaff_probed (h.detach id) id link session rival guard alive
          exact (noneNew (congrArg _ same.sessions)).elim

theorem step?_attached {h next : Hub} {move : Move} (attached : h.Attached)
    (moved : h.step? move = some next) : next.Attached := by
  intro i s there
  have persists := step?_persists moved
  cases here : h.session? i with
  | none => exact persists.knows (attached_newcomer moved here there)
  | some s' =>
      obtain ⟨s'', at_next, same⟩ := persists.session here
      rw [there] at at_next
      cases at_next
      rw [same.link]
      exact persists.knows (attached here)

theorem attached_of_run? {settings : Settings} {mark : Mark} {moves : List Move} {h : Hub}
    (run : (fresh settings mark).run? moves = some h) : h.Attached :=
  run?_induction (P := fun h => h.Attached) step?_attached
    (fun here => by cases here) run

end Hub

end StationHub

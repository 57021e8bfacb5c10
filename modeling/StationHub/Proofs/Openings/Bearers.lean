import StationHub.Proofs.Openings.Steps

/-!
Who bears a connection: the openings of it that have not identified its peer yet, and the sessions
on it. An opening turns into at most one session.

* `step?_bearers_le`: a move adds a bearer only if it begins an opening.
* `bearers_le_of_run?`: a connection has at most as many bearers as openings of it have begun.
-/

namespace StationHub

/-- The connection whose peer an activity has not identified yet. -/
def Activity.seeks? : Activity → Option Nat
  | .openWaiting link _ => some link
  | .openResolving link _ _ => some link
  | _ => none

theorem Activity.seeks?_of_not_opened {activity : Activity} (other : activity.opened? = none) :
    activity.seeks? = none := by
  cases activity <;> first | rfl | cases other

/-- The move begins to open the connection. -/
def Hub.Move.opensLink (link : Nat) : Move → Bool
  | .opening other _ => other == link
  | _ => false

namespace Hub

/-- The openings that have not identified the peer of the connection yet. -/
def seekers (h : Hub) (link : Nat) : Nat :=
  h.tasks.countP fun task => task.activity.seeks? == some link

/-- The sessions on the connection. -/
def dwellers (h : Hub) (link : Nat) : Nat := (h.sessions.map Session.link).count link

/-- Whoever bears the connection. -/
def bearers (h : Hub) (link : Nat) : Nat := h.seekers link + h.dwellers link

/-! ### Counting bearers -/

/-- A task that goes on bears nothing any more. -/
theorem seekers_detach {h : Hub} {id : Nat} {task : Task} (found : h.task? id = some task)
    (link : Nat) :
    (h.detach id).seekers link + (if task.activity.seeks? = some link then 1 else 0) ≤
      h.seekers link := by
  have member : task ∈ h.tasks.filter fun other => !(other.id != id) := by
    rw [List.mem_filter, id_of_task? found]
    exact ⟨List.mem_of_find?_eq_some found, by simp⟩
  have split := List.countP_eq_countP_filter_add h.tasks
    (fun task => task.activity.seeks? == some link) (fun task => task.id != id)
  have rest : (if task.activity.seeks? = some link then 1 else 0) ≤
      (h.tasks.filter fun other => !(other.id != id)).countP
        fun task => task.activity.seeks? == some link := by
    by_cases seeks : task.activity.seeks? = some link
    · rw [if_pos seeks]
      exact List.countP_pos_iff.mpr ⟨task, member, by simpa using seeks⟩
    · rw [if_neg seeks]
      exact Nat.zero_le _
  unfold seekers
  rw [split]
  exact Nat.add_le_add_left rest _

theorem bearers_detach {h : Hub} {id : Nat} {task : Task} (found : h.task? id = some task)
    (link : Nat) :
    (h.detach id).bearers link + (if task.activity.seeks? = some link then 1 else 0) ≤
      h.bearers link := by
  have seekers := seekers_detach found link
  have dwellers : (h.detach id).dwellers link = h.dwellers link := rfl
  unfold bearers
  omega

theorem seekers_suspend (h : Hub) (id : Nat) (activity : Activity) (link : Nat) :
    (h.suspend id activity).seekers link =
      h.seekers link + if activity.seeks? = some link then 1 else 0 := by
  unfold seekers suspend
  rw [List.countP_append]
  simp [List.countP_cons]

theorem seekers_congr {h next : Hub} (tasks : next.tasks = h.tasks) (link : Nat) :
    next.seekers link = h.seekers link := by
  unfold seekers
  rw [tasks]

theorem dwellers_congr {h next : Hub} (sessions : next.sessions = h.sessions) (link : Nat) :
    next.dwellers link = h.dwellers link := by
  unfold dwellers
  rw [sessions]

theorem SameStaff.bearers {h next : Hub} (same : h.SameStaff next) (link : Nat) :
    next.bearers link = h.bearers link := by
  unfold Hub.bearers
  rw [seekers_congr same.tasks, dwellers_congr same.sessions]

/-- An opening that seeks waits: one more bearer of its connection. -/
theorem bearers_suspend {h : Hub} {activity : Activity} {link : Nat}
    (seeks : activity.seeks? = some link) (id other : Nat) :
    (h.suspend id activity).bearers other = h.bearers other + if link = other then 1 else 0 := by
  have weight := seekers_suspend h id activity other
  have still : (h.suspend id activity).dwellers other = h.dwellers other := rfl
  rw [seeks] at weight
  simp only [Option.some.injEq] at weight
  unfold bearers
  rw [weight, still]
  omega

/-- An opening that has its guard seeks the peer of its connection still, or has ended. -/
theorem bearers_afterGuard_le (h : Hub) (id link : Nat) (target : Target) (guard : Guard)
    (other : Nat) :
    (h.afterGuard id link target guard).bearers other ≤
      h.bearers other + if link = other then 1 else 0 := by
  obtain ⟨sessions, tasks | tasks⟩ := afterGuard_staff h id link target guard
  · rw [SameStaff.bearers ⟨tasks, sessions⟩]
    exact Nat.le_add_right _ _
  · have same : (h.suspend id (.openResolving link target guard)).SameStaff
        (h.afterGuard id link target guard) := ⟨tasks, sessions⟩
    exact Nat.le_of_eq ((same.bearers other).trans (bearers_suspend rfl id other))

/-- An opening whose peer is identified has made its session and does not seek any more. -/
theorem bearers_afterIdentified {h : Hub} {link : Nat} {l : Link} (here : h.link? link = some l)
    (id : Nat) (guard : Guard) (identity : Identity) (other : Nat) :
    (h.afterIdentified id link guard identity).bearers other =
      h.bearers other + if link = other then 1 else 0 := by
  obtain ⟨sessions, tasks⟩ := afterIdentified_staff here id guard identity
  have dwellers : (h.afterIdentified id link guard identity).dwellers other =
      h.dwellers other + if link = other then 1 else 0 := by
    unfold Hub.dwellers
    rw [sessions, List.map_append, List.count_append]
    simp [newSession, Session.fresh, List.count_singleton]
  have seekers : (h.afterIdentified id link guard identity).seekers other = h.seekers other := by
    rcases tasks with tasks | ⟨rival, probe, -, tasks⟩
    · exact seekers_congr tasks other
    · have same : (h.afterIdentified id link guard identity).tasks =
          (h.suspend id (.openProbing link h.sessions.length guard rival probe)).tasks := tasks
      exact (seekers_congr same other).trans (seekers_suspend h id _ other)
  unfold bearers
  omega

/-- When the directory has answered, the opening has a session at most. -/
theorem bearers_afterDirectory_le (h : Hub) (id link : Nat) (guard : Guard)
    (answer : Except Failure Identity) (other : Nat) :
    (h.afterDirectory id link guard answer).bearers other ≤
      h.bearers other + if link = other then 1 else 0 := by
  have ended : ∀ {mid : Hub} (result), h.SameStaff mid →
      (mid.endOpening id guard result).bearers other ≤
        h.bearers other + if link = other then 1 else 0 := by
    intro mid result same
    rw [(same.trans (sameStaff_endOpening mid id guard result)).bearers]
    exact Nat.le_add_right _ _
  unfold afterDirectory
  cases answer with
  | error failure =>
      have closed := sameStaff_closed (h.count .resolutionFailed) link .unidentified
      exact ended _ ⟨closed.tasks, closed.sessions⟩
  | ok identity =>
      dsimp only
      split
      · exact ended _ ⟨rfl, rfl⟩
      · split
        · exact ended _ (sameStaff_closed h link .shutdown)
        · cases here : h.link? link with
          | none =>
              unfold afterIdentified
              rw [here]
              exact ended _ ⟨rfl, rfl⟩
          | some l => exact Nat.le_of_eq (bearers_afterIdentified here id guard identity other)

/-- A move adds a bearer only if it begins an opening. -/
theorem step?_bearers_le {h next : Hub} {move : Move} (moved : h.step? move = some next)
    (other : Nat) :
    next.bearers other ≤ h.bearers other + if move.opensLink other then 1 else 0 := by
  cases known : h.opens? move with
  | none =>
      obtain ⟨⟨kept, added, tasks, sub, shut⟩, links⟩ := step?_idles moved known
      have none_added : added.countP (fun task => task.activity.seeks? == some other) = 0 := by
        rw [List.countP_eq_zero]
        intro task member seeks
        rw [Activity.seeks?_of_not_opened (shut task member)] at seeks
        cases seeks
      have fewer : kept.countP (fun task => task.activity.seeks? == some other) ≤
          h.tasks.countP fun task => task.activity.seeks? == some other := sub.countP_le
      unfold bearers seekers dwellers
      rw [tasks, List.countP_append, none_added, links]
      omega
  | some opened =>
      obtain ⟨id, link⟩ := opened
      -- A task that goes on gives up what it bore, so that nothing is added on the whole.
      have goesOn : ∀ {task : Task}, h.task? id = some task → task.activity.seeks? = some link →
          next.bearers other ≤ (h.detach id).bearers other + (if link = other then 1 else 0) →
          next.bearers other ≤ h.bearers other + if move.opensLink other then 1 else 0 := by
        intro task found seeks fewer
        have left := bearers_detach found other
        simp only [seeks, Option.some.injEq] at left
        omega
      cases openingStep_of_step? moved known with
      | begins target lock =>
          have waits :
              ({ h.newTask.1 with lock }.suspend id (.openWaiting link target)).bearers other =
                h.bearers other + if link = other then 1 else 0 := bearers_suspend rfl id other
          simpa [Move.opensLink] using Nat.le_of_eq waits
      | enters target lock guard =>
          have enters : ({ h.newTask.1 with lock }.afterGuard id link target guard).bearers other ≤
              h.bearers other + if link = other then 1 else 0 :=
            bearers_afterGuard_le { h.newTask.1 with lock } id link target guard other
          simpa [Move.opensLink] using enters
      | waits target lock found =>
          exact goesOn found rfl (Nat.le_of_eq (bearers_suspend rfl id other))
      | guarded target lock guard found =>
          exact goesOn found rfl
            (bearers_afterGuard_le { h.detach id with lock } id link target guard other)
      | answered target guard answer found =>
          exact goesOn found rfl
            (bearers_afterDirectory_le (h.detach id) id link guard answer other)
      | probed session guard rival probe alive found =>
          have left := bearers_detach found other
          rw [(sameStaff_probed (h.detach id) id link session rival guard alive).bearers]
          omega

/-- A connection has at most as many bearers as openings of it have begun. -/
theorem bearers_le_of_run? {h last : Hub} {moves : List Move} (run : h.run? moves = some last)
    (link : Nat) :
    last.bearers link ≤ h.bearers link + moves.countP (Move.opensLink link) := by
  induction moves generalizing h with
  | nil =>
      cases run
      exact Nat.le_add_right _ _
  | cons move rest ih =>
      rw [run?_cons] at run
      obtain ⟨next, moved, run⟩ := Option.bind_eq_some_iff.mp run
      have first := step?_bearers_le moved link
      have others := ih run
      rw [List.countP_cons]
      omega

end Hub

end StationHub

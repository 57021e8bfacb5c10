import StationHub.Proofs.Hub.Persist
import StationHub.Proofs.Hub.Quiet

/-!
Changes in passing, those of tasks, the clock and newcomers among them.

* `Task.GoOn`: how tasks change when no opening begins to wait.
* `Aside`: the closure of `SideStep`, which has a constructor for each kind of change.
* `Aside.spares`: what changes in passing leave alone.
-/

namespace StationHub

/-- The connection that an activity is a step of opening. -/
def Activity.opened? : Activity → Option Nat
  | .openWaiting link _ => some link
  | .openResolving link _ _ => some link
  | .openProbing link _ _ _ _ => some link
  | _ => none

/-- Tasks end, go on or begin, and none that begins to wait is an opening. -/
def Task.GoOn (before after : List Task) : Prop :=
  ∃ kept added, after = kept ++ added ∧ kept.Sublist before ∧
    ∀ task ∈ added, task.activity.opened? = none

namespace Task.GoOn

theorem of_sublist {before after : List Task} (sub : after.Sublist before) : GoOn before after :=
  ⟨after, [], (List.append_nil _).symm, sub, fun _ member => nomatch member⟩

theorem refl (tasks : List Task) : GoOn tasks tasks := of_sublist (List.Sublist.refl tasks)

theorem trans {first second third : List Task} (h : GoOn first second) (h' : GoOn second third) :
    GoOn first third := by
  obtain ⟨kept, added, rfl, sub, others⟩ := h
  obtain ⟨kept', added', rfl, sub', others'⟩ := h'
  obtain ⟨old, new, rfl, oldSub, newSub⟩ := List.sublist_append_iff.mp sub'
  refine ⟨old, new ++ added', List.append_assoc _ _ _, oldSub.trans sub, ?_⟩
  intro task member
  rcases List.mem_append.mp member with early | late
  · exact others task (newSub.subset early)
  · exact others' task late

end Task.GoOn

namespace Hub

/-- One change in passing, those of tasks, the clock and newcomers among them; sessions may be made,
and openings wait, if `opens`. -/
inductive SideStep (clears opens : Prop) : Hub → Hub → Prop where
  | quiet {h next : Hub} : QuietStep clears h next → SideStep clears opens h next
  /-- Tasks begin, wait, go on and end. -/
  | tasks {h : Hub} (tasks : List Task) (finished : List (Nat × TaskOutcome)) (nextTask : Nat) :
      h.nextTask ≤ nextTask → opens ∨ Task.GoOn h.tasks tasks →
      SideStep clears opens h { h with tasks, finished, nextTask }
  | accept {h : Hub} (c : Connection) : c.link.Coherent →
      SideStep clears opens h { h with connections := h.connections ++ [c] }
  /-- A session is made, which has no calls yet. -/
  | identified {h : Hub} (allowed : opens) (s : Session) : s.pending = [] → s.settled = [] →
      SideStep clears opens h { h with sessions := h.sessions ++ [s] }
  | clock {h : Hub} (ms : Nat) : SideStep clears opens h { h with now := h.now + ms }
  /-- The shutdown begins. -/
  | halt {h : Hub} : SideStep clears opens h { h with stopping := true }

/-- Any number of changes in passing. -/
abbrev Aside (clears opens : Prop) : Hub → Hub → Prop :=
  Relation.ReflTransGen (SideStep clears opens)

variable {clears opens : Prop}

theorem QuietStep.spares {h next : Hub} (step : QuietStep clears h next) :
    Spares clears opens h next := by
  cases step with
  | books counters lock dropped message timedOut grows =>
      exact spares_of_eq rfl rfl (fun variant => by cases variant <;> rfl) timedOut rfl rfl
        (Nat.le_refl _) id (Nat.le_refl _) grows
  | connection i change leads => exact spares_modifyConnection leads
  | vacate allowed variant key =>
      refine spares_setRoster fun other => ?_
      by_cases same : other = key
      · subst same
        exact .inr ⟨allowed, Table.get?_erase_self other _⟩
      · exact .inl (Table.get?_erase_of_ne same _)
  | desert allowed variant => exact spares_setRoster fun _ => .inr ⟨allowed, rfl⟩
  | called i change noted =>
      refine spares_modifySession fun s at_i => ?_
      rw [noted s at_i]
      exact s.sameCalls_noteCall

theorem SideStep.spares {h next : Hub} (step : SideStep clears opens h next) :
    Spares clears opens h next := by
  cases step with
  | quiet step => exact step.spares
  | tasks tasks finished nextTask grows _ =>
      exact spares_of_eq rfl rfl (fun variant => by cases variant <;> rfl) rfl rfl rfl
        (Nat.le_refl _) id grows (Nat.le_refl _)
  | accept c coherent => exact spares_accept h coherent
  | identified allowed s noPending noSettled =>
      exact spares_identified allowed h noPending noSettled
  | clock ms =>
      exact spares_of_eq rfl rfl (fun variant => by cases variant <;> rfl) rfl rfl rfl
        (Nat.le_add_right _ _) id (Nat.le_refl _) (Nat.le_refl _)
  | halt =>
      exact spares_of_eq rfl rfl (fun variant => by cases variant <;> rfl) rfl rfl rfl
        (Nat.le_refl _) (fun _ => rfl) (Nat.le_refl _) (Nat.le_refl _)

theorem Aside.spares {h next : Hub} (aside : Aside clears opens h next) :
    Spares clears opens h next := by
  induction aside with
  | refl => exact .refl clears opens h
  | tail _ step ih => exact ih.trans step.spares

theorem SideStep.mono {clears' : Prop} (allowed : clears → clears') {h next : Hub}
    (step : SideStep clears opens h next) : SideStep clears' opens h next := by
  cases step with
  | quiet step =>
      refine .quiet ?_
      cases step with
      | books counters lock dropped message timedOut grows => exact .books _ _ _ _ timedOut grows
      | connection i change leads => exact .connection i change leads
      | vacate clears variant key => exact .vacate (allowed clears) variant key
      | desert clears variant => exact .desert (allowed clears) variant
      | called i change noted => exact .called i change noted
  | tasks tasks finished nextTask grows goOn => exact .tasks tasks finished nextTask grows goOn
  | accept c coherent => exact .accept c coherent
  | identified allowed s noPending noSettled => exact .identified allowed s noPending noSettled
  | clock ms => exact .clock ms
  | halt => exact .halt

theorem Aside.mono {clears' : Prop} (allowed : clears → clears') {h next : Hub}
    (aside : Aside clears opens h next) : Aside clears' opens h next :=
  Relation.ReflTransGen.mono (fun _ _ => SideStep.mono allowed) _ _ aside

theorem Quiet.aside {h next : Hub} (quiet : Quiet clears h next) : Aside clears opens h next :=
  Relation.ReflTransGen.mono (fun _ _ => SideStep.quiet) _ _ quiet

end Hub

end StationHub

import StationHub.Proofs.Hub.Course

/-!
What is seen of a run.

* `observed`: what is seen of the moves of a run, in their order.
* `mem_observed`: it is seen of some move of the run.
-/

namespace StationHub.Hub

variable {α β : Type} {see : Hub → Move → Option α} {h mid last : Hub}

/-- What is seen of the moves of a run, oldest first. -/
def observed (h : Hub) (see : Hub → Move → Option α) : List Move → List α
  | [] => []
  | move :: rest =>
      (see h move).toList ++
        match h.step? move with
        | some next => next.observed see rest
        | none => []

@[simp] theorem observed_nil (h : Hub) (see : Hub → Move → Option α) : h.observed see [] = [] := rfl

/-- It is what is noted of the steps of the run. -/
theorem observed_eq (h : Hub) (see : Hub → Move → Option α) (moves : List Move) :
    h.observed see moves = Runs.noted step? see h moves := by
  induction moves generalizing h with
  | nil => rfl
  | cons move rest ih =>
      rw [observed, Runs.noted]
      cases h.step? move with
      | none => rfl
      | some next => exact congrArg _ (ih next)

theorem observed_append {earlier : List Move} (run : h.run? earlier = some mid)
    (later : List Move) :
    h.observed see (earlier ++ later) = h.observed see earlier ++ mid.observed see later := by
  simp only [observed_eq]
  exact Runs.noted_append run later

theorem observed_concat {moves : List Move} (run : h.run? moves = some mid) (move : Move) :
    h.observed see (moves ++ [move]) = h.observed see moves ++ (see mid move).toList := by
  simp only [observed_eq]
  exact Runs.noted_concat run move

/-- What is seen of a run is seen of one of its moves. -/
theorem mem_observed {moves : List Move} (run : h.run? moves = some last) {seen : α} :
    seen ∈ h.observed see moves ↔ ∃ earlier move later mid,
      moves = earlier ++ move :: later ∧ h.run? earlier = some mid ∧
        see mid move = some seen := by
  constructor
  · intro member
    induction moves generalizing h with
    | nil => cases member
    | cons first rest ih =>
        rw [run?_cons] at run
        obtain ⟨next, moved, run⟩ := Option.bind_eq_some_iff.mp run
        rw [observed, moved] at member
        rcases List.mem_append.mp member with now | then_
        · exact ⟨[], first, rest, h, rfl, rfl, Option.mem_toList.mp now⟩
        · obtain ⟨earlier, move, later, mid, rfl, run', is⟩ := ih run then_
          refine ⟨first :: earlier, move, later, mid, rfl, ?_, is⟩
          rw [run?_cons, moved]
          exact run'
  · rintro ⟨earlier, move, later, mid, rfl, run', is⟩
    rw [observed_append run', observed, is]
    exact List.mem_append_right _ (List.mem_append_left _ (List.mem_singleton_self _))

end StationHub.Hub

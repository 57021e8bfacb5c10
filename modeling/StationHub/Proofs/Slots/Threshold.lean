import Mathlib.Data.List.Induction
import Mathlib.Order.Basic

/-!
The rule by which a registered connection is evicted, apart from the hub that goes by it.

* `Standing`, `Standing.after`: how a connection stands after the results of its probes.
* `Exhausts`: the last results are failures, as many as the threshold tells; `FirstExhausts`: after
  how many results that was so for the first time.
* `after_of_never`, `after_of_first`: until then the connection is registered, with as many
  failures as the results end with, and from then on it is evicted.
-/

namespace StationHub

/-- How a connection stands with a sweep that probes it. -/
inductive Standing where
  /-- It is registered and open, and the last probes failed, so many in a row. -/
  | registered (failures : Nat)
  | evicted
  deriving DecidableEq, Repr

namespace Standing

/-- What the result of a probe makes of it. -/
def judge (threshold : Nat) : Standing → Bool → Standing
  | .evicted, _ => .evicted
  | .registered _, true => .registered 0
  | .registered failures, false =>
      if failures + 1 < threshold then .registered (failures + 1) else .evicted

/-- How a connection stands after the results, oldest first. -/
def after (threshold : Nat) (results : List Bool) : Standing :=
  results.foldl (judge threshold) (.registered 0)

theorem after_concat (threshold : Nat) (results : List Bool) (alive : Bool) :
    after threshold (results ++ [alive]) = (after threshold results).judge threshold alive := by
  simp [after]

end Standing

variable {threshold k : Nat} {results : List Bool}

/-! ### Failures in a row -/

/-- How many failures in a row the results end with. -/
def failuresInARow (results : List Bool) : Nat :=
  (results.reverse.takeWhile fun alive => !alive).length

theorem failuresInARow_concat (results : List Bool) (alive : Bool) :
    failuresInARow (results ++ [alive]) = if alive then 0 else failuresInARow results + 1 := by
  cases alive <;> simp [failuresInARow]

/-- The last results are failures, as many as the threshold tells. -/
def Exhausts (threshold : Nat) (results : List Bool) : Prop :=
  threshold ≤ results.length ∧ ∀ alive ∈ results.drop (results.length - threshold), alive = false

instance (threshold : Nat) (results : List Bool) : Decidable (Exhausts threshold results) :=
  inferInstanceAs (Decidable (_ ∧ _))

/-- A list begins with `n` items at least that pass the test. -/
theorem le_length_takeWhile {α : Type} (test : α → Bool) (items : List α) (n : Nat) :
    n ≤ (items.takeWhile test).length ↔
      n ≤ items.length ∧ ∀ item ∈ items.take n, test item = true := by
  induction items generalizing n with
  | nil => simp
  | cons item rest ih =>
      cases n with
      | zero => simp
      | succ n =>
          cases passes : test item with
          | false => simp [passes]
          | true => simp [passes, ih]

theorem exhausts_iff : Exhausts threshold results ↔ threshold ≤ failuresInARow results := by
  rw [failuresInARow, le_length_takeWhile, List.length_reverse, Exhausts, List.take_reverse]
  simp

/-- The results end with failures, `n` of them at least. -/
theorem le_failuresInARow_iff {n : Nat} : n ≤ failuresInARow results ↔
    ∃ earlier row, results = earlier ++ row ∧ (∀ alive ∈ row, alive = false) ∧
      n ≤ row.length := by
  constructor
  · intro many
    obtain ⟨within, failed⟩ := exhausts_iff.mpr many
    refine ⟨results.take (results.length - n), results.drop (results.length - n),
      (List.take_append_drop _ _).symm, failed, ?_⟩
    rw [List.length_drop]
    omega
  · rintro ⟨earlier, row, rfl, failed, many⟩
    refine Nat.le_trans many (exhausts_iff.mp ⟨by simp, ?_⟩)
    simpa using failed

/-! ### The first time -/

/-- After `k` results the last of them were failures, as many as the threshold tells, and that was
the first time. -/
structure FirstExhausts (threshold : Nat) (results : List Bool) (k : Nat) : Prop where
  within : k ≤ results.length
  exhausts : Exhausts threshold (results.take k)
  first : ∀ j < k, ¬Exhausts threshold (results.take j)

/-- What has happened has happened for a first time. -/
theorem exists_first (within : k ≤ results.length)
    (exhausts : Exhausts threshold (results.take k)) :
    ∃ first ≤ k, FirstExhausts threshold results first := by
  induction k using Nat.strongRecOn with
  | ind k ih =>
      by_cases sooner : ∃ j < k, Exhausts threshold (results.take j)
      · obtain ⟨j, before, exhausts⟩ := sooner
        obtain ⟨first, upTo, is⟩ := ih j before (Nat.le_trans (Nat.le_of_lt before) within) exhausts
        exact ⟨first, Nat.le_trans upTo (Nat.le_of_lt before), is⟩
      · exact ⟨k, Nat.le_refl k, within, exhausts, fun j before now => sooner ⟨j, before, now⟩⟩

theorem FirstExhausts.unique {first second : Nat} (is : FirstExhausts threshold results first)
    (is' : FirstExhausts threshold results second) : first = second :=
  Nat.le_antisymm (Nat.le_of_not_lt fun before => is.first second before is'.exhausts)
    (Nat.le_of_not_lt fun before => is'.first first before is.exhausts)

/-- What happened for the first time within the first results did so for all that follow. -/
theorem firstExhausts_append {later : List Bool} (within : k ≤ results.length) :
    FirstExhausts threshold (results ++ later) k ↔ FirstExhausts threshold results k := by
  have same {j : Nat} (inside : j ≤ results.length) : (results ++ later).take j = results.take j :=
    List.take_append_of_le_length inside
  constructor
  · rintro ⟨-, exhausts, first⟩
    refine ⟨within, same within ▸ exhausts, fun j before now => first j before ?_⟩
    rw [same (Nat.le_trans (Nat.le_of_lt before) within)]
    exact now
  · rintro ⟨-, exhausts, first⟩
    refine ⟨?_, (same within).symm ▸ exhausts, fun j before now => first j before ?_⟩
    · rw [List.length_append]
      omega
    · rw [← same (Nat.le_trans (Nat.le_of_lt before) within)]
      exact now

/-! ### How a connection stands -/

/-- Until the threshold is reached the connection is registered, with the failures that the results
end with; -/
theorem after_of_never (never : ∀ k, ¬FirstExhausts threshold results k) :
    Standing.after threshold results = .registered (failuresInARow results) := by
  -- Induction on the results, the last one first.
  induction results using List.reverseRecOn with
  | nil => rfl
  | append_singleton results alive ih =>
      have before := ih fun k is => never k ((firstExhausts_append is.within).mpr is)
      have now : ¬Exhausts threshold (results ++ [alive]) := by
        intro exhausts
        rw [← List.take_length (l := results ++ [alive])] at exhausts
        obtain ⟨first, -, is⟩ := exists_first (Nat.le_refl _) exhausts
        exact never first is
      rw [exhausts_iff, failuresInARow_concat, Nat.not_le] at now
      rw [Standing.after_concat, before, failuresInARow_concat]
      cases alive with
      | true => rfl
      | false => exact if_pos now

/-- and from then on it is evicted. -/
theorem after_of_first (positive : 0 < threshold) (is : FirstExhausts threshold results k) :
    Standing.after threshold results = .evicted := by
  induction results using List.reverseRecOn with
  | nil =>
      have reached := exhausts_iff.mp is.exhausts
      simp only [List.take_nil] at reached
      exact absurd positive (Nat.not_lt.mpr reached)
  | append_singleton results alive ih =>
      rw [Standing.after_concat]
      by_cases sooner : k ≤ results.length
      · rw [ih ((firstExhausts_append sooner).mp is)]
        cases alive <;> rfl
      · have whole : k = (results ++ [alive]).length := by
          have within := is.within
          rw [List.length_append, List.length_singleton] at within ⊢
          omega
        subst whole
        have never : ∀ k, ¬FirstExhausts threshold results k := by
          intro j earlier
          have again := is.unique ((firstExhausts_append earlier.within).mpr earlier)
          have within := earlier.within
          rw [List.length_append, List.length_singleton] at again
          omega
        have reached := exhausts_iff.mp is.exhausts
        rw [List.take_length, failuresInARow_concat] at reached
        rw [after_of_never never]
        cases alive with
        | true => exact absurd positive (Nat.not_lt.mpr reached)
        | false => exact if_neg (Nat.not_lt.mpr reached)

theorem after_eq_evicted_iff (positive : 0 < threshold) :
    Standing.after threshold results = .evicted ↔ ∃ k, FirstExhausts threshold results k := by
  constructor
  · intro evicted
    by_contra never
    have registered := after_of_never fun k is => never ⟨k, is⟩
    cases evicted.symm.trans registered
  · rintro ⟨k, is⟩
    exact after_of_first positive is

/-- With one result more the threshold was reached for the first time either before or now. -/
theorem firstExhausts_iff {later : List Bool} :
    FirstExhausts threshold (results ++ later) k ↔ FirstExhausts threshold results k ∨
      (¬∃ j, FirstExhausts threshold results j) ∧ FirstExhausts threshold (results ++ later) k := by
  constructor
  · intro is
    by_cases sooner : ∃ j, FirstExhausts threshold results j
    · obtain ⟨j, before⟩ := sooner
      have same := is.unique ((firstExhausts_append before.within).mpr before)
      exact .inl (same ▸ before)
    · exact .inr ⟨sooner, is⟩
  · rintro (before | ⟨-, is⟩)
    · exact (firstExhausts_append before.within).mpr before
    · exact is

end StationHub

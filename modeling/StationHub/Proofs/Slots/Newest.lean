import Mathlib.Data.List.Induction
import StationHub.Proofs.Hub.Course

/-!
Takeovers of one slot that overlap. A takeover that probes its rival ends some time after it began,
and then takes the slot whoever holds it by then.

* `bound_of_last_takeover`: a slot that is not empty is bound to the connection of the session whose
  takeover ended last.
* `newest_bound_iff`: of two takeovers the one that began later has the slot exactly if it also
  ended later.
-/

namespace StationHub.Hub

/-- The task and the session whose takeover begins with move number `n` of a run. -/
def begunAt? (h : Hub) (moves : List Move) (n : Nat) : Option (Nat × Nat) :=
  (h.run? (moves.take n)).bind fun mid => moves[n]?.bind mid.takeoverBegun?

/-- The task and the session whose takeover ends with move number `n` of a run. -/
def endedAt? (h : Hub) (moves : List Move) (n : Nat) : Option (Nat × Nat) :=
  (h.run? (moves.take n)).bind fun mid => moves[n]?.bind mid.takeoverEnded?

/-- The takeover of a task for a session takes from one move of a run to another. -/
structure Takes (h : Hub) (moves : List Move) (task session start finish : Nat) : Prop where
  begun : h.begunAt? moves start = some (task, session)
  ended : h.endedAt? moves finish = some (task, session)

variable {h last : Hub} {moves : List Move}

/-! ### Single moves -/

theorem endedAt?_of_lt {n : Nat} (before : n < moves.length) (move : Move) :
    h.endedAt? (moves ++ [move]) n = h.endedAt? moves n := by
  unfold endedAt?
  rw [List.take_append_of_le_length (Nat.le_of_lt before), List.getElem?_append_left before]

theorem endedAt?_length {mid : Hub} (run : h.run? moves = some mid) (move : Move) :
    h.endedAt? (moves ++ [move]) moves.length = mid.takeoverEnded? move := by
  unfold endedAt?
  simp [run]

theorem lt_length_of_endedAt? {n : Nat} {taken : Nat × Nat}
    (ended : h.endedAt? moves n = some taken) : n < moves.length := by
  unfold endedAt? at ended
  obtain ⟨mid, -, ended⟩ := Option.bind_eq_some_iff.mp ended
  obtain ⟨move, there, -⟩ := Option.bind_eq_some_iff.mp ended
  exact (List.getElem?_eq_some_iff.mp there).1

theorem session_of_endedAt? (run : h.run? moves = some last) {n task i : Nat}
    (ended : h.endedAt? moves n = some (task, i)) : ∃ s, last.session? i = some s := by
  induction moves using List.reverseRecOn generalizing last with
  | nil => cases lt_length_of_endedAt? ended
  | append_singleton moves move ih =>
      obtain ⟨mid, run, moved⟩ := run?_concat.mp run
      have bound := lt_length_of_endedAt? ended
      rw [List.length_append, List.length_singleton, Nat.lt_succ_iff] at bound
      rcases Nat.lt_or_eq_of_le bound with before | rfl
      · rw [endedAt?_of_lt before] at ended
        obtain ⟨s, here⟩ := ih run ended
        obtain ⟨s', there, -⟩ := (step?_persists moved).session here
        exact ⟨s', there⟩
      · rw [endedAt?_length run] at ended
        exact session_of_takeoverEnded? moved ended

/-! ### The last takeover -/

/-- A slot that is not empty is bound to the connection of the session whose takeover ended last. -/
theorem bound_of_last_takeover (run : h.run? moves = some last) {n task i : Nat} {s : Session}
    (ended : h.endedAt? moves n = some (task, i)) (here : last.session? i = some s)
    (final : ∀ m task k c, n < m → h.endedAt? moves m = some (task, k) →
      last.session? k = some c → ¬(c.variant = s.variant ∧ c.key = s.key)) :
    last.boundTo? s.variant s.key = some s.link ∨ last.registered? s.variant s.key = none := by
  induction moves using List.reverseRecOn generalizing last s with
  | nil => cases lt_length_of_endedAt? ended
  | append_singleton moves move ih =>
      obtain ⟨mid, run, moved⟩ := run?_concat.mp run
      have bound := lt_length_of_endedAt? ended
      rw [List.length_append, List.length_singleton, Nat.lt_succ_iff] at bound
      rcases Nat.lt_or_eq_of_le bound with before | rfl
      · rw [endedAt?_of_lt before] at ended
        obtain ⟨t, at_mid⟩ := session_of_endedAt? run ended
        have persists := step?_persists moved
        obtain ⟨s', there, same⟩ := persists.session at_mid
        rw [here] at there
        cases there
        have earlier := ih run ended at_mid fun m task k c later ended' at_c => by
          obtain ⟨c', there, same'⟩ := persists.session at_c
          have within := lt_length_of_endedAt? ended'
          rw [← endedAt?_of_lt within move] at ended'
          have other := final m task k c' later ended' there
          rwa [same'.variant, same'.key, same.variant, same.key] at other
        rw [← same.variant, ← same.key, ← same.link] at earlier
        have unseated := step?_unseated moved fun task k c ended' there => by
          refine final moves.length task k c before ?_ there
          rw [endedAt?_length run]
          exact ended'
        rcases unseated with kept | ⟨-, emptied⟩
        · rw [boundTo?, kept]
          exact earlier
        · exact .inr emptied
      · rw [endedAt?_length run] at ended
        exact (step?_seated moved ended here).imp_right And.right

/-- The interval from `start` to `finish` lies within the one from `start'` to `finish'`. -/
def Within (start finish start' finish' : Nat) : Prop := start' < start ∧ finish < finish'

/-- Of two takeovers of a slot for different connections, with none of the slot ending after both,
the one that began later has the slot, unless it began and ended while the other was under way:
then the older one has it. -/
theorem newest_bound_iff (run : h.run? moves = some last)
    {oldTask older newTask newer oldStart oldFinish newStart newFinish : Nat} {old new : Session}
    (oldTakes : h.Takes moves oldTask older oldStart oldFinish)
    (newTakes : h.Takes moves newTask newer newStart newFinish) (later : oldStart < newStart)
    (oldHere : last.session? older = some old) (newHere : last.session? newer = some new)
    (sameSlot : old.variant = new.variant ∧ old.key = new.key) (rivals : old.link ≠ new.link)
    (final : ∀ m task k c, oldFinish < m → newFinish < m → h.endedAt? moves m = some (task, k) →
      last.session? k = some c → ¬(c.variant = new.variant ∧ c.key = new.key))
    (occupied : last.registered? new.variant new.key ≠ none) :
    (last.boundTo? new.variant new.key = some old.link ↔
        Within newStart newFinish oldStart oldFinish) ∧
      (last.boundTo? new.variant new.key = some new.link ↔
        ¬Within newStart newFinish oldStart oldFinish) := by
  have apart : oldFinish ≠ newFinish := by
    intro same
    have ended := oldTakes.ended
    rw [same, newTakes.ended] at ended
    cases ended
    rw [oldHere] at newHere
    cases newHere
    exact rivals rfl
  rcases Nat.lt_or_gt_of_ne apart with before | after
  · -- The newer takeover ends last.
    have bound : last.boundTo? new.variant new.key = some new.link :=
      (bound_of_last_takeover run newTakes.ended newHere fun m task k c beyond =>
        final m task k c (Nat.lt_trans before beyond) beyond).resolve_right occupied
    have apart' : ¬Within newStart newFinish oldStart oldFinish := fun within =>
      Nat.lt_asymm before within.2
    rw [bound]
    exact ⟨⟨fun same => absurd (Option.some.inj same).symm rivals, fun within =>
      absurd within apart'⟩, ⟨fun _ => apart', fun _ => rfl⟩⟩
  · -- The older takeover ends last, with the newer one within it.
    have bound : last.boundTo? old.variant old.key = some old.link := by
      refine (bound_of_last_takeover run oldTakes.ended oldHere ?_).resolve_right ?_
      · intro m task k c beyond ended there
        rw [sameSlot.1, sameSlot.2]
        exact final m task k c beyond (Nat.lt_trans after beyond) ended there
      · rw [sameSlot.1, sameSlot.2]
        exact occupied
    rw [sameSlot.1, sameSlot.2] at bound
    have within : Within newStart newFinish oldStart oldFinish := ⟨later, after⟩
    rw [bound]
    exact ⟨⟨fun _ => within, fun _ => rfl⟩, ⟨fun same => absurd (Option.some.inj same) rivals,
      fun outside => absurd within outside⟩⟩

/-- A run in which the second of three connections of one peer probes the first, which is closed
meanwhile, while the third comes and takes the slot without a probe. -/
def overtakenRun : List Move :=
  let target : Target := ⟨.device, "/OCPP16/T/K/D1", "T", "K", "D1", "ocpp1.6"⟩
  let identity : Identity := ⟨⟨"T", "T"⟩, ⟨"D1", none, none, none⟩⟩
  [.accept .device, .opening 0 target, .directoryAnswers 0 (.ok identity),
    .accept .device, .opening 1 { target with path := "/OCPP16/T/K/%441" },
    .directoryAnswers 1 (.ok identity),
    .close 0 .normal,
    .accept .device, .opening 2 { target with path := "/OCPP16/T/K/D%31" },
    .directoryAnswers 2 (.ok identity),
    .advance 5000, .resume 1]

/-- The takeovers of the run and what it comes to. -/
theorem run?_overtakenRun : ∃ last old new, (fresh {}).run? overtakenRun = some last ∧
    last.session? 1 = some old ∧ last.session? 2 = some new ∧
    ((old.variant, old.key, old.link) = (.device, ⟨"T", "D1"⟩, 1) ∧
      (new.variant, new.key, new.link) = (.device, ⟨"T", "D1"⟩, 2)) ∧
    last.boundTo? .device ⟨"T", "D1"⟩ = some 1 ∧ last.isClosed 2 = false := by
  refine ⟨((fresh {}).run? overtakenRun).get (by decide), _, _, rfl, rfl, rfl, ?_, ?_, ?_⟩
  · decide
  · decide
  · decide

theorem newest_bound_iff_overtakenRun : ∃ last old new,
    (fresh {}).run? overtakenRun = some last ∧ last.session? 1 = some old ∧
    last.session? 2 = some new ∧
    (last.boundTo? new.variant new.key = some old.link ↔ Within 9 9 5 11) ∧
    (last.boundTo? new.variant new.key = some new.link ↔ ¬Within 9 9 5 11) := by
  obtain ⟨last, old, new, run, oldHere, newHere, ⟨oldIs, newIs⟩, bound, -⟩ := run?_overtakenRun
  obtain ⟨oldVariant, oldKey, oldLink⟩ : old.variant = .device ∧ old.key = ⟨"T", "D1"⟩ ∧
      old.link = 1 := by simpa using oldIs
  obtain ⟨newVariant, newKey, newLink⟩ : new.variant = .device ∧ new.key = ⟨"T", "D1"⟩ ∧
      new.link = 2 := by simpa using newIs
  have oldTakes : Takes (fresh {}) overtakenRun 1 1 5 11 := ⟨by decide, by decide⟩
  have newTakes : Takes (fresh {}) overtakenRun 2 2 9 9 := ⟨by decide, by decide⟩
  refine ⟨last, old, new, run, oldHere, newHere, ?_⟩
  refine newest_bound_iff run oldTakes newTakes (by decide) oldHere newHere ?_ ?_ ?_ ?_
  · exact ⟨oldVariant.trans newVariant.symm, oldKey.trans newKey.symm⟩
  · rw [oldLink, newLink]
    decide
  · -- The older takeover ends with the last move of the run.
    intro m task k c beyond _ ended
    have within := lt_length_of_endedAt? ended
    rw [show overtakenRun.length = 12 from rfl] at within
    omega
  · rw [newVariant, newKey]
    intro empty
    rw [boundTo?, empty] at bound
    cases bound

/-- The third connection is the newest and stays open, and yet the second one ends up in the
slot. -/
theorem newest_overtaken : ∃ last, (fresh {}).run? overtakenRun = some last ∧
    Takes (fresh {}) overtakenRun 1 1 5 11 ∧ Takes (fresh {}) overtakenRun 2 2 9 9 ∧
    last.isClosed 2 = false ∧ last.boundTo? .device ⟨"T", "D1"⟩ = some 1 := by
  obtain ⟨last, old, new, run, -, -, -, bound, open_⟩ := run?_overtakenRun
  exact ⟨last, run, ⟨by decide, by decide⟩, ⟨by decide, by decide⟩, open_, bound⟩

end StationHub.Hub

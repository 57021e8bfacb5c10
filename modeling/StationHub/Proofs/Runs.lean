import Mathlib.Data.List.Induction

/-!
Runs of anything that moves step by step, `items.foldlM step? s`.

* `run_concat`, `run_split`, `run_induction`: a run in parts.
* `noted`: what is noted of the steps of a run; `noted_append`, `noted_concat`.
* `always`: something holds before every step of a run.
-/

namespace StationHub.Runs

variable {σ μ α : Type} {step? : σ → μ → Option σ} {s mid last : σ}

theorem run_cons (s : σ) (item : μ) (items : List μ) :
    (item :: items).foldlM step? s = (step? s item).bind fun next => items.foldlM step? next := rfl

theorem run_append (s : σ) (earlier later : List μ) :
    (earlier ++ later).foldlM step? s =
      (earlier.foldlM step? s).bind fun mid => later.foldlM step? mid := by
  rw [List.foldlM_append]
  rfl

theorem run_concat {items : List μ} {item : μ} :
    (items ++ [item]).foldlM step? s = some last ↔
      ∃ mid, items.foldlM step? s = some mid ∧ step? mid item = some last := by
  rw [run_append, Option.bind_eq_some_iff]
  simp

/-- A run that is split ran to where it is split. -/
theorem run_split {earlier later : List μ}
    (run : (earlier ++ later).foldlM step? s = some last) :
    ∃ mid, earlier.foldlM step? s = some mid ∧ later.foldlM step? mid = some last := by
  rw [run_append] at run
  exact Option.bind_eq_some_iff.mp run

/-- What holds at the start of a run and is kept by every step holds all along, also of the items
so far. -/
theorem run_induction {P : List μ → σ → Prop}
    (step : ∀ {items : List μ} {mid next : σ} {item : μ}, items.foldlM step? s = some mid →
      P items mid → step? mid item = some next → P (items ++ [item]) next)
    {items : List μ} (start : P [] s) (run : items.foldlM step? s = some last) : P items last := by
  induction items using List.reverseRecOn generalizing last with
  | nil =>
      cases run
      exact start
  | append_singleton items item ih =>
      obtain ⟨mid, run, moved⟩ := run_concat.mp run
      exact step run (ih run) moved

/-- What is noted of the steps of a run, oldest first. -/
def noted (step? : σ → μ → Option σ) (note : σ → μ → Option α) (s : σ) : List μ → List α
  | [] => []
  | item :: rest =>
      (note s item).toList ++
        match step? s item with
        | some next => noted step? note next rest
        | none => []

@[simp] theorem noted_nil (note : σ → μ → Option α) (s : σ) : noted step? note s [] = [] := rfl

theorem noted_append {note : σ → μ → Option α} {earlier : List μ}
    (run : earlier.foldlM step? s = some mid) (later : List μ) :
    noted step? note s (earlier ++ later) =
      noted step? note s earlier ++ noted step? note mid later := by
  induction earlier generalizing s with
  | nil =>
      cases run
      rfl
  | cons item rest ih =>
      rw [run_cons] at run
      obtain ⟨next, moved, run⟩ := Option.bind_eq_some_iff.mp run
      rw [List.cons_append, noted, noted, moved]
      simp only [ih run, List.append_assoc]

theorem noted_concat {note : σ → μ → Option α} {items : List μ}
    (run : items.foldlM step? s = some mid) (item : μ) :
    noted step? note s (items ++ [item]) =
      noted step? note s items ++ (note mid item).toList := by
  rw [noted_append run, noted]
  cases step? mid item <;> simp

/-- `holds` before every step of a run. -/
def always (step? : σ → μ → Option σ) (holds : σ → μ → Bool) (s : σ) : List μ → Bool
  | [] => true
  | item :: rest =>
      holds s item &&
        match step? s item with
        | some next => always step? holds next rest
        | none => true

theorem always_append {holds : σ → μ → Bool} {earlier : List μ}
    (run : earlier.foldlM step? s = some mid) (later : List μ) :
    always step? holds s (earlier ++ later) =
      (always step? holds s earlier && always step? holds mid later) := by
  induction earlier generalizing s with
  | nil =>
      cases run
      rfl
  | cons item rest ih =>
      rw [run_cons] at run
      obtain ⟨next, moved, run⟩ := Option.bind_eq_some_iff.mp run
      rw [List.cons_append, always, always, moved]
      simp only [ih run, Bool.and_assoc]

theorem always_concat {holds : σ → μ → Bool} {items : List μ} {item : μ}
    (run : items.foldlM step? s = some mid)
    (all : always step? holds s (items ++ [item]) = true) :
    always step? holds s items = true ∧ holds mid item = true := by
  rw [always_append run, always, Bool.and_eq_true, Bool.and_eq_true] at all
  exact ⟨all.1, all.2.1⟩

end StationHub.Runs

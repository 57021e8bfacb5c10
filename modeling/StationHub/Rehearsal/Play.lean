/-!
Playing something under a clock that moves only when it is told to. Whatever can happen without time
passing happens first; then the clock jumps to the next moment at which something is due, and so on
until the given time is reached.
-/

namespace StationHub.Rehearsal

/-- How states of a kind are played. -/
structure Play (σ : Type) where
  now : σ → Nat
  /-- The state with its clock at a later time. -/
  atTime : Nat → σ → σ
  /-- The next thing that happens without time passing. -/
  move? : σ → Option σ
  /-- The moments at which something is due. -/
  due : σ → List Nat

namespace Play

variable {σ : Type} (play : Play σ)

/-- Lets things happen until nothing more does, `fuel` of them at most. -/
def settle : Nat → σ → σ
  | 0, s => s
  | fuel + 1, s =>
      match play.move? s with
      | none => s
      | some next => settle fuel next

/-- The next moment, up to `target`, at which something is due. -/
def nextDue? (target : Nat) (s : σ) : Option Nat :=
  ((play.due s).filter fun time => play.now s < time && time ≤ target).min?

/-- Lets time pass until `target`, with at most `stops` moments on the way and at most `fuel` things
at each of them. -/
def advance (fuel target : Nat) : Nat → σ → σ
  | 0, s => play.settle fuel (play.atTime target s)
  | stops + 1, s =>
      match play.nextDue? target s with
      | none => play.settle fuel (play.atTime target s)
      | some time => advance fuel target stops (play.settle fuel (play.atTime time s))

/-- More things than happen at one moment, and more moments than lie within one step, of any play
that is not endless. -/
def plenty : Nat := 1000000

/-- Lets things happen until nothing more does. -/
def rest (s : σ) : σ := play.settle plenty s

/-- Lets `ms` pass. -/
def pass (ms : Nat) (s : σ) : σ := play.advance plenty (play.now s + ms) plenty s

theorem settle_of_still {s : σ} (h : play.move? s = none) (fuel : Nat) :
    play.settle fuel s = s := by
  cases fuel <;> simp [settle, h]

end Play

end StationHub.Rehearsal

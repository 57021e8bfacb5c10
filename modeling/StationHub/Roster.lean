import StationHub.Identity
import StationHub.Table

/-!
The roster of one variant: under each key at most one session, the authoritative one, together with
the connection it is bound to. An entry is removed on behalf of a connection only while it is still
bound to that connection, so that a slot already handed on is left alone.
-/

namespace StationHub

/-- What is registered under a key: a session and the connection it is bound to. -/
structure Slot (σ γ : Type) where
  session : σ
  link : γ
  deriving DecidableEq, Repr

/-- The slots of one variant by key. -/
abbrev Roster (σ γ : Type) := Table Key (Slot σ γ)

namespace Roster

variable {σ γ : Type}

/-- The connection of the session registered under `key`. -/
def boundLink? (key : Key) (roster : Roster σ γ) : Option γ :=
  (Table.get? key roster).map Slot.link

/-- The roster without the entry under `key` if that is bound to `link`, and whether it was. -/
def removeIfBound [DecidableEq γ] (key : Key) (link : γ) (roster : Roster σ γ) :
    Roster σ γ × Bool :=
  if roster.boundLink? key = some link then (Table.erase key roster, true) else (roster, false)

/-- The entries by key, for those who look at all of them. -/
def entries (roster : Roster σ γ) : List (Key × Slot σ γ) := roster

theorem removeIfBound_of_ne [DecidableEq γ] {key : Key} {link : γ} {roster : Roster σ γ}
    (h : roster.boundLink? key ≠ some link) : roster.removeIfBound key link = (roster, false) := by
  simp [removeIfBound, h]

theorem get?_removeIfBound_of_ne [DecidableEq γ] {key other : Key} (h : other ≠ key) (link : γ)
    (roster : Roster σ γ) :
    Table.get? other (roster.removeIfBound key link).1 = Table.get? other roster := by
  unfold removeIfBound
  split
  · exact Table.get?_erase_of_ne h roster
  · rfl

end Roster

end StationHub

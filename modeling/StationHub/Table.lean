/-!
Tables: entries by key in the order in which the keys first came. `put` and `erase` act on one key
and leave every other look-up as it was.
-/

namespace StationHub

/-- Entries by key. -/
abbrev Table (κ ν : Type) := List (κ × ν)

namespace Table

variable {κ ν : Type} [DecidableEq κ]

/-- The entry under `key`. -/
def get? (key : κ) : Table κ ν → Option ν
  | [] => none
  | (other, value) :: rest => if other = key then some value else get? key rest

/-- The table with `value` under `key`, in place of what was there. -/
def put (key : κ) (value : ν) : Table κ ν → Table κ ν
  | [] => [(key, value)]
  | (other, old) :: rest =>
      if other = key then (key, value) :: rest else (other, old) :: put key value rest

/-- The table without an entry under `key`. -/
def erase (key : κ) (table : Table κ ν) : Table κ ν := table.filter fun entry => entry.1 ≠ key

/-- There is an entry under `key`. -/
def has (key : κ) (table : Table κ ν) : Bool := (table.get? key).isSome

@[simp] theorem get?_nil (key : κ) : get? key ([] : Table κ ν) = none := rfl

@[simp] theorem get?_put_self (key : κ) (value : ν) (table : Table κ ν) :
    (table.put key value).get? key = some value := by
  induction table with
  | nil => simp [put, get?]
  | cons entry rest ih =>
    by_cases h : entry.1 = key
    · simp [put, get?, h]
    · simp [put, get?, h, ih]

theorem get?_put_of_ne {key other : κ} (h : other ≠ key) (value : ν) (table : Table κ ν) :
    (table.put key value).get? other = table.get? other := by
  induction table with
  | nil => simp [put, get?, h.symm]
  | cons entry rest ih =>
    by_cases same : entry.1 = key
    · have : entry.1 ≠ other := fun e => h (e ▸ same)
      simp [put, get?, same, h.symm]
    · by_cases here : entry.1 = other
      · simp [put, get?, here, h]
      · simp [put, get?, same, here, ih]

@[simp] theorem get?_erase_self (key : κ) (table : Table κ ν) :
    (table.erase key).get? key = none := by
  induction table with
  | nil => rfl
  | cons entry rest ih =>
    by_cases h : entry.1 = key
    · simpa [erase, get?, h] using ih
    · simp only [erase, List.filter_cons, decide_not] at ih ⊢
      simp [get?, h, ih]

theorem get?_erase_of_ne {key other : κ} (h : other ≠ key) (table : Table κ ν) :
    (table.erase key).get? other = table.get? other := by
  induction table with
  | nil => rfl
  | cons entry rest ih =>
    simp only [erase, decide_not] at ih ⊢
    by_cases same : entry.1 = key
    · simp [get?, same, h.symm, ih]
    · by_cases here : entry.1 = other
      · simp [get?, here, h]
      · simp [get?, same, here, ih]

end Table

end StationHub

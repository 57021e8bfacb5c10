import StationHub.Binary64

/-!
JSON values. A whole number that fits 64 bits is kept exactly; every other number is binary64. The
fields of an object are sorted by name, and a name occurs once.
-/

namespace StationHub

/-- A JSON value. -/
inductive Json where
  | null
  | bool (value : Bool)
  /-- A whole number between `-2 ^ 63` and `2 ^ 64 - 1`. -/
  | int (value : Int)
  /-- Any other finite number. -/
  | real (value : Binary64)
  | str (value : String)
  | arr (items : List Json)
  | obj (fields : List (String × Json))
  deriving Repr, Inhabited

namespace Json

mutual

/-- Equality of values, field by field. -/
def beq : Json → Json → Bool
  | null, null => true
  | bool a, bool b => a == b
  | int a, int b => a == b
  | real a, real b => a == b || a.isZero && b.isZero
  | str a, str b => a == b
  | arr a, arr b => beqList a b
  | obj a, obj b => beqFields a b
  | _, _ => false

def beqList : List Json → List Json → Bool
  | [], [] => true
  | a :: as, b :: bs => beq a b && beqList as bs
  | _, _ => false

def beqFields : List (String × Json) → List (String × Json) → Bool
  | [], [] => true
  | (k, a) :: as, (l, b) :: bs => k == l && beq a b && beqFields as bs
  | _, _ => false

end

instance : BEq Json := ⟨beq⟩

/-! ### Reading values -/

/-- The whole number that is not negative, if the value is one. -/
def natural? : Json → Option Nat
  | int (.ofNat n) => some n
  | _ => none

def string? : Json → Option String
  | str value => some value
  | _ => none

def isNull : Json → Bool
  | null => true
  | _ => false

/-- The empty object. -/
def emptyObject : Json := obj []

/-! ### Objects -/

/-- `fields` with `name` set to `value`, in the order of names; a field of that name is
replaced. -/
def insertField (name : String) (value : Json) : List (String × Json) → List (String × Json)
  | [] => [(name, value)]
  | (other, old) :: rest =>
      if name = other then (name, value) :: rest
      else if name < other then (name, value) :: (other, old) :: rest
      else (other, old) :: insertField name value rest

/-- The object with the given fields; of fields with the same name the last one counts. -/
def ofFields (fields : List (String × Json)) : Json :=
  obj (fields.foldl (fun sorted field => insertField field.1 field.2 sorted) [])

/-- The value of the field `name`, if the value is an object with that field. -/
def field? (name : String) : Json → Option Json
  | obj fields => fields.lookup name
  | _ => none

/-! ### Nesting -/

mutual

/-- How many arrays and objects are open at the deepest point of the value. -/
def depth : Json → Nat
  | arr items => depthList items + 1
  | obj fields => depthFields fields + 1
  | _ => 0

def depthList : List Json → Nat
  | [] => 0
  | item :: rest => max (depth item) (depthList rest)

def depthFields : List (String × Json) → Nat
  | [] => 0
  | (_, value) :: rest => max (depth value) (depthFields rest)

end

end Json

end StationHub

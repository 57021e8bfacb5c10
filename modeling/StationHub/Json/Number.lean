import StationHub.Json

/-!
The values of JSON number literals. A literal without fraction and exponent is a whole number as
long as it fits 64 bits. Any other is scaled from the significand that its leading digits form as
far as they fit 64 bits: the significand is rounded to binary64 once, and each power of ten that it
is multiplied with or divided by rounds again.
-/

namespace StationHub.Json

/-- The parts of a number literal, digits by value. -/
structure NumberLiteral where
  negative : Bool
  whole : List Nat
  fraction : Option (List Nat)
  /-- The sign of the exponent (`true` for negative) and its digits. -/
  exponent : Option (Bool × List Nat)
  deriving Repr

/-- The number that decimal digits stand for. -/
def ofDigits (digits : List Nat) : Nat := digits.foldl (fun n d => 10 * n + d) 0

/-- The significand `start` extended by `digits` while it stays below `2 ^ 64`, and the digits
from the first that does not fit on. -/
def extendSignificand (start : Nat) : List Nat → Nat × List Nat
  | [] => (start, [])
  | d :: rest =>
      if 10 * start + d < Nat.pow 2 64 then extendSignificand (10 * start + d) rest
      else (start, d :: rest)

/-- The greatest power of ten that a number is scaled by at once. -/
def greatestScale : Nat := 308

/-- `x` divided by `10 ^ n`, in steps of at most the greatest scale, until nothing is left of it;
`steps` bounds their number. -/
def divideBy (x : Binary64) (n : Nat) : (steps : Nat) → Option Binary64
  | 0 => some x
  | steps + 1 => do
      if n ≤ greatestScale then x.div? (← Binary64.powerOfTen? n)
      else if x.isZero then return x
      else divideBy (← x.div? (← Binary64.powerOfTen? greatestScale)) (n - greatestScale) steps

/-- `± significand · 10 ^ exponent` as a number, unless it is too large. A significand of 64 bits
vanishes within three steps of division. -/
def scale? (negative : Bool) (significand : Nat) (exponent : Int) : Option Binary64 := do
  let x ← Binary64.ofNat? negative significand
  if exponent < 0 then divideBy x exponent.natAbs 4
  else if x.isZero then return x
  else if exponent.toNat ≤ greatestScale then x.mul? (← Binary64.powerOfTen? exponent.toNat)
  else none

/-- The whole number `± n`, or the number nearest to it if it does not fit 64 bits. Minus zero is
a number of its own. -/
def ofWhole? (negative : Bool) (n : Nat) : Option Json :=
  if negative then
    if n = 0 ∨ Nat.pow 2 63 < n then (Binary64.ofNat? true n).map real
    else some (int (-(n : Int)))
  else some (int n)

/-- The value of a literal; nothing if it is too large for a number. -/
def NumberLiteral.value? (literal : NumberLiteral) : Option Json :=
  let (whole, dropped) := extendSignificand 0 literal.whole
  let wholeExponent : Int := dropped.length
  match literal.fraction, literal.exponent with
  | none, none =>
      if dropped.isEmpty then ofWhole? literal.negative whole
      else (scale? literal.negative whole wholeExponent).map real
  | fraction, exponent =>
      let digits := fraction.getD []
      let (significand, unread) := extendSignificand whole digits
      let shift : Int := wholeExponent - (digits.length - unread.length : Nat)
      let power : Int :=
        match exponent with
        | none => 0
        | some (negative, digits) => if negative then -(ofDigits digits : Int) else ofDigits digits
      (scale? literal.negative significand (shift + power)).map real

/-! ### Samples -/

example : (NumberLiteral.value? ⟨true, [0], none, none⟩).map (· == real (Binary64.zero true))
    = some true := by decide +kernel
example : (NumberLiteral.value? ⟨false, [1], none, some (false, [4, 0, 0])⟩).isNone = true := by
  decide +kernel

end StationHub.Json

/-!
Binary floating-point numbers of 64 bits as exact pairs of whole numbers. `nearest` rounds any
positive quotient to the closest such number, a tie going to the even significand; everything
that computes with the numbers is a quotient followed by that rounding.
-/

namespace StationHub

/-- The number `± significand · 2 ^ exponent`. Those in normal form have a significand below
`2 ^ 53` and the least exponent from `-1074` on that allows it. -/
structure Binary64 where
  negative : Bool
  significand : Nat
  exponent : Int
  deriving DecidableEq, Repr

namespace Binary64

/-- The least exponent, that of the subnormal numbers. -/
def leastExponent : Int := -1074

/-- The greatest exponent of a finite number. -/
def greatestExponent : Int := 971

/-- Zero with the given sign. -/
def zero (negative : Bool) : Binary64 := ⟨negative, 0, leastExponent⟩

def isZero (x : Binary64) : Bool := x.significand == 0

/-- `n · 2 ^ e` as a quotient of natural numbers. -/
def scaled (n : Nat) (e : Int) : Nat × Nat :=
  if 0 ≤ e then (n * Nat.pow 2 e.toNat, 1) else (n, Nat.pow 2 (-e).toNat)

/-- `num / den` to the nearest whole number, a half going to the even neighbour. -/
def roundHalfEven (num den : Nat) : Nat :=
  let whole := num / den
  let rest := 2 * (num % den)
  if rest < den then whole
  else if den < rest then whole + 1
  else if whole % 2 = 0 then whole
  else whole + 1

/-- The exponent at which the positive quotient `num / den` has a significand of 53 bits, or
the least exponent where that is greater. -/
def exponentOf (num den : Nat) : Int :=
  let guess : Int := (num.log2 : Int) - den.log2 - 52
  let (a, b) := scaled den guess
  let tight := if num * b < Nat.pow 2 52 * a then guess - 1 else guess
  max leastExponent tight

/-- The finite number nearest to `num / den`, with the given sign; nothing if it would exceed
the greatest finite number. -/
def nearest (negative : Bool) (num den : Nat) : Option Binary64 :=
  if num = 0 then some (zero negative)
  else
    let e := exponentOf num den
    let (a, b) := scaled den e
    let rounded := roundHalfEven (num * b) a
    let x : Binary64 :=
      if rounded = Nat.pow 2 53 then ⟨negative, Nat.pow 2 52, e + 1⟩ else ⟨negative, rounded, e⟩
    if greatestExponent < x.exponent then none else some x

/-- The number nearest to the natural number `n`. -/
def ofNat? (negative : Bool) (n : Nat) : Option Binary64 := nearest negative n 1

/-- The magnitude of `x` as a quotient of natural numbers. -/
def quotient (x : Binary64) : Nat × Nat := scaled x.significand x.exponent

/-- The number nearest to `x · y`, with the sign of `x`. -/
def mul? (x y : Binary64) : Option Binary64 :=
  let (a, b) := x.quotient
  let (c, d) := y.quotient
  nearest x.negative (a * c) (b * d)

/-- The number nearest to `x / y`, with the sign of `x`. -/
def div? (x y : Binary64) : Option Binary64 :=
  let (a, b) := x.quotient
  let (c, d) := y.quotient
  nearest x.negative (a * d) (b * c)

/-- The number nearest to `10 ^ n`. -/
def powerOfTen? (n : Nat) : Option Binary64 := ofNat? false (Nat.pow 10 n)

theorem nearest_zero (negative : Bool) (den : Nat) :
    nearest negative 0 den = some (zero negative) := rfl

/-- Only exponents of finite numbers arise. -/
theorem exponent_le_of_nearest {negative : Bool} {num den : Nat} {x : Binary64}
    (h : nearest negative num den = some x) : x.exponent ≤ greatestExponent := by
  unfold nearest at h
  split at h
  · cases h; simp [zero, leastExponent, greatestExponent]
  · simp only [Option.ite_none_left_eq_some, Option.some.injEq] at h
    obtain ⟨bound, rfl⟩ := h
    omega

/-! ### Samples -/

example : ofNat? false 1 = some ⟨false, 2 ^ 52, -52⟩ := by decide +kernel
example : nearest false 1 10 = some ⟨false, 7205759403792794, -56⟩ := by decide +kernel
example : nearest false (10 ^ 309) 1 = none := by decide +kernel

end Binary64

end StationHub

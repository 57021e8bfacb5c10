import StationHub.Binary64

/-!
The shortest decimal text of a binary floating-point number. A decimal reads back as `x` exactly
if it lies in the interval of the reals nearest to `x`; `shortest` takes the coarsest decimal grid
with a point in that interval, and of two points the nearer. `render` lays the digits out.
-/

namespace StationHub.Binary64

/-- The decimal `digits · 10 ^ exponent`. -/
structure Decimal where
  digits : Nat
  exponent : Int
  deriving DecidableEq, Repr

/-- The reals that round to one number, as quarters of its last place: the ends `low` and `high`
and the number itself, in units of `2 ^ (exponent - 2)`. -/
structure Interval where
  low : Nat
  value : Nat
  high : Nat
  /-- The ends round to `x` themselves, as its significand is even. -/
  closed : Bool

/-- The reals that round to the magnitude of `x`. Below a power of two the numbers lie twice as
close together, unless they are subnormal. -/
def interval (x : Binary64) : Interval :=
  let m := x.significand
  let below := if m = Nat.pow 2 52 ∧ leastExponent < x.exponent then 1 else 2
  { low := 4 * m - below, value := 4 * m, high := 4 * m + 2, closed := m % 2 == 0 }

/-- `num / den` lies in the interval, measured in its own unit. -/
def Interval.holds (i : Interval) (num den : Nat) : Bool :=
  if i.closed then i.low * den ≤ num && num ≤ i.high * den
  else i.low * den < num && num < i.high * den

/-- The point of the grid of multiples of `10 ^ e` in the interval of `x` that is nearest to `x`;
of two equally near ones the even multiple. -/
def onGrid? (x : Binary64) (e : Int) : Option Nat :=
  let i := x.interval
  -- `unit / base` is `2 ^ (exponent - 2) / 10 ^ e`
  let (twos, halves) := scaled 1 (x.exponent - 2)
  let (unit, base) :=
    if 0 ≤ e then (twos, halves * Nat.pow 10 e.toNat) else (twos * Nat.pow 10 (-e).toNat, halves)
  let down := i.value * unit / base
  let up := down + 1
  let downFits := i.holds (down * base) unit
  let upFits := i.holds (up * base) unit
  let toDown := i.value * unit - down * base
  let toUp := up * base - i.value * unit
  match downFits, upFits with
  | true, true =>
      some (if toDown < toUp then down else if toUp < toDown then up
        else if down % 2 = 0 then down else up)
  | true, false => some down
  | false, true => some up
  | false, false => none

/-- The number of decimal digits of `n`. -/
def digitCount (n : Nat) : Nat := (Nat.toDigits 10 n).length

/-- The exponent of the first decimal digit of the magnitude of `x`, which is not zero. -/
def leadingExponent (x : Binary64) : Int :=
  let (num, den) := x.quotient
  if den ≤ num then (digitCount (num / den) : Int) - 1
  else
    -- the first digit of `num / den` is the first place where `num · 10 ^ k` reaches `den`
    let k := digitCount den - digitCount num
    if den ≤ num * Nat.pow 10 k then -(k : Int) else -((k : Int) + 1)

/-- `d` without the zeros at the end of its digits; `fuel` bounds their number. -/
def Decimal.stripped (fuel : Nat) (d : Decimal) : Decimal :=
  match fuel with
  | 0 => d
  | fuel + 1 =>
      if d.digits ≠ 0 ∧ d.digits % 10 = 0 then
        Decimal.stripped fuel ⟨d.digits / 10, d.exponent + 1⟩
      else d

/-- The shortest decimal that reads back as the magnitude of `x`, which is not zero. Seventeen
digits always suffice. -/
def shortest (x : Binary64) : Decimal :=
  let first := x.leadingExponent
  let grids := (List.range 18).map fun (n : Nat) => first - (n : Int)
  match grids.findSome? fun e => (onGrid? x e).map fun digits => (⟨digits, e⟩ : Decimal) with
  | some d => d.stripped 20
  | none => ⟨0, 0⟩

/-! ### Layout

The first digit of a number between `10 ^ -5` and `10 ^ 16` tells that it is written positionally,
with `.0` when it is whole; any other has one digit before the point and an exponent, signed. -/

/-- The least exponent of a first digit that is written positionally. -/
def leastPositional : Int := -5

/-- The exponent of a first digit from which on numbers carry an exponent. -/
def positionalEnd : Int := 16

/-- The digits of `d` as `0.000ddd`, `dd.dd` or `ddd000.0`; `first` is the exponent of its first
digit. -/
def positional (digits : List Char) (first : Int) : List Char :=
  if first < 0 then
    ['0', '.'] ++ List.replicate (-first - 1).toNat '0' ++ digits
  else
    let wholeLength := first.toNat + 1
    let whole := digits.take wholeLength ++ List.replicate (wholeLength - digits.length) '0'
    let fraction := digits.drop wholeLength
    whole ++ ['.'] ++ (if fraction.isEmpty then ['0'] else fraction)

/-- The digits of `d` as `d.ddde+nn`. -/
def scientific (digits : List Char) (first : Int) : List Char :=
  let mantissa :=
    match digits with
    | d :: rest => if rest.isEmpty then [d] else d :: '.' :: rest
    | [] => ['0']
  let sign := if first < 0 then '-' else '+'
  mantissa ++ ['e', sign] ++ (toString first.natAbs).toList

/-- The text of `x`: the shortest that reads back. -/
def render (x : Binary64) : List Char :=
  let magnitude :=
    if x.isZero then ['0', '.', '0']
    else
      let d := x.shortest
      let digits := Nat.toDigits 10 d.digits
      let first := d.exponent + digits.length - 1
      if leastPositional ≤ first ∧ first < positionalEnd then positional digits first
      else scientific digits first
  if x.negative then '-' :: magnitude else magnitude

/-! ### Samples -/

example : (nearest false 1 10).map render = some "0.1".toList := by decide +kernel
example : (nearest true 1500 1).map render = some "-1500.0".toList := by decide +kernel
example : (nearest false (10 ^ 16) 1).map render = some "1e+16".toList := by decide +kernel
example : render ⟨false, 1, -1074⟩ = "5e-324".toList := by decide +kernel

end StationHub.Binary64

import ShapeMatch.Number.Binary64

/-! The fewest decimal digits that read back as a given floating point number, and among
those the nearest to it. -/
namespace ShapeMatch.Binary64

/-- The open or closed interval of reals that round to a number. -/
structure Interval where
  low : Rat
  high : Rat
  closed : Bool

def Interval.contains (i : Interval) (x : Rat) : Bool :=
  if i.closed then i.low ≤ x && x ≤ i.high else i.low < x && x < i.high

/-- The reals that round to `m * 2 ^ e`. The gap below a power of two is half the gap above
it; ties go to an even mantissa. -/
def roundingInterval (m : Nat) (e : Int) : Interval where
  low :=
    if 2 * m = mantissaBound && minExponent < e then magnitude (4 * m - 1) (e - 2)
    else magnitude (2 * m - 1) (e - 1)
  high := magnitude (2 * m + 1) (e - 1)
  closed := m % 2 == 0

/-- The power of ten just above a positive number: `10 ^ (k - 1) ≤ x < 10 ^ k`. -/
def decimalExponent (x : Rat) : Int :=
  if 1 ≤ x then (Nat.toDigits 10 x.floor.natAbs).length
  else
    let t : Int := (Nat.toDigits 10 (1 / x).floor.natAbs).length
    if x = (10 : Rat) ^ (1 - t) then 2 - t else 1 - t

/-- Digits `d`, as a whole number, with the power of ten they count. -/
structure Digits where
  digits : Nat
  unit : Int
  deriving DecidableEq

def Digits.value (d : Digits) : Rat := (d.digits : Rat) * (10 : Rat) ^ d.unit

/-- Of the neighbours of `x` on the grid of multiples of `10 ^ unit`, the nearest that lies
in the interval; of two at the same distance the even one. -/
def onGrid? (i : Interval) (x : Rat) (unit : Int) : Option Digits :=
  let below : Digits := ⟨(x / (10 : Rat) ^ unit).floor.natAbs, unit⟩
  let above : Digits := ⟨below.digits + 1, unit⟩
  let down := x - below.value
  let up := above.value - x
  match i.contains below.value, i.contains above.value with
  | true, true =>
    if down < up || (down = up && below.digits % 2 = 0) then some below else some above
  | true, false => some below
  | false, true => some above
  | false, false => none

/-- The digits for `m * 2 ^ e`: the first grid, from coarse to fine, that has a point in the
rounding interval. Seventeen digits always suffice. -/
def shortest (m : Nat) (e : Int) : Digits :=
  let x := magnitude m e
  let k := decimalExponent x
  let interval := roundingInterval m e
  ((List.range 17).findSome? fun n => onGrid? interval x (k - (n + 1 : Nat))).getD ⟨m, e⟩

end ShapeMatch.Binary64

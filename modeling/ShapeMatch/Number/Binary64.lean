/-! Binary floating point numbers of double precision, held exactly: a finite one is its
sign, a whole mantissa and a power of two. Main definition: `ofDecimal`, the nearest number
to a decimal, with ties to the even mantissa. -/
namespace ShapeMatch

/-- A double precision number. `finite s m e` is `m * 2 ^ e`, negated when `s` holds; a zero
keeps its sign. -/
inductive Binary64 where
  | nan
  | infinite (negative : Bool)
  | finite (negative : Bool) (mantissa : Nat) (exponent : Int)
  deriving DecidableEq, Inhabited

namespace Binary64

/-- The least exponent of a finite number. -/
def minExponent : Int := -1074

/-- The greatest exponent of a finite number. -/
def maxExponent : Int := 971

/-- Mantissas stay below this bound. -/
def mantissaBound : Nat := Nat.pow 2 53

/-- `num / den` rounded to a whole number, a half to the even neighbour. -/
def roundDiv (num den : Nat) : Nat :=
  let q := num / den
  let twice := 2 * (num % den)
  if twice < den then q
  else if twice = den then q + q % 2
  else q + 1

/-- The exponent at which `num / den` has a mantissa of full width, raised to the least one
for very small quotients. -/
def exponentFor (num den : Nat) : Int :=
  let guess : Int := (num.log2 : Int) - den.log2 - 53
  -- the quotient is between `2 ^ (guess + 52)` and `2 ^ (guess + 54)`
  let fits : Bool :=
    if guess < 0 then num * Nat.pow 2 guess.natAbs < mantissaBound * den
    else num < mantissaBound * (den * Nat.pow 2 guess.natAbs)
  max minExponent (if fits then guess else guess + 1)

/-- The number nearest to `num / den`. -/
def ofRatio (negative : Bool) (num den : Nat) : Binary64 :=
  if num = 0 then .finite negative 0 minExponent
  else
    let e := exponentFor num den
    let scale := Nat.pow 2 e.natAbs
    let m := if e < 0 then roundDiv (num * scale) den else roundDiv num (den * scale)
    let (m, e) := if m = mantissaBound then (mantissaBound / 2, e + 1) else (m, e)
    if e > maxExponent then .infinite negative else .finite negative m e

/-- The number nearest to `digits * 10 ^ exponent`. Beyond the exponents at which every
decimal overflows or vanishes, the size of the power does not matter. -/
def ofDecimal (negative : Bool) (digits : Nat) (exponent : Int) : Binary64 :=
  let magnitude := exponent + (Nat.toDigits 10 digits).length
  if digits = 0 || magnitude < -400 then .finite negative 0 minExponent
  else if magnitude > 400 then .infinite negative
  else if exponent < 0 then ofRatio negative digits (Nat.pow 10 exponent.natAbs)
  else ofRatio negative (digits * Nat.pow 10 exponent.natAbs) 1

/-- The size of a finite number. -/
def magnitude (mantissa : Nat) (exponent : Int) : Rat := (mantissa : Rat) * (2 : Rat) ^ exponent

end Binary64

end ShapeMatch

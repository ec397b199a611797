import ShapeMatch.Number.Binary64

/-! The number that a numeric value stands for, without rounding. Two values are equal as
numbers when they stand for the same one; the undefined number equals none. -/
namespace ShapeMatch

/-- A number in its one form, so that equal numbers are the same. -/
inductive Exact where
  | nan
  | infinite (negative : Bool)
  | rational (q : Rat)
  /-- a decimal whose exponent is beyond all others, `digits * 10 ^ exponent`, where the
  digits end in no zero -/
  | scaled (negative : Bool) (digits : Nat) (exponent : Int)
  deriving DecidableEq, Inhabited

namespace Exact

def ofInt (n : Int) : Exact := .rational n

def ofBool (b : Bool) : Exact := .ofInt (if b then 1 else 0)

/-- What a floating point number stands for; both zeros stand for zero. -/
def ofBinary64 : Binary64 → Exact
  | .nan => .nan
  | .infinite negative => .infinite negative
  | .finite negative m e =>
    .rational (if negative then -Binary64.magnitude m e else Binary64.magnitude m e)

/-- Equality of numbers. -/
def equal (a b : Exact) : Bool := decide (a = b ∧ a ≠ .nan)

def isPositive : Exact → Bool
  | .nan => false
  | .infinite negative => !negative
  | .rational q => 0 < q
  | .scaled negative .. => !negative

def isZero (a : Exact) : Bool := a == .rational 0

end Exact

end ShapeMatch

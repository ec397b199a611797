import ShapeMatch.Number.Exact
import ShapeMatch.Number.Numeral

/-! Decimal numbers that remember how many digits they were written with. -/
namespace ShapeMatch

/-- A decimal number: a coefficient times a power of ten, or one of the special values. The
undefined number has a sign and a payload, and objects to being compared if it signals. -/
inductive Decimal where
  | finite (negative : Bool) (coefficient : Nat) (exponent : Int)
  | infinite (negative : Bool)
  | nan (negative signaling : Bool) (payload : Nat)
  deriving DecidableEq, Inhabited

namespace Decimal

/-- Greater exponents, and those below its negative, are not multiplied out. No other kind
of number comes near their sizes. -/
def widestPower : Nat := 100000

def exact : Decimal → Exact
  | .finite negative c e =>
    let (digits, zeros) := Numeral.trimZeros (c.log2 + 1) c
    let power := e + zeros
    if c = 0 then .rational 0
    else if widestPower < power.natAbs then .scaled negative digits power
    else
      let size : Rat := (digits : Rat) * (10 : Rat) ^ power
      .rational (if negative then -size else size)
  | .infinite negative => .infinite negative
  | .nan .. => .nan

def isSignaling : Decimal → Bool
  | .nan _ signaling _ => signaling
  | _ => false

/-- The text of a size. All digits of the coefficient are written; the exponent form is for
positive exponents and for more than six places between the point and the first digit. -/
def size (coefficient : Nat) (exponent : Int) : List Char :=
  let digits := Nat.toDigits 10 coefficient
  let point : Int := digits.length + exponent
  if exponent ≤ 0 && -6 ≤ point - 1 then
    if exponent = 0 then digits
    else if point ≤ 0 then '0' :: '.' :: List.replicate point.natAbs '0' ++ digits
    else digits.take point.natAbs ++ '.' :: digits.drop point.natAbs
  else
    let fraction := if digits.length ≤ 1 then [] else '.' :: digits.drop 1
    let power := point - 1
    digits.take 1 ++ fraction ++ 'E' :: (if power < 0 then '-' else '+') ::
      Nat.toDigits 10 power.natAbs

/-- The text of a number without its sign. -/
def unsigned : Decimal → List Char
  | .finite _ c e => size c e
  | .infinite _ => "Infinity".toList
  | .nan _ signaling payload =>
    (if signaling then "sNaN" else "NaN").toList ++
      (if payload = 0 then [] else Nat.toDigits 10 payload)

def isNegative : Decimal → Bool
  | .finite negative .. | .infinite negative | .nan negative .. => negative

def text (d : Decimal) : String :=
  .ofList (if d.isNegative then '-' :: d.unsigned else d.unsigned)

/-- Why a text is no decimal. -/
inductive Problem where
  | malformed
  /-- the exponent is out of range -/
  | outOfRange
  deriving DecidableEq

/-- The greatest power of ten that a leading digit may count. -/
def maxPower : Int := 999999999999999999

/-- The least power of ten that a last digit may count. -/
def minPower : Int := -1999999999999999997

/-- The special value with a name, in small letters. Digits after the name of an undefined
number are its payload. -/
def special? (negative : Bool) (name : List Char) : Option Decimal :=
  if name = "inf".toList || name = "infinity".toList then some (.infinite negative)
  else
    let signaling := name.head? = some 's'
    let body := if signaling then name.drop 1 else name
    let payload := body.drop 3
    if body.take 3 = "nan".toList && payload.all Char.isDigit then
      some (.nan negative signaling (Numeral.digitsValue payload))
    else none

/-- Reads a decimal. Underscores count for nothing, wherever they stand. -/
def read (s : String) : Except Problem Decimal :=
  let trimmed := Text.trimmed (fun c => Text.isBlank c || Text.isDivider c) s.toList
  let (negative, body) := Numeral.takeSign ((trimmed.filter (· ≠ '_')).map Numeral.plainChar)
  match Numeral.read? body with
  | some (digits, exponent) =>
    if minPower ≤ exponent && exponent + (Nat.toDigits 10 digits).length - 1 ≤ maxPower then
      .ok (.finite negative digits exponent)
    else .error .outOfRange
  | none => (special? negative (body.map Char.toLower)).elim (.error .malformed) .ok

end Decimal

end ShapeMatch

import ShapeMatch.Number.Exact
import ShapeMatch.Number.Numeral

/-! Whole numbers as records read them: loosely written texts, and numbers of other types
that are whole. -/
namespace ShapeMatch.WholeNumber

/-- Why there is no whole number. -/
inductive Problem where
  | otherKind
  | unreadable
  | tooLarge
  | notWhole
  | notFinite
  deriving DecidableEq

def Problem.message : Problem → String
  | .otherKind => "Input should be a valid integer"
  | .unreadable => "Input should be a valid integer, unable to parse string as an integer"
  | .tooLarge => "Unable to parse input string as an integer, exceeded maximum size"
  | .notWhole => "Input should be a valid integer, got a number with a fractional part"
  | .notFinite => "Input should be a finite number"

/-- Whether a character can begin a number that has no zeros in front: a digit, or a minus. -/
def isStart (c : Char) : Bool := c = '-' || ('1' ≤ c && c ≤ '9')

/-- A text after a zero, less the zeros and underscores that it starts with. The last of
them, which is `last` so far, is kept where nothing or a point comes next. -/
def afterZero? (last : Char) : List Char → Option (List Char)
  | [] => some [last]
  | c :: rest =>
    if c = '0' || c = '_' then afterZero? c rest
    else if c = '.' then some (last :: c :: rest)
    else if isStart c then some (c :: rest)
    else none

/-- A text less the zeros in front. A minus may follow these. -/
def withoutZeros? : List Char → Option (List Char)
  | [] => none
  | c :: rest =>
    if c = '0' then afterZero? c rest else if isStart c then some (c :: rest) else none

/-- A text less a point with zeros, at least one, to its end. -/
def withoutPlaces (cs : List Char) : List Char :=
  let whole := cs.takeWhile (· ≠ '.')
  let places := cs.drop (whole.length + 1)
  if !places.isEmpty && places.all (· = '0') then whole else cs

/-- Whether two underscores stand side by side. -/
def hasDoubleUnderscore : List Char → Bool
  | '_' :: '_' :: _ => true
  | _ :: rest => hasDoubleUnderscore rest
  | [] => false

/-- A text less its underscores, if they are single and inside it. -/
def withoutUnderscores (cs : List Char) : List Char :=
  if cs.head? = some '_' || cs.getLast? = some '_' || hasDoubleUnderscore cs then cs
  else cs.filter (· ≠ '_')

/-- The text of a whole number in its bare form, which is a minus or nothing and digits. -/
def bare? (cs : List Char) : Option (List Char) :=
  match Text.trimmed Text.isBlank cs with
  | '+' :: '-' :: _ | '-' :: '-' :: _ => none
  | '+' :: rest => (withoutZeros? rest).map (withoutUnderscores ∘ withoutPlaces)
  | '-' :: rest =>
    (withoutZeros? rest).map fun size => '-' :: withoutUnderscores (withoutPlaces size)
  | rest => (withoutZeros? rest).map (withoutUnderscores ∘ withoutPlaces)

/-- A minus at the start, and the text after it. -/
def takeMinus : List Char → Bool × List Char
  | '-' :: rest => (true, rest)
  | rest => (false, rest)

/-- Whether a text starts with too many digits for a number. -/
def isTooLong (cs : List Char) : Bool :=
  let digits := (takeMinus cs).2.takeWhile Char.isDigit
  digits.head? ≠ some '0' && digits.length > Numeral.maxDigits

/-- Reads the bare form. -/
def ofBare (cs : List Char) : Except Problem Int :=
  let (negative, digits) := takeMinus cs
  if digits.isEmpty || !digits.all Char.isDigit || (digits.head? = some '0' && digits ≠ ['0'])
      || digits.length > Numeral.maxDigits
  then .error .unreadable
  else
    let size : Int := Numeral.digitsValue digits
    .ok (if negative then -size else size)

/-- Reads a text. Blanks around the number, a sign, zeros in front of it, underscores in it,
and a point with zeros after it are allowed. A text that starts with too many digits is told
apart as it stands; one that has them only in its bare form is merely unreadable. -/
def ofText (cs : List Char) : Except Problem Int :=
  if isTooLong cs then .error .tooLarge
  else (bare? cs).elim (.error .unreadable) ofBare

/-- The whole number that a number is. -/
def ofExact : Exact → Except Problem Int
  | .rational q => if q.den = 1 then .ok q.num else .error .notWhole
  | .scaled negative digits exponent =>
    if exponent < 0 then .error .notWhole
    else
      let size : Int := digits * Nat.pow 10 exponent.natAbs
      .ok (if negative then -size else size)
  | _ => .error .notFinite

/-- The whole number that a floating point number is, if it is within range. -/
def ofBinary64 (x : Binary64) : Except Problem Int :=
  (ofExact (.ofBinary64 x)).bind fun n =>
    if n.natAbs < Nat.pow 2 63 then .ok n else .error .tooLarge

end ShapeMatch.WholeNumber

import ShapeMatch.Text.Blank
import ShapeMatch.Text.Digit

/-! Reading decimal numerals: digits, an optional point and an optional exponent. -/
namespace ShapeMatch.Numeral

/-- Whole numbers of more digits are neither read nor written. -/
def maxDigits : Nat := 4300

/-- Why a text is no whole number. -/
inductive Problem where
  | malformed
  | tooLong (digits : Nat)
  deriving DecidableEq

/-- The number that decimal digits stand for. -/
def digitsValue (digits : List Char) : Nat :=
  digits.foldl (fun n c => 10 * n + (c.toNat - '0'.toNat)) 0

/-- A number less its trailing zeros, at most `fuel` of them, and how many there were. -/
def trimZeros : Nat → Nat → Nat × Nat
  | 0, n => (n, 0)
  | fuel + 1, n =>
    if n ≠ 0 && n % 10 = 0 then
      let (m, count) := trimZeros fuel (n / 10)
      (m, count + 1)
    else (n, 0)

/-- Splits a sign off: whether it is a minus, and the text after it. -/
def takeSign : List Char → Bool × List Char
  | '-' :: rest => (true, rest)
  | '+' :: rest => (false, rest)
  | rest => (false, rest)

/-- A character among the first 128 for one that means the same in a numeral; a question
mark if there is none. -/
def plainChar (c : Char) : Char :=
  if c.toNat < 0x80 then c
  else if Text.isBlank c then ' '
  else
    match Text.digit? c with
    | some d => Char.ofNat ('0'.toNat + d)
    | none => '?'

/-- A numeral in plain characters, without the blanks at its ends. -/
def plain (s : String) : List Char := Text.trimmed Text.isPlainBlank (s.toList.map plainChar)

/-- A text without its underscores, each of which must stand between two digits;
`afterDigit` tells whether the text follows one. -/
def ungroupedAfter? (afterDigit : Bool) : List Char → Option (List Char)
  | [] => some []
  | '_' :: c :: rest =>
    if afterDigit && c.isDigit then (ungroupedAfter? true rest).map (c :: ·) else none
  | c :: rest => if c = '_' then none else (ungroupedAfter? c.isDigit rest).map (c :: ·)

/-- A text without the underscores that group its digits. -/
def ungrouped? (cs : List Char) : Option (List Char) := ungroupedAfter? false cs

/-- Reads an unsigned numeral as a whole number of powers of ten, one for each digit. -/
def read? (cs : List Char) : Option (Nat × Int) :=
  let whole := cs.takeWhile Char.isDigit
  let (fraction, rest) := match cs.dropWhile Char.isDigit with
    | '.' :: rest => (rest.takeWhile Char.isDigit, rest.dropWhile Char.isDigit)
    | rest => ([], rest)
  if whole.isEmpty && fraction.isEmpty then none
  else
    let digits := digitsValue (whole ++ fraction)
    match rest with
    | [] => some (digits, -fraction.length)
    | mark :: rest =>
      let (negative, power) := takeSign rest
      if (mark = 'e' || mark = 'E') && !power.isEmpty && power.all Char.isDigit then
        let size : Int := digitsValue power
        some (digits, (if negative then -size else size) - fraction.length)
      else none

/-- Reads a whole number: a sign and digits, which underscores may group. Too many digits
count before anything that follows them. -/
def readWhole (s : String) : Except Problem Int :=
  let (negative, body) := takeSign (plain s)
  let run := body.takeWhile fun c => c.isDigit || c = '_'
  match ungrouped? run with
  | none | some [] => .error .malformed
  | some digits =>
    if digits.length > maxDigits then .error (.tooLong digits.length)
    else if run.length < body.length then .error .malformed
    else
      let size : Int := digitsValue digits
      .ok (if negative then -size else size)

end ShapeMatch.Numeral

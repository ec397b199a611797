import ShapeMatch.Number.Numeral
import ShapeMatch.Number.Shortest

/-! The text of floating point numbers, read and written. A number is written with the
fewest digits that read back, in positional form for moderate sizes and with an exponent
outside them. -/
namespace ShapeMatch.Binary64

/-- How numbers are laid out. -/
structure Layout where
  /-- the least power of ten of a leading digit that is written in positional form -/
  positionalFrom : Int
  /-- the first power of ten of a leading digit that is written with an exponent -/
  positionalBelow : Int
  /-- whether a whole number in positional form ends in `.0` -/
  wholeTail : Bool
  /-- the least number of digits in an exponent -/
  exponentDigits : Nat

/-- The usual layout: positional from `0.0001` to below `10 ^ 16`, whole numbers end in `.0`,
an exponent has its sign and two digits. -/
def usual : Layout := ⟨-4, 16, true, 2⟩

/-- The layout inside a complex number, where whole numbers have no tail. -/
def bare : Layout := { usual with wholeTail := false }

/-- Writes digits with the point after the first `point` of them, which may lie outside. -/
def Layout.positional (l : Layout) (digits : List Char) (point : Int) : List Char :=
  if point ≤ 0 then '0' :: '.' :: List.replicate point.natAbs '0' ++ digits
  else
    let whole := point.natAbs
    if digits.length ≤ whole then
      digits ++ List.replicate (whole - digits.length) '0' ++
        (if l.wholeTail then ['.', '0'] else [])
    else digits.take whole ++ '.' :: digits.drop whole

/-- Writes digits with one of them before the point and the power of ten of that one. -/
def Layout.scientific (l : Layout) (digits : List Char) (power : Int) : List Char :=
  let fraction := if digits.length ≤ 1 then [] else '.' :: digits.drop 1
  let size := Nat.toDigits 10 power.natAbs
  digits.take 1 ++ fraction ++ 'e' :: (if power < 0 then '-' else '+') ::
    List.replicate (l.exponentDigits - size.length) '0' ++ size

/-- The text of a size. -/
def Layout.size (l : Layout) (m : Nat) (e : Int) : List Char :=
  if m = 0 then l.positional ['0'] 1
  else
    let d := shortest m e
    let (trimmed, zeros) := Numeral.trimZeros 20 d.digits
    let digits := Nat.toDigits 10 trimmed
    let point := d.unit + zeros + digits.length
    if l.positionalFrom ≤ point - 1 && point - 1 < l.positionalBelow then l.positional digits point
    else l.scientific digits (point - 1)

/-- Writes a number. -/
def Layout.write (l : Layout) : Binary64 → String
  | .nan => "nan"
  | .infinite negative => if negative then "-inf" else "inf"
  | .finite negative m e => .ofList (if negative then '-' :: l.size m e else l.size m e)

/-- The usual text of a number. -/
def text (x : Binary64) : String := usual.write x

/-- Reads a number: an optional sign, then a decimal or the name of a special value, whose
letters may be small or capital. -/
def read? (s : String) : Option Binary64 :=
  match Numeral.ungrouped? (Numeral.plain s) with
  | none => none
  | some cs =>
    let (negative, body) := Numeral.takeSign cs
    let name := String.ofList (body.map Char.toLower)
    if name = "nan" then some .nan
    else if name = "inf" || name = "infinity" then some (.infinite negative)
    else (Numeral.read? body).map fun (digits, power) => ofDecimal negative digits power

end ShapeMatch.Binary64

/-! Sets of code points as runs of an arithmetic progression, and their written form: runs
in hexadecimal, set apart by blanks or line ends, `41-5A` for every code point from the first to
the last and `100:12E` for every second one. -/
namespace ShapeMatch.Text

/-- The code points from `first` to `last` in steps of `step`. -/
structure Run where
  first : Nat
  last : Nat
  step : Nat := 1

def Run.contains (r : Run) (c : Nat) : Bool :=
  r.first ≤ c && c ≤ r.last && (c - r.first) % r.step == 0

/-- A set of code points. -/
structure CodePoints where
  runs : List Run

namespace CodePoints

def contains (s : CodePoints) (c : Nat) : Bool := s.runs.any (·.contains c)

def ofRange (first last : Nat) : CodePoints := ⟨[{ first, last }]⟩

def single (c : Nat) : CodePoints := .ofRange c c

end CodePoints

/-- The value of a hexadecimal digit. -/
def hexDigit? (c : Char) : Option Nat :=
  if '0' ≤ c && c ≤ '9' then some (c.toNat - '0'.toNat)
  else if 'a' ≤ c && c ≤ 'f' then some (c.toNat - 'a'.toNat + 10)
  else if 'A' ≤ c && c ≤ 'F' then some (c.toNat - 'A'.toNat + 10)
  else none

/-- The number a run of hexadecimal digits stands for; other characters are passed over. -/
def hexNumber (digits : List Char) : Nat :=
  digits.foldl (fun n c => match hexDigit? c with | some d => 16 * n + d | none => n) 0

/-- Reads one written run. -/
def Run.ofHex (word : List Char) : Run :=
  let first := word.takeWhile (hexDigit? · |>.isSome)
  match word.drop first.length with
  | [] => { first := hexNumber first, last := hexNumber first }
  | mark :: last =>
    { first := hexNumber first, last := hexNumber last, step := if mark == ':' then 2 else 1 }

/-- The parts of a list between the elements that satisfy `p`. -/
def partsBetween (p : Char → Bool) : List Char → List (List Char)
  | [] => [[]]
  | c :: rest =>
    match p c, partsBetween p rest with
    | true, parts => [] :: parts
    | false, [] => [[c]]
    | false, part :: parts => (c :: part) :: parts

/-- The words of a text that blanks and line ends divide. -/
def wordsOf (text : List Char) : List (List Char) :=
  (partsBetween (fun c => c == ' ' || c == '\n') text).filter (!·.isEmpty)

/-- Reads the written form of a set. -/
def CodePoints.ofHex (text : String) : CodePoints := ⟨(wordsOf text.toList).map Run.ofHex⟩

/-- Reads groups of code points: commas between the groups, blanks between the members. -/
def hexGroups (text : String) : List (List Nat) :=
  (partsBetween (· == ',') text.toList).map fun group =>
    (wordsOf group).map hexNumber

end ShapeMatch.Text

import ShapeMatch.Regex.Category
import ShapeMatch.Regex.Script
import ShapeMatch.Regex.Folding

/-! Character classes: what one position of a pattern accepts. A class has one form only, so
classes with the same characters are equal. -/
namespace ShapeMatch.Regex
open Text

/-- The code points from `first` to `last`. -/
structure Range where
  first : Nat
  last : Nat
  deriving DecidableEq

/-- Adds a range to ranges in ascending order with a gap between any two, and keeps them so:
it takes in every range that it meets or touches. -/
def Range.addTo (r : Range) : List Range → List Range
  | [] => [r]
  | s :: rest =>
    if r.last + 1 < s.first then r :: s :: rest
    else if s.last + 1 < r.first then s :: r.addTo rest
    else addTo ⟨min r.first s.first, max r.last s.last⟩ rest

/-- A set of code points: its ranges in ascending order, with a gap between any two. -/
structure Class where
  ranges : List Range
  deriving DecidableEq

namespace Class

def empty : Class := ⟨[]⟩

def add (c : Class) (r : Range) : Class := ⟨r.addTo c.ranges⟩

def single (code : Nat) : Class := ⟨[⟨code, code⟩]⟩

def ofCodes (codes : List Nat) : Class := codes.foldl (fun c code => c.add ⟨code, code⟩) .empty

def has (c : Class) (code : Nat) : Bool := c.ranges.any fun r => r.first ≤ code && code ≤ r.last

def union (c d : Class) : Class := d.ranges.foldl .add c

/-- The number of code points. -/
def size (c : Class) : Nat := c.ranges.foldl (fun n r => n + (r.last + 1 - r.first)) 0

/-- The last code point there is. -/
def lastCode : Nat := 0x10FFFF

/-- What ascending ranges leave out, from `next` on. -/
def gapsFrom (next : Nat) : List Range → List Range
  | [] => if next ≤ lastCode then [⟨next, lastCode⟩] else []
  | r :: rest =>
    if next < r.first then ⟨next, r.first - 1⟩ :: gapsFrom (r.last + 1) rest
    else gapsFrom (r.last + 1) rest

/-- All other code points. -/
def complement (c : Class) : Class := ⟨gapsFrom 0 c.ranges⟩

/-- The class with all code points that fold together with one of it. -/
def folded (c : Class) : Class :=
  (foldingGroups.filter (·.any c.has)).foldl (fun d group => d.union (.ofCodes group)) c

/-- The code points of a run. -/
def addRun (c : Class) (r : Run) : Class :=
  if r.step = 1 then c.add ⟨r.first, r.last⟩
  else c.union (.ofCodes ((List.range (r.last + 1 - r.first)).filterMap fun n =>
    if n % r.step = 0 then some (r.first + n) else none))

def ofCodePoints (s : CodePoints) : Class := s.runs.foldl addRun .empty

/-- Every character but a line end. -/
def anyInLine : Class := (single 10).complement

/-- A small letter and its capital. -/
def bothCases (letter : Nat) : Class := .ofCodes [letter - 32, letter]

/-- The small letter from a to z that is here with its capital, where nothing else is. -/
def letter? (c : Class) : Option Nat :=
  match c.ranges with
  | [⟨capital, _⟩, ⟨letter, _⟩] =>
    if 'A'.toNat ≤ capital && capital ≤ 'Z'.toNat && c == bothCases letter then some letter else none
  | _ => none

end Class

/-- A part of a class as it is written: a set of code points, or all the others. -/
structure Part where
  points : CodePoints
  complement : Bool

/-- The class of a part. Case is ignored before the complement is taken. -/
def Part.toClass (ignoreCase : Bool) (p : Part) : Class :=
  let listed := Class.ofCodePoints p.points
  let listed := if ignoreCase then listed.folded else listed
  if p.complement then listed.complement else listed

/-- The class of several parts, or of what is in none of them. -/
def Class.ofParts (ignoreCase : Bool) (parts : List Part) (negated : Bool) : Class :=
  let all := parts.foldl (fun c p => c.union (p.toClass ignoreCase)) .empty
  if negated then all.complement else all

/-- The classes behind a backslash and one letter. A capital letter stands for the others. -/
def shortClass? (c : Char) : Option Part :=
  let set? : Option String := match c.toLower with
    | 'd' => some "30-39"
    | 's' => some "9-A C-D 20"
    | 'w' => some "30-39 41-5A 5F 61-7A"
    | _ => none
  set?.map fun hex => ⟨.ofHex hex, c.isUpper⟩

/-- The classes that are named inside brackets, all within the first 128 code points. -/
def bracketNames : List (String × String) := [
  ("alnum", "30-39 41-5A 61-7A"),
  ("alpha", "41-5A 61-7A"),
  ("ascii", "0-7F"),
  ("blank", "9 20"),
  ("cntrl", "0-1F 7F"),
  ("digit", "30-39"),
  ("graph", "21-7E"),
  ("lower", "61-7A"),
  ("print", "20-7E"),
  ("punct", "21-2F 3A-40 5B-60 7B-7E"),
  ("space", "9-D 20"),
  ("upper", "41-5A"),
  ("word", "30-39 41-5A 5F 61-7A"),
  ("xdigit", "30-39 41-46 61-66")]

/-- The class of a bracket name, which a caret in front complements. -/
def bracketClass? (name : List Char) : Option Part :=
  let (complement, bare) := match name with
    | '^' :: bare => (true, bare)
    | bare => (false, bare)
  (bracketNames.lookup (String.ofList bare)).map fun hex => ⟨.ofHex hex, complement⟩

/-- The code points with a property: every one, a general category, or a script. -/
def property? (name : List Char) : Option CodePoints :=
  let name := String.ofList name
  if name = "Any" then some (.ofRange 0 0x10FFFF) else (category? name).orElse fun _ => script? name

/-- The characters that the name of a group may have. -/
def nameCharacters : List CodePoints :=
  ["Lu", "Ll", "Lt", "Lm", "Lo", "Nl", "Mn", "Mc", "Nd", "Pc"].filterMap category?

def isNameCharacter (c : Char) : Bool := nameCharacters.any (·.contains c.toNat)

end ShapeMatch.Regex

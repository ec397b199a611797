import ShapeMatch.Regex.Syntax

/-! Searching a text for a match. A pattern is laid out as a tree whose leaves are lit when
they have just accepted a character; reading a character moves the light from leaf to leaf,
so a search takes one pass over the text. -/
namespace ShapeMatch.Regex

/-- What is true of a place between two characters. -/
structure Place where
  beginText : Bool
  endText : Bool
  beginLine : Bool
  endLine : Bool
  wordBoundary : Bool

/-- The characters of words, all within the first 128 code points. -/
def isWordCharacter (c : Char) : Bool := c.isAlphanum || c = '_'

/-- The place between two characters, or at an end of the text. -/
def Place.between (left right : Option Char) : Place where
  beginText := left.isNone
  endText := right.isNone
  beginLine := left.all (· = '\n')
  endLine := right.all (· = '\n')
  wordBoundary := left.any isWordCharacter != right.any isWordCharacter

/-- A place inside an encoded character of several bytes. Texts are searched byte by byte,
and an empty match may lie there. -/
def Place.inside : Place := ⟨false, false, false, false, false⟩

def Anchor.holds (p : Place) : Anchor → Bool
  | .beginText => p.beginText
  | .endText => p.endText
  | .beginLine => p.beginLine
  | .endLine => p.endLine
  | .wordBoundary => p.wordBoundary
  | .notWordBoundary => !p.wordBoundary

/-- A pattern in the course of a search. -/
inductive Track where
  | empty
  | one (c : Class) (lit : Bool)
  | assert (a : Anchor)
  | seq (first second : Track)
  | alt (first second : Track)
  | plus (body : Track)

namespace Track

/-- `body` so many times in a row, before `last`. -/
def times (body last : Track) : Nat → Track
  | 0 => last
  | n + 1 => .seq body (times body last n)

/-- A text, one leaf for each character. -/
def ofText (anyCase : Bool) (codes : List Nat) : Track :=
  codes.foldr (fun code rest => .seq (.one (leaf code) false) rest) .empty
where
  leaf (code : Nat) : Class :=
    if anyCase && 'a'.toNat ≤ code && code ≤ 'z'.toNat then .bothCases code else .single code

mutual

/-- The layout of a pattern, with no leaf lit. -/
def ofRegex : Regex → Track
  | .empty => .empty
  | .literal codes anyCase => ofText anyCase codes
  | .any => .one Class.empty.complement false
  | .one c => .one c false
  | .assert a => .assert a
  | .group r => ofRegex r
  | .sequence rs => inTurn rs
  | .choice rs => eitherOf rs
  | .optional r => .alt .empty (ofRegex r)
  | .star r => .alt .empty (.plus (ofRegex r))
  | .plus r => .plus (ofRegex r)
  | .counted r least most _ =>
    let body := ofRegex r
    let tail := match most with
      | none => .alt .empty (.plus body)
      | some most => times (.alt .empty body) .empty (most - least)
    times body tail least

/-- The layouts of patterns, one after the other. -/
def inTurn : List Regex → Track
  | [] => .empty
  | r :: rest => .seq (ofRegex r) (inTurn rest)

/-- The layouts of patterns side by side. -/
def eitherOf : List Regex → Track
  | [] => .empty
  | [r] => ofRegex r
  | r :: rest => .alt (ofRegex r) (eitherOf rest)

end

/-- Whether the end is reached at this place, from a lit leaf or, if `enter`, from the start. -/
def exits (p : Place) (enter : Bool) : Track → Bool
  | .empty => enter
  | .one _ lit => lit
  | .assert a => enter && a.holds p
  | .seq r s => s.exits p (r.exits p enter)
  | .alt r s => r.exits p enter || s.exits p enter
  | .plus r => r.exits p enter

/-- Reads the character after this place: the leaves that accept it next are lit. -/
def advance (p : Place) (code : Nat) (enter : Bool) : Track → Track
  | .empty => .empty
  | .one c _ => .one c (enter && c.has code)
  | .assert a => .assert a
  | .seq r s => .seq (r.advance p code enter) (s.advance p code (r.exits p enter))
  | .alt r s => .alt (r.advance p code enter) (s.advance p code enter)
  | .plus r => .plus (r.advance p code (enter || r.exits p enter))

/-- Searches the rest of a text, where `left` is the character before it. -/
def search (t : Track) (left : Option Char) : List Char → Bool
  | [] => t.exits (.between left none) true
  | c :: rest =>
    let p := Place.between left (some c)
    t.exits p true || (t.advance p c.toNat true).search (some c) rest

end Track

/-- Whether a text has a match anywhere. -/
def occursIn (r : Regex) (text : List Char) : Bool :=
  let t := Track.ofRegex r
  t.search none text || (text.any (0x80 ≤ ·.toNat) && t.exits .inside true)

end ShapeMatch.Regex

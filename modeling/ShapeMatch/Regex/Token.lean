import ShapeMatch.Regex.Class
import ShapeMatch.Regex.Error
import ShapeMatch.Regex.Syntax

/-! The tokens of a pattern. Reading one looks only ahead of it, so a pattern is rejected
for its first fault from the left. A reader takes the text that is left and gives what it
read with the text after it. -/
namespace ShapeMatch.Regex
open Text

/-- What a reader gives: its result and the text after it. -/
abbrev Reading (α : Type) := Except Error (α × List Char)

/-- A repetition: its bounds, whether they were written as counts, and whether a question mark
after it changes which match is preferred. -/
structure Repetition where
  least : Nat
  most : Option Nat
  counted : Bool
  marked : Bool := false

inductive Token where
  | literals (codes : List Nat)
  | any
  | lineStart
  | lineEnd
  | anchor (a : Anchor)
  | class (parts : List Part) (negated : Bool)
  | bar
  | opening
  | closing
  /-- options switched on or off, for the rest of the group or for a new one -/
  | options (changes : List (Char × Bool)) (opens : Bool)
  | repetition (r : Repetition)

/-- The part of `text` before `rest`, where `rest` is an end of it. -/
def before (text rest : List Char) : List Char := text.take (text.length - rest.length)

/-- A fault that the text up to `rest` shows. -/
def fault {α : Type} (v : Violation) (text rest : List Char) : Except Error α :=
  .error ⟨v, before text rest⟩

def isOctal (c : Char) : Bool := '0' ≤ c && c ≤ '7'

/-- A number in hexadecimal before a closing brace; `seen` tells whether it has a digit. -/
def readBraced (text : List Char) (code : Nat) (seen : Bool) : List Char → Reading Nat
  | [] => if seen then fault .invalidEscape text [] else .error ⟨.brokenText, []⟩
  | c :: rest =>
    match hexDigit? c with
    | some d =>
      if 16 * code + d > 0x10FFFF then fault .invalidEscape text rest
      else readBraced text (16 * code + d) true rest
    | none =>
      if c = '\x7d' && seen then .ok (code, rest) else fault .invalidEscape text rest

/-- The number after a backslash and an `x`. -/
def readHex (text : List Char) : List Char → Reading Nat
  | '\x7b' :: rest => readBraced text 0 false rest
  | a :: b :: rest =>
    match hexDigit? a, hexDigit? b with
    | some x, some y => .ok (16 * x + y, rest)
    | _, _ => fault .invalidEscape text rest
  | _ => fault .invalidEscape text []

/-- Up to three octal digits, the first of them given. -/
def readOctal (first : Char) (rest : List Char) : Nat × List Char :=
  let more := (rest.take 2).takeWhile isOctal
  ((first :: more).foldl (fun n c => 8 * n + (c.toNat - '0'.toNat)) 0, rest.drop more.length)

/-- The letters that stand for a control character after a backslash. -/
def controlEscape? : Char → Option Nat
  | 'n' => some 10
  | 'r' => some 13
  | 't' => some 9
  | 'a' => some 7
  | 'f' => some 12
  | 'v' => some 11
  | _ => none

/-- The single character that a backslash and the text after it stand for. -/
def readEscape (after : List Char) : Reading Nat :=
  let text := '\\' :: after
  match after with
  | [] => .error ⟨.trailingBackslash, []⟩
  | c :: rest =>
    if c = '0' || (isOctal c && (rest.head?.any isOctal)) then .ok (readOctal c rest)
    else if c = 'x' then readHex text rest
    else match controlEscape? c with
      | some code => .ok (code, rest)
      | none =>
        if c.toNat < 0x80 && !c.isAlphanum then .ok (c.toNat, rest)
        else fault .invalidEscape text rest

/-- A property after a backslash and `p`, or `P` for the characters without it. -/
def readProperty (mark : Char) (after : List Char) : Reading Part :=
  let text := '\\' :: mark :: after
  let named (name rest : List Char) : Reading Part :=
    let (complement, name) := match name with
      | '^' :: name => (mark == 'p', name)
      | name => (mark == 'P', name)
    match property? name with
    | some points => .ok (⟨points, complement⟩, rest)
    | none => fault .invalidClassRange text rest
  match after with
  | [] => fault .invalidClassRange text []
  | '\x7b' :: rest =>
    if rest.contains '\x7d' then
      let name := rest.takeWhile (· ≠ '\x7d')
      named name (rest.drop (name.length + 1))
    else fault .invalidClassRange text []
  | c :: rest => named [c] rest

/-- One character inside brackets; `whole` is the text from the opening bracket on. -/
def readMember (whole : List Char) : List Char → Reading Nat
  | [] => .error ⟨.missingBracket, whole⟩
  | '\\' :: rest => readEscape rest
  | c :: rest => .ok (c.toNat, rest)

/-- A character or a range of them. A hyphen before the closing bracket stands for itself. -/
def readRange (whole text : List Char) : Except Error (Part × List Char) := do
  let (first, rest) ← readMember whole text
  match rest with
  | '-' :: next :: more =>
    if next = ']' then return (⟨.single first, false⟩, rest)
    else
      let (last, rest) ← readMember whole (next :: more)
      if last < first then fault .invalidClassRange text rest
      else return (⟨.ofRange first last, false⟩, rest)
  | rest => return (⟨.single first, false⟩, rest)

/-- The name before the first `:]`, with the text after both. -/
def splitName : List Char → Option (List Char × List Char)
  | [] => none
  | ':' :: ']' :: rest => some ([], rest)
  | c :: rest => (splitName rest).map fun (name, rest) => (c :: name, rest)

/-- One part of a bracketed class. -/
def readPart (whole text : List Char) : Reading Part :=
  match text with
  | '[' :: ':' :: rest =>
    match splitName rest with
    | none => readRange whole text
    | some (name, after) =>
      match bracketClass? name with
      | some part => .ok (part, after)
      | none => fault .invalidClassRange text after
  | ['\\', 'p'] | ['\\', 'P'] => readRange whole text
  | '\\' :: 'p' :: rest => readProperty 'p' rest
  | '\\' :: 'P' :: rest => readProperty 'P' rest
  | '\\' :: c :: rest =>
    match shortClass? c with
    | some part => .ok (part, rest)
    | none => readRange whole text
  | _ => readRange whole text

/-- The end of `text` that is as long as `rest`, when that is shorter. -/
def lastPart (text rest : List Char) : List Char := text.drop (text.length - rest.length)

theorem length_lastPart_le (text rest : List Char) : (lastPart text rest).length ≤ text.length := by
  simp [lastPart]

/-- The parts up to the closing bracket, which stands for itself in first place. -/
def readParts (whole : List Char) (first : Bool) (parts : List Part) :
    (text : List Char) → Except Error (List Part × List Char)
  | [] => .error ⟨.missingBracket, whole⟩
  | c :: text =>
    if c = ']' && !first then .ok (parts.reverse, text)
    else do
      let (part, rest) ← readPart whole (c :: text)
      readParts whole false (part :: parts) (lastPart text rest)
termination_by text => text.length
decreasing_by
  have := length_lastPart_le text rest
  simp
  omega

/-- A bracketed class, after its opening bracket. -/
def readClass (after : List Char) : Except Error (Token × List Char) := do
  let (negated, text) := match after with
    | '^' :: text => (true, text)
    | text => (false, text)
  let (parts, rest) ← readParts ('[' :: after) true [] text
  return (.class parts negated, rest)

/-- Option letters, up to a colon or a closing parenthesis; a hyphen switches off what
follows it, and has to be followed by something. -/
def readOptions (text : List Char) (changes : List (Char × Bool)) (off seen : Bool) :
    List Char → Reading Token
  | [] => fault .invalidGroup text []
  | c :: rest =>
    if ['i', 'm', 's', 'U'].contains c then
      readOptions text (changes ++ [(c, !off)]) off true rest
    else if c = '-' && !off then readOptions text changes true false rest
    else if (c = ':' || c = ')') && (!off || seen) then .ok (.options changes (c = ':'), rest)
    else fault .invalidGroup text rest

/-- The name of a group, after its opening angle bracket. -/
def readName (text after : List Char) : Reading Token :=
  if after.contains '>' then
    let name := after.takeWhile (· ≠ '>')
    let rest := after.drop (name.length + 1)
    if !name.isEmpty && name.all isNameCharacter then .ok (.opening, rest)
    else fault .invalidName text rest
  else fault .invalidName text []

/-- What follows an opening parenthesis and a question mark. -/
def readGroup (after : List Char) : Reading Token :=
  let text := '(' :: '?' :: after
  match after with
  | '=' :: rest => fault .invalidGroup text rest
  | '!' :: rest => fault .invalidGroup text rest
  | '<' :: '=' :: c :: rest => fault .invalidGroup text (c :: rest)
  | '<' :: '!' :: c :: rest => fault .invalidGroup text (c :: rest)
  | 'P' :: '<' :: c :: rest => readName text (c :: rest)
  | '<' :: c :: rest => readName text (c :: rest)
  | after => readOptions text [] false false after

/-- A count: digits without a leading zero, and not too many of them. -/
def readCount? (text : List Char) : Option (Nat × List Char) :=
  let digits := text.takeWhile Char.isDigit
  let value := digits.foldl (fun n c => 10 * n + (c.toNat - '0'.toNat)) 0
  if digits.isEmpty || (digits.head? = some '0' && digits.length ≥ 2) || value ≥ 1000000000 then none
  else some (value, text.drop digits.length)

/-- Counts in braces, after the opening one; any other text makes the brace a literal. -/
def readCounts? (after : List Char) : Option (Repetition × List Char) := do
  let (least, rest) ← readCount? after
  match rest with
  | '\x7d' :: rest => return ({ least, most := some least, counted := true }, rest)
  | ',' :: '\x7d' :: rest => return ({ least, most := none, counted := true }, rest)
  | ',' :: rest =>
    let (most, rest) ← readCount? rest
    match rest with
    | '\x7d' :: rest => return ({ least, most := some most, counted := true }, rest)
    | _ => none
  | _ => none

/-- The token of a repetition, with the question mark that may follow it. -/
def markRepetition (r : Repetition) : List Char → Token × List Char
  | '?' :: rest => (.repetition { r with marked := true }, rest)
  | rest => (.repetition r, rest)

/-- Text taken literally up to a backslash and an `E`, or to the end. -/
def readVerbatim : List Char → List Nat × List Char
  | [] => ([], [])
  | '\\' :: 'E' :: rest => ([], rest)
  | c :: rest =>
    let (codes, rest) := readVerbatim rest
    (c.toNat :: codes, rest)

/-- What follows a backslash outside brackets. -/
def readBackslash (after : List Char) : Reading Token :=
  match after with
  | 'b' :: rest => .ok (.anchor .wordBoundary, rest)
  | 'B' :: rest => .ok (.anchor .notWordBoundary, rest)
  | 'A' :: rest => .ok (.anchor .beginText, rest)
  | 'z' :: rest => .ok (.anchor .endText, rest)
  | 'Q' :: rest =>
    let (codes, rest) := readVerbatim rest
    .ok (.literals codes, rest)
  | 'p' :: rest => (readProperty 'p' rest).map fun (part, rest) => (.class [part] false, rest)
  | 'P' :: rest => (readProperty 'P' rest).map fun (part, rest) => (.class [part] false, rest)
  | c :: rest =>
    match shortClass? c with
    | some part => .ok (.class [part] false, rest)
    | none => (readEscape after).map fun (code, rest) => (.literals [code], rest)
  | [] => (readEscape []).map fun (code, rest) => (.literals [code], rest)

/-- Reads the token that begins with `c`. -/
def readToken (c : Char) (rest : List Char) : Reading Token :=
  match c with
  | '(' =>
    match rest with
    | '?' :: after => readGroup after
    | _ => .ok (.opening, rest)
  | '|' => .ok (.bar, rest)
  | ')' => .ok (.closing, rest)
  | '^' => .ok (.lineStart, rest)
  | '$' => .ok (.lineEnd, rest)
  | '.' => .ok (.any, rest)
  | '[' => readClass rest
  | '*' => .ok (markRepetition { least := 0, most := none, counted := false } rest)
  | '+' => .ok (markRepetition { least := 1, most := none, counted := false } rest)
  | '?' => .ok (markRepetition { least := 0, most := some 1, counted := false } rest)
  | '\x7b' =>
    match readCounts? rest with
    | some (r, rest) => .ok (markRepetition r rest)
    | none => .ok (.literals ['\x7b'.toNat], rest)
  | '\\' => readBackslash rest
  | c => .ok (.literals [c.toNat], rest)

end ShapeMatch.Regex

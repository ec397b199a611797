import ShapeMatch.Regex.Class

/-! The syntax of patterns. Of groups only those that count leave a trace in it. -/
namespace ShapeMatch

namespace Regex

/-- A condition on the place between two characters. -/
inductive Anchor where
  | beginText
  | endText
  | beginLine
  | endLine
  | wordBoundary
  | notWordBoundary
  deriving DecidableEq

end Regex

/-- A regular expression over characters. -/
inductive Regex where
  | empty
  /-- a text that is not empty; if `anyCase`, its small letters stand for the capitals too -/
  | literal (codes : List Nat) (anyCase : Bool)
  /-- any character -/
  | any
  | one (c : Regex.Class)
  | assert (a : Regex.Anchor)
  /-- a numbered group, which nothing takes apart -/
  | group (body : Regex)
  /-- two or more expressions one after the other -/
  | sequence (parts : List Regex)
  /-- two or more expressions of which one is to match -/
  | choice (alternatives : List Regex)
  | optional (body : Regex)
  | star (body : Regex)
  | plus (body : Regex)
  /-- a repetition by counts, which prefers few if `lazy` -/
  | counted (body : Regex) (least : Nat) (most : Option Nat) (lazy : Bool)

namespace Regex

/-- The greatest count of a repetition, also after multiplying nested ones. -/
def maxRepeat : Nat := 1000

mutual

/-- What is left of an allowance after the counted repetitions on the way to the leaf that
uses most of it: each divides it by its count. Zero means that they nest too high. -/
def allowanceLeft (allowance : Nat) : Regex → Nat
  | .empty | .literal .. | .any | .one _ | .assert _ => allowance
  | .group r | .optional r | .star r | .plus r => r.allowanceLeft allowance
  | .sequence rs | .choice rs => leastAllowanceLeft allowance rs
  | .counted r least most _ =>
    let count := most.getD least
    r.allowanceLeft (if count = 0 then allowance else allowance / count)

def leastAllowanceLeft (allowance : Nat) : List Regex → Nat
  | [] => allowance
  | r :: rest => min (r.allowanceLeft allowance) (leastAllowanceLeft allowance rest)

end

/-- The expression for one character of a class. A class of one character is the text of it,
and so is a class of a letter in both cases. -/
def ofClass (ignoreCase : Bool) (c : Class) : Regex :=
  match c.ranges, c.letter? with
  | [⟨first, last⟩], _ => if first = last then .literal [first] ignoreCase else .one c
  | _, some letter => .literal [letter] true
  | _, none => .one c

/-- The expression for a character that stands for itself. -/
def ofCode (ignoreCase : Bool) (code : Nat) : Regex :=
  if ignoreCase then
    match foldings code with
    | [_] => .literal [code] true
    | codes => ofClass true (.ofCodes codes)
  else .literal [code] false

/-- Expressions one after the other. -/
def inSequence : List Regex → Regex
  | [] => .empty
  | [r] => r
  | rs => .sequence rs

/-- One of several expressions; of none, the empty text. -/
def oneOf : List Regex → Regex
  | [] => .empty
  | [r] => r
  | rs => .choice rs

/-- The parts of an expression that is a sequence. -/
def parts : Regex → List Regex
  | .sequence rs => rs
  | r => [r]

/-- The alternatives of an expression that is a choice. -/
def alternatives : Regex → List Regex
  | .choice rs => rs
  | r => [r]

def isAny : Regex → Bool
  | .any => true
  | _ => false

/-- Whether an expression stands for exactly one character. -/
def isCharacter : Regex → Bool
  | .literal [_] _ | .any | .one _ => true
  | _ => false

/-- The class of a text of one character, in all the cases there are if `anyCase`. -/
def class? : Regex → Option Class
  | .literal [code] anyCase => some (if anyCase then (Class.single code).folded else .single code)
  | .one c => some c
  | _ => none

end Regex

end ShapeMatch

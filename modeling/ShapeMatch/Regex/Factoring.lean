import ShapeMatch.Regex.Syntax

/-! Factoring of alternatives. Neighbours that begin alike are put together behind their common
beginning, and so are, after it, what is left of them; neighbours that are one character each
become one class. Only this last step can change what is accepted: a letter in both cases
is just these two characters, but in a class made of neighbours it is all its cases. -/
namespace ShapeMatch.Regex

/-- Neighbours that have something in common, the last of them first. -/
structure Neighbours (α : Type) where
  common : Option α
  last : Regex
  earlier : List Regex

/-- The expression for neighbours; one that stands alone stays as it is. -/
def Neighbours.toRegex {α : Type} (assemble : α → List Regex → Regex) (n : Neighbours α) : Regex :=
  match n.common, n.earlier with
  | some common, _ :: _ => assemble common (n.last :: n.earlier).reverse
  | _, _ => n.last

/-- Puts neighbours together from left to right, where `feature` is what an expression can have
in common with others, and `meet` what two of these have in common. -/
def joinFrom {α : Type} (feature : Regex → Option α) (meet : α → α → Option α)
    (assemble : α → List Regex → Regex) (n : Neighbours α) : List Regex → List Regex
  | [] => [n.toRegex assemble]
  | r :: rest =>
    match (do meet (← n.common) (← feature r)) with
    | some common => joinFrom feature meet assemble ⟨common, r, n.last :: n.earlier⟩ rest
    | none => n.toRegex assemble :: joinFrom feature meet assemble ⟨feature r, r, []⟩ rest

def joinNeighbours {α : Type} (feature : Regex → Option α) (meet : α → α → Option α)
    (assemble : α → List Regex → Regex) : List Regex → List Regex
  | [] => []
  | r :: rest => joinFrom feature meet assemble ⟨feature r, r, []⟩ rest

/-- A text at the beginning of an expression. -/
structure Opening where
  codes : List Nat
  anyCase : Bool

/-- The longest common beginning of two lists. -/
def commonPrefix : List Nat → List Nat → List Nat
  | a :: as, b :: bs => if a = b then a :: commonPrefix as bs else []
  | _, _ => []

/-- What two texts have in common at the beginning, if it is anything. -/
def Opening.meet (a b : Opening) : Option Opening :=
  if a.anyCase = b.anyCase then
    match commonPrefix a.codes b.codes with
    | [] => none
    | codes => some ⟨codes, a.anyCase⟩
  else none

mutual

/-- The text that an expression begins with. -/
def opening? : Regex → Option Opening
  | .literal codes anyCase => some ⟨codes, anyCase⟩
  | .sequence rs => firstOpening? rs
  | _ => none

def firstOpening? : List Regex → Option Opening
  | [] => none
  | r :: _ => r.opening?

end

mutual

/-- An expression less the first `n` characters of the text that it begins with. A part of
which nothing is left goes out. -/
def dropText (n : Nat) : Regex → Regex
  | .literal codes anyCase => if codes.length ≤ n then .empty else .literal (codes.drop n) anyCase
  | .sequence rs => inSequence (dropFirstText n rs)
  | r => r

def dropFirstText (n : Nat) : List Regex → List Regex
  | [] => []
  | r :: rest =>
    match r.dropText n with
    | .empty => rest
    | left => left :: rest

end

/-- The part that an expression begins with, which may be all of it. -/
def firstPart? : Regex → Option Regex
  | .empty | .sequence [] | .sequence (.empty :: _) => none
  | .sequence (r :: _) => some r
  | r => some r

/-- An expression less its first part. -/
def dropPart : Regex → Regex
  | .sequence (_ :: rest) => inSequence rest
  | _ => .empty

/-- Whether two expressions are the same character or class. -/
def sameCharacter : Regex → Regex → Bool
  | .literal [a] f, .literal [b] g => a == b && f == g
  | .one c, .one d => c == d
  | .any, .any => true
  | _, _ => false

/-- Whether two first parts are the same and can be shared: conditions, classes, and a
character or class so many times. -/
def sameStart : Regex → Regex → Bool
  | .assert a, .assert b => a == b
  | .one c, .one d => c == d
  | .any, .any => true
  | .counted r least most f, .counted s least' most' g =>
    most == some least && least == least' && most == most' && f == g && sameCharacter r s
  | _, _ => false

/-- Factors alternatives, and again what is left of them, down to `depth` levels. -/
def factorWithin : (depth : Nat) → List Regex → List Regex
  | 0, rs => rs
  | depth + 1, rs =>
    let behind (first : Regex) (rests : List Regex) : Regex :=
      .sequence [first, oneOf (factorWithin depth rests)]
    let rs := joinNeighbours opening? Opening.meet
      (fun o rs => behind (.literal o.codes o.anyCase) (rs.map (dropText o.codes.length))) rs
    let rs := joinNeighbours firstPart? (fun r s => if sameStart r s then some r else none)
      (fun r rs => behind r (rs.map dropPart)) rs
    joinNeighbours class? (fun c d => some (c.union d)) (fun c _ => .one c) rs

mutual

/-- A measure of an expression: the characters and parts that it can begin with. -/
def extent : Regex → Nat
  | .literal codes _ => codes.length
  | .sequence rs => extents rs + 1
  | _ => 1

def extents : List Regex → Nat
  | [] => 0
  | r :: rest => r.extent + extents rest

end

/-- Factors alternatives. Each level takes something from every expression that goes on to
the next, so the extent of all bounds the depth. -/
def factor (rs : List Regex) : List Regex := factorWithin (extents rs + 1) rs

end ShapeMatch.Regex

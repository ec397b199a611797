import ShapeMatch.Fault

/-! The outcome of validating a value. -/
namespace ShapeMatch

/-- Why a value was rejected. -/
inductive Reason where
  /-- another kind of value was expected -/
  | mismatch (expected : String) (found : Value)
  | notANumber
  | otherLiteral (wanted found : Value)
  | noOccurrence (pattern subject : String)
  | wrongLength (wanted found : Nat)
  | refused (predicate : String) (v : Value)
  /-- the words of a model or a custom schema -/
  | stated (words : String)

def Reason.text : Reason → String
  | .mismatch expected found => "expected " ++ expected ++ ", got " ++ found.kindName
  | .notANumber => "expected number, got NaN"
  | .otherLiteral wanted found => "expected " ++ wanted.display ++ ", got " ++ found.display
  | .noOccurrence pattern subject =>
    Text.quoted subject ++ " does not match /" ++ pattern ++ "/"
  | .wrongLength wanted found =>
    "expected " ++ toString wanted ++ " elements, got " ++ toString found
  | .refused predicate v => "refinement " ++ predicate ++ " rejected " ++ v.display
  | .stated words => words

/-- Whether a reason has a text. -/
def Reason.isWritable : Reason → Bool
  | .otherLiteral wanted found => wanted.isWritable && found.isWritable
  | .refused _ v => v.isWritable
  | _ => true

/-- A rejection, with the keys and indexes that lead from the value validated down to the
one that was rejected. -/
structure Failure where
  reason : Reason
  path : List Value

/-- The same failure, seen from one level further up. -/
def Failure.under (key : Value) (f : Failure) : Failure := { f with path := key :: f.path }

def Failure.text (f : Failure) : String :=
  if f.path.isEmpty then f.reason.text
  else String.join (f.path.map fun key => "[" ++ key.display ++ "]") ++ ": " ++ f.reason.text

def Failure.isWritable (f : Failure) : Bool := f.reason.isWritable && f.path.all Value.isWritable

/-- What validation comes to. -/
inductive Verdict where
  /-- accepted, and the value itself is handed back -/
  | kept
  /-- accepted, and another value is handed back -/
  | changed (result : Value)
  | rejected (f : Failure)
  | raised (fault : Fault)
  /-- a custom schema answered with a value instead of a verdict -/
  | astray (answer : Value)

namespace Verdict

/-- A rejection of the value itself, which needs the text of its reason. -/
def reject (r : Reason) : Verdict := if r.isWritable then .rejected ⟨r, []⟩ else .raised .unwritable

/-- Accepts a value as it is, on a condition. -/
def keepIf (accepted : Bool) (r : Reason) : Verdict := if accepted then .kept else reject r

/-- The value handed back for `v`, if it was accepted. -/
def value? (v : Value) : Verdict → Option Value
  | .kept => some v
  | .changed w => some w
  | _ => none

/-- The verdict of a schema that says itself what it hands back: of some values there is only
one, and to hand that back is to hand back the value itself. -/
def settled (v : Value) : Verdict → Verdict
  | .changed w => if v.isSole w then .kept else .changed w
  | verdict => verdict

/-- The verdict as it counts inside another schema, which asks it for the value handed back. -/
def nested : Verdict → Verdict
  | .astray answer =>
    match answer.held? with
    | some w => .changed w
    | none => .raised (.lacks answer "value")
  | v => v

@[simp] theorem reject_mismatch (expected : String) (found : Value) :
    reject (.mismatch expected found) = .rejected ⟨.mismatch expected found, []⟩ := rfl

@[simp] theorem reject_notANumber : reject .notANumber = .rejected ⟨.notANumber, []⟩ := rfl

@[simp] theorem reject_noOccurrence (pattern subject : String) :
    reject (.noOccurrence pattern subject) = .rejected ⟨.noOccurrence pattern subject, []⟩ := rfl

@[simp] theorem reject_wrongLength (wanted found : Nat) :
    reject (.wrongLength wanted found) = .rejected ⟨.wrongLength wanted found, []⟩ := rfl

@[simp] theorem reject_stated (words : String) :
    reject (.stated words) = .rejected ⟨.stated words, []⟩ := rfl

end Verdict

end ShapeMatch

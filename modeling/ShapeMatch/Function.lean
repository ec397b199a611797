import ShapeMatch.Fault
import ShapeMatch.Text.Case
import ShapeMatch.Value.Key

/-! Functions on values, used as predicates and as handlers, with a stock of ready ones. -/
namespace ShapeMatch

/-- A function with the name that messages give it. A shared one can be met again; one that was
made on the spot is like no other. -/
structure Function where
  name : String
  shared : Bool
  apply : Value → Except Fault Value

namespace Function

/-- Whether two functions are one. -/
def same (f g : Function) : Bool := f.shared && g.shared && f.name == g.name

/-- A shared function. -/
def known (name : String) (apply : Value → Except Fault Value) : Function := ⟨name, true, apply⟩

/-- A function seen as a value. Some are classes, and some are not of the ordinary class. -/
def asValue (f : Function) : Value :=
  let identity := if f.shared then some f.name else none
  match f.name with
  | "bool" | "str" => .classRef ⟨f.name, "<class '" ++ f.name ++ "'>", "type"⟩
  | "len" | "repr" =>
    .object "builtin_function_or_method" ("<built-in function " ++ f.name ++ ">") identity
  | "Short" => .object "Short" "Short" identity
  | "partial" => .object "functools.partial" "partial" identity
  | name => .object "function" ("<function " ++ name ++ ">") identity

/-- A function as a predicate: whether its result counts as true. -/
def holds (f : Function) (v : Value) : Except Fault Bool := (f.apply v).map Value.truthy

/-- A function made on the spot that always gives the same value. -/
def constant (name : String) (result : Value) : Function := ⟨name, false, fun _ => .ok result⟩

/-- A function that answers yes or no. -/
def ofTest (name : String) (test : Value → Bool) : Function :=
  known name fun v => .ok (.bool (test v))

def itself : Function := known "itself" .ok

def never : Function := .ofTest "never" fun _ => false

/-- Holds always; it was defined without a name. -/
def always : Function := .ofTest "<lambda>" fun _ => true

/-- Holds never, and has lost its own name. -/
def partly : Function := .ofTest "partial" fun _ => false

/-- Objects to every value. -/
def boom : Function :=
  known "boom" fun v => .error (if v.isWritable then .objection v else .unwritable)

def bool : Function := .ofTest "bool" Value.truthy

def startsWithH : Function := .ofTest "starts_with_h" fun
  | .text s => s.startsWith "h"
  | _ => false

def isUpper : Function := .ofTest "isupper" fun
  | .text s => Text.isUpperCase s
  | _ => false

/-- A whole number or a truth value that two divides. -/
def evenNumber : Value → Bool
  | .int n => n % 2 = 0
  | .bool b => !b
  | _ => false

def isEven : Function := .ofTest "is_even" evenNumber

def positive : Function := .ofTest "positive" fun v =>
  match v with
  | .int _ | .bool _ | .float _ | .fraction _ => v.number?.any (·.1.isPositive)
  | _ => false

/-- The number of members, entries, characters or bytes. -/
def size? : Value → Option Nat
  | .text s => some s.length
  | .bytes b => some b.length
  | .sequence _ items => some items.length
  | .mapping _ entries => some entries.length
  | .set items => some items.length
  | _ => none

def len : Function := known "len" fun v =>
  match size? v with
  | some n => .ok (.int n)
  | none => .error (.unsized v)

/-- A function that writes a value as a text. -/
def ofText (name : String) (write : Value → String) : Function :=
  known name fun v => if v.isWritable then .ok (.text (write v)) else .error .unwritable

def shown : Function := .ofText "repr" Value.display

def text : Function := .ofText "str" Value.asText

def first : Function := known "first" fun
  | .text s =>
    match s.toList with
    | c :: _ => .ok (.text (String.singleton c))
    | [] => .error .noFirst
  | .sequence _ (v :: _) => .ok v
  | _ => .error .noFirst

def content : Function := known "content" fun
  | .mapping .dict entries =>
    match Entries.get? (.text "content") entries with
    | some v => .ok v
    | none => .error .noContent
  | _ => .error .noContent

/-- A text or sequence of fewer than three members. -/
def short : Function := .ofTest "Short" fun
  | .text s => s.length < 3
  | .sequence _ items => items.length < 3
  | _ => false

end Function

end ShapeMatch

import ShapeMatch.Matcher.Dispatch
import ShapeMatch.Shorthand.Compile

/-! Building case lists. A matcher is bound to its value from the start or gets it later;
both grow in the same way, and a builder is never modified, so that it can be extended in
several directions. -/
namespace ShapeMatch

variable [RegexEngine]

/-- Why a case cannot be appended. -/
inductive BuildError where
  /-- the number of functions that came with the shorthand is neither one nor two -/
  | wrongArity (count : Nat)
  | shorthand (e : ShorthandError)
  /-- there is a warning to be given that has no text -/
  | unwritable

def BuildError.message : BuildError → String
  | .wrongArity count =>
    "case() takes a shorthand, an optional predicate and a handler; got " ++ toString count ++
      " callables"
  | .shorthand e => e.message
  | .unwritable => Fault.unwritable.message

/-- A case that can never match, as it comes after one that accepts everything. -/
structure Unreachable where
  schema : Schema

def Unreachable.message (u : Unreachable) : String :=
  "case " ++ u.schema.label ++ " is declared after a catch-all case and can never match"

def Schema.isUnknown : Schema → Bool
  | .unknown => true
  | _ => false

/-- Case lists, in order. -/
abbrev Cases := List Case

namespace Cases

/-- Appends a case, with a warning if an earlier one accepts everything. -/
def append (cases : Cases) (c : Case) : Cases × List Unreachable :=
  (cases ++ [c], if cases.any (·.schema.isUnknown) then [⟨c.schema⟩] else [])

/-- The case of a shorthand with a handler, or with a predicate and a handler. -/
def caseOf (s : Shorthand) : List Function → Except BuildError Case
  | [handler] => (s.compile.mapError .shorthand).map fun schema => ⟨schema, handler⟩
  | [predicate, handler] =>
    (s.compile.mapError .shorthand).map fun schema => ⟨schema.refine predicate, handler⟩
  | fns => .error (.wrongArity fns.length)

/-- Appends the case of a shorthand. A warning shows the label of its schema. -/
def appendCase (cases : Cases) (s : Shorthand) (fns : List Function) :
    Except BuildError (Cases × List Unreachable) := do
  let c ← caseOf s fns
  let (cases, warnings) := cases.append c
  if warnings.all (·.schema.isWritable) then return (cases, warnings) else throw .unwritable

/-- Appends a case that accepts anything. -/
def appendDefault (cases : Cases) (handler : Function) : Cases × List Unreachable :=
  cases.append ⟨.unknown, handler⟩

end Cases

/-- A matcher bound to a value. -/
structure Match where
  value : Value
  cases : Cases

/-- A matcher whose value is supplied later. -/
structure Matcher where
  cases : Cases

/-- A finished case list, to be called with values. -/
structure Dispatcher where
  cases : Cases

namespace Match

def start (v : Value) : Match := ⟨v, []⟩

def case (m : Match) (s : Shorthand) (fns : List Function) :
    Except BuildError (Match × List Unreachable) :=
  (m.cases.appendCase s fns).map fun (cases, warnings) => (⟨m.value, cases⟩, warnings)

def default (m : Match) (handler : Function) : Match × List Unreachable :=
  let (cases, warnings) := m.cases.appendDefault handler
  (⟨m.value, cases⟩, warnings)

/-- Evaluates the bound value. -/
def get [Logging] (m : Match) : Run := dispatch m.value m.cases

end Match

namespace Matcher

def start : Matcher := ⟨[]⟩

def case (m : Matcher) (s : Shorthand) (fns : List Function) :
    Except BuildError (Matcher × List Unreachable) :=
  (m.cases.appendCase s fns).map fun (cases, warnings) => (⟨cases⟩, warnings)

def default (m : Matcher) (handler : Function) : Matcher × List Unreachable :=
  let (cases, warnings) := m.cases.appendDefault handler
  (⟨cases⟩, warnings)

/-- The dispatch function over the cases declared so far. -/
def get (m : Matcher) : Dispatcher := ⟨m.cases⟩

end Matcher

def Dispatcher.call [Logging] (d : Dispatcher) (v : Value) : Run := dispatch v d.cases

end ShapeMatch

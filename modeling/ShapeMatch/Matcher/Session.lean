import ShapeMatch.Matcher.Builder
import ShapeMatch.Surroundings

/-! Sessions: a history of building steps, where each result is kept under a name and any
earlier one can be extended. -/
namespace ShapeMatch

variable [RegexEngine]

/-- What a step can make. -/
inductive Made where
  | bound (m : Match)
  | deferred (m : Matcher)
  | dispatcher (d : Dispatcher)

def Made.cases : Made → Cases
  | .bound m => m.cases
  | .deferred m => m.cases
  | .dispatcher d => d.cases

inductive Step where
  | startMatch (v : Value) (as : String)
  | startMatcher (as : String)
  | case (on : String) (s : Shorthand) (fns : List Function) (as : String)
  | default (on : String) (handler : Function) (as : String)
  | get (on as : String)
  | call (on : String) (v : Value)
  | show (on : String)

def Made.kindName : Made → String
  | .bound _ => "Match"
  | .deferred _ => "Matcher"
  | .dispatcher _ => "Dispatcher"

/-- Why a step cannot be taken. Its subject is missing if nothing goes by that name. -/
inductive Misuse where
  /-- the subject has no such member -/
  | lacks (subject : Option Made) (member : String)
  | notCallable (subject : Option Made)

/-- How messages call the subject of a step. -/
def subjectName (subject : Option Made) : String :=
  "'" ++ subject.elim "NoneType" Made.kindName ++ "'"

def Misuse.message : Misuse → String
  | .lacks subject member => subjectName subject ++ " object has no attribute '" ++ member ++ "'"
  | .notCallable subject => subjectName subject ++ " object is not callable"

/-- What a step answers. -/
inductive Answer where
  | made (m : Made) (warnings : List Unreachable)
  | ran (r : Run)
  | shown (schemas : List Schema)
  | failed (e : BuildError)
  | misused (m : Misuse)

/-- The results so far, the latest first. -/
abbrev Session := List (String × Made)

namespace Session

variable [Logging]

/-- Answers with a result and keeps it under a name. -/
def keep (session : Session) (as : String) (m : Made) (warnings : List Unreachable) :
    Session × Answer :=
  ((as, m) :: session, .made m warnings)

/-- Takes one step. A step that fails keeps nothing. -/
def step (session : Session) : Step → Session × Answer
  | .startMatch v as => session.keep as (.bound (.start v)) []
  | .startMatcher as => session.keep as (.deferred .start) []
  | .case on s fns as =>
    match session.lookup on with
    | some (.bound m) =>
      match m.case s fns with
      | .ok (m, warnings) => session.keep as (.bound m) warnings
      | .error e => (session, .failed e)
    | some (.deferred m) =>
      match m.case s fns with
      | .ok (m, warnings) => session.keep as (.deferred m) warnings
      | .error e => (session, .failed e)
    | subject => (session, .misused (.lacks subject "case"))
  | .default on handler as =>
    match session.lookup on with
    | some (.bound m) =>
      let (m, warnings) := m.default handler
      session.keep as (.bound m) warnings
    | some (.deferred m) =>
      let (m, warnings) := m.default handler
      session.keep as (.deferred m) warnings
    | subject => (session, .misused (.lacks subject "default"))
  | .get on as =>
    match session.lookup on with
    | some (.bound m) => (session, .ran m.get)
    | some (.deferred m) => session.keep as (.dispatcher m.get) []
    | subject => (session, .misused (.lacks subject "get"))
  | .call on v =>
    match session.lookup on with
    | some (.dispatcher d) => (session, .ran (d.call v))
    | subject => (session, .misused (.notCallable subject))
  | .show on =>
    match session.lookup on with
    | some m => (session, .shown (m.cases.map Case.schema))
    | none => (session, .misused (.lacks none "cases"))

/-- The answers to a history of steps. -/
def run (session : Session) : List Step → List Answer
  | [] => []
  | s :: rest => (session.step s).2 :: run (session.step s).1 rest

end Session

end ShapeMatch

import ShapeMatch.Config.Shorthand
import ShapeMatch.Matcher.Builder

/-! Configurations: matchers as plain data. Each case pairs a shorthand with the action value
that is the answer when the case wins. -/
namespace ShapeMatch

variable [RegexEngine]

/-- A compiled schema and its action. -/
structure CaseConfig where
  schema : Schema
  action : Value

/-- A matcher as data. Without a value for the default, some values have no answer. -/
structure MatcherConfig where
  cases : List CaseConfig
  default : Value

namespace Config

def readCase : Value → Except ConfigError CaseConfig
  | .mapping .dict entries =>
    match field? "when" entries, field? "action" entries with
    | none, _ => .error .missingWhen
    | _, none => .error .missingAction
    | some condition, some action => do
      let shorthand ← readShorthand condition
      let schema ← shorthand.compile.mapError .uncompilable
      return ⟨schema, action⟩
  | v => .error (.caseNotADict v.className)

def readCases : List Value → Except ConfigError (List CaseConfig)
  | [] => .ok []
  | v :: rest => do
    let c ← readCase v
    return c :: (← readCases rest)

/-- Reads a configuration. The number of cases is checked before any of them. -/
def read : Value → Except ConfigError MatcherConfig
  | .mapping .dict entries =>
    match field? "cases" entries with
    | none | some .null => .error .missingCases
    | some (.sequence .list cases) =>
      if cases.length > maxCases then .error (.tooManyCases cases.length)
      else (readCases cases).map fun cases =>
        ⟨cases, (field? "default" entries).getD .undefined⟩
    | some v => .error (.casesNotAList v.className)
  | v => .error (.notADict v.className)

end Config

/-- A handler that answers with an action. -/
def actionHandler (action : Value) : Function := .constant "handler" action

/-- What loading a configuration gives. -/
structure Loaded where
  matcher : Matcher
  warnings : List Unreachable
  log : List LogEntry

namespace MatcherConfig

def hasDefault (c : MatcherConfig) : Bool :=
  match c.default with
  | .undefined => false
  | _ => true

/-- Appends the cases of a configuration, one after the other. -/
def addCases (m : Matcher) (warnings : List Unreachable) :
    List CaseConfig → Except BuildError (Matcher × List Unreachable)
  | [] => .ok (m, warnings)
  | c :: rest => do
    let (m, more) ← m.case (.schema c.schema) [actionHandler c.action]
    addCases m (warnings ++ more) rest

/-- Builds the matcher of a configuration, with its default as the last case. -/
def load (c : MatcherConfig) : Except BuildError Loaded := do
  let (m, warnings) ← addCases .start [] c.cases
  let (m, more) := if c.hasDefault then m.default (actionHandler c.default) else (m, [])
  return ⟨m, warnings ++ more, [.loaded c.cases.length c.hasDefault]⟩

end MatcherConfig

end ShapeMatch

import ShapeMatch.Shorthand.Compile

/-! Why a configuration is rejected. -/
namespace ShapeMatch

variable [RegexEngine]

/-- The most cases a configuration may have. -/
def maxCases : Nat := 256

/-- The most characters a pattern in a configuration may have. -/
def maxPatternLength : Nat := 4096

inductive ConfigError where
  | notADict (className : String)
  | missingCases
  | casesNotAList (className : String)
  | tooManyCases (count : Nat)
  | caseNotADict (className : String)
  | missingWhen
  | missingAction
  | notAShorthand (className : String)
  | missingType
  | unknownType (kind : Value)
  | missingLiteral
  | literalNotScalar (className : String)
  | patternNotText (className : String)
  | patternTooLong (length : Nat)
  | badPattern (e : ShorthandError)
  | emptyTuple
  | fieldsNotADict (className : String)
  /-- the shorthand was read, but has no schema -/
  | uncompilable (e : ShorthandError)
  /-- the error would show a value that has no text -/
  | unwritable

def ConfigError.message : ConfigError → String
  | .notADict className => "expected dict, got " ++ className
  | .missingCases => "missing required field 'cases'"
  | .casesNotAList className => "'cases' must be a list, got " ++ className
  | .tooManyCases count =>
    "too many cases: " ++ toString count ++ " exceeds maximum " ++ toString maxCases
  | .caseNotADict className => "case must be a dict, got " ++ className
  | .missingWhen => "case missing required field 'when'"
  | .missingAction => "case missing required field 'action'"
  | .notAShorthand className => "shorthand must be a scalar or a dict, got " ++ className
  | .missingType => "shorthand missing required field 'type'"
  | .unknownType kind => "unknown shorthand type: " ++ kind.display
  | .missingLiteral => "literal shorthand missing required field 'value'"
  | .literalNotScalar className => "literal value must be a scalar, got " ++ className
  | .patternNotText className =>
    "regex shorthand requires a 'pattern' string, got " ++ className
  | .patternTooLong length =>
    "pattern length " ++ toString length ++ " exceeds maximum " ++ toString maxPatternLength
  | .badPattern e => "invalid regex pattern: " ++ e.message
  | .emptyTuple => "tuple shorthand requires a non-empty 'items' list"
  | .fieldsNotADict className => "'fields' must be a dict, got " ++ className
  | .uncompilable e => e.message
  | .unwritable => Fault.unwritable.message

end ShapeMatch

/-! Why a text is not a pattern. -/
namespace ShapeMatch.Regex

/-- The rule that a rejected pattern breaks. -/
inductive Violation where
  | invalidEscape
  | invalidClassRange
  | missingBracket
  | missingParen
  | unexpectedParen
  | trailingBackslash
  | missingArgument
  | invalidRepetitionSize
  | stackedRepetition
  | invalidGroup
  | invalidName
  | brokenText
  deriving DecidableEq

/-- The wording of a violation. -/
def Violation.message : Violation → String
  | .invalidEscape => "invalid escape sequence"
  | .invalidClassRange => "invalid character class range"
  | .missingBracket => "missing ]"
  | .missingParen => "missing )"
  | .unexpectedParen => "unexpected )"
  | .trailingBackslash => "trailing \\"
  | .missingArgument => "no argument for repetition operator"
  | .invalidRepetitionSize => "invalid repetition size"
  | .stackedRepetition => "bad repetition operator"
  | .invalidGroup => "invalid perl operator"
  | .invalidName => "invalid named capture group"
  | .brokenText => "invalid UTF-8"

/-- A violation with the part of the pattern that shows it. -/
structure Error where
  violation : Violation
  fragment : List Char
  deriving DecidableEq

def Error.message (e : Error) : String :=
  if e.fragment.isEmpty then e.violation.message
  else e.violation.message ++ ": " ++ String.ofList e.fragment

end ShapeMatch.Regex

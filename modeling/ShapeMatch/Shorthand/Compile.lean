import ShapeMatch.Shorthand.Basic

/-! Schemas from shorthands. Parts are compiled from left to right, and the first one that
fails decides. -/
namespace ShapeMatch

variable [RegexEngine]

/-- Why a shorthand has no schema. -/
inductive ShorthandError where
  | malformedList
  | bytesExpression
  | unsupportedFlags (names : List String)
  /-- the engine refuses a pattern text, with these bytes as its reason -/
  | badPattern (source : String) (complaint : List UInt8)

def ShorthandError.message : ShorthandError → String
  | .malformedList =>
    "invalid shorthand: lists should be in the form \x60[shorthand]\x60, and tuples should be " ++
      "in the form \x60[3, [shorthand1, shorthand2, shorthand3]]\x60"
  | .bytesExpression => "regex shorthand must be a str pattern, got bytes"
  | .unsupportedFlags names => "regex flags " ++ "|".intercalate names ++ " are not supported by RE2"
  | .badPattern source complaint =>
    "invalid regex pattern \"" ++ source ++ "\": " ++ Text.quotedBytes complaint

namespace Shorthand

/-- The schema of a text with a pattern in it. -/
def regexSchema (source : String) : Except ShorthandError Schema :=
  match Pattern.ofSource source with
  | .ok p => .ok (.regex p)
  | .error complaint => .error (.badPattern source complaint)

/-- The schema of a compiled expression. -/
def compileExpression (e : Expression) : Except ShorthandError Schema :=
  match e.text with
  | .bytes _ => .error .bytesExpression
  | .characters s =>
    match e.flags.unsupported with
    | [] => regexSchema (Expression.sourceOf e.flags s)
    | names => .error (.unsupportedFlags names)

def markerSchema : Marker → Schema
  | .string => .string
  | .number => .number
  | .integer => .integer
  | .boolean => .boolean
  | .list => .array .unknown
  | .dict => .object []

mutual

/-- The schema of a shorthand. A list is empty, has one member for all members of an array,
or is a count with the list of so many members of a tuple. -/
def compile : Shorthand → Except ShorthandError Schema
  | .undefined => .ok .undefined
  | .null => .ok .null
  | .marker m => .ok (markerSchema m)
  | .scalar s => .ok (.literal s.value)
  | .expression e => compileExpression e
  | .list [] => .ok (.array .unknown)
  | .list [item] => do return .array (← item.compile)
  | .list [.scalar (.int n), .list items] =>
    if 1 ≤ n && n = items.length then do return .tuple (← compileAll items)
    else .error .malformedList
  | .list _ => .error .malformedList
  | .tuple [] => .ok (.array .unknown)
  | .tuple (item :: items) => do return .tuple (← compileAll (item :: items))
  | .model m => .ok (.model m)
  | .schema s => .ok s
  | .mapping entries => do return .object (← compileEntries entries)
  | .other _ => .ok .unknown

def compileAll : List Shorthand → Except ShorthandError (List Schema)
  | [] => .ok []
  | s :: rest => do
    let schema ← s.compile
    return schema :: (← compileAll rest)

def compileEntries : List (Value × Shorthand) → Except ShorthandError (List (Value × Schema))
  | [] => .ok []
  | (k, s) :: rest => do
    let schema ← s.compile
    return (k, schema) :: (← compileEntries rest)

end

/-- The schema of a shorthand that may be missing altogether. -/
def compile? : Option Shorthand → Except ShorthandError Schema
  | none => .ok .unknown
  | some s => s.compile

end Shorthand

end ShapeMatch

import ShapeMatch.Config.Error

/-! Shorthands in configurations. A scalar stands for itself, and a dictionary says by its
`type` what it is. -/
namespace ShapeMatch.Config

variable [RegexEngine]

/-- The shorthand of a scalar, if the value is one. -/
def scalar? : Value → Option Shorthand
  | .null => some .null
  | .text s => some (.scalar (.text s))
  | .int n => some (.scalar (.int n))
  | .float x => some (.scalar (.float x))
  | .bool b => some (.scalar (.bool b))
  | _ => none

/-- Whether a key is the one with this name. -/
def isNamed (name : String) (k : Value) : Bool := (Value.text name).sameKey k

/-- The entry with this name. -/
def field? (name : String) (entries : Entries Value) : Option Value :=
  Entries.get? (.text name) entries

def literal (entries : Entries Value) : Except ConfigError Shorthand :=
  match field? "value" entries with
  | none => .error .missingLiteral
  | some v => (scalar? v).elim (.error (.literalNotScalar v.className)) .ok

def regex (entries : Entries Value) : Except ConfigError Shorthand :=
  match (field? "pattern" entries).getD .null with
  | .text pattern =>
    if pattern.length > maxPatternLength then .error (.patternTooLong pattern.length)
    else ((Shorthand.regexSchema pattern).mapError .badPattern).map .schema
  | v => .error (.patternNotText v.className)

mutual

/-- Reads the configuration of a shorthand. -/
def readShorthand : Value → Except ConfigError Shorthand
  | .mapping .dict entries =>
    match field? "type" entries with
    | none | some .null => .error .missingType
    | some (.text "unknown") => .ok (.schema .unknown)
    | some (.text "undefined") => .ok .undefined
    | some (.text "null") => .ok .null
    | some (.text "string") => .ok (.marker .string)
    | some (.text "number") => .ok (.marker .number)
    | some (.text "integer") => .ok (.marker .integer)
    | some (.text "boolean") => .ok (.marker .boolean)
    | some (.text "literal") => literal entries
    | some (.text "regex") => regex entries
    | some (.text "array") => readArray entries
    | some (.text "tuple") => readTuple entries
    | some (.text "object") => readObject entries
    | some kind => .error (if kind.isWritable then .unknownType kind else .unwritable)
  | v => (scalar? v).elim (.error (.notAShorthand v.className)) .ok

/-- An array, by the entry for its members; any sequence without one. -/
def readArray : List (Value × Value) → Except ConfigError Shorthand
  | [] => .ok (.marker .list)
  | (k, v) :: rest =>
    if isNamed "items" k then (readShorthand v).map fun item => .list [item] else readArray rest

/-- A tuple, by the entry with the list of its members. -/
def readTuple : List (Value × Value) → Except ConfigError Shorthand
  | [] => .error .emptyTuple
  | (k, v) :: rest =>
    if isNamed "items" k then
      match v with
      | .sequence .list (item :: items) =>
        (readAll (item :: items)).map fun shorthands =>
          .list [.scalar (.int shorthands.length), .list shorthands]
      | _ => .error .emptyTuple
    else readTuple rest

/-- An object, by the entry with its fields; any mapping without one. -/
def readObject : List (Value × Value) → Except ConfigError Shorthand
  | [] => .ok (.marker .dict)
  | (k, v) :: rest =>
    if isNamed "fields" k then
      match v with
      | .mapping .dict fields => (readFields fields).map .mapping
      | v => .error (.fieldsNotADict v.className)
    else readObject rest

def readAll : List Value → Except ConfigError (List Shorthand)
  | [] => .ok []
  | v :: rest => do
    let s ← readShorthand v
    return s :: (← readAll rest)

def readFields : List (Value × Value) → Except ConfigError (List (Value × Shorthand))
  | [] => .ok []
  | (k, v) :: rest => do
    let s ← readShorthand v
    return (k, s) :: (← readFields rest)

end

end ShapeMatch.Config

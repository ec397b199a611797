import ShapeMatch.Model.Basic
import ShapeMatch.Pattern
import ShapeMatch.Schema.Custom
import ShapeMatch.Value.Equality

/-! Schemas: descriptions of the shape of a value. -/
namespace ShapeMatch

variable [RegexEngine]

inductive Schema where
  /-- anything, the absence of a value included -/
  | unknown
  | undefined
  | null
  | string
  /-- any real number but the undefined one -/
  | number
  | integer
  | boolean
  | literal (v : Value)
  /-- a text in which the pattern occurs -/
  | regex (p : Pattern)
  /-- a sequence of any length -/
  | array (items : Schema)
  /-- a sequence of exactly these members -/
  | tuple (items : List Schema)
  /-- a mapping with at least these keys; a missing key counts as one that holds no value -/
  | object (fields : List (Value × Schema))
  | model (m : Model)
  /-- the values of another schema for which a predicate holds -/
  | refined (base : Schema) (predicate : Function)
  | custom (c : Custom)
  /-- a value in the place of a schema, which cannot validate -/
  | misplaced (v : Value)
  deriving Inhabited

namespace Schema

mutual

/-- The short text of a schema. -/
def label : Schema → String
  | .unknown => "unknown"
  | .undefined => "undefined"
  | .null => "null"
  | .string => "string"
  | .number => "number"
  | .integer => "integer"
  | .boolean => "boolean"
  | .literal v => "literal(" ++ v.display ++ ")"
  | .regex p => "regex(" ++ Text.quoted p.source ++ ")"
  | .array items => "array<" ++ items.label ++ ">"
  | .tuple items => "tuple[" ++ commaSeparated (labels items) ++ "]"
  | .object fields => "\x7b" ++ commaSeparated (fieldLabels fields ++ ["..."]) ++ "\x7d"
  | .model m => m.label
  | .refined base p => base.label ++ ".refine(" ++ p.name ++ ")"
  | .custom c => c.name
  | .misplaced v => v.asText

def labels : List Schema → List String
  | [] => []
  | s :: rest => s.label :: labels rest

def fieldLabels : List (Value × Schema) → List String
  | [] => []
  | (k, s) :: rest => (k.asText ++ ": " ++ s.label) :: fieldLabels rest

end

mutual

/-- Whether the label of a schema can be written. -/
def isWritable : Schema → Bool
  | .literal v | .misplaced v => v.isWritable
  | .array s | .refined s _ => s.isWritable
  | .tuple items => allWritable items
  | .object fields => fieldsWritable fields
  | _ => true

def allWritable : List Schema → Bool
  | [] => true
  | s :: rest => s.isWritable && allWritable rest

def fieldsWritable : List (Value × Schema) → Bool
  | [] => true
  | (k, s) :: rest => k.isWritable && s.isWritable && fieldsWritable rest

end

mutual

/-- A schema seen as a value. -/
def asValue : Schema → Value
  | .unknown => .schema "UnknownSchema" (label .unknown) []
  | .undefined => .schema "UndefinedSchema" (label .undefined) []
  | .null => .schema "NullSchema" (label .null) []
  | .string => .schema "StringSchema" (label .string) []
  | .number => .schema "NumberSchema" (label .number) []
  | .integer => .schema "IntegerSchema" (label .integer) []
  | .boolean => .schema "BooleanSchema" (label .boolean) []
  | .literal v => .schema "LiteralSchema" (label (.literal v)) [("value", v)]
  | .regex p => .schema "RegexSchema" (label (.regex p)) [("pattern", .text p.source)]
  | .array items => .schema "ArraySchema" (label (.array items)) [("items", items.asValue)]
  | .tuple items =>
    .schema "TupleSchema" (label (.tuple items)) [("items", .tuple (values items))]
  | .object fields =>
    .schema "ObjectSchema" (label (.object fields)) [("fields", .mapping .view (fieldValues fields))]
  | .model m =>
    .schema "ModelSchema" m.label [("adapter", m.adapterValue), ("label", .text m.label)]
  | .refined base p =>
    .schema "RefinedSchema" (label (.refined base p))
      [("base", base.asValue), ("predicate", p.asValue)]
  | .custom c => .object c.name c.name c.name
  | .misplaced v => v

def values : List Schema → List Value
  | [] => []
  | s :: rest => s.asValue :: values rest

def fieldValues : List (Value × Schema) → List (Value × Value)
  | [] => []
  | (k, s) :: rest => (k, s.asValue) :: fieldValues rest

end

mutual

/-- Compares schemas: equal ones are of the same kind with equal parts, where literals are
equal as values, the order of fields does not matter, and custom schemas go by their names.
Fields are compared in the order of the second object. -/
def compare : Schema → Schema → Comparison
  | .unknown, .unknown | .undefined, .undefined | .null, .null | .string, .string
  | .number, .number | .integer, .integer | .boolean, .boolean => .equal
  | .literal v, .literal w => v.compare w
  | .regex p, .regex q => .ofBool (p.source == q.source)
  | .array s, .array t => s.compare t
  | .tuple ss, .tuple ts => compareItems ss ts
  | .object fs, .object gs => .onlyIf (fs.length == gs.length) (compareFields gs fs)
  | .model m, .model n => .ofBool (m.equal n)
  | .refined s p, .refined t q => (s.compare t).andThen (.ofBool (p.same q))
  | .custom c, .custom d => .ofBool (c.name == d.name)
  | .misplaced v, .misplaced w => v.compare w
  | _, _ => .different
termination_by s t => sizeOf s + sizeOf t

def compareItems : List Schema → List Schema → Comparison
  | [], [] => .equal
  | s :: ss, t :: ts => (s.compare t).andThen (compareItems ss ts)
  | _, _ => .different
termination_by ss ts => sizeOf ss + sizeOf ts

/-- Compares every field of the first object with the one of its key in the second. -/
def compareFields : List (Value × Schema) → List (Value × Schema) → Comparison
  | [], _ => .equal
  | (k, s) :: rest, gs =>
    (match _h : Entries.get? k gs with
      | some t => s.compare t
      | none => .different).andThen (compareFields rest gs)
termination_by fs gs => sizeOf fs + sizeOf gs
decreasing_by
  · have := Entries.sizeOf_lt_of_get? _h
    simp only [List.cons.sizeOf_spec, Prod.mk.sizeOf_spec]
    omega
  · simp only [List.cons.sizeOf_spec, Prod.mk.sizeOf_spec]
    omega

end

/-- Whether two schemas are equal. -/
def equal (s t : Schema) : Bool := s.compare t == .equal

end Schema

end ShapeMatch

import ShapeMatch.Expression
import ShapeMatch.Number.Decimal
import ShapeMatch.Number.Written

/-! The values that are matched. Their shape is unknown beforehand, so all kinds are one
type. -/
namespace ShapeMatch

/-- A sequence can be a list or a tuple; only its equality and its text tell them apart. -/
inductive SequenceForm where
  | list
  | tuple
  deriving DecidableEq, Inhabited

/-- A mapping can be a dictionary or a read-only view of one. -/
inductive MappingForm where
  | dict
  | view
  deriving DecidableEq, Inhabited

/-- A class seen as a value: its name, its text, and the name of its own class. -/
structure ClassRef where
  name : String
  shown : String
  metaclass : String
  deriving DecidableEq, Inhabited

/-- Whether a class is that of a record model. -/
def ClassRef.isRecordModel (c : ClassRef) : Bool := c.metaclass == "ModelMetaclass"

/-- A value of unknown shape. -/
inductive Value where
  /-- no value at all, unlike an explicit null -/
  | undefined
  | null
  | bool (b : Bool)
  | int (n : Int)
  | float (x : Binary64)
  | fraction (q : Rat)
  | decimal (d : Decimal)
  | complex (re im : Binary64)
  /-- a text of characters; halves of surrogate pairs are none, and cannot stand in it -/
  | text (s : String)
  | bytes (b : List UInt8)
  | sequence (form : SequenceForm) (items : List Value)
  /-- the entries are in order of insertion, and no two keys are the same -/
  | mapping (form : MappingForm) (entries : List (Value × Value))
  | set (items : List Value)
  /-- an instance of a record model, with all its fields in order -/
  | record (model : String) (fields : List (String × Value))
  | classRef (c : ClassRef)
  | expression (e : Expression)
  /-- a schema seen as a value: its class, its short text, and its parts by their names -/
  | schema (className label : String) (parts : List (String × Value))
  /-- any other object: the full name of its class, a text, and an identity if it equals itself -/
  | object (className shown : String) (identity : Option String)
  deriving Inhabited

namespace Value

abbrev list (items : List Value) : Value := .sequence .list items
abbrev tuple (items : List Value) : Value := .sequence .tuple items
abbrev dict (entries : List (Value × Value)) : Value := .mapping .dict entries

/-- A class name without the module it is known under. -/
def unqualified (name : String) : String :=
  .ofList (name.toList.reverse.takeWhile (· ≠ '.')).reverse

/-- The name of a value's class. -/
def className : Value → String
  | .undefined => "_Undefined"
  | .null => "NoneType"
  | .bool _ => "bool"
  | .int _ => "int"
  | .float _ => "float"
  | .fraction _ => "Fraction"
  | .decimal _ => "Decimal"
  | .complex .. => "complex"
  | .text _ => "str"
  | .bytes _ => "bytes"
  | .sequence .list _ => "list"
  | .sequence .tuple _ => "tuple"
  | .mapping .dict _ => "dict"
  | .mapping .view _ => "mappingproxy"
  | .set _ => "set"
  | .record model _ => model
  | .classRef c => c.metaclass
  | .expression _ => "Pattern"
  | .schema className .. => className
  | .object className .. => unqualified className

/-- The name of a value's class with the module it is known under, if it says that. -/
def fullClassName : Value → String
  | .decimal _ => "decimal.Decimal"
  | .expression _ => "re.Pattern"
  | .object className .. => className
  | v => v.className

/-- How a rejection names what it found. -/
def kindName : Value → String
  | .undefined => "undefined"
  | .null => "None"
  | v => v.className

/-- What a value stands for as a number, by its real and its imaginary part. -/
def number? : Value → Option (Exact × Exact)
  | .bool b => some (.ofBool b, .ofInt 0)
  | .int n => some (.ofInt n, .ofInt 0)
  | .float x => some (.ofBinary64 x, .ofInt 0)
  | .fraction q => some (.rational q, .ofInt 0)
  | .decimal d => some (d.exact, .ofInt 0)
  | .complex re im => some (.ofBinary64 re, .ofBinary64 im)
  | _ => none

/-- Whether a value objects to being compared with numbers. -/
def isSignaling : Value → Bool
  | .decimal d => d.isSignaling
  | _ => false

/-- Null, a text, a number or a truth value: what a configuration may hold as it is. -/
def isScalar : Value → Bool
  | .null | .text _ | .int _ | .float _ | .bool _ => true
  | _ => false

/-- Whether a condition that evaluates to this value holds. Absence, zero and emptiness do
not; the undefined number does. -/
def truthy : Value → Bool
  | .undefined | .null => false
  | .text s => !s.isEmpty
  | .bytes b => !b.isEmpty
  | .sequence _ items => !items.isEmpty
  | .mapping _ entries => !entries.isEmpty
  | .set items => !items.isEmpty
  | v =>
    match v.number? with
    | some (re, im) => !(re.isZero && im.isZero)
    | none => true

/-- The value that an object holds under the name `value`, as only the schema of a literal does. -/
def held? : Value → Option Value
  | .schema _ _ parts => parts.lookup "value"
  | _ => none

/-- Whether two values are the same one of a kind: no value, null, or a truth value. -/
def isSole : Value → Value → Bool
  | .undefined, .undefined => true
  | .null, .null => true
  | .bool a, .bool b => a == b
  | _, _ => false

theorem eq_of_isSole {v w : Value} (h : v.isSole w) : v = w := by
  unfold isSole at h
  split at h <;> simp_all

end Value

end ShapeMatch

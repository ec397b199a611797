import ShapeMatch.Expression
import ShapeMatch.Schema.Validate

/-! Shorthands: the compact way to describe a shape. -/
namespace ShapeMatch

variable [RegexEngine]

/-- Names of types that stand for a schema. -/
inductive Marker where
  | string
  | number
  | integer
  | boolean
  | list
  | dict
  deriving DecidableEq

/-- A text, number or truth value, which stands for itself. -/
inductive Scalar where
  | text (s : String)
  | int (n : Int)
  | float (x : Binary64)
  | bool (b : Bool)

def Scalar.value : Scalar → Value
  | .text s => .text s
  | .int n => .int n
  | .float x => .float x
  | .bool b => .bool b

inductive Shorthand where
  | undefined
  | null
  | marker (m : Marker)
  | scalar (s : Scalar)
  | expression (e : Expression)
  | list (items : List Shorthand)
  | tuple (items : List Shorthand)
  /-- a record model or an adapter -/
  | model (m : Model)
  | schema (s : Schema)
  | mapping (entries : List (Value × Shorthand))
  /-- anything else: it says nothing about the shape -/
  | other (v : Value)
  deriving Inhabited

end ShapeMatch

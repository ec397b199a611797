import ShapeMatch.Text.Quoted
import ShapeMatch.Value.Basic

/-! The text of values in messages. `display` shows a value as it would be written down;
`asText` is the plain text of it, which differs for a few kinds at the outermost level. Numbers of
very many digits have no text, nor has a value that holds one. -/
namespace ShapeMatch

/-- The parts, with a comma and a blank between them. -/
def commaSeparated (parts : List String) : String := ", ".intercalate parts

/-- The text of a complex number: the imaginary part with its sign, and the real part before
it unless that is a positive zero. -/
def displayComplex (re im : Binary64) : String :=
  let imaginary := Binary64.bare.write im ++ "j"
  let hasSign := imaginary.startsWith "-"
  match re with
  | .finite false 0 _ => imaginary
  | _ => "(" ++ Binary64.bare.write re ++ (if hasSign then "" else "+") ++ imaginary ++ ")"

mutual

def Value.display : Value → String
  | .undefined => "UNDEFINED"
  | .null => "None"
  | .bool b => if b then "True" else "False"
  | .int n => toString n
  | .float x => x.text
  | .fraction q => "Fraction(" ++ toString q.num ++ ", " ++ toString q.den ++ ")"
  | .decimal d => "Decimal('" ++ d.text ++ "')"
  | .complex re im => displayComplex re im
  | .text s => Text.quoted s
  | .bytes b => Text.quotedBytes b
  | .sequence .list items => "[" ++ commaSeparated (Value.displayAll items) ++ "]"
  | .sequence .tuple [item] => "(" ++ item.display ++ ",)"
  | .sequence .tuple items => "(" ++ commaSeparated (Value.displayAll items) ++ ")"
  | .mapping .dict entries => "\x7b" ++ commaSeparated (Value.displayEntries entries) ++ "\x7d"
  | .mapping .view entries =>
    "mappingproxy(\x7b" ++ commaSeparated (Value.displayEntries entries) ++ "\x7d)"
  | .set [] => "set()"
  | .set items => "\x7b" ++ commaSeparated (Value.displayAll items) ++ "\x7d"
  | .record model fields => model ++ "(" ++ commaSeparated (Value.displayFields fields) ++ ")"
  | .classRef c => c.shown
  | .expression e => e.display
  | .schema className _ parts =>
    className ++ "(" ++ commaSeparated (Value.displayFields parts) ++ ")"
  | .object _ shown _ => shown

def Value.displayAll : List Value → List String
  | [] => []
  | v :: rest => v.display :: Value.displayAll rest

def Value.displayEntries : List (Value × Value) → List String
  | [] => []
  | (k, v) :: rest => (k.display ++ ": " ++ v.display) :: Value.displayEntries rest

def Value.displayFields : List (String × Value) → List String
  | [] => []
  | (name, v) :: rest => (name ++ "=" ++ v.display) :: Value.displayFields rest

end

/-- The plain text of a value. -/
def Value.asText : Value → String
  | .text s => s
  | .fraction q => if q.den = 1 then toString q.num else toString q.num ++ "/" ++ toString q.den
  | .decimal d => d.text
  | .record _ fields => " ".intercalate (Value.displayFields fields)
  | .mapping .view entries => (Value.dict entries).display
  | .schema _ label _ => label
  | v => v.display

/-- The least number with too many digits to be written. -/
def writtenBound : Nat := Nat.pow 10 Numeral.maxDigits

/-- Whether a whole number is short enough to be written. -/
def isShortNumber (n : Int) : Bool := n.natAbs < writtenBound

mutual

/-- Whether a value has a text: all numbers in it are short enough. -/
def Value.isWritable : Value → Bool
  | .int n => isShortNumber n
  | .fraction q => isShortNumber q.num && isShortNumber q.den
  | .sequence _ items => Value.allWritable items
  | .mapping _ entries => Value.entriesWritable entries
  | .set items => Value.allWritable items
  | .record _ fields => Value.fieldsWritable fields
  | .schema _ _ parts => Value.fieldsWritable parts
  | _ => true

def Value.allWritable : List Value → Bool
  | [] => true
  | v :: rest => v.isWritable && Value.allWritable rest

def Value.entriesWritable : List (Value × Value) → Bool
  | [] => true
  | (k, v) :: rest => k.isWritable && v.isWritable && Value.entriesWritable rest

def Value.fieldsWritable : List (String × Value) → Bool
  | [] => true
  | (_, v) :: rest => v.isWritable && Value.fieldsWritable rest

end

end ShapeMatch

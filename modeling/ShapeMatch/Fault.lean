import ShapeMatch.Value.Display

/-! Faults: what a function or a custom schema raises instead of answering. -/
namespace ShapeMatch

inductive Fault where
  /-- a function objects to a value -/
  | objection (v : Value)
  /-- a function needs a value with a length -/
  | unsized (v : Value)
  | noFirst
  | noContent
  /-- a value is asked for a member that its class does not have -/
  | lacks (v : Value) (member : String)
  /-- a number has too many digits to be written -/
  | unwritable
  /-- a number that signals was compared -/
  | invalidComparison

def Fault.message : Fault → String
  | .objection v => "boom: " ++ v.display
  | .unsized v => "object of type '" ++ v.fullClassName ++ "' has no len()"
  | .noFirst => "no first"
  | .noContent => "no content"
  | .lacks (.classRef c) member =>
    if c.isRecordModel then member
    else "type object '" ++ c.name ++ "' has no attribute '" ++ member ++ "'"
  | .lacks v member => "'" ++ v.fullClassName ++ "' object has no attribute '" ++ member ++ "'"
  | .unwritable =>
    "Exceeds the limit (" ++ toString Numeral.maxDigits ++ " digits) for integer string " ++
      "conversion; use sys.set_int_max_str_digits() to increase the limit"
  | .invalidComparison => "[<class 'decimal.InvalidOperation'>]"

end ShapeMatch

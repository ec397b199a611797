import ShapeMatch.Model.WholeNumber
import ShapeMatch.Value.Key
import ShapeMatch.Verdict

/-! Record models: types of data that read loosely typed input and turn it into values of
their own. A number may come as a text, a record as a mapping. -/
namespace ShapeMatch

/-- A type of data: whole numbers, texts, lists of one type, or records with named fields. -/
inductive DataType where
  | integer
  | text
  | list (items : DataType)
  | record (model : String) (fields : List (String × DataType))

namespace DataType

/-- The text that bytes encode. -/
def textOfBytes? (b : List UInt8) : Option String := String.fromUTF8? ⟨b.toArray⟩

/-- Reads a whole number. -/
def readInteger : Value → Except WholeNumber.Problem Int
  | .int n => .ok n
  | .bool b => .ok (if b then 1 else 0)
  | .text s => WholeNumber.ofText s.toList
  | .bytes b => (textOfBytes? b).elim (.error .unreadable) fun s => WholeNumber.ofText s.toList
  | .float x => WholeNumber.ofBinary64 x
  | .fraction q => WholeNumber.ofExact (.rational q)
  | .decimal d => WholeNumber.ofExact d.exact
  | _ => .error .otherKind

/-- Reads a text. -/
def readText : Value → Except Failure String
  | .text s => .ok s
  | .bytes b =>
    match textOfBytes? b with
    | some s => .ok s
    | none => .error
      ⟨.stated "Input should be a valid string, unable to parse raw data as a unicode string", []⟩
  | _ => .error ⟨.stated "Input should be a valid string", []⟩

/-- The members of a value that can be read as a list. A record gives its fields. -/
def members? : Value → Option (List Value)
  | .sequence _ items => some items
  | .set items => some items
  | .record _ fields => some (fields.map fun (name, v) => .tuple [.text name, v])
  | _ => none

/-- Reads the members of a list, from index `n` on. -/
def readItems (read : Value → Except Failure Value) (n : Nat) :
    List Value → Except Failure (List Value)
  | [] => .ok []
  | v :: rest =>
    match read v with
    | .error f => .error (f.under (.int n))
    | .ok w => (readItems read (n + 1) rest).map (w :: ·)

mutual

/-- Reads a value as one of the type. -/
def read : DataType → Value → Except Failure Value
  | .integer, v =>
    match readInteger v with
    | .ok n => .ok (.int n)
    | .error p => .error ⟨.stated p.message, []⟩
  | .text, v => (readText v).map .text
  | .list items, v =>
    match members? v with
    | some vs => (readItems items.read 0 vs).map .list
    | none => .error ⟨.stated "Input should be a valid list", []⟩
  | .record model fields, v =>
    match v with
    | .record name values => if name = model then .ok (.record name values) else notRecord model
    | .mapping _ entries => (readFields fields entries).map (.record model)
    | _ => notRecord model
where
  notRecord (model : String) : Except Failure Value :=
    .error ⟨.stated ("Input should be a valid dictionary or instance of " ++ model), []⟩

/-- Reads the fields of a record; entries under other keys are left alone. -/
def readFields : List (String × DataType) → Entries Value → Except Failure (List (String × Value))
  | [], _ => .ok []
  | (name, type) :: rest, entries =>
    match Entries.get? (.text name) entries with
    | none => .error ⟨.stated "Field required", [.text name]⟩
    | some v =>
      match type.read v with
      | .error f => .error (f.under (.text name))
      | .ok w => (readFields rest entries).map ((name, w) :: ·)

end

/-- Whether reading hands a value back as it is, where it succeeds: a record of the type
itself, or a number or text that needs no reading. Lists are made anew. -/
def keeps : DataType → Value → Bool
  | .integer, .int _ => true
  | .text, .text _ => true
  | .record model _, .record name _ => name = model
  | _, _ => false

/-- A point in the plane. -/
def point : DataType := .record "Point" [("x", .integer), ("y", .integer)]

def email : DataType := .record "Email" [("sender", .text), ("subject", .text), ("body", .text)]

def sms : DataType := .record "SMS" [("phone", .text), ("content", .text)]

/-- A line from a point, with tags. -/
def line : DataType := .record "Line" [("start", point), ("tags", .list .text)]

def integers : DataType := .list .integer

end DataType

end ShapeMatch

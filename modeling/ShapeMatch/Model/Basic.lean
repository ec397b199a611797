import ShapeMatch.Model.DataType

/-! Models as schemas see them: validation that is delegated to someone else. -/
namespace ShapeMatch

/-- Why a model hands nothing back. -/
inductive ModelError where
  | rejects (f : Failure)
  /-- what it raises is no rejection -/
  | raises (fault : Fault)

/-- A model with its label and the text of its adapter. It may have been made from a ready
adapter, which other models can have too; otherwise it has one of its own. -/
structure Model where
  label : String
  adapter : String
  shared : Bool
  /-- accepts a value, with `none` if it is handed back as it is -/
  check : Value → Except ModelError (Option Value)

namespace Model

/-- The check of a data type. -/
def checkOf (type : DataType) (v : Value) : Except ModelError (Option Value) :=
  ((type.read v).map fun w => if type.keeps v then none else some w).mapError .rejects

/-- The text of an adapter for the type of that name. -/
def adapterFor (name : String) : String := "TypeAdapter(" ++ name ++ ")"

/-- The model of a record type, under its own name. -/
def ofRecord (name : String) (type : DataType) : Model :=
  ⟨name, adapterFor name, false, checkOf type⟩

/-- The model of a ready adapter for a type. -/
def ofAdapter (name : String) (type : DataType) : Model :=
  ⟨adapterFor name, adapterFor name, true, checkOf type⟩

def point : Model := .ofRecord "Point" .point
def email : Model := .ofRecord "Email" .email
def sms : Model := .ofRecord "SMS" .sms
def line : Model := .ofRecord "Line" .line
def listOfInt : Model := ⟨"list", adapterFor "list[int]", false, checkOf .integers⟩
def listOfIntAdapter : Model := .ofAdapter "list[int]" .integers
def pointAdapter : Model := .ofAdapter "Point" .point

/-- The adapter of a model seen as a value. It equals itself, but only a shared one can be met
again. -/
def adapterValue (m : Model) : Value :=
  .object "TypeAdapter" m.adapter (if m.shared then some m.adapter else none)

/-- The verdict of a model. -/
def verdict (m : Model) (v : Value) : Verdict :=
  match m.check v with
  | .ok none => .kept
  | .ok (some w) => .changed w
  | .error (.rejects f) => .rejected f
  | .error (.raises fault) => .raised fault

/-- Whether two models are one: only those made from one adapter are. -/
def equal (a b : Model) : Bool :=
  a.shared && b.shared && a.adapter == b.adapter && a.label == b.label

end Model

end ShapeMatch

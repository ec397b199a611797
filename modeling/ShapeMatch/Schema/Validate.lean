import ShapeMatch.Schema.Basic

/-! Validation of values against schemas. A container validates all its members and lets the
first one that does not pass decide; if all pass, it hands back the very value it was given
unless a member was changed. -/
namespace ShapeMatch

variable [RegexEngine]

/-- A member of a container under validation: where it stands, what it is, and how it fared. -/
structure Checked where
  key : Value
  raw : Value
  verdict : Verdict

namespace Checked

/-- The verdict on a member as it counts in its container. -/
def counted (c : Checked) : Verdict := c.verdict.nested.settled c.raw

/-- How a member ends the validation of its container, unless it passes. -/
def stop? (c : Checked) : Option Verdict :=
  match c.counted with
  | .rejected f => some (.rejected (f.under c.key))
  | .raised fault => some (.raised fault)
  | _ => none

/-- What validation made of a member that passed. -/
def result (c : Checked) : Value := (c.counted.value? c.raw).getD c.raw

def isKept (c : Checked) : Bool :=
  match c.counted with
  | .kept => true
  | _ => false

/-- The verdict of the first member that does not pass. -/
def firstStop? : List Checked → Option Verdict
  | [] => none
  | c :: rest => c.stop?.or (firstStop? rest)

end Checked

/-- Members with their indexes, from `n` on. -/
def indexed (n : Nat) : List (Value × Verdict) → List Checked
  | [] => []
  | (v, verdict) :: rest => ⟨.int n, v, verdict⟩ :: indexed (n + 1) rest

/-- The verdict on a sequence from those on its members. -/
def sequenceVerdict (form : SequenceForm) (members : List Checked) : Verdict :=
  match Checked.firstStop? members with
  | some stop => stop
  | none =>
    if members.all Checked.isKept then .kept
    else .changed (.sequence form (members.map Checked.result))

/-- Puts a validated field into a mapping; one without a value is taken out. -/
def Entries.patch (entries : Entries Value) (c : Checked) : Entries Value :=
  match c.result with
  | .undefined => Entries.erase c.key entries
  | w => Entries.put c.key w entries

/-- The verdict on a mapping from those on the fields listed. Only fields that were changed
are put into the result. -/
def mappingVerdict (entries : Entries Value) (fields : List Checked) : Verdict :=
  match Checked.firstStop? fields with
  | some stop => stop
  | none =>
    if fields.all Checked.isKept then .kept
    else .changed (.dict ((fields.filter (!·.isKept)).foldl Entries.patch entries))

/-- A verdict narrowed by a predicate, which sees the value handed back. -/
def Verdict.refine (p : Function) (v : Value) (base : Verdict) : Verdict :=
  match base.nested.value? v with
  | none => base.nested
  | some w =>
    match p.holds w with
    | .error fault => .raised fault
    | .ok true => base
    | .ok false => .reject (.refused p.name v)

namespace Schema

mutual

/-- Validates a value against a schema. -/
def validate : Schema → Value → Verdict
  | .unknown, _ => .kept
  | .undefined, v =>
    match v with
    | .undefined => .kept
    | _ => .reject (.mismatch "undefined" v)
  | .null, v =>
    match v with
    | .null => .kept
    | _ => .reject (.mismatch "None" v)
  | .string, v =>
    match v with
    | .text _ => .kept
    | _ => .reject (.mismatch "string" v)
  | .number, v =>
    match v with
    | .int _ | .fraction _ => .kept
    | .float x => .keepIf (x ≠ .nan) .notANumber
    | _ => .reject (.mismatch "number" v)
  | .integer, v =>
    match v with
    | .int _ => .kept
    | _ => .reject (.mismatch "integer" v)
  | .boolean, v =>
    match v with
    | .bool _ => .kept
    | _ => .reject (.mismatch "boolean" v)
  | .literal wanted, v =>
    match wanted.compareLiteral v with
    | .equal => .kept
    | .different => .reject (.otherLiteral wanted v)
    | .invalid => .raised .invalidComparison
  | .regex p, v =>
    match v with
    | .text s => .keepIf (p.occursIn s) (.noOccurrence p.source s)
    | _ => .reject (.mismatch "string" v)
  | .array items, v =>
    match v with
    | .sequence form vs =>
      sequenceVerdict form (indexed 0 (vs.map fun member => (member, items.validate member)))
    | _ => .reject (.mismatch "array" v)
  | .tuple items, v =>
    match v with
    | .sequence form vs =>
      if vs.length = items.length then sequenceVerdict form (indexed 0 (validateItems items vs))
      else .reject (.wrongLength items.length vs.length)
    | _ => .reject (.mismatch "tuple" v)
  | .object fields, v =>
    match v with
    | .mapping _ entries => mappingVerdict entries (validateFields fields entries)
    | _ => .reject (.mismatch "mapping" v)
  | .model m, v => (m.verdict v).settled v
  | .refined base p, v => (base.validate v).refine p v
  | .custom c, v => (c.check v).settled v
  | .misplaced w, _ => .raised (.lacks w "validate")

/-- Validates members against the schemas at their positions. -/
def validateItems : List Schema → List Value → List (Value × Verdict)
  | s :: ss, v :: vs => (v, s.validate v) :: validateItems ss vs
  | _, _ => []

/-- Validates the entries of a mapping against the fields listed, in the order of these. -/
def validateFields : List (Value × Schema) → Entries Value → List Checked
  | [], _ => []
  | (k, s) :: rest, entries =>
    let raw := (Entries.get? k entries).getD .undefined
    ⟨k, raw, s.validate raw⟩ :: validateFields rest entries

end

/-! One equation for each kind of schema. -/

section

variable (v : Value)

@[simp] theorem validate_unknown : unknown.validate v = .kept := rfl

@[simp] theorem validate_undefined :
    undefined.validate v =
      match v with
      | .undefined => .kept
      | _ => .reject (.mismatch "undefined" v) := rfl

@[simp] theorem validate_null :
    null.validate v =
      match v with
      | .null => .kept
      | _ => .reject (.mismatch "None" v) := rfl

@[simp] theorem validate_string :
    string.validate v =
      match v with
      | .text _ => .kept
      | _ => .reject (.mismatch "string" v) := rfl

@[simp] theorem validate_number :
    number.validate v =
      match v with
      | .int _ | .fraction _ => .kept
      | .float x => .keepIf (x ≠ .nan) .notANumber
      | _ => .reject (.mismatch "number" v) := rfl

@[simp] theorem validate_integer :
    integer.validate v =
      match v with
      | .int _ => .kept
      | _ => .reject (.mismatch "integer" v) := rfl

@[simp] theorem validate_boolean :
    boolean.validate v =
      match v with
      | .bool _ => .kept
      | _ => .reject (.mismatch "boolean" v) := rfl

@[simp] theorem validate_literal (wanted : Value) :
    (literal wanted).validate v =
      match wanted.compareLiteral v with
      | .equal => .kept
      | .different => .reject (.otherLiteral wanted v)
      | .invalid => .raised .invalidComparison := rfl

@[simp] theorem validate_regex (p : Pattern) :
    (regex p).validate v =
      match v with
      | .text s => .keepIf (p.occursIn s) (.noOccurrence p.source s)
      | _ => .reject (.mismatch "string" v) := rfl

@[simp] theorem validate_array (items : Schema) :
    (array items).validate v =
      match v with
      | .sequence form vs =>
        sequenceVerdict form (indexed 0 (vs.map fun member => (member, items.validate member)))
      | _ => .reject (.mismatch "array" v) := rfl

@[simp] theorem validate_tuple (items : List Schema) :
    (tuple items).validate v =
      match v with
      | .sequence form vs =>
        if vs.length = items.length then sequenceVerdict form (indexed 0 (validateItems items vs))
        else .reject (.wrongLength items.length vs.length)
      | _ => .reject (.mismatch "tuple" v) := rfl

@[simp] theorem validate_object (fields : List (Value × Schema)) :
    (object fields).validate v =
      match v with
      | .mapping _ entries => mappingVerdict entries (validateFields fields entries)
      | _ => .reject (.mismatch "mapping" v) := rfl

@[simp] theorem validate_model (m : Model) :
    (model m).validate v = (m.verdict v).settled v := rfl

@[simp] theorem validate_refined (base : Schema) (p : Function) :
    (refined base p).validate v = (base.validate v).refine p v := rfl

@[simp] theorem validate_custom (c : Custom) :
    (custom c).validate v = (c.check v).settled v := rfl

@[simp] theorem validate_misplaced (w : Value) :
    (misplaced w).validate v = .raised (.lacks w "validate") := rfl

end

@[simp] theorem validateItems_nil (vs : List Value) : validateItems [] vs = [] := rfl

@[simp] theorem validateItems_cons_nil (s : Schema) (ss : List Schema) :
    validateItems (s :: ss) [] = [] := rfl

@[simp] theorem validateItems_cons_cons (s : Schema) (ss : List Schema) (v : Value)
    (vs : List Value) :
    validateItems (s :: ss) (v :: vs) = (v, s.validate v) :: validateItems ss vs := rfl

@[simp] theorem validateFields_nil (es : Entries Value) : validateFields [] es = [] := rfl

@[simp] theorem validateFields_cons (k : Value) (s : Schema) (rest : List (Value × Schema))
    (es : Entries Value) :
    validateFields ((k, s) :: rest) es =
      ⟨k, (Entries.get? k es).getD .undefined, s.validate ((Entries.get? k es).getD .undefined)⟩ ::
        validateFields rest es := rfl

/-- Narrows a schema by a predicate. -/
def refine (s : Schema) (p : Function) : Schema := .refined s p

/-- Asks a schema to narrow itself, which those of other makers cannot. -/
def refined? (s : Schema) (p : Function) : Except Fault Schema :=
  match s with
  | .custom _ | .misplaced _ => .error (.lacks s.asValue "refine")
  | s => .ok (s.refine p)

end Schema

end ShapeMatch

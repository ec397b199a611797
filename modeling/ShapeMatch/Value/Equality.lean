import ShapeMatch.Value.Key

/-! Equality of values. Numbers compare exactly across their types, a list is never equal to
a tuple, a read-only view equals the dictionary it shows, and the order of entries does not
matter to equality. A signaling number makes a comparison with a number invalid; parts are
compared in order, and the first that differs or is invalid decides. The order of entries is that
of the first mapping; a view in second place is compared first. -/
namespace ShapeMatch

/-- What a comparison comes to. -/
inductive Comparison where
  | equal
  | different
  | invalid
  deriving DecidableEq, Inhabited

namespace Comparison

def ofBool (same : Bool) : Comparison := if same then .equal else .different

/-- The comparison of a pair from those of its parts. -/
def andThen : Comparison → Comparison → Comparison
  | .equal, second => second
  | first, _ => first

/-- Compares parts only on a condition that both wholes must meet. -/
def onlyIf (condition : Bool) (c : Comparison) : Comparison := (ofBool condition).andThen c

@[simp] theorem ofBool_eq_equal {b : Bool} : ofBool b = .equal ↔ b = true := by
  cases b <;> simp [ofBool]

@[simp] theorem andThen_eq_equal {a b : Comparison} :
    a.andThen b = .equal ↔ a = .equal ∧ b = .equal := by
  cases a <;> simp [andThen]

@[simp] theorem onlyIf_eq_equal {b : Bool} {c : Comparison} :
    onlyIf b c = .equal ↔ b = true ∧ c = .equal := by
  simp [onlyIf]

end Comparison

/-- Equality as numbers, in both parts. -/
def Exact.equalPair (a b : Exact × Exact) : Bool := a.1.equal b.1 && a.2.equal b.2

/-- Compares numbers; values that are none differ from all others. A signaling number is
compared with real numbers only. -/
def Value.compareNumbers (a b : Value) : Comparison :=
  match a.number?, b.number? with
  | some x, some y =>
    if (a.isSignaling && y.2.isZero) || (b.isSignaling && x.2.isZero) then .invalid
    else .ofBool (Exact.equalPair x y)
  | _, _ => .different

mutual

def Value.compare : Value → Value → Comparison
  | .undefined, .undefined => .equal
  | .null, .null => .equal
  | .text s, .text t => .ofBool (s == t)
  | .bytes a, .bytes b => .ofBool (a == b)
  | .sequence .list xs, .sequence .list ys =>
    .onlyIf (xs.length == ys.length) (Value.compareItems xs ys)
  | .sequence .tuple xs, .sequence .tuple ys => Value.compareItems xs ys
  | .mapping _ es, .mapping .dict fs =>
    .onlyIf (es.length == fs.length) (Value.compareEntries es fs)
  | .mapping _ es, .mapping .view fs =>
    .onlyIf (es.length == fs.length) (Value.compareEntries fs es)
  | .set xs, .set ys => .ofBool (xs.length == ys.length && xs.all fun x => ys.any x.sameKey)
  | .record m fs, .record n gs => .onlyIf (m == n) (Value.compareFields fs gs)
  | .classRef c, .classRef d => .ofBool (c == d)
  | .expression e, .expression f => .ofBool (e.equal f)
  | .schema c _ fs, .schema d _ gs => .onlyIf (c == d) (Value.compareFields fs gs)
  | .object c _ i, .object d _ j => .ofBool (c == d && i.isSome && i == j)
  | a, b => Value.compareNumbers a b
termination_by v w => sizeOf v + sizeOf w

def Value.compareItems : List Value → List Value → Comparison
  | [], [] => .equal
  | x :: xs, y :: ys => (x.compare y).andThen (Value.compareItems xs ys)
  | _, _ => .different
termination_by xs ys => sizeOf xs + sizeOf ys

/-- Compares every entry of the first mapping with the one of its key in the second. -/
def Value.compareEntries : List (Value × Value) → List (Value × Value) → Comparison
  | [], _ => .equal
  | (k, v) :: rest, fs =>
    (match _h : Entries.get? k fs with
      | some w => v.compare w
      | none => .different).andThen (Value.compareEntries rest fs)
termination_by es fs => sizeOf es + sizeOf fs
decreasing_by
  · have := Entries.sizeOf_lt_of_get? _h
    simp only [List.cons.sizeOf_spec, Prod.mk.sizeOf_spec]
    omega
  · simp only [List.cons.sizeOf_spec, Prod.mk.sizeOf_spec]
    omega

def Value.compareFields : List (String × Value) → List (String × Value) → Comparison
  | [], [] => .equal
  | (f, x) :: fs, (g, y) :: gs =>
    .onlyIf (f == g) ((x.compare y).andThen (Value.compareFields fs gs))
  | _, _ => .different
termination_by fs gs => sizeOf fs + sizeOf gs

end

/-- Whether two values are equal. -/
def Value.equal (v w : Value) : Bool := v.compare w == .equal

/-- Literals are compared only within one kind: truth values, real numbers and texts are a
kind each, and any other class is its own. -/
inductive LiteralKind where
  | bool
  | real
  | text
  | other (className : String)
  deriving DecidableEq

def Value.literalKind : Value → LiteralKind
  | .bool _ => .bool
  | .int _ | .float _ | .fraction _ => .real
  | .text _ => .text
  | v => .other v.className

/-- Compares a value with the one that a literal asks for. -/
def Value.compareLiteral (wanted v : Value) : Comparison :=
  .onlyIf (v.literalKind = wanted.literalKind) (v.compare wanted)

end ShapeMatch

import ShapeMatch.Value.Basic

/-! Keys of mappings. Numbers that are equal are one key, whatever their types. A value that
holds an undefined number equals nothing, itself included. A mapping would still find it if asked
with the very object that it holds; here every one is taken as an object of its own, and so is
never found again. -/
namespace ShapeMatch

/-- The identity of a key. A tuple is a chain of its members, and so are the parts of a schema. -/
inductive Key where
  | undefined
  | null
  | number (re im : Exact)
  | text (s : String)
  | bytes (b : List UInt8)
  | classRef (c : ClassRef)
  | expression (text : ExpressionText) (flags : Flags)
  | schema (className : String) (parts : Key)
  | object (className identity : String)
  | emptyTuple
  | join (first rest : Key)
  deriving DecidableEq

mutual

/-- The identity of a value as a key. Values that can change have none, nor do objects that
equal no other. -/
def Value.key? : Value → Option Key
  | .undefined => some .undefined
  | .null => some .null
  | .text s => some (.text s)
  | .bytes b => some (.bytes b)
  | .classRef c => some (.classRef c)
  | .expression e => some (.expression e.text e.flags)
  | .schema className _ parts => (Value.partsKey? parts).map (.schema className)
  | .object className _ identity => identity.map (.object className)
  | .sequence .tuple items => Value.tupleKey? items
  | v =>
    match v.number? with
    | some (re, im) => if re = .nan || im = .nan then none else some (.number re im)
    | none => none

def Value.tupleKey? : List Value → Option Key
  | [] => some .emptyTuple
  | v :: rest =>
    match v.key?, Value.tupleKey? rest with
    | some k, some ks => some (.join k ks)
    | _, _ => none

def Value.partsKey? : List (String × Value) → Option Key
  | [] => some .emptyTuple
  | (_, v) :: rest =>
    match v.key?, Value.partsKey? rest with
    | some k, some ks => some (.join k ks)
    | _, _ => none

end

namespace Value

/-- Whether two values are one and the same key. -/
def sameKey (a b : Value) : Bool := a.key?.isSome && a.key? == b.key?

theorem sameKey_iff {a b : Value} : a.sameKey b = true ↔ a.key?.isSome ∧ a.key? = b.key? := by
  simp [sameKey]

theorem sameKey_comm (a b : Value) : a.sameKey b = b.sameKey a := by
  rw [Bool.eq_iff_iff, sameKey_iff, sameKey_iff]
  exact ⟨fun ⟨h, e⟩ => ⟨e ▸ h, e.symm⟩, fun ⟨h, e⟩ => ⟨e ▸ h, e.symm⟩⟩

theorem sameKey_trans {a b c : Value} (hab : a.sameKey b) (hbc : b.sameKey c) : a.sameKey c := by
  rw [sameKey_iff] at *
  exact ⟨hab.1, hab.2.trans hbc.2⟩

end Value

/-- Why a value cannot be stored as a key. -/
inductive KeyFault where
  /-- its class has values that can change -/
  | changeable (className : String)
  /-- it objects to being compared -/
  | signaling

def KeyFault.message : KeyFault → String
  | .changeable className => "unhashable type: '" ++ className ++ "'"
  | .signaling => "Cannot hash a signaling NaN value"

mutual

/-- What keeps a value from being a key, if anything. A tuple is a key if all its members
are, and a schema if all its parts are. -/
def Value.keyFault? : Value → Option KeyFault
  | .decimal d => if d.isSignaling then some .signaling else none
  | .sequence .tuple items => Value.firstKeyFault? items
  | .sequence .list items => some (.changeable (Value.list items).className)
  | .mapping form entries => some (.changeable (Value.mapping form entries).className)
  | .set items => some (.changeable (Value.set items).className)
  | .record model fields => some (.changeable (Value.record model fields).className)
  | .schema _ _ parts => Value.firstPartFault? parts
  | _ => none

def Value.firstKeyFault? : List Value → Option KeyFault
  | [] => none
  | v :: rest => v.keyFault?.or (Value.firstKeyFault? rest)

def Value.firstPartFault? : List (String × Value) → Option KeyFault
  | [] => none
  | (_, v) :: rest => v.keyFault?.or (Value.firstPartFault? rest)

end

/-- The entries of a mapping, in order of insertion. -/
abbrev Entries (α : Type) := List (Value × α)

namespace Entries

variable {α : Type}

/-- The value stored under a key. -/
def get? (k : Value) : Entries α → Option α
  | [] => none
  | (k₁, v) :: rest => if k.sameKey k₁ then some v else get? k rest

theorem sizeOf_lt_of_get? [SizeOf α] {k : Value} {es : Entries α} {v : α}
    (h : es.get? k = some v) : sizeOf v < sizeOf es := by
  induction es with
  | nil => simp [get?] at h
  | cons e rest ih =>
    obtain ⟨k₁, v₁⟩ := e
    rw [get?] at h
    split at h
    · cases h; simp; omega
    · have := ih h; simp; omega

def has (k : Value) (es : Entries α) : Bool := (es.get? k).isSome

/-- Stores a value. A key that is present keeps its place and its spelling; a new one comes
last. -/
def put (k : Value) (v : α) : Entries α → Entries α
  | [] => [(k, v)]
  | (k₁, v₁) :: rest => if k.sameKey k₁ then (k₁, v) :: rest else (k₁, v₁) :: put k v rest

/-- Removes the entry of a key. -/
def erase (k : Value) : Entries α → Entries α
  | [] => []
  | (k₁, v₁) :: rest => if k.sameKey k₁ then rest else (k₁, v₁) :: erase k rest

/-- The mapping that pairs make when they are stored one after the other. -/
def ofPairs (pairs : List (Value × α)) : Entries α :=
  pairs.foldl (fun es (k, v) => put k v es) []

end Entries

end ShapeMatch

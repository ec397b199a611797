import ShapeMatch.Proofs.Acceptance

/-!
Real numbers and literals. The schema of numbers and the literals of numbers look at the same
thing, the number that a value is exactly, so that they can be compared with each other.
-/

namespace ShapeMatch

theorem Exact.ofBinary64_eq_nan_iff (x : Binary64) : ofBinary64 x = .nan ↔ x = .nan := by
  cases x <;> simp [ofBinary64]

namespace Value

/-- The real number that a value is. Truth values are none here. -/
def real? : Value → Option Exact
  | .int n => some (.ofInt n)
  | .float x => some (.ofBinary64 x)
  | .fraction q => some (.rational q)
  | _ => none

theorem exists_real?_float (x : Binary64) :
    (∃ y, (Value.float x).real? = some y ∧ y ≠ .nan) ↔ x ≠ .nan := by
  simp [real?, Exact.ofBinary64_eq_nan_iff]

theorem literalKind_eq_real_iff (v : Value) : v.literalKind = .real ↔ ∃ x, v.real? = some x := by
  cases v <;> simp [literalKind, real?]

theorem literalKind_eq_text_iff (v : Value) : v.literalKind = .text ↔ ∃ s, v = .text s := by
  cases v <;> simp [literalKind]

theorem literalKind_eq_bool_iff (v : Value) : v.literalKind = .bool ↔ ∃ b, v = .bool b := by
  cases v <;> simp [literalKind]

theorem number?_of_real? {v : Value} {x : Exact} (h : v.real? = some x) :
    v.number? = some (x, .ofInt 0) ∧ v.isSignaling = false := by
  cases v with
  | int n => cases h; exact ⟨rfl, rfl⟩
  | float y => cases h; exact ⟨rfl, rfl⟩
  | fraction q => cases h; exact ⟨rfl, rfl⟩
  | _ => simp [real?] at h

theorem compareNumbers_of_real? {v w : Value} {x y : Exact} (hv : v.real? = some x)
    (hw : w.real? = some y) : v.compareNumbers w = .ofBool (x.equal y) := by
  obtain ⟨hnv, hsv⟩ := number?_of_real? hv
  obtain ⟨hnw, hsw⟩ := number?_of_real? hw
  have hzero : (Exact.ofInt 0).equal (Exact.ofInt 0) = true := by decide
  simp [compareNumbers, hnv, hnw, hsv, hsw, Exact.equalPair, hzero]

/-- Real numbers are compared as what they are exactly. -/
theorem compare_of_real? {v w : Value} {x y : Exact} (hv : v.real? = some x)
    (hw : w.real? = some y) : v.compare w = .ofBool (x.equal y) := by
  rw [← compareNumbers_of_real? hv hw]
  cases v with
  | int n => simp [compare]
  | float z => simp [compare]
  | fraction q => simp [compare]
  | _ => simp [real?] at hv

/-- The literal of a real number asks for that number. -/
theorem compareLiteral_of_real? {u : Value} {x : Exact} (hu : u.real? = some x)
    (v : Value) :
    u.compareLiteral v = .ofBool (decide (x ≠ .nan ∧ v.real? = some x)) := by
  have hkind : u.literalKind = .real := (literalKind_eq_real_iff u).mpr ⟨x, hu⟩
  unfold compareLiteral
  cases hv : v.real? with
  | none =>
    have hother : v.literalKind ≠ .real := by
      rw [Ne, literalKind_eq_real_iff]
      simp [hv]
    simp [hkind, hother, Comparison.onlyIf, Comparison.ofBool, Comparison.andThen]
  | some y =>
    have hreal : v.literalKind = .real := (literalKind_eq_real_iff v).mpr ⟨y, hv⟩
    rw [compare_of_real? hv hu, hkind, hreal]
    have hsame : y.equal x = decide (x ≠ .nan ∧ some y = some x) := by
      rw [Exact.equal]
      congr 1
      simp only [Option.some.injEq, eq_iff_iff]
      constructor
      · intro h
        exact ⟨h.1 ▸ h.2, h.1⟩
      · intro h
        exact ⟨h.2, h.2 ▸ h.1⟩
    rw [hsame]
    rfl

/-- Only a value of the same kind is the one that a literal asks for. -/
theorem literalKind_of_compareLiteral {u v : Value} (h : u.compareLiteral v = .equal) :
    v.literalKind = u.literalKind := by
  rw [compareLiteral, Comparison.onlyIf_eq_equal] at h
  exact of_decide_eq_true h.1

end Value

theorem Verdict.keepIf_eq_kept {accepted : Bool} {r : Reason} {v w : Value}
    (h : (keepIf accepted r).nested.value? v = some w) : keepIf accepted r = .kept := by
  cases accepted with
  | true => rfl
  | false => simp [keepIf, value?_nested_reject] at h

namespace Schema

variable [RegexEngine]

theorem accepts_number (v w : Value) :
    Schema.number.Accepts v w ↔ w = v ∧ ∃ x, v.real? = some x ∧ x ≠ .nan := by
  cases v with
  | float x =>
    rw [Value.exists_real?_float]
    by_cases h : x = .nan <;> simp [Accepts, Verdict.keepIf, Verdict.value?, h, eq_comm]
  | _ => simp [Accepts, Verdict.value?, Value.real?, Exact.ofInt, eq_comm]

theorem accepts_literal (u v w : Value) :
    (Schema.literal u).Accepts v w ↔ w = v ∧ u.compareLiteral v = .equal := by
  unfold Accepts
  rw [validate_literal]
  split
  · rename_i h
    simp [Verdict.value?, h, eq_comm]
  · rename_i h
    simp [Verdict.value?_reject, h]
  · rename_i h
    simp [Verdict.value?, h]

/-! ## Schemas that only look at a value -/

/-- The kinds of schemas that only look at a value. -/
def isScalar : Schema → Bool
  | .unknown | .undefined | .null | .string | .number | .integer | .boolean | .literal _
  | .regex _ => true
  | _ => false

/-- A schema that only looks at a value keeps it, rejects it as a whole, or raises. -/
theorem validate_of_isScalar {s : Schema} (hs : s.isScalar) (v : Value) :
    s.validate v = .kept ∨ (∃ r, s.validate v = .reject r) ∨
      ∃ fault, s.validate v = .raised fault := by
  have hkeepIf : ∀ b r, Verdict.keepIf b r = .kept ∨ Verdict.keepIf b r = .reject r := by
    intro b r
    cases b
    · exact .inr rfl
    · exact .inl rfl
  cases s with
  | unknown => exact .inl rfl
  | undefined | null | string | integer | boolean =>
    -- these look at the class of the value only
    cases v <;> first | exact .inl rfl | exact .inr (.inl ⟨_, rfl⟩)
  | number =>
    cases v with
    | int _ | fraction _ => exact .inl rfl
    | float x => exact (hkeepIf _ _).imp_right fun h => .inl ⟨_, h⟩
    | _ => exact .inr (.inl ⟨_, rfl⟩)
  | regex p =>
    cases v with
    | text t => exact (hkeepIf _ _).imp_right fun h => .inl ⟨_, h⟩
    | _ => exact .inr (.inl ⟨_, rfl⟩)
  | literal u =>
    rw [validate_literal]
    cases u.compareLiteral v with
    | equal => exact .inl rfl
    | different => exact .inr (.inl ⟨_, rfl⟩)
    | invalid => exact .inr (.inr ⟨_, rfl⟩)
  | _ => simp [isScalar] at hs

/-- What such a schema lets pass it keeps. -/
theorem kept_of_isScalar {s : Schema} (hs : s.isScalar) {v w : Value} (h : s.Passes v w) :
    s.validate v = .kept := by
  unfold Passes at h
  rcases validate_of_isScalar hs v with hkept | ⟨r, hr⟩ | ⟨fault, hfault⟩
  · exact hkept
  · simp [hr, Verdict.value?_nested_reject] at h
  · simp [hfault, Verdict.nested, Verdict.value?] at h

end Schema

end ShapeMatch

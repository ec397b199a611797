import Mathlib.Data.Set.Basic
import ShapeMatch.Proofs.SchemaEquality
import ShapeMatch.Regex.Engine

/-!
Classes of literals. The literals of two scalars accept the same values or none in common: a scalar
stands for the text, the truth value or the real number that it is exactly, and its literal accepts
what stands for the same. The undefined number stands for nothing (`literal_classes`).
-/

namespace ShapeMatch

/-! ## Scalars that stand for the same -/

namespace Value

variable {u v w : Value} {x : Exact}

/-- The same value, or the same real number exactly. -/
def Same (u v : Value) : Prop := u = v ∨ ∃ x, u.real? = some x ∧ v.real? = some x

theorem same_iff_of_real? (hu : u.real? = some x) (v : Value) : u.Same v ↔ v.real? = some x := by
  constructor
  · rintro (rfl | ⟨y, hy, hv⟩)
    · exact hu
    · rw [hv, ← hy, hu]
  · exact fun hv => .inr ⟨x, hu, hv⟩

theorem same_iff_of_not_real (hu : u.real? = none) (v : Value) : u.Same v ↔ v = u := by
  simp [Same, hu, eq_comm]

theorem Same.symm (h : u.Same v) : v.Same u := by
  rcases h with rfl | ⟨x, hu, hv⟩
  · exact .inl rfl
  · exact .inr ⟨x, hv, hu⟩

theorem Same.trans (huv : u.Same v) (hvw : v.Same w) : u.Same w := by
  rcases huv with rfl | ⟨x, hu, hv⟩
  · exact hvw
  · have hw := (same_iff_of_real? hv w).mp hvw
    exact .inr ⟨x, hu, hw⟩

end Value

namespace Scalar

variable {a b : Scalar} {v : Value}

/-- A scalar stands for all that is the same, which makes classes of values: `Value.Same` is an
equivalence. Only the undefined number stands for nothing. -/
theorem is_iff_same (a : Scalar) (v : Value) : a.Is v ↔ a ≠ .float .nan ∧ a.value.Same v := by
  cases a with
  | text s =>
    have hsame := Value.same_iff_of_not_real (u := .text s) rfl v
    simp [Is, value, hsame]
  | bool b =>
    have hsame := Value.same_iff_of_not_real (u := .bool b) rfl v
    simp [Is, value, hsame]
  | int n =>
    have hsame := Value.same_iff_of_real? (u := .int n) rfl v
    simp [Is, value, hsame]
  | float x =>
    have hsame := Value.same_iff_of_real? (u := .float x) rfl v
    simp [Is, value, hsame]

theorem not_is_nan (v : Value) : ¬ (Scalar.float .nan).Is v := fun h => h.1 rfl

theorem is_value_iff (a : Scalar) : a.Is a.value ↔ a ≠ .float .nan := by
  rw [is_iff_same]
  exact and_iff_left (.inl rfl)

/-- Two scalars that are the same value are the same. -/
theorem is_value_of_is (ha : a.Is v) (hb : b.Is v) : a.Is b.value := by
  rw [is_iff_same] at *
  exact ⟨ha.1, ha.2.trans hb.2.symm⟩

theorem ne_nan_iff_of_real? {x : Exact} (ha : a.value.real? = some x) :
    x ≠ .nan ↔ a ≠ .float .nan := by
  cases a with
  | int n =>
    cases ha
    simp [Exact.ofInt]
  | float y =>
    cases ha
    simp [Exact.ofBinary64_eq_nan_iff]
  | _ => simp [value, Value.real?] at ha

/-- The scalar of a real number is every value that is this number exactly. -/
theorem is_iff_of_real? {x : Exact} (ha : a.value.real? = some x) (v : Value) :
    a.Is v ↔ x ≠ .nan ∧ v.real? = some x := by
  rw [is_iff_same, ne_nan_iff_of_real? ha, Value.same_iff_of_real? ha]

/-- No scalar is a decimal or a complex number, whatever that is equal to. -/
theorem not_is_of_unreal (a : Scalar)
    (hv : (∃ d, v = .decimal d) ∨ ∃ re im, v = .complex re im) : ¬ a.Is v := by
  rcases hv with ⟨d, rfl⟩ | ⟨re, im, rfl⟩
  · cases a <;> simp [Is, Value.real?]
  · cases a <;> simp [Is, Value.real?]

end Scalar

section

variable [RegexEngine]

namespace Schema

/-- The values that a schema accepts. -/
def accepted (s : Schema) : Set Value := {v | s.Admits v}

variable {a b : Scalar} {v : Value}

theorem mem_accepted_literal : v ∈ (literal a.value).accepted ↔ a.Is v := by
  show (literal a.value).Admits v ↔ a.Is v
  rw [admits_literal]
  rcases a.compareLiteral_value v with ⟨his, heq⟩ | ⟨hnot, hne⟩
  · exact iff_of_true heq his
  · rw [hne]
    exact iff_of_false nofun hnot

/-- What is not accepted is rejected as a whole, if there are words for it. -/
theorem validate_literal_of_not_is (h : ¬ a.Is v) :
    (literal a.value).validate v = .reject (.otherLiteral a.value v) := by
  rcases a.compareLiteral_value v with ⟨his, _⟩ | ⟨_, hne⟩
  · exact absurd his h
  · rw [validate_literal, hne]

/-- The literal of a scalar does not accept decimals and complex numbers. -/
theorem validate_literal_of_unreal (a : Scalar)
    (hv : (∃ d, v = .decimal d) ∨ ∃ re im, v = .complex re im) :
    v ∉ (literal a.value).accepted ∧
      (a.value.isWritable →
        (literal a.value).validate v = .rejected ⟨.otherLiteral a.value v, []⟩) ∧
      (¬ a.value.isWritable → (literal a.value).validate v = .raised .unwritable) := by
  have hnot : ¬ a.Is v := a.not_is_of_unreal hv
  have hwords : v.isWritable = true := by
    rcases hv with ⟨d, rfl⟩ | ⟨re, im, rfl⟩
    · rfl
    · rfl
  rw [validate_literal_of_not_is hnot, Verdict.reject, Reason.isWritable, hwords, Bool.and_true]
  exact ⟨fun h => hnot (mem_accepted_literal.mp h), fun h => if_pos h, fun h => if_neg h⟩

theorem accepted_literal_eq_of_is (h : a.Is b.value) :
    (literal a.value).accepted = (literal b.value).accepted := by
  ext v
  rw [mem_accepted_literal, mem_accepted_literal]
  exact (Scalar.is_congr_of_is h v).symm

theorem accepted_literal_nan : (literal (Scalar.float .nan).value).accepted = ∅ := by
  ext v
  rw [mem_accepted_literal]
  exact iff_of_false (Scalar.not_is_nan v) id

theorem accepted_literal_eq_or_disjoint (a b : Scalar) :
    (literal a.value).accepted = (literal b.value).accepted ∨
      (literal a.value).accepted ∩ (literal b.value).accepted = ∅ := by
  by_cases h : a.Is b.value
  · exact .inl (accepted_literal_eq_of_is h)
  · right
    rw [Set.eq_empty_iff_forall_notMem]
    rintro v ⟨ha, hb⟩
    rw [mem_accepted_literal] at ha hb
    exact h (Scalar.is_value_of_is ha hb)

theorem accepted_literal_eq_iff (a b : Scalar) :
    (literal a.value).accepted = (literal b.value).accepted ↔
      a = .float .nan ∧ b = .float .nan ∨ a.Is b.value := by
  constructor
  · intro h
    by_cases hb : b = .float .nan
    · left
      refine ⟨?_, hb⟩
      by_contra ha
      rw [hb, accepted_literal_nan] at h
      have hself : a.value ∈ (literal a.value).accepted :=
        mem_accepted_literal.mpr (a.is_value_iff.mpr ha)
      rw [h] at hself
      exact hself
    · right
      rw [← mem_accepted_literal, h, mem_accepted_literal]
      exact b.is_value_iff.mpr hb
  · rintro (⟨rfl, rfl⟩ | h)
    · rfl
    · exact accepted_literal_eq_of_is h

/-- Literals of scalars split values into classes: two of them accept the same or nothing in common,
and the same exactly if both scalars are the undefined number, or if one is the other: the same
text, the same truth value, or the same real number. A literal accepts its own scalar, unless that
is the undefined number, whose literal accepts nothing. The literal of a real number accepts every
value that is this number exactly, and that of a truth value this value only. Decimals and complex
numbers are never accepted, even if they are equal to the scalar: they are rejected, unless the
scalar is a whole number of too many digits to be shown. -/
theorem literal_classes (a b : Scalar) :
    ((literal a.value).accepted = (literal b.value).accepted ∨
        (literal a.value).accepted ∩ (literal b.value).accepted = ∅) ∧
      ((literal a.value).accepted = (literal b.value).accepted ↔
        a = .float .nan ∧ b = .float .nan ∨ a.Is b.value) ∧
      (a.value ∈ (literal a.value).accepted ↔ a ≠ .float .nan) ∧
      (a = .float .nan → (literal a.value).accepted = ∅) ∧
      (∀ x, a.value.real? = some x → ∀ v,
        v ∈ (literal a.value).accepted ↔ x ≠ .nan ∧ v.real? = some x) ∧
      (∀ t, a = .bool t → (literal a.value).accepted = {.bool t}) ∧
      ∀ v, (∃ d, v = .decimal d) ∨ (∃ re im, v = .complex re im) →
        v ∉ (literal a.value).accepted ∧
          (a.value.isWritable →
            (literal a.value).validate v = .rejected ⟨.otherLiteral a.value v, []⟩) ∧
          (¬ a.value.isWritable → (literal a.value).validate v = .raised .unwritable) := by
  refine ⟨accepted_literal_eq_or_disjoint a b, accepted_literal_eq_iff a b, ?_, ?_, ?_, ?_, ?_⟩
  · rw [mem_accepted_literal, Scalar.is_value_iff]
  · rintro rfl
    exact accepted_literal_nan
  · intro x hx v
    rw [mem_accepted_literal, Scalar.is_iff_of_real? hx]
  · rintro t rfl
    ext v
    exact mem_accepted_literal
  · exact fun v hv => validate_literal_of_unreal a hv

end Schema

end

/-- A decimal that is a power of ten is this whole number, unless its exponent is out of reach. -/
theorem Decimal.exact_powerOfTen {n : Nat} (hn : n ≤ widestPower) :
    (Decimal.finite false 1 n).exact = .ofInt (Nat.pow 10 n) := by
  have hdigits : Numeral.trimZeros ((1 : Nat).log2 + 1) 1 = (1, 0) := by decide
  have hpower : ((Nat.pow 10 n : Int) : Rat) = (10 : Rat) ^ n := by
    rw [Nat.pow_eq, Rat.intCast_natCast, Rat.natCast_pow]
    rfl
  have hsize : ((1 : Nat) : Rat) * (10 : Rat) ^ ((n : Int) + (0 : Nat)) = (10 : Rat) ^ n := by
    rw [Int.natCast_zero, Int.add_zero, Rat.zpow_natCast]
    exact Rat.one_mul _
  simp only [exact, hdigits]
  rw [if_neg (by decide), if_neg (by simpa using hn), if_neg (by decide), hsize, Exact.ofInt,
    hpower]

namespace Value

/-- A whole number equals the decimals that stand for it. -/
theorem equal_of_exact {n : Int} {d : Decimal} (hexact : d.exact = .ofInt n)
    (hquiet : d.isSignaling = false) : (int n).equal (.decimal d) = true := by
  simp [equal, compare, compareNumbers, number?, hexact, Exact.equalPair, Exact.equal, Exact.ofInt,
    isSignaling, hquiet]

/-- The least number with too many digits to be written, as a decimal. -/
def farDecimal : Value := .decimal (.finite false 1 Numeral.maxDigits)

theorem equal_farDecimal : (int writtenBound).equal farDecimal = true := by
  unfold writtenBound
  exact equal_of_exact (Decimal.exact_powerOfTen (by decide)) rfl

end Value

namespace Schema

/-- A whole number of too many digits and a decimal are equal, but the literal of the first has no
words for rejecting the second. -/
theorem literal_classes_farDecimal :
    (Value.int writtenBound).equal .farDecimal = true ∧
      Value.farDecimal ∉ (literal (Scalar.int writtenBound).value).accepted ∧
      (literal (Scalar.int writtenBound).value).validate .farDecimal = .raised .unwritable := by
  obtain ⟨hnot, _, hraised⟩ :=
    validate_literal_of_unreal (v := .farDecimal) (.int writtenBound) (.inl ⟨_, rfl⟩)
  have hlong : ¬ (Scalar.int writtenBound).value.isWritable := by
    simp only [Scalar.value, Value.isWritable, Value.isShortNumber_writtenBound,
      Bool.false_eq_true, not_false_eq_true]
  exact ⟨Value.equal_farDecimal, hnot, hraised hlong⟩

end Schema

end ShapeMatch

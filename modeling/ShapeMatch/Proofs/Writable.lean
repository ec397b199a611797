import ShapeMatch.Proofs.Nesting

/-! Values that can be written: what is inside a writable value is writable. -/

namespace ShapeMatch

namespace Value

theorem allWritable_iff (vs : List Value) : allWritable vs = true ↔ ∀ v ∈ vs, v.isWritable := by
  induction vs with
  | nil => simp [allWritable]
  | cons v rest ih => simp [allWritable, ih]

theorem entriesWritable_iff (es : Entries Value) :
    entriesWritable es = true ↔ ∀ e ∈ es, e.1.isWritable ∧ e.2.isWritable := by
  induction es with
  | nil => simp [entriesWritable]
  | cons e rest ih =>
    obtain ⟨k, v⟩ := e
    simp [entriesWritable, ih]

theorem isWritable_of_mem_sequence {form : SequenceForm} {vs : List Value} {v : Value}
    (h : (Value.sequence form vs).isWritable) (hv : v ∈ vs) : v.isWritable := by
  rw [isWritable, allWritable_iff] at h
  exact h v hv

theorem isWritable_of_mem_mapping {form : MappingForm} {es : Entries Value} {e : Value × Value}
    (h : (Value.mapping form es).isWritable) (he : e ∈ es) :
    e.1.isWritable ∧ e.2.isWritable := by
  rw [isWritable, entriesWritable_iff] at h
  exact h e he

theorem isWritable_valueOf {form : MappingForm} {es : Entries Value}
    (h : (Value.mapping form es).isWritable) (k : Value) : (es.valueOf k).isWritable := by
  rcases Entries.valueOf_cases k es with hnone | ⟨e, he, heq⟩
  · rw [hnone]
    rfl
  · rw [← heq]
    exact (isWritable_of_mem_mapping h he).2

/-- A point with a coordinate that has too many digits to be written. -/
def farPoint : Value :=
  .record "Point" [("x", .int writtenBound), ("y", .int 1)]

theorem isShortNumber_writtenBound : isShortNumber writtenBound = false := by
  simp only [isShortNumber, Int.natAbs_natCast, Nat.lt_irrefl, decide_false]

-- the bound stays folded: its digits are far too many to compute
theorem farPoint_ne_text (s : String) : farPoint ≠ .text s := by
  simp only [farPoint, ne_eq, reduceCtorEq, not_false_eq_true]

theorem farPoint_isWritable : farPoint.isWritable = false := by
  simp only [farPoint, isWritable, fieldsWritable, isShortNumber_writtenBound, Bool.false_and]

theorem farKey_isWritable (v : Value) : (dict [(.int writtenBound, v)]).isWritable = false := by
  simp only [isWritable, entriesWritable, isShortNumber_writtenBound, Bool.false_and]

end Value

end ShapeMatch

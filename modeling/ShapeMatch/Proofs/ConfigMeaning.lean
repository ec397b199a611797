import ShapeMatch.Proofs.ConfigViolations
import ShapeMatch.Proofs.FirstMatch

/-!
What configurations mean. Which values meet a condition, and which of the others are met without
words, is said by recursion on the condition as it stands in the configuration (`Matches`,
`Unexplained`). The schema that is described there decides just that (`Describes.decidedBy`).
-/

namespace ShapeMatch.Config

/-- A value is the scalar of a configuration. -/
def IsScalarOf : Value → Value → Prop
  | .null, v => v = .null
  | .text s, v => (Scalar.text s).Is v
  | .int n, v => (Scalar.int n).Is v
  | .float x, v => (Scalar.float x).Is v
  | .bool b, v => (Scalar.bool b).Is v
  | _, _ => False

/-- A value is not the scalar, and one of the two is too long to be shown with the other. -/
def IsWordless (u v : Value) : Prop :=
  u ≠ .null ∧ ¬ IsScalarOf u v ∧ ¬ (u.isWritable ∧ v.isWritable)

theorem isScalarOf_value (c : Scalar) (v : Value) : IsScalarOf c.value v ↔ c.Is v := by
  cases c <;> exact Iff.rfl

theorem isWordless_value (c : Scalar) (v : Value) :
    IsWordless c.value v ↔ ¬ c.Is v ∧ ¬ (c.value.isWritable ∧ v.isWritable) := by
  have hnull : c.value ≠ .null := by cases c <;> simp [Scalar.value]
  simp [IsWordless, hnull, isScalarOf_value]

variable [RegexEngine]

/-- A value has the shape that a configuration describes. -/
def Matches : Value → Value → Prop
  | .mapping .dict es, v =>
    match field? "type" es with
    | some (.text "unknown") => True
    | some (.text "undefined") => v = .undefined
    | some (.text "null") => v = .null
    | some (.text "string") => Marker.string.Admits v
    | some (.text "number") => Marker.number.Admits v
    | some (.text "integer") => Marker.integer.Admits v
    | some (.text "boolean") => Marker.boolean.Admits v
    | some (.text "literal") => ∃ u, field? "value" es = some u ∧ IsScalarOf u v
    | some (.text "regex") =>
      ∃ s p t, field? "pattern" es = some (.text s) ∧ Pattern.ofSource s = .ok p ∧
        v = .text t ∧ p.occursIn t = true
    | some (.text "array") =>
      ∃ form vs, v = .sequence form vs ∧
        ∀ item, field? "items" es = some item → ∀ u ∈ vs, Matches item u
    | some (.text "tuple") =>
      ∃ form vs, v = .sequence form vs ∧ ∀ items, field? "items" es = some (.list items) →
        vs.length = items.length ∧ ∀ m ∈ items.zip vs, Matches m.1 m.2
    | some (.text "object") =>
      ∃ form vs, v = .mapping form vs ∧ ∀ fields, field? "fields" es = some (.dict fields) →
        ∀ f ∈ fields, Matches f.2 (Entries.valueOf f.1 vs)
    | _ => False
  | d, v => IsScalarOf d v
termination_by d => sizeOf d
decreasing_by
  · exact sizeOf_field?_lt ‹_›
  · exact sizeOf_item_lt ‹_› (List.of_mem_zip ‹_›).1
  · exact sizeOf_entry_lt ‹_› ‹_›

/-- The first mismatch between a value and the shape described cannot be put into words. -/
def Unexplained : Value → Value → Prop
  | .mapping .dict es, v =>
    match field? "type" es with
    | some (.text "literal") => ∃ u, field? "value" es = some u ∧ IsWordless u v
    | some (.text "array") =>
      ∃ form vs, v = .sequence form vs ∧ ∃ item, ∃ _h : field? "items" es = some item,
        ∃ before u after, vs = before ++ u :: after ∧
          (∀ b ∈ before, Matches item b) ∧ Unexplained item u
    | some (.text "tuple") =>
      ∃ form vs, v = .sequence form vs ∧ ∃ items, ∃ _h : field? "items" es = some (.list items),
        vs.length = items.length ∧ ∃ before m after, ∃ _hm : items.zip vs = before ++ m :: after,
          (∀ b ∈ before, Matches b.1 b.2) ∧ Unexplained m.1 m.2
    | some (.text "object") =>
      ∃ form vs, v = .mapping form vs ∧ ∃ fields, ∃ _h : field? "fields" es = some (.dict fields),
        ∃ before f after, ∃ _hf : fields = before ++ f :: after,
          (∀ b ∈ before, Matches b.2 (Entries.valueOf b.1 vs)) ∧
            Unexplained f.2 (Entries.valueOf f.1 vs)
    | _ => False
  | d, v => IsWordless d v
termination_by d => sizeOf d
decreasing_by
  · exact sizeOf_field?_lt _h
  · have hmem : m ∈ items.zip vs := by simp [_hm]
    exact sizeOf_item_lt _h (List.of_mem_zip hmem).1
  · exact sizeOf_entry_lt _h (by simp [_hf])

/-! ## Schemas decide what configurations mean -/

/-- Whether a schema decides what a configuration means. -/
def DecidedBy (d : Value) (s : Schema) : Prop :=
  ∀ v, (s.validate v).Decides (Matches d v) (Unexplained d v)

theorem scalarSchema_decides {d : Value} (h : d.isScalar) (v : Value) :
    ((scalarSchema d).validate v).Decides (IsScalarOf d v) (IsWordless d v) := by
  rcases eq_null_or_value h with rfl | ⟨c, rfl⟩
  · have hworded : ¬ IsWordless .null v := fun hw => hw.1 rfl
    simp only [hworded]
    exact Verdict.Decides.of_worded (by cases v <;> simp [scalarSchema, IsScalarOf])
  · rw [scalarSchema_value, isScalarOf_value, isWordless_value]
    exact Shorthand.scalar_decides c v

theorem scalar_decidedBy {d : Value} (h : d.isScalar) : DecidedBy d (scalarSchema d) := by
  have hdict : ∀ es, d = .dict es → False := ne_dict_of_isScalar h
  intro v
  rw [Matches, Unexplained]
  · exact scalarSchema_decides h v
  · exact hdict
  · exact hdict

section

variable {es : Entries Value}

theorem simple_decidedBy {name : String} {s : Schema}
    (htype : field? "type" es = some (.text name)) (h : (name, s) ∈ simpleTypes) :
    DecidedBy (.dict es) s := by
  intro v
  rw [Matches, Unexplained, htype]
  rcases mem_simpleTypes_iff.mp h with ⟨rfl, rfl⟩ | ⟨rfl, rfl⟩ | ⟨rfl, rfl⟩ | ⟨rfl, rfl⟩ |
    ⟨rfl, rfl⟩ | ⟨rfl, rfl⟩ | ⟨rfl, rfl⟩
  · exact .kept trivial not_false
  · exact Verdict.Decides.of_worded (by cases v <;> simp)
  · exact Verdict.Decides.of_worded (by cases v <;> simp)
  · exact Shorthand.marker_decides .string v
  · exact Shorthand.marker_decides .number v
  · exact Shorthand.marker_decides .integer v
  · exact Shorthand.marker_decides .boolean v

theorem literal_decidedBy {u : Value} (htype : field? "type" es = some (.text "literal"))
    (hvalue : field? "value" es = some u) (h : u.isScalar) :
    DecidedBy (.dict es) (scalarSchema u) := by
  intro v
  rw [Matches, Unexplained, htype]
  simpa [hvalue] using scalarSchema_decides h v

theorem regex_decidedBy {p : Pattern} (htype : field? "type" es = some (.text "regex"))
    (hpattern : field? "pattern" es = some (.text p.source)) : DecidedBy (.dict es) (.regex p) := by
  intro v
  rw [Matches, Unexplained, htype]
  have hfound : (∃ s q t, field? "pattern" es = some (.text s) ∧ Pattern.ofSource s = .ok q ∧
      v = .text t ∧ q.occursIn t = true) ↔ ∃ t, v = .text t ∧ p.occursIn t = true := by
    simp [hpattern, Pattern.ofSource_source]
  rw [hfound]
  exact Schema.regex_decides p v

theorem anyArray_decidedBy (htype : field? "type" es = some (.text "array"))
    (hitems : field? "items" es = none) : DecidedBy (.dict es) (.array .unknown) := by
  intro v
  rw [Matches, Unexplained, htype]
  simpa [hitems] using Schema.anyArray_decides v

theorem array_decidedBy {item : Value} {s : Schema}
    (htype : field? "type" es = some (.text "array")) (hitems : field? "items" es = some item)
    (h : DecidedBy item s) : DecidedBy (.dict es) (.array s) := by
  intro v
  rw [Matches, Unexplained, htype]
  have hdec := Schema.array_decides h v
  simpa only [firstFails_iff, hitems, Option.some.injEq, forall_eq', exists_prop,
    exists_eq_left'] using hdec

theorem tuple_decidedBy {items : List Value} {ss : List Schema}
    (htype : field? "type" es = some (.text "tuple"))
    (hitems : field? "items" es = some (.list items)) (h : List.Forall₂ DecidedBy items ss) :
    DecidedBy (.dict es) (.tuple ss) := by
  intro v
  rw [Matches, Unexplained, htype]
  have hdec := Schema.tuple_decides h v
  simpa only [firstFails_iff, hitems, Option.some.injEq, Value.sequence.injEq, true_and,
    forall_eq', exists_prop, exists_eq_left'] using hdec

theorem anyObject_decidedBy (htype : field? "type" es = some (.text "object"))
    (hfields : field? "fields" es = none) : DecidedBy (.dict es) (.object []) := by
  intro v
  rw [Matches, Unexplained, htype]
  simpa [hfields, Marker.Admits, Shorthand.markerSchema] using Shorthand.marker_decides .dict v

theorem object_decidedBy {fields : Entries Value} {gs : List (Value × Schema)}
    (htype : field? "type" es = some (.text "object"))
    (hfields : field? "fields" es = some (.dict fields))
    (h : List.Forall₂ (fun f g => g.1 = f.1 ∧ DecidedBy f.2 g.2) fields gs) :
    DecidedBy (.dict es) (.object gs) := by
  intro v
  rw [Matches, Unexplained, htype]
  have hdec := Schema.object_decides h v
  simpa only [firstFails_iff, hfields, Option.some.injEq, Value.mapping.injEq, true_and,
    forall_eq', exists_prop, exists_eq_left'] using hdec

end

/-- The schema that a configuration describes decides what the configuration means. -/
theorem Describes.decidedBy {d : Value} {s : Schema} (h : Describes d s) : DecidedBy d s := by
  induction h with
  | scalar v h => exact scalar_decidedBy h
  | simple es name s htype h => exact simple_decidedBy htype h
  | literal es v htype hvalue h => exact literal_decidedBy htype hvalue h
  | regex es p htype hpattern hlength => exact regex_decidedBy htype hpattern
  | anyArray es htype hitems => exact anyArray_decidedBy htype hitems
  | array es v s htype hitems _ ih => exact array_decidedBy htype hitems ih
  | tuple es vs ss htype hitems hne hlength _ ih =>
    exact tuple_decidedBy htype hitems (List.forall₂_iff_zip.mpr ⟨hlength, fun hm => ih _ hm⟩)
  | anyObject es htype hfields => exact anyObject_decidedBy htype hfields
  | object es fs gs htype hfields hlength hkeys _ ih =>
    refine object_decidedBy htype hfields (List.forall₂_iff_zip.mpr ⟨hlength, fun hm => ?_⟩)
    exact ⟨(hkeys _ hm).symm, ih _ hm⟩

end ShapeMatch.Config

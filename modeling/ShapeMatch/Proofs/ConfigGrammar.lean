import ShapeMatch.Config.Shorthand
import ShapeMatch.Proofs.ShorthandMeaning

/-!
The grammar of shorthands in configurations. `Describes v s` says that `v` is in the grammar and
stands for the schema `s`. Reading such a configuration and compiling the shorthand that comes
out of it gives that schema (`Describes.yields`), so the lists that tuples and arrays become on
the way are never taken for something else.
-/

namespace ShapeMatch.Config

/-! ## Looking entries up -/

section

variable {name : String} {k v : Value} {rest : Entries Value}

theorem field?_cons_of_named (h : isNamed name k) : field? name ((k, v) :: rest) = some v := by
  rw [isNamed] at h
  rw [field?, Entries.get?, if_pos h]

theorem field?_cons_of_not_named (h : ¬ isNamed name k) :
    field? name ((k, v) :: rest) = field? name rest := by
  rw [isNamed] at h
  rw [field?, Entries.get?, if_neg h]
  rfl

end

/-- What an entry holds is smaller than the dictionary. -/
theorem sizeOf_field?_lt {name : String} {es : Entries Value} {v : Value}
    (h : field? name es = some v) : sizeOf v < sizeOf (Value.dict es) := by
  have hlt := Entries.sizeOf_lt_of_get? h
  simp
  omega

theorem sizeOf_item_lt {name : String} {es : Entries Value} {vs : List Value} {v : Value}
    (h : field? name es = some (.list vs)) (hv : v ∈ vs) : sizeOf v < sizeOf (Value.dict es) := by
  have hlist := sizeOf_field?_lt h
  have hmem := List.sizeOf_lt_of_mem hv
  simp only [Value.sequence.sizeOf_spec] at hlist
  omega

theorem sizeOf_entry_lt {name : String} {es fs : Entries Value} {f : Value × Value}
    (h : field? name es = some (.dict fs)) (hf : f ∈ fs) : sizeOf f.2 < sizeOf (Value.dict es) := by
  have hdict := sizeOf_field?_lt h
  have hmem := List.sizeOf_lt_of_mem hf
  obtain ⟨k, u⟩ := f
  simp only [Value.mapping.sizeOf_spec, Prod.mk.sizeOf_spec] at hdict hmem ⊢
  omega

/-! ## Scalars -/

theorem eq_null_or_value {v : Value} (h : v.isScalar) : v = .null ∨ ∃ c : Scalar, v = c.value := by
  cases v with
  | null => exact .inl rfl
  | text s => exact .inr ⟨.text s, rfl⟩
  | int n => exact .inr ⟨.int n, rfl⟩
  | float x => exact .inr ⟨.float x, rfl⟩
  | bool b => exact .inr ⟨.bool b, rfl⟩
  | _ => simp [Value.isScalar] at h

theorem isScalar_value (c : Scalar) : c.value.isScalar := by
  cases c <;> rfl

theorem ne_dict_of_isScalar {v : Value} (h : v.isScalar) (es : Entries Value) : v ≠ .dict es := by
  rintro rfl
  simp [Value.isScalar] at h

/-! ## Reading parts -/

variable [RegexEngine]

theorem readArray_eq (es : Entries Value) :
    readArray es =
      match field? "items" es with
      | none => .ok (.marker .list)
      | some v => (readShorthand v).map fun item => .list [item] := by
  induction es with
  | nil => rfl
  | cons e rest ih =>
    obtain ⟨k, v⟩ := e
    rw [readArray]
    by_cases h : isNamed "items" k
    · rw [if_pos h, field?_cons_of_named h]
    · rw [if_neg h, field?_cons_of_not_named h, ih]

theorem readTuple_eq (es : Entries Value) :
    readTuple es =
      match field? "items" es with
      | some (.sequence .list (item :: items)) =>
        (readAll (item :: items)).map fun shorthands =>
          .list [.scalar (.int shorthands.length), .list shorthands]
      | _ => .error .emptyTuple := by
  induction es with
  | nil => rfl
  | cons e rest ih =>
    obtain ⟨k, v⟩ := e
    by_cases h : isNamed "items" k
    · rw [field?_cons_of_named h]
      unfold readTuple
      rw [if_pos h]
      split <;> simp_all
    · rw [field?_cons_of_not_named h, ← ih]
      conv_lhs => unfold readTuple
      rw [if_neg h]

theorem readObject_eq (es : Entries Value) :
    readObject es =
      match field? "fields" es with
      | none => .ok (.marker .dict)
      | some (.mapping .dict fields) => (readFields fields).map .mapping
      | some v => .error (.fieldsNotADict v.className) := by
  induction es with
  | nil => rfl
  | cons e rest ih =>
    obtain ⟨k, v⟩ := e
    by_cases h : isNamed "fields" k
    · rw [field?_cons_of_named h]
      unfold readObject
      rw [if_pos h]
      split <;> simp_all
    · rw [field?_cons_of_not_named h, ← ih]
      conv_lhs => unfold readObject
      rw [if_neg h]

/-! ## The grammar -/

/-- The schema of a scalar: null, or exactly that value. -/
def scalarSchema : Value → Schema
  | .null => .null
  | v => .literal v

/-- The types that say everything by themselves, with their schemas. -/
def simpleTypes : List (String × Schema) :=
  [("unknown", .unknown), ("undefined", .undefined), ("null", .null), ("string", .string),
    ("number", .number), ("integer", .integer), ("boolean", .boolean)]

theorem mem_simpleTypes_iff {name : String} {s : Schema} :
    (name, s) ∈ simpleTypes ↔
      name = "unknown" ∧ s = .unknown ∨ name = "undefined" ∧ s = .undefined ∨
      name = "null" ∧ s = .null ∨ name = "string" ∧ s = .string ∨ name = "number" ∧ s = .number ∨
      name = "integer" ∧ s = .integer ∨ name = "boolean" ∧ s = .boolean := by
  simp [simpleTypes]

/-- A configuration is in the grammar of shorthands and describes a schema. -/
inductive Describes : Value → Schema → Prop where
  | scalar (v : Value) (h : v.isScalar) : Describes v (scalarSchema v)
  | simple (es : Entries Value) (name : String) (s : Schema)
      (htype : field? "type" es = some (.text name)) (h : (name, s) ∈ simpleTypes) :
      Describes (.dict es) s
  | literal (es : Entries Value) (v : Value)
      (htype : field? "type" es = some (.text "literal")) (hvalue : field? "value" es = some v)
      (h : v.isScalar) : Describes (.dict es) (scalarSchema v)
  | regex (es : Entries Value) (p : Pattern)
      (htype : field? "type" es = some (.text "regex"))
      (hpattern : field? "pattern" es = some (.text p.source))
      (hlength : p.source.length ≤ maxPatternLength) : Describes (.dict es) (.regex p)
  | anyArray (es : Entries Value) (htype : field? "type" es = some (.text "array"))
      (hitems : field? "items" es = none) : Describes (.dict es) (.array .unknown)
  | array (es : Entries Value) (v : Value) (s : Schema)
      (htype : field? "type" es = some (.text "array")) (hitems : field? "items" es = some v)
      (h : Describes v s) : Describes (.dict es) (.array s)
  | tuple (es : Entries Value) (vs : List Value) (ss : List Schema)
      (htype : field? "type" es = some (.text "tuple"))
      (hitems : field? "items" es = some (.list vs)) (hne : vs ≠ [])
      (hlength : vs.length = ss.length) (h : ∀ m ∈ vs.zip ss, Describes m.1 m.2) :
      Describes (.dict es) (.tuple ss)
  | anyObject (es : Entries Value) (htype : field? "type" es = some (.text "object"))
      (hfields : field? "fields" es = none) : Describes (.dict es) (.object [])
  | object (es : Entries Value) (fs : Entries Value) (gs : List (Value × Schema))
      (htype : field? "type" es = some (.text "object"))
      (hfields : field? "fields" es = some (.dict fs)) (hlength : fs.length = gs.length)
      (hkeys : ∀ m ∈ fs.zip gs, m.1.1 = m.2.1) (h : ∀ m ∈ fs.zip gs, Describes m.1.2 m.2.2) :
      Describes (.dict es) (.object gs)

theorem describes_tuple {es : Entries Value} {vs : List Value} {ss : List Schema}
    (htype : field? "type" es = some (.text "tuple")) (hitems : field? "items" es = some (.list vs))
    (hne : vs ≠ []) (h : List.Forall₂ Describes vs ss) : Describes (.dict es) (.tuple ss) := by
  obtain ⟨hlength, hparts⟩ := List.forall₂_iff_zip.mp h
  exact .tuple es vs ss htype hitems hne hlength fun m hm => hparts hm

theorem describes_object {es fs : Entries Value} {gs : List (Value × Schema)}
    (htype : field? "type" es = some (.text "object"))
    (hfields : field? "fields" es = some (.dict fs))
    (h : List.Forall₂ (fun f g => f.1 = g.1 ∧ Describes f.2 g.2) fs gs) :
    Describes (.dict es) (.object gs) := by
  obtain ⟨hlength, hparts⟩ := List.forall₂_iff_zip.mp h
  exact .object es fs gs htype hfields hlength (fun m hm => (hparts hm).1) fun m hm => (hparts hm).2

/-- A configuration is in the grammar of shorthands. -/
def Grammatical (v : Value) : Prop := ∃ s, Describes v s

/-- Read and compiled, a configuration yields a schema. -/
def Yields (v : Value) (s : Schema) : Prop := ∃ sh, readShorthand v = .ok sh ∧ sh.compile = .ok s

theorem scalarSchema_value (c : Scalar) : scalarSchema c.value = .literal c.value := by
  cases c <;> rfl

theorem exists_scalar? {v : Value} (h : v.isScalar) :
    ∃ sh, scalar? v = some sh ∧ sh.compile = .ok (scalarSchema v) := by
  rcases eq_null_or_value h with rfl | ⟨c, rfl⟩
  · exact ⟨.null, rfl, rfl⟩
  · refine ⟨.scalar c, ?_, ?_⟩
    · cases c <;> rfl
    · rw [scalarSchema_value]
      rfl

theorem scalar?_eq_none {v : Value} (h : ¬ v.isScalar) : scalar? v = none := by
  cases v with
  | null => exact absurd rfl h
  | text s => exact absurd rfl h
  | int n => exact absurd rfl h
  | float x => exact absurd rfl h
  | bool b => exact absurd rfl h
  | _ => rfl

theorem readShorthand_of_not_dict {v : Value} (h : ∀ es, v ≠ .dict es) :
    readShorthand v = (scalar? v).elim (.error (.notAShorthand v.className)) .ok := by
  unfold readShorthand
  split
  · exact absurd rfl (h _)
  · rfl

theorem yields_scalar {v : Value} (h : v.isScalar) : Yields v (scalarSchema v) := by
  obtain ⟨sh, hsh, hcompile⟩ := exists_scalar? h
  refine ⟨sh, ?_, hcompile⟩
  rw [readShorthand_of_not_dict (ne_dict_of_isScalar h), hsh]
  rfl

theorem readAll_eq_mapM (vs : List Value) : readAll vs = vs.mapM readShorthand := by
  induction vs with
  | nil => rfl
  | cons v rest ih => rw [readAll, List.mapM_cons, ih]

/-- Reads the field of an object. -/
def readField (f : Value × Value) : Except ConfigError (Value × Shorthand) := do
  return (f.1, ← readShorthand f.2)

theorem readFields_eq_mapM (fs : Entries Value) : readFields fs = fs.mapM readField := by
  induction fs with
  | nil => rfl
  | cons f rest ih =>
    rw [readFields, List.mapM_cons, ih, readField]
    cases readShorthand f.2 <;> rfl

theorem readAll_yields {vs : List Value} {ss : List Schema} (h : List.Forall₂ Yields vs ss) :
    ∃ shs, readAll vs = .ok shs ∧ Shorthand.compileAll shs = .ok ss := by
  simp only [readAll_eq_mapM, Shorthand.compileAll_eq_mapM]
  exact exists_mapM h

theorem readFields_yields {fs : Entries Value} {gs : List (Value × Schema)}
    (h : List.Forall₂ (fun f g => f.1 = g.1 ∧ Yields f.2 g.2) fs gs) :
    ∃ shs, readFields fs = .ok shs ∧ Shorthand.compileEntries shs = .ok gs := by
  simp only [readFields_eq_mapM, Shorthand.compileEntries_eq_mapM]
  apply exists_mapM
  apply h.imp
  rintro f g ⟨hkey, sh, hread, hcompile⟩
  refine ⟨(f.1, sh), ?_, ?_⟩
  · rw [readField, hread]
    rfl
  · rw [hcompile, hkey]
    rfl

theorem yields_simple {es : Entries Value} {name : String} {s : Schema}
    (htype : field? "type" es = some (.text name)) (h : (name, s) ∈ simpleTypes) :
    Yields (.dict es) s := by
  unfold Yields
  rcases mem_simpleTypes_iff.mp h with h | h | h | h | h | h | h <;>
  · obtain ⟨rfl, rfl⟩ := h
    rw [readShorthand, htype]
    exact ⟨_, rfl, rfl⟩

/-! Each type with its parts -/

section

variable {es : Entries Value}

theorem readShorthand_literal (h : field? "type" es = some (.text "literal")) :
    readShorthand (.dict es) = literal es := by
  rw [readShorthand, h]
  rfl

theorem readShorthand_regex (h : field? "type" es = some (.text "regex")) :
    readShorthand (.dict es) = regex es := by
  rw [readShorthand, h]
  rfl

theorem readShorthand_array (h : field? "type" es = some (.text "array")) :
    readShorthand (.dict es) =
      match field? "items" es with
      | none => .ok (.marker .list)
      | some v => (readShorthand v).map fun item => .list [item] := by
  rw [← readArray_eq, readShorthand, h]
  rfl

theorem readShorthand_tuple (h : field? "type" es = some (.text "tuple")) :
    readShorthand (.dict es) =
      match field? "items" es with
      | some (.sequence .list (item :: items)) =>
        (readAll (item :: items)).map fun shorthands =>
          .list [.scalar (.int shorthands.length), .list shorthands]
      | _ => .error .emptyTuple := by
  rw [← readTuple_eq, readShorthand, h]
  rfl

theorem readShorthand_object (h : field? "type" es = some (.text "object")) :
    readShorthand (.dict es) =
      match field? "fields" es with
      | none => .ok (.marker .dict)
      | some (.mapping .dict fields) => (readFields fields).map .mapping
      | some v => .error (.fieldsNotADict v.className) := by
  rw [← readObject_eq, readShorthand, h]
  rfl

end

theorem yields_literal {es : Entries Value} {v : Value}
    (htype : field? "type" es = some (.text "literal")) (hvalue : field? "value" es = some v)
    (h : v.isScalar) : Yields (.dict es) (scalarSchema v) := by
  obtain ⟨sh, hsh, hcompile⟩ := exists_scalar? h
  refine ⟨sh, ?_, hcompile⟩
  rw [readShorthand_literal htype, literal, hvalue]
  simp only [hsh]
  rfl

theorem yields_regex {es : Entries Value} {p : Pattern}
    (htype : field? "type" es = some (.text "regex"))
    (hpattern : field? "pattern" es = some (.text p.source))
    (hlength : p.source.length ≤ maxPatternLength) : Yields (.dict es) (.regex p) := by
  refine ⟨.schema (.regex p), ?_, rfl⟩
  rw [readShorthand_regex htype, regex, hpattern]
  simp only [Option.getD_some]
  rw [if_neg (by omega), Shorthand.regexSchema, Pattern.ofSource_source]
  rfl

theorem yields_array {es : Entries Value} {v : Value} {s : Schema}
    (htype : field? "type" es = some (.text "array")) (hitems : field? "items" es = some v)
    (h : Yields v s) : Yields (.dict es) (.array s) := by
  obtain ⟨sh, hread, hcompile⟩ := h
  refine ⟨.list [sh], ?_, ?_⟩
  · rw [readShorthand_array htype, hitems]
    simp only [hread]
    rfl
  · rw [Shorthand.compile, hcompile]
    rfl

/-- The list of a tuple's parts is counted, and so it is not taken for anything else. -/
theorem yields_tuple {es : Entries Value} {vs : List Value} {ss : List Schema}
    (htype : field? "type" es = some (.text "tuple")) (hitems : field? "items" es = some (.list vs))
    (hne : vs ≠ []) (h : List.Forall₂ Yields vs ss) : Yields (.dict es) (.tuple ss) := by
  obtain ⟨shs, hreads, hcompiles⟩ := readAll_yields h
  have hlength : vs.length = shs.length := by
    rw [readAll_eq_mapM, mapM_eq_ok_iff] at hreads
    exact hreads.length_eq
  have hpos : 1 ≤ shs.length := by
    rw [← hlength]
    exact List.length_pos_iff.mpr hne
  refine ⟨.list [.scalar (.int shs.length), .list shs], ?_, ?_⟩
  · obtain ⟨v, vs, rfl⟩ := List.exists_cons_of_ne_nil hne
    rw [readShorthand_tuple htype, hitems]
    simp only [hreads]
    rfl
  · rw [Shorthand.compile, if_pos (by simp; omega), hcompiles]
    rfl

theorem yields_object {es fs : Entries Value} {gs : List (Value × Schema)}
    (htype : field? "type" es = some (.text "object"))
    (hfields : field? "fields" es = some (.dict fs))
    (h : List.Forall₂ (fun f g => f.1 = g.1 ∧ Yields f.2 g.2) fs gs) :
    Yields (.dict es) (.object gs) := by
  obtain ⟨shs, hreads, hcompiles⟩ := readFields_yields h
  refine ⟨.mapping shs, ?_, ?_⟩
  · rw [readShorthand_object htype, hfields]
    simp only [hreads]
    rfl
  · rw [Shorthand.compile, hcompiles]
    rfl

theorem Describes.yields {v : Value} {s : Schema} (h : Describes v s) : Yields v s := by
  induction h with
  | scalar v h => exact yields_scalar h
  | simple es name s htype h => exact yields_simple htype h
  | literal es v htype hvalue h => exact yields_literal htype hvalue h
  | regex es p htype hpattern hlength => exact yields_regex htype hpattern hlength
  | anyArray es htype hitems =>
    refine ⟨.marker .list, ?_, rfl⟩
    rw [readShorthand_array htype, hitems]
  | array es v s htype hitems _ ih => exact yields_array htype hitems ih
  | tuple es vs ss htype hitems hne hlength _ ih =>
    exact yields_tuple htype hitems hne (List.forall₂_iff_zip.mpr ⟨hlength, fun hm => ih _ hm⟩)
  | anyObject es htype hfields =>
    refine ⟨.marker .dict, ?_, rfl⟩
    rw [readShorthand_object htype, hfields]
  | object es fs gs htype hfields hlength hkeys _ ih =>
    refine yields_object htype hfields (List.forall₂_iff_zip.mpr ⟨hlength, fun hm => ?_⟩)
    exact ⟨hkeys _ hm, ih _ hm⟩

end ShapeMatch.Config

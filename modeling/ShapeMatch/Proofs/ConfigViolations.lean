import ShapeMatch.Config.Basic
import ShapeMatch.Proofs.ConfigGrammar
import ShapeMatch.Regex.Engine

/-!
Violations of the grammar of configurations. Every configuration is either in the grammar, or there
is a first thing in it that is against it (`settled`), and reading fails with the error of that
(`readShorthand_eq_error_iff`). What is read can be compiled, so that no other error
is left for whole matchers (`read_correct`).
-/

namespace ShapeMatch.Config

/-! ## Errors -/

/-- The errors that say what is wrong with a configuration. -/
def IsParseError : ConfigError → Prop
  | .uncompilable _ | .unwritable => False
  | _ => True

/-- The error says what is wrong, or there is something in the configuration that no error
can show. -/
def Tells (v : Value) (e : ConfigError) : Prop :=
  IsParseError e ∨ e = .unwritable ∧ ¬ v.isWritable

theorem Tells.of_part {part whole : Value} {e : ConfigError}
    (h : whole.isWritable → part.isWritable) (hpart : Tells part e) : Tells whole e := by
  rcases hpart with hparse | ⟨he, hlong⟩
  · exact .inl hparse
  · exact .inr ⟨he, fun hwhole => hlong (h hwhole)⟩

theorem isWritable_of_field? {name : String} {es : Entries Value} {v : Value}
    (h : field? name es = some v) (hes : (Value.dict es).isWritable) : v.isWritable := by
  obtain ⟨k, hmem, _⟩ := Entries.mem_of_get? h
  exact (Value.isWritable_of_mem_mapping hes hmem).2

theorem isWritable_of_mem_field? {name : String} {es : Entries Value} {vs : List Value} {v : Value}
    (h : field? name es = some (.list vs)) (hv : v ∈ vs) (hes : (Value.dict es).isWritable) :
    v.isWritable :=
  Value.isWritable_of_mem_sequence (isWritable_of_field? h hes) hv

section

variable [RegexEngine]

/-! ## Shorthands -/

/-- The names of all types. -/
def typeNames : List String :=
  simpleTypes.map Prod.fst ++ ["literal", "regex", "array", "tuple", "object"]

/-- The first thing in a configuration that is against the grammar of shorthands. -/
inductive Violates : Value → ConfigError → Prop where
  | notAShorthand (v : Value) (hscalar : ¬ v.isScalar) (hdict : ∀ es, v ≠ .dict es) :
      Violates v (.notAShorthand v.className)
  | missingType (es : Entries Value)
      (h : field? "type" es = none ∨ field? "type" es = some .null) :
      Violates (.dict es) .missingType
  | unknownType (es : Entries Value) (kind : Value) (htype : field? "type" es = some kind)
      (hnull : kind ≠ .null) (hname : ∀ name ∈ typeNames, kind ≠ .text name)
      (hshort : kind.isWritable) : Violates (.dict es) (.unknownType kind)
  /-- the message would show the type -/
  | unwritableType (es : Entries Value) (kind : Value) (htype : field? "type" es = some kind)
      (hlong : ¬ kind.isWritable) : Violates (.dict es) .unwritable
  | missingLiteral (es : Entries Value) (htype : field? "type" es = some (.text "literal"))
      (hvalue : field? "value" es = none) : Violates (.dict es) .missingLiteral
  | literalNotScalar (es : Entries Value) (v : Value)
      (htype : field? "type" es = some (.text "literal")) (hvalue : field? "value" es = some v)
      (h : ¬ v.isScalar) : Violates (.dict es) (.literalNotScalar v.className)
  | patternNotText (es : Entries Value) (v : Value)
      (htype : field? "type" es = some (.text "regex"))
      (hpattern : (field? "pattern" es).getD .null = v) (h : ∀ s, v ≠ .text s) :
      Violates (.dict es) (.patternNotText v.className)
  | patternTooLong (es : Entries Value) (s : String)
      (htype : field? "type" es = some (.text "regex"))
      (hpattern : field? "pattern" es = some (.text s)) (hlength : maxPatternLength < s.length) :
      Violates (.dict es) (.patternTooLong s.length)
  | badPattern (es : Entries Value) (s : String) (e : List UInt8)
      (htype : field? "type" es = some (.text "regex"))
      (hpattern : field? "pattern" es = some (.text s)) (hlength : s.length ≤ maxPatternLength)
      (h : Pattern.ofSource s = .error e) : Violates (.dict es) (.badPattern (.badPattern s e))
  | inArray (es : Entries Value) (v : Value) (e : ConfigError)
      (htype : field? "type" es = some (.text "array")) (hitems : field? "items" es = some v)
      (h : Violates v e) : Violates (.dict es) e
  | emptyTuple (es : Entries Value) (htype : field? "type" es = some (.text "tuple"))
      (hitems : ∀ vs, field? "items" es = some (.list vs) → vs = []) :
      Violates (.dict es) .emptyTuple
  | inTuple (es : Entries Value) (before : List Value) (v : Value) (after : List Value)
      (e : ConfigError) (htype : field? "type" es = some (.text "tuple"))
      (hitems : field? "items" es = some (.list (before ++ v :: after)))
      (hbefore : ∀ b ∈ before, Grammatical b) (h : Violates v e) : Violates (.dict es) e
  | fieldsNotADict (es : Entries Value) (v : Value)
      (htype : field? "type" es = some (.text "object")) (hfields : field? "fields" es = some v)
      (h : ∀ fs, v ≠ .dict fs) : Violates (.dict es) (.fieldsNotADict v.className)
  | inObject (es : Entries Value) (before : Entries Value) (f : Value × Value)
      (after : Entries Value) (e : ConfigError) (htype : field? "type" es = some (.text "object"))
      (hfields : field? "fields" es = some (.dict (before ++ f :: after)))
      (hbefore : ∀ b ∈ before, Grammatical b.2) (h : Violates f.2 e) : Violates (.dict es) e

theorem Grammatical.exists_read {v : Value} (h : Grammatical v) :
    ∃ sh, readShorthand v = .ok sh := by
  obtain ⟨s, hs⟩ := h
  obtain ⟨sh, hread, _⟩ := hs.yields
  exact ⟨sh, hread⟩

theorem readAll_error {before : List Value} (hbefore : ∀ b ∈ before, Grammatical b) {v : Value}
    {e : ConfigError} (h : readShorthand v = .error e) (after : List Value) :
    readAll (before ++ v :: after) = .error e := by
  rw [readAll_eq_mapM]
  exact mapM_eq_error (fun b hb => (hbefore b hb).exists_read) h after

theorem readFields_error {before : Entries Value} (hbefore : ∀ b ∈ before, Grammatical b.2)
    {f : Value × Value} {e : ConfigError} (h : readShorthand f.2 = .error e)
    (after : Entries Value) : readFields (before ++ f :: after) = .error e := by
  rw [readFields_eq_mapM]
  apply mapM_eq_error
  · intro b hb
    obtain ⟨sh, hread⟩ := (hbefore b hb).exists_read
    refine ⟨(b.1, sh), ?_⟩
    rw [readField, hread]
    rfl
  · rw [readField, h]
    rfl

theorem readShorthand_unknown {es : Entries Value} {kind : Value}
    (htype : field? "type" es = some kind) (hnull : kind ≠ .null)
    (hname : ∀ name ∈ typeNames, kind ≠ .text name) :
    readShorthand (.dict es) =
      .error (if kind.isWritable then .unknownType kind else .unwritable) := by
  rw [readShorthand, htype]
  simp only [typeNames, simpleTypes, List.map_cons, List.map_nil, List.cons_append,
    List.nil_append, List.forall_mem_cons] at hname
  split <;> simp_all

theorem Violates.read {v : Value} {e : ConfigError} (h : Violates v e) :
    readShorthand v = .error e := by
  induction h with
  | notAShorthand v hscalar hdict =>
    rw [readShorthand_of_not_dict hdict, scalar?_eq_none hscalar]
    rfl
  | missingType es h =>
    rw [readShorthand]
    rcases h with h | h <;> rw [h]
  | unknownType es kind htype hnull hname hshort =>
    rw [readShorthand_unknown htype hnull hname, if_pos hshort]
  | unwritableType es kind htype hlong =>
    rw [readShorthand_unknown htype, if_neg hlong]
    · rintro rfl
      exact hlong rfl
    · rintro name _ rfl
      exact hlong rfl
  | missingLiteral es htype hvalue =>
    rw [readShorthand_literal htype, Config.literal, hvalue]
  | literalNotScalar es v htype hvalue h =>
    rw [readShorthand_literal htype, Config.literal, hvalue]
    simp only [scalar?_eq_none h]
    rfl
  | patternNotText es v htype hpattern h =>
    rw [readShorthand_regex htype, Config.regex, hpattern]
    split
    · exact absurd rfl (h _)
    · rfl
  | patternTooLong es s htype hpattern hlength =>
    rw [readShorthand_regex htype, Config.regex, hpattern]
    exact if_pos hlength
  | badPattern es s e htype hpattern hlength h =>
    rw [readShorthand_regex htype, Config.regex, hpattern]
    simp only [Option.getD_some]
    rw [if_neg (by omega), Shorthand.regexSchema, h]
    rfl
  | inArray es v e htype hitems _ ih =>
    rw [readShorthand_array htype, hitems]
    simp only [ih]
    rfl
  | emptyTuple es htype hitems =>
    rw [readShorthand_tuple htype]
    split
    · rename_i item items h
      exact absurd (hitems _ h) (List.cons_ne_nil _ _)
    · rfl
  | inTuple es before v after e htype hitems hbefore _ ih =>
    have hreads := readAll_error hbefore ih after
    obtain ⟨u, us, hcons⟩ := List.exists_cons_of_ne_nil (l := before ++ v :: after) (by simp)
    rw [hcons] at hitems hreads
    rw [readShorthand_tuple htype, hitems]
    simp only [hreads]
    rfl
  | fieldsNotADict es v htype hfields h =>
    rw [readShorthand_object htype, hfields]
    split
    · rename_i heq
      cases heq
    · rename_i heq
      cases heq
      exact absurd rfl (h _)
    · rename_i heq
      cases heq
      rfl
  | inObject es before f after e htype hfields hbefore _ ih =>
    rw [readShorthand_object htype, hfields]
    simp only [readFields_error hbefore ih after]
    rfl

/-! ## One or the other -/

/-- A configuration is in the grammar, or there is a first thing in it that is not. -/
def Settled (v : Value) : Prop := Grammatical v ∨ ∃ e, Violates v e

section

variable {es : Entries Value}

theorem settled_literal (htype : field? "type" es = some (.text "literal")) :
    Settled (.dict es) := by
  cases hvalue : field? "value" es with
  | none => exact .inr ⟨_, .missingLiteral es htype hvalue⟩
  | some v =>
    by_cases h : v.isScalar
    · exact .inl ⟨_, .literal es v htype hvalue h⟩
    · exact .inr ⟨_, .literalNotScalar es v htype hvalue h⟩

theorem settled_regex (htype : field? "type" es = some (.text "regex")) : Settled (.dict es) := by
  by_cases htext : ∃ s, field? "pattern" es = some (.text s)
  · obtain ⟨s, hpattern⟩ := htext
    by_cases hlength : s.length ≤ maxPatternLength
    · cases hp : Pattern.ofSource s with
      | error e => exact .inr ⟨_, .badPattern es s e htype hpattern hlength hp⟩
      | ok p =>
        obtain rfl := Pattern.source_of_ofSource hp
        exact .inl ⟨_, .regex es p htype hpattern hlength⟩
    · exact .inr ⟨_, .patternTooLong es s htype hpattern (by omega)⟩
  · refine .inr ⟨_, .patternNotText es _ htype rfl ?_⟩
    intro s hs
    cases hpattern : field? "pattern" es with
    | none => simp [hpattern] at hs
    | some v =>
      rw [hpattern] at hs
      exact htext ⟨s, hpattern.trans (congrArg some hs)⟩

theorem settled_array (htype : field? "type" es = some (.text "array"))
    (ih : ∀ v, field? "items" es = some v → Settled v) : Settled (.dict es) := by
  cases hitems : field? "items" es with
  | none => exact .inl ⟨_, .anyArray es htype hitems⟩
  | some v =>
    rcases ih v hitems with ⟨s, h⟩ | ⟨e, h⟩
    · exact .inl ⟨_, .array es v s htype hitems h⟩
    · exact .inr ⟨e, .inArray es v e htype hitems h⟩

theorem settled_tuple (htype : field? "type" es = some (.text "tuple"))
    (ih : ∀ vs, field? "items" es = some (.list vs) → ∀ v ∈ vs, Settled v) :
    Settled (.dict es) := by
  by_cases hlist : ∃ vs, field? "items" es = some (.list vs) ∧ vs ≠ []
  · obtain ⟨vs, hitems, hne⟩ := hlist
    rcases forall_or_first (ih vs hitems) with hall | ⟨before, v, after, e, rfl, hbefore, h⟩
    · obtain ⟨ss, hss⟩ := (exists_forall₂_iff Describes vs).mpr hall
      exact .inl ⟨_, describes_tuple htype hitems hne hss⟩
    · exact .inr ⟨e, .inTuple es before v after e htype hitems hbefore h⟩
  · refine .inr ⟨_, .emptyTuple es htype ?_⟩
    intro vs hitems
    by_contra hne
    exact hlist ⟨vs, hitems, hne⟩

theorem settled_object (htype : field? "type" es = some (.text "object"))
    (ih : ∀ fs : Entries Value, field? "fields" es = some (.dict fs) → ∀ f ∈ fs, Settled f.2) :
    Settled (.dict es) := by
  cases hfields : field? "fields" es with
  | none => exact .inl ⟨_, .anyObject es htype hfields⟩
  | some v =>
    by_cases hdict : ∃ fs, v = .dict fs
    · obtain ⟨fs, rfl⟩ := hdict
      rcases forall_or_first (ih fs hfields) with hall | ⟨before, f, after, e, rfl, hbefore, h⟩
      · have hparts : ∀ f ∈ fs, ∃ g : Value × Schema, f.1 = g.1 ∧ Describes f.2 g.2 := by
          intro f hf
          obtain ⟨s, hs⟩ := hall f hf
          exact ⟨(f.1, s), rfl, hs⟩
        obtain ⟨gs, hgs⟩ := (exists_forall₂_iff _ fs).mpr hparts
        exact .inl ⟨_, describes_object htype hfields hgs⟩
      · exact .inr ⟨e, .inObject es before f after e htype hfields hbefore h⟩
    · exact .inr ⟨_, .fieldsNotADict es v htype hfields fun fs h => hdict ⟨fs, h⟩⟩

end

/-- What a dictionary says of its type settles what is asked of its other entries. -/
theorem settled_of_type {es : Entries Value} {kind : Value} (htype : field? "type" es = some kind)
    (hentry : ∀ name u, field? name es = some u → Settled u)
    (hitem : ∀ vs, field? "items" es = some (.list vs) → ∀ v ∈ vs, Settled v)
    (hfield : ∀ fs : Entries Value, field? "fields" es = some (.dict fs) → ∀ f ∈ fs, Settled f.2) :
    Settled (.dict es) := by
  by_cases hnull : kind = .null
  · exact .inr ⟨_, .missingType es (.inr (hnull ▸ htype))⟩
  by_cases hknown : ∃ name ∈ typeNames, kind = .text name
  · obtain ⟨name, hname, rfl⟩ := hknown
    rcases List.mem_append.mp hname with hsimple | hparts
    · obtain ⟨⟨name, s⟩, h, rfl⟩ := List.mem_map.mp hsimple
      exact .inl ⟨s, .simple es name s htype h⟩
    · simp only [List.mem_cons, List.not_mem_nil, or_false] at hparts
      rcases hparts with rfl | rfl | rfl | rfl | rfl
      · exact settled_literal htype
      · exact settled_regex htype
      · exact settled_array htype (hentry "items")
      · exact settled_tuple htype hitem
      · exact settled_object htype hfield
  · by_cases hshort : kind.isWritable
    · have hname : ∀ name ∈ typeNames, kind ≠ .text name :=
        fun name hmem h => hknown ⟨name, hmem, h⟩
      exact .inr ⟨_, .unknownType es kind htype hnull hname hshort⟩
    · exact .inr ⟨_, .unwritableType es kind htype hshort⟩

/-- By induction on the size: what a dictionary holds is smaller than the dictionary. -/
theorem settled (v : Value) : Settled v := by
  induction hn : sizeOf v using Nat.strongRecOn generalizing v with
  | ind n ih =>
    subst hn
    by_cases hdict : ∃ es, v = .dict es
    · obtain ⟨es, rfl⟩ := hdict
      cases htype : field? "type" es with
      | none => exact .inr ⟨_, .missingType es (.inl htype)⟩
      | some kind =>
        refine settled_of_type htype ?_ ?_ ?_
        · intro name u hu
          exact ih _ (sizeOf_field?_lt hu) u rfl
        · intro vs hvs u hu
          exact ih _ (sizeOf_item_lt hvs hu) u rfl
        · intro fs hfs f hf
          exact ih _ (sizeOf_entry_lt hfs hf) f.2 rfl
    · by_cases hscalar : v.isScalar
      · exact .inl ⟨_, .scalar v hscalar⟩
      · exact .inr ⟨_, .notAShorthand v hscalar fun es h => hdict ⟨es, h⟩⟩

theorem Describes.eq_of_read {v : Value} {s : Schema} {sh : Shorthand} (h : Describes v s)
    (hread : readShorthand v = .ok sh) : sh.compile = .ok s := by
  obtain ⟨sh', hread', hcompile⟩ := h.yields
  obtain rfl : sh' = sh := Except.ok.inj (hread'.symm.trans hread)
  exact hcompile

/-- What is read has a schema, which is the one described. -/
theorem exists_describes_of_read {v : Value} {sh : Shorthand} (h : readShorthand v = .ok sh) :
    ∃ s, Describes v s ∧ sh.compile = .ok s := by
  rcases settled v with ⟨s, hs⟩ | ⟨e, he⟩
  · exact ⟨s, hs, hs.eq_of_read h⟩
  · rw [he.read] at h
    cases h

theorem readShorthand_eq_error_iff (v : Value) (e : ConfigError) :
    readShorthand v = .error e ↔ Violates v e :=
  eq_error_iff (fun _ => Violates.read) ((settled v).imp_left Grammatical.exists_read) e

/-! ## Cases -/

/-- A case in the grammar: the schema described by its condition, and any action. -/
def DescribesCase (v : Value) (c : CaseConfig) : Prop :=
  ∃ es condition, v = .dict es ∧ field? "when" es = some condition ∧
    field? "action" es = some c.action ∧ Describes condition c.schema

/-- The first thing in a case that is against the grammar. -/
inductive ViolatesCase : Value → ConfigError → Prop where
  | notADict (v : Value) (h : ∀ es, v ≠ .dict es) : ViolatesCase v (.caseNotADict v.className)
  | missingWhen (es : Entries Value) (hwhen : field? "when" es = none) :
      ViolatesCase (.dict es) .missingWhen
  | missingAction (es : Entries Value) (condition : Value)
      (hwhen : field? "when" es = some condition) (haction : field? "action" es = none) :
      ViolatesCase (.dict es) .missingAction
  | inWhen (es : Entries Value) (condition action : Value) (e : ConfigError)
      (hwhen : field? "when" es = some condition) (haction : field? "action" es = some action)
      (h : Violates condition e) : ViolatesCase (.dict es) e

theorem readCase_of_not_dict {v : Value} (h : ∀ es, v ≠ .dict es) :
    readCase v = .error (.caseNotADict v.className) := by
  unfold readCase
  split
  · exact absurd rfl (h _)
  · rfl

theorem DescribesCase.read {v : Value} {c : CaseConfig} (h : DescribesCase v c) :
    readCase v = .ok c := by
  obtain ⟨es, condition, rfl, hwhen, haction, hdescribes⟩ := h
  obtain ⟨sh, hread, hcompile⟩ := hdescribes.yields
  simp only [readCase, hwhen, haction, hread, bind, Except.bind, hcompile, Except.mapError]
  rfl

theorem ViolatesCase.read {v : Value} {e : ConfigError} (h : ViolatesCase v e) :
    readCase v = .error e := by
  cases h with
  | notADict v h => exact readCase_of_not_dict h
  | missingWhen es hwhen => simp only [readCase, hwhen]
  | missingAction es condition hwhen haction => simp only [readCase, hwhen, haction]
  | inWhen es condition action e hwhen haction h =>
    simp only [readCase, hwhen, haction, h.read]
    rfl

theorem settledCase (v : Value) : (∃ c, DescribesCase v c) ∨ ∃ e, ViolatesCase v e := by
  by_cases hdict : ∃ es, v = .dict es
  · obtain ⟨es, rfl⟩ := hdict
    cases hwhen : field? "when" es with
    | none => exact .inr ⟨_, .missingWhen es hwhen⟩
    | some condition =>
      cases haction : field? "action" es with
      | none => exact .inr ⟨_, .missingAction es condition hwhen haction⟩
      | some action =>
        rcases settled condition with ⟨s, hs⟩ | ⟨e, he⟩
        · exact .inl ⟨⟨s, action⟩, es, condition, rfl, hwhen, haction, hs⟩
        · exact .inr ⟨e, .inWhen es condition action e hwhen haction he⟩
  · exact .inr ⟨_, .notADict v fun es h => hdict ⟨es, h⟩⟩

theorem readCases_eq_mapM (vs : List Value) : readCases vs = vs.mapM readCase := by
  induction vs with
  | nil => rfl
  | cons v rest ih => rw [readCases, List.mapM_cons, ih]

/-! ## Matchers -/

/-- A matcher in the grammar: not too many cases, each in the grammar, and any default. -/
def DescribesMatcher (v : Value) (c : MatcherConfig) : Prop :=
  ∃ es vs, v = .dict es ∧ field? "cases" es = some (.list vs) ∧ vs.length ≤ maxCases ∧
    List.Forall₂ DescribesCase vs c.cases ∧ (field? "default" es).getD .undefined = c.default

/-- The first thing in a matcher that is against the grammar. -/
inductive ViolatesMatcher : Value → ConfigError → Prop where
  | notADict (v : Value) (h : ∀ es, v ≠ .dict es) : ViolatesMatcher v (.notADict v.className)
  | missingCases (es : Entries Value)
      (h : field? "cases" es = none ∨ field? "cases" es = some .null) :
      ViolatesMatcher (.dict es) .missingCases
  | casesNotAList (es : Entries Value) (v : Value) (hcases : field? "cases" es = some v)
      (hnull : v ≠ .null) (h : ∀ vs, v ≠ .list vs) :
      ViolatesMatcher (.dict es) (.casesNotAList v.className)
  | tooManyCases (es : Entries Value) (vs : List Value)
      (hcases : field? "cases" es = some (.list vs)) (hcount : maxCases < vs.length) :
      ViolatesMatcher (.dict es) (.tooManyCases vs.length)
  | inCase (es : Entries Value) (before : List Value) (v : Value) (after : List Value)
      (e : ConfigError) (hcases : field? "cases" es = some (.list (before ++ v :: after)))
      (hcount : (before ++ v :: after).length ≤ maxCases)
      (hbefore : ∀ b ∈ before, ∃ c, DescribesCase b c) (h : ViolatesCase v e) :
      ViolatesMatcher (.dict es) e

theorem DescribesMatcher.read {v : Value} {c : MatcherConfig} (h : DescribesMatcher v c) :
    Config.read v = .ok c := by
  obtain ⟨es, vs, rfl, hcases, hcount, hdescribes, hdefault⟩ := h
  have hreads : readCases vs = .ok c.cases := by
    rw [readCases_eq_mapM, mapM_eq_ok_iff]
    exact hdescribes.imp fun _ _ h => h.read
  simp only [Config.read, hcases, hreads, hdefault]
  exact if_neg (by omega)

theorem ViolatesMatcher.read {v : Value} {e : ConfigError} (h : ViolatesMatcher v e) :
    Config.read v = .error e := by
  cases h with
  | notADict v h =>
    unfold Config.read
    split
    · exact absurd rfl (h _)
    · rfl
  | missingCases es h => rcases h with h | h <;> simp only [Config.read, h]
  | casesNotAList es v hcases hnull h =>
    cases v with
    | null => exact absurd rfl hnull
    | sequence form vs =>
      cases form with
      | list => exact absurd rfl (h vs)
      | tuple => simp only [Config.read, hcases]
    | _ => simp only [Config.read, hcases]
  | tooManyCases es vs hcases hcount =>
    simp only [Config.read, hcases]
    exact if_pos hcount
  | inCase es before v after e hcases hcount hbefore h =>
    have hreads : readCases (before ++ v :: after) = .error e := by
      rw [readCases_eq_mapM]
      refine mapM_eq_error (fun b hb => ?_) h.read after
      obtain ⟨c, hc⟩ := hbefore b hb
      exact ⟨c, hc.read⟩
    simp only [Config.read, hcases, hreads]
    exact if_neg (by omega)

theorem settledMatcher (v : Value) : (∃ c, DescribesMatcher v c) ∨ ∃ e, ViolatesMatcher v e := by
  by_cases hdict : ∃ es, v = .dict es
  · obtain ⟨es, rfl⟩ := hdict
    cases hcases : field? "cases" es with
    | none => exact .inr ⟨_, .missingCases es (.inl hcases)⟩
    | some u =>
      by_cases hnull : u = .null
      · exact .inr ⟨_, .missingCases es (.inr (hnull ▸ hcases))⟩
      by_cases hlist : ∃ vs, u = .list vs
      · obtain ⟨vs, rfl⟩ := hlist
        by_cases hcount : vs.length ≤ maxCases
        · have hcase : ∀ v ∈ vs, (∃ c, DescribesCase v c) ∨ ∃ e, ViolatesCase v e :=
            fun v _ => settledCase v
          rcases forall_or_first hcase with hall | ⟨before, v, after, e, rfl, hbefore, h⟩
          · obtain ⟨cs, hcs⟩ := (exists_forall₂_iff DescribesCase vs).mpr hall
            exact .inl ⟨⟨cs, _⟩, es, vs, rfl, hcases, hcount, hcs, rfl⟩
          · exact .inr ⟨e, .inCase es before v after e hcases hcount hbefore h⟩
        · exact .inr ⟨_, .tooManyCases es vs hcases (by omega)⟩
      · exact .inr ⟨_, .casesNotAList es u hcases hnull fun vs h => hlist ⟨vs, h⟩⟩
  · exact .inr ⟨_, .notADict v fun es h => hdict ⟨es, h⟩⟩

theorem read_eq_ok_iff (v : Value) (c : MatcherConfig) :
    Config.read v = .ok c ↔ DescribesMatcher v c :=
  eq_ok_iff (fun _ => DescribesMatcher.read)
    ((settledMatcher v).imp_right fun ⟨e, h⟩ => ⟨e, h.read⟩) c

theorem read_eq_error_iff (v : Value) (e : ConfigError) :
    Config.read v = .error e ↔ ViolatesMatcher v e :=
  eq_error_iff (fun _ => ViolatesMatcher.read)
    ((settledMatcher v).imp_left fun ⟨c, h⟩ => ⟨c, h.read⟩) e

theorem Violates.tells {v : Value} {e : ConfigError} (h : Violates v e) : Tells v e := by
  induction h with
  | unwritableType es kind htype hlong =>
    exact .inr ⟨rfl, fun hes => hlong (isWritable_of_field? htype hes)⟩
  | inArray es v e htype hitems _ ih => exact ih.of_part (isWritable_of_field? hitems)
  | inTuple es before v after e htype hitems hbefore _ ih =>
    exact ih.of_part (isWritable_of_mem_field? hitems (by simp))
  | inObject es before f after e htype hfields hbefore _ ih =>
    refine ih.of_part fun hes => ?_
    exact (Value.isWritable_of_mem_mapping (isWritable_of_field? hfields hes) (by simp)).2
  | _ => exact .inl trivial

theorem ViolatesCase.tells {v : Value} {e : ConfigError} (h : ViolatesCase v e) : Tells v e := by
  cases h with
  | inWhen es condition action e hwhen haction h =>
    exact h.tells.of_part (isWritable_of_field? hwhen)
  | _ => exact .inl trivial

theorem ViolatesMatcher.tells {v : Value} {e : ConfigError} (h : ViolatesMatcher v e) :
    Tells v e := by
  cases h with
  | inCase es before v after e hcases hcount hbefore h =>
    exact h.tells.of_part (isWritable_of_mem_field? hcases (by simp))
  | _ => exact .inl trivial

/-- A configuration is read exactly if it is in the grammar, and otherwise the error is that of
the first violation. This error says what is wrong, unless it would have to show something in the
configuration that has no text. What is read as a shorthand can be compiled. -/
theorem read_correct (v : Value) :
    ((∃ c, Config.read v = .ok c) ↔
      ∃ es vs, v = .dict es ∧ field? "cases" es = some (.list vs) ∧ vs.length ≤ maxCases ∧
        ∀ u ∈ vs, ∃ entries condition action, u = .dict entries ∧
          field? "when" entries = some condition ∧ field? "action" entries = some action ∧
            Grammatical condition) ∧
      (∀ e, Config.read v = .error e ↔ ViolatesMatcher v e) ∧
      (∀ e, Config.read v = .error e → IsParseError e ∨ e = .unwritable ∧ ¬ v.isWritable) ∧
      ∀ u sh, readShorthand u = .ok sh → ∃ s, sh.compile = .ok s := by
  refine ⟨?_, read_eq_error_iff v, fun e h => ((read_eq_error_iff v e).mp h).tells, ?_⟩
  · simp only [read_eq_ok_iff]
    constructor
    · rintro ⟨c, es, vs, rfl, hcases, hcount, hdescribes, _⟩
      refine ⟨es, vs, rfl, hcases, hcount, ?_⟩
      intro u hu
      obtain ⟨d, entries, condition, rfl, hwhen, haction, h⟩ :=
        (exists_forall₂_iff DescribesCase vs).mp ⟨_, hdescribes⟩ u hu
      exact ⟨entries, condition, d.action, rfl, hwhen, haction, _, h⟩
    · rintro ⟨es, vs, rfl, hcases, hcount, hgood⟩
      have hcase : ∀ u ∈ vs, ∃ c, DescribesCase u c := by
        intro u hu
        obtain ⟨entries, condition, action, rfl, hwhen, haction, s, h⟩ := hgood u hu
        exact ⟨⟨s, action⟩, entries, condition, rfl, hwhen, haction, h⟩
      obtain ⟨cs, hcs⟩ := (exists_forall₂_iff DescribesCase vs).mpr hcase
      exact ⟨⟨cs, _⟩, es, vs, rfl, hcases, hcount, hcs, rfl⟩
  · intro u sh h
    obtain ⟨s, _, hcompile⟩ := exists_describes_of_read h
    exact ⟨s, hcompile⟩

end

/-- A configuration whose only case has a point that cannot be written as its type. -/
def farTyped : Value :=
  .dict [(.text "cases", .list [.dict [(.text "when", .dict [(.text "type", .farPoint)]),
    (.text "action", .null)]])]

/-- The type is none of those known, but the error is not the one that says so. -/
theorem read_farTyped :
    (∀ name ∈ typeNames, Value.farPoint ≠ .text name) ∧
      Config.read farTyped = .error .unwritable ∧ ¬ IsParseError .unwritable := by
  refine ⟨fun name _ => Value.farPoint_ne_text name, ?_, id⟩
  have htype : Violates (.dict [(.text "type", .farPoint)]) .unwritable :=
    .unwritableType _ _ rfl (by simp [Value.farPoint_isWritable])
  have hcase : ViolatesCase (.dict [(.text "when", .dict [(.text "type", .farPoint)]),
      (.text "action", .null)]) .unwritable :=
    .inWhen _ _ _ _ rfl rfl htype
  exact (ViolatesMatcher.inCase _ [] _ [] _ rfl (by decide) (by simp) hcase).read

end ShapeMatch.Config

import ShapeMatch.Proofs.Deciding
import ShapeMatch.Proofs.Fallible
import ShapeMatch.Proofs.Scalars
import ShapeMatch.Proofs.Writable
import ShapeMatch.Regex.Engine
import ShapeMatch.Shorthand.Compile

/-!
What shorthands mean. `Shorthand.Matches` is the meaning by the shape of the shorthand alone,
without schemas, and `compile_decidedBy` says that the schema of a shorthand decides it. A
rejection must be put into words, which a number of very many digits does not allow:
`Shorthand.Unexplained` describes, again by the shape of the shorthand, where that happens.
Models and ready schemas stand for themselves and are left out.
-/

namespace ShapeMatch

/-! ## The meaning of a shorthand -/

def Marker.Admits : Marker → Value → Prop
  | .string, v => ∃ s, v = .text s
  | .number, v => ∃ x, v.real? = some x ∧ x ≠ .nan
  | .integer, v => ∃ n, v = .int n
  | .boolean, v => ∃ b, v = .bool b
  | .list, v => ∃ form vs, v = .sequence form vs
  | .dict, v => ∃ form es, v = .mapping form es

/-- A value is the scalar: the same text, the same truth value, or the same real number. -/
def Scalar.Is : Scalar → Value → Prop
  | .text s, v => v = .text s
  | .bool b, v => v = .bool b
  | .int n, v => v.real? = some (.ofInt n)
  | .float x, v => x ≠ .nan ∧ v.real? = some (.ofBinary64 x)

/-- A value is a text in which the expression is found. -/
def Expression.FoundIn [RegexEngine] (e : Expression) (v : Value) : Prop :=
  ∃ s t p, e.text = .characters s ∧ v = .text t ∧
    Pattern.ofSource (sourceOf e.flags s) = .ok p ∧ p.occursIn t = true

namespace Shorthand

variable [RegexEngine]

mutual

/-- A value has the shape that the shorthand describes. -/
def Matches : Shorthand → Value → Prop
  | .undefined, v => v = .undefined
  | .null, v => v = .null
  | .marker m, v => m.Admits v
  | .scalar s, v => s.Is v
  | .expression e, v => e.FoundIn v
  | .list [], v => ∃ form vs, v = .sequence form vs
  | .list [item], v => ∃ form vs, v = .sequence form vs ∧ ∀ u ∈ vs, item.Matches u
  | .list [.scalar (.int n), .list items], v =>
    ∃ form vs, v = .sequence form vs ∧ n = vs.length ∧ MatchesEach items vs
  | .list _, _ => False
  | .tuple [], v => ∃ form vs, v = .sequence form vs
  | .tuple (item :: items), v => ∃ form vs, v = .sequence form vs ∧ MatchesEach (item :: items) vs
  | .model _, _ => False
  | .schema _, _ => False
  | .mapping entries, v => ∃ form es, v = .mapping form es ∧ MatchesEntries entries es
  | .other _, _ => True

/-- There are as many values as shorthands, and each has the shape at its position. -/
def MatchesEach : List Shorthand → List Value → Prop
  | [], [] => True
  | s :: ss, v :: vs => s.Matches v ∧ MatchesEach ss vs
  | _, _ => False

/-- What a mapping holds under each key has its shape; a missing key holds no value. -/
def MatchesEntries : List (Value × Shorthand) → Entries Value → Prop
  | [], _ => True
  | (k, s) :: rest, es => s.Matches (es.valueOf k) ∧ MatchesEntries rest es

end

mutual

/-- The first mismatch there is cannot be put into words: it is that of a scalar, which or
the value found instead is too long to be written. -/
def Unexplained : Shorthand → Value → Prop
  | .scalar s, v => ¬ s.Is v ∧ ¬ (s.value.isWritable ∧ v.isWritable)
  | .list [item], v =>
    ∃ form vs, v = .sequence form vs ∧ FirstFails item.Matches item.Unexplained vs
  | .list [.scalar (.int n), .list items], v =>
    ∃ form vs, v = .sequence form vs ∧ n = vs.length ∧ n = items.length ∧ UnexplainedEach items vs
  | .tuple items, v =>
    ∃ form vs, v = .sequence form vs ∧ vs.length = items.length ∧ UnexplainedEach items vs
  | .mapping entries, v => ∃ form es, v = .mapping form es ∧ UnexplainedEntries entries es
  | _, _ => False

def UnexplainedEach : List Shorthand → List Value → Prop
  | s :: ss, v :: vs => s.Unexplained v ∨ s.Matches v ∧ UnexplainedEach ss vs
  | _, _ => False

def UnexplainedEntries : List (Value × Shorthand) → Entries Value → Prop
  | [], _ => False
  | (k, s) :: rest, es =>
    s.Unexplained (es.valueOf k) ∨ s.Matches (es.valueOf k) ∧ UnexplainedEntries rest es

end

mutual

/-- A test holds of a shorthand and of all its parts. -/
def all (test : Shorthand → Bool) : Shorthand → Bool
  | .list items => test (.list items) && allItems test items
  | .tuple items => test (.tuple items) && allItems test items
  | .mapping entries => test (.mapping entries) && allEntries test entries
  | s => test s

def allItems (test : Shorthand → Bool) : List Shorthand → Bool
  | [] => true
  | s :: rest => s.all test && allItems test rest

def allEntries (test : Shorthand → Bool) : List (Value × Shorthand) → Bool
  | [] => true
  | (_, s) :: rest => s.all test && allEntries test rest

end

/-- Whether a shorthand has no models and no ready schemas in it. -/
def isPlain (s : Shorthand) : Bool := s.all fun
  | .model _ | .schema _ => false
  | _ => true

theorem allItems_iff (test : Shorthand → Bool) (ss : List Shorthand) :
    allItems test ss = true ↔ ∀ s ∈ ss, s.all test := by
  induction ss with
  | nil => simp [allItems]
  | cons s rest ih => simp [allItems, ih]

theorem allEntries_iff (test : Shorthand → Bool) (es : List (Value × Shorthand)) :
    allEntries test es = true ↔ ∀ e ∈ es, e.2.all test := by
  induction es with
  | nil => simp [allEntries]
  | cons e rest ih =>
    obtain ⟨k, s⟩ := e
    simp [allEntries, ih]

/-- Induction over shorthands along the rules by which they are compiled. -/
@[elab_as_elim]
theorem ind {motive : Shorthand → Prop} (undefined : motive .undefined) (null : motive .null)
    (marker : ∀ m, motive (.marker m)) (scalar : ∀ s, motive (.scalar s))
    (expression : ∀ e, motive (.expression e)) (anyList : motive (.list []))
    (array : ∀ item, motive item → motive (.list [item]))
    (counted : ∀ (n : Int) items, 1 ≤ n ∧ n = items.length → (∀ s ∈ items, motive s) →
      motive (.list [.scalar (.int n), .list items]))
    (miscounted : ∀ (n : Int) items, ¬ (1 ≤ n ∧ n = items.length) →
      motive (.list [.scalar (.int n), .list items]))
    (malformed : ∀ items, items ≠ [] → (∀ item, items ≠ [item]) →
      (∀ n rest, items ≠ [.scalar (.int n), .list rest]) → motive (.list items))
    (anyTuple : motive (.tuple []))
    (tuple : ∀ item items, (∀ s ∈ item :: items, motive s) → motive (.tuple (item :: items)))
    (model : ∀ m, motive (.model m)) (schema : ∀ s, motive (.schema s))
    (mapping : ∀ es, (∀ e ∈ es, motive e.2) → motive (.mapping es))
    (other : ∀ v, motive (.other v)) : ∀ s, motive s := by
  intro s
  refine compile.induct motive (fun es => ∀ e ∈ es, motive e.2) (fun ss => ∀ s ∈ ss, motive s)
    undefined null marker scalar expression anyList array ?_ ?_ ?_ anyTuple tuple model schema
    mapping other ?_ ?_ ?_ ?_ s
  · intro n items hn ih
    exact counted n items (by simpa using hn) ih
  · intro n items hn
    exact miscounted n items (by simpa using hn)
  · exact malformed
  · simp
  · intro s rest hs hrest t ht
    rcases List.mem_cons.mp ht with rfl | hmem
    · exact hs
    · exact hrest t hmem
  · simp
  · intro k s rest hs hrest e he
    rcases List.mem_cons.mp he with rfl | hmem
    · exact hs
    · exact hrest e hmem

end Shorthand

/-! ## Scalars -/

theorem Scalar.compareLiteral_value (s : Scalar) (v : Value) :
    (s.Is v ∧ s.value.compareLiteral v = .equal) ∨
      ¬ s.Is v ∧ s.value.compareLiteral v = .different := by
  cases s with
  | text t =>
    cases v with
    | text s =>
      by_cases h : s = t <;>
        simp [Is, value, Value.compareLiteral, Value.literalKind, Value.compare, Comparison.onlyIf,
          Comparison.ofBool, Comparison.andThen, h]
    | _ =>
      simp [Is, value, Value.compareLiteral, Value.literalKind, Comparison.onlyIf,
        Comparison.ofBool, Comparison.andThen]
  | bool b =>
    cases v with
    | bool a =>
      have hsame : (Value.bool b).compareLiteral (.bool a) = .ofBool (a == b) := by
        cases a <;> cases b <;> decide +kernel
      rw [value, hsame]
      by_cases h : a = b <;> simp [Is, Comparison.ofBool, h]
    | _ =>
      simp [Is, value, Value.compareLiteral, Value.literalKind, Comparison.onlyIf,
        Comparison.ofBool, Comparison.andThen]
  | int n =>
    have hnan : Exact.ofInt n ≠ .nan := by simp [Exact.ofInt]
    rw [value, Value.compareLiteral_of_real? rfl]
    by_cases h : v.real? = some (.ofInt n) <;> simp [Is, Comparison.ofBool, hnan, h]
  | float x =>
    have hnan := Exact.ofBinary64_eq_nan_iff x
    rw [value, Value.compareLiteral_of_real? rfl]
    by_cases h : x ≠ .nan ∧ v.real? = some (.ofBinary64 x) <;>
      simp [Is, Comparison.ofBool, hnan, h]

namespace Shorthand

section

variable [RegexEngine]

theorem scalar_decides (s : Scalar) (v : Value) :
    ((Schema.literal s.value).validate v).Decides (s.Is v)
      (¬ s.Is v ∧ ¬ (s.value.isWritable ∧ v.isWritable)) := by
  rw [Schema.validate_literal]
  rcases s.compareLiteral_value v with ⟨his, heq⟩ | ⟨hnot, hne⟩
  · rw [heq]
    exact .kept his (fun hu => hu.1 his)
  · have hwords : (Reason.otherLiteral s.value v).isWritable = true ↔
        s.value.isWritable ∧ v.isWritable := by
      simp [Reason.isWritable]
    rw [hne, ← hwords]
    simp only [Verdict.reject]
    split
    · rename_i h
      exact .rejected _ hnot (fun hu => hu.2 h)
    · rename_i h
      exact .wordless hnot ⟨hnot, h⟩

theorem marker_decides (m : Marker) (v : Value) :
    ((markerSchema m).validate v).Decides (m.Admits v) False := by
  cases m with
  | list => exact Schema.anyArray_decides v
  | dict =>
    apply Verdict.Decides.of_worded
    cases v <;> simp [markerSchema, mappingVerdict,
      Checked.firstStop?, Marker.Admits]
  | number =>
    apply Verdict.Decides.of_worded
    cases v with
    | float x =>
      have hadmits : Marker.number.Admits (.float x) ↔ x ≠ .nan := Value.exists_real?_float x
      rw [hadmits]
      by_cases h : x = .nan <;> simp [markerSchema, Verdict.keepIf, h]
    | _ => simp [markerSchema, Marker.Admits, Value.real?, Exact.ofInt]
  | _ =>
    apply Verdict.Decides.of_worded
    cases v <;> simp [markerSchema, Marker.Admits]

/-- The schema of an expression looks for its source. -/
theorem exists_of_compileExpression {e : Expression} {s : Schema}
    (h : compileExpression e = .ok s) :
    ∃ t p, e.text = .characters t ∧ s = .regex p ∧
      Pattern.ofSource (Expression.sourceOf e.flags t) = .ok p := by
  unfold compileExpression regexSchema at h
  split at h
  · simp at h
  · rename_i source hsource
    split at h
    · split at h
      · rename_i p hp
        cases h
        exact ⟨source, p, hsource, rfl, hp⟩
      · simp at h
    · simp at h

theorem expression_decides {e : Expression} {s : Schema} (h : compileExpression e = .ok s)
    (v : Value) : (s.validate v).Decides (e.FoundIn v) False := by
  obtain ⟨source, p, hsource, rfl, hp⟩ := exists_of_compileExpression h
  have hfound : e.FoundIn v ↔ ∃ t, v = .text t ∧ p.occursIn t = true := by
    simp [Expression.FoundIn, hsource, hp]
  rw [hfound]
  exact Schema.regex_decides p v

/-! ## Shorthands with parts -/

theorem compileAll_eq_mapM (ss : List Shorthand) : compileAll ss = ss.mapM compile := by
  induction ss with
  | nil => rfl
  | cons s rest ih => rw [compileAll, List.mapM_cons, ih]

theorem compileEntries_eq_mapM (es : List (Value × Shorthand)) :
    compileEntries es = es.mapM fun e => do return (e.1, ← e.2.compile) := by
  induction es with
  | nil => rfl
  | cons e rest ih =>
    rw [compileEntries, List.mapM_cons, ih]
    cases e.2.compile <;> rfl

theorem compileAll_ok_iff {ss : List Shorthand} {σs : List Schema} :
    compileAll ss = .ok σs ↔ List.Forall₂ (fun s σ => s.compile = .ok σ) ss σs := by
  rw [compileAll_eq_mapM, mapM_eq_ok_iff]

theorem compileEntries_ok_iff {es : List (Value × Shorthand)} {fs : List (Value × Schema)} :
    compileEntries es = .ok fs ↔
      List.Forall₂ (fun e f => f.1 = e.1 ∧ e.2.compile = .ok f.2) es fs := by
  have hentry : ∀ (e : Value × Shorthand) (f : Value × Schema),
      (do return (e.1, ← e.2.compile)) = Except.ok f ↔ f.1 = e.1 ∧ e.2.compile = .ok f.2 := by
    intro e f
    constructor
    · intro h
      obtain ⟨σ, hσ, rfl⟩ := map_ok h
      exact ⟨rfl, hσ⟩
    · rintro ⟨hkey, hσ⟩
      rw [hσ, ← hkey]
      rfl
  rw [compileEntries_eq_mapM, mapM_eq_ok_iff]
  simp only [hentry]

theorem matchesEach_iff (ss : List Shorthand) (vs : List Value) :
    MatchesEach ss vs ↔ vs.length = ss.length ∧ ∀ p ∈ ss.zip vs, p.1.Matches p.2 := by
  induction ss generalizing vs with
  | nil => cases vs <;> simp [MatchesEach]
  | cons s ss ih =>
    cases vs with
    | nil => simp [MatchesEach]
    | cons v rest =>
      rw [MatchesEach, ih, List.zip_cons_cons, List.forall_mem_cons]
      simp only [List.length_cons, Nat.add_right_cancel_iff]
      exact and_left_comm

theorem unexplainedEach_iff (ss : List Shorthand) (vs : List Value) :
    UnexplainedEach ss vs ↔
      FirstFails (fun p => p.1.Matches p.2) (fun p => p.1.Unexplained p.2) (ss.zip vs) := by
  induction ss generalizing vs with
  | nil => cases vs <;> exact Iff.rfl
  | cons s ss ih =>
    cases vs with
    | nil => exact Iff.rfl
    | cons v rest =>
      rw [UnexplainedEach, ih]
      exact Iff.rfl

theorem matchesEntries_iff (entries : List (Value × Shorthand)) (es : Entries Value) :
    MatchesEntries entries es ↔ ∀ e ∈ entries, e.2.Matches (es.valueOf e.1) := by
  induction entries with
  | nil => simp [MatchesEntries]
  | cons e rest ih => rw [MatchesEntries, ih, List.forall_mem_cons]

theorem unexplainedEntries_iff (entries : List (Value × Shorthand)) (es : Entries Value) :
    UnexplainedEntries entries es ↔ FirstFails (fun e => e.2.Matches (es.valueOf e.1))
      (fun e => e.2.Unexplained (es.valueOf e.1)) entries := by
  induction entries with
  | nil => exact Iff.rfl
  | cons e rest ih =>
    rw [UnexplainedEntries, ih]
    exact Iff.rfl

/-- Whether the schema of a shorthand decides what the shorthand means. -/
def DecidedBy (s : Shorthand) (σ : Schema) : Prop :=
  ∀ v, (σ.validate v).Decides (s.Matches v) (s.Unexplained v)

theorem tuple_decides {ss : List Shorthand} {σs : List Schema} (h : List.Forall₂ DecidedBy ss σs)
    (v : Value) :
    ((Schema.tuple σs).validate v).Decides (∃ form vs, v = .sequence form vs ∧ MatchesEach ss vs)
      (∃ form vs, v = .sequence form vs ∧ vs.length = ss.length ∧ UnexplainedEach ss vs) := by
  simp only [matchesEach_iff, unexplainedEach_iff]
  exact Schema.tuple_decides h v

/-- A counted list means what the tuple of its shorthands means. -/
theorem counted_decidedBy {n : Int} {items : List Shorthand} {σs : List Schema}
    (hn : n = items.length) (h : List.Forall₂ DecidedBy items σs) :
    DecidedBy (.list [.scalar (.int n), .list items]) (.tuple σs) := by
  have hmatch : ∀ vs : List Value,
      n = vs.length ∧ MatchesEach items vs ↔ MatchesEach items vs := by
    intro vs
    refine ⟨fun hm => hm.2, fun hm => ⟨?_, hm⟩⟩
    rw [((matchesEach_iff items vs).mp hm).1, hn]
  have hbad : ∀ vs : List Value, n = vs.length ∧ n = items.length ∧ UnexplainedEach items vs ↔
      vs.length = items.length ∧ UnexplainedEach items vs := by
    intro vs
    have hlen : n = vs.length ∧ n = items.length ↔ vs.length = items.length := by omega
    rw [← and_assoc, hlen]
  intro v
  simpa only [Matches, Unexplained, hmatch, hbad] using tuple_decides h v

theorem mapping_decides {entries : List (Value × Shorthand)} {fs : List (Value × Schema)}
    (h : List.Forall₂ (fun e f => f.1 = e.1 ∧ e.2.DecidedBy f.2) entries fs) (v : Value) :
    ((Schema.object fs).validate v).Decides
      (∃ form es, v = .mapping form es ∧ MatchesEntries entries es)
      (∃ form es, v = .mapping form es ∧ UnexplainedEntries entries es) := by
  simp only [matchesEntries_iff, unexplainedEntries_iff]
  exact Schema.object_decides h v

theorem compileAll_decidedBy {ss : List Shorthand} {σs : List Schema} (h : compileAll ss = .ok σs)
    (ih : ∀ s ∈ ss, ∀ σ, s.compile = .ok σ → s.DecidedBy σ) : List.Forall₂ DecidedBy ss σs := by
  have hparts := (List.forall₂_and_left ss σs).mpr ⟨ih, compileAll_ok_iff.mp h⟩
  apply hparts.imp
  rintro s σ ⟨hdec, hσ⟩
  exact hdec σ hσ

theorem compileEntries_decidedBy {es : List (Value × Shorthand)} {fs : List (Value × Schema)}
    (h : compileEntries es = .ok fs)
    (ih : ∀ e ∈ es, ∀ σ, e.2.compile = .ok σ → e.2.DecidedBy σ) :
    List.Forall₂ (fun e f => f.1 = e.1 ∧ e.2.DecidedBy f.2) es fs := by
  have hparts := (List.forall₂_and_left es fs).mpr ⟨ih, compileEntries_ok_iff.mp h⟩
  apply hparts.imp
  rintro e f ⟨hdec, hkey, hσ⟩
  exact ⟨hkey, hdec f.2 hσ⟩

theorem compile_decidedBy (s : Shorthand) (hplain : s.isPlain) {σ : Schema}
    (h : s.compile = .ok σ) : s.DecidedBy σ := by
  induction s using ind generalizing σ with
  | undefined =>
    cases h
    intro v
    apply Verdict.Decides.of_worded
    cases v <;> simp [Matches]
  | null =>
    cases h
    intro v
    apply Verdict.Decides.of_worded
    cases v <;> simp [Matches]
  | marker m =>
    cases h
    exact marker_decides m
  | scalar s =>
    cases h
    exact scalar_decides s
  | expression e => exact expression_decides h
  | anyList =>
    cases h
    exact Schema.anyArray_decides
  | array item ih =>
    rw [compile] at h
    obtain ⟨τ, hτ, rfl⟩ := map_ok h
    have hitem : item.isPlain := by simpa [isPlain, all, allItems] using hplain
    exact Schema.array_decides (ih hitem hτ)
  | counted n items hn ih =>
    rw [compile, if_pos (by simpa using hn)] at h
    obtain ⟨σs, hσs, rfl⟩ := map_ok h
    have hitems : ∀ s ∈ items, s.isPlain := by
      simpa [isPlain, all, allItems, allItems_iff] using hplain
    have hparts := compileAll_decidedBy hσs fun s hs _ hσ => ih s hs (hitems s hs) hσ
    exact counted_decidedBy hn.2 hparts
  | miscounted n items hn =>
    rw [compile, if_neg (by simpa using hn)] at h
    simp at h
  | malformed items hnil hone htwo =>
    rw [compile] at h
    · simp at h
    · exact hnil
    · exact hone
    · exact htwo
  | anyTuple =>
    cases h
    intro v
    have hnone : ∀ vs, ¬ UnexplainedEach [] vs := by
      intro vs
      cases vs <;> exact not_false
    simpa [Matches, Unexplained, hnone] using Schema.anyArray_decides v
  | tuple item items ih =>
    rw [compile] at h
    obtain ⟨σs, hσs, rfl⟩ := map_ok h
    have hitems : ∀ s ∈ item :: items, s.isPlain := (allItems_iff _ _).mp hplain
    have hparts := compileAll_decidedBy hσs fun s hs _ hσ => ih s hs (hitems s hs) hσ
    exact tuple_decides hparts
  | model m => simp [isPlain, all] at hplain
  | schema t => simp [isPlain, all] at hplain
  | mapping es ih =>
    rw [compile] at h
    obtain ⟨fs, hfs, rfl⟩ := map_ok h
    have hplains : ∀ e ∈ es, e.2.isPlain := (allEntries_iff _ _).mp hplain
    have hparts := compileEntries_decidedBy hfs fun e he _ hσ => ih e he (hplains e he) hσ
    exact mapping_decides hparts
  | other v =>
    cases h
    intro u
    exact .kept trivial not_false

/-- A text has no words for a value that cannot be written, unless it is that text. -/
theorem validate_text_of_unwritable {s : String} {v : Value} (hnot : ¬ (Scalar.text s).Is v)
    (hlong : ¬ v.isWritable) : (Schema.literal (.text s)).validate v = .raised .unwritable := by
  apply (scalar_decides (.text s) v).wordless_iff.mpr
  simp [hnot, hlong]

theorem validate_text_farPoint (s : String) :
    (Schema.literal (.text s)).validate Value.farPoint = .raised .unwritable :=
  validate_text_of_unwritable (Value.farPoint_ne_text s) (by simp [Value.farPoint_isWritable])

/-- The schema of a shorthand keeps a value exactly if the value has the shape described. It
raises exactly if the first mismatch cannot be put into words, and rejects in all other
cases. -/
theorem compile_correct {s : Shorthand} {σ : Schema} (hplain : s.isPlain)
    (h : s.compile = .ok σ) (v : Value) :
    (σ.validate v = .kept ↔ s.Matches v) ∧
      (∀ fault, σ.validate v = .raised fault ↔ fault = .unwritable ∧ s.Unexplained v) ∧
      ((∃ f, σ.validate v = .rejected f) ↔ ¬ s.Matches v ∧ ¬ s.Unexplained v) := by
  have hdec := compile_decidedBy s hplain h v
  refine ⟨hdec.kept_iff, ?_, hdec.rejected_iff⟩
  intro fault
  constructor
  · intro hraised
    have hfault : fault = .unwritable := by
      rw [hraised] at hdec
      cases hdec
      rfl
    exact ⟨hfault, hdec.wordless_iff.mp (hfault ▸ hraised)⟩
  · rintro ⟨rfl, hu⟩
    exact hdec.wordless_iff.mpr hu

end

theorem compile_correct_mapping :
    (Schema.object [(.text "x", .array .integer)]).validate
      (.dict [(.text "x", .list [.int 1]), (.null, .null)]) = .kept := by
  have hmeaning := compile_correct (s := .mapping [(.text "x", .list [.marker .integer])]) rfl rfl
    (.dict [(.text "x", .list [.int 1]), (.null, .null)])
  apply hmeaning.1.mpr
  simp [Matches, MatchesEntries, Entries.valueOf, Entries.get?, Value.sameKey, Value.key?,
    Marker.Admits]

/-- A point that cannot be written is no text, but it is not rejected as one. -/
theorem compile_text_unexplained :
    (Shorthand.scalar (.text "x")).compile = .ok (.literal (.text "x")) ∧
      ¬ (Shorthand.scalar (.text "x")).Matches Value.farPoint ∧
      (Schema.literal (.text "x")).validate Value.farPoint = .raised .unwritable := by
  have hnot : ¬ (Scalar.text "x").Is Value.farPoint := by
    simp only [Scalar.Is, Value.farPoint, reduceCtorEq, not_false_eq_true]
  exact ⟨rfl, hnot, validate_text_farPoint "x"⟩

end Shorthand

end ShapeMatch

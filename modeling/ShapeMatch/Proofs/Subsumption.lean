import ShapeMatch.Proofs.Fallible
import ShapeMatch.Proofs.FirstMatch
import ShapeMatch.Proofs.Scalars
import ShapeMatch.Regex.Engine

/-!
Subsumption. `s.Below t` is derived from the shapes of two schemas alone, and means that `t`
accepts whatever `s` accepts (`below_sound`). A case whose schema is below that of an earlier
case is therefore never the one whose handler is applied.
-/

namespace ShapeMatch

namespace Schema

section

variable [RegexEngine]

/-- One schema is below another: it is the same, or it asks for more. -/
inductive Below : Schema → Schema → Prop where
  | refl (s : Schema) : Below s s
  | unknown (s : Schema) : Below s .unknown
  | integer_number : Below .integer .number
  | literal_number (v : Value) (h : v.literalKind = .real) : Below (.literal v) .number
  | literal_string (v : Value) (h : v.literalKind = .text) : Below (.literal v) .string
  | regex_string (p : Pattern) : Below (.regex p) .string
  | literal_boolean (v : Value) (h : v.literalKind = .bool) : Below (.literal v) .boolean
  | array (s t : Schema) (h : Below s t) : Below (.array s) (.array t)
  | tuple (ss ts : List Schema) (hlen : ss.length = ts.length)
      (h : ∀ m ∈ ss.zip ts, Below m.1 m.2) : Below (.tuple ss) (.tuple ts)
  | tuple_array (ss : List Schema) (t : Schema) (h : ∀ s ∈ ss, Below s t) :
      Below (.tuple ss) (.array t)
  /-- for each field of the second object, the first one has a field of the same key, unless
  the second one leaves the value free -/
  | object (fs gs : List (Value × Schema))
      (hkeys : ∀ g ∈ gs, g.2 ≠ .unknown → ∃ s, Entries.get? g.1 fs = some s)
      (h : ∀ g ∈ gs, ∀ s, g.2 ≠ .unknown → Entries.get? g.1 fs = some s → Below s g.2) :
      Below (.object fs) (.object gs)
  | refined (b t : Schema) (p : Function) (h : Below b t) : Below (.refined b p) t

/-- The schema accepts the value, whatever it hands back. -/
def Admits (s : Schema) (v : Value) : Prop := ∃ w, s.Accepts v w

/-- The schema lets the value pass when another schema asks it. -/
def LetsPass (s : Schema) (v : Value) : Prop := ∃ w, s.Passes v w

theorem Admits.letsPass {s : Schema} {v : Value} (h : s.Admits v) : s.LetsPass v := by
  obtain ⟨w, hw⟩ := h
  exact ⟨w, hw.passes⟩

/-- The converse, for a value the schema gives a verdict on. -/
theorem LetsPass.admits {s : Schema} {v : Value} (h : s.LetsPass v)
    (hastray : ∀ a, s.validate v ≠ .astray a) : s.Admits v := by
  obtain ⟨w, hw⟩ := h
  exact ⟨w, (passes_iff_accepts hastray w).mp hw⟩

/-! ## What containers admit -/

theorem admits_array (s : Schema) (v : Value) :
    (Schema.array s).Admits v ↔ ∃ form vs, v = .sequence form vs ∧ ∀ u ∈ vs, s.LetsPass u := by
  have hmembers := exists_forall₂_iff s.Passes
  constructor
  · rintro ⟨w, hw⟩
    obtain ⟨form, vs, ws, rfl, _, h⟩ := (accepts_array s v w).mp hw
    exact ⟨form, vs, rfl, (hmembers vs).mp ⟨ws, h⟩⟩
  · rintro ⟨form, vs, rfl, h⟩
    obtain ⟨ws, hws⟩ := (hmembers vs).mpr h
    exact ⟨.sequence form ws, (accepts_array s _ _).mpr ⟨form, vs, ws, rfl, rfl, hws⟩⟩

theorem admits_tuple (ss : List Schema) (v : Value) :
    (Schema.tuple ss).Admits v ↔ ∃ form vs, v = .sequence form vs ∧ vs.length = ss.length ∧
      ∀ m ∈ vs.zip ss, m.2.LetsPass m.1 := by
  have hmembers := exists_forall₂_iff fun (m : Value × Schema) u => m.2.Passes m.1 u
  constructor
  · rintro ⟨w, hw⟩
    obtain ⟨form, vs, ws, rfl, _, hlen, h⟩ := (accepts_tuple ss v w).mp hw
    exact ⟨form, vs, rfl, hlen, (hmembers (vs.zip ss)).mp ⟨ws, h⟩⟩
  · rintro ⟨form, vs, rfl, hlen, h⟩
    obtain ⟨ws, hws⟩ := (hmembers (vs.zip ss)).mpr h
    exact ⟨.sequence form ws, (accepts_tuple ss _ _).mpr ⟨form, vs, ws, rfl, rfl, hlen, hws⟩⟩

theorem admits_object (fs : List (Value × Schema)) (v : Value) :
    (Schema.object fs).Admits v ↔ ∃ (form : MappingForm) (es : Entries Value),
      v = .mapping form es ∧ ∀ f ∈ fs, f.2.LetsPass (es.valueOf f.1) := by
  constructor
  · rintro ⟨w, hw⟩
    obtain ⟨form, es, rfl, h, _⟩ := (accepts_object fs v w).mp hw
    exact ⟨form, es, rfl, h⟩
  · rintro ⟨form, es, rfl, h⟩
    exact ⟨_, (accepts_object fs _ _).mpr ⟨form, es, rfl, h, rfl⟩⟩

/-! ## What scalars admit -/

theorem admits_number (v : Value) :
    Schema.number.Admits v ↔ ∃ x, v.real? = some x ∧ x ≠ .nan := by
  constructor
  · rintro ⟨w, hw⟩
    exact ((accepts_number v w).mp hw).2
  · intro h
    exact ⟨v, (accepts_number v v).mpr ⟨rfl, h⟩⟩

theorem admits_integer (v : Value) : Schema.integer.Admits v ↔ ∃ n, v = .int n := by
  cases v <;> simp [Admits, Accepts, Verdict.value?]

theorem admits_string (v : Value) : Schema.string.Admits v ↔ ∃ s, v = .text s := by
  cases v <;> simp [Admits, Accepts, Verdict.value?]

theorem admits_boolean (v : Value) : Schema.boolean.Admits v ↔ ∃ b, v = .bool b := by
  cases v <;> simp [Admits, Accepts, Verdict.value?]

theorem text_of_admits_regex {p : Pattern} {v : Value} (h : (Schema.regex p).Admits v) :
    ∃ s, v = .text s := by
  cases v with
  | text s => exact ⟨s, rfl⟩
  | _ => simp [Admits, Accepts, Verdict.value?] at h

theorem admits_literal (u v : Value) :
    (Schema.literal u).Admits v ↔ u.compareLiteral v = .equal := by
  constructor
  · rintro ⟨w, hw⟩
    exact ((accepts_literal u v w).mp hw).2
  · intro h
    exact ⟨v, (accepts_literal u v v).mpr ⟨rfl, h⟩⟩

/-! ## Coverage -/

/-- Whatever the first schema admits or lets pass, so does the second. -/
structure Covered (s t : Schema) : Prop where
  admits : ∀ v, s.Admits v → t.Admits v
  letsPass : ∀ v, s.LetsPass v → t.LetsPass v

/-- For a schema that always gives a verdict, what it admits is what it lets pass. -/
theorem Covered.of_verdicts {s t : Schema} (hs : ∀ v a, s.validate v ≠ .astray a)
    (h : ∀ v, s.Admits v → t.Admits v) : Covered s t where
  admits := h
  letsPass := fun v hv => (h v (hv.admits (hs v))).letsPass

theorem Covered.of_scalar {s t : Schema} (hs : s.isScalar)
    (h : ∀ v, s.Admits v → t.Admits v) : Covered s t where
  admits := h
  letsPass := by
    rintro v ⟨w, hw⟩
    have hself : s.Accepts v v := by
      unfold Accepts
      rw [kept_of_isScalar hs hw]
      rfl
    exact (h v ⟨v, hself⟩).letsPass

theorem covered_unknown (s : Schema) : Covered s .unknown where
  admits := fun v _ => ⟨v, rfl⟩
  letsPass := fun v _ => ⟨v, rfl⟩

theorem covered_integer_number : Covered .integer .number := by
  apply Covered.of_scalar rfl
  intro v hv
  obtain ⟨n, rfl⟩ := (admits_integer v).mp hv
  exact (admits_number _).mpr ⟨.ofInt n, rfl, by simp [Exact.ofInt]⟩

/-- A literal of a real number asks for this number, which is not the undefined one. -/
theorem covered_literal_number {u : Value} (hu : u.literalKind = .real) :
    Covered (.literal u) .number := by
  apply Covered.of_scalar rfl
  intro v hv
  obtain ⟨x, hx⟩ := (Value.literalKind_eq_real_iff u).mp hu
  rw [admits_literal, Value.compareLiteral_of_real? hx, Comparison.ofBool_eq_equal] at hv
  obtain ⟨hnan, hreal⟩ := of_decide_eq_true hv
  exact (admits_number v).mpr ⟨x, hreal, hnan⟩

theorem covered_literal_string {u : Value} (hu : u.literalKind = .text) :
    Covered (.literal u) .string := by
  apply Covered.of_scalar rfl
  intro v hv
  rw [admits_literal] at hv
  have hkind : v.literalKind = .text := (Value.literalKind_of_compareLiteral hv).trans hu
  exact (admits_string v).mpr ((Value.literalKind_eq_text_iff v).mp hkind)

theorem covered_literal_boolean {u : Value} (hu : u.literalKind = .bool) :
    Covered (.literal u) .boolean := by
  apply Covered.of_scalar rfl
  intro v hv
  rw [admits_literal] at hv
  have hkind : v.literalKind = .bool := (Value.literalKind_of_compareLiteral hv).trans hu
  exact (admits_boolean v).mpr ((Value.literalKind_eq_bool_iff v).mp hkind)

theorem covered_regex_string (p : Pattern) : Covered (.regex p) .string := by
  apply Covered.of_scalar rfl
  intro v hv
  exact (admits_string v).mpr (text_of_admits_regex hv)

theorem covered_array {s t : Schema} (h : Covered s t) : Covered (.array s) (.array t) := by
  apply Covered.of_verdicts (array_ne_astray s)
  intro v hv
  obtain ⟨form, vs, rfl, hvs⟩ := (admits_array s v).mp hv
  exact (admits_array t _).mpr ⟨form, vs, rfl, fun u hu => h.letsPass u (hvs u hu)⟩

theorem covered_tuple {ss ts : List Schema} (hlen : ss.length = ts.length)
    (h : ∀ m ∈ ss.zip ts, Covered m.1 m.2) : Covered (.tuple ss) (.tuple ts) := by
  apply Covered.of_verdicts (tuple_ne_astray ss)
  intro v hv
  obtain ⟨form, vs, rfl, hvlen, hvs⟩ := (admits_tuple ss v).mp hv
  refine (admits_tuple ts _).mpr ⟨form, vs, rfl, hvlen.trans hlen, ?_⟩
  intro m hm
  obtain ⟨i, hi, rfl⟩ := List.mem_iff_getElem.mp hm
  simp only [List.length_zip] at hi
  have hst := h (ss[i], ts[i]) (List.mem_iff_getElem.mpr ⟨i, by simp; omega, by simp⟩)
  have hpass := hvs (vs[i], ss[i]) (List.mem_iff_getElem.mpr ⟨i, by simp; omega, by simp⟩)
  simpa using hst.letsPass vs[i] hpass

theorem covered_tuple_array {ss : List Schema} {t : Schema} (h : ∀ s ∈ ss, Covered s t) :
    Covered (.tuple ss) (.array t) := by
  apply Covered.of_verdicts (tuple_ne_astray ss)
  intro v hv
  obtain ⟨form, vs, rfl, hlen, hvs⟩ := (admits_tuple ss v).mp hv
  refine (admits_array t _).mpr ⟨form, vs, rfl, ?_⟩
  intro u hu
  obtain ⟨i, hi, rfl⟩ := List.mem_iff_getElem.mp hu
  have hpass := hvs (vs[i], ss[i]) (List.mem_iff_getElem.mpr ⟨i, by simp; omega, by simp⟩)
  exact (h ss[i] (List.getElem_mem _)).letsPass vs[i] hpass

theorem covered_object {fs gs : List (Value × Schema)}
    (hkeys : ∀ g ∈ gs, g.2 ≠ .unknown → ∃ s, Entries.get? g.1 fs = some s)
    (h : ∀ g ∈ gs, ∀ s, g.2 ≠ .unknown → Entries.get? g.1 fs = some s → Covered s g.2) :
    Covered (.object fs) (.object gs) := by
  apply Covered.of_verdicts (object_ne_astray fs)
  intro v hv
  obtain ⟨form, es, rfl, hfs⟩ := (admits_object fs v).mp hv
  refine (admits_object gs _).mpr ⟨form, es, rfl, ?_⟩
  intro g hg
  by_cases hfree : g.2 = .unknown
  · rw [hfree]
    exact ⟨_, rfl⟩
  · obtain ⟨s, hs⟩ := hkeys g hg hfree
    obtain ⟨k, hmem, hsame⟩ := Entries.mem_of_get? hs
    rw [Entries.valueOf_congr hsame]
    exact (h g hg s hfree hs).letsPass _ (hfs (k, s) hmem)

theorem covered_refined {b t : Schema} (p : Function) (h : Covered b t) :
    Covered (b.refined p) t where
  admits := by
    rintro v ⟨w, hw⟩
    exact h.admits v ⟨w, ((accepts_refined b p v w).mp hw).1⟩
  letsPass := by
    rintro v ⟨w, hw⟩
    exact h.letsPass v ⟨w, ((passes_refined b p v w).mp hw).1⟩

theorem Below.covered {s t : Schema} (h : Below s t) : Covered s t := by
  induction h with
  | refl s => exact ⟨fun _ hv => hv, fun _ hv => hv⟩
  | unknown s => exact covered_unknown s
  | integer_number => exact covered_integer_number
  | literal_number v h => exact covered_literal_number h
  | literal_string v h => exact covered_literal_string h
  | regex_string p => exact covered_regex_string p
  | literal_boolean v h => exact covered_literal_boolean h
  | array s t _ ih => exact covered_array ih
  | tuple ss ts hlen _ ih => exact covered_tuple hlen ih
  | tuple_array ss t _ ih => exact covered_tuple_array ih
  | object fs gs hkeys _ ih => exact covered_object hkeys ih
  | refined b t p _ ih => exact covered_refined p ih

/-! ## Shadowed cases -/

/-- A case whose schema is below that of an earlier case is never selected: where it would
accept the value, the earlier case does not reject it. -/
theorem Below.not_selects {cases : List Case} {i j : Nat} {c d : Case} (hij : i < j)
    (hc : cases[i]? = some c) (hd : cases[j]? = some d) (h : d.schema.Below c.schema) (v : Value) :
    ¬ Selects v cases j := by
  rintro ⟨e, w, hfirst, hw⟩
  obtain rfl : e = d := Option.some.inj (hfirst.here.symm.trans hd)
  obtain ⟨u, hu⟩ := h.covered.admits v ⟨w, hw⟩
  obtain ⟨f, hf⟩ := hfirst.before i hij c hc
  unfold Accepts at hu
  rw [hf] at hu
  simp [Verdict.value?] at hu

/-- A schema admits whatever a schema below it admits. A case whose schema is below that of an
earlier case is not noted in any dispatch, nor is its handler ever applied. -/
theorem below_sound [Logging] {s t : Schema} (h : s.Below t) :
    (∀ v, s.Admits v → t.Admits v) ∧
      ∀ (cases : List Case) (i j : Nat) (c d : Case), i < j → cases[i]? = some c →
        cases[j]? = some d → c.schema = t → d.schema = s → ∀ v,
          (∀ label u, .matched j label u ∉ (dispatch v cases).log) ∧
            ∀ handler, dispatch v (cases.set j ⟨s, handler⟩) = dispatch v cases := by
  refine ⟨h.covered.admits, ?_⟩
  rintro cases i j c d hij hc hd rfl rfl v
  have hnot := h.not_selects hij hc hd v
  exact ⟨fun _ _ hmem => hnot (selects_of_mem_log hmem), dispatch_set_handler hd hnot⟩

end

attribute [local instance] Logging.ordinary

/-- Pairs of whole numbers, refined, are below the arrays of numbers, so that a case for them
comes too late after one for these. -/
theorem below_sound_pair :
    (Schema.array .number).Admits (.tuple [.int 3, .int 4]) ∧
      dispatch (.tuple [.int 3, .int 4]) [⟨.array .number, .len⟩,
          ⟨.refined (.tuple [.integer, .integer]) .always, .first⟩] =
        dispatch (.tuple [.int 3, .int 4]) [⟨.array .number, .len⟩,
          ⟨.refined (.tuple [.integer, .integer]) .always, .itself⟩] := by
  have hbelow : (Schema.refined (.tuple [.integer, .integer]) .always).Below (.array .number) := by
    refine .refined _ _ _ (.tuple_array _ _ ?_)
    intro s hs
    obtain rfl : s = .integer := by simpa using hs
    exact .integer_number
  have hlate := (below_sound hbelow).2 [⟨.array .number, .len⟩,
    ⟨.refined (.tuple [.integer, .integer]) .always, .itself⟩] 0 1 _ _ (by decide) rfl rfl rfl rfl
  exact ⟨(below_sound hbelow).1 _ ⟨_, rfl⟩, (hlate (.tuple [.int 3, .int 4])).2 .first⟩

end Schema

end ShapeMatch

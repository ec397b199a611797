import ShapeMatch.Proofs.FirstMatch
import ShapeMatch.Proofs.Plain
import ShapeMatch.Regex.Engine

/-!
Families of schemas. The values that a schema of a family accepts are all of that family, and it
rejects the values of all others before it looks at anything inside them (`rejects_or_mute`). Cases
of different families can therefore change places (`dispatch_reordered`). Only a literal without
words for a rejection stands in the way, as it raises where it should reject.
-/

namespace ShapeMatch

/-- Kinds of values that are told apart at first sight. -/
inductive Family where
  | undefined
  | null
  | boolean
  | number
  | text
  | sequence
  | mapping
  deriving DecidableEq

def Value.family? : Value → Option Family
  | .undefined => some .undefined
  | .null => some .null
  | .bool _ => some .boolean
  | .int _ | .float _ | .fraction _ => some .number
  | .text _ => some .text
  | .sequence .. => some .sequence
  | .mapping .. => some .mapping
  | _ => none

def LiteralKind.family? : LiteralKind → Option Family
  | .bool => some .boolean
  | .real => some .number
  | .text => some .text
  | .other _ => none

theorem Value.family?_of_literalKind {v : Value} (h : v.literalKind.family?.isSome) :
    v.family? = v.literalKind.family? := by
  cases v with
  | sequence form vs => cases form <;> simp [literalKind, LiteralKind.family?] at h
  | mapping form es => cases form <;> simp [literalKind, LiteralKind.family?] at h
  | _ => simp_all [literalKind, LiteralKind.family?, family?]

section

variable [RegexEngine]

/-- The family of a schema, if all values that it accepts are of one. A refined schema is of the
family of its base. -/
def Schema.family? : Schema → Option Family
  | .undefined => some .undefined
  | .null => some .null
  | .boolean => some .boolean
  | .number | .integer => some .number
  | .string | .regex _ => some .text
  | .literal v => v.literalKind.family?
  | .array _ | .tuple _ => some .sequence
  | .object _ => some .mapping
  | .refined base _ => base.family?
  | .unknown | .model _ | .custom _ | .misplaced _ => none

/-! ## Values of other families -/

namespace Schema

theorem literal_of_other_family {u v : Value} (hu : u.literalKind.family?.isSome)
    (hv : u.literalKind.family? ≠ v.family?) :
    (literal u).validate v = .reject (.otherLiteral u v) := by
  have hkind : v.literalKind ≠ u.literalKind := by
    intro hsame
    rw [← hsame] at hu hv
    exact hv (Value.family?_of_literalKind hu).symm
  have hdifferent : u.compareLiteral v = .different := by
    simp [Value.compareLiteral, hkind, Comparison.onlyIf, Comparison.ofBool, Comparison.andThen]
  rw [validate_literal, hdifferent]

/-- By induction on the refinements: a value of another family does not get past the base. -/
theorem rejects_or_mute {s : Schema} {v : Value} (hs : s.family?.isSome)
    (hv : s.family? ≠ v.family?) :
    (∃ f, s.validate v = .rejected f) ∨ s.Mute v ∧ ¬ (s.isWritable ∧ v.isWritable) := by
  induction s with
  | literal u =>
    unfold Mute
    rw [literal_of_other_family hs hv, Verdict.reject]
    by_cases hwords : (Reason.otherLiteral u v).isWritable
    · rw [if_pos hwords]
      exact .inl ⟨_, rfl⟩
    · rw [if_neg hwords]
      refine .inr ⟨rfl, ?_⟩
      simpa [Reason.isWritable, isWritable] using hwords
  | refined base p ih =>
    rcases ih hs hv with ⟨f, hf⟩ | ⟨hmute, hlong⟩
    · refine .inl ⟨f, ?_⟩
      rw [validate_refined, hf]
      rfl
    · refine .inr ⟨?_, hlong⟩
      unfold Mute at hmute ⊢
      rw [validate_refined, hmute]
      rfl
  | unknown => simp [family?] at hs
  | model m => simp [family?] at hs
  | custom c => simp [family?] at hs
  | misplaced u => simp [family?] at hs
  | _ =>
    left
    cases v <;> simp_all [family?, Value.family?]

end Schema

/-! ## The case that decides -/

/-- Whether a case decides about a value, as it does not reject it. -/
def Case.decides (v : Value) (c : Case) : Bool :=
  match c.schema.validate v with
  | .rejected _ => false
  | _ => true

theorem Case.decides_eq_false_iff (v : Value) (c : Case) :
    c.decides v = false ↔ c.Rejects v := by
  unfold decides Rejects
  cases c.schema.validate v <;> simp

/-- Of cases with a family, only those of the family of the value can decide, and those that are
mute about it. -/
theorem find?_decides {cases : List Case} (hfamily : ∀ c ∈ cases, c.schema.family?.isSome)
    (v : Value) :
    cases.find? (Case.decides v) =
        (cases.filter (·.schema.family? = v.family?)).find? (Case.decides v) ∨
      ∃ c ∈ cases, c.schema.family? ≠ v.family? ∧ c.schema.Mute v ∧
        cases.find? (Case.decides v) = some c := by
  cases hfind : cases.find? (Case.decides v) with
  | none =>
    left
    rw [eq_comm, List.find?_eq_none]
    intro c hc
    exact List.find?_eq_none.mp hfind c (List.mem_of_mem_filter hc)
  | some c =>
    obtain ⟨hc, before, after, rfl, hbefore⟩ := List.find?_eq_some_iff_append.mp hfind
    by_cases hsame : c.schema.family? = v.family?
    · left
      rw [eq_comm, List.find?_eq_some_iff_append]
      refine ⟨hc, before.filter (·.schema.family? = v.family?),
        after.filter (·.schema.family? = v.family?), by simp [hsame], ?_⟩
      exact fun d hd => hbefore d (List.mem_of_mem_filter hd)
    · right
      have hmem : c ∈ before ++ c :: after := by simp
      refine ⟨c, hmem, hsame, ?_, rfl⟩
      rcases Schema.rejects_or_mute (hfamily c hmem) hsame with hreject | ⟨hmute, _⟩
      · rw [(Case.decides_eq_false_iff v c).mpr hreject] at hc
        simp at hc
      · exact hmute

/-! ## Cases in another order -/

/-- Two orders of the same cases, where those of each family keep theirs. -/
structure Reordered (cases cases' : List Case) : Prop where
  perm : cases.Perm cases'
  families : ∀ k : Family, cases.filter (·.schema.family? = some k) =
    cases'.filter (·.schema.family? = some k)

theorem Reordered.filter_eq {cases cases' : List Case} (h : Reordered cases cases')
    (hfamily : ∀ c ∈ cases, c.schema.family?.isSome) (k : Option Family) :
    cases.filter (·.schema.family? = k) = cases'.filter (·.schema.family? = k) := by
  cases k with
  | some k => exact h.families k
  | none =>
    have hnone : ∀ {ds : List Case}, (∀ d ∈ ds, d ∈ cases) →
        ds.filter (·.schema.family? = none) = [] := by
      intro ds hds
      rw [List.filter_eq_nil_iff]
      intro d hd
      have hsome := hfamily d (hds d hd)
      simp [Option.isSome_iff_ne_none.mp hsome]
    rw [hnone fun _ hd => hd, hnone fun _ hd => h.perm.mem_iff.mpr hd]

/-- Two answers are the same, but for the order of the schemas that an error shows. -/
inductive SameAnswer : Except DispatchError Value → Except DispatchError Value → Prop where
  | refl (answer : Except DispatchError Value) : SameAnswer answer answer
  | noMatch (v : Value) (ss ts : List Schema) (h : ss.Perm ts) :
      SameAnswer (.error (.noMatch v ss)) (.error (.noMatch v ts))

/-! ## Dispatches in another order -/

variable [Logging]

/-- What a case that decides makes of a value depends neither on its index nor on other cases. -/
theorem dispatchFrom_outcome_congr {v : Value} {c : Case} (h : ¬ c.Rejects v)
    (all all' rest rest' : List Case) (n n' : Nat) :
    (dispatchFrom v all n (c :: rest)).outcome =
      (dispatchFrom v all' n' (c :: rest')).outcome := by
  have hrun : ∀ w, (c.run n v w).outcome = (c.run n' v w).outcome := by
    intro w
    rw [Case.run, Case.run, Run.noting, Run.noting, LogEntry.isWritable, LogEntry.isWritable]
    split <;> rfl
  rw [dispatchFrom, dispatchFrom]
  cases hv : c.schema.validate v with
  | kept => exact hrun v
  | changed w => exact hrun w
  | rejected f => exact absurd ⟨f, hv⟩ h
  | raised fault => rfl
  | astray answer => rfl

/-- The first case that decides answers as if it stood alone. -/
theorem outcome_of_find?_some {v : Value} {cases : List Case} {c : Case}
    (h : cases.find? (Case.decides v) = some c) :
    (dispatch v cases).outcome = (dispatch v [c]).outcome := by
  obtain ⟨hc, before, after, rfl, hbefore⟩ := List.find?_eq_some_iff_append.mp h
  have hreject : ∀ d ∈ before, d.Rejects v := by
    intro d hd
    rw [← Case.decides_eq_false_iff]
    simpa using hbefore d hd
  have hdecides : ¬ c.Rejects v := by
    rw [← Case.decides_eq_false_iff, hc]
    simp
  rw [dispatch, dispatchFrom_append hreject, dispatch]
  exact dispatchFrom_outcome_congr hdecides ..

theorem dispatch_of_find?_none {v : Value} {cases : List Case}
    (h : cases.find? (Case.decides v) = none) :
    dispatch v cases = unmatched v (cases.map Case.schema) := by
  apply dispatch_of_all_reject
  intro c hc
  rw [← Case.decides_eq_false_iff]
  simpa using List.find?_eq_none.mp h c hc

theorem unmatched_sameAnswer (v : Value) {ss ts : List Schema} (h : ss.Perm ts) :
    SameAnswer (unmatched v ss).outcome (unmatched v ts).outcome := by
  have hlabels : ss.all Schema.isWritable = ts.all Schema.isWritable := by
    rw [Bool.eq_iff_iff, List.all_eq_true, List.all_eq_true]
    simp only [h.mem_iff]
  rw [unmatched, unmatched, Run.noting, Run.noting, LogEntry.isWritable, LogEntry.isWritable,
    hlabels]
  split
  · exact .refl _
  · split
    · exact .noMatch v ss ts h
    · exact .refl _

theorem outcome_of_mute {v : Value} {cases : List Case} {c : Case} (hmute : c.schema.Mute v)
    (h : cases.find? (Case.decides v) = some c) :
    (dispatch v cases).outcome = .error (.fault .unwritable) := by
  rw [outcome_of_find?_some h, dispatch, dispatchFrom_of_raised hmute]

/-- Where the same case decides, or none, the answer is the same. -/
theorem sameAnswer_of_find?_eq {v : Value} {cases cases' : List Case}
    (hperm : cases.Perm cases')
    (h : cases.find? (Case.decides v) = cases'.find? (Case.decides v)) :
    SameAnswer (dispatch v cases).outcome (dispatch v cases').outcome := by
  cases hfind : cases.find? (Case.decides v) with
  | some c =>
    rw [outcome_of_find?_some hfind, outcome_of_find?_some (h.symm.trans hfind)]
    exact .refl _
  | none =>
    rw [dispatch_of_find?_none hfind, dispatch_of_find?_none (h.symm.trans hfind)]
    exact unmatched_sameAnswer v (hperm.map Case.schema)

/-- Cases of families can be put into any order that keeps the order within each family. The
answer is the same, up to the order of the schemas in the error for a value without a case, unless
a case of another family than that of the value is mute about it; and then one of the two dispatches
raises for want of words. Where everything can be written, the answer is the same. -/
theorem dispatch_reordered {cases cases' : List Case} (h : Reordered cases cases')
    (hfamily : ∀ c ∈ cases, c.schema.family?.isSome) (v : Value) :
    (SameAnswer (dispatch v cases).outcome (dispatch v cases').outcome ∨
      (∃ c ∈ cases, c.schema.family? ≠ v.family? ∧ c.schema.Mute v) ∧
        ((dispatch v cases).outcome = .error (.fault .unwritable) ∨
          (dispatch v cases').outcome = .error (.fault .unwritable))) ∧
      (v.isWritable → (∀ c ∈ cases, c.schema.isWritable) →
        SameAnswer (dispatch v cases).outcome (dispatch v cases').outcome) := by
  have hfamily' : ∀ c ∈ cases', c.schema.family?.isSome :=
    fun c hc => hfamily c (h.perm.mem_iff.mpr hc)
  have hgeneral : SameAnswer (dispatch v cases).outcome (dispatch v cases').outcome ∨
      (∃ c ∈ cases, c.schema.family? ≠ v.family? ∧ c.schema.Mute v) ∧
        ((dispatch v cases).outcome = .error (.fault .unwritable) ∨
          (dispatch v cases').outcome = .error (.fault .unwritable)) := by
    rcases find?_decides hfamily v with hfind | ⟨c, hc, hother, hmute, hfind⟩
    · rcases find?_decides hfamily' v with hfind' | ⟨c, hc, hother, hmute, hfind'⟩
      · left
        apply sameAnswer_of_find?_eq h.perm
        rw [hfind, hfind', h.filter_eq hfamily]
      · exact .inr ⟨⟨c, h.perm.mem_iff.mpr hc, hother, hmute⟩, .inr (outcome_of_mute hmute hfind')⟩
    · exact .inr ⟨⟨c, hc, hother, hmute⟩, .inl (outcome_of_mute hmute hfind)⟩
  refine ⟨hgeneral, ?_⟩
  intro hv hlabels
  rcases hgeneral with hsame | ⟨⟨c, hc, hother, hmute⟩, _⟩
  · exact hsame
  · rcases Schema.rejects_or_mute (hfamily c hc) hother with ⟨f, hf⟩ | ⟨_, hlong⟩
    · rw [Schema.Mute, hf] at hmute
      cases hmute
    · exact absurd ⟨hlabels c hc, hv⟩ hlong

end

attribute [local instance] Logging.ordinary

/-- A number and two kinds of sequences, where the members of the first have to have a length. -/
theorem dispatch_reordered_lengths :
    let ones : Case := ⟨.literal (.int 1), .itself⟩
    let sized : Case := ⟨.array (.refined .unknown .len), .first⟩
    let pairs : Case := ⟨.tuple [.string, .string], .len⟩
    let v := Value.list [.text "a", .null]
    SameAnswer (dispatch v [ones, sized, pairs]).outcome
        (dispatch v [sized, pairs, ones]).outcome ∧
      (dispatch v [sized, pairs, ones]).outcome = .error (.fault (.unsized .null)) := by
  intro ones sized pairs v
  have hperm : [ones, sized, pairs].Perm [sized, pairs, ones] :=
    (List.Perm.swap _ _ _).trans ((List.Perm.swap _ _ _).cons _)
  have hreordered : Reordered [ones, sized, pairs] [sized, pairs, ones] :=
    ⟨hperm, fun k => by cases k <;> rfl⟩
  have hfamily : ∀ c ∈ [ones, sized, pairs], c.schema.family?.isSome := by
    simp [ones, sized, pairs, Schema.family?, Value.literalKind, LiteralKind.family?]
  have hone : (Value.int 1).isWritable := by decide +kernel
  have hlabels : ∀ c ∈ [ones, sized, pairs], c.schema.isWritable := by
    simp [ones, sized, pairs, Schema.isWritable, Schema.allWritable, hone]
  exact ⟨(dispatch_reordered hreordered hfamily v).2 rfl hlabels, rfl⟩

/-- Against a list with a point that cannot be written, the case of a text is mute where it comes
first; else the predicate for lists raises. -/
theorem dispatch_reordered_farPoint :
    let texts : Case := ⟨.literal (.text "x"), .itself⟩
    let contents : Case := ⟨.refined (.array .unknown) .content, .itself⟩
    let v := Value.list [.farPoint]
    Reordered [texts, contents] [contents, texts] ∧
      (∀ c ∈ [texts, contents], c.schema.family?.isSome) ∧
      (dispatch v [texts, contents]).outcome = .error (.fault .unwritable) ∧
      (dispatch v [contents, texts]).outcome = .error (.fault .noContent) := by
  intro texts contents v
  have hmute : texts.schema.validate v = .raised .unwritable :=
    Shorthand.validate_text_of_unwritable (by simp [Scalar.Is, v])
      (by simp [v, Value.isWritable, Value.allWritable, Value.farPoint_isWritable])
  have hraised : contents.schema.validate v = .raised .noContent := rfl
  refine ⟨⟨List.Perm.swap _ _ _, fun k => by cases k <;> rfl⟩, ?_, ?_, ?_⟩
  · simp [texts, contents, Schema.family?, Value.literalKind, LiteralKind.family?]
  · rw [dispatch, dispatchFrom_of_raised hmute]
  · rw [dispatch, dispatchFrom_of_raised hraised]

end ShapeMatch

import ShapeMatch.Matcher.Dispatch
import ShapeMatch.Proofs.Writable
import ShapeMatch.Regex.Engine

/-!
Dispatch is decided by the first case that does not reject the value. Cases before it leave no
trace, and cases after it are not looked at; `dispatch_correct` tells what becomes of the value
for each kind of verdict. The error for a value without a case is a text, which is why the value
and the labels in it must be short enough to be written.
-/

namespace ShapeMatch

section

variable [RegexEngine]

def Case.Rejects (c : Case) (v : Value) : Prop := ∃ f, c.schema.validate v = .rejected f

theorem Case.rejects_congr {c d : Case} (h : c.schema = d.schema) (v : Value) :
    c.Rejects v ↔ d.Rejects v := by
  unfold Rejects
  rw [h]

/-- The case `c`, at index `i`, is the first one that does not reject the value. -/
structure FirstAt (v : Value) (cases : List Case) (i : Nat) (c : Case) : Prop where
  here : cases[i]? = some c
  decides : ¬ c.Rejects v
  before : ∀ j < i, ∀ d, cases[j]? = some d → d.Rejects v

theorem FirstAt.split {v : Value} {cases : List Case} {i : Nat} {c : Case}
    (h : FirstAt v cases i c) :
    cases = cases.take i ++ c :: cases.drop (i + 1) ∧ (cases.take i).length = i ∧
      ∀ d ∈ cases.take i, d.Rejects v := by
  obtain ⟨hi, hc⟩ := List.getElem?_eq_some_iff.mp h.here
  refine ⟨?_, by simp; omega, ?_⟩
  · rw [← hc, List.getElem_cons_drop, List.take_append_drop]
  · intro d hd
    obtain ⟨j, hj, rfl⟩ := List.getElem_of_mem hd
    rw [List.length_take] at hj
    apply h.before j (by omega)
    rw [List.getElem_take]
    exact List.getElem?_eq_getElem _

/-- Either all cases reject a value, or there is a first one that does not. -/
theorem exists_firstAt (v : Value) (cases : List Case) :
    (∀ c ∈ cases, c.Rejects v) ∨ ∃ i c, FirstAt v cases i c := by
  induction cases with
  | nil => exact .inl (by simp)
  | cons c rest ih =>
    by_cases hc : c.Rejects v
    · rcases ih with hall | ⟨i, d, hd⟩
      · exact .inl (List.forall_mem_cons.mpr ⟨hc, hall⟩)
      · refine .inr ⟨i + 1, d, by simpa using hd.here, hd.decides, ?_⟩
        intro j hj e he
        cases j with
        | zero =>
          obtain rfl : c = e := by simpa using he
          exact hc
        | succ j => exact hd.before j (by omega) e (by simpa using he)
    · exact .inr ⟨0, c, rfl, hc, by simp⟩

theorem FirstAt.take {v : Value} {cases : List Case} {i : Nat} {c : Case}
    (h : FirstAt v cases i c) : FirstAt v (cases.take (i + 1)) i c := by
  refine ⟨?_, h.decides, ?_⟩
  · rw [List.getElem?_take_of_lt (by omega)]
    exact h.here
  · intro j hj d hd
    rw [List.getElem?_take_of_lt (by omega)] at hd
    exact h.before j hj d hd

theorem FirstAt.append {v : Value} {cases : List Case} {i : Nat} {c : Case}
    (h : FirstAt v cases i c) (others : List Case) : FirstAt v (cases ++ others) i c := by
  obtain ⟨hi, _⟩ := List.getElem?_eq_some_iff.mp h.here
  refine ⟨?_, h.decides, ?_⟩
  · rw [List.getElem?_append_left hi]
    exact h.here
  · intro j hj d hd
    rw [List.getElem?_append_left (by omega)] at hd
    exact h.before j hj d hd

/-- The first case that does not reject is the first one whatever comes after it. -/
theorem FirstAt.replace {v : Value} {cases : List Case} {i : Nat} {c : Case}
    (h : FirstAt v cases i c) (others : List Case) :
    FirstAt v (cases.take (i + 1) ++ others) i c :=
  h.take.append others

theorem schema_of_schemas {cases cases' : List Case}
    (hs : cases'.map Case.schema = cases.map Case.schema) {j : Nat} {d' : Case}
    (hd' : cases'[j]? = some d') : ∃ d, cases[j]? = some d ∧ d.schema = d'.schema := by
  have hmap : (cases'.map Case.schema)[j]? = some d'.schema := by
    rw [List.getElem?_map, hd', Option.map_some]
  rw [hs, List.getElem?_map] at hmap
  exact Option.map_eq_some_iff.mp hmap

/-- Which case comes first depends on the schemas alone. -/
theorem FirstAt.of_schemas {v : Value} {cases cases' : List Case} {i : Nat} {c c' : Case}
    (hs : cases'.map Case.schema = cases.map Case.schema) (h : FirstAt v cases i c)
    (hc' : cases'[i]? = some c') : FirstAt v cases' i c' := by
  refine ⟨hc', ?_, ?_⟩
  · obtain ⟨d, hd, hschema⟩ := schema_of_schemas hs hc'
    rw [h.here] at hd
    cases hd
    rw [← Case.rejects_congr hschema]
    exact h.decides
  · intro j hj d' hd'
    obtain ⟨d, hd, hschema⟩ := schema_of_schemas hs hd'
    exact (Case.rejects_congr hschema v).mp (h.before j hj d hd)

theorem map_schema_set {cases : List Case} {j : Nat} {d : Case} (hd : cases[j]? = some d)
    (handler : Function) :
    (cases.set j ⟨d.schema, handler⟩).map Case.schema = cases.map Case.schema := by
  apply List.ext_getElem?
  intro k
  rw [List.getElem?_map, List.getElem?_map, List.getElem?_set]
  split
  · rename_i hjk
    obtain ⟨hj, _⟩ := List.getElem?_eq_some_iff.mp hd
    rw [if_pos hj, ← hjk, hd]
    rfl
  · rfl

/-- The case at an index is the one whose handler is applied. -/
def Selects (v : Value) (cases : List Case) (i : Nat) : Prop :=
  ∃ c w, FirstAt v cases i c ∧ (c.schema.validate v).value? v = some w

/-! ## Steps of a dispatch -/

variable [Logging]

section

variable {v : Value} {all rest : List Case} {n : Nat} {c : Case}

theorem dispatchFrom_of_rejects (h : c.Rejects v) :
    dispatchFrom v all n (c :: rest) = dispatchFrom v all (n + 1) rest := by
  obtain ⟨f, hf⟩ := h
  rw [dispatchFrom, hf]

theorem dispatchFrom_of_accepts {w : Value} (h : (c.schema.validate v).value? v = some w) :
    dispatchFrom v all n (c :: rest) = c.run n v w := by
  rw [dispatchFrom]
  cases hv : c.schema.validate v with
  | kept =>
    rw [hv] at h
    cases h
    rfl
  | changed u =>
    rw [hv] at h
    cases h
    rfl
  | _ => simp [hv, Verdict.value?] at h

theorem dispatchFrom_of_raised {fault : Fault} (h : c.schema.validate v = .raised fault) :
    dispatchFrom v all n (c :: rest) = ⟨.error (.fault fault), []⟩ := by
  rw [dispatchFrom, h]

theorem dispatchFrom_of_astray {answer : Value} (h : c.schema.validate v = .astray answer) :
    dispatchFrom v all n (c :: rest) = ⟨.error (.noVerdict c.schema answer), []⟩ := by
  rw [dispatchFrom, h]

/-- What comes after a case that does not reject does not matter. -/
theorem dispatchFrom_cons_congr (h : ¬ c.Rejects v) (all' rest' : List Case) :
    dispatchFrom v all n (c :: rest) = dispatchFrom v all' n (c :: rest') := by
  rw [dispatchFrom, dispatchFrom]
  cases hv : c.schema.validate v with
  | rejected f => exact absurd ⟨f, hv⟩ h
  | _ => rfl

theorem dispatchFrom_append {before : List Case} (h : ∀ d ∈ before, d.Rejects v) :
    dispatchFrom v all n (before ++ rest) = dispatchFrom v all (n + before.length) rest := by
  induction before generalizing n with
  | nil => rfl
  | cons d before ih =>
    obtain ⟨hd, hbefore⟩ := List.forall_mem_cons.mp h
    rw [List.cons_append, dispatchFrom_of_rejects hd, ih hbefore, List.length_cons]
    congr 1
    omega

end

/-! ## Whole dispatches -/

theorem dispatch_of_all_reject {v : Value} {cases : List Case} (h : ∀ c ∈ cases, c.Rejects v) :
    dispatch v cases = unmatched v (cases.map Case.schema) := by
  have hskip : dispatchFrom v cases 0 (cases ++ []) = _ := dispatchFrom_append h
  rw [List.append_nil] at hskip
  rw [dispatch, hskip, dispatchFrom]

theorem FirstAt.dispatch_eq {v : Value} {cases : List Case} {i : Nat} {c : Case}
    (h : FirstAt v cases i c) :
    dispatch v cases = dispatchFrom v cases i (c :: cases.drop (i + 1)) := by
  obtain ⟨hsplit, hlen, hbefore⟩ := h.split
  have hskip : dispatchFrom v cases 0 (cases.take i ++ c :: cases.drop (i + 1)) = _ :=
    dispatchFrom_append hbefore
  rw [← hsplit, hlen, Nat.zero_add] at hskip
  rw [dispatch, hskip]

/-! ## The case selected -/

/-- Only the case selected is noted. -/
theorem selects_of_mem_log {v u : Value} {cases : List Case} {j : Nat} {s : Schema}
    (h : .matched j s u ∈ (dispatch v cases).log) : Selects v cases j := by
  rcases exists_firstAt v cases with hall | ⟨i, c, hfirst⟩
  · rw [dispatch_of_all_reject hall, unmatched] at h
    exact absurd (Run.eq_of_mem_log_noting h) nofun
  · rw [hfirst.dispatch_eq] at h
    cases haccept : (c.schema.validate v).value? v with
    | some w =>
      rw [dispatchFrom_of_accepts haccept, Case.run] at h
      cases Run.eq_of_mem_log_noting h
      exact ⟨c, w, hfirst, haccept⟩
    | none =>
      cases hv : c.schema.validate v with
      | kept => simp [hv, Verdict.value?] at haccept
      | changed w => simp [hv, Verdict.value?] at haccept
      | rejected f => exact absurd ⟨f, hv⟩ hfirst.decides
      | raised fault =>
        rw [dispatchFrom_of_raised hv] at h
        simp at h
      | astray answer =>
        rw [dispatchFrom_of_astray hv] at h
        simp at h

/-- The handler of a case does not matter unless the case is selected. -/
theorem dispatch_set_handler {v : Value} {cases : List Case} {j : Nat} {d : Case}
    (hd : cases[j]? = some d) (h : ¬ Selects v cases j) (handler : Function) :
    dispatch v (cases.set j ⟨d.schema, handler⟩) = dispatch v cases := by
  have hs := map_schema_set hd handler
  obtain ⟨hj, _⟩ := List.getElem?_eq_some_iff.mp hd
  rcases exists_firstAt v cases with hall | ⟨i, c, hfirst⟩
  · have hall' : ∀ c' ∈ cases.set j ⟨d.schema, handler⟩, c'.Rejects v := by
      intro c' hc'
      obtain ⟨k, hk⟩ := List.getElem?_of_mem hc'
      obtain ⟨c, hc, hschema⟩ := schema_of_schemas hs hk
      exact (Case.rejects_congr hschema v).mp (hall c (List.mem_of_getElem? hc))
    rw [dispatch_of_all_reject hall, dispatch_of_all_reject hall', hs]
  · by_cases hij : i = j
    · subst hij
      obtain rfl : c = d := Option.some.inj (hfirst.here.symm.trans hd)
      have hfirst' := hfirst.of_schemas hs (List.getElem?_set_self hj)
      rw [hfirst.dispatch_eq, hfirst'.dispatch_eq, dispatchFrom, dispatchFrom]
      cases hv : c.schema.validate v with
      | kept => exact absurd ⟨c, v, hfirst, by rw [hv]; rfl⟩ h
      | changed w => exact absurd ⟨c, w, hfirst, by rw [hv]; rfl⟩ h
      | rejected f => exact absurd ⟨f, hv⟩ hfirst.decides
      | raised fault => rfl
      | astray answer => rfl
    · have hfirst' := hfirst.of_schemas hs ((List.getElem?_set_ne (Ne.symm hij)).trans hfirst.here)
      rw [hfirst.dispatch_eq, hfirst'.dispatch_eq]
      exact dispatchFrom_cons_congr hfirst.decides _ _

/-! ## Every dispatch -/

/-- Without a case for the value, this is noted and the error holds the value and all schemas, if
these can be written. Otherwise the first case that does not reject the value decides: if it
accepts, that is noted and its handler gets the value handed back, whatever there is to write; if
it raises or gives no verdict, nothing is noted; and the cases after it do not matter. -/
theorem dispatch_correct (v : Value) (cases : List Case) :
    ((∀ c ∈ cases, c.Rejects v) ∧
      dispatch v cases = .noting (.unmatched cases.length v)
        (.error (if v.isWritable ∧ ∀ c ∈ cases, c.schema.isWritable
          then .noMatch v (cases.map Case.schema) else .fault .unwritable))) ∨
    ∃ i c, FirstAt v cases i c ∧
      (∀ w, (c.schema.validate v).value? v = some w →
        dispatch v cases =
          .noting (.matched i c.schema v) ((c.handler.apply w).mapError .fault)) ∧
      (∀ fault, c.schema.validate v = .raised fault →
        dispatch v cases = ⟨.error (.fault fault), []⟩) ∧
      (∀ answer, c.schema.validate v = .astray answer →
        dispatch v cases = ⟨.error (.noVerdict c.schema answer), []⟩) ∧
      ∀ others, dispatch v (cases.take (i + 1) ++ others) = dispatch v cases := by
  rcases exists_firstAt v cases with hall | ⟨i, c, h⟩
  · refine .inl ⟨hall, ?_⟩
    rw [dispatch_of_all_reject hall]
    simp [unmatched]
  · refine .inr ⟨i, c, h, ?_, ?_, ?_, ?_⟩
    · intro w hw
      rw [h.dispatch_eq, dispatchFrom_of_accepts hw, Case.run]
    · intro fault hf
      rw [h.dispatch_eq, dispatchFrom_of_raised hf]
    · intro answer ha
      rw [h.dispatch_eq, dispatchFrom_of_astray ha]
    · intro others
      rw [h.dispatch_eq, (h.replace others).dispatch_eq]
      exact dispatchFrom_cons_congr h.decides _ _

end

attribute [local instance] Logging.ordinary

/-- No case accepts the number, but the label of the only schema cannot be written, so that the
error for a value without a case is not the one raised. -/
theorem dispatch_unwritable_label :
    (∀ c ∈ [Case.mk (.array (.literal Value.farPoint)) Function.itself], c.Rejects (.int 3)) ∧
      dispatch (.int 3) [⟨.array (.literal Value.farPoint), Function.itself⟩] =
        ⟨.error (.fault .unwritable), [.unmatched 1 (.int 3)]⟩ := by
  have hreject : ∀ c ∈ [Case.mk (.array (.literal Value.farPoint)) Function.itself],
      c.Rejects (.int 3) := by
    simp [Case.Rejects]
  refine ⟨hreject, ?_⟩
  rw [dispatch_of_all_reject hreject, unmatched, Run.noting_of_quiet rfl]
  simp [Schema.isWritable, Value.farPoint_isWritable]

end ShapeMatch

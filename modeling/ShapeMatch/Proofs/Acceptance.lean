import Mathlib.Data.List.Forall2
import ShapeMatch.Proofs.Nesting

/-!
What schemas accept. `s.Accepts v w` says that the schema accepts `v` and hands back `w`;
`s.Passes v w` says that it lets `v` pass as `w` when it is asked by another schema, where an
answer that is no verdict counts as the value it holds. There is one rule for each kind of
schema (`accepts_array`, `accepts_tuple`, `accepts_object`, `accepts_refined`); whether the
original or a rebuilt container is handed back does not show in them.
-/

namespace ShapeMatch

/-! ## Verdicts -/

namespace Verdict

theorem value?_settled (v : Value) (d : Verdict) : (d.settled v).value? v = d.value? v := by
  cases d with
  | changed w =>
    simp only [settled]
    split
    · rename_i h
      rw [← Value.eq_of_isSole h]
      rfl
    · rfl
  | _ => rfl

theorem value?_nested_settled (v : Value) (d : Verdict) :
    (d.settled v).nested.value? v = d.nested.value? v := by
  cases d with
  | changed w =>
    simp only [settled]
    split
    · rename_i h
      rw [← Value.eq_of_isSole h]
      rfl
    · rfl
  | _ => rfl

theorem nested_ne_astray (d : Verdict) (a : Value) : d.nested ≠ .astray a := by
  cases d with
  | astray b =>
    simp only [nested]
    split <;> simp
  | _ => simp [nested]

theorem nested_eq_self {d : Verdict} (h : ∀ a, d ≠ .astray a) : d.nested = d := by
  cases d with
  | astray a => exact absurd rfl (h a)
  | _ => rfl

theorem nested_of_value? {d : Verdict} {v w : Value} (h : d.value? v = some w) :
    d.nested = d := by
  apply nested_eq_self
  intro a ha
  simp [ha, value?] at h

theorem value?_reject (r : Reason) (v : Value) : (reject r).value? v = none := by
  unfold reject
  split <;> rfl

theorem value?_nested_reject (r : Reason) (v : Value) : (reject r).nested.value? v = none := by
  unfold reject
  split <;> rfl

/-! What a predicate makes of a verdict: it is asked about the value handed over, if there
is one. -/

theorem refine_of_none {p : Function} {v : Value} {d : Verdict} (h : d.nested.value? v = none) :
    d.refine p v = d.nested := by
  simp only [refine, h]

theorem refine_of_raised {p : Function} {v u : Value} {d : Verdict} {fault : Fault}
    (h : d.nested.value? v = some u) (hp : p.holds u = .error fault) :
    d.refine p v = .raised fault := by
  simp only [refine, h, hp]

theorem refine_of_holds {p : Function} {v u : Value} {d : Verdict}
    (h : d.nested.value? v = some u) (hp : p.holds u = .ok true) : d.refine p v = d := by
  simp only [refine, h, hp]

theorem refine_of_refused {p : Function} {v u : Value} {d : Verdict}
    (h : d.nested.value? v = some u) (hp : p.holds u = .ok false) :
    d.refine p v = .reject (.refused p.name v) := by
  simp only [refine, h, hp]

/-- A refined verdict that hands something over is the verdict it was before. -/
theorem refine_eq_self {p : Function} {v w : Value} {d : Verdict}
    (h : (d.refine p v).nested.value? v = some w) :
    d.refine p v = d ∧ d.nested.value? v = some w ∧ p.holds w = .ok true := by
  cases hd : d.nested.value? v with
  | none =>
    rw [refine_of_none hd, nested_eq_self (nested_ne_astray d), hd] at h
    simp at h
  | some u =>
    cases hp : p.holds u with
    | error fault =>
      rw [refine_of_raised hd hp] at h
      simp [nested, value?] at h
    | ok b =>
      cases b with
      | false =>
        rw [refine_of_refused hd hp, value?_nested_reject] at h
        simp at h
      | true =>
        rw [refine_of_holds hd hp, hd] at h
        cases h
        exact ⟨refine_of_holds hd hp, rfl, hp⟩

end Verdict

/-! ## Accepting and passing -/

namespace Schema

variable [RegexEngine]

/-- The schema accepts a value and hands back another, which may be the same. -/
def Accepts (s : Schema) (v w : Value) : Prop := (s.validate v).value? v = some w

/-- Asked by another schema, the schema lets a value pass as another. -/
def Passes (s : Schema) (v w : Value) : Prop := (s.validate v).nested.value? v = some w

theorem Accepts.passes {s : Schema} {v w : Value} (h : s.Accepts v w) : s.Passes v w := by
  unfold Passes
  rw [Verdict.nested_of_value? h]
  exact h

theorem passes_iff_accepts {s : Schema} {v : Value} (h : ∀ a, s.validate v ≠ .astray a)
    (w : Value) : s.Passes v w ↔ s.Accepts v w := by
  unfold Passes Accepts
  rw [Verdict.nested_eq_self h]

theorem passes_refined (s : Schema) (p : Function) (v w : Value) :
    (s.refined p).Passes v w ↔ s.Passes v w ∧ p.holds w = .ok true := by
  unfold Passes
  rw [validate_refined]
  constructor
  · intro h
    exact (Verdict.refine_eq_self h).2
  · rintro ⟨h, hp⟩
    rw [Verdict.refine_of_holds h hp]
    exact h

theorem accepts_refined (s : Schema) (p : Function) (v w : Value) :
    (s.refined p).Accepts v w ↔ s.Accepts v w ∧ p.holds w = .ok true := by
  constructor
  · intro h
    obtain ⟨heq, _, hp⟩ := Verdict.refine_eq_self h.passes
    refine ⟨?_, hp⟩
    unfold Accepts at h ⊢
    rw [validate_refined, heq] at h
    exact h
  · rintro ⟨h, hp⟩
    unfold Accepts
    rw [validate_refined, Verdict.refine_of_holds h.passes hp]
    exact h

end Schema

/-! ## Members of containers -/

namespace Checked

theorem value?_counted (c : Checked) :
    c.counted.value? c.raw = c.verdict.nested.value? c.raw := by
  rw [counted, Verdict.value?_settled]

/-- A member passes exactly if it hands something over, which is then its result. -/
theorem stop?_eq_none_iff (c : Checked) :
    c.stop? = none ↔ c.verdict.nested.value? c.raw = some c.result := by
  rw [result, value?_counted]
  unfold stop? counted
  cases h : c.verdict.nested with
  | kept => simp [Verdict.settled, Verdict.value?]
  | changed w =>
    by_cases hs : c.raw.isSole w <;> simp [Verdict.settled, Verdict.value?, hs]
  | rejected f => simp [Verdict.settled, Verdict.value?]
  | raised fault => simp [Verdict.settled, Verdict.value?]
  | astray a => exact absurd h (Verdict.nested_ne_astray _ a)

theorem result_of_passes {c : Checked} {w : Value}
    (h : c.verdict.nested.value? c.raw = some w) : c.result = w := by
  rw [result, value?_counted, h]
  rfl

theorem result_of_isKept {c : Checked} (h : c.isKept) : c.result = c.raw := by
  unfold isKept at h
  unfold result
  split at h
  · rename_i hk
    rw [hk]
    rfl
  · simp at h

/-- A member that held no value before counts as changed only if it holds one now. -/
theorem raw_ne_undefined {c : Checked} (hpass : c.stop? = none) (hk : ¬ c.isKept)
    (hresult : c.result = .undefined) : c.raw ≠ .undefined := by
  intro hraw
  apply hk
  rw [stop?_eq_none_iff, hresult] at hpass
  unfold isKept counted
  cases h : c.verdict.nested with
  | kept => rfl
  | changed w =>
    rw [h] at hpass
    cases hpass
    rw [hraw]
    rfl
  | _ => simp [h, Verdict.value?] at hpass

theorem firstStop?_eq_none_iff (cs : List Checked) :
    firstStop? cs = none ↔ ∀ c ∈ cs, c.stop? = none := by
  induction cs with
  | nil => simp [firstStop?]
  | cons c rest ih => simp [firstStop?, ih]

/-- A container is stopped by a rejection or by a fault. -/
theorem firstStop?_eq_some {cs : List Checked} {d : Verdict} (h : firstStop? cs = some d) :
    (∃ f, d = .rejected f) ∨ ∃ fault, d = .raised fault := by
  induction cs with
  | nil => simp [firstStop?] at h
  | cons c rest ih =>
    rw [firstStop?, Option.or_eq_some_iff] at h
    rcases h with hc | ⟨_, hrest⟩
    · unfold stop? at hc
      split at hc
      · exact Or.inl ⟨_, (Option.some.inj hc).symm⟩
      · exact Or.inr ⟨_, (Option.some.inj hc).symm⟩
      · simp at hc
    · exact ih hrest

theorem value?_of_firstStop? {cs : List Checked} {d : Verdict} (h : firstStop? cs = some d)
    (v : Value) : d.value? v = none := by
  rcases firstStop?_eq_some h with ⟨f, rfl⟩ | ⟨fault, rfl⟩
  · rfl
  · rfl

theorem ne_astray_of_firstStop? {cs : List Checked} {d : Verdict} (h : firstStop? cs = some d)
    (a : Value) : d ≠ .astray a := by
  rcases firstStop?_eq_some h with ⟨f, rfl⟩ | ⟨fault, rfl⟩
  · simp
  · simp

end Checked

open Checked

theorem value?_sequenceVerdict (form : SequenceForm) {cs : List Checked} {vs : List Value}
    (hraw : cs.map Checked.raw = vs) (w : Value) :
    (sequenceVerdict form cs).value? (.sequence form vs) = some w ↔
      (∀ c ∈ cs, c.stop? = none) ∧ w = .sequence form (cs.map Checked.result) := by
  rw [← firstStop?_eq_none_iff, ← hraw]
  unfold sequenceVerdict
  cases h : firstStop? cs with
  | some d => simp [value?_of_firstStop? h]
  | none =>
    by_cases hk : cs.all Checked.isKept
    · have hsame : cs.map Checked.result = cs.map Checked.raw := by
        apply List.map_congr_left
        intro c hc
        exact result_of_isKept (List.all_eq_true.mp hk c hc)
      simp [hk, Verdict.value?, hsame, eq_comm]
    · simp [hk, Verdict.value?, eq_comm]

theorem sequenceVerdict_ne_astray (form : SequenceForm) (cs : List Checked) (a : Value) :
    sequenceVerdict form cs ≠ .astray a := by
  unfold sequenceVerdict
  cases h : firstStop? cs with
  | some d => exact ne_astray_of_firstStop? h a
  | none =>
    simp only
    split <;> simp

theorem map_raw_indexed (n : Nat) (ms : List (Value × Verdict)) :
    (indexed n ms).map Checked.raw = ms.map Prod.fst := by
  induction ms generalizing n with
  | nil => rfl
  | cons m rest ih =>
    obtain ⟨v, d⟩ := m
    simp [indexed, ih]

/-- The members of a sequence, one by one, hand over these values. -/
theorem indexed_pass_iff (n : Nat) (ms : List (Value × Verdict)) (ws : List Value) :
    ((∀ c ∈ indexed n ms, c.stop? = none) ∧ ws = (indexed n ms).map Checked.result) ↔
      List.Forall₂ (fun m w => m.2.nested.value? m.1 = some w) ms ws := by
  induction ms generalizing n ws with
  | nil => simp [indexed]
  | cons m rest ih =>
    obtain ⟨v, d⟩ := m
    simp only [indexed, List.forall_mem_cons, List.map_cons, List.forall₂_cons_left_iff]
    constructor
    · rintro ⟨⟨hm, hrest⟩, rfl⟩
      exact ⟨_, _, (stop?_eq_none_iff _).mp hm, (ih (n + 1) _).mp ⟨hrest, rfl⟩, rfl⟩
    · rintro ⟨w, ws', hm, hrest, rfl⟩
      obtain ⟨hpass, rfl⟩ := (ih (n + 1) ws').mpr hrest
      have hresult : (⟨.int n, v, d⟩ : Checked).result = w := result_of_passes hm
      refine ⟨⟨?_, hpass⟩, by rw [hresult]⟩
      rw [stop?_eq_none_iff, hresult]
      exact hm

/-- A sequence is accepted if its members pass, and holds afterwards what they passed as. -/
theorem value?_sequenceVerdict_indexed (form : SequenceForm) {ms : List (Value × Verdict)}
    {vs : List Value} (hms : ms.map Prod.fst = vs) (w : Value) :
    (sequenceVerdict form (indexed 0 ms)).value? (.sequence form vs) = some w ↔
      ∃ ws, w = .sequence form ws ∧
        List.Forall₂ (fun m u => m.2.nested.value? m.1 = some u) ms ws := by
  rw [value?_sequenceVerdict form ((map_raw_indexed 0 ms).trans hms)]
  constructor
  · rintro ⟨hpass, rfl⟩
    exact ⟨_, rfl, (indexed_pass_iff 0 ms _).mp ⟨hpass, rfl⟩⟩
  · rintro ⟨ws, rfl, h⟩
    obtain ⟨hpass, hws⟩ := (indexed_pass_iff 0 ms ws).mpr h
    exact ⟨hpass, by rw [hws]⟩

/-- A mapping with validated fields put into it. It is the very one if no field was changed. -/
def narrowed (form : MappingForm) (es : Entries Value) (cs : List Checked) : Value :=
  if cs.all Checked.isKept then .mapping form es
  else .dict ((cs.filter (!·.isKept)).foldl Entries.patch es)

theorem value?_mappingVerdict (form : MappingForm) (es : Entries Value) (cs : List Checked)
    (w : Value) :
    (mappingVerdict es cs).value? (.mapping form es) = some w ↔
      (∀ c ∈ cs, c.stop? = none) ∧ w = narrowed form es cs := by
  rw [← firstStop?_eq_none_iff]
  unfold mappingVerdict narrowed
  cases h : firstStop? cs with
  | some d => simp [value?_of_firstStop? h]
  | none => by_cases hk : cs.all Checked.isKept <;> simp [hk, Verdict.value?, eq_comm]

theorem mappingVerdict_ne_astray (es : Entries Value) (cs : List Checked) (a : Value) :
    mappingVerdict es cs ≠ .astray a := by
  unfold mappingVerdict
  cases h : firstStop? cs with
  | some d => exact ne_astray_of_firstStop? h a
  | none =>
    simp only
    split <;> simp

/-! ## Containers -/

namespace Schema

variable [RegexEngine]

/-- A field as it is validated against a mapping. -/
def checked (es : Entries Value) (f : Value × Schema) : Checked :=
  ⟨f.1, es.valueOf f.1, f.2.validate (es.valueOf f.1)⟩

theorem validateFields_eq_map (fs : List (Value × Schema)) (es : Entries Value) :
    validateFields fs es = fs.map (checked es) := by
  induction fs with
  | nil => rfl
  | cons f rest ih =>
    obtain ⟨k, s⟩ := f
    rw [validateFields_cons, ih]
    rfl

theorem validateItems_eq_map (ss : List Schema) (vs : List Value) :
    validateItems ss vs = (vs.zip ss).map fun m => (m.1, m.2.validate m.1) := by
  induction ss generalizing vs with
  | nil => simp
  | cons s rest ih =>
    cases vs with
    | nil => rfl
    | cons v vs => simp [ih]

theorem map_fst_validateItems {ss : List Schema} {vs : List Value} (hlen : vs.length = ss.length) :
    (validateItems ss vs).map Prod.fst = vs := by
  rw [validateItems_eq_map, List.map_map]
  exact List.map_fst_zip (by omega)

theorem checked_stop?_iff (es : Entries Value) (f : Value × Schema) :
    (checked es f).stop? = none ↔ f.2.Passes (es.valueOf f.1) (checked es f).result :=
  stop?_eq_none_iff _

theorem accepts_array (s : Schema) (v w : Value) :
    (Schema.array s).Accepts v w ↔ ∃ form vs ws,
      v = .sequence form vs ∧ w = .sequence form ws ∧ List.Forall₂ s.Passes vs ws := by
  cases v with
  | sequence form vs =>
    have hms : (vs.map fun m => (m, s.validate m)).map Prod.fst = vs := by
      simp [Function.comp_def]
    simp only [Accepts, validate_array]
    rw [value?_sequenceVerdict_indexed form hms]
    simp only [List.forall₂_map_left_iff]
    constructor
    · rintro ⟨ws, rfl, h⟩
      exact ⟨form, vs, ws, rfl, rfl, h⟩
    · rintro ⟨form', vs', ws, heq, rfl, h⟩
      cases heq
      exact ⟨ws, rfl, h⟩
  | _ => simp [Accepts, Verdict.value?]

theorem accepts_tuple (ss : List Schema) (v w : Value) :
    (Schema.tuple ss).Accepts v w ↔ ∃ form vs ws,
      v = .sequence form vs ∧ w = .sequence form ws ∧ vs.length = ss.length ∧
        List.Forall₂ (fun m u => m.2.Passes m.1 u) (vs.zip ss) ws := by
  cases v with
  | sequence form vs =>
    simp only [Accepts, validate_tuple]
    by_cases hlen : vs.length = ss.length
    · rw [if_pos hlen, value?_sequenceVerdict_indexed form (map_fst_validateItems hlen),
        validateItems_eq_map]
      simp only [List.forall₂_map_left_iff]
      constructor
      · rintro ⟨ws, rfl, h⟩
        exact ⟨form, vs, ws, rfl, rfl, hlen, h⟩
      · rintro ⟨form', vs', ws, heq, rfl, _, h⟩
        cases heq
        exact ⟨ws, rfl, h⟩
    · rw [if_neg hlen]
      simp only [Verdict.value?_reject, reduceCtorEq, false_iff]
      rintro ⟨form', vs', ws, heq, _, hlen', _⟩
      cases heq
      exact hlen hlen'
  | _ => simp [Accepts, Verdict.value?]

theorem accepts_object (fs : List (Value × Schema)) (v w : Value) :
    (Schema.object fs).Accepts v w ↔ ∃ (form : MappingForm) (es : Entries Value),
      v = .mapping form es ∧ (∀ f ∈ fs, ∃ u, f.2.Passes (es.valueOf f.1) u) ∧
        w = narrowed form es (fs.map (checked es)) := by
  cases v with
  | mapping form es =>
    simp only [Accepts, validate_object]
    rw [validateFields_eq_map, value?_mappingVerdict]
    constructor
    · rintro ⟨hpass, rfl⟩
      refine ⟨form, es, rfl, ?_, rfl⟩
      intro f hf
      exact ⟨_, (checked_stop?_iff es f).mp (hpass _ (List.mem_map_of_mem hf))⟩
    · rintro ⟨form', es', heq, hpass, rfl⟩
      cases heq
      refine ⟨?_, rfl⟩
      intro c hc
      obtain ⟨f, hf, rfl⟩ := List.mem_map.mp hc
      obtain ⟨u, hu⟩ := hpass f hf
      have hresult : (checked es f).result = u := result_of_passes hu
      rw [checked_stop?_iff, hresult]
      exact hu
  | _ => simp [Accepts, Verdict.value?]

theorem array_ne_astray (s : Schema) (v a : Value) : (Schema.array s).validate v ≠ .astray a := by
  cases v with
  | sequence form vs =>
    rw [validate_array]
    exact sequenceVerdict_ne_astray form _ a
  | _ => simp

theorem tuple_ne_astray (ss : List Schema) (v a : Value) :
    (Schema.tuple ss).validate v ≠ .astray a := by
  cases v with
  | sequence form vs =>
    simp only [validate_tuple]
    split
    · exact sequenceVerdict_ne_astray form _ a
    · simp
  | _ => simp

theorem object_ne_astray (fs : List (Value × Schema)) (v a : Value) :
    (Schema.object fs).validate v ≠ .astray a := by
  cases v with
  | mapping form es =>
    rw [validate_object]
    exact mappingVerdict_ne_astray es _ a
  | _ => simp

end Schema

end ShapeMatch

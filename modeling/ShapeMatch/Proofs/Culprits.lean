import ShapeMatch.Proofs.Idempotence
import ShapeMatch.Proofs.Paths
import ShapeMatch.Proofs.Subsumption
import ShapeMatch.Regex.Engine

/-!
Culprits. A failure points at a part of the value, and at the schema inside the schema validated
against that is asked about this part (`Leads`). That schema rejects the part itself, and not for
something further inside, and everything that was asked about before was accepted
(`validate_culprit`). In a container it is the first member that does not pass that decides,
whatever comes after it (`validate_array_first`, `validate_tuple_first`, `validate_object_first`).
-/

namespace ShapeMatch

/-! ## The first member that does not pass -/

namespace Verdict

/-- A verdict on a member, seen from its container. -/
def under (key : Value) : Verdict → Verdict
  | .rejected f => .rejected (f.under key)
  | d => d

theorem under_eq_rejected {key : Value} {d : Verdict} {f : Failure}
    (h : d.under key = .rejected f) : ∃ g, d = .rejected g ∧ f = g.under key := by
  cases d with
  | rejected g =>
    cases h
    exact ⟨g, rfl, rfl⟩
  | _ => simp [under] at h

theorem eq_of_nested_eq_rejected {d : Verdict} {f : Failure} (h : d.nested = .rejected f) :
    d = .rejected f := by
  cases d with
  | astray a =>
    simp only [nested] at h
    split at h <;> simp at h
  | _ => exact h

theorem reject_eq_rejected {r : Reason} {f : Failure} (h : reject r = .rejected f) :
    f = ⟨r, []⟩ := by
  unfold reject at h
  split at h
  · cases h
    rfl
  · simp at h

theorem reject_ne_astray (r : Reason) (a : Value) : reject r ≠ .astray a := by
  unfold reject
  split <;> simp

/-- A predicate turns no verdict into an answer that is none. -/
theorem eq_of_refine_eq_astray {p : Function} {v a : Value} {d : Verdict}
    (h : d.refine p v = .astray a) : d = .astray a := by
  cases hd : d.nested.value? v with
  | none =>
    rw [refine_of_none hd] at h
    exact absurd h (nested_ne_astray d a)
  | some u =>
    cases hp : p.holds u with
    | error fault =>
      rw [refine_of_raised hd hp] at h
      simp at h
    | ok b =>
      cases b with
      | false =>
        rw [refine_of_refused hd hp] at h
        exact absurd h (reject_ne_astray _ a)
      | true =>
        rw [refine_of_holds hd hp] at h
        exact h

end Verdict

namespace Checked

theorem stop?_eq_under {c : Checked} (h : c.verdict.nested.value? c.raw = none) :
    c.stop? = some (c.verdict.nested.under c.key) := by
  unfold stop? counted
  cases hd : c.verdict.nested with
  | kept => simp [hd, Verdict.value?] at h
  | changed w => simp [hd, Verdict.value?] at h
  | rejected f => rfl
  | raised fault => rfl
  | astray a => exact absurd hd (Verdict.nested_ne_astray _ a)

theorem stop?_eq_none {c : Checked} (h : ∃ w, c.verdict.nested.value? c.raw = some w) :
    c.stop? = none := by
  obtain ⟨w, hw⟩ := h
  rw [stop?_eq_none_iff, result_of_passes hw]
  exact hw

/-- What comes after a member that does not pass does not matter. -/
theorem firstStop?_of_fails (before after : List Checked) {c : Checked}
    (hc : c.verdict.nested.value? c.raw = none) :
    firstStop? (before ++ c :: after) =
      (firstStop? before).or (some (c.verdict.nested.under c.key)) := by
  induction before with
  | nil =>
    show c.stop?.or (firstStop? after) = _
    rw [stop?_eq_under hc, Option.some_or, firstStop?, Option.none_or]
  | cons b rest ih => rw [List.cons_append, firstStop?, ih, firstStop?, Option.or_assoc]

/-- Members that pass leave no trace. -/
theorem firstStop?_of_pass {cs : List Checked}
    (h : ∀ c ∈ cs, ∃ w, c.verdict.nested.value? c.raw = some w) : firstStop? cs = none := by
  rw [firstStop?_eq_none_iff]
  intro c hc
  exact stop?_eq_none (h c hc)

/-- The verdict on a container with these members, which is put together anew as `w` if one of them
is changed. -/
def container (cs : List Checked) (w : Value) : Verdict :=
  (firstStop? cs).getD (if cs.all isKept then .kept else .changed w)

theorem container_of_fails (before after : List Checked) {c : Checked}
    (hc : c.verdict.nested.value? c.raw = none) (w : Value) :
    container (before ++ c :: after) w =
      (firstStop? before).getD (c.verdict.nested.under c.key) := by
  rw [container, firstStop?_of_fails before after hc]
  cases firstStop? before <;> rfl

end Checked

theorem sequenceVerdict_eq (form : SequenceForm) (cs : List Checked) :
    sequenceVerdict form cs = Checked.container cs (.sequence form (cs.map Checked.result)) := by
  unfold sequenceVerdict Checked.container
  cases Checked.firstStop? cs <;> rfl

theorem mappingVerdict_eq (es : Entries Value) (cs : List Checked) :
    mappingVerdict es cs =
      Checked.container cs (.dict ((cs.filter (!·.isKept)).foldl Entries.patch es)) := by
  unfold mappingVerdict Checked.container
  cases Checked.firstStop? cs <;> rfl

theorem indexed_append (n : Nat) (ms ns : List (Value × Verdict)) :
    indexed n (ms ++ ns) = indexed n ms ++ indexed (n + ms.length) ns := by
  induction ms generalizing n with
  | nil => rfl
  | cons m rest ih =>
    have hnext : n + 1 + rest.length = n + (m :: rest).length := by
      rw [List.length_cons]
      omega
    rw [List.cons_append, indexed, ih, hnext, indexed, List.cons_append]

theorem forall_mem_indexed (P : Value → Verdict → Prop) (n : Nat) (ms : List (Value × Verdict)) :
    (∀ c ∈ indexed n ms, P c.raw c.verdict) ↔ ∀ m ∈ ms, P m.1 m.2 := by
  induction ms generalizing n with
  | nil => simp [indexed]
  | cons m rest ih => rw [indexed, List.forall_mem_cons, List.forall_mem_cons, ih]

theorem firstStop?_indexed {n : Nat} {ms : List (Value × Verdict)}
    (h : ∀ m ∈ ms, ∃ w, m.2.nested.value? m.1 = some w) :
    Checked.firstStop? (indexed n ms) = none := by
  apply Checked.firstStop?_of_pass
  exact (forall_mem_indexed (fun v d => ∃ w, d.nested.value? v = some w) n ms).mpr h

theorem sequenceVerdict_of_fails (form : SequenceForm) (before after : List (Value × Verdict))
    {m : Value × Verdict} (hm : m.2.nested.value? m.1 = none) :
    sequenceVerdict form (indexed 0 (before ++ m :: after)) =
      (Checked.firstStop? (indexed 0 before)).getD (m.2.nested.under (.int before.length)) := by
  rw [sequenceVerdict_eq, indexed_append, indexed, Nat.zero_add]
  exact Checked.container_of_fails _ _ hm _

namespace Schema

variable [RegexEngine]

theorem not_letsPass_iff {s : Schema} {v : Value} :
    ¬ s.LetsPass v ↔ (s.validate v).nested.value? v = none := by
  unfold LetsPass Passes
  rw [Option.eq_none_iff_forall_ne_some, not_exists]

section

variable {s : Schema} {v : Value}

/-! A member that does not pass ends the validation of its container, unless an earlier one has. -/

theorem validate_array_of_fails (form : SequenceForm) (before after : List Value)
    (h : ¬ s.LetsPass v) :
    (Schema.array s).validate (.sequence form (before ++ v :: after)) =
      (Checked.firstStop? (indexed 0 (before.map fun u => (u, s.validate u)))).getD
        ((s.validate v).nested.under (.int before.length)) := by
  simp only [validate_array, List.map_append, List.map_cons]
  rw [sequenceVerdict_of_fails form _ _ (not_letsPass_iff.mp h), List.length_map]

theorem validate_array_first (form : SequenceForm) {before after : List Value}
    (hbefore : ∀ b ∈ before, s.LetsPass b) (h : ¬ s.LetsPass v) :
    (Schema.array s).validate (.sequence form (before ++ v :: after)) =
      (s.validate v).nested.under (.int before.length) := by
  rw [validate_array_of_fails form before after h, firstStop?_indexed, Option.getD_none]
  rw [List.forall_mem_map]
  exact hbefore

theorem validateItems_pairs (ms : List (Schema × Value)) :
    validateItems (ms.map Prod.fst) (ms.map Prod.snd) =
      ms.map fun m => (m.2, m.1.validate m.2) := by
  induction ms with
  | nil => rfl
  | cons m rest ih => rw [List.map_cons, List.map_cons, validateItems_cons_cons, ih, List.map_cons]

/-- The schemas and the members of a tuple are the two halves of one list of pairs. -/
theorem exists_pairs {ss : List Schema} {vs : List Value} (hlen : vs.length = ss.length) :
    ∃ ms : List (Schema × Value), ss = ms.map Prod.fst ∧ vs = ms.map Prod.snd :=
  ⟨ss.zip vs, (List.map_fst_zip (by omega)).symm, (List.map_snd_zip (by omega)).symm⟩

theorem validate_tuple_of_fails (form : SequenceForm) (before after : List (Schema × Value))
    (h : ¬ s.LetsPass v) :
    (Schema.tuple ((before ++ (s, v) :: after).map Prod.fst)).validate
        (.sequence form ((before ++ (s, v) :: after).map Prod.snd)) =
      (Checked.firstStop? (indexed 0 (before.map fun m => (m.2, m.1.validate m.2)))).getD
        ((s.validate v).nested.under (.int before.length)) := by
  simp only [validate_tuple]
  rw [if_pos (by simp only [List.length_map]), validateItems_pairs, List.map_append, List.map_cons,
    sequenceVerdict_of_fails form _ _ (not_letsPass_iff.mp h), List.length_map]

theorem validate_tuple_first (form : SequenceForm) {before after : List (Schema × Value)}
    (hbefore : ∀ m ∈ before, m.1.LetsPass m.2) (h : ¬ s.LetsPass v) :
    (Schema.tuple ((before ++ (s, v) :: after).map Prod.fst)).validate
        (.sequence form ((before ++ (s, v) :: after).map Prod.snd)) =
      (s.validate v).nested.under (.int before.length) := by
  rw [validate_tuple_of_fails form before after h, firstStop?_indexed, Option.getD_none]
  rw [List.forall_mem_map]
  exact hbefore

theorem admits_tuple_pairs (form : SequenceForm) (ms : List (Schema × Value)) :
    (Schema.tuple (ms.map Prod.fst)).Admits (.sequence form (ms.map Prod.snd)) ↔
      ∀ m ∈ ms, m.1.LetsPass m.2 := by
  have hzip : (ms.map Prod.snd).zip (ms.map Prod.fst) = ms.map Prod.swap := by
    rw [List.zip_map']
    rfl
  rw [admits_tuple]
  constructor
  · rintro ⟨form', vs, heq, _, h⟩ m hm
    cases heq
    rw [hzip] at h
    exact h m.swap (List.mem_map_of_mem hm)
  · intro h
    refine ⟨form, _, rfl, by simp only [List.length_map], ?_⟩
    intro m hm
    rw [hzip] at hm
    obtain ⟨n, hn, rfl⟩ := List.mem_map.mp hm
    exact h n hn

theorem validate_object_of_fails (form : MappingForm) {es : Entries Value}
    (before after : List (Value × Schema)) {key : Value} (h : ¬ s.LetsPass (es.valueOf key)) :
    (Schema.object (before ++ (key, s) :: after)).validate (.mapping form es) =
      (Checked.firstStop? (before.map (checked es))).getD
        ((s.validate (es.valueOf key)).nested.under key) := by
  rw [validate_object]
  simp only [validateFields_eq_map, List.map_append, List.map_cons]
  rw [mappingVerdict_eq]
  exact Checked.container_of_fails _ _ (not_letsPass_iff.mp h) _

theorem validate_object_first (form : MappingForm) {es : Entries Value}
    {before after : List (Value × Schema)} {key : Value}
    (hbefore : ∀ f ∈ before, f.2.LetsPass (es.valueOf f.1)) (h : ¬ s.LetsPass (es.valueOf key)) :
    (Schema.object (before ++ (key, s) :: after)).validate (.mapping form es) =
      (s.validate (es.valueOf key)).nested.under key := by
  rw [validate_object_of_fails form before after h, Checked.firstStop?_of_pass, Option.getD_none]
  rw [List.forall_mem_map]
  exact hbefore

end

end Schema

/-- Either all members of a list are good, or there is a first one that is not. -/
theorem all_or_first {α : Type} (good : α → Prop) (as : List α) :
    (∀ a ∈ as, good a) ∨ ∃ before a after,
      as = before ++ a :: after ∧ (∀ b ∈ before, good b) ∧ ¬ good a := by
  have hcases : ∀ a ∈ as, good a ∨ ∃ _ : Unit, ¬ good a := by
    intro a _
    by_cases ha : good a
    · exact .inl ha
    · exact .inr ⟨(), ha⟩
  rcases forall_or_first hcases with hall | ⟨before, a, after, _, hsplit, hbefore, ha⟩
  · exact .inl hall
  · exact .inr ⟨before, a, after, hsplit, hbefore, ha⟩

/-! ## Schemas that always give a verdict -/

namespace Schema

section

variable [RegexEngine]

/-- What a schema is without its refinements. -/
def core : Schema → Schema
  | .refined s _ => s.core
  | s => s

theorem Everywhere.self {P : Schema → Prop} {s : Schema} (h : s.Everywhere P) : P s := by
  cases s with
  | array s => exact h.1
  | tuple ss => exact h.1
  | object fs => exact h.1
  | refined s p => exact h.1
  | _ => exact h

theorem Everywhere.core {P : Schema → Prop} {s : Schema} (h : s.Everywhere P) : P s.core := by
  induction s with
  | refined s p ih => exact ih h.2
  | _ => exact h.self

theorem scalar_ne_astray {s : Schema} (hs : s.isScalar) (v a : Value) :
    s.validate v ≠ .astray a := by
  intro h
  rcases validate_of_isScalar hs v with hkept | ⟨r, hr⟩ | ⟨fault, hfault⟩
  · simp [hkept] at h
  · exact Verdict.reject_ne_astray r a (hr.symm.trans h)
  · simp [hfault] at h

/-- Only a custom schema, refined or not, answers with a value instead of a verdict. -/
theorem custom_of_validate_eq_astray {s : Schema} {v a : Value} (h : s.validate v = .astray a) :
    ∃ c, s.core = .custom c ∧ c.check v = .astray a := by
  induction s with
  | custom c =>
    refine ⟨c, rfl, ?_⟩
    rw [validate_custom] at h
    cases hc : c.check v with
    | changed w =>
      rw [hc, Verdict.settled] at h
      split at h <;> simp at h
    | _ => simp_all [Verdict.settled]
  | refined s p ih =>
    rw [validate_refined] at h
    exact ih (Verdict.eq_of_refine_eq_astray h)
  | array s _ => exact absurd h (array_ne_astray s v a)
  | tuple ss _ => exact absurd h (tuple_ne_astray ss v a)
  | object fs _ => exact absurd h (object_ne_astray fs v a)
  | model m => exact absurd h (model_ne_astray m v a)
  | misplaced u => simp at h
  | _ => exact absurd h (scalar_ne_astray rfl v a)

/-- A custom schema accepts or rejects every value. -/
def Total : Schema → Prop
  | .custom c => ∀ v, (∃ w, (c.check v).value? v = some w) ∨ ∃ f, c.check v = .rejected f
  | _ => True

/-- What a schema of total parts lets pass it accepts. -/
theorem admits_of_letsPass {s : Schema} (htotal : s.Everywhere Total) {v : Value}
    (h : s.LetsPass v) : s.Admits v := by
  refine h.admits ?_
  intro a ha
  obtain ⟨c, hcore, hastray⟩ := custom_of_validate_eq_astray ha
  have hc := htotal.core
  rw [hcore] at hc
  rcases hc v with ⟨u, hu⟩ | ⟨f, hf⟩
  · simp [hastray, Verdict.value?] at hu
  · simp [hastray] at hf

/-! ## Culprits -/

/-- Along a path from the value, the schema comes to ask another one about what is there, and
everything that it asks about before is accepted. Refinements take no step. -/
inductive Leads (t : Schema) (u : Value) : Schema → Value → List Value → Prop where
  | here : Leads t u t u []
  | element (form : SequenceForm) (s : Schema) (before : List Value) (v : Value)
      (after : List Value) (path : List Value) (hbefore : ∀ b ∈ before, s.Admits b)
      (h : Leads t u s v path) :
      Leads t u (.array s) (.sequence form (before ++ v :: after)) (.int before.length :: path)
  /-- the schemas and the members of a tuple, pair by pair -/
  | position (form : SequenceForm) (before : List (Schema × Value)) (s : Schema) (v : Value)
      (after : List (Schema × Value)) (path : List Value)
      (hbefore : ∀ m ∈ before, m.1.Admits m.2) (h : Leads t u s v path) :
      Leads t u (.tuple ((before ++ (s, v) :: after).map Prod.fst))
        (.sequence form ((before ++ (s, v) :: after).map Prod.snd)) (.int before.length :: path)
  | field (form : MappingForm) (es : Entries Value) (before : List (Value × Schema)) (key : Value)
      (s : Schema) (after : List (Value × Schema)) (path : List Value)
      (hbefore : ∀ f ∈ before, f.2.Admits (es.valueOf f.1))
      (h : Leads t u s (es.valueOf key) path) :
      Leads t u (.object (before ++ (key, s) :: after)) (.mapping form es) (key :: path)
  | base (s : Schema) (p : Function) (v : Value) (path : List Value) (h : Leads t u s v path) :
      Leads t u (.refined s p) v path

/-- What a schema has against a value concerns the value itself: a container has not come to look
at any member, and the base of a refinement accepts the value. -/
def FailsItself : Schema → Value → Prop
  | .array _, v => ∀ form vs, v ≠ .sequence form vs
  | .tuple ss, v => ∀ form vs, v = .sequence form vs → vs.length ≠ ss.length
  | .object _, v => ∀ form es, v ≠ .mapping form es
  | .refined s _, v => s.Admits v
  | _, _ => True

/-- The schema `t`, asked about the part `u` of the value, is to blame for the failure. Its path
leads there, and beyond only if a model or a custom schema points further. -/
structure Culprit (s : Schema) (v : Value) (f : Failure) (p q : List Value) (t : Schema)
    (u : Value) : Prop where
  path : f.path = p ++ q
  leads : Leads t u s v p
  follow : v.follow p = u
  rejects : t.validate u = .rejected ⟨f.reason, q⟩
  itself : t.FailsItself u
  beyond : ¬ t.isLeaf → q = []

variable {s t : Schema} {v u : Value} {f : Failure} {p q : List Value}

theorem Culprit.here (h : s.validate v = .rejected f) (hitself : s.FailsItself v)
    (hbeyond : ¬ s.isLeaf → f.path = []) : Culprit s v f [] f.path s v :=
  ⟨rfl, .here, rfl, h, hitself, hbeyond⟩

/-- The culprit in a member is the culprit in the container. -/
theorem Culprit.under {s' : Schema} {v' key : Value} (h : Culprit s v f p q t u)
    (hleads : Leads t u s' v' (key :: p)) (hstep : v'.step key = v) :
    Culprit s' v' (f.under key) (key :: p) q t u where
  path := by
    show key :: f.path = key :: p ++ q
    rw [h.path, List.cons_append]
  leads := hleads
  follow := by
    show (v'.step key).follow p = u
    rw [hstep, h.follow]
  rejects := h.rejects
  itself := h.itself
  beyond := h.beyond

/-- Where a schema rejects the value as a whole, it is the culprit. -/
theorem culprit_of_reject {r : Reason} (hr : s.validate v = .reject r)
    (h : s.validate v = .rejected f) (hitself : s.FailsItself v) :
    ∃ p q t u, Culprit s v f p q t u := by
  have hpath : f.path = [] := by
    rw [Verdict.reject_eq_rejected (hr.symm.trans h)]
  exact ⟨[], f.path, s, v, .here h hitself fun _ => hpath⟩

theorem scalar_culprit (hs : s.isScalar) (h : s.validate v = .rejected f)
    (hitself : s.FailsItself v) : ∃ p q t u, Culprit s v f p q t u := by
  rcases validate_of_isScalar hs v with hkept | ⟨r, hr⟩ | ⟨fault, hfault⟩
  · simp [hkept] at h
  · exact culprit_of_reject hr h hitself
  · simp [hfault] at h

theorem array_culprit (htotal : s.Everywhere Total)
    (ih : ∀ {v f}, s.validate v = .rejected f → ∃ p q t u, Culprit s v f p q t u)
    (h : (Schema.array s).validate v = .rejected f) :
    ∃ p q t u, Culprit (.array s) v f p q t u := by
  cases v with
  | sequence form vs =>
    rcases all_or_first s.LetsPass vs with hall | ⟨before, b, after, rfl, hbefore, hb⟩
    · obtain ⟨w, hw⟩ := (admits_array s _).mpr ⟨form, vs, rfl, hall⟩
      simp [Accepts, h, Verdict.value?] at hw
    · rw [validate_array_first form hbefore hb] at h
      obtain ⟨g, hg, rfl⟩ := Verdict.under_eq_rejected h
      obtain ⟨p, q, t, u, hculprit⟩ := ih (Verdict.eq_of_nested_eq_rejected hg)
      have hadmits : ∀ c ∈ before, s.Admits c := by
        intro c hc
        exact admits_of_letsPass htotal (hbefore c hc)
      have hleads := Leads.element form s before b after p hadmits hculprit.leads
      exact ⟨_, q, t, u, hculprit.under hleads (by simp [Value.step])⟩
  | _ => exact culprit_of_reject rfl h (by simp [FailsItself])

theorem tuple_culprit {ss : List Schema} (htotal : ∀ s ∈ ss, s.Everywhere Total)
    (ih : ∀ s ∈ ss, ∀ {v f}, s.validate v = .rejected f → ∃ p q t u, Culprit s v f p q t u)
    (h : (Schema.tuple ss).validate v = .rejected f) :
    ∃ p q t u, Culprit (.tuple ss) v f p q t u := by
  cases v with
  | sequence form vs =>
    by_cases hlen : vs.length = ss.length
    · obtain ⟨ms, rfl, rfl⟩ := exists_pairs hlen
      rcases all_or_first (fun m => m.1.LetsPass m.2) ms with
        hall | ⟨before, ⟨s, b⟩, after, rfl, hbefore, hb⟩
      · obtain ⟨w, hw⟩ := (admits_tuple_pairs form ms).mpr hall
        simp [Accepts, h, Verdict.value?] at hw
      · rw [validate_tuple_first form hbefore hb] at h
        obtain ⟨g, hg, rfl⟩ := Verdict.under_eq_rejected h
        obtain ⟨p, q, t, u, hculprit⟩ := ih s (by simp) (Verdict.eq_of_nested_eq_rejected hg)
        have hadmits : ∀ m ∈ before, m.1.Admits m.2 := by
          intro m hm
          have hmem : m.1 ∈ (before ++ (s, b) :: after).map Prod.fst :=
            List.mem_map_of_mem (List.mem_append_left _ hm)
          exact admits_of_letsPass (htotal m.1 hmem) (hbefore m hm)
        have hleads := Leads.position form before s b after p hadmits hculprit.leads
        exact ⟨_, q, t, u, hculprit.under hleads (by simp [Value.step])⟩
    · refine culprit_of_reject (r := .wrongLength ss.length vs.length) ?_ h ?_
      · simp only [validate_tuple, if_neg hlen]
      · rintro form' vs' heq
        cases heq
        exact hlen
  | _ => exact culprit_of_reject rfl h (by simp [FailsItself])

theorem object_culprit {fs : List (Value × Schema)} (htotal : ∀ g ∈ fs, g.2.Everywhere Total)
    (ih : ∀ g ∈ fs, ∀ {v f}, g.2.validate v = .rejected f → ∃ p q t u, Culprit g.2 v f p q t u)
    (h : (Schema.object fs).validate v = .rejected f) :
    ∃ p q t u, Culprit (.object fs) v f p q t u := by
  cases v with
  | mapping form es =>
    rcases all_or_first (fun g => g.2.LetsPass (Entries.valueOf g.1 es)) fs with
      hall | ⟨before, ⟨key, s⟩, after, rfl, hbefore, hkey⟩
    · obtain ⟨w, hw⟩ := (admits_object fs _).mpr ⟨form, es, rfl, hall⟩
      simp [Accepts, h, Verdict.value?] at hw
    · rw [validate_object_first form hbefore hkey] at h
      obtain ⟨g, hg, rfl⟩ := Verdict.under_eq_rejected h
      obtain ⟨p, q, t, u, hculprit⟩ := ih (key, s) (by simp) (Verdict.eq_of_nested_eq_rejected hg)
      have hadmits : ∀ c ∈ before, c.2.Admits (Entries.valueOf c.1 es) := by
        intro c hc
        exact admits_of_letsPass (htotal c (List.mem_append_left _ hc)) (hbefore c hc)
      have hleads := Leads.field form es before key s after p hadmits hculprit.leads
      exact ⟨_, q, t, u, hculprit.under hleads rfl⟩
  | _ => exact culprit_of_reject rfl h (by simp [FailsItself])

/-- Either the base does not accept the value, and the culprit is in there, or the predicate refuses
what the base hands over. -/
theorem refined_culprit {p : Function} (htotal : s.Everywhere Total)
    (ih : ∀ {v f}, s.validate v = .rejected f → ∃ p q t u, Culprit s v f p q t u)
    (h : (s.refined p).validate v = .rejected f) :
    ∃ r q t u, Culprit (s.refined p) v f r q t u := by
  by_cases hpass : s.LetsPass v
  · obtain ⟨w, hw⟩ := hpass
    cases hp : p.holds w with
    | error fault => simp [Verdict.refine_of_raised hw hp] at h
    | ok b =>
      cases b with
      | true =>
        rw [validate_refined, Verdict.refine_of_holds hw hp] at h
        simp [Passes, h, Verdict.nested, Verdict.value?] at hw
      | false =>
        have hbase := admits_of_letsPass htotal ⟨w, hw⟩
        exact culprit_of_reject (Verdict.refine_of_refused hw hp) h hbase
  · rw [validate_refined, Verdict.refine_of_none (not_letsPass_iff.mp hpass)] at h
    obtain ⟨r, q, t, u, hculprit⟩ := ih (Verdict.eq_of_nested_eq_rejected h)
    exact ⟨r, q, t, u, { hculprit with leads := .base s p v r hculprit.leads }⟩

/-- Every failure has a culprit: its path leads, through members of which all earlier ones are
accepted, to a part of the value and to the schema that rejects this part itself. -/
theorem validate_culprit (htotal : s.Everywhere Total) (h : s.validate v = .rejected f) :
    ∃ p q t u, Culprit s v f p q t u := by
  induction s generalizing v f with
  | array s ih => exact array_culprit htotal.2 (ih htotal.2) h
  | tuple ss ih =>
    obtain ⟨_, hparts⟩ := (everywhere_tuple _ ss).mp htotal
    exact tuple_culprit hparts (fun s hs => ih s hs (hparts s hs)) h
  | object fs ih =>
    obtain ⟨_, hparts⟩ := (everywhere_object _ fs).mp htotal
    exact object_culprit hparts (fun g hg => ih g hg (hparts g hg)) h
  | refined s p ih => exact refined_culprit htotal.2 (ih htotal.2) h
  | model m => exact ⟨[], f.path, _, v, .here h trivial (by simp [isLeaf])⟩
  | custom c => exact ⟨[], f.path, _, v, .here h trivial (by simp [isLeaf])⟩
  | misplaced w => simp at h
  | _ => exact scalar_culprit rfl h trivial

end

/-- In the second pair of a dictionary, the point that a refined model asks for lacks a whole
number: the path leads to the pair and its second half, and beyond to the field of the point. -/
theorem validate_culprit_point :
    let point := Schema.refined (.model .point) .always
    let s := Schema.object [(.text "n", .integer), (.text "ps", .array (.tuple [.string, point]))]
    let good := Value.dict [(.text "x", .int 1), (.text "y", .int 2)]
    let bad := Value.dict [(.text "x", .int 1), (.text "y", .text "b")]
    let v := Value.dict [(.text "ps", .list [.tuple [.text "a", good], .tuple [.text "b", bad]]),
      (.text "n", .int 3)]
    ∃ f p q t u, s.validate v = .rejected f ∧ Culprit s v f p q t u ∧
      f.path = [.text "ps", .int 1, .int 1, .text "y"] := by
  intro point s good bad v
  have htotal : s.Everywhere Total := by
    simp [s, point, Everywhere, EverywhereFields, EverywhereItems, Total]
  obtain ⟨f, hf, hpath⟩ : ∃ f, s.validate v = .rejected f ∧
      f.path = [.text "ps", .int 1, .int 1, .text "y"] := ⟨_, by rfl, by rfl⟩
  obtain ⟨p, q, t, u, hculprit⟩ := validate_culprit htotal hf
  exact ⟨f, p, q, t, u, hf, hculprit, hpath⟩

end Schema

end ShapeMatch

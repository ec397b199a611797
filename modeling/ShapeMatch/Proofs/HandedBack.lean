import ShapeMatch.Proofs.Checks
import ShapeMatch.Regex.Engine

/-!
Handing back. A container hands back the very value it was given exactly if all its members are
handed back, so that at any depth only the schemas without schemas inside matter
(`handsBack_iff_asked`). All but models and custom schemas always hand back, and a schema without
these hands every value back that it accepts. Whether a sequence is handed back or put together
anew, it holds what its members were validated to, one by one (`validate_handsBack`).
-/

namespace ShapeMatch

namespace Checked

theorem isKept_iff (c : Checked) : c.isKept ↔ c.counted = .kept := by
  unfold isKept
  cases c.counted <;> simp

theorem all_isKept_iff (cs : List Checked) : cs.all isKept ↔ ∀ c ∈ cs, c.counted = .kept := by
  rw [List.all_eq_true]
  exact forall₂_congr fun c _ => c.isKept_iff

theorem container_eq_kept_iff {cs : List Checked}
    (hpass : ∀ c ∈ cs, ∃ w, c.verdict.nested.value? c.raw = some w) (w : Value) :
    container cs w = .kept ↔ ∀ c ∈ cs, c.counted = .kept := by
  rw [← all_isKept_iff, container, firstStop?_of_pass hpass, Option.getD_none]
  by_cases hkept : cs.all isKept <;> simp [hkept]

end Checked

theorem sequenceVerdict_eq_kept_iff (form : SequenceForm) {ms : List (Value × Verdict)}
    (hpass : ∀ m ∈ ms, ∃ w, m.2.nested.value? m.1 = some w) :
    sequenceVerdict form (indexed 0 ms) = .kept ↔ ∀ m ∈ ms, m.2.nested.settled m.1 = .kept := by
  have hindexed := (forall_mem_indexed (fun v d => ∃ w, d.nested.value? v = some w) 0 ms).mpr hpass
  rw [sequenceVerdict_eq, Checked.container_eq_kept_iff hindexed]
  exact forall_mem_indexed (fun v d => d.nested.settled v = .kept) 0 ms

section

variable [RegexEngine]

/-- What a check asks of a schema without schemas inside. -/
def Located.asked? (l : Located) : Option (Schema × Value) :=
  match l.check with
  | .leaf s v => some (s, v)
  | _ => none

namespace Located

theorem filterMap_map_under (key : Value) (ls : List Located) :
    (ls.map (.under key)).filterMap asked? = ls.filterMap asked? := by
  rw [List.filterMap_map]
  rfl

theorem filterMap_numbered (n : Nat) (lss : List (List Located)) :
    (numbered n lss).filterMap asked? = lss.flatMap (List.filterMap asked?) := by
  induction lss generalizing n with
  | nil => rfl
  | cons ls rest ih =>
    rw [numbered, List.filterMap_append, filterMap_map_under, ih, List.flatMap_cons]

end Located

namespace Schema

/-- The schemas without schemas inside that validation asks, in order, each with the value that it
is asked about. -/
def asked (s : Schema) (v : Value) : List (Schema × Value) := (s.checks v).filterMap Located.asked?

/-- The schema hands back the very value it is given, as the schemas around it see it. -/
def HandsBack (s : Schema) (v : Value) : Prop := (s.validate v).nested.settled v = .kept

variable {s : Schema} {v w : Value}

/-! ## What is asked -/

theorem asked_array (s : Schema) (form : SequenceForm) (vs : List Value) :
    (Schema.array s).asked (.sequence form vs) = vs.flatMap s.asked := by
  have hkind : Located.asked? ⟨[], .sequence "array" (.sequence form vs)⟩ = none := rfl
  rw [asked, checks, List.filterMap_cons, hkind]
  simp only
  rw [Located.filterMap_numbered, List.flatMap_map]
  rfl

theorem asked_tuple (form : SequenceForm) (ms : List (Schema × Value)) :
    (Schema.tuple (ms.map Prod.fst)).asked (.sequence form (ms.map Prod.snd)) =
      ms.flatMap fun m => m.1.asked m.2 := by
  have hlen : (ms.map Prod.snd).length = (ms.map Prod.fst).length := by
    rw [List.length_map, List.length_map]
  rw [asked, checks, if_pos hlen, itemChecks_pairs]
  show (numbered 0 _).filterMap Located.asked? = _
  rw [Located.filterMap_numbered, List.flatMap_map]
  rfl

theorem asked_object (fs : List (Value × Schema)) (form : MappingForm) (es : Entries Value) :
    (Schema.object fs).asked (.mapping form es) =
      fs.flatMap fun f => f.2.asked (es.valueOf f.1) := by
  have hfields : ∀ gs, (fieldChecks gs es).filterMap Located.asked? =
      gs.flatMap fun f => f.2.asked (Entries.valueOf f.1 es) := by
    intro gs
    induction gs with
    | nil => rfl
    | cons f rest ih =>
      obtain ⟨k, t⟩ := f
      rw [fieldChecks, List.filterMap_append, Located.filterMap_map_under, ih, List.flatMap_cons]
      rfl
  exact hfields fs

theorem asked_refined (s : Schema) (p : Function) (v : Value) :
    (s.refined p).asked v = s.asked v := by
  rw [asked, checks, List.filterMap_append]
  cases (s.validate v).nested.value? v <;> simp [Located.asked?, asked]

theorem asked_leaf (h : s.checks v = [⟨[], .leaf s v⟩]) : s.asked v = [(s, v)] := by
  rw [asked, h]
  rfl

/-! ## Containers -/

/-- A schema hands back a changed value only if it is another one. -/
theorem not_isSole_of_changed (h : s.validate v = .changed w) : ¬ v.isSole w := by
  have hsettled : ∀ d : Verdict, d.settled v = .changed w → ¬ v.isSole w := by
    intro d hd hsole
    cases d with
    | changed u =>
      rw [Verdict.settled] at hd
      split at hd
      · simp at hd
      · rename_i hne
        cases hd
        exact hne hsole
    | _ => simp [Verdict.settled] at hd
  induction s with
  | model m => exact hsettled _ h
  | custom c => exact hsettled _ h
  | refined s p ih =>
    rw [validate_refined] at h
    have hpass : ((s.validate v).refine p v).nested.value? v = some w := by
      rw [h]
      rfl
    rw [(Verdict.refine_eq_self hpass).1] at h
    exact ih h
  | array s _ =>
    obtain ⟨form, vs, rfl, _⟩ := (admits_array s v).mp ⟨w, by rw [Accepts, h]; rfl⟩
    simp [Value.isSole]
  | tuple ss _ =>
    obtain ⟨form, vs, rfl, _⟩ := (admits_tuple ss v).mp ⟨w, by rw [Accepts, h]; rfl⟩
    simp [Value.isSole]
  | object fs _ =>
    obtain ⟨form, es, rfl, _⟩ := (admits_object fs v).mp ⟨w, by rw [Accepts, h]; rfl⟩
    simp [Value.isSole]
  | misplaced u => simp at h
  | _ =>
    have hkept := kept_of_isScalar rfl (v := v) (w := w) (by rw [Passes, h]; rfl)
    rw [hkept] at h
    simp at h

theorem handsBack_iff_kept (hastray : ∀ a, s.validate v ≠ .astray a) :
    s.HandsBack v ↔ s.validate v = .kept := by
  rw [HandsBack, Verdict.nested_eq_self hastray]
  cases hd : s.validate v with
  | changed w => simp [Verdict.settled, not_isSole_of_changed hd]
  | _ => simp [Verdict.settled]

theorem handsBack_array (form : SequenceForm) {vs : List Value} (h : ∀ u ∈ vs, s.LetsPass u) :
    (Schema.array s).HandsBack (.sequence form vs) ↔ ∀ u ∈ vs, s.HandsBack u := by
  rw [handsBack_iff_kept (array_ne_astray s _)]
  simp only [validate_array]
  rw [sequenceVerdict_eq_kept_iff, List.forall_mem_map]
  · rfl
  · rw [List.forall_mem_map]
    exact h

theorem handsBack_tuple (form : SequenceForm) {ms : List (Schema × Value)}
    (h : ∀ m ∈ ms, m.1.LetsPass m.2) :
    (Schema.tuple (ms.map Prod.fst)).HandsBack (.sequence form (ms.map Prod.snd)) ↔
      ∀ m ∈ ms, m.1.HandsBack m.2 := by
  rw [handsBack_iff_kept (tuple_ne_astray _ _)]
  simp only [validate_tuple]
  rw [if_pos (by simp only [List.length_map]), validateItems_pairs, sequenceVerdict_eq_kept_iff,
    List.forall_mem_map]
  · rfl
  · rw [List.forall_mem_map]
    exact h

theorem handsBack_object {fs : List (Value × Schema)} (form : MappingForm) {es : Entries Value}
    (h : ∀ f ∈ fs, f.2.LetsPass (es.valueOf f.1)) :
    (Schema.object fs).HandsBack (.mapping form es) ↔ ∀ f ∈ fs, f.2.HandsBack (es.valueOf f.1) := by
  rw [handsBack_iff_kept (object_ne_astray _ _), validate_object]
  simp only [validateFields_eq_map]
  rw [mappingVerdict_eq, Checked.container_eq_kept_iff, List.forall_mem_map]
  · rfl
  · rw [List.forall_mem_map]
    exact h

theorem handsBack_refined {p : Function} (h : (s.refined p).LetsPass v) :
    (s.refined p).HandsBack v ↔ s.HandsBack v := by
  obtain ⟨w, hw⟩ := h
  rw [Passes, validate_refined] at hw
  rw [HandsBack, validate_refined, (Verdict.refine_eq_self hw).1]
  rfl

/-- By induction on the schema: a value that passes is handed back exactly if all that is asked
about inside it is. -/
theorem handsBack_iff_asked (h : s.LetsPass v) :
    s.HandsBack v ↔ ∀ m ∈ s.asked v, m.1.HandsBack m.2 := by
  induction s generalizing v with
  | array s ih =>
    obtain ⟨form, vs, rfl, hvs⟩ := (admits_array s v).mp (h.admits (array_ne_astray s v))
    rw [handsBack_array form hvs, asked_array, List.forall_mem_flatMap]
    exact forall₂_congr fun u hu => ih (hvs u hu)
  | tuple ss ih =>
    obtain ⟨form, vs, rfl, hlen, hvs⟩ := (admits_tuple ss v).mp (h.admits (tuple_ne_astray ss v))
    obtain ⟨ms, rfl, rfl⟩ := exists_pairs hlen
    have hms := (admits_tuple_pairs form ms).mp (h.admits (tuple_ne_astray _ _))
    rw [handsBack_tuple form hms, asked_tuple, List.forall_mem_flatMap]
    exact forall₂_congr fun m hm => ih m.1 (List.mem_map_of_mem hm) (hms m hm)
  | object fs ih =>
    obtain ⟨form, es, rfl, hfs⟩ := (admits_object fs v).mp (h.admits (object_ne_astray fs v))
    rw [handsBack_object form hfs, asked_object, List.forall_mem_flatMap]
    exact forall₂_congr fun f hf => ih f hf (hfs f hf)
  | refined s p ih =>
    obtain ⟨w, hw⟩ := h
    have hbase : s.LetsPass v := ⟨w, ((passes_refined s p v w).mp hw).1⟩
    rw [handsBack_refined ⟨w, hw⟩, asked_refined, ih hbase]
  | _ => rw [asked_leaf rfl, List.forall_mem_singleton]

/-! ## What always hands back -/

theorem handsBack_of_isScalar (hs : s.isScalar) (h : s.LetsPass v) : s.HandsBack v := by
  obtain ⟨w, hw⟩ := h
  rw [HandsBack, kept_of_isScalar hs hw]
  rfl

theorem exists_check_of_mem_asked {m : Schema × Value} (hm : m ∈ s.asked v) :
    ∃ path, ⟨path, .leaf m.1 m.2⟩ ∈ s.checks v := by
  obtain ⟨⟨path, check⟩, hl, hlm⟩ := List.mem_filterMap.mp hm
  cases check with
  | leaf t u =>
    cases hlm
    exact ⟨path, hl⟩
  | _ => exact absurd hlm nofun

/-- Of what passes all that is asked about inside passes too. -/
theorem letsPass_of_mem_asked {m : Schema × Value} (h : s.LetsPass v) (hm : m ∈ s.asked v) :
    m.1.LetsPass m.2 := by
  obtain ⟨path, hcheck⟩ := exists_check_of_mem_asked hm
  rw [letsPass_iff, stop?_validate, List.findSome?_eq_none_iff] at h
  have hstop := Option.map_eq_none_iff.mp (h _ hcheck)
  rw [Check.verdict, Verdict.stop?_nested] at hstop
  exact letsPass_iff.mpr hstop

/-- Only scalars, models and custom schemas are asked in this way, apart from what is no schema. -/
theorem kind_of_mem_asked {P : Schema → Prop} {m : Schema × Value} (hs : s.Everywhere P)
    (hm : m ∈ s.asked v) : P m.1 ∧ (m.1.isScalar ∨ m.1.isLeaf ∨ ∃ u, m.1 = .misplaced u) := by
  obtain ⟨path, hcheck⟩ := exists_check_of_mem_asked hm
  obtain ⟨t, u, hleads, hmakes⟩ := exists_maker hcheck
  obtain ⟨t', u'⟩ := m
  have ht : P t := (hleads.everywhere hs).self
  cases t with
  | array t => exact absurd hmakes nofun
  | tuple ts => rcases hmakes with heq | ⟨_, _, _, heq⟩ <;> cases heq
  | object gs => exact absurd hmakes nofun
  | refined t p =>
    obtain ⟨_, _, heq⟩ := hmakes
    cases heq
  | model n =>
    obtain ⟨rfl, rfl⟩ := Check.leaf.inj hmakes
    exact ⟨ht, .inr (.inl rfl)⟩
  | custom c =>
    obtain ⟨rfl, rfl⟩ := Check.leaf.inj hmakes
    exact ⟨ht, .inr (.inl rfl)⟩
  | misplaced w =>
    obtain ⟨rfl, rfl⟩ := Check.leaf.inj hmakes
    exact ⟨ht, .inr (.inr ⟨w, rfl⟩)⟩
  | _ =>
    obtain ⟨rfl, rfl⟩ := Check.leaf.inj hmakes
    exact ⟨ht, .inl rfl⟩

/-- Schemas without models and custom schemas hand back whatever passes. -/
theorem handsBack_of_leafless (hs : s.Everywhere fun t => ¬ t.isLeaf) (h : s.LetsPass v) :
    s.HandsBack v := by
  rw [handsBack_iff_asked h]
  intro m hm
  have hpass := letsPass_of_mem_asked h hm
  obtain ⟨hleaf, hscalar | hisLeaf | ⟨u, hu⟩⟩ := kind_of_mem_asked hs hm
  · exact handsBack_of_isScalar hscalar hpass
  · exact absurd hisLeaf hleaf
  · obtain ⟨w, hw⟩ := hpass
    simp [Passes, hu, Verdict.nested, Verdict.value?] at hw

/-! ## Handing back -/

theorem Accepts.eq_changed (h : s.Accepts v w) (hkept : s.validate v ≠ .kept) :
    s.validate v = .changed w := by
  unfold Accepts at h
  cases hd : s.validate v with
  | kept => exact absurd hd hkept
  | changed u =>
    rw [hd] at h
    exact congrArg Verdict.changed (Option.some.inj h)
  | _ => simp [hd, Verdict.value?] at h

theorem Accepts.core (h : s.Accepts v w) : s.core.Accepts v w := by
  induction s with
  | refined s p ih => exact ih ((accepts_refined s p v w).mp h).1
  | _ => exact h

/-- What happens to the members of a sequence, one by one, no matter whether the sequence is handed
back or put together anew. -/
theorem array_members {t : Schema} (h : (Schema.array t).Accepts v w) :
    ∃ form vs ws, v = .sequence form vs ∧ w = .sequence form ws ∧
      ∃ _ : ws.length = vs.length, ∀ i (_ : i < vs.length), t.Passes vs[i] ws[i] := by
  obtain ⟨form, vs, ws, rfl, rfl, hmembers⟩ := (accepts_array t v w).mp h
  have hlen : vs.length = ws.length := hmembers.length_eq
  refine ⟨form, vs, ws, rfl, rfl, hlen.symm, ?_⟩
  intro i hi
  exact hmembers.get hi (by omega)

theorem tuple_members {ts : List Schema} (h : (Schema.tuple ts).Accepts v w) :
    ∃ form vs ws, v = .sequence form vs ∧ w = .sequence form ws ∧
      ∃ (_ : ts.length = vs.length) (_ : ws.length = vs.length),
        ∀ i (_ : i < vs.length), ts[i].Passes vs[i] ws[i] := by
  obtain ⟨form, vs, ws, rfl, rfl, hlen, hmembers⟩ := (accepts_tuple ts v w).mp h
  have hws : (vs.zip ts).length = ws.length := hmembers.length_eq
  rw [List.length_zip] at hws
  refine ⟨form, vs, ws, rfl, rfl, hlen.symm, by omega, ?_⟩
  intro i hi
  have hzip : i < (vs.zip ts).length := by
    rw [List.length_zip]
    omega
  have hmember := hmembers.get hzip (by omega)
  simpa using hmember

/-- An accepted sequence stays a sequence of its kind and length, and holds what its members were
validated to. A value comes back as it is exactly if that is so of all that was asked about inside
it, which models and custom schemas alone can change: without them the handler of a case gets the
very value that is dispatched. -/
theorem validate_handsBack [Logging] (h : s.Accepts v w) :
    (∀ t, s.core = .array t → ∃ form vs ws, v = .sequence form vs ∧ w = .sequence form ws ∧
        ∃ _ : ws.length = vs.length, ∀ i (_ : i < vs.length), t.Passes vs[i] ws[i]) ∧
      (∀ ts, s.core = .tuple ts → ∃ form vs ws, v = .sequence form vs ∧ w = .sequence form ws ∧
        ∃ (_ : ts.length = vs.length) (_ : ws.length = vs.length),
          ∀ i (_ : i < vs.length), ts[i].Passes vs[i] ws[i]) ∧
      (s.validate v = .kept ↔ ∀ m ∈ s.asked v, m.1.HandsBack m.2) ∧
      ((s.Everywhere fun t => ¬ t.isLeaf) → s.validate v = .kept ∧ w = v ∧
        ∀ cases i c, FirstAt v cases i c → c.schema = s →
          dispatch v cases =
            .noting (.matched i s v) ((c.handler.apply v).mapError .fault)) := by
  have hastray : ∀ a, s.validate v ≠ .astray a := by
    intro a ha
    simp [Accepts, ha, Verdict.value?] at h
  refine ⟨?_, ?_, ?_, ?_⟩
  · intro t hcore
    exact array_members (hcore ▸ h.core)
  · intro ts hcore
    exact tuple_members (hcore ▸ h.core)
  · rw [← handsBack_iff_kept hastray]
    exact handsBack_iff_asked ⟨w, h.passes⟩
  · intro hleafless
    have hkept : s.validate v = .kept :=
      (handsBack_iff_kept hastray).mp (handsBack_of_leafless hleafless ⟨w, h.passes⟩)
    refine ⟨hkept, ?_, ?_⟩
    · rw [Accepts, hkept] at h
      exact (Option.some.inj h).symm
    · rintro cases i c hfirst rfl
      have haccepts : (c.schema.validate v).value? v = some v := by
        rw [hkept]
        rfl
      rw [hfirst.dispatch_eq, dispatchFrom_of_accepts haccepts, Case.run]

end Schema

end

namespace Schema

attribute [local instance] Logging.ordinary

/-- Of two pairs the second one is filled, so that the list around them is put together anew; a
tuple of whole numbers is left alone and reaches its handler. -/
theorem validate_handsBack_pairs :
    let s := Schema.array (.refined (.tuple [.custom .fill, .integer]) .always)
    let v := Value.list [.tuple [.text "a", .int 1], .tuple [.undefined, .int 2]]
    let numbers := Case.mk (.array .integer) .len
    s.validate v ≠ .kept ∧
      dispatch (.tuple [.int 3]) [⟨.string, .itself⟩, numbers] =
        ⟨.ok (.int 1), [.matched 1 numbers.schema (.tuple [.int 3])]⟩ := by
  intro s v numbers
  have hpairs : s.Accepts v (.list [.tuple [.text "a", .int 1], .tuple [.int 0, .int 2]]) := by rfl
  have hnumbers : (Schema.array .integer).Accepts (.tuple [.int 3]) (.tuple [.int 3]) := by rfl
  have hfirst : FirstAt (.tuple [.int 3]) [⟨.string, .itself⟩, numbers] 1 numbers := by
    refine ⟨rfl, ?_, ?_⟩
    · rintro ⟨f, hf⟩
      exact absurd hf nofun
    · intro j hj d hd
      obtain rfl : j = 0 := by omega
      cases hd
      exact ⟨_, rfl⟩
  constructor
  · have hasked : s.asked v = [(.custom .fill, .text "a"), (.integer, .int 1),
        (.custom .fill, .undefined), (.integer, .int 2)] := rfl
    rw [Ne, (validate_handsBack hpairs).2.2.1, hasked]
    intro hall
    have hfilled : (Schema.custom .fill).HandsBack .undefined :=
      hall (.custom .fill, .undefined) (by simp)
    exact absurd hfilled nofun
  · obtain ⟨_, _, hdispatch⟩ := (validate_handsBack hnumbers).2.2.2 ⟨nofun, nofun⟩
    rw [hdispatch _ 1 numbers hfirst rfl, Run.noting_of_quiet rfl]
    rfl

end Schema

end ShapeMatch

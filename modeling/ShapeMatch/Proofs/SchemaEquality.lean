import Mathlib.Data.List.Perm.Subperm
import ShapeMatch.Proofs.Plain
import ShapeMatch.Proofs.Subsumption
import ShapeMatch.Regex.Engine

/-!
Equal schemas. Objects are equal in any order of their fields, and literals are equal as values,
so that the literal of one equals that of the truth value it stands for, although no value matches
both. Where the literals that stand at the same place are of one kind, equal schemas accept the
same values (`compile_equal`).
-/

namespace ShapeMatch

/-! ## Keys of equal objects -/

namespace Entries

variable {α β : Type}

theorem nodup_keys {es : Entries α} (hd : Distinct es) (hkeys : ∀ e ∈ es, e.1.key?.isSome) :
    (es.map fun e => e.1.key?).Nodup := by
  rw [List.Nodup, List.pairwise_map]
  refine List.Pairwise.imp_of_mem ?_ hd
  intro a b ha _ hne hsame
  exact hne (Value.sameKey_iff.mpr ⟨hkeys a ha, hsame⟩)

/-- Of two mappings of one size, where one has all keys of the other, each has all keys of the
other. -/
theorem exists_sameKey_of_length {es : Entries α} {fs : Entries β} (hd : Distinct es)
    (hlength : es.length = fs.length) (h : ∀ e ∈ es, ∃ f ∈ fs, e.1.sameKey f.1) {f : Value × β}
    (hf : f ∈ fs) : ∃ e ∈ es, e.1.sameKey f.1 := by
  have hkeys : ∀ e ∈ es, e.1.key?.isSome := by
    intro e he
    obtain ⟨g, _, hsame⟩ := h e he
    exact (Value.sameKey_iff.mp hsame).1
  have hsub : (es.map fun e => e.1.key?) ⊆ fs.map fun g => g.1.key? := by
    intro k hk
    obtain ⟨e, he, rfl⟩ := List.mem_map.mp hk
    obtain ⟨g, hg, hsame⟩ := h e he
    exact List.mem_map.mpr ⟨g, hg, (Value.sameKey_iff.mp hsame).2.symm⟩
  have hperm := ((nodup_keys hd hkeys).subperm hsub).perm_of_length_le (by simp [hlength])
  obtain ⟨e, he, hkey⟩ := List.mem_map.mp (hperm.mem_iff.mpr (List.mem_map_of_mem hf))
  exact ⟨e, he, Value.sameKey_iff.mpr ⟨hkeys e he, hkey⟩⟩

end Entries

namespace Schema

variable [RegexEngine]

/-! ## Comparing schemas -/

theorem compareItems_eq_equal_iff (ss ts : List Schema) :
    compareItems ss ts = .equal ↔ List.Forall₂ (fun s t => s.compare t = .equal) ss ts := by
  induction ss generalizing ts with
  | nil => cases ts <;> simp [compareItems]
  | cons s ss ih => cases ts <;> simp [compareItems, ih]

theorem compareFields_eq_equal_iff (fs gs : List (Value × Schema)) :
    compareFields fs gs = .equal ↔
      ∀ f ∈ fs, ∃ t, Entries.get? f.1 gs = some t ∧ f.2.compare t = .equal := by
  induction fs with
  | nil => simp [compareFields]
  | cons f rest ih =>
    obtain ⟨k, s⟩ := f
    rw [compareFields, Comparison.andThen_eq_equal, ih, List.forall_mem_cons]
    cases Entries.get? k gs <;> simp

/-- Two schemas were found equal, whichever came first in the comparison. -/
def Equated (s t : Schema) : Prop := s.compare t = .equal ∨ t.compare s = .equal

theorem Equated.symm {s t : Schema} (h : s.Equated t) : t.Equated s := Or.symm h

theorem eq_of_equated {s t : Schema} (hs : s.isWorded) (h : s.Equated t) : t = s := by
  cases s <;> simp [isWorded] at hs <;> cases t <;> simp [Equated, compare] at h <;> try rfl
  rename_i p q
  rcases h with h | h
  · rw [Pattern.eq_of_source_eq h]
  · rw [Pattern.eq_of_source_eq h]

theorem literal_of_equated {u : Value} {t : Schema} (h : (literal u).Equated t) :
    ∃ w, t = .literal w ∧ (u.compare w = .equal ∨ w.compare u = .equal) := by
  cases t <;> simp_all [Equated, compare]

theorem array_of_equated {s t : Schema} (h : (array s).Equated t) :
    ∃ s', t = .array s' ∧ s.Equated s' := by
  cases t <;> simp_all [Equated, compare]

theorem tuple_of_equated {ss : List Schema} {t : Schema} (h : (tuple ss).Equated t) :
    ∃ ts, t = .tuple ts ∧ List.Forall₂ Equated ss ts := by
  cases t with
  | tuple ts =>
    refine ⟨ts, rfl, ?_⟩
    simp only [Equated, compare, compareItems_eq_equal_iff] at h
    rcases h with h | h
    · exact h.imp fun _ _ => .inl
    · exact h.flip.imp fun _ _ => .inr
  | _ => simp [Equated, compare] at h

/-- The fields of two objects go together by their keys, and each with an equal one. -/
structure FieldsEquated (fs gs : List (Value × Schema)) : Prop where
  left : ∀ f ∈ fs, ∃ g ∈ gs, f.1.sameKey g.1 ∧ f.2.Equated g.2
  right : ∀ g ∈ gs, ∃ f ∈ fs, f.1.sameKey g.1 ∧ f.2.Equated g.2

theorem FieldsEquated.symm {fs gs : List (Value × Schema)} (h : FieldsEquated fs gs) :
    FieldsEquated gs fs where
  left := by
    intro g hg
    obtain ⟨f, hf, hkey, heq⟩ := h.right g hg
    exact ⟨f, hf, Value.sameKey_comm f.1 g.1 ▸ hkey, heq.symm⟩
  right := by
    intro f hf
    obtain ⟨g, hg, hkey, heq⟩ := h.left f hf
    exact ⟨g, hg, Value.sameKey_comm f.1 g.1 ▸ hkey, heq.symm⟩

/-- It is enough to compare the fields of one object with those of the other, as there are
equally many. -/
theorem fieldsEquated_of_compareFields {fs gs : List (Value × Schema)} (hfs : Entries.Distinct fs)
    (hgs : Entries.Distinct gs) (hlength : fs.length = gs.length)
    (h : compareFields fs gs = .equal) : FieldsEquated fs gs := by
  rw [compareFields_eq_equal_iff] at h
  have hleft : ∀ f ∈ fs, ∃ g ∈ gs, f.1.sameKey g.1 ∧ f.2.Equated g.2 := by
    intro f hf
    obtain ⟨t, hget, heq⟩ := h f hf
    obtain ⟨k, hmem, hkey⟩ := Entries.mem_of_get? hget
    exact ⟨(k, t), hmem, hkey, .inl heq⟩
  refine ⟨hleft, ?_⟩
  intro g hg
  obtain ⟨f, hf, hkey⟩ := Entries.exists_sameKey_of_length hfs hlength
    (fun f hf => (hleft f hf).imp fun _ h => ⟨h.1, h.2.1⟩) hg
  obtain ⟨g', hg', hkey', heq⟩ := hleft f hf
  have hsame : g.1.sameKey g'.1 :=
    Value.sameKey_trans (Value.sameKey_comm f.1 g.1 ▸ hkey) hkey'
  obtain rfl := hgs.eq_of_sameKey hg hg' hsame
  exact ⟨f, hf, hkey, heq⟩

theorem object_of_equated {fs : List (Value × Schema)} {t : Schema}
    (h : (object fs).Equated t) : ∃ gs, t = .object gs ∧ fs.length = gs.length ∧
      (compareFields fs gs = .equal ∨ compareFields gs fs = .equal) := by
  cases t with
  | object gs =>
    refine ⟨gs, rfl, ?_⟩
    simp only [Equated, compare, Comparison.onlyIf_eq_equal, beq_iff_eq] at h
    rcases h with ⟨hlength, h⟩ | ⟨hlength, h⟩
    · exact ⟨hlength, .inr h⟩
    · exact ⟨hlength.symm, .inl h⟩
  | _ => simp [Equated, compare] at h

/-! ## Equal schemas accept the same values -/

/-- What is asked of every schema inside one that a plain shorthand gives: it is plain, and the
fields of an object have keys that differ. -/
def Regular (s : Schema) : Prop :=
  s.Plain ∧ match s with
    | .object fs => Entries.Distinct fs
    | _ => True

/-- Two literals stand at the same place of two schemas. -/
inductive Meet : Schema → Schema → Value → Value → Prop where
  | here (u w : Value) : Meet (.literal u) (.literal w) u w
  | array (s t : Schema) (u w : Value) (h : Meet s t u w) : Meet (.array s) (.array t) u w
  | tuple (ss ts : List Schema) (u w : Value) (s t : Schema) (hm : (s, t) ∈ ss.zip ts)
      (h : Meet s t u w) : Meet (.tuple ss) (.tuple ts) u w
  | object (fs gs : List (Value × Schema)) (u w : Value) (f g : Value × Schema) (hf : f ∈ fs)
      (hg : g ∈ gs) (hkey : f.1.sameKey g.1) (h : Meet f.2 g.2 u w) :
      Meet (.object fs) (.object gs) u w

/-- Literals that stand at the same place are of one kind. -/
def KindsAgree (s t : Schema) : Prop := ∀ u w, Meet s t u w → u.literalKind = w.literalKind

end Schema

theorem Scalar.is_congr_of_is {c d : Scalar} (h : d.Is c.value) (v : Value) : c.Is v ↔ d.Is v := by
  have hint : ∀ n, Exact.ofInt n ≠ .nan := by simp [Exact.ofInt]
  cases c <;> cases d <;>
    simp_all [Scalar.Is, Scalar.value, Value.real?, ← Exact.ofBinary64_eq_nan_iff]

theorem Scalar.is_of_compare {c d : Scalar} (hkind : c.value.literalKind = d.value.literalKind)
    (h : c.value.compare d.value = .equal) : d.Is c.value := by
  have hsame : d.value.compareLiteral c.value = .equal := by
    rw [Value.compareLiteral, Comparison.onlyIf_eq_equal]
    exact ⟨decide_eq_true hkind, h⟩
  rcases d.compareLiteral_value c.value with ⟨his, _⟩ | ⟨_, hne⟩
  · exact his
  · rw [hne] at hsame
    cases hsame

namespace Schema

variable [RegexEngine]

theorem keeps_literal_iff (c : Scalar) (v : Value) : (literal c.value).Keeps v ↔ c.Is v :=
  (Shorthand.scalar_decides c v).kept_iff

theorem keeps_literal_congr {c d : Scalar} (hkind : c.value.literalKind = d.value.literalKind)
    (h : c.value.compare d.value = .equal ∨ d.value.compare c.value = .equal) (v : Value) :
    (literal c.value).Keeps v ↔ (literal d.value).Keeps v := by
  rw [keeps_literal_iff, keeps_literal_iff]
  rcases h with h | h
  · exact Scalar.is_congr_of_is (Scalar.is_of_compare hkind h) v
  · exact (Scalar.is_congr_of_is (Scalar.is_of_compare hkind.symm h) v).symm

theorem plain_of_regular {s : Schema} (h : s.Everywhere Regular) : s.Everywhere Plain :=
  h.imp fun _ => And.left

theorem keeps_array_iff {s : Schema} (hs : s.Everywhere Plain) (v : Value) :
    (array s).Keeps v ↔ ∃ form vs, v = .sequence form vs ∧ ∀ u ∈ vs, s.Keeps u :=
  (array_decides (decides_of_plain hs) v).kept_iff

theorem keeps_tuple_iff {ss : List Schema} (hss : ∀ s ∈ ss, s.Everywhere Plain) (v : Value) :
    (tuple ss).Keeps v ↔ ∃ form vs, v = .sequence form vs ∧ vs.length = ss.length ∧
      ∀ p ∈ ss.zip vs, p.1.Keeps p.2 :=
  (decides_items (fun s hs => decides_of_plain (hss s hs)) v).kept_iff

theorem keeps_object_iff {fs : List (Value × Schema)} (hfs : ∀ f ∈ fs, f.2.Everywhere Plain)
    (v : Value) : (object fs).Keeps v ↔ ∃ (form : MappingForm) (es : Entries Value),
      v = .mapping form es ∧ ∀ f ∈ fs, f.2.Keeps (es.valueOf f.1) :=
  (decides_fields (fun f hf => decides_of_plain (hfs f hf)) v).kept_iff

/-- Two schemas keep the same values. -/
def SameKeeps (s t : Schema) : Prop := ∀ v, s.Keeps v ↔ t.Keeps v

theorem SameKeeps.symm {s t : Schema} (h : SameKeeps s t) : SameKeeps t s :=
  fun v => (h v).symm

theorem keeps_zip {ss ts : List Schema} (h : List.Forall₂ SameKeeps ss ts) (vs : List Value) :
    (∀ p ∈ ss.zip vs, p.1.Keeps p.2) ↔ ∀ p ∈ ts.zip vs, p.1.Keeps p.2 := by
  induction h generalizing vs with
  | nil => simp
  | cons hst _ ih =>
    cases vs with
    | nil => simp
    | cons v vs =>
      rw [List.zip_cons_cons, List.zip_cons_cons, List.forall_mem_cons, List.forall_mem_cons,
        ih vs, hst v]

/-- A mapping that has what one object asks for has what the other one does. -/
theorem keeps_fields {fs gs : List (Value × Schema)}
    (h : ∀ g ∈ gs, ∃ f ∈ fs, f.1.sameKey g.1 ∧ SameKeeps f.2 g.2) {es : Entries Value}
    (hkeeps : ∀ f ∈ fs, f.2.Keeps (es.valueOf f.1)) : ∀ g ∈ gs, g.2.Keeps (es.valueOf g.1) := by
  intro g hg
  obtain ⟨f, hf, hkey, hsame⟩ := h g hg
  rw [← Entries.valueOf_congr hkey]
  exact (hsame _).mp (hkeeps f hf)

/-- By induction on the first schema: each part of it is equal to the part of the second one that
stands at the same place. -/
theorem sameKeeps_of_equated {s t : Schema} (hs : s.Everywhere Regular) (ht : t.Everywhere Regular)
    (h : s.Equated t) (hkinds : KindsAgree s t) : SameKeeps s t := by
  induction s generalizing t with
  | literal u =>
    obtain ⟨w, rfl, heq⟩ := literal_of_equated h
    obtain ⟨c, rfl⟩ := hs.1
    obtain ⟨d, rfl⟩ := ht.1
    exact keeps_literal_congr (hkinds _ _ (.here _ _)) heq
  | array s ih =>
    obtain ⟨s', rfl, heq⟩ := array_of_equated h
    have hsame : SameKeeps s s' :=
      ih hs.2 ht.2 heq fun u w hm => hkinds u w (.array s s' u w hm)
    intro v
    rw [keeps_array_iff (plain_of_regular hs.2), keeps_array_iff (plain_of_regular ht.2)]
    simp only [hsame _]
  | tuple ss ih =>
    obtain ⟨ts, rfl, heq⟩ := tuple_of_equated h
    rw [everywhere_tuple] at hs ht
    have hsame : List.Forall₂ SameKeeps ss ts := by
      rw [List.forall₂_iff_zip] at heq ⊢
      refine ⟨heq.1, fun {s t} hm => ?_⟩
      obtain ⟨hsmem, htmem⟩ := List.of_mem_zip hm
      exact ih s hsmem (hs.2 s hsmem) (ht.2 t htmem) (heq.2 hm) fun u w h =>
        hkinds u w (.tuple ss ts u w s t hm h)
    intro v
    rw [keeps_tuple_iff fun s hmem => plain_of_regular (hs.2 s hmem),
      keeps_tuple_iff fun t hmem => plain_of_regular (ht.2 t hmem)]
    simp only [keeps_zip hsame, heq.length_eq]
  | object fs ih =>
    obtain ⟨gs, rfl, hlength, heq⟩ := object_of_equated h
    rw [everywhere_object] at hs ht
    obtain ⟨hleft, hright⟩ : FieldsEquated fs gs := by
      rcases heq with heq | heq
      · exact fieldsEquated_of_compareFields hs.1.2 ht.1.2 hlength heq
      · exact (fieldsEquated_of_compareFields ht.1.2 hs.1.2 hlength.symm heq).symm
    have hsame : ∀ f ∈ fs, ∀ g ∈ gs, f.1.sameKey g.1 → f.2.Equated g.2 → SameKeeps f.2 g.2 :=
      fun f hf g hg hkey heq => ih f hf (hs.2 f hf) (ht.2 g hg) heq fun u w h =>
        hkinds u w (.object fs gs u w f g hf hg hkey h)
    intro v
    rw [keeps_object_iff fun f hf => plain_of_regular (hs.2 f hf),
      keeps_object_iff fun g hg => plain_of_regular (ht.2 g hg)]
    refine exists_congr fun form => exists_congr fun es => and_congr_right fun _ => ⟨?_, ?_⟩
    · apply keeps_fields
      intro g hg
      obtain ⟨f, hf, hkey, heq⟩ := hright g hg
      exact ⟨f, hf, hkey, hsame f hf g hg hkey heq⟩
    · apply keeps_fields
      intro f hf
      obtain ⟨g, hg, hkey, heq⟩ := hleft f hf
      exact ⟨g, hg, Value.sameKey_comm f.1 g.1 ▸ hkey, (hsame f hf g hg hkey heq).symm⟩
  | model m => exact hs.1.elim
  | refined s p ih => exact hs.1.1.elim
  | custom c => exact hs.1.elim
  | misplaced u => exact hs.1.elim
  | _ =>
    rw [eq_of_equated rfl h]
    exact fun _ => Iff.rfl

theorem admits_iff_keeps {s : Schema} (hs : s.Everywhere Plain) (v : Value) :
    s.Admits v ↔ s.Keeps v := by
  have hdecides := decides_of_plain hs v
  constructor
  · rintro ⟨w, hw⟩
    unfold Accepts at hw
    cases hverdict : s.validate v with
    | kept => exact hverdict
    | _ =>
      rw [hverdict] at hw hdecides
      cases hdecides <;> simp [Verdict.value?] at hw
  · intro h
    refine ⟨v, ?_⟩
    rw [Accepts, h]
    rfl

end Schema

/-! ## Shorthands -/

instance {α : Type} (es : Entries α) : Decidable (Entries.Distinct es) :=
  inferInstanceAs (Decidable (es.Pairwise fun a b => ¬ a.1.sameKey b.1))

namespace Shorthand

section

variable [RegexEngine]

/-- Whether no mapping in a shorthand has two keys that are the same. -/
def hasDistinctKeys (s : Shorthand) : Bool := s.all fun
  | .mapping es => decide (Entries.Distinct es)
  | _ => true

theorem regular_of_compileAll {ss : List Shorthand} {σs : List Schema} (h : compileAll ss = .ok σs)
    (ih : ∀ s ∈ ss, ∀ σ, s.compile = .ok σ → σ.Everywhere Schema.Regular) :
    (Schema.tuple σs).Everywhere Schema.Regular := by
  rw [Schema.everywhere_tuple]
  refine ⟨⟨trivial, trivial⟩, ?_⟩
  intro σ hσ
  obtain ⟨s, hs, hcompile⟩ := exists_mem_of_forall₂ (compileAll_ok_iff.mp h).flip hσ
  exact ih s hs σ hcompile

theorem distinct_of_compileEntries {es : List (Value × Shorthand)} {fs : List (Value × Schema)}
    (h : compileEntries es = .ok fs) (hes : Entries.Distinct es) : Entries.Distinct fs := by
  have hkeys : fs.map Prod.fst = es.map Prod.fst := by
    rw [compileEntries_ok_iff] at h
    induction h with
    | nil => rfl
    | cons hfirst _ ih =>
      rw [List.map_cons, List.map_cons, hfirst.1, ih (List.pairwise_cons.mp hes).2]
  have hdistinct : (es.map Prod.fst).Pairwise fun k l => ¬ k.sameKey l := List.pairwise_map.mpr hes
  rw [← hkeys] at hdistinct
  exact List.pairwise_map.mp hdistinct

theorem regular_of_compileEntries {es : List (Value × Shorthand)} {fs : List (Value × Schema)}
    (h : compileEntries es = .ok fs) (hes : Entries.Distinct es)
    (ih : ∀ e ∈ es, ∀ σ, e.2.compile = .ok σ → σ.Everywhere Schema.Regular) :
    (Schema.object fs).Everywhere Schema.Regular := by
  rw [Schema.everywhere_object]
  refine ⟨⟨trivial, distinct_of_compileEntries h hes⟩, ?_⟩
  intro f hf
  obtain ⟨e, he, _, hcompile⟩ := exists_mem_of_forall₂ (compileEntries_ok_iff.mp h).flip hf
  exact ih e he f.2 hcompile

theorem regular_of_compileExpression {e : Expression} {s : Schema}
    (h : compileExpression e = .ok s) : s.Everywhere Schema.Regular := by
  obtain ⟨_, p, _, rfl, _⟩ := exists_of_compileExpression h
  exact ⟨trivial, trivial⟩

theorem regular_of_compile {a : Shorthand} (ha : a.isPlain) (hkeys : a.hasDistinctKeys) {s : Schema}
    (h : a.compile = .ok s) : s.Everywhere Schema.Regular := by
  induction a using ind generalizing s with
  | marker m =>
    cases h
    cases m with
    | list => exact ⟨⟨trivial, trivial⟩, ⟨trivial, trivial⟩⟩
    | dict => exact ⟨⟨trivial, List.Pairwise.nil⟩, trivial⟩
    | _ => exact ⟨trivial, trivial⟩
  | scalar c =>
    cases h
    exact ⟨⟨c, rfl⟩, trivial⟩
  | expression e => exact regular_of_compileExpression h
  | anyList | anyTuple =>
    cases h
    exact ⟨⟨trivial, trivial⟩, ⟨trivial, trivial⟩⟩
  | array item ih =>
    rw [compile] at h
    obtain ⟨σ, hσ, rfl⟩ := map_ok h
    have hitem : item.isPlain := by simpa [isPlain, all, allItems] using ha
    have hitemKeys : item.hasDistinctKeys := by simpa [hasDistinctKeys, all, allItems] using hkeys
    exact ⟨⟨trivial, trivial⟩, ih hitem hitemKeys hσ⟩
  | counted n items hn ih =>
    rw [compile, if_pos (by simpa using hn)] at h
    obtain ⟨σs, hσs, rfl⟩ := map_ok h
    have hitems : ∀ s ∈ items, s.isPlain := by
      simpa [isPlain, all, allItems, allItems_iff] using ha
    have hitemsKeys : ∀ s ∈ items, s.hasDistinctKeys := by
      simpa [hasDistinctKeys, all, allItems, allItems_iff] using hkeys
    exact regular_of_compileAll hσs fun s hs _ hσ => ih s hs (hitems s hs) (hitemsKeys s hs) hσ
  | miscounted n items hn =>
    rw [compile, if_neg (by simpa using hn)] at h
    simp at h
  | malformed items hnil hone htwo =>
    rw [compile] at h
    · simp at h
    · exact hnil
    · exact hone
    · exact htwo
  | tuple item items ih =>
    rw [compile] at h
    obtain ⟨σs, hσs, rfl⟩ := map_ok h
    have hitems : ∀ s ∈ item :: items, s.isPlain := (allItems_iff _ _).mp ha
    have hitemsKeys : ∀ s ∈ item :: items, s.hasDistinctKeys := (allItems_iff _ _).mp hkeys
    exact regular_of_compileAll hσs fun s hs _ hσ => ih s hs (hitems s hs) (hitemsKeys s hs) hσ
  | mapping es ih =>
    rw [compile] at h
    obtain ⟨fs, hfs, rfl⟩ := map_ok h
    have hparts : ∀ e ∈ es, e.2.isPlain := (allEntries_iff _ _).mp ha
    simp only [hasDistinctKeys, all, Bool.and_eq_true, decide_eq_true_eq, allEntries_iff] at hkeys
    exact regular_of_compileEntries hfs hkeys.1 fun e he _ hσ =>
      ih e he (hparts e he) (hkeys.2 e he) hσ
  | model m => simp [isPlain, all] at ha
  | schema t => simp [isPlain, all] at ha
  | _ =>
    cases h
    exact ⟨trivial, trivial⟩

/-- Shorthands with equal schemas accept the same values, provided that literals which stand at the
same place are of one kind. -/
theorem compile_equal {a b : Shorthand} (ha : a.isPlain) (hb : b.isPlain)
    (hkeysa : a.hasDistinctKeys) (hkeysb : b.hasDistinctKeys) {s t : Schema}
    (hs : a.compile = .ok s) (ht : b.compile = .ok t) (hequal : s.equal t)
    (hkinds : s.KindsAgree t) (v : Value) : s.Admits v ↔ t.Admits v := by
  have hregs := regular_of_compile ha hkeysa hs
  have hregt := regular_of_compile hb hkeysb ht
  rw [Schema.admits_iff_keeps (Schema.plain_of_regular hregs),
    Schema.admits_iff_keeps (Schema.plain_of_regular hregt)]
  exact Schema.sameKeeps_of_equated hregs hregt (.inl (eq_of_beq hequal)) hkinds v

end

/-- Two objects in different orders, with one number and one key written in two ways. -/
theorem compile_equal_fields :
    let s := Schema.object [(.text "x", .array (.literal (.int 1))), (.int 1, .array .unknown)]
    let t := Schema.object [(.bool true, .array .unknown),
      (.text "x", .array (.literal (.float (.finite false 1 0))))]
    let v := Value.dict [(.text "x", .tuple [.fraction 1]), (.int 1, .list [.null])]
    s.equal t = true ∧ (s.Admits v ↔ t.Admits v) := by
  intro s t v
  have hequal : s.equal t = true := by decide +kernel
  have hkinds : s.KindsAgree t := by
    intro u w hmeet
    change Schema.Meet (.object _) (.object _) u w at hmeet
    cases hmeet with | object _ _ _ _ f g hf hg _ h => ?_
    simp only [List.mem_cons, List.not_mem_nil, or_false] at hf hg
    rcases hf with rfl | rfl
    · rcases hg with rfl | rfl
      · cases h with
        | array _ _ _ _ h => cases h
      · cases h with
        | array _ _ _ _ h =>
          cases h
          rfl
    · rcases hg with rfl | rfl
      · cases h with
        | array _ _ _ _ h => cases h
      · cases h with
        | array _ _ _ _ h => cases h
  exact ⟨hequal, compile_equal
    (a := .mapping [(.text "x", .list [.scalar (.int 1)]), (.int 1, .marker .list)])
    (b := .mapping [(.bool true, .tuple []),
      (.text "x", .list [.scalar (.float (.finite false 1 0))])])
    (by decide) (by decide) (by decide +kernel) (by decide +kernel) rfl rfl hequal hkinds v⟩

/-- The literals of one and of true are equal schemas, but the number matches only the first. -/
theorem compile_equal_true :
    (Shorthand.scalar (.int 1)).compile = .ok (.literal (.int 1)) ∧
      (Shorthand.scalar (.bool true)).compile = .ok (.literal (.bool true)) ∧
      (Schema.literal (.int 1)).equal (.literal (.bool true)) = true ∧
      (Schema.literal (.int 1)).Admits (.int 1) ∧
      ¬ (Schema.literal (.bool true)).Admits (.int 1) := by
  refine ⟨rfl, rfl, by decide +kernel, ?_, ?_⟩
  · rw [Schema.admits_literal]
    decide +kernel
  · rw [Schema.admits_literal]
    decide +kernel

end Shorthand

end ShapeMatch

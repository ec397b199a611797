import ShapeMatch.Proofs.ShorthandMeaning

/-!
Plain schemas: those without models, predicates and custom schemas, whose literals are scalars.
They keep a value or reject it, unless there are no words for what is wrong with it, and that does
not happen where everything can be written (`not_mute_of_writable`).
-/

namespace ShapeMatch

/-- A verdict that decides a question decides what it is itself. -/
theorem Verdict.Decides.itself {M U : Prop} {d : Verdict} (h : d.Decides M U) :
    d.Decides (d = .kept) (d = .raised .unwritable) := by
  cases h with
  | kept m u => exact .kept rfl nofun
  | rejected f m u => exact .rejected f nofun nofun
  | wordless m u => exact .wordless nofun rfl

namespace Schema

variable [RegexEngine]

/-- What is asked of every schema inside a plain one. -/
def Plain : Schema → Prop
  | .literal v => ∃ c : Scalar, v = c.value
  | .model _ | .refined .. | .custom _ | .misplaced _ => False
  | _ => True

def Keeps (s : Schema) (v : Value) : Prop := s.validate v = .kept

/-- The schema has no words for what is wrong with the value. -/
def Mute (s : Schema) (v : Value) : Prop := s.validate v = .raised .unwritable

/-- The kinds of schemas that look at a value only and always have words. -/
def isWorded : Schema → Bool
  | .unknown | .undefined | .null | .string | .number | .integer | .boolean | .regex _ => true
  | _ => false

theorem worded_decides {s : Schema} (hs : s.isWorded) (v : Value) :
    (s.validate v).Decides (s.Keeps v) False := by
  have hworded : ∀ {M : Prop}, (s.validate v).Decides M False →
      (s.validate v).Decides (s.Keeps v) False := by
    intro M h
    have hmute : ¬ s.validate v = .raised .unwritable := fun hm => h.wordless_iff.mp hm
    simpa [Keeps, hmute] using h.itself
  cases s with
  | unknown => exact .kept rfl not_false
  | undefined =>
    exact hworded (Verdict.Decides.of_worded (M := v = .undefined) (by cases v <;> simp))
  | null => exact hworded (Verdict.Decides.of_worded (M := v = .null) (by cases v <;> simp))
  | string => exact hworded (Shorthand.marker_decides .string v)
  | number => exact hworded (Shorthand.marker_decides .number v)
  | integer => exact hworded (Shorthand.marker_decides .integer v)
  | boolean => exact hworded (Shorthand.marker_decides .boolean v)
  | regex p => exact hworded (regex_decides p v)
  | _ => simp [isWorded] at hs

theorem decides_items {ss : List Schema}
    (h : ∀ s ∈ ss, ∀ v, (s.validate v).Decides (s.Keeps v) (s.Mute v)) (v : Value) :
    ((Schema.tuple ss).validate v).Decides
      (∃ form vs, v = .sequence form vs ∧ vs.length = ss.length ∧ ∀ p ∈ ss.zip vs, p.1.Keeps p.2)
      (∃ form vs, v = .sequence form vs ∧ vs.length = ss.length ∧
        FirstFails (fun p => p.1.Keeps p.2) (fun p => p.1.Mute p.2) (ss.zip vs)) := by
  have hself : List.Forall₂
      (fun d s => ∀ v, (s.validate v).Decides (Keeps d v) (Mute d v)) ss ss := by
    rw [List.forall₂_same]
    exact h
  exact tuple_decides hself v

theorem decides_fields {fs : List (Value × Schema)}
    (h : ∀ f ∈ fs, ∀ v, (f.2.validate v).Decides (f.2.Keeps v) (f.2.Mute v)) (v : Value) :
    ((Schema.object fs).validate v).Decides
      (∃ (form : MappingForm) (es : Entries Value), v = .mapping form es ∧
        ∀ f ∈ fs, f.2.Keeps (es.valueOf f.1))
      (∃ (form : MappingForm) (es : Entries Value), v = .mapping form es ∧
        FirstFails (fun f => f.2.Keeps (es.valueOf f.1)) (fun f => f.2.Mute (es.valueOf f.1))
          fs) := by
  have hself : List.Forall₂
      (fun d f => f.1 = d.1 ∧ ∀ v, (f.2.validate v).Decides (Keeps d.2 v) (Mute d.2 v)) fs fs := by
    rw [List.forall₂_same]
    exact fun f hf => ⟨rfl, h f hf⟩
  exact object_decides (M := Keeps) (U := Mute) hself v

theorem decides_of_plain {s : Schema} (h : s.Everywhere Plain) (v : Value) :
    (s.validate v).Decides (s.Keeps v) (s.Mute v) := by
  induction s generalizing v with
  | literal u =>
    obtain ⟨c, rfl⟩ := h
    exact (Shorthand.scalar_decides c v).itself
  | array s ih => exact (array_decides (ih h.2) v).itself
  | tuple ss ih =>
    obtain ⟨_, hparts⟩ := (everywhere_tuple _ ss).mp h
    exact (decides_items (fun s hs => ih s hs (hparts s hs)) v).itself
  | object fs ih =>
    obtain ⟨_, hparts⟩ := (everywhere_object _ fs).mp h
    exact (decides_fields (fun f hf => ih f hf (hparts f hf)) v).itself
  | model m => exact h.elim
  | refined s p ih => exact h.1.elim
  | custom c => exact h.elim
  | misplaced u => exact h.elim
  | _ => exact (worded_decides rfl v).itself

theorem allWritable_iff (ss : List Schema) : allWritable ss = true ↔ ∀ s ∈ ss, s.isWritable := by
  induction ss with
  | nil => simp [allWritable]
  | cons s rest ih => simp [allWritable, ih]

theorem fieldsWritable_iff (fs : List (Value × Schema)) :
    fieldsWritable fs = true ↔ ∀ f ∈ fs, f.1.isWritable ∧ f.2.isWritable := by
  induction fs with
  | nil => simp [fieldsWritable]
  | cons f rest ih => simp [fieldsWritable, ih]

/-- Where everything can be written, there are words for everything. -/
theorem not_mute_of_writable {s : Schema} (h : s.Everywhere Plain) (hs : s.isWritable) {v : Value}
    (hv : v.isWritable) : ¬ s.Mute v := by
  induction s generalizing v with
  | literal u =>
    obtain ⟨c, rfl⟩ := h
    intro hmute
    exact ((Shorthand.scalar_decides c v).wordless_iff.mp hmute).2 ⟨hs, hv⟩
  | array s ih =>
    intro hmute
    obtain ⟨form, vs, rfl, hfirst⟩ := (array_decides (decides_of_plain h.2) v).wordless_iff.mp hmute
    obtain ⟨u, hu, hbad⟩ := exists_bad_of_firstFails hfirst
    exact ih h.2 hs (Value.isWritable_of_mem_sequence hv hu) hbad
  | tuple ss ih =>
    obtain ⟨_, hparts⟩ := (everywhere_tuple _ ss).mp h
    intro hmute
    obtain ⟨form, vs, rfl, _, hfirst⟩ :=
      (decides_items (fun s hs => decides_of_plain (hparts s hs)) v).wordless_iff.mp hmute
    obtain ⟨⟨t, u⟩, hmem, hbad⟩ := exists_bad_of_firstFails hfirst
    obtain ⟨ht, hu⟩ := List.of_mem_zip hmem
    have hshort := (allWritable_iff ss).mp hs t ht
    exact ih t ht (hparts t ht) hshort (Value.isWritable_of_mem_sequence hv hu) hbad
  | object fs ih =>
    obtain ⟨_, hparts⟩ := (everywhere_object _ fs).mp h
    intro hmute
    obtain ⟨form, es, rfl, hfirst⟩ :=
      (decides_fields (fun f hf => decides_of_plain (hparts f hf)) v).wordless_iff.mp hmute
    obtain ⟨f, hf, hbad⟩ := exists_bad_of_firstFails hfirst
    have hshort := (fieldsWritable_iff fs).mp hs f hf
    exact ih f hf (hparts f hf) hshort.2 (Value.isWritable_valueOf hv f.1) hbad
  | model m => exact h.elim
  | refined s p ih => exact h.1.elim
  | custom c => exact h.elim
  | misplaced u => exact h.elim
  | _ =>
    intro hmute
    exact (worded_decides rfl v).wordless_iff.mp hmute

end Schema

end ShapeMatch

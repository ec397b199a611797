import ShapeMatch.Proofs.Entries

/-!
Nesting. Schemas hold schemas in lists and in fields, and values hold values in the same way,
so both get an induction with one hypothesis for each member (`Schema.ind`) and a way to say
that something is true at every depth (`Schema.Everywhere`, `Value.Distinct`).
-/

namespace ShapeMatch

/-! ## Schemas -/

namespace Schema

variable [RegexEngine]

/-- Induction over schemas. -/
@[elab_as_elim, induction_eliminator]
theorem ind {motive : Schema → Prop} (unknown : motive .unknown) (undefined : motive .undefined)
    (null : motive .null) (string : motive .string) (number : motive .number)
    (integer : motive .integer) (boolean : motive .boolean)
    (literal : ∀ v, motive (.literal v)) (regex : ∀ p, motive (.regex p))
    (array : ∀ s, motive s → motive (.array s))
    (tuple : ∀ ss, (∀ s ∈ ss, motive s) → motive (.tuple ss))
    (object : ∀ fs, (∀ f ∈ fs, motive f.2) → motive (.object fs))
    (model : ∀ m, motive (.model m)) (refined : ∀ s p, motive s → motive (.refined s p))
    (custom : ∀ c, motive (.custom c)) (misplaced : ∀ v, motive (.misplaced v)) :
    ∀ s, motive s := by
  intro s
  refine @Schema.rec _ motive (fun ss => ∀ t ∈ ss, motive t) (fun fs => ∀ f ∈ fs, motive f.2)
    (fun f => motive f.2)
    unknown undefined null string number integer boolean literal regex array tuple object model
    refined custom misplaced ?_ ?_ ?_ ?_ ?_ s
  · intro t ht
    simp at ht
  · intro head tail hhead htail t ht
    rcases List.mem_cons.mp ht with rfl | hmem
    · exact hhead
    · exact htail t hmem
  · intro f hf
    simp at hf
  · intro head tail hhead htail f hf
    rcases List.mem_cons.mp hf with rfl | hmem
    · exact hhead
    · exact htail f hmem
  · intro _ t ht
    exact ht

mutual

/-- A property holds of a schema and of every schema inside it. -/
def Everywhere (P : Schema → Prop) : Schema → Prop
  | .array s => P (.array s) ∧ s.Everywhere P
  | .tuple ss => P (.tuple ss) ∧ EverywhereItems P ss
  | .object fs => P (.object fs) ∧ EverywhereFields P fs
  | .refined s p => P (.refined s p) ∧ s.Everywhere P
  | s => P s

def EverywhereItems (P : Schema → Prop) : List Schema → Prop
  | [] => True
  | s :: rest => s.Everywhere P ∧ EverywhereItems P rest

def EverywhereFields (P : Schema → Prop) : List (Value × Schema) → Prop
  | [] => True
  | (_, s) :: rest => s.Everywhere P ∧ EverywhereFields P rest

end

theorem everywhereItems_iff (P : Schema → Prop) (ss : List Schema) :
    EverywhereItems P ss ↔ ∀ s ∈ ss, s.Everywhere P := by
  induction ss with
  | nil => exact iff_of_true trivial (by simp)
  | cons s rest ih =>
    rw [List.forall_mem_cons, ← ih]
    exact Iff.rfl

theorem everywhereFields_iff (P : Schema → Prop) (fs : List (Value × Schema)) :
    EverywhereFields P fs ↔ ∀ f ∈ fs, f.2.Everywhere P := by
  induction fs with
  | nil => exact iff_of_true trivial (by simp)
  | cons f rest ih =>
    rw [List.forall_mem_cons, ← ih]
    exact Iff.rfl

theorem everywhere_tuple (P : Schema → Prop) (ss : List Schema) :
    (Schema.tuple ss).Everywhere P ↔ P (.tuple ss) ∧ ∀ s ∈ ss, s.Everywhere P := by
  rw [← everywhereItems_iff]
  exact Iff.rfl

theorem everywhere_object (P : Schema → Prop) (fs : List (Value × Schema)) :
    (Schema.object fs).Everywhere P ↔ P (.object fs) ∧ ∀ f ∈ fs, f.2.Everywhere P := by
  rw [← everywhereFields_iff]
  exact Iff.rfl

theorem Everywhere.imp {P Q : Schema → Prop} (hPQ : ∀ s, P s → Q s) {s : Schema}
    (h : s.Everywhere P) : s.Everywhere Q := by
  induction s with
  | array s ih => exact ⟨hPQ _ h.1, ih h.2⟩
  | tuple ss ih =>
    rw [everywhere_tuple] at h ⊢
    exact ⟨hPQ _ h.1, fun s hs => ih s hs (h.2 s hs)⟩
  | object fs ih =>
    rw [everywhere_object] at h ⊢
    exact ⟨hPQ _ h.1, fun f hf => ih f hf (h.2 f hf)⟩
  | refined s p ih => exact ⟨hPQ _ h.1, ih h.2⟩
  | _ => exact hPQ _ h

/-- The fields of a schema have distinct keys, each of which can be found again. -/
def KeysDistinct : Schema → Prop
  | .object fs => Entries.Distinct fs ∧ ∀ f ∈ fs, f.1.sameKey f.1
  | _ => True

end Schema

/-! ## Values -/

namespace Value

mutual

/-- No mapping in a value, as deep as schemas look, has two keys that are the same. -/
def Distinct : Value → Prop
  | .sequence _ items => AllDistinct items
  | .mapping _ es => Entries.Distinct es ∧ EntriesDistinct es
  | _ => True

def AllDistinct : List Value → Prop
  | [] => True
  | v :: rest => v.Distinct ∧ AllDistinct rest

def EntriesDistinct : List (Value × Value) → Prop
  | [] => True
  | (_, v) :: rest => v.Distinct ∧ EntriesDistinct rest

end

theorem allDistinct_iff (vs : List Value) : AllDistinct vs ↔ ∀ v ∈ vs, v.Distinct := by
  induction vs with
  | nil => exact iff_of_true trivial (by simp)
  | cons v rest ih =>
    rw [List.forall_mem_cons, ← ih]
    exact Iff.rfl

theorem entriesDistinct_iff (es : List (Value × Value)) :
    EntriesDistinct es ↔ ∀ e ∈ es, e.2.Distinct := by
  induction es with
  | nil => exact iff_of_true trivial (by simp)
  | cons e rest ih =>
    rw [List.forall_mem_cons, ← ih]
    exact Iff.rfl

theorem distinct_sequence (form : SequenceForm) (vs : List Value) :
    (Value.sequence form vs).Distinct ↔ ∀ v ∈ vs, v.Distinct := by
  rw [← allDistinct_iff]
  exact Iff.rfl

theorem distinct_mapping (form : MappingForm) (es : Entries Value) :
    (Value.mapping form es).Distinct ↔ Entries.Distinct es ∧ ∀ e ∈ es, e.2.Distinct := by
  rw [← entriesDistinct_iff]
  exact Iff.rfl

theorem distinct_valueOf {es : Entries Value} (h : ∀ e ∈ es, e.2.Distinct) (k : Value) :
    (es.valueOf k).Distinct := by
  rcases Entries.valueOf_cases k es with hnone | ⟨e, he, heq⟩
  · rw [hnone]
    trivial
  · rw [← heq]
    exact h e he

end Value

end ShapeMatch

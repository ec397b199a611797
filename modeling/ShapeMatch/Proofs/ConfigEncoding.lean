import ShapeMatch.Proofs.ConfigViolations
import ShapeMatch.Proofs.Plain
import ShapeMatch.Regex.Engine

/-!
Schemas as configurations. The schemas that a configuration can describe are those without
models, predicates and custom schemas in them, and each of them is what its encoding is read as
(`read_encode`).
-/

namespace ShapeMatch

/-- What a configuration can say of a schema by itself, apart from its parts. -/
def Schema.Configurable [RegexEngine] : Schema → Prop
  | .literal v => ∃ c : Scalar, v = c.value
  | .regex p => p.source.length ≤ maxPatternLength
  | .tuple ss => ss ≠ []
  | .model _ | .refined .. | .custom _ | .misplaced _ => False
  | _ => True

theorem Schema.Configurable.plain [RegexEngine] {s : Schema} (h : s.Configurable) : s.Plain := by
  cases s with
  | regex p => trivial
  | tuple ss => trivial
  | _ => exact h

namespace Config

section

variable [RegexEngine]

/-- The dictionary of a type with its parts. -/
def typed (kind : String) (parts : Entries Value) : Value :=
  .dict ((.text "type", .text kind) :: parts)

mutual

/-- The configuration of a schema. There is none for models, predicates and custom schemas. -/
def encode : Schema → Value
  | .unknown => typed "unknown" []
  | .undefined => typed "undefined" []
  | .null => typed "null" []
  | .string => typed "string" []
  | .number => typed "number" []
  | .integer => typed "integer" []
  | .boolean => typed "boolean" []
  | .literal v => typed "literal" [(.text "value", v)]
  | .regex p => typed "regex" [(.text "pattern", .text p.source)]
  | .array s => typed "array" [(.text "items", encode s)]
  | .tuple ss => typed "tuple" [(.text "items", .list (encodeAll ss))]
  | .object fs => typed "object" [(.text "fields", .dict (encodeFields fs))]
  | .model _ | .refined .. | .custom _ | .misplaced _ => .undefined

def encodeAll : List Schema → List Value
  | [] => []
  | s :: rest => encode s :: encodeAll rest

def encodeFields : List (Value × Schema) → Entries Value
  | [] => []
  | (k, s) :: rest => (k, encode s) :: encodeFields rest

end

theorem encodeAll_eq_map (ss : List Schema) : encodeAll ss = ss.map encode := by
  induction ss with
  | nil => rfl
  | cons s rest ih => rw [encodeAll, List.map_cons, ih]

theorem encodeFields_eq_map (fs : List (Value × Schema)) :
    encodeFields fs = fs.map fun f => (f.1, encode f.2) := by
  induction fs with
  | nil => rfl
  | cons f rest ih => rw [encodeFields, List.map_cons, ih]

/-! ## What is encoded is described -/

theorem describes_typed_literal (c : Scalar) :
    Describes (typed "literal" [(.text "value", c.value)]) (.literal c.value) := by
  rw [← scalarSchema_value c]
  exact .literal _ c.value rfl rfl (isScalar_value c)

theorem describes_typed_tuple {ss : List Schema} (hne : ss ≠ [])
    (h : ∀ s ∈ ss, Describes (encode s) s) :
    Describes (typed "tuple" [(.text "items", .list (encodeAll ss))]) (.tuple ss) := by
  refine describes_tuple rfl rfl (by simpa [encodeAll_eq_map] using hne) ?_
  rw [encodeAll_eq_map, List.forall₂_map_left_iff, List.forall₂_same]
  exact h

theorem describes_typed_object {fs : List (Value × Schema)}
    (h : ∀ f ∈ fs, Describes (encode f.2) f.2) :
    Describes (typed "object" [(.text "fields", .dict (encodeFields fs))]) (.object fs) := by
  refine describes_object rfl rfl ?_
  rw [encodeFields_eq_map, List.forall₂_map_left_iff, List.forall₂_same]
  exact fun f hf => ⟨rfl, h f hf⟩

theorem describes_encode (s : Schema) (h : s.Everywhere Schema.Configurable) :
    Describes (encode s) s := by
  induction s with
  | unknown => exact .simple _ "unknown" _ rfl (by simp [simpleTypes])
  | undefined => exact .simple _ "undefined" _ rfl (by simp [simpleTypes])
  | null => exact .simple _ "null" _ rfl (by simp [simpleTypes])
  | string => exact .simple _ "string" _ rfl (by simp [simpleTypes])
  | number => exact .simple _ "number" _ rfl (by simp [simpleTypes])
  | integer => exact .simple _ "integer" _ rfl (by simp [simpleTypes])
  | boolean => exact .simple _ "boolean" _ rfl (by simp [simpleTypes])
  | literal v =>
    obtain ⟨c, rfl⟩ := h
    exact describes_typed_literal c
  | regex p => exact .regex _ p rfl rfl h
  | array s ih => exact .array _ _ s rfl rfl (ih h.2)
  | tuple ss ih =>
    obtain ⟨hne, hparts⟩ := (Schema.everywhere_tuple _ ss).mp h
    exact describes_typed_tuple hne fun s hs => ih s hs (hparts s hs)
  | object fs ih =>
    obtain ⟨_, hparts⟩ := (Schema.everywhere_object _ fs).mp h
    exact describes_typed_object fun f hf => ih f hf (hparts f hf)
  | model m => exact h.elim
  | refined s p ih => exact h.1.elim
  | custom c => exact h.elim
  | misplaced v => exact h.elim

/-! ## What is described is configurable -/

theorem configurable_scalarSchema {v : Value} (h : v.isScalar) :
    (scalarSchema v).Everywhere Schema.Configurable := by
  rcases eq_null_or_value h with rfl | ⟨c, rfl⟩
  · trivial
  · rw [scalarSchema_value]
    exact ⟨c, rfl⟩

theorem configurable_simple {name : String} {s : Schema} (h : (name, s) ∈ simpleTypes) :
    s.Everywhere Schema.Configurable := by
  rcases mem_simpleTypes_iff.mp h with ⟨_, rfl⟩ | ⟨_, rfl⟩ | ⟨_, rfl⟩ | ⟨_, rfl⟩ | ⟨_, rfl⟩ |
    ⟨_, rfl⟩ | ⟨_, rfl⟩ <;> trivial

theorem Describes.configurable {v : Value} {s : Schema} (h : Describes v s) :
    s.Everywhere Schema.Configurable := by
  induction h with
  | scalar v h => exact configurable_scalarSchema h
  | simple es name s htype h => exact configurable_simple h
  | literal es v htype hvalue h => exact configurable_scalarSchema h
  | regex es p htype hpattern hlength => exact hlength
  | anyArray es htype hitems => exact ⟨trivial, trivial⟩
  | array es v s htype hitems _ ih => exact ⟨trivial, ih⟩
  | tuple es vs ss htype hitems hne hlength _ ih =>
    refine (Schema.everywhere_tuple _ ss).mpr ⟨?_, ?_⟩
    · rintro rfl
      exact hne (List.length_eq_zero_iff.mp hlength)
    · intro s hs
      obtain ⟨v, hm⟩ := exists_mem_zip hlength hs
      exact ih _ hm
  | anyObject es htype hfields => exact ⟨trivial, trivial⟩
  | object es fs gs htype hfields hlength hkeys _ ih =>
    refine (Schema.everywhere_object _ gs).mpr ⟨trivial, ?_⟩
    intro g hg
    obtain ⟨f, hm⟩ := exists_mem_zip hlength hg
    exact ih _ hm

/-- A schema that can be configured is what its encoding is read and compiled as, and whatever is
read is compiled to such a schema. -/
theorem read_encode :
    (∀ s : Schema, s.Everywhere Schema.Configurable →
        ∃ sh, readShorthand (encode s) = .ok sh ∧ sh.compile = .ok s) ∧
      ∀ v sh, readShorthand v = .ok sh →
        ∃ s, sh.compile = .ok s ∧ s.Everywhere Schema.Configurable := by
  refine ⟨fun s h => (describes_encode s h).yields, ?_⟩
  intro v sh h
  obtain ⟨s, hs, hcompile⟩ := exists_describes_of_read h
  exact ⟨s, hcompile, hs.configurable⟩

end

/-- An object of arrays of pairs, whose parts are a text that names a type and a tuple of one
array. -/
theorem read_encode_nested :
    let s : Schema := .object [(.text "x", .array (.tuple [.literal (.text "array"),
      .tuple [.array .unknown]])), (.null, .undefined)]
    ∃ sh, readShorthand (encode s) = .ok sh ∧ sh.compile = .ok s := by
  intro s
  apply read_encode.1
  simp only [s, Schema.Everywhere, Schema.EverywhereFields, Schema.EverywhereItems,
    Schema.Configurable]
  exact ⟨trivial, ⟨trivial, by simp, ⟨.text "array", rfl⟩, ⟨by simp, ⟨trivial, trivial⟩, trivial⟩,
    trivial⟩, trivial, trivial⟩

end Config

end ShapeMatch

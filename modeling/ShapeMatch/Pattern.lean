/-! Patterns: texts that a search engine has accepted. The engine is not part of the library, which
is handed one: all it asks of it is to make a pattern ready, and to search with it. -/
namespace ShapeMatch

/-- A search engine for patterns. -/
class RegexEngine where
  /-- a pattern made ready for searching -/
  Program : Type
  /-- The program of a pattern text, or the bytes in which the engine says what is wrong with it. -/
  prepare (source : String) : Except (List UInt8) Program
  /-- Whether the pattern of a program matches somewhere in a text. -/
  search (program : Program) (text : String) : Bool

variable [RegexEngine]

/-- A text that the engine accepts as a pattern, with its program. -/
structure Pattern where
  source : String
  program : RegexEngine.Program
  prepared : RegexEngine.prepare source = .ok program

namespace Pattern

/-- The pattern of a text, if it is one. -/
def ofSource (source : String) : Except (List UInt8) Pattern :=
  match h : RegexEngine.prepare source with
  | .ok program => .ok ⟨source, program, h⟩
  | .error complaint => .error complaint

/-- Whether the pattern matches somewhere in a text. -/
def occursIn (p : Pattern) (text : String) : Bool := RegexEngine.search p.program text

/-- A pattern is its text: the program adds nothing to it. -/
theorem eq_of_source_eq {p q : Pattern} (h : p.source = q.source) : p = q := by
  obtain ⟨s, r, hr⟩ := p
  obtain ⟨t, u, hu⟩ := q
  subst h
  rw [hr] at hu
  cases hu
  rfl

theorem ofSource_source (p : Pattern) : ofSource p.source = .ok p := by
  unfold ofSource
  split
  · exact congrArg Except.ok (eq_of_source_eq rfl)
  · next e h => exact absurd (p.prepared.symm.trans h) (by simp)

theorem source_of_ofSource {s : String} {p : Pattern} (h : ofSource s = .ok p) : p.source = s := by
  unfold ofSource at h
  split at h
  · cases h; rfl
  · cases h

end Pattern

end ShapeMatch

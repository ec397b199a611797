import ShapeMatch.Function
import ShapeMatch.Verdict

/-! Schemas of other makers: whatever can validate may stand in a case. -/
namespace ShapeMatch

/-- A custom schema with its name. Nothing is known of its check, which may also raise, or
answer with something that is no verdict. -/
structure Custom where
  name : String
  check : Value → Verdict

namespace Custom

/-- Whole numbers and truth values that two divides. -/
def even : Custom := ⟨"Even", fun v => .keepIf (Function.evenNumber v) (.stated "odd")⟩

/-- Texts, with the letters from a to z made capital. -/
def upper : Custom := ⟨"Upper", fun
  | .text s =>
    let capital := s.map Char.toUpper
    if capital = s then .kept else .changed (.text capital)
  | _ => .reject (.stated "not text")⟩

/-- Accepts everything and hands back the absence of a value. -/
def drop : Custom := ⟨"Drop", fun
  | .undefined => .kept
  | _ => .changed .undefined⟩

/-- Accepts everything, and hands back zero for the absence of a value. -/
def fill : Custom := ⟨"Fill", fun
  | .undefined => .changed (.int 0)
  | _ => .kept⟩

/-- Rejects everything, and points below it. -/
def deep : Custom := ⟨"Deep", fun _ => .rejected ⟨.stated "deep", [.text "x", .int 0]⟩⟩

/-- Answers with the value instead of a verdict. -/
def broken : Custom := ⟨"Broken", .astray⟩

end Custom

end ShapeMatch

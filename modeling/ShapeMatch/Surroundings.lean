import ShapeMatch.Matcher.Dispatch
import ShapeMatch.Regex.Engine

/-! What a program runs in if it brings nothing else: the search engine of this library, and
handlers that let through what goes wrong with an entry, as tests have them. -/
namespace ShapeMatch

instance (priority := low) Logging.strict : Logging := ⟨true⟩

end ShapeMatch

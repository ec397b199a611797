import ShapeMatch.Pattern
import ShapeMatch.Regex.Parser
import ShapeMatch.Regex.Search

/-! The expressions of this library as a search engine. -/
namespace ShapeMatch

instance Regex.engine : RegexEngine where
  Program := Regex
  prepare source := (Regex.parse source).mapError fun e => e.message.toUTF8.toList
  search regex text := regex.occursIn text.toList

end ShapeMatch

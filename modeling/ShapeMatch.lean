import ShapeMatch.Config.Basic
import ShapeMatch.Matcher.Session
import ShapeMatch.Proofs.Entries
import ShapeMatch.Proofs.Fallible
import ShapeMatch.Proofs.Nesting
import ShapeMatch.Proofs.Acceptance
import ShapeMatch.Proofs.Scalars
import ShapeMatch.Proofs.Deciding
import ShapeMatch.Proofs.ShorthandMeaning
import ShapeMatch.Proofs.Plain
import ShapeMatch.Proofs.Paths
import ShapeMatch.Proofs.SameShape
import ShapeMatch.Proofs.FirstMatch
import ShapeMatch.Proofs.Idempotence
import ShapeMatch.Proofs.Subsumption
import ShapeMatch.Proofs.ConfigGrammar
import ShapeMatch.Proofs.ConfigViolations
import ShapeMatch.Proofs.ConfigEncoding
import ShapeMatch.Proofs.ConfigMeaning
import ShapeMatch.Proofs.ConfigLoading
import ShapeMatch.Proofs.Families
import ShapeMatch.Proofs.SchemaEquality
import ShapeMatch.Proofs.Building
import ShapeMatch.Proofs.Unreachable
import ShapeMatch.Proofs.Lineage
import ShapeMatch.Proofs.Histories
import ShapeMatch.Proofs.Culprits
import ShapeMatch.Proofs.Checks
import ShapeMatch.Proofs.HandedBack
import ShapeMatch.Proofs.Narrowing
import ShapeMatch.Proofs.Spellings
import ShapeMatch.Proofs.Flaws
import ShapeMatch.Proofs.FieldOrder
import ShapeMatch.Proofs.FixedLength
import ShapeMatch.Proofs.Refinements
import ShapeMatch.Proofs.LiteralClasses
import ShapeMatch.Proofs.ExpressionSources

import TreePredicate.Assertion
import TreePredicate.Assertion.Verdict
import TreePredicate.Cache.Store
import TreePredicate.Draft
import TreePredicate.Generation
import TreePredicate.Notation.Canonical
import TreePredicate.Notation.Grammar
import TreePredicate.Notation.Lexeme
import TreePredicate.Notation.Print
import TreePredicate.Pattern
import TreePredicate.Predicate.Evaluate
import TreePredicate.Predicate.Holds
import TreePredicate.Proofs.Assertion
import TreePredicate.Proofs.Assignment.Guarded
import TreePredicate.Proofs.Assignment.Largest
import TreePredicate.Proofs.Assignment.Matching
import TreePredicate.Proofs.Assignment.Optimal
import TreePredicate.Proofs.Assignment.Pairing
import TreePredicate.Proofs.Cache
import TreePredicate.Proofs.Draft.Ambiguity
import TreePredicate.Proofs.Draft.Conflict
import TreePredicate.Proofs.Draft.Entries
import TreePredicate.Proofs.Draft.Fits
import TreePredicate.Proofs.Draft.Meaning
import TreePredicate.Proofs.Draft.Merge
import TreePredicate.Proofs.Draft.Nested
import TreePredicate.Proofs.Draft.Rearranged
import TreePredicate.Proofs.Draft.Rebuild
import TreePredicate.Proofs.Draft.Stop
import TreePredicate.Proofs.Draft.View
import TreePredicate.Proofs.Generation.Bounded
import TreePredicate.Proofs.Generation.Breakdown
import TreePredicate.Proofs.Generation.Complete
import TreePredicate.Proofs.Generation.Distance
import TreePredicate.Proofs.Generation.Exhausted
import TreePredicate.Proofs.Generation.Filled
import TreePredicate.Proofs.Generation.Inverted
import TreePredicate.Proofs.Generation.Mirrored
import TreePredicate.Proofs.Generation.Missed
import TreePredicate.Proofs.Generation.Patternless
import TreePredicate.Proofs.Generation.Rearranged
import TreePredicate.Proofs.Generation.Refused
import TreePredicate.Proofs.Generation.Search
import TreePredicate.Proofs.Generation.Settle
import TreePredicate.Proofs.Generation.Slots
import TreePredicate.Proofs.Generation.Sound
import TreePredicate.Proofs.Generation.Stretch
import TreePredicate.Proofs.Generation.Symmetric
import TreePredicate.Proofs.Interval
import TreePredicate.Proofs.Interval.Held
import TreePredicate.Proofs.Node.Equal
import TreePredicate.Proofs.Node.Same
import TreePredicate.Proofs.Node.Within
import TreePredicate.Proofs.Notation.Acceptance
import TreePredicate.Proofs.Notation.Derivation
import TreePredicate.Proofs.Notation.ErrorPlace
import TreePredicate.Proofs.Notation.Extent
import TreePredicate.Proofs.Notation.Failing
import TreePredicate.Proofs.Notation.Lookahead
import TreePredicate.Proofs.Notation.Missing
import TreePredicate.Proofs.Notation.NumberText
import TreePredicate.Proofs.Notation.Numeral
import TreePredicate.Proofs.Notation.ParseError
import TreePredicate.Proofs.Notation.Parsed
import TreePredicate.Proofs.Notation.Parser
import TreePredicate.Proofs.Notation.PathSpelling
import TreePredicate.Proofs.Notation.Piece
import TreePredicate.Proofs.Notation.Print
import TreePredicate.Proofs.Notation.Production
import TreePredicate.Proofs.Notation.Reading
import TreePredicate.Proofs.Notation.RoundTrip
import TreePredicate.Proofs.Notation.Segmentation
import TreePredicate.Proofs.Notation.Spelling
import TreePredicate.Proofs.Notation.Unreadable
import TreePredicate.Proofs.Notation.Widening
import TreePredicate.Proofs.Number.Coercion
import TreePredicate.Proofs.Number.Decimal
import TreePredicate.Proofs.Number.Finite
import TreePredicate.Proofs.Number.Mirror
import TreePredicate.Proofs.Number.Nearest
import TreePredicate.Proofs.Number.NearestEven
import TreePredicate.Proofs.Number.Order
import TreePredicate.Proofs.Number.Range
import TreePredicate.Proofs.Number.Same
import TreePredicate.Proofs.Number.Step
import TreePredicate.Proofs.Path
import TreePredicate.Proofs.Predicate.Comparison
import TreePredicate.Proofs.Predicate.Congruence
import TreePredicate.Proofs.Predicate.Declared
import TreePredicate.Proofs.Predicate.Evaluate
import TreePredicate.Proofs.Predicate.Induction
import TreePredicate.Proofs.Predicate.Larger
import TreePredicate.Proofs.Predicate.Positional
import TreePredicate.Proofs.Predicate.Rearranged
import TreePredicate.Proofs.Predicate.Regular
import TreePredicate.Proofs.Predicate.Same
import TreePredicate.Proofs.Predicate.Total
import TreePredicate.Proofs.Table
import TreePredicate.Proofs.Table.Related
import TreePredicate.Proofs.Text.Classes
import TreePredicate.Proofs.Text.Quoted
import TreePredicate.Proofs.Value
import TreePredicate.Text.Blank
import TreePredicate.Text.Digit
import TreePredicate.Text.LetterCase
import TreePredicate.Text.Name
import TreePredicate.Text.Quoted
import TreePredicate.Text.Word
import TreePredicate.Value

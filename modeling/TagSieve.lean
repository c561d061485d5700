import TagSieve.Main
import TagSieve.Proofs.Canonical.RoundTrip
import TagSieve.Proofs.Evaluation.Meaning
import TagSieve.Proofs.Token.Truncation
import TagSieve.Proofs.Token.Layout
import TagSieve.Proofs.Grammar.Composition
import TagSieve.Proofs.Grammar.Viable
import TagSieve.Proofs.Grammar.FirstFault
import TagSieve.Proofs.Grammar.Located
import TagSieve.Proofs.Grammar.Slices
import TagSieve.Proofs.Token.Overrun
import TagSieve.Proofs.Grammar.ErrorSpans
import TagSieve.Proofs.Evaluation.Lookups
import TagSieve.Proofs.Record.RoundTrip
import TagSieve.Proofs.Command.Pipeline
import TagSieve.Proofs.Command.Precedence
import TagSieve.Proofs.Evaluation.Mirror
import TagSieve.Proofs.Evaluation.Selectors
import TagSieve.Proofs.Token.Delimited
import TagSieve.Proofs.Evaluation.NumberLiteral
import TagSieve.Proofs.Grammar.Spacing
import TagSieve.Proofs.Grammar.Misuse
import TagSieve.Proofs.Canonical.Parentheses
import TagSieve.Proofs.Record.TagForms
import TagSieve.Proofs.Evaluation.KeyCase
import TagSieve.Proofs.Grammar.Rendering
import TagSieve.Proofs.Regex.LineFlag

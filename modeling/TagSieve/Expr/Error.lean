import TagSieve.Expr
import TagSieve.Token
import TagSieve.Token.Error

/-!
What can be wrong with a filter.
-/

namespace TagSieve

/-- What a filter may go on with. -/
inductive Expected where
  | start
  | condition
  | operator
  | value
  | continuation
deriving DecidableEq

def Expected.text : Expected → String
  | start => "start of filter"
  | condition => "'!', '(' or a value"
  | operator => "a comparison or match operator"
  | value => "a value"
  | continuation => "'&&', '||' or end of filter"

/-- The rules that a comparison of two values can break. -/
inductive Misuse where
  /-- A match needs a regular expression on exactly one side. -/
  | regexOperands
  /-- Only a match takes a regular expression. -/
  | regexWithoutMatch
  /-- One side has to change from record to record. -/
  | constantComparison
  /-- `undef` stands opposite a tag key, and not in a match. -/
  | misplacedUndef
deriving DecidableEq

inductive ParseError where
  | lex (e : LexError)
  | unexpected (expected : Expected) (found : Symbol) (span : Span)
  | notWithoutGroup (found : Symbol) (span : Span)
  | unclosedGroup (found : Symbol) (span : Span)
  | misuse (m : Misuse) (op : Operator) (left right : Value) (span : Span)
deriving DecidableEq

/-- What is wrong with a comparison. -/
def Misuse.message (op : Operator) (left right : Value) (m : Misuse) : String :=
  let text := "\x60" ++ String.ofList (Expr.comparisonChars op left right) ++ "\x60"
  match m with
  | regexOperands =>
    "expected <regex " ++ op.text ++ " value> or <value " ++ op.text ++ " regex>, got " ++ text
  | regexWithoutMatch =>
    "unexpected regex with '" ++ op.text ++ "' (not a match operator): " ++ text
  | constantComparison => "constant comparison: " ++ text
  | misplacedUndef => "'undef' can only be compared against a tag key: " ++ text

namespace ParseError

def span : ParseError → Span
  | lex e => e.span
  | unexpected _ _ s | notWithoutGroup _ s | unclosedGroup _ s | misuse _ _ _ _ s => s

def message (wording : RegexWording) : ParseError → String
  | lex e => e.message wording
  | unexpected expected found _ => "expected " ++ expected.text ++ ", got " ++ found.describe
  | notWithoutGroup found _ =>
    "'!' must be followed by a parenthesized condition, got " ++ found.describe
  | unclosedGroup found _ => "expected ')' to close '(', got " ++ found.describe
  | misuse m op left right _ => m.message op left right

/-- The message above the source with the offending part underlined. -/
def render (wording : RegexWording) (source : String) : ParseError → String
  | lex e => e.render wording source
  | e => "parser error: " ++ e.message wording ++ "\n" ++ e.span.underline source

end ParseError

end TagSieve

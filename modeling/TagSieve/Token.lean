import TagSieve.Value

/-!
The tokens of a filter.
-/

namespace TagSieve

inductive Symbol where
  /-- Stands before the first real token. -/
  | start
  /-- The end of the filter. -/
  | finish
  | not
  | connective (c : Connective)
  | operator (op : Operator)
  | openParen
  | closeParen
  | value (v : Value)
deriving DecidableEq

namespace Symbol

/-- The symbol as filters write it. -/
def chars : Symbol → List Char
  | start | finish => []
  | not => ['!']
  | connective c => c.chars
  | operator op => op.chars
  | openParen => ['(']
  | closeParen => [')']
  | value v => v.chars

def text (s : Symbol) : String := String.ofList s.chars

/-- The name of the symbol in messages. Symbols with one spelling are quoted. -/
def describe : Symbol → String
  | start => "start of filter"
  | finish => "end of filter"
  | value (.integer _) => "integer"
  | value (.float _) => "float"
  | value (.string _) => "string"
  | value (.regex _) => "regex"
  | value (.tag _) => "tag key"
  | s => "'" ++ s.text ++ "'"

end Symbol

structure Token where
  symbol : Symbol
  span : Span
deriving DecidableEq

end TagSieve

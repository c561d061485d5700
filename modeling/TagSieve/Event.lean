import TagSieve.Evaluation
import TagSieve.Report

/-!
What the library does, as log lines.
-/

namespace TagSieve

inductive Level where
  | debug
  | trace
deriving DecidableEq

def Level.name : Level → String
  | debug => "DEBUG"
  | trace => "TRACE"

inductive Event where
  | lexed (t : Token)
  | parsed (source : String) (e : Expr)
  | evaluated (path : String) (step : EvalStep)
  | judged (path : String) (matched : Bool)
  | checking (filter : Expr) (count : Nat)
  | selected (count : Nat)

namespace Event

def level : Event → Level
  | lexed _ | evaluated _ _ | judged _ _ => .trace
  | parsed _ _ | checking _ _ | selected _ => .debug

/-- The part of the program that a line comes from. -/
def target : Event → String
  | lexed _ => "tagfilter::lexer"
  | parsed _ _ | judged _ _ => "tagfilter::filter"
  | evaluated _ _ => "tagfilter::evaluator"
  | checking _ _ | selected _ => "tagfilter::cli::check"

def boolText (b : Bool) : String := if b then "true" else "false"

/-- The line of an evaluation step; a lookup by itself has none. -/
def stepMessage? (path : String) : EvalStep → Option String
  | .lookup _ => none
  | .undefinedTag key => some (path ++ ": tag '" ++ key ++ "' is undefined")
  | .missingValue key n =>
    some (path ++ ": tag '" ++ key ++ "' has no value at index " ++ toString n.toNat)
  | .verdict op left right holds =>
    some (path ++ ": " ++ String.ofList (Expr.comparisonChars op left right) ++ " -> " ++
      boolText holds)

/-- The text of a line. The start of a filter and lookups leave none. -/
def message? : Event → Option String
  | lexed t =>
    if t.symbol = .start then none
    else some ("lexed " ++ String.ofList t.symbol.shown.compact ++ " at " ++ toString t.span)
  | parsed source e =>
    some ("parsed filter \x60" ++ source ++ "\x60 (" ++ toString e.span ++ ") as " ++ e.text)
  | evaluated path step => stepMessage? path step
  | judged path matched => some (path ++ if matched then ": match" else ": no match")
  | checking filter count =>
    some ("evaluating \x60" ++ filter.text ++ "\x60 against " ++ toString count ++ " records")
  | selected count => some (toString count ++ " records selected")

/-- The log lines of some events: level, target and text. -/
def lines (events : List Event) : List (Level × String × String) :=
  events.filterMap fun e => e.message?.map fun m => (e.level, e.target, m)

end Event

end TagSieve

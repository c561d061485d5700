/-!
The operators of the filter language: comparisons and matching between two values, and the
connectives between conditions.
-/

namespace TagSieve

inductive Operator where
  | equal
  | notEqual
  | less
  | lessEqual
  | greater
  | greaterEqual
  | matching
  | notMatching
deriving DecidableEq

namespace Operator

/-- Whether the operator asks for a regular expression on one side. -/
def isMatch : Operator → Bool
  | matching | notMatching => true
  | _ => false

/-- Whether a comparison holds for two values in this order. Values without an order, where a NaN
is involved, are merely not equal. -/
def holds (op : Operator) : Option Ordering → Bool
  | none => op == notEqual
  | some order =>
    match op with
    | equal => order == .eq
    | notEqual => order != .eq
    | less => order == .lt
    | lessEqual => order != .gt
    | greater => order == .gt
    | greaterEqual => order != .lt
    | matching | notMatching => false

def chars : Operator → List Char
  | equal => ['=', '=']
  | notEqual => ['!', '=']
  | less => ['<']
  | lessEqual => ['<', '=']
  | greater => ['>']
  | greaterEqual => ['>', '=']
  | matching => ['=', '~']
  | notMatching => ['!', '~']

def text (op : Operator) : String := String.ofList op.chars

end Operator

inductive Connective where
  | and
  | or
deriving DecidableEq

namespace Connective

def chars : Connective → List Char
  | and => ['&', '&']
  | or => ['|', '|']

end Connective

end TagSieve

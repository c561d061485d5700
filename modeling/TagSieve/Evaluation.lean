import TagSieve.Expr
import TagSieve.Number.Prefix
import TagSieve.Record
import TagSieve.Traced

/-!
Evaluating a filter on one record. The literal side of a comparison decides how the other side is
read: as an integer, as a float, or as text. A tag without a value makes a comparison false, except
against `undef`.
-/

namespace TagSieve

/-- What a filter sees of a record. -/
structure View where
  path : String
  backend : String
  /-- All values of a key, in order; none if the tag is undefined. -/
  lookup : String → List String

def Record.view (r : Record) : View := ⟨r.path, r.backend, r.lookup⟩

/-- What is done for a verdict. -/
inductive EvalStep where
  | lookup (key : String)
  | undefinedTag (key : String)
  | missingValue (key : String) (n : UInt64)
  | verdict (op : Operator) (left right : Value) (holds : Bool)

/-- One value of a comparison. -/
inductive Scalar where
  | text (s : String)
  | integer (n : Int64)
  | float (x : Binary64)

namespace Scalar

def toInteger : Scalar → Int64
  | text s => integerPrefix s.toList
  | integer n => n
  | float x => x.truncate

def toFloat : Scalar → Binary64
  | text s => floatPrefix s.toList
  | integer n => Binary64.ofInt n.toInt
  | float x => x

def toText : Scalar → String
  | text s => s
  | integer n => String.ofList (integerChars n)
  | float x => String.ofList (x.text Binary64.plainLayout)

end Scalar

/-- How two values are compared. -/
inductive Domain where
  | integer
  | float
  | text
deriving DecidableEq

namespace Domain

def of : Value → Value → Domain
  | .integer _, _ | _, .integer _ => integer
  | .float _, _ | _, .float _ => float
  | _, _ => text

/-- The order of texts by the code points of their characters, which is also that of their bytes. -/
def compareText (a b : String) : Ordering :=
  List.compareLex (fun c d : Char => compare c.toNat d.toNat) a.toList b.toList

/-- The order of two values; there is none where a NaN is involved. -/
def compare? : Domain → Scalar → Scalar → Option Ordering
  | integer, a, b => some (compare a.toInteger.toInt b.toInteger.toInt)
  | float, a, b => a.toFloat.compare? b.toFloat
  | text, a, b => some (compareText a.toText b.toText)

end Domain

/-- An operand on a record. -/
inductive Resolved where
  /-- A tag without the value that is asked for. -/
  | undefined
  | one (s : Scalar)
  /-- Some value has to pass. -/
  | any (values : List String)
  /-- Every value has to pass. -/
  | all (values : List String)

namespace Resolved

def isUndefined : Resolved → Bool
  | undefined => true
  | _ => false

def satisfies (r : Resolved) (test : Scalar → Bool) : Bool :=
  match r with
  | undefined => false
  | one s => test s
  | any values => values.any fun v => test (.text v)
  | all values => values.all fun v => test (.text v)

end Resolved

/-- What stands between the values of a tag that are compared as one text. -/
def joinSeparator : String := " - "

namespace View
variable (v : View)

/-- The values of a key that a selector picks. -/
def select (values : List String) : Selector → Resolved
  | .unset | .join => .one (.text (joinSeparator.intercalate values))
  | .nth n =>
    match values[n.toNat]? with
    | some value => .one (.text value)
    | none => .undefined
  | .any => .any values
  | .all => .all values

/-- What there is to say about a key that resolves to nothing. -/
def absence (key : TagKey) (values : List String) : List EvalStep :=
  match key.selector with
  | .nth n => if values.isEmpty then [.undefinedTag key.name]
    else if n.toNat < values.length then [] else [.missingValue key.name n]
  | _ => if values.isEmpty then [.undefinedTag key.name] else []

def resolveTag (key : TagKey) : Traced EvalStep Resolved :=
  let values := v.lookup key.name
  ⟨if values.isEmpty then .undefined else select values key.selector,
    .lookup key.name :: absence key values⟩

def resolve : Value → Traced EvalStep Resolved
  | .integer n => .pure (.one (.integer n))
  | .float x => .pure (.one (.float x))
  | .string s => .pure (.one (.text s))
  | .filename => .pure (.one (.text v.path))
  | .backend => .pure (.one (.text v.backend))
  | .tag key => v.resolveTag key
  | .regex _ | .undef => .pure .undefined

/-- A comparison with `undef`, which equals an undefined tag; `defined` is the order of the written
sides when the tag has a value. -/
def compareUndef (op : Operator) (other : Value) (defined : Ordering) : Traced EvalStep Bool :=
  (v.resolve other).map fun r => op.holds (some (if r.isUndefined then .eq else defined))

/-- A comparison of two values. The right side is not looked up if the left one is undefined. -/
def compareValues (op : Operator) (left right : Value) : Traced EvalStep Bool :=
  (v.resolve left).bind fun l =>
    if l.isUndefined then .pure false
    else
      (v.resolve right).map fun r =>
        !r.isUndefined &&
          l.satisfies fun a => r.satisfies fun b =>
            op.holds ((Domain.of left right).compare? a b)

def comparison (op : Operator) (left right : Value) : Traced EvalStep Bool :=
  match left, right with
  | .undef, _ => v.compareUndef op right .gt
  | _, .undef => v.compareUndef op left .lt
  | _, _ => v.compareValues op left right

/-- A match of a value against a pattern; its negation is exactly that, so it holds where there is
no value. -/
def matchAgainst (op : Operator) (p : Pattern) (subject : Value) : Traced EvalStep Bool :=
  (v.resolve subject).map fun r =>
    (op == .notMatching) != r.satisfies fun s => p.isMatch s.toText

def patternMatch (op : Operator) (left right : Value) : Traced EvalStep Bool :=
  match left, right with
  | .regex p, _ => v.matchAgainst op p right
  | _, .regex p => v.matchAgainst op p left
  | _, _ => .pure false

/-- The verdict on a record, with the steps that led to it. The right side of a connective is left
out if the left one settles it. -/
def eval : Expr → Traced EvalStep Bool
  | .not _ e => (eval e).map (!·)
  | .logical _ .and l r => (eval l).bind fun b => if b then eval r else .pure false
  | .logical _ .or l r => (eval l).bind fun b => if b then .pure true else eval r
  | .comparison _ op l r =>
    let t := if op.isMatch then v.patternMatch op l.value r.value
      else v.comparison op l.value r.value
    t.andThen [.verdict op l.value r.value t.result]

end View

/-- Whether a filter holds on a record. -/
def Expr.holds (e : Expr) (v : View) : Bool := (v.eval e).result

/-- The keys that were looked up, in order. -/
def lookups (steps : List EvalStep) : List String :=
  steps.filterMap fun
    | .lookup key => some key
    | _ => none

end TagSieve

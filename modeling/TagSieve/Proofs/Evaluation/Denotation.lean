import TagSieve.Proofs.Evaluation.Bytes

/-! What filters mean, without the steps of their evaluation. -/
namespace TagSieve

inductive Quantifier where
  | some
  | every

/-- An operand with a value. A single value stands for itself under either quantifier. -/
structure Quantified where
  quantifier : Quantifier
  values : List Scalar
  nonempty : values ≠ []

namespace Quantified

def single (s : Scalar) : Quantified := ⟨.some, [s], List.cons_ne_nil _ _⟩

def texts (quantifier : Quantifier) (values : List String) (h : values ≠ []) : Quantified :=
  ⟨quantifier, values.map .text, fun hmap => h (List.map_eq_nil_iff.mp hmap)⟩

def Holds (q : Quantified) (P : Scalar → Prop) : Prop :=
  match q.quantifier with
  | .some => ∃ s ∈ q.values, P s
  | .every => ∀ s ∈ q.values, P s

end Quantified

/-- The values of a tag that a selector asks for, if it has them. -/
def Selector.pick (values : List String) (h : values ≠ []) : Selector → Option Quantified
  | .unset | .join => some (.single (.text (" - ".intercalate values)))
  | .nth n => values[n.toNat]?.map fun s => .single (.text s)
  | .any => some (.texts .some values h)
  | .all => some (.texts .every values h)

/-- The values of an operand; none if it is undefined. -/
def View.denote (v : View) : Value → Option Quantified
  | .integer n => some (.single (.integer n))
  | .float x => some (.single (.float x))
  | .string s => some (.single (.text s))
  | .filename => some (.single (.text v.path))
  | .backend => some (.single (.text v.backend))
  | .tag key => if h : v.lookup key.name = [] then none else key.selector.pick _ h
  | .regex _ | .undef => none

/-- Texts are read as numbers, but numbers neither as texts nor as numbers of the other kind. -/
def Scalar.integer? : Scalar → Option Int64
  | text s => some (integerPrefix s.toList)
  | integer n => some n
  | float _ => none

def Scalar.float? : Scalar → Option Binary64
  | text s => some (floatPrefix s.toList)
  | integer _ => none
  | float x => some x

def Scalar.text? : Scalar → Option String
  | text s => some s
  | integer _ | float _ => none

/-- The order of two values in a domain that can read both. -/
def Domain.order? : Domain → Scalar → Scalar → Option (Option Ordering)
  | integer, a, b => a.integer?.bind fun m => b.integer?.map fun n => some (compare m.toInt n.toInt)
  | float, a, b => a.float?.bind fun x => b.float?.map fun y => x.compare? y
  | text, a, b => a.text?.bind fun s => b.text?.map fun t => some (byteOrder s t)

/-- The domain that a literal sets. -/
def Value.domain? : Value → Option Domain
  | integer _ => some .integer
  | float _ => some .float
  | string _ => some .text
  | _ => none

/-- The domain of a comparison: values without a literal are compared as texts. -/
def Domain.ofLiteral (left right : Value) : Domain := (left.domain?.or right.domain?).getD .text

/-- What an operator says of the order of two values, `none` if they have no order. -/
def Operator.Tests : Operator → Option Ordering → Prop
  | equal, o => o = some .eq
  | notEqual, o => o ≠ some .eq
  | less, o => o = some .lt
  | lessEqual, o => o = some .lt ∨ o = some .eq
  | greater, o => o = some .gt
  | greaterEqual, o => o = some .gt ∨ o = some .eq
  | matching, _ | notMatching, _ => False

namespace View

/-- How `undef` is ordered to an operand. -/
def undefOrder (v : View) (other : Value) : Ordering :=
  match v.denote other with
  | none => .eq
  | some _ => .gt

/-- An undefined side makes a comparison false. -/
def Compares (v : View) (left : Value) (op : Operator) (right : Value) : Prop :=
  match left, right with
  | .undef, _ => op.Tests (some (v.undefOrder right))
  | _, .undef => op.Tests (some (v.undefOrder left).swap)
  | _, _ => ∃ p q, v.denote left = some p ∧ v.denote right = some q ∧
      p.Holds fun a => q.Holds fun b =>
        ∃ o, (Domain.ofLiteral left right).order? a b = some o ∧ op.Tests o

/-- A match of a defined value. -/
def Matches (v : View) (left right : Value) : Prop :=
  match left, right with
  | .regex p, subject | subject, .regex p => ∃ q, v.denote subject = some q ∧
      q.Holds fun s => ∃ t, s.text? = some t ∧ p.isMatch t = true
  | _, _ => False

/-- What a condition says of a record. -/
def Means (v : View) : Expr → Prop
  | .not _ e => ¬ v.Means e
  | .logical _ .and l r => v.Means l ∧ v.Means r
  | .logical _ .or l r => v.Means l ∨ v.Means r
  | .comparison _ .matching l r => v.Matches l.value r.value
  | .comparison _ .notMatching l r => ¬ v.Matches l.value r.value
  | .comparison _ op l r => v.Compares l.value op r.value

end View

end TagSieve

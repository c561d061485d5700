import TagSieve.Value

/-!
Filters as trees, and their canonical text.
-/

namespace TagSieve

/-- A condition on records. Each node carries the span of the source it was read from, with the
parentheses around it; parentheses have no node of their own. -/
inductive Expr where
  | not (span : Span) (inner : Expr)
  | logical (span : Span) (op : Connective) (left right : Expr)
  | comparison (span : Span) (op : Operator) (left right : Operand)
deriving DecidableEq

namespace Expr

def span : Expr → Span
  | not s _ | logical s _ _ _ | comparison s _ _ _ => s

def withSpan (s : Span) : Expr → Expr
  | not _ e => not s e
  | logical _ op l r => logical s op l r
  | comparison _ op l r => comparison s op l r

@[simp] theorem span_withSpan (s : Span) (e : Expr) : (e.withSpan s).span = s := by
  cases e <;> rfl

/-- The connective of two conditions, spanning both. -/
def join (op : Connective) (left right : Expr) : Expr :=
  logical (left.span.merge right.span) op left right

/-- Equality of trees; floats are compared as numbers. -/
def same : Expr → Expr → Bool
  | not s e, not s' e' => s == s' && same e e'
  | logical s op l r, logical s' op' l' r' => s == s' && op == op' && same l l' && same r r'
  | comparison s op l r, comparison s' op' l' r' =>
    s == s' && op == op' && l.same l' && r.same r'
  | _, _ => false

/-- Whether a condition needs parentheses as the left or right side of a connective. A chain of
one connective leans to the left, and `&&` binds tighter than `||`. -/
def needsParens (parent : Connective) (isRight : Bool) : Expr → Bool
  | logical _ .or _ _ => parent == .and || isRight
  | logical _ .and _ _ => parent == .and && isRight
  | _ => false

def parenthesize (needed : Bool) (cs : List Char) : List Char :=
  if needed then '(' :: (cs ++ [')']) else cs

/-- The text of a comparison. -/
def comparisonChars (op : Operator) (left right : Value) : List Char :=
  left.chars ++ ' ' :: (op.chars ++ ' ' :: right.chars)

/-- The canonical text: parentheses stand only where they change the shape, and one space on both
sides of every operator. -/
def chars : Expr → List Char
  | not _ e => '!' :: '(' :: (chars e ++ [')'])
  | logical _ op l r =>
    parenthesize (l.needsParens op false) (chars l) ++ ' ' ::
      (op.chars ++ ' ' :: parenthesize (r.needsParens op true) (chars r))
  | comparison _ op l r => comparisonChars op l.value r.value

def text (e : Expr) : String := String.ofList e.chars

end Expr

end TagSieve

import TagSieve.Evaluation

/-! Verdicts without the steps that lead to them: what a condition says by its operands, and a
connective by its two sides. -/
namespace TagSieve

variable {v : View} {op : Operator} {x y : Value}

def Connective.combine : Connective → Bool → Bool → Bool
  | and, a, b => a && b
  | or, a, b => a || b

namespace View

theorem result_compareValues (v : View) (op : Operator) (x y : Value) :
    (v.compareValues op x y).result =
      (!(v.resolve x).result.isUndefined && (!(v.resolve y).result.isUndefined &&
        (v.resolve x).result.satisfies fun s => (v.resolve y).result.satisfies fun t =>
          op.holds ((Domain.of x y).compare? s t))) := by
  unfold compareValues
  cases h : (v.resolve x).result.isUndefined <;> simp [h]

theorem comparison_undef_right (v : View) (op : Operator) (x : Value) :
    v.comparison op x .undef = v.compareUndef op x .lt := by
  cases x <;> rfl

theorem comparison_of_ne_undef (op : Operator) (hx : x ≠ .undef) (hy : y ≠ .undef) :
    v.comparison op x y = v.compareValues op x y := by
  unfold comparison
  split
  · exact absurd rfl hx
  · exact absurd rfl hy
  · rfl

end View

namespace Expr

theorem holds_not (v : View) (span : Span) (e : Expr) : (not span e).holds v = !e.holds v := rfl

theorem holds_logical (v : View) (span : Span) (op : Connective) (l r : Expr) :
    (logical span op l r).holds v = op.combine (l.holds v) (r.holds v) := by
  unfold holds
  cases op with
  | and =>
    rw [View.eval, Traced.result_bind]
    cases (v.eval l).result <;> rfl
  | or =>
    rw [View.eval, Traced.result_bind]
    cases (v.eval l).result <;> rfl

theorem holds_comparison (v : View) (hop : op.isMatch = false) (span : Span) (l r : Operand) :
    (comparison span op l r).holds v = (v.comparison op l.value r.value).result := by
  simp [holds, View.eval, hop]

theorem holds_match (v : View) (hop : op.isMatch = true) (span : Span) (l r : Operand) :
    (comparison span op l r).holds v = (v.patternMatch op l.value r.value).result := by
  simp [holds, View.eval, hop]

end Expr

end TagSieve

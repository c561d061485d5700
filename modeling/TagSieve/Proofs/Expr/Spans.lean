import TagSieve.Filter

/-! Trees without their spans. What is parsed does not depend on where the tokens stand. -/
namespace TagSieve

variable {e f : Expr} {s : ParseState} {t : Token}

/-- The span of everything where spans do not count. -/
def Span.zero : Span := ⟨0, 0⟩

def Operand.unspanned (o : Operand) : Operand := ⟨o.value, .zero⟩

/-- The tree with the same span at every node and operand. -/
def Expr.unspanned : Expr → Expr
  | .not _ e => .not .zero e.unspanned
  | .logical _ op l r => .logical .zero op l.unspanned r.unspanned
  | .comparison _ op l r => .comparison .zero op l.unspanned r.unspanned

def Token.unspanned (t : Token) : Token := ⟨t.symbol, .zero⟩

def Pending.unspanned (p : Pending) : Pending :=
  ⟨p.disjunct.map Expr.unspanned, p.conjunct.map Expr.unspanned⟩

def Group.unspanned (g : Group) : Group :=
  ⟨g.negation.map fun _ => .zero, .zero, g.around.unspanned⟩

def Next.unspanned : Next → Next
  | .start => .start
  | .condition => .condition
  | .group _ => .group .zero
  | .operator l => .operator l.unspanned
  | .right l op => .right l.unspanned op
  | .checked l op r => .checked l.unspanned op r.unspanned
  | .continuation e => .continuation e.unspanned

def ParseState.unspanned (s : ParseState) : ParseState :=
  ⟨s.next.unspanned, s.level.unspanned, s.groups.map Group.unspanned⟩

namespace Expr

@[simp] theorem unspanned_withSpan (span : Span) (e : Expr) :
    (e.withSpan span).unspanned = e.unspanned := by
  cases e <;> rfl

@[simp] theorem withSpan_unspanned (e : Expr) : e.unspanned.withSpan .zero = e.unspanned := by
  cases e <;> rfl

@[simp] theorem span_unspanned (e : Expr) : e.unspanned.span = .zero := by
  cases e <;> rfl

theorem merge_zero : Span.zero.merge .zero = .zero := rfl

theorem unspanned_join (op : Connective) (l r : Expr) :
    (join op l r).unspanned = join op l.unspanned r.unspanned := by
  simp [join, unspanned, Span.merge, Span.zero]

@[simp] theorem needsParens_unspanned (op : Connective) (isRight : Bool) (e : Expr) :
    e.unspanned.needsParens op isRight = e.needsParens op isRight := by
  cases e with
  | logical _ c _ _ => cases c <;> rfl
  | not | comparison => rfl

/-- The text of a tree shows no spans. -/
@[simp] theorem chars_unspanned (e : Expr) : e.unspanned.chars = e.chars := by
  induction e with
  | not _ _ ih => simp [unspanned, chars, ih]
  | logical _ _ _ _ ihl ihr => simp [unspanned, chars, ihl, ihr]
  | comparison => rfl

end Expr

namespace Pending

theorem unspanned_conjoin (p : Pending) (e : Expr) :
    (p.conjoin e).unspanned = p.unspanned.conjoin e.unspanned := by
  rcases p with ⟨d, _ | c⟩
  · rfl
  · exact Expr.unspanned_join .and c e

theorem unspanned_close (p : Pending) (e : Expr) :
    (p.close e).unspanned = p.unspanned.close e.unspanned := by
  rcases p with ⟨_ | d, c⟩
  · exact unspanned_conjoin ⟨Option.none, c⟩ e
  · unfold close
    rw [Expr.unspanned_join, unspanned_conjoin]
    rfl

theorem unspanned_push (p : Pending) (e : Expr) (op : Connective) :
    (p.push e op).unspanned = p.unspanned.push e.unspanned op := by
  cases op with
  | and => simp [push, unspanned, unspanned_conjoin]
  | or => simp [push, unspanned, unspanned_close]

end Pending

theorem Group.unspanned_close (g : Group) (span : Span) (e : Expr) :
    (g.close span e).unspanned = g.unspanned.close .zero e.unspanned := by
  rcases g with ⟨_ | n, paren, around⟩
  · simp [close, unspanned, Expr.merge_zero]
  · simp [close, unspanned, Expr.merge_zero, Expr.unspanned]

theorem unspanned_checkComparison (l : Operand) (op : Operator) (r : Operand) :
    (checkComparison l op r).toOption.map Expr.unspanned =
      (checkComparison l.unspanned op r.unspanned).toOption := by
  unfold checkComparison
  dsimp only [Operand.unspanned]
  cases misuse? op l.value r.value <;> rfl

theorem toOption_bind {ε α β : Type} (x : Except ε α) (f : α → Except ε β) :
    (x.bind f).toOption = x.toOption.bind fun a => (f a).toOption := by
  cases x <;> rfl

namespace ParseState

variable {level : Pending} {groups : List Group}

/-- A comparison that has just been read is checked first. -/
theorem step_checked (l r : Operand) (op : Operator) (t : Token) :
    step ⟨.checked l op r, level, groups⟩ t =
      (checkComparison l op r).bind fun e => step ⟨.continuation e, level, groups⟩ t := by
  unfold step settle
  dsimp only
  cases checkComparison l op r <;> rfl

theorem unspanned_proceed (e : Expr) (t : Token) :
    (step ⟨.continuation e, level, groups⟩ t).toOption.map unspanned =
      (step ⟨.continuation e.unspanned, level.unspanned, groups.map Group.unspanned⟩
        t.unspanned).toOption := by
  rcases t with ⟨symbol, span⟩
  cases symbol with
  | connective c =>
    simp only [step, settle, proceed, Except.bind, Token.unspanned, Except.toOption, Option.map,
      unspanned, Next.unspanned, Pending.unspanned_push]
  | closeParen =>
    cases groups with
    | nil => rfl
    | cons g groups =>
      simp only [step, settle, proceed, Except.bind, Token.unspanned, Except.toOption, Option.map,
        unspanned, Next.unspanned, List.map_cons, Group.unspanned_close, Pending.unspanned_close]
      rfl
  | _ => rfl

theorem unspanned_step (s : ParseState) (t : Token) :
    (s.step t).toOption.map unspanned = (s.unspanned.step t.unspanned).toOption := by
  rcases s with ⟨next, level, groups⟩
  cases next with
  | continuation e => exact unspanned_proceed e t
  | checked l op r =>
    have hunspanned : unspanned ⟨.checked l op r, level, groups⟩ =
        ⟨.checked l.unspanned op r.unspanned, level.unspanned, groups.map Group.unspanned⟩ := rfl
    rw [hunspanned, step_checked, step_checked, toOption_bind, toOption_bind,
      ← unspanned_checkComparison]
    cases checkComparison l op r with
    | error err => rfl
    | ok e => exact unspanned_proceed e t
  | _ => rcases t with ⟨symbol, span⟩; cases symbol <;> rfl

theorem unspanned_run (s : ParseState) (ts : List Token) :
    (ts.foldlM step s).toOption.map unspanned =
      ((ts.map Token.unspanned).foldlM step s.unspanned).toOption := by
  induction ts generalizing s with
  | nil => rfl
  | cons t ts ih =>
    have hstep := unspanned_step s t
    rw [List.map_cons, List.foldlM_cons, List.foldlM_cons]
    change ((s.step t).bind _).toOption.map _ = ((s.unspanned.step t.unspanned).bind _).toOption
    rw [toOption_bind, toOption_bind, ← hstep]
    cases s.step t with
    | error err => rfl
    | ok s' => exact ih s'

theorem finish_checked (l r : Operand) (op : Operator) (span : Span) :
    finish ⟨.checked l op r, level, groups⟩ span =
      (checkComparison l op r).bind fun e => finish ⟨.continuation e, level, groups⟩ span := by
  unfold finish settle
  dsimp only
  cases checkComparison l op r <;> rfl

theorem unspanned_conclude (e : Expr) (span : Span) :
    (finish ⟨.continuation e, level, groups⟩ span).toOption.map Expr.unspanned =
      (finish ⟨.continuation e.unspanned, level.unspanned, groups.map Group.unspanned⟩
        .zero).toOption := by
  cases groups with
  | nil => exact congrArg some (Pending.unspanned_close level e)
  | cons g groups => rfl

theorem unspanned_finish (s : ParseState) (span : Span) :
    (s.finish span).toOption.map Expr.unspanned = (s.unspanned.finish .zero).toOption := by
  rcases s with ⟨next, level, groups⟩
  cases next with
  | continuation e => exact unspanned_conclude e span
  | checked l op r =>
    have hunspanned : unspanned ⟨.checked l op r, level, groups⟩ =
        ⟨.checked l.unspanned op r.unspanned, level.unspanned, groups.map Group.unspanned⟩ := rfl
    rw [hunspanned, finish_checked, finish_checked, toOption_bind, toOption_bind,
      ← unspanned_checkComparison]
    cases checkComparison l op r with
    | error err => rfl
    | ok e => exact unspanned_conclude e span
  | _ => rfl

/-- Where the tokens stand decides neither whether they are a filter nor which. -/
theorem unspanned_outcome (s : ParseState) (ts : List Token) (span : Span) :
    ((ts.foldlM step s).bind (·.finish span)).toOption.map Expr.unspanned =
      (((ts.map Token.unspanned).foldlM step s.unspanned).bind (·.finish .zero)).toOption := by
  rw [toOption_bind, toOption_bind, ← unspanned_run]
  cases ts.foldlM step s with
  | error err => rfl
  | ok s' => exact unspanned_finish s' span

end ParseState

end TagSieve

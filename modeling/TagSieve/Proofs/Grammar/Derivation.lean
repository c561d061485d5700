import TagSieve.Proofs.Expr.Spans

/-! The grammar of filters.

    Filter ::= Start Or End
    Or     ::= And ('||' And)*
    And    ::= Simple ('&&' Simple)*
    Simple ::= '!' '(' Or ')' | '(' Or ')' | Value Op Value -/
namespace TagSieve

/-- The rules for comparisons that are not part of the grammar. -/
structure Comparable (left : Value) (op : Operator) (right : Value) : Prop where
  regex_of_match : op.isMatch = true → left.isRegex ≠ right.isRegex
  no_regex : op.isMatch = false → left.isRegex = false ∧ right.isRegex = false
  dynamic : left.isDynamic = true ∨ right.isDynamic = true
  left_undef : left = .undef → op.isMatch = false ∧ right.isTag = true
  right_undef : right = .undef → op.isMatch = false ∧ left.isTag = true

theorem isUndef_iff {v : Value} : v.isUndef = true ↔ v = .undef := by
  cases v <;> simp [Value.isUndef]

theorem misuse?_eq_none {op : Operator} {left right : Value} :
    misuse? op left right = none ↔ Comparable left op right := by
  unfold misuse?
  constructor
  · intro h
    split at h
    case isTrue => cases h
    case isFalse hmatch =>
      split at h
      case isTrue => cases h
      case isFalse hregex =>
        split at h
        case isTrue => cases h
        case isFalse hdynamic =>
          split at h
          case isTrue => cases h
          case isFalse hundef =>
            simp only [Bool.and_eq_true, Bool.or_eq_true, Bool.not_eq_true', beq_iff_eq, isUndef_iff,
              not_and, not_or, Bool.not_eq_true] at hmatch hregex hdynamic hundef
            refine ⟨hmatch, hregex, ?_, ?_, ?_⟩
            · cases hleft : left.isDynamic with
              | true => exact Or.inl rfl
              | false => exact Or.inr (by simpa using hdynamic hleft)
            · intro hleft
              simpa using hundef.1 hleft
            · intro hright
              simpa using hundef.2 hright
  · rintro ⟨hmatch, hregex, hdynamic, hleft, hright⟩
    rw [if_neg, if_neg, if_neg, if_neg]
    all_goals
      simp only [Bool.and_eq_true, Bool.or_eq_true, Bool.not_eq_true', beq_iff_eq, isUndef_iff,
        not_and, not_or, Bool.not_eq_true]
    · exact ⟨by simpa using hleft, by simpa using hright⟩
    · intro h
      rcases hdynamic with hl | hr
      · simp [hl] at h
      · simpa using hr
    · exact hregex
    · exact hmatch

mutual

/-- An `Or`: one `And`, or some and another one behind them. -/
inductive Disjunction where
  | single (c : Conjunction)
  | more (d : Disjunction) (c : Conjunction)

/-- An `And`: one `Simple`, or some and another one behind them. -/
inductive Conjunction where
  | single (s : Simple)
  | more (c : Conjunction) (s : Simple)

inductive Simple where
  | not (d : Disjunction)
  | group (d : Disjunction)
  | comparison (left : Value) (op : Operator) (right : Value)

end

mutual

def Disjunction.yield : Disjunction → List Symbol
  | .single c => c.yield
  | .more d c => d.yield ++ .connective .or :: c.yield

def Conjunction.yield : Conjunction → List Symbol
  | .single s => s.yield
  | .more c s => c.yield ++ .connective .and :: s.yield

def Simple.yield : Simple → List Symbol
  | .not d => .not :: .openParen :: (d.yield ++ [.closeParen])
  | .group d => .openParen :: (d.yield ++ [.closeParen])
  | .comparison l op r => [.value l, .operator op, .value r]

end

mutual

/-- Both connectives lean to the left. -/
def Disjunction.tree : Disjunction → Expr
  | .single c => c.tree
  | .more d c => .logical .zero .or d.tree c.tree

def Conjunction.tree : Conjunction → Expr
  | .single s => s.tree
  | .more c s => .logical .zero .and c.tree s.tree

/-- Parentheses alone make no node. -/
def Simple.tree : Simple → Expr
  | .not d => .not .zero d.tree
  | .group d => d.tree
  | .comparison l op r => .comparison .zero op ⟨l, .zero⟩ ⟨r, .zero⟩

end

mutual

/-- Every comparison keeps the rules. -/
def Disjunction.Obeys : Disjunction → Prop
  | .single c => c.Obeys
  | .more d c => d.Obeys ∧ c.Obeys

def Conjunction.Obeys : Conjunction → Prop
  | .single s => s.Obeys
  | .more c s => c.Obeys ∧ s.Obeys

def Simple.Obeys : Simple → Prop
  | .not d | .group d => d.Obeys
  | .comparison l op r => Comparable l op r

end

namespace Expr

/-- Every comparison keeps the rules. -/
def Obeys : Expr → Prop
  | .not _ e => e.Obeys
  | .logical _ _ l r => l.Obeys ∧ r.Obeys
  | .comparison _ op l r => Comparable l.value op r.value

@[simp] theorem obeys_unspanned (e : Expr) : e.unspanned.Obeys ↔ e.Obeys := by
  induction e with
  | not _ _ ih => exact ih
  | logical _ _ _ _ ihl ihr => simp [unspanned, Obeys, ihl, ihr]
  | comparison => rfl

end Expr

mutual

theorem Disjunction.obeys_tree : (d : Disjunction) → (d.tree.Obeys ↔ d.Obeys)
  | .single c => c.obeys_tree
  | .more d c => and_congr d.obeys_tree c.obeys_tree

theorem Conjunction.obeys_tree : (c : Conjunction) → (c.tree.Obeys ↔ c.Obeys)
  | .single s => s.obeys_tree
  | .more c s => and_congr c.obeys_tree s.obeys_tree

theorem Simple.obeys_tree : (s : Simple) → (s.tree.Obeys ↔ s.Obeys)
  | .not d | .group d => d.obeys_tree
  | .comparison _ _ _ => Iff.rfl

end

mutual

theorem Disjunction.unspanned_tree : (d : Disjunction) → d.tree.unspanned = d.tree
  | .single c => c.unspanned_tree
  | .more d c => by
    rw [Disjunction.tree, Expr.unspanned, d.unspanned_tree, c.unspanned_tree]

theorem Conjunction.unspanned_tree : (c : Conjunction) → c.tree.unspanned = c.tree
  | .single s => s.unspanned_tree
  | .more c s => by
    rw [Conjunction.tree, Expr.unspanned, c.unspanned_tree, s.unspanned_tree]

theorem Simple.unspanned_tree : (s : Simple) → s.tree.unspanned = s.tree
  | .not d => by
    rw [Simple.tree, Expr.unspanned, d.unspanned_tree]
  | .group d => d.unspanned_tree
  | .comparison _ _ _ => rfl

end

theorem Disjunction.span_tree (d : Disjunction) : d.tree.span = .zero :=
  d.unspanned_tree ▸ Expr.span_unspanned d.tree

theorem Conjunction.span_tree (c : Conjunction) : c.tree.span = .zero :=
  c.unspanned_tree ▸ Expr.span_unspanned c.tree

theorem Simple.span_tree (s : Simple) : s.tree.span = .zero :=
  s.unspanned_tree ▸ Expr.span_unspanned s.tree

theorem Disjunction.withSpan_tree (d : Disjunction) : d.tree.withSpan .zero = d.tree := by
  rw [← d.unspanned_tree, Expr.withSpan_unspanned]

end TagSieve

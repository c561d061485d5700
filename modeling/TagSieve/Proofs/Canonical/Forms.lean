import TagSieve.Proofs.Grammar.Derivation

/-! The derivation that the canonical text of a tree is written by. -/
namespace TagSieve

variable {e : Expr} {d : Disjunction} {v : Value}

namespace Expr

/-- The values of all comparisons, from left to right. -/
def values : Expr → List Value
  | .not _ e => e.values
  | .logical _ _ l r => l.values ++ r.values
  | .comparison _ _ l r => [l.value, r.value]

@[simp] theorem values_unspanned (e : Expr) : e.unspanned.values = e.values := by
  induction e with
  | not _ _ ih => exact ih
  | logical _ _ _ _ ihl ihr => simp [unspanned, values, ihl, ihr]
  | comparison => rfl

end Expr

mutual

/-- The values of a tree all come from its sentence. -/
theorem Disjunction.mem_yield : (d : Disjunction) → v ∈ d.tree.values → .value v ∈ d.yield
  | .single c, h => c.mem_yield h
  | .more d c, h => by
    rw [Disjunction.yield, List.mem_append, List.mem_cons]
    rcases List.mem_append.mp h with h | h
    · exact Or.inl (d.mem_yield h)
    · exact Or.inr (Or.inr (c.mem_yield h))

theorem Conjunction.mem_yield : (c : Conjunction) → v ∈ c.tree.values → .value v ∈ c.yield
  | .single s, h => s.mem_yield h
  | .more c s, h => by
    rw [Conjunction.yield, List.mem_append, List.mem_cons]
    rcases List.mem_append.mp h with h | h
    · exact Or.inl (c.mem_yield h)
    · exact Or.inr (Or.inr (s.mem_yield h))

theorem Simple.mem_yield : (s : Simple) → v ∈ s.tree.values → .value v ∈ s.yield
  | .not d, h => by simp [Simple.yield, d.mem_yield h]
  | .group d, h => by simp [Simple.yield, d.mem_yield h]
  | .comparison l op r, h => by
    simp only [Simple.tree, Expr.values, List.mem_cons, List.not_mem_nil, or_false] at h
    rcases h with rfl | rfl
    · exact List.mem_cons_self
    · simp [Simple.yield]

end

/-- A tree as a whole, as a side of `&&`, and in parentheses where it needs them to stand alone. -/
structure Forms where
  disjunction : Disjunction
  conjunction : Conjunction
  simple : Simple

namespace Forms

def ofSimple (s : Simple) : Forms := ⟨.single (.single s), .single s, s⟩

def ofConjunction (c : Conjunction) : Forms := ⟨.single c, c, .group (.single c)⟩

def ofDisjunction (d : Disjunction) : Forms := ⟨d, .single (.group d), .group d⟩

/-- The derivations with as few parentheses as the shape of the tree allows. -/
def of : Expr → Forms
  | .not _ e => ofSimple (.not (of e).disjunction)
  | .logical _ .and l r => ofConjunction (.more (of l).conjunction (of r).simple)
  | .logical _ .or l r => ofDisjunction (.more (of l).disjunction (of r).conjunction)
  | .comparison _ op l r => ofSimple (.comparison l.value op r.value)

/-- All forms of a tree derive it. -/
theorem tree_of (e : Expr) : (of e).disjunction.tree = e.unspanned ∧
    (of e).conjunction.tree = e.unspanned ∧ (of e).simple.tree = e.unspanned := by
  induction e with
  | not span e ih =>
    have h : (Simple.not (of e).disjunction).tree = (Expr.not span e).unspanned := by
      rw [Simple.tree, Expr.unspanned, ih.1]
    exact ⟨h, h, h⟩
  | comparison span op l r => exact ⟨rfl, rfl, rfl⟩
  | logical span op l r ihl ihr =>
    cases op with
    | and =>
      have h : (Conjunction.more (of l).conjunction (of r).simple).tree =
          (Expr.logical span .and l r).unspanned := by
        rw [Conjunction.tree, Expr.unspanned, ihl.2.1, ihr.2.2]
      exact ⟨h, h, h⟩
    | or =>
      have h : (Disjunction.more (of l).disjunction (of r).conjunction).tree =
          (Expr.logical span .or l r).unspanned := by
        rw [Disjunction.tree, Expr.unspanned, ihl.1, ihr.2.1]
      exact ⟨h, h, h⟩

theorem obeys_of (e : Expr) : (of e).disjunction.Obeys ↔ e.Obeys := by
  rw [← Disjunction.obeys_tree, (tree_of e).1, Expr.obeys_unspanned]

end Forms

end TagSieve

import TagSieve.Proofs.Canonical.RoundTrip
import TagSieve.Proofs.Token.Parentheses

/-! The canonical text has no parenthesis to spare: every source of the same tree has at least as
many. -/
namespace TagSieve

variable {e : Expr} {f g : Filter}

@[simp] theorem Disjunction.parens_single (c : Conjunction) :
    parens (Disjunction.single c).yield = parens c.yield := rfl

@[simp] theorem Disjunction.parens_more (d : Disjunction) (c : Conjunction) :
    parens (Disjunction.more d c).yield = parens d.yield + parens c.yield := by
  simp [yield, Symbol.parens]

@[simp] theorem Conjunction.parens_single (s : Simple) :
    parens (Conjunction.single s).yield = parens s.yield := rfl

@[simp] theorem Conjunction.parens_more (c : Conjunction) (s : Simple) :
    parens (Conjunction.more c s).yield = parens c.yield + parens s.yield := by
  simp [yield, Symbol.parens]

@[simp] theorem Simple.parens_not (d : Disjunction) :
    parens (Simple.not d).yield = parens d.yield + 1 := by
  simp [yield, Symbol.parens, Nat.add_comm]

@[simp] theorem Simple.parens_group (d : Disjunction) :
    parens (Simple.group d).yield = parens d.yield + 1 := by
  simp [yield, Symbol.parens, Nat.add_comm]

@[simp] theorem Simple.parens_comparison (l : Value) (op : Operator) (r : Value) :
    parens (Simple.comparison l op r).yield = l.parens + r.parens := by
  simp [yield, Symbol.parens]

namespace Forms

/-- A tree takes no more parentheses as a whole than as a side of `&&`, and at most one pair more
where it has to stand alone. -/
theorem parens_le (e : Expr) :
    parens (of e).disjunction.yield ≤ parens (of e).conjunction.yield ∧
    parens (of e).conjunction.yield ≤ parens (of e).simple.yield ∧
    parens (of e).simple.yield ≤ parens (of e).disjunction.yield + 1 := by
  cases e with
  | not | comparison => simp [of, ofSimple]
  | logical _ op _ _ =>
    cases op with
    | and => simp [of, ofConjunction]
    | or => simp [of, ofDisjunction]

end Forms

mutual

/-- No derivation of a tree has fewer parentheses than its forms. -/
theorem Disjunction.parens_forms_le : (d : Disjunction) →
    parens (Forms.of d.tree).disjunction.yield ≤ parens d.yield
  | .single c => Nat.le_trans (Forms.parens_le c.tree).1 c.parens_forms_le
  | .more d c => by
    simp only [Disjunction.tree, Forms.of, Forms.ofDisjunction, Disjunction.parens_more]
    exact Nat.add_le_add d.parens_forms_le c.parens_forms_le

theorem Conjunction.parens_forms_le : (c : Conjunction) →
    parens (Forms.of c.tree).conjunction.yield ≤ parens c.yield
  | .single s => Nat.le_trans (Forms.parens_le s.tree).2.1 s.parens_forms_le
  | .more c s => by
    simp only [Conjunction.tree, Forms.of, Forms.ofConjunction, Conjunction.parens_more]
    exact Nat.add_le_add c.parens_forms_le s.parens_forms_le

theorem Simple.parens_forms_le : (s : Simple) →
    parens (Forms.of s.tree).simple.yield ≤ parens s.yield
  | .not d => by
    simp only [Simple.tree, Forms.of, Forms.ofSimple, Simple.parens_not]
    exact Nat.succ_le_succ d.parens_forms_le
  | .group d => by
    rw [Simple.tree, Simple.parens_group]
    exact Nat.le_trans (Forms.parens_le d.tree).2.2 (Nat.succ_le_succ d.parens_forms_le)
  | .comparison _ _ _ => Nat.le_refl _

end

@[simp] theorem Value.parens_blurred (v : Value) : v.blurred.parens = v.parens := by
  cases v <;> rfl

namespace Forms

@[simp] theorem of_unspanned (e : Expr) : of e.unspanned = of e := by
  induction e with
  | not span e ih => rw [Expr.unspanned, of, of, ih]
  | comparison => rfl
  | logical span op l r ihl ihr =>
    cases op with
    | and => rw [Expr.unspanned, of, of, ihl, ihr]
    | or => rw [Expr.unspanned, of, of, ihl, ihr]

theorem parens_blurred (e : Expr) :
    parens (of e.blurred).disjunction.yield = parens (of e).disjunction.yield ∧
    parens (of e.blurred).conjunction.yield = parens (of e).conjunction.yield ∧
    parens (of e.blurred).simple.yield = parens (of e).simple.yield := by
  induction e with
  | not _ _ ih => simp [Expr.blurred, of, ofSimple, ih]
  | comparison => simp [Expr.blurred, of, ofSimple]
  | logical _ op _ _ ihl ihr =>
    cases op with
    | and => simp [Expr.blurred, of, ofConjunction, ihl, ihr]
    | or => simp [Expr.blurred, of, ofDisjunction, ihl, ihr]

end Forms

theorem Expr.count_text (hclosable : e.Closable) (hfinite : e.Finite) :
    e.text.toList.count '(' = parens (Forms.of e).disjunction.yield := by
  have hspells := ((spelled_chars e hclosable).1 [] ends_nil).1 hfinite
  rw [List.append_nil] at hspells
  exact (parens_of_lexes (lexes_of_spells hspells)).symm

namespace Filter

/-- No source of a tree has fewer opening parentheses than the canonical text, also if floats of the
tree are compared as numbers. -/
theorem count_text_le (hfinite : f.expr.Finite)
    (h : g.expr.unspanned.blurred = f.expr.unspanned.blurred) :
    f.text.toList.count '(' ≤ g.source.toList.count '(' := by
  obtain ⟨d, hlexes, -, htree⟩ := g.derives
  have hforms : parens (Forms.of f.expr).disjunction.yield =
      parens (Forms.of d.tree).disjunction.yield := by
    rw [htree, ← Forms.of_unspanned, ← (Forms.parens_blurred f.expr.unspanned).1, ← h,
      (Forms.parens_blurred g.expr.unspanned).1]
  calc f.text.toList.count '('
    _ = parens (Forms.of f.expr).disjunction.yield := Expr.count_text f.closable hfinite
    _ = parens (Forms.of d.tree).disjunction.yield := hforms
    _ ≤ parens d.yield := d.parens_forms_le
    _ = g.source.toList.count '(' := parens_of_lexes hlexes

/-- Without an opening parenthesis and a closing one behind it, the canonical text is no source of
the same tree. This holds for any two of them: for every pair that belongs together, those of a
negation included, and within literals. -/
theorem text_needs_its_parentheses (f : Filter) (hread : ∃ g, (parse f.text).result = .ok g)
    {front inside back : List Char}
    (htext : f.text.toList = front ++ '(' :: (inside ++ ')' :: back)) :
    ¬ ∃ g, (parse (String.ofList (front ++ (inside ++ back)))).result = .ok g ∧
      (g.expr.unspanned = f.expr.unspanned ∨ g.expr.unspanned.same f.expr.unspanned = true) := by
  rintro ⟨g, hg, hsame⟩
  obtain ⟨g', hg'⟩ := hread
  have hblurred : g.expr.unspanned.blurred = f.expr.unspanned.blurred := by
    rcases hsame with heq | hsame
    · rw [heq]
    · exact Expr.blurred_eq_of_same hsame
  have hle := count_text_le (Expr.finite_of_parse f.closable hg') hblurred
  have hcount : f.text.toList.count '(' = (front ++ (inside ++ back)).count '(' + 1 := by
    rw [htext]
    simp [← Nat.add_assoc]
  rw [source_of_parse hg, String.toList_ofList, hcount] at hle
  exact Nat.not_succ_le_self _ hle

/-- A filter whose parentheses change its shape. -/
def groupedSource : String :=
  String.ofList ('(' :: ("%a == 1 || %b == 2".toList ++ ')' :: " && %c == 3".toList))

theorem text_of_groupedSource :
    (Parsing.ofSource groupedSource).outcome.toOption.map Expr.text = some groupedSource := by
  unfold groupedSource Parsing.ofSource Lexer.ofString
  rw [String.toList_ofList]
  decide +kernel

/-- Its tree is not read without them. -/
theorem text_needs_its_parentheses_grouped :
    ∃ f, (parse groupedSource).result = .ok f ∧ f.text = groupedSource ∧ ¬ ∃ g,
      (parse (String.ofList ("%a == 1 || %b == 2".toList ++ " && %c == 3".toList))).result =
          .ok g ∧
        (g.expr.unspanned = f.expr.unspanned ∨ g.expr.unspanned.same f.expr.unspanned = true) := by
  obtain ⟨e, he, htext⟩ := Option.map_eq_some_iff.mp text_of_groupedSource
  obtain ⟨f, hf, rfl⟩ := ofSource_eq_ok.mpr (toOption_eq_some.mp he)
  have hread : (parse f.text).result = .ok f := by
    rw [text, htext]
    exact hf
  have hchars : f.text.toList =
      [] ++ '(' :: ("%a == 1 || %b == 2".toList ++ ')' :: " && %c == 3".toList) :=
    (congrArg String.toList htext).trans String.toList_ofList
  exact ⟨f, hf, htext, text_needs_its_parentheses f ⟨f, hread⟩ hchars⟩

end Filter

end TagSieve

import TagSieve.Proofs.Canonical.Printing
import TagSieve.Proofs.Grammar.Parsing

/-! Which trees are read back from their text. -/
namespace TagSieve

variable {e : Expr} {f : Filter} {source : String} {v w : Value}

/-- The trees that have a text of their own: their comparisons keep the rules, none of their texts
ends in a backslash, and none of their numbers is infinite or none. -/
structure Expr.Printable (e : Expr) : Prop where
  obeys : e.Obeys
  closable : e.Closable
  finite : e.Finite

namespace Filter

theorem closable_of_lexes {ss : List Symbol} (h : Lexes source ss) (hv : .value v ∈ ss) :
    v.Closable := by
  obtain ⟨ts, span, hts, rfl⟩ := h
  obtain ⟨rest, rfl, hrest⟩ := Lexer.reads_ofString.mp hts
  obtain ⟨t, ht, htv⟩ := List.mem_map.mp hv
  rcases List.mem_cons.mp ht with rfl | ht
  · cases htv
  · exact hrest.closable rfl t ht v htv

theorem closable (f : Filter) : f.expr.Closable := by
  obtain ⟨d, hlexes, -, htree⟩ := f.derives
  intro v hv
  rw [← Expr.values_unspanned, ← htree] at hv
  exact closable_of_lexes hlexes (List.mem_cons_of_mem _ (d.mem_yield hv))

end Filter

namespace Expr

theorem parse_text (h : e.Printable) :
    ∃ f, (Filter.parse e.text).result = .ok f ∧ f.expr.unspanned = e.unspanned := by
  have hspells := ((spelled_chars e h.closable).1 [] ends_nil).1 h.finite
  rw [List.append_nil] at hspells
  obtain ⟨t, houtcome, ht⟩ := outcome_iff_derives.mpr
    ⟨_, lexes_of_spells hspells, (Forms.obeys_of e).mpr h.obeys, (Forms.tree_of e).1⟩
  obtain ⟨f, hf, rfl⟩ := Filter.ofSource_eq_ok.mpr houtcome
  exact ⟨f, hf, ht⟩

/-- No filter is read from the text of an infinite number. -/
theorem finite_of_parse (hclosable : e.Closable) (h : (Filter.parse e.text).result = .ok f) :
    e.Finite := by
  by_contra hfinite
  have hrefused := ((spelled_chars e hclosable).1 [] ends_nil).2 hfinite
  rw [List.append_nil] at hrefused
  obtain ⟨d, hlexes, -⟩ := f.derives
  rw [Filter.source_of_parse h] at hlexes
  exact not_lexes_of_refused hrefused hlexes

end Expr

theorem Binary64.eqv_self {x : Binary64} (h : x.isFinite = true) : x.eqv x = true := by
  have hlt : x.magnitude < infinityMagnitude := of_decide_eq_true h
  have hnan : x.isNaN = false := decide_eq_false (by omega)
  simp [eqv, compare?, hnan]

theorem Value.same_self (h : v.Finite) : v.same v = true := by
  cases v with
  | float x => exact Binary64.eqv_self h
  | _ => simp [same]

/-- The value with one number for all floats. -/
def Value.blurred : Value → Value
  | .float _ => .float (.zero false)
  | v => v

def Expr.blurred : Expr → Expr
  | .not span e => .not span e.blurred
  | .logical span op l r => .logical span op l.blurred r.blurred
  | .comparison span op l r =>
    .comparison span op ⟨l.value.blurred, l.span⟩ ⟨r.value.blurred, r.span⟩

namespace Value

@[simp] theorem isRegex_blurred (v : Value) : v.blurred.isRegex = v.isRegex := by cases v <;> rfl

@[simp] theorem isDynamic_blurred (v : Value) : v.blurred.isDynamic = v.isDynamic := by
  cases v <;> rfl

@[simp] theorem isTag_blurred (v : Value) : v.blurred.isTag = v.isTag := by cases v <;> rfl

@[simp] theorem blurred_eq_undef (v : Value) : v.blurred = .undef ↔ v = .undef := by
  cases v <;> simp [blurred]

@[simp] theorem closable_blurred (v : Value) : v.blurred.Closable ↔ v.Closable := by cases v <;> rfl

theorem blurred_eq_of_same (h : v.same w = true) : v.blurred = w.blurred := by
  unfold same at h
  split at h
  next => rfl
  next => rw [beq_iff_eq.mp h]

end Value

theorem comparable_blurred {op : Operator} :
    Comparable v.blurred op w.blurred ↔ Comparable v op w := by
  constructor
  · rintro ⟨hmatch, hregex, hdynamic, hleft, hright⟩
    simp only [Value.isRegex_blurred, Value.isDynamic_blurred, Value.isTag_blurred,
      Value.blurred_eq_undef] at hmatch hregex hdynamic hleft hright
    exact ⟨hmatch, hregex, hdynamic, hleft, hright⟩
  · rintro ⟨hmatch, hregex, hdynamic, hleft, hright⟩
    simp only [← v.isRegex_blurred, ← w.isRegex_blurred, ← v.isDynamic_blurred,
      ← w.isDynamic_blurred, ← v.isTag_blurred, ← w.isTag_blurred, ← v.blurred_eq_undef,
      ← w.blurred_eq_undef] at hmatch hregex hdynamic hleft hright
    exact ⟨hmatch, hregex, hdynamic, hleft, hright⟩

namespace Expr

theorem obeys_blurred (e : Expr) : e.blurred.Obeys ↔ e.Obeys := by
  induction e with
  | not _ _ ih => exact ih
  | logical _ _ _ _ ihl ihr => exact and_congr ihl ihr
  | comparison => exact comparable_blurred

theorem closable_blurred (e : Expr) : e.blurred.Closable ↔ e.Closable := by
  induction e with
  | not _ _ ih => exact ih
  | logical _ _ _ _ ihl ihr =>
    simp only [Closable, blurred, values, List.mem_append, or_imp, forall_and] at ihl ihr ⊢
    exact and_congr ihl ihr
  | comparison => simp [Closable, blurred, values]

theorem closable_unspanned (e : Expr) : e.unspanned.Closable ↔ e.Closable := by
  rw [Closable, values_unspanned, Closable]

theorem finite_unspanned : e.unspanned.Finite ↔ e.Finite := by
  rw [Finite, values_unspanned, Finite]

theorem operand_blurred_eq_of_same {a b : Operand} (h : a.same b = true) :
    a.value.blurred = b.value.blurred ∧ a.span = b.span := by
  simp only [Operand.same, Bool.and_eq_true, beq_iff_eq] at h
  exact ⟨Value.blurred_eq_of_same h.1, h.2⟩

theorem blurred_eq_of_same {t : Expr} (h : e.same t = true) : e.blurred = t.blurred := by
  fun_induction same e t with
  | case1 s e s' e' ih =>
    simp only [Bool.and_eq_true, beq_iff_eq] at h
    simp only [blurred, h.1, ih h.2]
  | case2 s op l r s' op' l' r' ihl ihr =>
    simp only [Bool.and_eq_true, beq_iff_eq] at h
    obtain ⟨⟨⟨rfl, rfl⟩, hl⟩, hr⟩ := h
    simp only [blurred, ihl hl, ihr hr]
  | case3 s op l r s' op' l' r' =>
    simp only [Bool.and_eq_true, beq_iff_eq] at h
    obtain ⟨⟨⟨rfl, rfl⟩, hl⟩, hr⟩ := h
    simp only [blurred, operand_blurred_eq_of_same hl, operand_blurred_eq_of_same hr]
  | case4 => cases h

theorem same_self (h : e.Finite) : e.same e = true := by
  induction e with
  | not span e ih => simp [same, ih h]
  | logical span op l r ihl ihr =>
    obtain ⟨hl, -, hr⟩ := (finite_logical span op l r).mp h
    simp [same, ihl hl, ihr hr]
  | comparison span op l r =>
    obtain ⟨hl, -, hr⟩ := (finite_comparison span op l r).mp h
    simp [same, Operand.same, Value.same_self hl, Value.same_self hr]

end Expr

namespace Expr

theorem printable_of_parse (h : (Filter.parse e.text).result = .ok f)
    (heq : f.expr.unspanned.blurred = e.unspanned.blurred) : e.Printable := by
  have hobeys : e.Obeys := by
    rw [← obeys_unspanned, ← obeys_blurred, ← heq, obeys_blurred, obeys_unspanned]
    exact f.obeys
  have hclosable : e.Closable := by
    rw [← closable_unspanned, ← closable_blurred, ← heq, closable_blurred, closable_unspanned]
    exact f.closable
  exact ⟨hobeys, hclosable, finite_of_parse hclosable h⟩

/-- The trees that are read back from their text are the printable ones, whether floats are compared
by their bits or as numbers. -/
theorem reads_back_iff_printable (e : Expr) :
    ((∃ f, (Filter.parse e.text).result = .ok f ∧ f.expr.unspanned = e.unspanned) ↔ e.Printable) ∧
    ((∃ f, (Filter.parse e.text).result = .ok f ∧ f.expr.unspanned.same e.unspanned = true) ↔
      e.Printable) := by
  constructor
  · constructor
    · rintro ⟨f, hf, heq⟩
      exact printable_of_parse hf (congrArg blurred heq)
    · exact parse_text
  · constructor
    · rintro ⟨f, hf, hsame⟩
      exact printable_of_parse hf (blurred_eq_of_same hsame)
    · intro h
      obtain ⟨f, hf, heq⟩ := parse_text h
      refine ⟨f, hf, ?_⟩
      rw [heq]
      exact same_self (finite_unspanned.mpr h.finite)

end Expr

namespace Filter

/-- A filter is read back from its text unless one of its numbers is infinite, and then it is the
same tree with the same text. -/
theorem text_reads_back_iff_finite (f : Filter) :
    ((∃ g, (parse f.text).result = .ok g) ↔ f.expr.Finite) ∧
    ∀ g, (parse f.text).result = .ok g → g.expr.unspanned = f.expr.unspanned ∧ g.text = f.text := by
  have hback : f.expr.Finite → ∃ g, (parse f.text).result = .ok g ∧
      g.expr.unspanned = f.expr.unspanned :=
    fun hfinite => Expr.parse_text ⟨f.obeys, f.closable, hfinite⟩
  constructor
  · constructor
    · rintro ⟨g, hg⟩
      exact Expr.finite_of_parse f.closable hg
    · intro hfinite
      obtain ⟨g, hg, -⟩ := hback hfinite
      exact ⟨g, hg⟩
  · intro g hg
    obtain ⟨g', hg', heq⟩ := hback (Expr.finite_of_parse f.closable hg)
    rw [hg] at hg'
    cases hg'
    refine ⟨heq, ?_⟩
    rw [text, text, Expr.text, ← Expr.chars_unspanned, heq, Expr.chars_unspanned]
    rfl

/-- A comparison with `10 ^ 309`, which is beyond all finite numbers. -/
def hugeSource : String := String.ofList ("%a == 1".toList ++ List.replicate 309 '0' ++ ".0".toList)

theorem text_of_hugeSource :
    (Parsing.ofSource hugeSource).outcome.toOption.map Expr.text = some "%a == inf.0" := by
  unfold hugeSource Parsing.ofSource Lexer.ofString
  rw [String.toList_ofList]
  decide +kernel

/-- An overflowing number is read as infinity, whose text is read no more. -/
theorem text_of_overflow_not_read :
    ∃ f, (parse hugeSource).result = .ok f ∧ f.text = "%a == inf.0" ∧
      ¬ ∃ g, (parse f.text).result = .ok g := by
  obtain ⟨e, he, htext⟩ := Option.map_eq_some_iff.mp text_of_hugeSource
  obtain ⟨f, hf, rfl⟩ := ofSource_eq_ok.mpr (toOption_eq_some.mp he)
  have hrefused : (Parsing.ofSource "%a == inf.0").outcome.toOption.isNone = true := by
    decide +kernel
  refine ⟨f, hf, htext, ?_⟩
  rintro ⟨g, hg⟩
  have houtcome := ofSource_eq_ok.mp ⟨g, hg, rfl⟩
  rw [text, htext] at houtcome
  rw [houtcome] at hrefused
  cases hrefused

end Filter

end TagSieve

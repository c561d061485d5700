import TagSieve.Proofs.Grammar.Located
import TagSieve.Proofs.Token.Layout

/-! The text under a node of a filter is a filter itself, and its tree is that node seen from the
start of that text. -/
namespace TagSieve

variable {cs rest : List Char} {ts us mid : List Token} {e x : Expr} {o : Operand}
  {a b span : Span} {rank : Rank} {n : Nat}

def Operand.shift (n : Nat) (o : Operand) : Operand := ⟨o.value, o.span.shift n⟩

/-- The tree seen from a text in which `n` more characters come first. -/
def Expr.shift (n : Nat) : Expr → Expr
  | .not s e => .not (s.shift n) (e.shift n)
  | .logical s op l r => .logical (s.shift n) op (l.shift n) (r.shift n)
  | .comparison s op l r => .comparison (s.shift n) op (l.shift n) (r.shift n)

namespace Expr

@[simp] theorem span_shift (n : Nat) (e : Expr) : (e.shift n).span = e.span.shift n := by
  cases e <;> rfl

theorem shift_withSpan (n : Nat) (s : Span) (e : Expr) :
    (e.withSpan s).shift n = (e.shift n).withSpan (s.shift n) := by
  cases e <;> rfl

theorem shift_join (n : Nat) (op : Connective) (l r : Expr) :
    (join op l r).shift n = join op (l.shift n) (r.shift n) := by
  simp [join, shift, Span.shift_merge]

end Expr

theorem Located.shift (n : Nat) (h : Located rank ts e) :
    Located rank (ts.map (Token.shift n)) (e.shift n) := by
  induction h with
  | comparison l r op span h =>
    rw [Expr.shift, Span.shift_merge]
    exact .comparison (l.shift n) (r.shift n) op (span.shift n) h
  | group opening closing _ ih =>
    rw [Expr.shift_withSpan, Span.shift_merge, List.map_cons, List.map_append]
    exact .group (opening.shift n) (closing.shift n) ih
  | not negation opening closing _ ih =>
    rw [Expr.shift, Expr.shift_withSpan, Span.shift_merge, Span.shift_merge, List.map_cons,
      List.map_cons, List.map_append]
    exact .not (negation.shift n) (opening.shift n) (closing.shift n) ih
  | single _ ih => exact .single ih
  | and span _ _ ihl ihr =>
    rw [Expr.shift_join, List.map_append, List.map_cons]
    exact .and (span.shift n) ihl ihr
  | lone _ ih => exact .lone ih
  | or span _ _ ihl ihr =>
    rw [Expr.shift_join, List.map_append, List.map_cons]
    exact .or (span.shift n) ihl ihr

/-- The parser does the same wherever the tokens stand. -/
theorem Located.exists_unshift (h : Located .disjunction (us.map (Token.shift n)) e) :
    ∃ e', Located .disjunction us e' ∧ e'.shift n = e := by
  have hsymbols : (us.map (Token.shift n)).map Token.symbol = us.map Token.symbol := by
    rw [List.map_map]
    rfl
  obtain ⟨d, hyield, hobeys, htree⟩ := outcome_tokens.mp ⟨e, h.outcome .zero, rfl⟩
  rw [hsymbols] at hyield
  obtain ⟨e', he', -⟩ := d.exists_located hobeys us hyield.symm
  refine ⟨e', he', ?_⟩
  exact Except.ok.inj (((he'.shift n).outcome .zero).symm.trans (h.outcome .zero))

/-- The conditions of a tree, a condition before those in it. -/
def Expr.nodes : Expr → List Expr
  | .not s e => .not s e :: e.nodes
  | .logical s op l r => .logical s op l r :: (l.nodes ++ r.nodes)
  | .comparison s op l r => [.comparison s op l r]

/-- The operands of all comparisons of a tree. -/
def Expr.operands : Expr → List Operand
  | .not _ e => e.operands
  | .logical _ _ l r => l.operands ++ r.operands
  | .comparison _ _ l r => [l, r]

theorem Expr.mem_nodes_withSpan (h : x ∈ (e.withSpan span).nodes) :
    x = e.withSpan span ∨ x ∈ e.nodes := by
  cases e with
  | not s e => exact (List.mem_cons.mp h).imp_right (List.mem_cons_of_mem _)
  | logical s op l r => exact (List.mem_cons.mp h).imp_right (List.mem_cons_of_mem _)
  | comparison s op l r => exact Or.inl (List.mem_singleton.mp h)

@[simp] theorem Expr.operands_withSpan (s : Span) (e : Expr) :
    (e.withSpan s).operands = e.operands := by
  cases e <;> rfl

/-- A node of one side is the tree of some of the tokens of both. -/
theorem Located.exists_of_mem_sides {l r : Expr} {t : Token}
    (hl : x ∈ l.nodes → ∃ vs, vs <:+: ts ∧ Located .disjunction vs x)
    (hr : x ∈ r.nodes → ∃ vs, vs <:+: us ∧ Located .disjunction vs x)
    (hx : x ∈ l.nodes ++ r.nodes) : ∃ vs, vs <:+: ts ++ t :: us ∧ Located .disjunction vs x := by
  rcases List.mem_append.mp hx with hx | hx
  · obtain ⟨vs, hvs, hlocated⟩ := hl hx
    exact ⟨vs, hvs.trans (List.prefix_append ts _).isInfix, hlocated⟩
  · obtain ⟨vs, hvs, hlocated⟩ := hr hx
    have hsuffix := (List.suffix_cons t us).trans (List.suffix_append ts _)
    exact ⟨vs, hvs.trans hsuffix.isInfix, hlocated⟩

/-- Every node is the tree of some of the tokens. -/
theorem Located.exists_of_mem_nodes (h : Located rank ts e) (hx : x ∈ e.nodes) :
    ∃ us, us <:+: ts ∧ Located .disjunction us x := by
  induction h with
  | comparison l r op span h =>
    obtain rfl := List.mem_singleton.mp hx
    exact ⟨_, List.infix_rfl, (Located.comparison l r op span h).disjunction⟩
  | @group ts _ opening closing h ih =>
    rcases Expr.mem_nodes_withSpan hx with rfl | hx
    · exact ⟨_, List.infix_rfl, (Located.group opening closing h).disjunction⟩
    · obtain ⟨us, hus, hlocated⟩ := ih hx
      exact ⟨us, hus.trans ⟨[_], [_], rfl⟩, hlocated⟩
  | @not ts _ negation opening closing h ih =>
    rcases List.mem_cons.mp hx with rfl | hx
    · exact ⟨_, List.infix_rfl, (Located.not negation opening closing h).disjunction⟩
    · rcases Expr.mem_nodes_withSpan hx with rfl | hx
      · exact ⟨_, (List.suffix_cons _ _).isInfix, (Located.group opening closing h).disjunction⟩
      · obtain ⟨us, hus, hlocated⟩ := ih hx
        exact ⟨us, hus.trans ⟨[_, _], [_], rfl⟩, hlocated⟩
  | single _ ih | lone _ ih => exact ih hx
  | @and ts us l r span hl hr ihl ihr =>
    rcases List.mem_cons.mp hx with rfl | hx
    · exact ⟨_, List.infix_rfl, (Located.and span hl hr).disjunction⟩
    · exact exists_of_mem_sides ihl ihr hx
  | @or ts us l r span hl hr ihl ihr =>
    rcases List.mem_cons.mp hx with rfl | hx
    · exact ⟨_, List.infix_rfl, .or span hl hr⟩
    · exact exists_of_mem_sides ihl ihr hx

/-- Every operand is a token. -/
theorem Located.mem_of_mem_operands (h : Located rank ts e) (ho : o ∈ e.operands) :
    ⟨.value o.value, o.span⟩ ∈ ts := by
  induction h with
  | comparison l r op span h =>
    rcases List.mem_pair.mp ho with rfl | rfl
    · exact List.mem_cons_self
    · exact List.mem_cons_of_mem _ (List.mem_cons_of_mem _ List.mem_cons_self)
  | group opening closing _ ih =>
    rw [Expr.operands_withSpan] at ho
    exact List.mem_cons_of_mem _ (List.mem_append_left _ (ih ho))
  | not negation opening closing _ ih =>
    rw [Expr.operands, Expr.operands_withSpan] at ho
    exact List.mem_cons_of_mem _ (List.mem_cons_of_mem _ (List.mem_append_left _ (ih ho)))
  | single _ ih | lone _ ih => exact ih ho
  | and span _ _ ihl ihr | or span _ _ ihl ihr =>
    rcases List.mem_append.mp ho with ho | ho
    · exact List.mem_append_left _ (ihl ho)
    · exact List.mem_append_right _ (List.mem_cons_of_mem _ (ihr ho))

/-- The other span lies in this one. -/
def Span.Encloses (a b : Span) : Prop := a.start ≤ b.start ∧ b.stop ≤ a.stop

/-- A node encloses its children, and the left one stops before the right one starts. -/
def Expr.Nested : Expr → Prop
  | .not s e => s.Encloses e.span
  | .logical s _ l r => s.Encloses l.span ∧ s.Encloses r.span ∧ l.span.stop ≤ r.span.start
  | .comparison s _ l r => s.Encloses l.span ∧ s.Encloses r.span ∧ l.span.stop ≤ r.span.start

theorem Span.Encloses.trans {c : Span} (h : a.Encloses b) (h' : b.Encloses c) : a.Encloses c :=
  ⟨h.1.trans h'.1, h'.2.trans h.2⟩

theorem Span.encloses_merge_left (a b : Span) : (a.merge b).Encloses a :=
  ⟨Nat.min_le_left _ _, Nat.le_max_left _ _⟩

theorem Span.encloses_merge_right (a b : Span) : (a.merge b).Encloses b :=
  ⟨Nat.min_le_right _ _, Nat.le_max_right _ _⟩

theorem Expr.Nested.withSpan (h : e.Nested) (hs : span.Encloses e.span) :
    (e.withSpan span).Nested := by
  cases e with
  | not s e => exact hs.trans h
  | logical s op l r | comparison s op l r => exact ⟨hs.trans h.1, hs.trans h.2.1, h.2.2⟩

/-- Tokens as they stand in a text. -/
structure InOrder (ts : List Token) : Prop where
  forward : ∀ t ∈ ts, t.span.start ≤ t.span.stop
  apart : ts.Pairwise fun t u => t.span.stop ≤ u.span.start

theorem Lays.inOrder {p : Nat} (h : Lays p cs ts rest) : InOrder ts :=
  ⟨fun t ht => (h.bounded t ht).2.1.le, h.ordered⟩

theorem InOrder.within (h : InOrder ts) (hus : us <:+: ts) : InOrder us :=
  ⟨fun t ht => h.forward t (hus.subset ht), h.apart.sublist hus.sublist⟩

namespace Covers

theorem single (t : Token) : Covers [t] t.span := ⟨rfl, rfl⟩

theorem append (h : Covers ts a) (h' : Covers us b) (mid : List Token) :
    Covers (ts ++ (mid ++ us)) ⟨a.start, b.stop⟩ := by
  obtain ⟨first, hfirst, hstart⟩ := Option.map_eq_some_iff.mp h.1
  obtain ⟨last, hlast, hstop⟩ := Option.map_eq_some_iff.mp h'.2
  constructor
  · rw [List.head?_append, hfirst]
    exact congrArg some hstart
  · rw [← List.append_assoc, List.getLast?_append, hlast]
    exact congrArg some hstop

end Covers

namespace InOrder

theorem start_le_stop (h : InOrder ts) (hts : Covers ts span) : span.start ≤ span.stop := by
  obtain ⟨last, hlast, hstop⟩ := Option.map_eq_some_iff.mp hts.2
  have hmem := List.mem_of_getLast? hlast
  have hforward := h.forward last hmem
  cases ts with
  | nil => cases hmem
  | cons first ts =>
    have hstart : first.span.start = span.start := Option.some.inj hts.1
    rw [← hstart, ← hstop]
    rcases List.mem_cons.mp hmem with rfl | hmem
    · exact hforward
    · have hfirst := h.forward first List.mem_cons_self
      have hbefore := List.rel_of_pairwise_cons h.apart hmem
      omega

theorem before (h : InOrder (ts ++ (mid ++ us))) (hts : Covers ts a) (hus : Covers us b) :
    a.stop ≤ b.start := by
  obtain ⟨last, hlast, hstop⟩ := Option.map_eq_some_iff.mp hts.2
  obtain ⟨first, hfirst, hstart⟩ := Option.map_eq_some_iff.mp hus.1
  rw [← hstart, ← hstop]
  have hfirst := List.mem_append_right mid (List.mem_of_head? hfirst)
  exact (List.pairwise_append.mp h.apart).2.2 last (List.mem_of_getLast? hlast) first hfirst

/-- What covers the ends covers the whole. -/
theorem covers_merge (h : InOrder (ts ++ (mid ++ us))) (hts : Covers ts a) (hus : Covers us b) :
    Covers (ts ++ (mid ++ us)) (a.merge b) ∧ a.stop ≤ b.start := by
  have hbefore := h.before hts hus
  have hleft := (h.within (List.prefix_append ts _).isInfix).start_le_stop hts
  have hright := (h.within ⟨ts ++ mid, [], by simp⟩).start_le_stop hus
  rw [Span.merge_of_le (by omega) (by omega)]
  exact ⟨hts.append hus mid, hbefore⟩

/-- Parentheses cover the group and enclose what stands in them. -/
theorem covers_group {opening closing : Span}
    (h : InOrder (⟨.openParen, opening⟩ :: (ts ++ [⟨.closeParen, closing⟩])))
    (hts : Covers ts e.span) (he : e.Nested) :
    Covers (⟨.openParen, opening⟩ :: (ts ++ [⟨.closeParen, closing⟩])) (opening.merge closing) ∧
      (e.withSpan (opening.merge closing)).Nested := by
  have hopening := h.forward ⟨.openParen, opening⟩ List.mem_cons_self
  have hclosing := h.forward ⟨.closeParen, closing⟩ (by simp)
  have hleft : InOrder ([⟨.openParen, opening⟩] ++ ([] ++ ts)) :=
    h.within ⟨[], [⟨.closeParen, closing⟩], rfl⟩
  have hright : InOrder (ts ++ ([] ++ [⟨.closeParen, closing⟩])) :=
    h.within (List.suffix_cons _ _).isInfix
  have hstart := hleft.before (.single _) hts
  have hstop := hright.before hts (.single _)
  have hwhole : InOrder ([⟨.openParen, opening⟩] ++ (ts ++ [⟨.closeParen, closing⟩])) := h
  obtain ⟨hcovers, -⟩ := hwhole.covers_merge (.single _) (.single _)
  refine ⟨hcovers, he.withSpan ⟨?_, ?_⟩⟩
  · exact (Nat.min_le_left _ _).trans (hopening.trans hstart)
  · exact (hstop.trans hclosing).trans (Nat.le_max_right _ _)

/-- A connective joins what covers its sides to what covers the whole. -/
theorem covers_join {l r : Expr} {t : Token} (h : InOrder (ts ++ t :: us)) (hl : Covers ts l.span)
    (hr : Covers us r.span) (op : Connective) :
    Covers (ts ++ t :: us) (Expr.join op l r).span ∧ (Expr.join op l r).Nested := by
  have hwhole : InOrder (ts ++ ([t] ++ us)) := h
  obtain ⟨hcovers, hbefore⟩ := hwhole.covers_merge hl hr
  exact ⟨hcovers, Span.encloses_merge_left _ _, Span.encloses_merge_right _ _, hbefore⟩

end InOrder

/-- The span of a node goes from its first token to its last one. -/
theorem Located.covers (h : Located rank ts e) (hts : InOrder ts) :
    Covers ts e.span ∧ e.Nested := by
  induction h with
  | comparison l r op span _ =>
    have hwhole : InOrder ([⟨.value l.value, l.span⟩] ++
      ([⟨.operator op, span⟩] ++ [⟨.value r.value, r.span⟩])) := hts
    obtain ⟨hcovers, hbefore⟩ := hwhole.covers_merge (.single _) (.single _)
    exact ⟨hcovers, Span.encloses_merge_left _ _, Span.encloses_merge_right _ _, hbefore⟩
  | group opening closing _ ih =>
    obtain ⟨hinner, hnested⟩ := ih (hts.within ⟨[_], [_], rfl⟩)
    rw [Expr.span_withSpan]
    exact hts.covers_group hinner hnested
  | @not ts e negation opening closing _ ih =>
    obtain ⟨hinner, hnested⟩ := ih (hts.within ⟨[_, _], [_], rfl⟩)
    obtain ⟨hgroup, -⟩ := (hts.within (List.suffix_cons _ _).isInfix).covers_group hinner hnested
    have hwhole : InOrder ([⟨.not, negation⟩] ++
      ([] ++ (⟨.openParen, opening⟩ :: (ts ++ [⟨.closeParen, closing⟩])))) := hts
    refine ⟨(hwhole.covers_merge (.single _) hgroup).1, ?_⟩
    rw [Expr.Nested, Expr.span_withSpan]
    exact Span.encloses_merge_right _ _
  | single _ ih | lone _ ih => exact ih hts
  | and span _ _ ihl ihr | or span _ _ ihl ihr =>
    have hl := (ihl (hts.within (List.prefix_append _ _).isInfix)).1
    have hr := (ihr (hts.within ((List.suffix_cons _ _).trans (List.suffix_append _ _)).isInfix)).1
    exact hts.covers_join hl hr _

theorem Filter.exists_lays (f : Filter) :
    ∃ ts rest, Lays 0 f.source.toList ts rest ∧ Located .disjunction ts f.expr := by
  obtain ⟨ts, span, hreads, hlocated⟩ := outcome_iff_located.mp f.parsed
  obtain ⟨us, hus, hrest⟩ := Lexer.reads_ofString.mp hreads
  obtain rfl := (List.cons.inj hus).2
  obtain ⟨rest, hlays, -, -⟩ := (Lexer.reads_iff_lays rfl).mp hrest
  exact ⟨ts, rest, hlays, hlocated⟩

theorem Located.parse {source : String} (h : Located .disjunction ts e)
    (hts : Lays 0 source.toList ts []) :
    ∃ f, (Filter.parse source).result = .ok f ∧ f.expr = e := by
  rw [Filter.ofSource_eq_ok]
  exact outcome_iff_located.mpr ⟨ts, _, Lexer.reads_of_lays hts, h⟩

namespace Filter

/-- The spans of a filter are exact. Every node encloses its children in their order, the text
under it is a filter whose tree is this node seen from there, and the text under an operand is one
token of its value. -/
theorem spans_exact (f : Filter) :
    (∀ e ∈ f.expr.nodes, e.Nested ∧
      ∃ g, (parse (String.ofList (e.span.slice f.source.toList))).result = .ok g ∧
        g.expr.shift e.span.start = e) ∧
    ∀ o ∈ f.expr.operands,
      (Lexer.ofString (String.ofList (o.span.slice f.source.toList))).Reads
        [⟨.start, ⟨0, 0⟩⟩, ⟨.value o.value, ⟨0, o.span.length⟩⟩]
        ⟨o.span.length, o.span.length⟩ := by
  obtain ⟨ts, rest, hlays, hlocated⟩ := f.exists_lays
  constructor
  · intro e he
    obtain ⟨us, hus, hnode⟩ := hlocated.exists_of_mem_nodes he
    obtain ⟨hcovers, hnested⟩ := hnode.covers (hlays.inOrder.within hus)
    refine ⟨hnested, ?_⟩
    obtain ⟨front, back, rfl⟩ := hus
    rw [List.append_assoc] at hlays
    have hslice : Lays (e.span.start + 0) (e.span.slice f.source.toList) us [] :=
      hlays.slice hcovers
    obtain ⟨vs, hvs, rfl⟩ := hslice.exists_unshift
    obtain ⟨e', he', hshift⟩ := hnode.exists_unshift
    rw [← String.toList_ofList (l := e.span.slice f.source.toList)] at hvs
    obtain ⟨g, hg, rfl⟩ := he'.parse hvs
    exact ⟨g, hg, hshift⟩
  · intro o ho
    have hmem := hlocated.mem_of_mem_operands ho
    exact Lexer.reads_alone (t := ⟨.value o.value, o.span⟩) hlays hmem

/-- A group with blanks in its parentheses, behind `!`. -/
def negatedSource : String := String.ofList "%c == 3 || !( %a == 1 )".toList

/-- The condition in the parentheses, with their span. -/
def negatedGroup : Expr :=
  .comparison ⟨12, 23⟩ .equal ⟨.tag ⟨"a", .unset⟩, ⟨14, 16⟩⟩ ⟨.integer 1, ⟨20, 21⟩⟩

def negatedTree : Expr :=
  .logical ⟨0, 23⟩ .or
    (.comparison ⟨0, 7⟩ .equal ⟨.tag ⟨"c", .unset⟩, ⟨0, 2⟩⟩ ⟨.integer 3, ⟨6, 7⟩⟩)
    (.not ⟨11, 23⟩ negatedGroup)

theorem outcome_negatedSource : (Parsing.ofSource negatedSource).outcome = .ok negatedTree := by
  unfold Parsing.ofSource negatedSource Lexer.ofString
  rw [String.toList_ofList]
  decide +kernel

/-- The text from one parenthesis to the other is a filter with that condition as its tree. -/
theorem spans_exact_negated : negatedGroup ∈ negatedTree.nodes ∧ negatedGroup.Nested ∧
    ∃ g, (parse (String.ofList (Span.slice ⟨12, 23⟩ negatedSource.toList))).result = .ok g ∧
      g.expr.shift 12 = negatedGroup := by
  have hmem : negatedGroup ∈ negatedTree.nodes := by decide
  obtain ⟨hnested, hslice⟩ :=
    (spans_exact ⟨negatedSource, negatedTree, outcome_negatedSource⟩).1 negatedGroup hmem
  exact ⟨hmem, hnested, hslice⟩

end Filter

end TagSieve

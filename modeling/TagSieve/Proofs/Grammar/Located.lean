import TagSieve.Proofs.Grammar.Refusal

/-! Trees with their spans. A derivation over tokens says where every node of its tree stands, and
this is the tree that the parser builds. -/
namespace TagSieve

variable {s s₁ s' : ParseState} {t : Token} {ts us : List Token} {e : Expr} {span : Span}

/-- The levels of the grammar. -/
inductive Rank where
  | disjunction
  | conjunction
  | simple

/-- The tokens are derived on this level, every comparison keeps the rules, and the tree has the
spans that its tokens give it. -/
inductive Located : Rank → List Token → Expr → Prop
  | comparison (l r : Operand) (op : Operator) (span : Span)
      (h : Comparable l.value op r.value) :
      Located .simple [⟨.value l.value, l.span⟩, ⟨.operator op, span⟩, ⟨.value r.value, r.span⟩]
        (.comparison (l.span.merge r.span) op l r)
  | group {ts : List Token} {e : Expr} (opening closing : Span) (h : Located .disjunction ts e) :
      Located .simple (⟨.openParen, opening⟩ :: (ts ++ [⟨.closeParen, closing⟩]))
        (e.withSpan (opening.merge closing))
  | not {ts : List Token} {e : Expr} (negation opening closing : Span)
      (h : Located .disjunction ts e) :
      Located .simple
        (⟨.not, negation⟩ :: ⟨.openParen, opening⟩ :: (ts ++ [⟨.closeParen, closing⟩]))
        (.not (negation.merge (opening.merge closing)) (e.withSpan (opening.merge closing)))
  | single {ts : List Token} {e : Expr} (h : Located .simple ts e) : Located .conjunction ts e
  | and {ts us : List Token} {l r : Expr} (span : Span) (hl : Located .conjunction ts l)
      (hr : Located .simple us r) :
      Located .conjunction (ts ++ ⟨.connective .and, span⟩ :: us) (.join .and l r)
  | lone {ts : List Token} {e : Expr} (h : Located .conjunction ts e) : Located .disjunction ts e
  | or {ts us : List Token} {l r : Expr} (span : Span) (hl : Located .disjunction ts l)
      (hr : Located .conjunction us r) :
      Located .disjunction (ts ++ ⟨.connective .or, span⟩ :: us) (.join .or l r)

theorem Located.disjunction {rank : Rank} (h : Located rank ts e) : Located .disjunction ts e := by
  cases rank with
  | disjunction => exact h
  | conjunction => exact h.lone
  | simple => exact h.single.lone

namespace ParseState

/-- The tokens lead to a state that has only to check its last comparison to be this one. -/
def Reaches (s : ParseState) (ts : List Token) (s' : ParseState) : Prop :=
  ∃ s₁, ts.foldlM step s = .ok s₁ ∧ s₁.settle = .ok s'

theorem Reaches.cons (h : s.step t = .ok s₁) (hs : s₁.Reaches ts s') : s.Reaches (t :: ts) s' := by
  obtain ⟨s₂, hrun, hsettle⟩ := hs
  refine ⟨s₂, ?_, hsettle⟩
  rw [List.foldlM_cons, h]
  exact hrun

theorem Reaches.append (h : s.Reaches ts s₁) (ht : s₁.Reaches (t :: us) s') :
    s.Reaches (ts ++ t :: us) s' := by
  obtain ⟨s₂, hrun, hsettle⟩ := h
  obtain ⟨s₃, hrun', hsettle'⟩ := ht
  refine ⟨s₃, ?_, hsettle'⟩
  rw [List.foldlM_append, hrun, ← hrun', List.foldlM_cons, ← step_of_settle hsettle,
    ← List.foldlM_cons]
  rfl

theorem Reaches.finish (h : s.Reaches ts s') :
    (ts.foldlM step s).bind (·.finish span) = s'.finish span := by
  obtain ⟨s₁, hrun, hsettle⟩ := h
  obtain ⟨-, -, hsettled⟩ := settle_eq_ok hsettle
  rw [hrun]
  change s₁.finish span = _
  unfold ParseState.finish
  rw [hsettle, hsettled]

end ParseState

/-- How the parser takes in what is derived on a level: as a continuation of what waits for it. -/
def Rank.Takes : Rank → List Token → Expr → Prop
  | .simple, ts, e => ∀ level groups,
      ParseState.Reaches ⟨.condition, level, groups⟩ ts ⟨.continuation e, level, groups⟩
  | .conjunction, ts, e => ∀ disjunct groups, ∃ e' conjunct,
      ParseState.Reaches ⟨.condition, ⟨disjunct, none⟩, groups⟩ ts
        ⟨.continuation e', ⟨disjunct, conjunct⟩, groups⟩ ∧
      Pending.conjoin ⟨disjunct, conjunct⟩ e' = e
  | .disjunction, ts, e => ∀ groups, ∃ e' level,
      ParseState.Reaches ⟨.condition, .none, groups⟩ ts ⟨.continuation e', level, groups⟩ ∧
      level.close e' = e

theorem Group.close_negated (negation paren closing : Span) (around : Pending) (e : Expr) :
    Group.close ⟨some negation, paren, around⟩ closing e =
      .not (negation.merge (paren.merge closing)) (e.withSpan (paren.merge closing)) := by
  simp [Group.close]

/-- A group goes on behind its closing parenthesis as one condition. -/
theorem Rank.Takes.closed (h : Rank.Takes .disjunction ts e) (g : Group) (groups : List Group)
    (closing : Span) :
    ParseState.Reaches ⟨.condition, .none, g :: groups⟩ (ts ++ [⟨.closeParen, closing⟩])
      ⟨.continuation (g.close closing e), g.around, groups⟩ := by
  obtain ⟨e', level, hreaches, rfl⟩ := h (g :: groups)
  exact hreaches.append ⟨_, rfl, rfl⟩

theorem Located.takes {rank : Rank} (h : Located rank ts e) : rank.Takes ts e := by
  induction h with
  | comparison l r op span h =>
    intro level groups
    refine ⟨⟨.checked l op r, level, groups⟩, rfl, ?_⟩
    unfold ParseState.settle checkComparison
    dsimp only
    rw [misuse?_eq_none.mpr h]
    rfl
  | group opening closing _ ih =>
    intro level groups
    exact (ih.closed ⟨none, opening, level⟩ groups closing).cons rfl
  | @not _ e negation opening closing _ ih =>
    intro level groups
    have hclosed := ih.closed ⟨some negation, opening, level⟩ groups closing
    rw [Group.close_negated] at hclosed
    exact .cons rfl (.cons rfl hclosed)
  | @single _ e _ ih =>
    intro disjunct groups
    exact ⟨e, none, ih ⟨disjunct, none⟩ groups, rfl⟩
  | @and _ _ _ r span _ _ ihl ihr =>
    intro disjunct groups
    obtain ⟨e', conjunct, hreaches, rfl⟩ := ihl disjunct groups
    exact ⟨r, _, hreaches.append (.cons rfl (ihr _ groups)), rfl⟩
  | @lone _ e _ ih =>
    intro groups
    obtain ⟨e', conjunct, hreaches, rfl⟩ := ih none groups
    exact ⟨e', _, hreaches, rfl⟩
  | or span _ _ ihl ihr =>
    intro groups
    obtain ⟨e', level, hreaches, rfl⟩ := ihl groups
    obtain ⟨e'', conjunct, hreaches', rfl⟩ := ihr (some (level.close e')) groups
    exact ⟨e'', _, hreaches.append (.cons rfl hreaches'), rfl⟩

theorem Located.outcome (h : Located .disjunction ts e) (span : Span) :
    (ts.foldlM ParseState.step Front.empty.state).bind (·.finish span) = .ok e := by
  obtain ⟨e', level, hreaches, rfl⟩ := h.takes []
  exact hreaches.finish

theorem map_symbol_eq_cons {x : Symbol} {ss : List Symbol} (h : ts.map Token.symbol = x :: ss) :
    ∃ span us, ts = ⟨x, span⟩ :: us ∧ us.map Token.symbol = ss := by
  obtain ⟨⟨symbol, span⟩, us, rfl, rfl, rfl⟩ := List.map_eq_cons_iff.mp h
  exact ⟨span, us, rfl, rfl⟩

/-- The tokens of a symbol between two lists of symbols. -/
theorem map_symbol_eq_append_cons {x : Symbol} {ss ss' : List Symbol}
    (h : ts.map Token.symbol = ss ++ x :: ss') :
    ∃ front span back, ts = front ++ ⟨x, span⟩ :: back ∧ front.map Token.symbol = ss ∧
      back.map Token.symbol = ss' := by
  obtain ⟨front, rest, rfl, hfront, hrest⟩ := List.map_eq_append_iff.mp h
  obtain ⟨span, back, rfl, hback⟩ := map_symbol_eq_cons hrest
  exact ⟨front, span, back, rfl, hfront, hback⟩

mutual

theorem Disjunction.exists_located : (d : Disjunction) → d.Obeys → ∀ ts : List Token,
    ts.map Token.symbol = d.yield → ∃ e, Located .disjunction ts e ∧ e.unspanned = d.tree
  | .single c, hobeys, ts, hts => by
    obtain ⟨e, he, htree⟩ := c.exists_located hobeys ts hts
    exact ⟨e, he.lone, htree⟩
  | .more d c, ⟨hd, hc⟩, ts, hts => by
    obtain ⟨front, span, back, rfl, hfront, hback⟩ := map_symbol_eq_append_cons hts
    obtain ⟨l, hl, hltree⟩ := d.exists_located hd front hfront
    obtain ⟨r, hr, hrtree⟩ := c.exists_located hc back hback
    exact ⟨_, .or span hl hr, congrArg₂ (Expr.logical .zero .or) hltree hrtree⟩

theorem Conjunction.exists_located : (c : Conjunction) → c.Obeys → ∀ ts : List Token,
    ts.map Token.symbol = c.yield → ∃ e, Located .conjunction ts e ∧ e.unspanned = c.tree
  | .single s, hobeys, ts, hts => by
    obtain ⟨e, he, htree⟩ := s.exists_located hobeys ts hts
    exact ⟨e, he.single, htree⟩
  | .more c s, ⟨hc, hs⟩, ts, hts => by
    obtain ⟨front, span, back, rfl, hfront, hback⟩ := map_symbol_eq_append_cons hts
    obtain ⟨l, hl, hltree⟩ := c.exists_located hc front hfront
    obtain ⟨r, hr, hrtree⟩ := s.exists_located hs back hback
    exact ⟨_, .and span hl hr, congrArg₂ (Expr.logical .zero .and) hltree hrtree⟩

theorem Simple.exists_located : (s : Simple) → s.Obeys → ∀ ts : List Token,
    ts.map Token.symbol = s.yield → ∃ e, Located .simple ts e ∧ e.unspanned = s.tree
  | .not d, hobeys, ts, hts => by
    obtain ⟨negation, ts₁, rfl, hts₁⟩ := map_symbol_eq_cons hts
    obtain ⟨opening, ts₂, rfl, hts₂⟩ := map_symbol_eq_cons hts₁
    obtain ⟨front, closing, back, rfl, hfront, hback⟩ := map_symbol_eq_append_cons hts₂
    obtain rfl := List.map_eq_nil_iff.mp hback
    obtain ⟨e, he, htree⟩ := d.exists_located hobeys front hfront
    refine ⟨_, .not negation opening closing he, ?_⟩
    rw [Expr.unspanned, Expr.unspanned_withSpan, htree]
    rfl
  | .group d, hobeys, ts, hts => by
    obtain ⟨opening, ts₁, rfl, hts₁⟩ := map_symbol_eq_cons hts
    obtain ⟨front, closing, back, rfl, hfront, hback⟩ := map_symbol_eq_append_cons hts₁
    obtain rfl := List.map_eq_nil_iff.mp hback
    obtain ⟨e, he, htree⟩ := d.exists_located hobeys front hfront
    refine ⟨_, .group opening closing he, ?_⟩
    rw [Expr.unspanned_withSpan, htree]
    rfl
  | .comparison l op r, hobeys, ts, hts => by
    obtain ⟨left, ts₁, rfl, hts₁⟩ := map_symbol_eq_cons hts
    obtain ⟨span, ts₂, rfl, hts₂⟩ := map_symbol_eq_cons hts₁
    obtain ⟨right, ts₃, rfl, hts₃⟩ := map_symbol_eq_cons hts₂
    obtain rfl := List.map_eq_nil_iff.mp hts₃
    exact ⟨_, .comparison ⟨l, left⟩ ⟨r, right⟩ op span hobeys, rfl⟩

end

/-- The parser builds the tree of the tokens with its spans, and no other. -/
theorem outcome_tokens_iff_located :
    (ts.foldlM ParseState.step Front.empty.state).bind (·.finish span) = .ok e ↔
      Located .disjunction ts e := by
  constructor
  · intro h
    obtain ⟨d, hyield, hobeys, -⟩ := outcome_tokens.mp ⟨e, h, rfl⟩
    obtain ⟨e', he', -⟩ := d.exists_located hobeys ts hyield.symm
    obtain rfl := Except.ok.inj (h.symm.trans (he'.outcome span))
    exact he'
  · intro h
    exact h.outcome span

theorem outcome_iff_located {source : String} :
    (Parsing.ofSource source).outcome = .ok e ↔
      ∃ ts span, (Lexer.ofString source).Reads (⟨.start, ⟨0, 0⟩⟩ :: ts) span ∧
        Located .disjunction ts e := by
  have hstart : ParseState.start.step ⟨.start, ⟨0, 0⟩⟩ = .ok Front.empty.state := rfl
  rw [Parsing.outcome_ofSource]
  constructor
  · rintro ⟨ts, span, hreads, hrun⟩
    obtain ⟨us, rfl, -⟩ := Lexer.reads_ofString.mp hreads
    rw [ParseState.foldlM_cons_bind, hstart] at hrun
    exact ⟨us, span, hreads, outcome_tokens_iff_located.mp hrun⟩
  · rintro ⟨ts, span, hreads, hlocated⟩
    refine ⟨_, span, hreads, ?_⟩
    rw [ParseState.foldlM_cons_bind, hstart]
    exact outcome_tokens_iff_located.mpr hlocated

end TagSieve

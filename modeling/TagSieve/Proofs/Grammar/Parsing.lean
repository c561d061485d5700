import TagSieve.Proofs.Grammar.Front
import TagSieve.Proofs.Token.Lexing

/-! The parser follows the grammar: between two tokens its state is that of a front of a sentence
whose comparisons keep the rules. -/
namespace TagSieve

variable {x : Symbol} {ss : List Symbol} {f g : Front} {p : ParseState} {e : Expr}

/-- A symbol as a token of no span. -/
def Symbol.bare (s : Symbol) : Token := ⟨s, .zero⟩

def Stage.next : Stage → Next
  | nothing => .condition
  | negation => .group .zero
  | left v => .operator ⟨v, .zero⟩
  | operator v op => .right ⟨v, .zero⟩ op
  | simple (.comparison l op r) => .checked ⟨l, .zero⟩ op ⟨r, .zero⟩
  | simple s => .continuation s.tree

def Chain.pending (c : Chain) : Pending :=
  ⟨c.disjunct.map Disjunction.tree, c.conjunct.map Conjunction.tree⟩

def Opening.group (o : Opening) : Group :=
  ⟨if o.negated then some .zero else none, .zero, o.around.pending⟩

def Front.state (f : Front) : ParseState :=
  ⟨f.stage.next, f.chain.pending, f.openings.map Opening.group⟩

def Chain.Obeys (c : Chain) : Prop :=
  (∀ d, c.disjunct = some d → d.Obeys) ∧ ∀ d, c.conjunct = some d → d.Obeys

def Stage.Obeys : Stage → Prop
  | simple s => s.Obeys
  | _ => True

/-- A comparison is not checked before the token behind it is known. -/
def Stage.Settled : Stage → Prop
  | simple (.comparison _ _ _) => True
  | s => s.Obeys

namespace Front

/-- Everything before the last `Simple` keeps the rules. -/
def AroundObeys (f : Front) : Prop := f.chain.Obeys ∧ ∀ o ∈ f.openings, o.around.Obeys

def Obeys (f : Front) : Prop := f.stage.Obeys ∧ f.AroundObeys

def Settled (f : Front) : Prop := f.stage.Settled ∧ f.AroundObeys

theorem Obeys.settled (h : f.Obeys) : f.Settled := by
  rcases f with ⟨stage, chain, os⟩
  obtain ⟨hstage, haround⟩ := h
  refine ⟨?_, haround⟩
  cases stage with
  | simple s =>
    cases s with
    | comparison => trivial
    | not | group => exact hstage
  | _ => trivial

end Front

namespace Chain

variable {c : Chain} {s : Simple}

theorem obeys_empty : Chain.empty.Obeys := ⟨nofun, nofun⟩

theorem obeys_conjoin :
    (c.conjoin s).Obeys ↔ (∀ d, c.conjunct = some d → d.Obeys) ∧ s.Obeys := by
  rcases c with ⟨d, _ | c⟩
  · simp [conjoin, Conjunction.Obeys]
  · simp [conjoin, Conjunction.Obeys]

theorem obeys_close : (c.close s).Obeys ↔ c.Obeys ∧ s.Obeys := by
  have hconjoin := obeys_conjoin (c := c) (s := s)
  rcases c with ⟨_ | d, c⟩
  · simpa [close, Disjunction.Obeys, Obeys] using hconjoin
  · simp [close, Disjunction.Obeys, Obeys, hconjoin, and_assoc]

theorem obeys_push (op : Connective) : (c.push s op).Obeys ↔ c.Obeys ∧ s.Obeys := by
  cases op with
  | and => simp [push, Obeys, obeys_conjoin, and_assoc]
  | or => simp [push, Obeys, obeys_close]

theorem conjoin_pending (c : Chain) (s : Simple) :
    c.pending.conjoin s.tree = (c.conjoin s).tree := by
  rcases c with ⟨d, _ | c⟩
  · rfl
  · simp [pending, conjoin, Pending.conjoin, Expr.join, Conjunction.tree, c.span_tree, s.span_tree,
      Expr.merge_zero]

theorem close_pending (c : Chain) (s : Simple) : c.pending.close s.tree = (c.close s).tree := by
  have hconjoin := conjoin_pending c s
  rcases c with ⟨_ | d, c⟩
  · exact hconjoin
  · unfold Pending.close
    rw [hconjoin]
    simp [pending, close, Expr.join, Disjunction.tree, d.span_tree, Conjunction.span_tree,
      Expr.merge_zero]

theorem push_pending (c : Chain) (s : Simple) (op : Connective) :
    c.pending.push s.tree op = (c.push s op).pending := by
  cases op with
  | and => simp [pending, push, Pending.push, ← conjoin_pending]
  | or => simp [pending, push, Pending.push, ← close_pending]

end Chain

theorem Opening.close_group (o : Opening) (d : Disjunction) :
    o.group.close .zero d.tree = (o.close d).tree := by
  rcases o with ⟨_ | _, around⟩
  · simp [group, close, Group.close, Simple.tree, Expr.merge_zero, d.withSpan_tree]
  · simp [group, close, Group.close, Simple.tree, Expr.merge_zero, d.withSpan_tree, d.span_tree]

theorem Opening.next_close (o : Opening) (d : Disjunction) :
    (Stage.simple (o.close d)).next = .continuation (o.close d).tree := by
  rcases o with ⟨_ | _, around⟩ <;> rfl

theorem Opening.settled_close (o : Opening) (d : Disjunction) :
    (Stage.simple (o.close d)).Settled ↔ d.Obeys := by
  rcases o with ⟨_ | _, around⟩ <;> rfl

namespace Front

/-- One more symbol shows whether the last comparison keeps the rules. -/
theorem settled_step (h : f.step x = some g) : g.Settled ↔ f.Obeys := by
  cases step_of_eq_some h with
  | connective s c =>
    simp [Settled, Obeys, AroundObeys, Stage.Settled, Stage.Obeys, Chain.obeys_push, and_assoc,
      and_left_comm]
  | closing s o =>
    simp [Settled, Obeys, AroundObeys, Stage.Obeys, Opening.settled_close, Chain.obeys_close,
      and_assoc, and_left_comm]
  | _ => simp [Settled, Obeys, AroundObeys, Stage.Settled, Stage.Obeys, Chain.obeys_empty]

theorem settled_run (h : f.run ss = some g) (hg : g.Settled) : f.Settled := by
  induction ss generalizing f with
  | nil =>
    cases h
    exact hg
  | cons x ss ih =>
    rw [run_cons] at h
    obtain ⟨f', hstep, hrun⟩ := Option.bind_eq_some_iff.mp h
    exact ((settled_step hstep).mp (ih hrun)).settled

theorem step_continuation (s : Simple) (chain : Chain) (os : List Opening) :
    ParseState.step ⟨.continuation s.tree, chain.pending, os.map Opening.group⟩ ⟨x, .zero⟩ = .ok p ↔
      ∃ g, step ⟨.simple s, chain, os⟩ x = some g ∧ g.state = p := by
  cases x with
  | connective c =>
    have hstep : ParseState.step ⟨.continuation s.tree, chain.pending, os.map Opening.group⟩
        ⟨.connective c, .zero⟩ = .ok (state ⟨.nothing, chain.push s c, os⟩) := by
      rw [state, ← Chain.push_pending]
      rfl
    rw [hstep]
    simp [step]
  | closeParen =>
    cases os with
    | nil =>
      constructor
      · intro h
        cases h
      · rintro ⟨g, hg, -⟩
        cases hg
    | cons o os =>
      have hstep : ParseState.step ⟨.continuation s.tree, chain.pending, (o :: os).map Opening.group⟩
          ⟨.closeParen, .zero⟩ = .ok (state ⟨.simple (o.close (chain.close s)), o.around, os⟩) := by
        rw [state, Opening.next_close, ← Opening.close_group, ← Chain.close_pending]
        rfl
      rw [hstep]
      simp [step]
  | _ =>
    constructor
    · intro h
      cases h
    · rintro ⟨g, hg, -⟩
      cases hg

theorem checkComparison_zero {l r : Value} {op : Operator} :
    checkComparison ⟨l, .zero⟩ op ⟨r, .zero⟩ = .ok e ↔
      Comparable l op r ∧ e = (Simple.comparison l op r).tree := by
  rw [← misuse?_eq_none]
  unfold checkComparison
  dsimp only
  cases misuse? op l r with
  | none => simp [Simple.tree, Expr.merge_zero, eq_comm]
  | some m => simp

/-- The parser takes a symbol in if the front does and the last comparison keeps the rules. -/
theorem step_state (hf : f.Settled) :
    f.state.step ⟨x, .zero⟩ = .ok p ↔ f.Obeys ∧ ∃ g, f.step x = some g ∧ g.state = p := by
  rcases f with ⟨stage, chain, os⟩
  obtain ⟨hstage, haround⟩ := hf
  have hobeys : Obeys ⟨stage, chain, os⟩ ↔ stage.Obeys := and_iff_left haround
  rw [hobeys]
  cases stage with
  | simple s =>
    cases s with
    | not d | group d => exact (step_continuation _ chain os).trans (iff_and_self.mpr fun _ => hstage)
    | comparison l op r =>
      have hstate : state ⟨.simple (.comparison l op r), chain, os⟩ =
          ⟨.checked ⟨l, .zero⟩ op ⟨r, .zero⟩, chain.pending, os.map Opening.group⟩ := rfl
      rw [hstate, ParseState.step_checked, bind_eq_ok, ← step_continuation]
      constructor
      · rintro ⟨e, he, h⟩
        obtain ⟨hcomparable, rfl⟩ := checkComparison_zero.mp he
        exact ⟨hcomparable, h⟩
      · rintro ⟨hcomparable, h⟩
        exact ⟨_, checkComparison_zero.mpr ⟨hcomparable, rfl⟩, h⟩
  | _ =>
    cases x <;>
      simp [step, state, Stage.Obeys, Stage.next, ParseState.step, ParseState.settle,
        ParseState.expect, ParseState.openGroup, Except.bind, Opening.group, Chain.pending,
        Chain.empty, Pending.none]

theorem run_state (hf : f.Settled) :
    ((ss.map Symbol.bare).foldlM ParseState.step f.state = .ok p) ↔
      ∃ g, f.run ss = some g ∧ g.Settled ∧ g.state = p := by
  induction ss generalizing f with
  | nil =>
    constructor
    · rintro ⟨⟩
      exact ⟨f, rfl, hf, rfl⟩
    · rintro ⟨g, ⟨⟩, -, rfl⟩
      rfl
  | cons x ss ih =>
    rw [List.map_cons, List.foldlM_cons, run_cons]
    refine bind_eq_ok.trans ?_
    constructor
    · rintro ⟨p', hp', hrun⟩
      obtain ⟨hobeys, f', hf', rfl⟩ := (step_state hf).mp hp'
      obtain ⟨g, hg, hsettled, rfl⟩ := (ih ((settled_step hf').mpr hobeys)).mp hrun
      exact ⟨g, by rw [hf', Option.bind_some, hg], hsettled, rfl⟩
    · rintro ⟨g, hg, hsettled, rfl⟩
      obtain ⟨f', hf', hrun⟩ := Option.bind_eq_some_iff.mp hg
      have hsettled' := settled_run hrun hsettled
      exact ⟨f'.state, (step_state hf).mpr ⟨(settled_step hf').mp hsettled', f', hf', rfl⟩,
        (ih hsettled').mpr ⟨g, hrun, hsettled, rfl⟩⟩

theorem finish_continuation (s : Simple) (chain : Chain) (os : List Opening) :
    ParseState.finish ⟨.continuation s.tree, chain.pending, os.map Opening.group⟩ .zero = .ok e ↔
      os = [] ∧ (chain.close s).tree = e := by
  rw [← Chain.close_pending]
  cases os with
  | nil =>
    constructor
    · rintro ⟨⟩
      exact ⟨rfl, rfl⟩
    · rintro ⟨-, rfl⟩
      rfl
  | cons o os =>
    constructor
    · intro h
      cases h
    · rintro ⟨h, -⟩
      cases h

theorem finish_state (hf : f.Settled) :
    f.state.finish .zero = .ok e ↔
      f.Obeys ∧ ∃ s, f.stage = .simple s ∧ f.openings = [] ∧ (f.chain.close s).tree = e := by
  rcases f with ⟨stage, chain, os⟩
  obtain ⟨hstage, haround⟩ := hf
  have hobeys : Obeys ⟨stage, chain, os⟩ ↔ stage.Obeys := and_iff_left haround
  rw [hobeys]
  cases stage with
  | simple s =>
    simp only [Stage.simple.injEq, exists_eq_left']
    cases s with
    | not d | group d =>
      exact (finish_continuation _ chain os).trans (iff_and_self.mpr fun _ => hstage)
    | comparison l op r =>
      have hstate : state ⟨.simple (.comparison l op r), chain, os⟩ =
          ⟨.checked ⟨l, .zero⟩ op ⟨r, .zero⟩, chain.pending, os.map Opening.group⟩ := rfl
      rw [hstate, ParseState.finish_checked, bind_eq_ok, ← finish_continuation]
      constructor
      · rintro ⟨e, he, h⟩
        obtain ⟨hcomparable, rfl⟩ := checkComparison_zero.mp he
        exact ⟨hcomparable, h⟩
      · rintro ⟨hcomparable, h⟩
        exact ⟨_, checkComparison_zero.mpr ⟨hcomparable, rfl⟩, h⟩
  | _ =>
    constructor
    · intro h
      cases h
    · rintro ⟨-, s, hs, -⟩
      cases hs

theorem settled_empty : empty.Settled := ⟨trivial, Chain.obeys_empty, nofun⟩

/-- The parser takes in exactly the sentences whose comparisons keep the rules. -/
theorem outcome_empty :
    ((ss.map Symbol.bare).foldlM ParseState.step empty.state).bind (·.finish .zero) = .ok e ↔
      ∃ d : Disjunction, d.yield = ss ∧ d.Obeys ∧ d.tree = e := by
  rw [bind_eq_ok]
  constructor
  · rintro ⟨p, hp, he⟩
    obtain ⟨g, hrun, hsettled, rfl⟩ := (run_state settled_empty).mp hp
    obtain ⟨hobeys, s, hstage, hopenings, rfl⟩ := (finish_state hsettled).mp he
    have hyield := yield_run hrun
    rw [yield, hopenings, hstage] at hyield
    refine ⟨g.chain.close s, ?_, Chain.obeys_close.mpr ⟨hobeys.2.1, ?_⟩, rfl⟩
    · rw [Chain.yield_close]
      exact hyield
    · have hs := hobeys.1
      rw [hstage] at hs
      exact hs
  · rintro ⟨d, rfl, hd, rfl⟩
    obtain ⟨s, chain, hrun, rfl⟩ := d.run_yield []
    obtain ⟨hchain, hs⟩ := Chain.obeys_close.mp hd
    have hobeys : Obeys ⟨.simple s, chain, []⟩ := ⟨hs, hchain, List.forall_mem_nil _⟩
    exact ⟨_, (run_state settled_empty).mpr ⟨_, hrun, hobeys.settled, rfl⟩,
      (finish_state hobeys.settled).mpr ⟨hobeys, s, rfl, rfl, rfl⟩⟩

end Front

theorem toOption_eq_some {ε α : Type} {x : Except ε α} {a : α} :
    x.toOption = some a ↔ x = .ok a := by
  cases x <;> simp [Except.toOption]

theorem outcome_tokens {ts : List Token} {span : Span} {t : Expr} :
    (∃ e, (ts.foldlM ParseState.step Front.empty.state).bind (·.finish span) = .ok e ∧
        e.unspanned = t) ↔
      ∃ d : Disjunction, d.yield = ts.map Token.symbol ∧ d.Obeys ∧ d.tree = t := by
  have hbare : ts.map Token.unspanned = (ts.map Token.symbol).map Symbol.bare := by
    rw [List.map_map]
    rfl
  have h := ParseState.unspanned_outcome Front.empty.state ts span
  have hempty : Front.empty.state.unspanned = Front.empty.state := rfl
  rw [hbare, hempty] at h
  rw [← Front.outcome_empty, ← toOption_eq_some, ← h, Option.map_eq_some_iff]
  simp only [toOption_eq_some]

/-- A source is parsed into the trees of the derivations of its symbols. -/
theorem outcome_iff_derives {source : String} {t : Expr} :
    (∃ e, (Parsing.ofSource source).outcome = .ok e ∧ e.unspanned = t) ↔
      ∃ d : Disjunction, Lexes source (.start :: d.yield) ∧ d.Obeys ∧ d.tree = t := by
  have hstart : ParseState.start.step ⟨.start, ⟨0, 0⟩⟩ = .ok Front.empty.state := rfl
  constructor
  · rintro ⟨e, he, rfl⟩
    obtain ⟨ts, span, hts, hrun⟩ := Parsing.outcome_ofSource.mp he
    obtain ⟨rest, rfl, -⟩ := Lexer.reads_ofString.mp hts
    rw [ParseState.foldlM_cons_bind, hstart] at hrun
    obtain ⟨d, hyield, hobeys, htree⟩ := outcome_tokens.mp ⟨e, hrun, rfl⟩
    exact ⟨d, ⟨_, span, hts, by rw [List.map_cons, hyield]⟩, hobeys, htree⟩
  · rintro ⟨d, ⟨ts, span, hts, hsymbols⟩, hobeys, htree⟩
    obtain ⟨rest, rfl, -⟩ := Lexer.reads_ofString.mp hts
    obtain ⟨-, hyield⟩ := List.cons.inj hsymbols
    obtain ⟨e, hrun, he⟩ := outcome_tokens.mpr ⟨d, hyield.symm, hobeys, htree⟩
    refine ⟨e, Parsing.outcome_ofSource.mpr ⟨_, span, hts, ?_⟩, he⟩
    rw [ParseState.foldlM_cons_bind, hstart]
    exact hrun

theorem Lexes.unique {source : String} {ss ts : List Symbol} (h : Lexes source ss)
    (h' : Lexes source ts) : ss = ts := by
  obtain ⟨as, _, has, rfl⟩ := h
  obtain ⟨bs, _, hbs, rfl⟩ := h'
  rw [(has.unique hbs).1]

namespace Filter

theorem ofSource_eq_ok {source : String} {e : Expr} :
    (∃ f, (parse source).result = .ok f ∧ f.expr = e) ↔
      (Parsing.ofSource source).outcome = .ok e := by
  have hparse : (parse source).result = ofSource source := rfl
  rw [hparse]
  unfold ofSource
  split
  next e' h => simp [h]
  next err h => simp [h]

/-- Every filter is the one that its source is read as. -/
theorem parse_source (f : Filter) : (parse f.source).result = .ok f := by
  obtain ⟨source, e, h⟩ := f
  have hparse : (parse source).result = ofSource source := rfl
  rw [hparse]
  unfold ofSource
  split
  next e' h' =>
    obtain rfl : e' = e := Except.ok.inj (h'.symm.trans h)
    rfl
  next err h' => simp [h] at h'

theorem source_of_parse {source : String} {f : Filter} (h : (parse source).result = .ok f) :
    f.source = source := by
  change ofSource source = .ok f at h
  unfold ofSource at h
  split at h
  next e _ =>
    cases h
    rfl
  next err _ => cases h

theorem derives (f : Filter) : ∃ d : Disjunction,
    Lexes f.source (.start :: d.yield) ∧ d.Obeys ∧ d.tree = f.expr.unspanned :=
  outcome_iff_derives.mp ⟨f.expr, f.parsed, rfl⟩

theorem obeys (f : Filter) : f.expr.Obeys := by
  obtain ⟨d, -, hobeys, htree⟩ := f.derives
  rw [← Expr.obeys_unspanned, ← htree]
  exact d.obeys_tree.mpr hobeys

/-- A source that is read as a sentence whose comparisons keep the rules is a filter with the tree of
its derivation. -/
theorem exists_of_lexes {source : String} {d : Disjunction} (h : Lexes source (.start :: d.yield))
    (hd : d.Obeys) : ∃ f, (parse source).result = .ok f ∧ f.expr.unspanned = d.tree := by
  obtain ⟨e, he, htree⟩ := outcome_iff_derives.mpr ⟨d, h, hd, rfl⟩
  obtain ⟨f, hf, rfl⟩ := ofSource_eq_ok.mpr he
  exact ⟨f, hf, htree⟩

/-- A source is a filter if and only if it is read to its end as a sentence whose comparisons keep
the rules. That sentence has one derivation, and the filter is its tree. -/
theorem parse_iff_derivation (source : String) :
    ((∃ f, (parse source).result = .ok f) ↔
      ∃ d : Disjunction, Lexes source (.start :: d.yield) ∧ d.Obeys) ∧
    (∀ f, (parse source).result = .ok f → ∃ d : Disjunction,
      f.expr.unspanned = d.tree ∧ Lexes source (.start :: d.yield) ∧
        ∀ d' : Disjunction, Lexes source (.start :: d'.yield) → d' = d) := by
  constructor
  · constructor
    · rintro ⟨f, hf⟩
      obtain ⟨d, hlexes, hobeys, -⟩ := f.derives
      exact ⟨d, source_of_parse hf ▸ hlexes, hobeys⟩
    · rintro ⟨d, hlexes, hobeys⟩
      obtain ⟨e, houtcome, -⟩ := outcome_iff_derives.mpr ⟨d, hlexes, hobeys, rfl⟩
      obtain ⟨f, hf, -⟩ := ofSource_eq_ok.mpr houtcome
      exact ⟨f, hf⟩
  · intro f hf
    obtain ⟨d, hlexes, -, htree⟩ := f.derives
    rw [source_of_parse hf] at hlexes
    refine ⟨d, htree.symm, hlexes, ?_⟩
    intro d' hlexes'
    have hyield := (List.cons.inj (hlexes'.unique hlexes)).2
    exact Disjunction.yield_injective hyield

end Filter

end TagSieve

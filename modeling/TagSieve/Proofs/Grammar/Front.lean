import TagSieve.Proofs.Grammar.Derivation

/-! Deriving a sentence from left to right. A symbol leaves at most one way to go on, so that no
sentence has two derivations. -/
namespace TagSieve

variable {x : Symbol} {ss : List Symbol}

/-- The conditions on one level before the last `||`, and behind it those before the last `&&`. -/
structure Chain where
  disjunct : Option Disjunction
  conjunct : Option Conjunction

namespace Chain

def empty : Chain := ⟨none, none⟩

def conjoin (l : Chain) (s : Simple) : Conjunction :=
  match l.conjunct with
  | some c => .more c s
  | none => .single s

def close (l : Chain) (s : Simple) : Disjunction :=
  match l.disjunct with
  | some d => .more d (l.conjoin s)
  | none => .single (l.conjoin s)

def push (l : Chain) (s : Simple) : Connective → Chain
  | .and => ⟨l.disjunct, some (l.conjoin s)⟩
  | .or => ⟨some (l.close s), none⟩

def yield (l : Chain) : List Symbol :=
  (match l.disjunct with
    | some d => d.yield ++ [.connective .or]
    | none => []) ++
  (match l.conjunct with
    | some c => c.yield ++ [.connective .and]
    | none => [])

end Chain

/-- What there is of the last `Simple`. -/
inductive Stage where
  | nothing
  | negation
  | left (v : Value)
  | operator (v : Value) (op : Operator)
  | simple (s : Simple)

def Stage.yield : Stage → List Symbol
  | nothing => []
  | negation => [.not]
  | left v => [.value v]
  | operator v op => [.value v, .operator op]
  | simple s => s.yield

/-- An open parenthesis, behind `!` or not, and the level around it. -/
structure Opening where
  negated : Bool
  around : Chain

namespace Opening

def close (o : Opening) (d : Disjunction) : Simple := if o.negated then .not d else .group d

def yield (o : Opening) : List Symbol :=
  o.around.yield ++ if o.negated then [.not, .openParen] else [.openParen]

end Opening

/-- The front of a sentence, with its openings from the inside out. -/
structure Front where
  stage : Stage
  chain : Chain
  openings : List Opening

def openingsYield : List Opening → List Symbol
  | [] => []
  | o :: os => openingsYield os ++ o.yield

namespace Front

variable {f g : Front}

def empty : Front := ⟨.nothing, .empty, []⟩

def yield (f : Front) : List Symbol := openingsYield f.openings ++ f.chain.yield ++ f.stage.yield

/-- The front with one more symbol. -/
def step (f : Front) (x : Symbol) : Option Front :=
  match f.stage, x with
  | .nothing, .value v => some { f with stage := .left v }
  | .nothing, .not => some { f with stage := .negation }
  | .nothing, .openParen => some ⟨.nothing, .empty, ⟨false, f.chain⟩ :: f.openings⟩
  | .negation, .openParen => some ⟨.nothing, .empty, ⟨true, f.chain⟩ :: f.openings⟩
  | .left v, .operator op => some { f with stage := .operator v op }
  | .operator l op, .value r => some { f with stage := .simple (.comparison l op r) }
  | .simple s, .connective c => some ⟨.nothing, f.chain.push s c, f.openings⟩
  | .simple s, .closeParen =>
    match f.openings with
    | o :: os => some ⟨.simple (o.close (f.chain.close s)), o.around, os⟩
    | [] => none
  | _, _ => none

def run (f : Front) (ss : List Symbol) : Option Front := ss.foldlM step f

/-- The ways in which a front can go on. -/
inductive Step : Front → Symbol → Front → Prop
  | left (v : Value) (chain : Chain) (os : List Opening) :
      Step ⟨.nothing, chain, os⟩ (.value v) ⟨.left v, chain, os⟩
  | negation (chain : Chain) (os : List Opening) :
      Step ⟨.nothing, chain, os⟩ .not ⟨.negation, chain, os⟩
  | opening (chain : Chain) (os : List Opening) :
      Step ⟨.nothing, chain, os⟩ .openParen ⟨.nothing, .empty, ⟨false, chain⟩ :: os⟩
  | negated (chain : Chain) (os : List Opening) :
      Step ⟨.negation, chain, os⟩ .openParen ⟨.nothing, .empty, ⟨true, chain⟩ :: os⟩
  | operator (v : Value) (op : Operator) (chain : Chain) (os : List Opening) :
      Step ⟨.left v, chain, os⟩ (.operator op) ⟨.operator v op, chain, os⟩
  | right (l : Value) (op : Operator) (r : Value) (chain : Chain) (os : List Opening) :
      Step ⟨.operator l op, chain, os⟩ (.value r) ⟨.simple (.comparison l op r), chain, os⟩
  | connective (s : Simple) (c : Connective) (chain : Chain) (os : List Opening) :
      Step ⟨.simple s, chain, os⟩ (.connective c) ⟨.nothing, chain.push s c, os⟩
  | closing (s : Simple) (o : Opening) (chain : Chain) (os : List Opening) :
      Step ⟨.simple s, chain, o :: os⟩ .closeParen ⟨.simple (o.close (chain.close s)), o.around, os⟩

theorem step_of_eq_some (h : f.step x = some g) : f.Step x g := by
  obtain ⟨stage, chain, os⟩ := f
  cases stage with
  | nothing =>
    cases x with
    | value v =>
      cases h
      exact .left v chain os
    | not =>
      cases h
      exact .negation chain os
    | openParen =>
      cases h
      exact .opening chain os
    | _ => cases h
  | negation =>
    cases x <;> cases h
    exact .negated chain os
  | left v =>
    cases x <;> cases h
    exact .operator v _ chain os
  | operator l op =>
    cases x <;> cases h
    exact .right l op _ chain os
  | simple s =>
    cases x with
    | connective c =>
      cases h
      exact .connective s c chain os
    | closeParen =>
      cases os with
      | nil => cases h
      | cons o os =>
        cases h
        exact .closing s o chain os
    | _ => cases h

end Front

@[simp] theorem Chain.yield_empty : Chain.empty.yield = [] := rfl

theorem Chain.yield_conjoin (l : Chain) (s : Simple) :
    (Chain.mk l.disjunct none).yield ++ (l.conjoin s).yield = l.yield ++ s.yield := by
  rcases l with ⟨d, _ | c⟩
  · rfl
  · simp [yield, conjoin, Conjunction.yield]

theorem Chain.yield_close (l : Chain) (s : Simple) : (l.close s).yield = l.yield ++ s.yield := by
  rw [← yield_conjoin]
  rcases l with ⟨_ | d, c⟩
  · rfl
  · simp [yield, close, Disjunction.yield, conjoin]

theorem Chain.yield_push (l : Chain) (s : Simple) (c : Connective) :
    (l.push s c).yield = l.yield ++ s.yield ++ [.connective c] := by
  cases c with
  | and =>
    rw [← yield_conjoin]
    simp [push, yield]
  | or =>
    rw [← yield_close]
    simp [push, yield]

theorem Opening.yield_close (o : Opening) (d : Disjunction) :
    o.around.yield ++ (o.close d).yield = o.yield ++ d.yield ++ [.closeParen] := by
  rcases o with ⟨_ | _, around⟩ <;> simp [yield, close, Simple.yield]

/-- Each symbol stands behind those read before. -/
theorem Front.yield_step {f g : Front} (h : f.step x = some g) : g.yield = f.yield ++ [x] := by
  cases step_of_eq_some h with
  | closing s o chain os =>
    calc openingsYield os ++ o.around.yield ++ (o.close (chain.close s)).yield
        = openingsYield os ++ (o.yield ++ (chain.yield ++ s.yield) ++ [.closeParen]) := by
          rw [List.append_assoc, Opening.yield_close, Chain.yield_close]
      _ = openingsYield (o :: os) ++ chain.yield ++ s.yield ++ [.closeParen] := by
          simp [openingsYield]
  | _ => simp [yield, Stage.yield, openingsYield, Opening.yield, Chain.yield_push, Simple.yield]

theorem Front.yield_run {f g : Front} (h : f.run ss = some g) : g.yield = f.yield ++ ss := by
  induction ss generalizing f with
  | nil =>
    cases h
    exact (List.append_nil _).symm
  | cons x ss ih =>
    unfold run at h
    rw [List.foldlM_cons] at h
    obtain ⟨f', hstep, hrun⟩ := Option.bind_eq_some_iff.mp h
    rw [ih hrun, yield_step hstep, List.append_assoc, List.singleton_append]

namespace Front

variable {f g : Front} {os : List Opening} {chain : Chain}

theorem run_append (f : Front) (ss ts : List Symbol) :
    f.run (ss ++ ts) = (f.run ss).bind fun f => f.run ts := by
  unfold run
  rw [List.foldlM_append]
  rfl

theorem run_cons (f : Front) (x : Symbol) (ss : List Symbol) :
    f.run (x :: ss) = (f.step x).bind fun f => f.run ss := by
  unfold run
  rw [List.foldlM_cons]
  rfl

end Front

mutual

theorem Disjunction.run_yield (os : List Opening) : (d : Disjunction) →
    ∃ s chain, Front.run ⟨.nothing, .empty, os⟩ d.yield = some ⟨.simple s, chain, os⟩ ∧
      chain.close s = d
  | .single c => by
    obtain ⟨s, conjunct, hrun, rfl⟩ := c.run_yield none os
    exact ⟨s, ⟨none, conjunct⟩, hrun, rfl⟩
  | .more d c => by
    obtain ⟨s, chain, hrun, rfl⟩ := d.run_yield os
    obtain ⟨s', conjunct, hrun', rfl⟩ := c.run_yield (some (chain.close s)) os
    refine ⟨s', ⟨some (chain.close s), conjunct⟩, ?_, rfl⟩
    rw [Disjunction.yield, Front.run_append, hrun, Option.bind_some, Front.run_cons]
    exact hrun'

theorem Conjunction.run_yield (disjunct : Option Disjunction) (os : List Opening) :
    (c : Conjunction) → ∃ s conjunct, Front.run ⟨.nothing, ⟨disjunct, none⟩, os⟩ c.yield =
        some ⟨.simple s, ⟨disjunct, conjunct⟩, os⟩ ∧ Chain.conjoin ⟨disjunct, conjunct⟩ s = c
  | .single s => ⟨s, none, s.run_yield _ os, rfl⟩
  | .more c s => by
    obtain ⟨s', conjunct, hrun, rfl⟩ := c.run_yield disjunct os
    refine ⟨s, some (Chain.conjoin ⟨disjunct, conjunct⟩ s'), ?_, rfl⟩
    rw [Conjunction.yield, Front.run_append, hrun, Option.bind_some, Front.run_cons]
    exact s.run_yield _ os

theorem Simple.run_yield (chain : Chain) (os : List Opening) :
    (s : Simple) → Front.run ⟨.nothing, chain, os⟩ s.yield = some ⟨.simple s, chain, os⟩
  | .not d => by
    obtain ⟨s, inner, hrun, rfl⟩ := d.run_yield (⟨true, chain⟩ :: os)
    have hopen : Front.run ⟨.nothing, chain, os⟩ [.not, .openParen] =
        some ⟨.nothing, .empty, ⟨true, chain⟩ :: os⟩ := rfl
    change Front.run _ ([.not, .openParen] ++ (_ ++ _)) = _
    rw [Front.run_append, hopen, Option.bind_some, Front.run_append, hrun]
    rfl
  | .group d => by
    obtain ⟨s, inner, hrun, rfl⟩ := d.run_yield (⟨false, chain⟩ :: os)
    have hopen : Front.run ⟨.nothing, chain, os⟩ [.openParen] =
        some ⟨.nothing, .empty, ⟨false, chain⟩ :: os⟩ := rfl
    change Front.run _ ([.openParen] ++ (_ ++ _)) = _
    rw [Front.run_append, hopen, Option.bind_some, Front.run_append, hrun]
    rfl
  | .comparison _ _ _ => rfl

end

/-- No sentence has two derivations. -/
theorem Disjunction.yield_injective {d d' : Disjunction} (h : d.yield = d'.yield) : d = d' := by
  obtain ⟨s, chain, hrun, rfl⟩ := d.run_yield []
  obtain ⟨s', chain', hrun', rfl⟩ := d'.run_yield []
  rw [h, hrun'] at hrun
  cases hrun
  rfl

end TagSieve

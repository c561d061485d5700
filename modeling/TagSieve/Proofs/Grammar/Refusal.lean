import TagSieve.Proofs.Grammar.Parsing
import TagSieve.Proofs.Grammar.Viable

/-! Refusals. A step of the parser fails at a comparison that breaks a rule, or at a token that no
sentence has there. -/
namespace TagSieve

variable {s s' : ParseState} {t : Token} {e : ParseError} {f : Front} {b : Nat} {span : Span}

/-- The errors for a token that cannot come next. -/
def ParseError.IsRefusal : ParseError → Prop
  | .unexpected _ _ _ | .notWithoutGroup _ _ | .unclosedGroup _ _ => True
  | _ => False

namespace ParseState

/-- Checking a comparison opens and closes no group, and it is done once. -/
theorem settle_eq_ok (h : s.settle = .ok s') :
    s'.groups = s.groups ∧ (∀ n, s'.next = .group n → s.next = .group n) ∧ s'.settle = .ok s' := by
  obtain ⟨next, level, groups⟩ := s
  cases next with
  | checked l op r =>
    simp only [settle] at h
    cases hcheck : checkComparison l op r with
    | error e =>
      rw [hcheck] at h
      cases h
    | ok e =>
      rw [hcheck] at h
      cases h
      refine ⟨rfl, ?_, rfl⟩
      rintro n ⟨⟩
  | _ =>
    cases h
    exact ⟨rfl, fun _ h => h, rfl⟩

theorem step_of_settle (h : s.settle = .ok s') (t : Token) : s.step t = s'.step t := by
  unfold step
  rw [h, (settle_eq_ok h).2.2]

/-- Only a comparison that breaks a rule fails its check, and the error spans both sides. -/
theorem settle_eq_error (h : s.settle = .error e) :
    ∃ m op left right, s.next = .checked left op right ∧
      e = .misuse m op left.value right.value (left.span.merge right.span) := by
  obtain ⟨next, level, groups⟩ := s
  cases next with
  | checked l op r =>
    simp only [settle, checkComparison] at h
    cases hmisuse : misuse? op l.value r.value with
    | none =>
      rw [hmisuse] at h
      cases h
    | some m =>
      rw [hmisuse] at h
      cases h
      exact ⟨m, op, l, r, rfl, rfl⟩
  | _ => cases h

/-- What a token that can come next makes of a state whose comparisons have been checked. -/
inductive Step : ParseState → Token → ParseState → Prop
  | start (level : Pending) (groups : List Group) (span : Span) :
      Step ⟨.start, level, groups⟩ ⟨.start, span⟩ ⟨.condition, level, groups⟩
  | left (level : Pending) (groups : List Group) (v : Value) (span : Span) :
      Step ⟨.condition, level, groups⟩ ⟨.value v, span⟩ ⟨.operator ⟨v, span⟩, level, groups⟩
  | negation (level : Pending) (groups : List Group) (span : Span) :
      Step ⟨.condition, level, groups⟩ ⟨.not, span⟩ ⟨.group span, level, groups⟩
  | opening (level : Pending) (groups : List Group) (span : Span) :
      Step ⟨.condition, level, groups⟩ ⟨.openParen, span⟩
        ⟨.condition, .none, ⟨none, span, level⟩ :: groups⟩
  | negated (n : Span) (level : Pending) (groups : List Group) (span : Span) :
      Step ⟨.group n, level, groups⟩ ⟨.openParen, span⟩
        ⟨.condition, .none, ⟨some n, span, level⟩ :: groups⟩
  | operator (left : Operand) (op : Operator) (level : Pending) (groups : List Group)
      (span : Span) :
      Step ⟨.operator left, level, groups⟩ ⟨.operator op, span⟩ ⟨.right left op, level, groups⟩
  | right (left : Operand) (op : Operator) (level : Pending) (groups : List Group) (v : Value)
      (span : Span) :
      Step ⟨.right left op, level, groups⟩ ⟨.value v, span⟩
        ⟨.checked left op ⟨v, span⟩, level, groups⟩
  | connective (e : Expr) (level : Pending) (groups : List Group) (c : Connective) (span : Span) :
      Step ⟨.continuation e, level, groups⟩ ⟨.connective c, span⟩
        ⟨.condition, level.push e c, groups⟩
  | closing (e : Expr) (level : Pending) (g : Group) (groups : List Group) (span : Span) :
      Step ⟨.continuation e, level, g :: groups⟩ ⟨.closeParen, span⟩
        ⟨.continuation (g.close span (level.close e)), g.around, groups⟩

theorem step_of_eq_ok (h : s.step t = .ok s') :
    ∃ settled, s.settle = .ok settled ∧ Step settled t s' := by
  obtain ⟨settled, hsettle, hstep⟩ := bind_eq_ok.mp h
  refine ⟨settled, hsettle, ?_⟩
  obtain ⟨next, level, groups⟩ := settled
  obtain ⟨symbol, span⟩ := t
  clear h hsettle
  cases next with
  | start =>
    cases symbol <;> cases hstep
    exact .start level groups span
  | condition =>
    cases symbol with
    | value v =>
      cases hstep
      exact .left level groups v span
    | not =>
      cases hstep
      exact .negation level groups span
    | openParen =>
      cases hstep
      exact .opening level groups span
    | _ => cases hstep
  | group n =>
    cases symbol <;> cases hstep
    exact .negated n level groups span
  | operator left =>
    cases symbol <;> cases hstep
    exact .operator left _ level groups span
  | right left op =>
    cases symbol <;> cases hstep
    exact .right left op level groups _ span
  | checked left op right => cases hstep
  | continuation e =>
    cases symbol with
    | connective c =>
      cases hstep
      exact .connective e level groups c span
    | closeParen =>
      cases groups with
      | nil => cases hstep
      | cons g groups =>
        cases hstep
        exact .closing e level g groups span
    | _ => cases hstep

/-- What a step makes of the groups: it leaves them, opens one at its token or closes the last. -/
theorem groups_of_step (h : s.step t = .ok s') :
    (s'.groups = s.groups ∨ (∃ n p, s'.groups = ⟨n, t.span, p⟩ :: s.groups) ∨
      ∃ g, s.groups = g :: s'.groups) ∧
    ∀ n, s'.next = .group n → n = t.span := by
  obtain ⟨settled, hsettle, hstep⟩ := step_of_eq_ok h
  rw [← (settle_eq_ok hsettle).1]
  clear h hsettle
  cases hstep with
  | start | left | operator | right | connective => exact ⟨Or.inl rfl, nofun⟩
  | negation =>
    refine ⟨Or.inl rfl, ?_⟩
    rintro n ⟨⟩
    rfl
  | opening | negated => exact ⟨Or.inr (Or.inl ⟨_, _, rfl⟩), nofun⟩
  | closing => exact ⟨Or.inr (Or.inr ⟨_, rfl⟩), nofun⟩

theorem refuse_isRefusal (s : ParseState) (found : Symbol) (span : Span) :
    (s.refuse found span).IsRefusal ∧ ((s.refuse found span).span = span ∨
      ∃ g ∈ s.groups, (s.refuse found span).span = g.paren.merge span) := by
  obtain ⟨next, level, groups⟩ := s
  cases groups with
  | nil => exact ⟨trivial, Or.inl rfl⟩
  | cons g groups => exact ⟨trivial, Or.inr ⟨g, List.mem_cons_self, rfl⟩⟩

/-- A step fails at a comparison that breaks a rule, or it refuses its token. The span of a refusal
reaches from the token, or from what is open before it, to the token. -/
theorem error_of_step (h : s.step t = .error e) :
    s.settle = .error e ∨ e.IsRefusal ∧ (e.span = t.span ∨
      (∃ g ∈ s.groups, e.span = g.paren.merge t.span) ∨
      ∃ n, s.next = .group n ∧ e.span = n.merge t.span) := by
  unfold step at h
  cases hsettle : s.settle with
  | error e' =>
    rw [hsettle] at h
    cases h
    exact Or.inl rfl
  | ok settled =>
    rw [hsettle] at h
    obtain ⟨hgroups, hnext, -⟩ := settle_eq_ok hsettle
    have hrefuse := settled.refuse_isRefusal t.symbol t.span
    rw [hgroups] at hrefuse
    obtain ⟨next, level, groups⟩ := settled
    obtain ⟨symbol, span⟩ := t
    clear hsettle
    right
    dsimp only [Except.bind] at h hnext hrefuse ⊢
    cases next with
    | start | condition | operator | right =>
      cases symbol <;> cases h <;> exact ⟨trivial, Or.inl rfl⟩
    | group n => cases symbol <;> cases h <;> exact ⟨trivial, Or.inr (Or.inr ⟨n, hnext n rfl, rfl⟩)⟩
    | checked =>
      cases h
      exact hrefuse.imp_right (Or.imp_right Or.inl)
    | continuation e' =>
      change proceed ⟨.continuation e', level, groups⟩ e' ⟨symbol, span⟩ = .error e at h
      unfold proceed at h
      split at h
      · cases h
      · cases h
      · cases h
        exact hrefuse.imp_right (Or.imp_right Or.inl)

/-- No step makes up an error of the lexer. -/
theorem ne_lex_of_step (h : s.step t = .error e) (e' : LexError) : e ≠ .lex e' := by
  rintro rfl
  rcases error_of_step h with hsettle | ⟨hrefusal, -⟩
  · obtain ⟨m, op, left, right, -, heq⟩ := settle_eq_error hsettle
    cases heq
  · exact hrefusal

theorem not_settle_of_refusal (he : e.IsRefusal) : s.settle ≠ .error e := by
  intro h
  obtain ⟨m, op, left, right, -, rfl⟩ := settle_eq_error h
  exact he

/-- What is open before a position. -/
def Within (s : ParseState) (b : Nat) : Prop :=
  (∀ g ∈ s.groups, g.paren.stop ≤ b) ∧ ∀ n, s.next = .group n → n.stop ≤ b

theorem Within.step (hs : s.Within b) (h : s.step t = .ok s') (hb : b ≤ t.span.stop) :
    s'.Within t.span.stop := by
  obtain ⟨hgroups, hnext⟩ := groups_of_step h
  refine ⟨fun g hg => ?_, fun n hn => (hnext n hn).symm ▸ Nat.le_refl _⟩
  rcases hgroups with hsame | ⟨n, p, hopen⟩ | ⟨o, hclose⟩
  · exact (hs.1 g (hsame ▸ hg)).trans hb
  · rw [hopen] at hg
    rcases List.mem_cons.mp hg with rfl | hg
    · exact Nat.le_refl _
    · exact (hs.1 g hg).trans hb
  · exact (hs.1 g (hclose ▸ List.mem_cons_of_mem o hg)).trans hb

/-- A refusal ends where its token ends. -/
theorem Within.stop_refusal (hs : s.Within b) (h : s.step t = .error e) (he : e.IsRefusal)
    (hb : b ≤ t.span.stop) : e.span.stop = t.span.stop := by
  obtain ⟨-, hspan⟩ := (error_of_step h).resolve_left (not_settle_of_refusal he)
  rcases hspan with hspan | ⟨g, hg, hspan⟩ | ⟨n, hn, hspan⟩
  · rw [hspan]
  · rw [hspan]
    exact Nat.max_eq_right ((hs.1 g hg).trans hb)
  · rw [hspan]
    exact Nat.max_eq_right ((hs.2 n hn).trans hb)

/-- The end is never taken in as a token before it. -/
theorem step_finish (s : ParseState) (span : Span) : s.step ⟨.finish, span⟩ ≠ .ok s' := by
  intro h
  obtain ⟨⟨next, level, groups⟩, -, hstep⟩ := bind_eq_ok.mp h
  cases next with
  | continuation e =>
    cases groups <;> cases hstep
  | _ => cases hstep

/-- A filter that cannot end is refused as with any other token that cannot come next. -/
theorem step_of_finish (h : s.finish span = .error e) : s.step ⟨.finish, span⟩ = .error e := by
  unfold finish at h
  cases hsettle : s.settle with
  | error e' =>
    rw [hsettle] at h
    cases h
    unfold step
    rw [hsettle]
    rfl
  | ok settled =>
    rw [hsettle] at h
    rw [step_of_settle hsettle]
    dsimp only [Except.bind] at h
    split at h
    next => cases h
    next =>
      cases hstep : settled.step ⟨.finish, span⟩ with
      | ok s' => exact absurd hstep (step_finish settled span)
      | error e' =>
        rw [hstep] at h
        cases h
        rfl

/-- A comparison that has passed its check keeps the rules. -/
theorem obeys_of_settle (hs : s.unspanned = f.state) (hf : f.Settled) (h : s.settle = .ok s') :
    f.Obeys := by
  obtain ⟨stage, chain, os⟩ := f
  refine ⟨?_, hf.2⟩
  cases stage with
  | simple x =>
    cases x with
    | not d | group d => exact hf.1
    | comparison l op r =>
      obtain ⟨next, level, groups⟩ := s
      have hnext : next.unspanned = .checked ⟨l, .zero⟩ op ⟨r, .zero⟩ := congrArg ParseState.next hs
      cases next with
      | checked left op' right =>
        simp only [Next.unspanned, Operand.unspanned, Next.checked.injEq, Operand.mk.injEq,
          and_true] at hnext
        obtain ⟨rfl, rfl, rfl⟩ := hnext
        apply misuse?_eq_none.mp
        simp only [settle, checkComparison] at h
        cases hmisuse : misuse? op' left.value right.value with
        | none => rfl
        | some m =>
          rw [hmisuse] at h
          cases h
      | _ => cases hnext
  | _ => trivial

theorem obeys_of_refusal (hs : s.unspanned = f.state) (hf : f.Settled) (h : s.step t = .error e)
    (he : e.IsRefusal) : f.Obeys := by
  cases hsettle : s.settle with
  | ok settled => exact obeys_of_settle hs hf hsettle
  | error e' =>
    unfold step at h
    rw [hsettle] at h
    cases h
    exact absurd hsettle (not_settle_of_refusal he)

/-- No sentence goes on with a symbol that is refused. -/
theorem front_of_refusal (hs : s.unspanned = f.state) (hf : f.Settled) (h : s.step t = .error e)
    (he : e.IsRefusal) : f.step t.symbol = none := by
  have hobeys := obeys_of_refusal hs hf h he
  have hunspanned := unspanned_step s t
  rw [h, hs] at hunspanned
  cases hg : f.step t.symbol with
  | none => rfl
  | some g =>
    have hstep : f.state.step t.unspanned = .ok g.state :=
      (Front.step_state hf).mpr ⟨hobeys, g, hg, rfl⟩
    rw [hstep] at hunspanned
    cases hunspanned

/-- No sentence ends where the end is refused. -/
theorem not_complete_of_refusal (hs : s.unspanned = f.state) (hf : f.Settled)
    (h : s.finish span = .error e) (he : e.IsRefusal) : ¬ f.Complete := by
  rintro ⟨x, hstage, hopenings⟩
  have hobeys := obeys_of_refusal hs hf (step_of_finish h) he
  have hunspanned := unspanned_finish s span
  have hfinish := (Front.finish_state hf).mpr ⟨hobeys, x, hstage, hopenings, rfl⟩
  rw [h, hs, hfinish] at hunspanned
  cases hunspanned

end ParseState

end TagSieve

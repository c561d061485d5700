import TagSieve.Proofs.Grammar.FirstFault
import TagSieve.Proofs.Grammar.Slices

/-! Comparisons that break a rule. The first of them is reported with its own span, and its text
alone is refused for the same reason. -/
namespace TagSieve

variable {s s' : ParseState} {l l' : Lexer} {t : Token} {ts us : List Token} {e : ParseError}
  {f g : Front} {left right : Operand} {x y : Value} {op q : Operator}
  {ss rest : List Symbol} {span : Span} {n : Nat}

/-- The token that an operand was read from. -/
def Operand.token (o : Operand) : Token := ⟨.value o.value, o.span⟩

/-- The unfinished comparison consists of the last tokens. -/
def Next.Recalls : Next → List Token → Prop
  | .operator left, ts => [left.token] <:+ ts
  | .right left op, ts => ∃ span, [left.token, ⟨.operator op, span⟩] <:+ ts
  | .checked left op right, ts => ∃ span, [left.token, ⟨.operator op, span⟩, right.token] <:+ ts
  | _, _ => True

namespace ParseState

theorem settle_cases (h : s.settle = .ok s') : s' = s ∨ ∃ e, s'.next = .continuation e := by
  obtain ⟨next, level, groups⟩ := s
  cases next with
  | checked left op right =>
    simp only [settle] at h
    cases hcheck : checkComparison left op right with
    | error e =>
      rw [hcheck] at h
      cases h
    | ok e =>
      rw [hcheck] at h
      cases h
      exact Or.inr ⟨e, rfl⟩
  | _ =>
    cases h
    exact Or.inl rfl

theorem recalls_step (h : s.step t = .ok s') (hs : s.next.Recalls ts) :
    s'.next.Recalls (ts ++ [t]) := by
  obtain ⟨settled, hsettle, hstep⟩ := step_of_eq_ok h
  have hsettled : settled.next.Recalls ts := by
    rcases settle_cases hsettle with rfl | ⟨e, he⟩
    · exact hs
    · rw [he]
      trivial
  clear h hs hsettle
  cases hstep with
  | start | negation | opening | negated | connective | closing => trivial
  | left => exact List.suffix_append ts _
  | operator left op level groups span =>
    obtain ⟨before, rfl⟩ := hsettled
    exact ⟨span, before, by simp⟩
  | right =>
    obtain ⟨last, before, rfl⟩ := hsettled
    exact ⟨last, before, by simp [Operand.token]⟩

end ParseState

theorem checkComparison_eq_error : checkComparison left op right = .error e ↔
    ∃ m, misuse? op left.value right.value = some m ∧
      e = .misuse m op left.value right.value (left.span.merge right.span) := by
  unfold checkComparison
  dsimp only
  cases misuse? op left.value right.value with
  | none => simp
  | some m => simp [eq_comm]

/-- A check that fails is that of the last comparison. -/
theorem ParseState.misuse_of_settle (h : s.settle = .error e) : ∃ m op left right,
    s.next = .checked left op right ∧ misuse? op left.value right.value = some m ∧
      e = .misuse m op left.value right.value (left.span.merge right.span) := by
  obtain ⟨next, level, groups⟩ := s
  cases next with
  | checked left op right =>
    simp only [settle] at h
    cases hcheck : checkComparison left op right with
    | error e' =>
      rw [hcheck] at h
      cases h
      obtain ⟨m, hm, he⟩ := checkComparison_eq_error.mp hcheck
      exact ⟨m, op, left, right, rfl, hm, he⟩
    | ok e' =>
      rw [hcheck] at h
      cases h
  | _ => cases h

/-- What stops the parser and is no token and no error of the lexer is a comparison. -/
theorem Stops.settle_eq_error {p : Parsing} (h : Stops s l p) (he : p.outcome = .error e)
    (hlex : ∀ e', e ≠ .lex e') (hrefusal : ¬ e.IsRefusal) : s.settle = .error e := by
  cases h with
  | lex h =>
    cases he
    exact absurd rfl (hlex _)
  | finish h ht =>
    have hstep := ParseState.step_of_finish he
    exact (ParseState.error_of_step hstep).resolve_right fun h => hrefusal h.1
  | refusal h ht hs =>
    obtain rfl := Except.error.inj he
    exact (ParseState.error_of_step hs).resolve_right fun h => hrefusal h.1

namespace Advances

theorem recalls (h : Advances s l us s' l') (hs : s.next.Recalls ts) :
    s'.next.Recalls (ts ++ us) := by
  induction h generalizing ts with
  | refl => rwa [List.append_nil]
  | step _ _ hstep _ ih =>
    rw [← List.singleton_append, ← List.append_assoc]
    exact ih (ParseState.recalls_step hstep hs)

/-- The tokens are read off the text that the lexer had left. -/
theorem lays (h : Advances s l ts s' l') (hl : l.started = true) :
    Lays l.position l.rest ts l'.rest := by
  induction h with
  | refl => exact .nil _ _
  | @step s s₁ s' l l' t ts h ht _ _ ih =>
    obtain ⟨n, hread, hstarted⟩ := Lexer.readToken_of_next hl h
    have hlays := ih hstarted
    have hnext := Lexer.next_of_readToken hl hread
    rw [hnext] at h hlays
    obtain ⟨symbol, span⟩ := t
    cases h
    exact .cons hread ht hlays

end Advances

/-- A comparison with a token behind it keeps the rules. -/
theorem Front.comparable_of_run
    (h : f.run (ss ++ .value x :: .operator q :: .value y :: rest) = some g) (hg : g.Settled)
    (hrest : rest ≠ []) : Comparable x q y := by
  obtain ⟨z, rest, rfl⟩ := List.exists_cons_of_ne_nil hrest
  simp only [run_append, run_cons, Option.bind_eq_some_iff] at h
  obtain ⟨⟨stage, chain, os⟩, -, f₁, h₁, f₂, h₂, f₃, h₃, f₄, h₄, hrun⟩ := h
  cases stage with
  | nothing =>
    cases h₁
    cases h₂
    cases h₃
    exact ((settled_step h₄).mp (settled_run hrun hg)).1
  | operator v op =>
    cases h₁
    cases h₂
  | _ => cases h₁

theorem Front.comparable_of_infix {before : List Token} {l o r : Span}
    (h : f.run ((before ++ ts).map Token.symbol) = some g) (hg : g.Settled) (hts : ts ≠ [])
    (hwithin : [(⟨.value x, l⟩ : Token), ⟨.operator q, o⟩, ⟨.value y, r⟩] <:+: before) :
    Comparable x q y := by
  obtain ⟨front, back, rfl⟩ := hwithin
  have hrest : (back ++ ts).map Token.symbol ≠ [] := by simp [hts]
  have hrun : f.run (front.map Token.symbol ++
      .value x :: .operator q :: .value y :: (back ++ ts).map Token.symbol) = some g := by
    rw [← h]
    simp
  exact comparable_of_run hrun hg hrest

/-- Parsing takes in the tokens of a lexer one after the other, whether it succeeds or not. -/
theorem ParseState.run_of_reads (h : l.Reads ts span) (hl : l.started = true)
    (hn : l.rest.length < n) :
    (s.run (TokenStream.ofCalls n l)).outcome = (ts.foldlM step s).bind (·.finish span) := by
  induction h generalizing s n with
  | finish h =>
    obtain ⟨n, rfl⟩ := Nat.exists_eq_add_one_of_ne_zero (Nat.ne_zero_of_lt hn)
    rw [TokenStream.ofCalls_of_finish h]
    rfl
  | token h ht _ ih =>
    obtain ⟨n, rfl⟩ := Nat.exists_eq_add_one_of_ne_zero (Nat.ne_zero_of_lt hn)
    obtain ⟨-, -, hstarted⟩ := Lexer.readToken_of_next hl h
    have hlt := Lexer.length_next_lt hl h ht
    rw [TokenStream.ofCalls_of_token h ht, run_token, foldlM_cons_bind]
    congr 1
    funext s₁
    exact ih hstarted (by omega)

theorem Parsing.outcome_of_reads {source : String}
    (h : (Lexer.ofString source).Reads (⟨.start, ⟨0, 0⟩⟩ :: ts) span) :
    (ofSource source).outcome =
      (ts.foldlM ParseState.step Front.empty.state).bind (·.finish span) := by
  obtain ⟨us, hus, hreads⟩ := Lexer.reads_ofString.mp h
  obtain rfl := (List.cons.inj hus).2
  exact ParseState.run_of_reads hreads rfl (Nat.lt_succ_self _)

/-- A comparison by itself is refused if it breaks a rule. -/
theorem Filter.parse_comparison {source : String} {last : Span} {m : Misuse}
    (h : (Lexer.ofString source).Reads
      [⟨.start, ⟨0, 0⟩⟩, left.token, ⟨.operator op, span⟩, right.token] last)
    (hm : misuse? op left.value right.value = some m) : (parse source).result =
      .error (.misuse m op left.value right.value (left.span.merge right.span)) := by
  have hstate : [left.token, ⟨.operator op, span⟩, right.token].foldlM ParseState.step
      Front.empty.state = .ok ⟨.checked left op right, .none, []⟩ := rfl
  rw [ofSource_eq_error, Parsing.outcome_of_reads h, hstate]
  change ParseState.finish _ last = _
  rw [ParseState.finish_checked, checkComparison_eq_error.mpr ⟨m, hm, rfl⟩]
  rfl

theorem map_shift_eq_comparison {k : Nat}
    (h : ts.map (Token.shift k) = [left.token, ⟨.operator op, span⟩, right.token]) :
    ∃ l o r, ts = [Operand.token l, ⟨.operator op, o⟩, Operand.token r] ∧ l.shift k = left ∧
      r.shift k = right := by
  obtain ⟨⟨_, l⟩, ts₁, rfl, hl, h₁⟩ := List.map_eq_cons_iff.mp h
  obtain ⟨⟨_, o⟩, ts₂, rfl, ho, h₂⟩ := List.map_eq_cons_iff.mp h₁
  obtain ⟨⟨_, r⟩, ts₃, rfl, hr, h₃⟩ := List.map_eq_cons_iff.mp h₂
  obtain rfl := List.map_eq_nil_iff.mp h₃
  obtain ⟨x, left⟩ := left
  obtain ⟨y, right⟩ := right
  simp only [Token.shift, Operand.token, Token.mk.injEq] at hl ho hr
  obtain ⟨rfl, rfl⟩ := hl
  obtain ⟨rfl, -⟩ := ho
  obtain ⟨rfl, rfl⟩ := hr
  exact ⟨⟨x, l⟩, o, ⟨y, r⟩, rfl, rfl, rfl⟩

/-- The text from one operand to the other is refused like the comparison in its source, from its
start to its end. -/
theorem Filter.parse_slice {source : String} {rest : List Char} {m : Misuse}
    (h : Lays 0 source.toList (ts ++ [left.token, ⟨.operator op, span⟩, right.token]) rest)
    (hm : misuse? op left.value right.value = some m) :
    left.span.merge right.span = ⟨left.span.start, right.span.stop⟩ ∧
      (parse (String.ofList ((left.span.merge right.span).slice source.toList))).result =
        .error (.misuse m op left.value right.value
          ⟨0, ((left.span.merge right.span).slice source.toList).length⟩) := by
  have horder : InOrder ([left.token] ++ ([⟨.operator op, span⟩] ++ [right.token])) :=
    h.inOrder.within (List.suffix_append ts _).isInfix
  have hcovers : Covers [left.token, ⟨.operator op, span⟩, right.token]
      (left.span.merge right.span) := (horder.covers_merge (.single _) (.single _)).1
  generalize hwhole : left.span.merge right.span = whole at hcovers ⊢
  have hstart : left.span.start = whole.start := Option.some.inj hcovers.1
  have hstop : right.span.stop = whole.stop := Option.some.inj hcovers.2
  refine ⟨by rw [hstart, hstop], ?_⟩
  have hslice : Lays (whole.start + 0) (whole.slice source.toList) _ [] :=
    Lays.slice (show Lays 0 source.toList (ts ++ (_ ++ [])) rest from h) hcovers
  obtain ⟨us, hus, hmap⟩ := hslice.exists_unshift
  obtain ⟨l, o, r, rfl, rfl, rfl⟩ := map_shift_eq_comparison hmap
  -- Seen from there, the first token stands at the front and the last one at the end.
  have hlen : r.span.stop + 0 = 0 + (whole.slice source.toList).length := hus.stop_getLast rfl
  have hmerge : l.span.merge r.span = ⟨0, (whole.slice source.toList).length⟩ := by
    have hshift : (l.span.merge r.span).shift whole.start = whole := by
      rw [Span.shift_merge]
      exact hwhole
    have hshiftStart : whole.start + (l.span.merge r.span).start = whole.start :=
      congrArg Span.start hshift
    have hshiftStop : whole.start + (l.span.merge r.span).stop = whole.stop :=
      congrArg Span.stop hshift
    have hrightStop : whole.start + r.span.stop = whole.stop := hstop
    have hzero : (l.span.merge r.span).start = 0 := by omega
    have hlength : (l.span.merge r.span).stop = (whole.slice source.toList).length := by omega
    rw [← hzero, ← hlength]
  rw [← String.toList_ofList (l := whole.slice source.toList)] at hus
  have hparse := parse_comparison (Lexer.reads_of_lays hus) hm
  rw [← hmerge]
  exact hparse

namespace Filter

/-- A comparison that breaks a rule is reported if it is the first one that does so. It is read off
the source as three tokens, the error reaches from the first of them to the last, and the text in
between by itself is refused with the same message, from its start to its end. -/
theorem misuse_leftmost_and_local {source : String} {m : Misuse} {op : Operator} {x y : Value}
    {span : Span} (h : (parse source).result = .error (.misuse m op x y span)) :
    ∃ (before : List Token) (l o r : Span),
      (Lexer.ofString source).calls (before.length + 3) =
        (before ++ [(⟨.value x, l⟩ : Token), ⟨.operator op, o⟩, ⟨.value y, r⟩]).map .ok ∧
      span = ⟨l.start, r.stop⟩ ∧ ¬ Comparable x op y ∧
      (∀ (x y : Value) (op : Operator) (l o r : Span),
        [(⟨.value x, l⟩ : Token), ⟨.operator op, o⟩, ⟨.value y, r⟩] <:+: before →
          Comparable x op y) ∧
      (parse (String.ofList (span.slice source.toList))).result =
        .error (.misuse m op x y ⟨0, (span.slice source.toList).length⟩) := by
  obtain ⟨ts, s, l, p, hadvances, hstops, hwhole, -⟩ := Parsing.exists_run source
  have houtcome : p.outcome = .error (.misuse m op x y span) := by
    rw [ofSource_eq_error, hwhole] at h
    exact h
  have hlex : ∀ e, ParseError.misuse m op x y span ≠ .lex e := by
    intro e he
    cases he
  have hsettle := hstops.settle_eq_error houtcome hlex id
  obtain ⟨_, _, left, right, hnext, hm, he⟩ := ParseState.misuse_of_settle hsettle
  obtain ⟨rfl, rfl, rfl, rfl, rfl⟩ := ParseError.misuse.inj he
  have hrecalls : s.next.Recalls ([] ++ ts) := hadvances.recalls trivial
  rw [hnext] at hrecalls
  obtain ⟨o, before, rfl⟩ := hrecalls
  obtain ⟨f, hrun, hsettled, -⟩ := hadvances.front rfl Front.settled_empty
  obtain ⟨hspan, hslice⟩ := parse_slice (hadvances.lays rfl) hm
  refine ⟨⟨.start, ⟨0, 0⟩⟩ :: before, left.span, o, right.span, ?_, hspan, ?_, ?_, hslice⟩
  · have hcalls := hadvances.calls 0
    rw [Nat.add_zero, Lexer.calls, List.append_nil] at hcalls
    have hlength : (⟨.start, ⟨0, 0⟩⟩ :: before : List Token).length + 3 =
        (before ++ [left.token, ⟨.operator op, o⟩, right.token]).length + 1 := by
      simp
    rw [hlength, Lexer.calls, Lexer.next_ofString, hcalls]
    rfl
  · rw [← misuse?_eq_none, hm]
    exact Option.some_ne_none m
  · intro x y op l o r hwithin
    -- The start is no part of a comparison.
    rcases List.infix_cons_iff.mp hwithin with ⟨_, hprefix⟩ | hwithin
    · cases hprefix
    · exact Front.comparable_of_infix hrun hsettled (List.cons_ne_nil _ _) hwithin

/-- A group whose only comparison is constant, between a good comparison and a string that is never
closed. -/
def constantSource : String := String.ofList "%c == 3 && (\"x\" == 1) && \"open".toList

theorem parse_constantSource : (parse constantSource).result =
    .error (.misuse .constantComparison .equal (.string "x") (.integer 1) ⟨12, 20⟩) := by
  rw [ofSource_eq_error]
  unfold Parsing.ofSource constantSource Lexer.ofString
  rw [String.toList_ofList]
  decide +kernel

/-- The constant comparison is the second one, and by itself it is refused from end to end. -/
theorem misuse_leftmost_and_local_constant :
    (parse constantSource).result =
        .error (.misuse .constantComparison .equal (.string "x") (.integer 1) ⟨12, 20⟩) ∧
      (∃ (before : List Token) (l o r : Span), (Lexer.ofString constantSource).calls
          (before.length + 3) = (before ++ [(⟨.value (.string "x"), l⟩ : Token),
            ⟨.operator .equal, o⟩, ⟨.value (.integer 1), r⟩]).map .ok ∧
          l.start = 12 ∧ r.stop = 20) ∧
      ∃ n, (parse (String.ofList (Span.slice ⟨12, 20⟩ constantSource.toList))).result =
        .error (.misuse .constantComparison .equal (.string "x") (.integer 1) ⟨0, n⟩) := by
  obtain ⟨before, l, o, r, hcalls, hspan, -, -, hslice⟩ :=
    misuse_leftmost_and_local parse_constantSource
  obtain ⟨hstart, hstop⟩ := Span.mk.inj hspan
  exact ⟨parse_constantSource, ⟨before, l, o, r, hcalls, hstart.symm, hstop.symm⟩, _, hslice⟩

end Filter

end TagSieve

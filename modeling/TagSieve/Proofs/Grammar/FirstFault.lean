import TagSieve.Proofs.Grammar.Refusal
import TagSieve.Proofs.Token.Layout

/-! Where parsing stops. A token that cannot come next is refused as soon as it is read, and no
token behind it is asked for. -/
namespace TagSieve

variable {s s' : ParseState} {l l' : Lexer} {t : Token} {ts : List Token} {e : ParseError}
  {f : Front}

/-- The answers of the lexer that a parse asked for. -/
def Parsing.answers (p : Parsing) : List (Except LexError Token) :=
  p.read.map .ok ++
    match p.outcome with
    | .error (.lex e) => [.error e]
    | _ => []

/-- A token stops where the lexer goes on. -/
theorem Lexer.position_next (hl : l.started = true) (h : l.next.1 = .ok t) :
    l.next.2.position = t.span.stop ∧ l.position ≤ t.span.stop ∧ l.next.2.started = true := by
  obtain ⟨n, hread, hstarted⟩ := readToken_of_next hl h
  have hnext := next_of_readToken hl hread
  rw [hnext] at h
  obtain ⟨symbol, span⟩ := t
  cases h
  refine ⟨by rw [hnext], ?_, hstarted⟩
  dsimp only
  omega

/-- The parser takes in tokens of the lexer one after the other. -/
inductive Advances : ParseState → Lexer → List Token → ParseState → Lexer → Prop
  | refl (s : ParseState) (l : Lexer) : Advances s l [] s l
  | step {s s₁ s' : ParseState} {l l' : Lexer} {t : Token} {ts : List Token}
      (h : l.next.1 = .ok t) (ht : t.symbol ≠ .finish) (hs : s.step t = .ok s₁)
      (hts : Advances s₁ l.next.2 ts s' l') : Advances s l (t :: ts) s' l'

/-- What stops the parser in front of an answer of the lexer. -/
inductive Stops : ParseState → Lexer → Parsing → Prop
  | lex {s : ParseState} {l : Lexer} {e : LexError} (h : l.next.1 = .error e) :
      Stops s l ⟨.error (.lex e), []⟩
  | finish {s : ParseState} {l : Lexer} {t : Token} (h : l.next.1 = .ok t)
      (ht : t.symbol = .finish) : Stops s l ⟨s.finish t.span, [t]⟩
  | refusal {s : ParseState} {l : Lexer} {t : Token} {e : ParseError} (h : l.next.1 = .ok t)
      (ht : t.symbol ≠ .finish) (hs : s.step t = .error e) : Stops s l ⟨.error e, [t]⟩

/-- Every parse stops, and the calls up to there are enough for it. -/
theorem exists_stops (s : ParseState) (hl : l.started = true) :
    ∃ ts s' l' p, Advances s l ts s' l' ∧ Stops s' l' p ∧
      ∀ k, s.run (TokenStream.ofCalls (ts.length + 1 + k) l) = ⟨p.outcome, ts ++ p.read⟩ := by
  induction hn : l.rest.length using Nat.strong_induction_on generalizing s l with
  | _ n ih =>
    subst hn
    cases hnext : l.next.1 with
    | error e =>
      refine ⟨[], s, l, _, .refl s l, .lex hnext, fun k => ?_⟩
      rw [List.length_nil, Nat.zero_add, Nat.add_comm, TokenStream.ofCalls_of_error hnext]
      rfl
    | ok t =>
      by_cases hfinish : t.symbol = .finish
      · refine ⟨[], s, l, _, .refl s l, .finish hnext hfinish, fun k => ?_⟩
        obtain ⟨symbol, span⟩ := t
        obtain rfl : symbol = .finish := hfinish
        rw [List.length_nil, Nat.zero_add, Nat.add_comm, TokenStream.ofCalls_of_finish hnext]
        rfl
      · cases hstep : s.step t with
        | error e =>
          refine ⟨[], s, l, _, .refl s l, .refusal hnext hfinish hstep, fun k => ?_⟩
          rw [List.length_nil, Nat.zero_add, Nat.add_comm,
            TokenStream.ofCalls_of_token hnext hfinish, ParseState.run, hstep]
          rfl
        | ok s₁ =>
          have hlt := Lexer.length_next_lt hl hnext hfinish
          obtain ⟨-, -, hstarted⟩ := Lexer.readToken_of_next hl hnext
          obtain ⟨ts, s', l', p, hadvances, hstops, hrun⟩ := ih _ hlt s₁ hstarted rfl
          refine ⟨t :: ts, s', l', p, .step hnext hfinish hstep hadvances, hstops, fun k => ?_⟩
          have hcalls : (t :: ts).length + 1 + k = ts.length + 1 + k + 1 := by
            rw [List.length_cons]
            omega
          rw [hcalls, TokenStream.ofCalls_of_token hnext hfinish, ParseState.run, hstep]
          dsimp only
          rw [hrun]
          rfl

namespace Advances

theorem started (h : Advances s l ts s' l') (hl : l.started = true) : l'.started = true := by
  induction h with
  | refl => exact hl
  | step h _ _ _ ih =>
    obtain ⟨-, -, hstarted⟩ := Lexer.readToken_of_next hl h
    exact ih hstarted

/-- The tokens are the first answers of the lexer. -/
theorem calls (h : Advances s l ts s' l') (k : Nat) :
    l.calls (ts.length + k) = ts.map .ok ++ l'.calls k := by
  induction h with
  | refl =>
    rw [List.length_nil, Nat.zero_add]
    rfl
  | @step s s₁ s' l l' t ts h _ _ _ ih =>
    have hcalls : (t :: ts).length + k = ts.length + k + 1 := by
      rw [List.length_cons]
      omega
    rw [hcalls, Lexer.calls, h, ih]
    rfl

/-- Every token leaves less to read. -/
theorem length_le (h : Advances s l ts s' l') (hl : l.started = true) :
    ts.length + l'.rest.length ≤ l.rest.length := by
  induction h with
  | refl => simp
  | step h ht _ _ ih =>
    obtain ⟨-, -, hstarted⟩ := Lexer.readToken_of_next hl h
    have hlt := Lexer.length_next_lt hl h ht
    have := ih hstarted
    rw [List.length_cons]
    omega

/-- What is open stands before what is left to read. -/
theorem within (h : Advances s l ts s' l') (hl : l.started = true) (hs : s.Within l.position) :
    s'.Within l'.position := by
  induction h with
  | refl => exact hs
  | step h _ hstep _ ih =>
    obtain ⟨hstop, hle, hstarted⟩ := Lexer.position_next hl h
    refine ih hstarted ?_
    rw [hstop]
    exact hs.step hstep hle

/-- The tokens taken in are the front of a sentence. -/
theorem front (h : Advances s l ts s' l') (hs : s.unspanned = f.state) (hf : f.Settled) :
    ∃ g, f.run (ts.map Token.symbol) = some g ∧ g.Settled ∧ s'.unspanned = g.state := by
  induction h generalizing f with
  | refl => exact ⟨f, rfl, hf, hs⟩
  | @step s s₁ s' l l' t ts _ _ hstep _ ih =>
    have hunspanned := ParseState.unspanned_step s t
    rw [hstep, hs] at hunspanned
    have hok : f.state.step ⟨t.symbol, .zero⟩ = .ok s₁.unspanned :=
      toOption_eq_some.mp hunspanned.symm
    obtain ⟨hobeys, f₁, hf₁, hstate⟩ := (Front.step_state hf).mp hok
    obtain ⟨g, hrun, hg, hs'⟩ := ih hstate.symm ((Front.settled_step hf₁).mpr hobeys)
    refine ⟨g, ?_, hg, hs'⟩
    rw [List.map_cons, Front.run_cons, hf₁]
    exact hrun

end Advances

namespace Stops

variable {p : Parsing}

/-- Only the lexer gives errors of the lexer. -/
theorem of_lex {e : LexError} (h : Stops s l p) (he : p.outcome = .error (.lex e)) :
    l.next.1 = .error e := by
  cases h with
  | lex h =>
    cases he
    exact h
  | finish h ht => exact absurd rfl (ParseState.ne_lex_of_step (ParseState.step_of_finish he) e)
  | refusal h ht hs => exact absurd (Except.error.inj he) (ParseState.ne_lex_of_step hs e)

/-- What is refused is a token that no sentence has there, and the error ends where it ends. -/
theorem of_refusal (h : Stops s l p) (hl : l.started = true) (hs : s.unspanned = f.state)
    (hf : f.Settled) (hwithin : s.Within l.position) (he : p.outcome = .error e)
    (hrefusal : e.IsRefusal) :
    ∃ t, l.next.1 = .ok t ∧ f.step t.symbol = none ∧ (t.symbol = .finish → ¬ f.Complete) ∧
      e.span.stop = t.span.stop := by
  cases h with
  | lex h =>
    cases he
    exact hrefusal.elim
  | @finish t h ht =>
    obtain ⟨-, hle, -⟩ := Lexer.position_next hl h
    have hcomplete := ParseState.not_complete_of_refusal hs hf he hrefusal
    have hstep := ParseState.step_of_finish he
    refine ⟨t, h, ht ▸ f.step_finish, fun _ => hcomplete, ?_⟩
    exact hwithin.stop_refusal (t := ⟨.finish, t.span⟩) hstep hrefusal hle
  | @refusal t _ h ht hstep =>
    obtain rfl := Except.error.inj he
    obtain ⟨-, hle, -⟩ := Lexer.position_next hl h
    refine ⟨t, h, ParseState.front_of_refusal hs hf hstep hrefusal, ?_, ?_⟩
    · exact fun hfinish => absurd hfinish ht
    · exact hwithin.stop_refusal hstep hrefusal hle

end Stops

theorem Filter.ofSource_eq_error {source : String} :
    (Filter.parse source).result = .error e ↔ (Parsing.ofSource source).outcome = .error e := by
  have hparse : (parse source).result = ofSource source := rfl
  rw [hparse]
  unfold ofSource
  split
  next e' h => simp [h]
  next err h => simp [h]

namespace Parsing

/-- Parsing of a source takes in tokens behind the start until something stops it. -/
theorem exists_run (source : String) : ∃ ts s' l' p,
    Advances Front.empty.state ⟨source.toList, 0, true⟩ ts s' l' ∧ Stops s' l' p ∧
      ofSource source = ⟨p.outcome, ⟨.start, ⟨0, 0⟩⟩ :: (ts ++ p.read)⟩ ∧
      ParseState.start.run (TokenStream.ofCalls (ts.length + 2) (Lexer.ofString source)) =
        ofSource source := by
  obtain ⟨ts, s', l', p, hadvances, hstops, hrun⟩ :=
    exists_stops (l := ⟨source.toList, 0, true⟩) Front.empty.state rfl
  have hlen := hadvances.length_le rfl
  dsimp only at hlen
  -- The first call of the lexer gives the start, which every parse takes in.
  have hstart (n : Nat) :
      ParseState.start.run (TokenStream.ofCalls (n + 1) (Lexer.ofString source)) =
        ⟨(Front.empty.state.run (TokenStream.ofCalls n ⟨source.toList, 0, true⟩)).outcome,
        ⟨.start, ⟨0, 0⟩⟩ ::
          (Front.empty.state.run (TokenStream.ofCalls n ⟨source.toList, 0, true⟩)).read⟩ := rfl
  have hwhole : ofSource source = ⟨p.outcome, ⟨.start, ⟨0, 0⟩⟩ :: (ts ++ p.read)⟩ := by
    have hcalls : source.toList.length + 1 =
        ts.length + 1 + (source.toList.length - ts.length) := by
      omega
    have hsource : ofSource source = ParseState.start.run
        (TokenStream.ofCalls (source.toList.length + 1 + 1) (Lexer.ofString source)) := rfl
    rw [hsource, hstart, hcalls, hrun]
  refine ⟨ts, s', l', p, hadvances, hstops, hwhole, ?_⟩
  have hshort := hrun 0
  rw [Nat.add_zero] at hshort
  rw [hwhole, hstart, hshort]

/-- The answer that stops a parse is the last one that it asks for. -/
theorem answers_of_stops {p : Parsing} (h : Stops s' l' p) (before : List Token) :
    answers ⟨p.outcome, before ++ p.read⟩ = before.map .ok ++ [l'.next.1] := by
  have hread (t : Token) (outcome : Except ParseError Expr)
      (hne : ∀ e, outcome ≠ .error (.lex e)) :
      answers ⟨outcome, before ++ [t]⟩ = before.map .ok ++ [.ok t] := by
    unfold answers
    split
    · next e he => exact absurd he (hne e)
    · simp
  cases h with
  | lex h => simp [answers, h]
  | finish h ht =>
    rw [h]
    refine hread _ _ fun e he => ?_
    exact ParseState.ne_lex_of_step (ParseState.step_of_finish he) e rfl
  | refusal h ht hs =>
    rw [h]
    refine hread _ _ fun e he => ?_
    exact ParseState.ne_lex_of_step hs e (Except.error.inj he)

end Parsing

namespace Filter

/-- Parsing stops at the first answer of the lexer that no sentence goes on with, and it asks for no
further one. That answer is a token, and the span of the error ends where it ends, or it is the
error of the lexer itself. -/
theorem parse_stops_at_first_fault (source : String) :
    (Lexer.ofString source).calls (Parsing.ofSource source).answers.length =
        (Parsing.ofSource source).answers ∧
      ParseState.start.run (TokenStream.ofCalls (Parsing.ofSource source).answers.length
        (Lexer.ofString source)) = Parsing.ofSource source ∧
      (Parsing.ofSource source).answers.length ≤ source.toList.length + 2 ∧
      (∀ e, (parse source).result = .error e → e.IsRefusal → ∃ before last,
        (Parsing.ofSource source).answers = (before ++ [last]).map .ok ∧
          Viable (before.map Token.symbol) ∧ ¬ Viable ((before ++ [last]).map Token.symbol) ∧
          e.span.stop = last.span.stop) ∧
      ∀ e, (parse source).result = .error (.lex e) → ∃ before : List Token,
        (Parsing.ofSource source).answers = before.map .ok ++ [.error e] ∧
          Viable (before.map Token.symbol) := by
  obtain ⟨ts, s, l, p, hadvances, hstops, hwhole, hrun⟩ := Parsing.exists_run source
  have hanswers : (Parsing.ofSource source).answers =
      ((⟨.start, ⟨0, 0⟩⟩ : Token) :: ts).map .ok ++ [l.next.1] := by
    rw [hwhole, ← List.cons_append]
    exact Parsing.answers_of_stops hstops _
  have hlength : (Parsing.ofSource source).answers.length = ts.length + 2 := by
    rw [hanswers]
    simp
  have houtcome : (Parsing.ofSource source).outcome = p.outcome := by rw [hwhole]
  obtain ⟨f, hf, hsettled, hstate⟩ := hadvances.front rfl Front.settled_empty
  have hviable : Viable (((⟨.start, ⟨0, 0⟩⟩ : Token) :: ts).map Token.symbol) :=
    Front.viable_of_run hf
  have hstarted := hadvances.started rfl
  rw [hlength]
  refine ⟨?_, hrun, ?_, ?_, ?_⟩
  · rw [hanswers]
    exact congrArg _ (hadvances.calls 1)
  · have hlen := hadvances.length_le rfl
    dsimp only at hlen
    omega
  · intro e he hrefusal
    rw [ofSource_eq_error, houtcome] at he
    have hwithin : s.Within l.position := hadvances.within rfl ⟨nofun, nofun⟩
    obtain ⟨t, ht, hstep, hend, hstop⟩ :=
      hstops.of_refusal hstarted hstate hsettled hwithin he hrefusal
    refine ⟨_, t, ?_, hviable, ?_, hstop⟩
    · rw [hanswers, ht, List.map_append]
      rfl
    · rw [List.map_append]
      exact Front.not_viable_of_step hf hstep hend
  · intro e he
    rw [ofSource_eq_error, houtcome] at he
    refine ⟨_, ?_, hviable⟩
    rw [hanswers, hstops.of_lex he]

/-- A group that a second condition without a connective runs into. -/
def unclosedSource : String := String.ofList "(%a == 1 %b == 2)".toList

def unclosedError : ParseError := .unclosedGroup (.value (.tag ⟨"b", .unset⟩)) ⟨0, 11⟩

theorem parse_unclosedSource : (parse unclosedSource).result = .error unclosedError := by
  rw [ofSource_eq_error]
  unfold Parsing.ofSource unclosedSource Lexer.ofString
  rw [String.toList_ofList]
  decide +kernel

/-- The second key is the last token that is asked for, and the error ends where it ends. -/
theorem parse_stops_at_second_key :
    (parse unclosedSource).result = .error unclosedError ∧ unclosedError.IsRefusal ∧
      ∃ before last, (Parsing.ofSource unclosedSource).answers = (before ++ [last]).map .ok ∧
        Viable (before.map Token.symbol) ∧ ¬ Viable ((before ++ [last]).map Token.symbol) ∧
        last.span.stop = 11 := by
  obtain ⟨-, -, -, hfault, -⟩ := parse_stops_at_first_fault unclosedSource
  obtain ⟨before, last, hanswers, hbefore, hlast, hstop⟩ :=
    hfault unclosedError parse_unclosedSource trivial
  exact ⟨parse_unclosedSource, trivial, before, last, hanswers, hbefore, hlast, hstop.symm⟩

end Filter

end TagSieve

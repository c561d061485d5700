import TagSieve.Expr.Parser
import TagSieve.Proofs.Token.Literal

/-! What a lexer reads up to the end of a filter: its tokens, and the text as a sequence of symbols.
-/
namespace TagSieve

variable {l : Lexer} {cs rest rest' : List Char} {ss ts : List Symbol} {s : Symbol} {n : Nat}

/-- The tokens that a lexer gives before the end, and the span of that end, if it gets there without
an error. -/
inductive Lexer.Reads : Lexer → List Token → Span → Prop
  | finish {l : Lexer} {span : Span} (h : l.next.1 = .ok ⟨.finish, span⟩) : Reads l [] span
  | token {l : Lexer} {t : Token} {ts : List Token} {span : Span} (h : l.next.1 = .ok t)
      (ht : t.symbol ≠ .finish) (hts : Reads l.next.2 ts span) : Reads l (t :: ts) span

/-- The source is a text of these symbols. -/
def Lexes (source : String) (ss : List Symbol) : Prop :=
  ∃ ts span, (Lexer.ofString source).Reads ts span ∧ ts.map Token.symbol = ss

def skipBlanks (cs : List Char) : List Char := cs.dropWhile Unicode.isWhitespace

theorem length_skipBlanks_le (cs : List Char) : (skipBlanks cs).length ≤ cs.length :=
  (List.dropWhile_suffix Unicode.isWhitespace).length_le

theorem Reading.eq_ok {r : Reading} (h : r.outcome = .ok s) : r = .ok s r.size r.rest := by
  cases r
  cases h
  rfl

namespace Lexer

theorem next_of_ok (hl : l.started = true) (h : readToken (skipBlanks l.rest) = .ok s n rest) :
    ∃ span, l.next.1 = .ok ⟨s, span⟩ ∧ l.next.2.started = true ∧ l.next.2.rest = rest := by
  unfold skipBlanks at h
  unfold next
  rw [if_pos hl]
  dsimp only
  rw [h]
  exact ⟨_, rfl, rfl, rfl⟩

theorem next_of_error {e : LexError} (hl : l.started = true)
    (h : (readToken (skipBlanks l.rest)).outcome = .error e) : ∃ e', l.next.1 = .error e' := by
  unfold skipBlanks at h
  unfold next
  rw [if_pos hl]
  dsimp only
  rw [h]
  exact ⟨_, rfl⟩

/-- Every answer of a lexer is a reading of what it has left. -/
theorem readToken_of_next {t : Token} (hl : l.started = true) (h : l.next.1 = .ok t) :
    ∃ n, readToken (skipBlanks l.rest) = .ok t.symbol n l.next.2.rest ∧
      l.next.2.started = true := by
  cases houtcome : (readToken (skipBlanks l.rest)).outcome with
  | error e =>
    obtain ⟨e', he'⟩ := next_of_error hl houtcome
    rw [he'] at h
    cases h
  | ok s =>
    have hread := Reading.eq_ok houtcome
    obtain ⟨span, hnext, hstarted, hrest⟩ := next_of_ok hl hread
    rw [hnext] at h
    cases h
    exact ⟨_, hrest ▸ hread, hstarted⟩

/-- Every token but the end leaves less to read. -/
theorem length_next_lt {t : Token} (hl : l.started = true) (h : l.next.1 = .ok t)
    (ht : t.symbol ≠ .finish) : l.next.2.rest.length < l.rest.length := by
  obtain ⟨n, hread, -⟩ := readToken_of_next hl h
  have htaken : Takes _ _ _ := takenFrom_readToken (skipBlanks l.rest)
  have hlen := htaken.length_add
  have hblanks := length_skipBlanks_le l.rest
  rcases readToken_eq_ok (congrArg Reading.outcome hread) with ⟨hfinish, -⟩ | ⟨-, -, hsize, -⟩
  · exact absurd hfinish ht
  · rw [hread] at hlen hsize
    simp only [Reading.ok] at hlen hsize
    omega

theorem closable_of_next {t : Token} (hl : l.started = true) (h : l.next.1 = .ok t) {v : Value}
    (hv : t.symbol = .value v) : v.Closable := by
  obtain ⟨n, hread, -⟩ := readToken_of_next hl h
  rcases readToken_eq_ok (congrArg Reading.outcome hread) with ⟨hfinish, -⟩ | ⟨-, -, -, hclosable⟩
  · rw [hv] at hfinish
    cases hfinish
  · exact hclosable v hv

theorem not_reads_of_error {e : LexError} {ts : List Token} {span : Span}
    (h : l.next.1 = .error e) : ¬ l.Reads ts span := by
  intro hts
  cases hts with
  | finish h' =>
    rw [h] at h'
    cases h'
  | token h' _ _ =>
    rw [h] at h'
    cases h'

theorem reads_of_finish {ts : List Token} {span last : Span}
    (h : l.next.1 = .ok ⟨.finish, last⟩) : l.Reads ts span ↔ ts = [] ∧ span = last := by
  constructor
  · intro hts
    cases hts with
    | finish h' =>
      rw [h] at h'
      cases h'
      exact ⟨rfl, rfl⟩
    | token h' ht' _ =>
      rw [h] at h'
      cases h'
      exact absurd rfl ht'
  · rintro ⟨rfl, rfl⟩
    exact .finish h

theorem reads_of_token {t : Token} {ts : List Token} {span : Span} (h : l.next.1 = .ok t)
    (ht : t.symbol ≠ .finish) :
    l.Reads ts span ↔ ∃ rest, ts = t :: rest ∧ l.next.2.Reads rest span := by
  constructor
  · intro hts
    cases hts with
    | finish h' =>
      rw [h] at h'
      cases h'
      exact absurd rfl ht
    | token h' _ hts =>
      rw [h] at h'
      cases h'
      exact ⟨_, rfl, hts⟩
  · rintro ⟨rest, rfl, hts⟩
    exact .token h ht hts

theorem Reads.closable {ts : List Token} {span : Span} (h : l.Reads ts span)
    (hl : l.started = true) : ∀ t ∈ ts, ∀ v, t.symbol = .value v → v.Closable := by
  induction h with
  | finish => nofun
  | token h ht hts ih =>
    obtain ⟨n, -, hstarted⟩ := readToken_of_next hl h
    intro t hmem v hv
    rcases List.mem_cons.mp hmem with rfl | hmem
    · exact closable_of_next hl h hv
    · exact ih hstarted t hmem v hv

/-- The tokens of a lexer are determined by it. -/
theorem Reads.unique {ts ts' : List Token} {span span' : Span} (h : l.Reads ts span)
    (h' : l.Reads ts' span') : ts = ts' ∧ span = span' := by
  induction h generalizing ts' with
  | finish h =>
    obtain ⟨rfl, rfl⟩ := (reads_of_finish h).mp h'
    exact ⟨rfl, rfl⟩
  | token h ht _ ih =>
    obtain ⟨rest, rfl, hrest⟩ := (reads_of_token h ht).mp h'
    obtain ⟨rfl, rfl⟩ := ih hrest
    exact ⟨rfl, rfl⟩

end Lexer

theorem bind_eq_ok {ε α β : Type} {x : Except ε α} {f : α → Except ε β} {b : β} :
    x.bind f = .ok b ↔ ∃ a, x = .ok a ∧ f a = .ok b := by
  cases x with
  | error e => simp [Except.bind]
  | ok a => simp [Except.bind]

namespace TokenStream

theorem ofCalls_of_error {e : LexError} (h : l.next.1 = .error e) :
    ofCalls (n + 1) l = .error e := by
  rcases hnext : l.next with ⟨answer, after⟩
  rw [hnext] at h
  cases h
  rw [ofCalls, hnext]

theorem ofCalls_of_finish {last : Span} (h : l.next.1 = .ok ⟨.finish, last⟩) :
    ofCalls (n + 1) l = .finish last := by
  rcases hnext : l.next with ⟨answer, after⟩
  rw [hnext] at h
  cases h
  rw [ofCalls, hnext]
  exact if_pos rfl

theorem ofCalls_of_token {t : Token} (h : l.next.1 = .ok t) (ht : t.symbol ≠ .finish) :
    ofCalls (n + 1) l = .token t (ofCalls n l.next.2) := by
  rcases hnext : l.next with ⟨answer, after⟩
  rw [hnext] at h
  cases h
  rw [ofCalls, hnext]
  exact if_neg ht

end TokenStream

namespace ParseState

variable {p : ParseState} {e : Expr}

theorem run_token (t : Token) (stream : TokenStream) :
    (p.run (.token t stream)).outcome = (p.step t).bind fun p => (p.run stream).outcome := by
  rw [run]
  cases p.step t <;> rfl

theorem foldlM_cons_bind (t : Token) (ts : List Token) (span : Span) :
    ((t :: ts).foldlM step p).bind (·.finish span) =
      (p.step t).bind fun p => (ts.foldlM step p).bind (·.finish span) := by
  rw [List.foldlM_cons]
  cases p.step t <;> rfl

/-- A parse succeeds if the lexer reaches the end and its tokens are taken in one after the other. -/
theorem run_ofCalls (hl : l.started = true) (hn : l.rest.length < n) :
    (p.run (TokenStream.ofCalls n l)).outcome = .ok e ↔
      ∃ ts span, l.Reads ts span ∧ (ts.foldlM step p).bind (·.finish span) = .ok e := by
  induction n generalizing l p with
  | zero => omega
  | succ n ih =>
    cases hnext : l.next.1 with
    | error err =>
      rw [TokenStream.ofCalls_of_error hnext]
      constructor
      · intro h
        cases h
      · rintro ⟨ts, span, hts, -⟩
        exact absurd hts (Lexer.not_reads_of_error hnext)
    | ok t =>
      by_cases hfinish : t.symbol = .finish
      · have hlast : l.next.1 = .ok ⟨.finish, t.span⟩ := by rw [hnext, ← hfinish]
        rw [TokenStream.ofCalls_of_finish hlast]
        constructor
        · intro h
          exact ⟨[], t.span, .finish hlast, h⟩
        · rintro ⟨ts, span, hts, h⟩
          obtain ⟨rfl, rfl⟩ := (Lexer.reads_of_finish hlast).mp hts
          exact h
      · have hlt := Lexer.length_next_lt hl hnext hfinish
        obtain ⟨-, -, hstarted⟩ := Lexer.readToken_of_next hl hnext
        rw [TokenStream.ofCalls_of_token hnext hfinish, run_token]
        constructor
        · intro h
          obtain ⟨p', hstep, h⟩ := bind_eq_ok.mp h
          obtain ⟨ts, span, hts, hrun⟩ := (ih hstarted (by omega)).mp h
          refine ⟨t :: ts, span, .token hnext hfinish hts, ?_⟩
          rw [foldlM_cons_bind]
          exact bind_eq_ok.mpr ⟨p', hstep, hrun⟩
        · rintro ⟨ts, span, hts, h⟩
          obtain ⟨rest, rfl, hrest⟩ := (Lexer.reads_of_token hnext hfinish).mp hts
          rw [foldlM_cons_bind] at h
          obtain ⟨p', hstep, h⟩ := bind_eq_ok.mp h
          exact bind_eq_ok.mpr ⟨p', hstep, (ih hstarted (by omega)).mpr ⟨rest, span, hrest, h⟩⟩

end ParseState

theorem Lexer.next_ofString (source : String) :
    (Lexer.ofString source).next = (.ok ⟨.start, ⟨0, 0⟩⟩, ⟨source.toList, 0, true⟩) := rfl

/-- The start is always the first token. -/
theorem Lexer.reads_ofString {source : String} {ts : List Token} {span : Span} :
    (Lexer.ofString source).Reads ts span ↔
      ∃ rest, ts = ⟨.start, ⟨0, 0⟩⟩ :: rest ∧ (Lexer.mk source.toList 0 true).Reads rest span := by
  have hnext := next_ofString source
  rw [reads_of_token (congrArg Prod.fst hnext) nofun, congrArg Prod.snd hnext]

theorem Parsing.outcome_ofSource {source : String} {e : Expr} :
    (Parsing.ofSource source).outcome = .ok e ↔
      ∃ ts span, (Lexer.ofString source).Reads ts span ∧
        (ts.foldlM ParseState.step .start).bind (·.finish span) = .ok e := by
  have hstream : TokenStream.ofLexer (Lexer.ofString source) =
      .token ⟨.start, ⟨0, 0⟩⟩
        (TokenStream.ofCalls (source.toList.length + 1) ⟨source.toList, 0, true⟩) := by
    rfl
  have hstep : ParseState.start.step ⟨.start, ⟨0, 0⟩⟩ = .ok ⟨.condition, .none, []⟩ := rfl
  have hrun := ParseState.run_ofCalls (l := ⟨source.toList, 0, true⟩) (p := ⟨.condition, .none, []⟩)
    (e := e) rfl (Nat.lt_succ_self source.toList.length)
  rw [Parsing.ofSource, Lexer.parse, hstream, ParseState.run_token, hstep]
  refine hrun.trans ?_
  constructor
  · rintro ⟨ts, span, hts, h⟩
    refine ⟨_, span, Lexer.reads_ofString.mpr ⟨ts, rfl, hts⟩, ?_⟩
    rw [ParseState.foldlM_cons_bind, hstep]
    exact h
  · rintro ⟨ts, span, hts, h⟩
    obtain ⟨rest, rfl, hrest⟩ := Lexer.reads_ofString.mp hts
    rw [ParseState.foldlM_cons_bind, hstep] at h
    exact ⟨rest, span, hrest, h⟩

/-- Reading the symbols off the front of a text leaves the rest. -/
inductive Spells : List Char → List Symbol → List Char → Prop
  | nil (cs : List Char) : Spells cs [] cs
  | cons {cs rest rest' : List Char} {s : Symbol} {n : Nat} {ss : List Symbol}
      (h : readToken (skipBlanks cs) = .ok s n rest) (hs : s ≠ .finish)
      (hss : Spells rest ss rest') : Spells cs (s :: ss) rest'

/-- Reading a text comes to an error. -/
def Refused (cs : List Char) : Prop :=
  ∃ ss rest e, Spells cs ss rest ∧ (readToken (skipBlanks rest)).outcome = .error e

theorem Spells.append (h : Spells cs ss rest) (h' : Spells rest ts rest') :
    Spells cs (ss ++ ts) rest' := by
  induction h with
  | nil => exact h'
  | cons h hs _ ih => exact .cons h hs (ih h')

theorem Spells.refused (h : Spells cs ss rest) (h' : Refused rest) : Refused cs := by
  obtain ⟨ts, rest', e, hts, he⟩ := h'
  exact ⟨ss ++ ts, rest', e, h.append hts, he⟩

theorem Lexer.reads_of_spells (hl : l.started = true) (h : Spells l.rest ss rest)
    (hrest : skipBlanks rest = []) : ∃ ts span, l.Reads ts span ∧ ts.map Token.symbol = ss := by
  generalize hcs : l.rest = cs at h
  induction h generalizing l with
  | nil =>
    subst hcs
    have hread : readToken (skipBlanks l.rest) = .ok .finish 0 [] := by
      rw [hrest]
      rfl
    obtain ⟨span, hnext, -⟩ := next_of_ok hl hread
    exact ⟨[], span, .finish hnext, rfl⟩
  | cons h hs _ ih =>
    subst hcs
    obtain ⟨span, hnext, hstarted, hleft⟩ := next_of_ok hl h
    obtain ⟨ts, last, hts, hsymbols⟩ := ih hstarted hrest hleft
    exact ⟨_ :: ts, last, .token hnext hs hts, by rw [List.map_cons, hsymbols]⟩

theorem Lexer.not_reads_of_refused (hl : l.started = true) (h : Refused l.rest) {ts : List Token}
    {span : Span} : ¬ l.Reads ts span := by
  obtain ⟨ss, rest, e, hss, he⟩ := h
  generalize hcs : l.rest = cs at hss
  induction hss generalizing l ts with
  | nil =>
    subst hcs
    obtain ⟨e', hnext⟩ := next_of_error hl he
    exact not_reads_of_error hnext
  | cons h hs _ ih =>
    subst hcs
    obtain ⟨span, hnext, hstarted, hleft⟩ := next_of_ok hl h
    intro hts
    obtain ⟨_, rfl, hrest⟩ := (reads_of_token hnext hs).mp hts
    exact ih hstarted he hleft hrest

theorem lexes_of_spells (h : Spells cs ss []) : Lexes (String.ofList cs) (.start :: ss) := by
  obtain ⟨ts, span, hts, hsymbols⟩ :=
    Lexer.reads_of_spells (l := ⟨(String.ofList cs).toList, 0, true⟩) rfl
      (by rw [String.toList_ofList]; exact h) rfl
  exact ⟨_, span, Lexer.reads_ofString.mpr ⟨ts, rfl, hts⟩, by rw [List.map_cons, hsymbols]⟩

theorem not_lexes_of_refused (h : Refused cs) : ¬ Lexes (String.ofList cs) ss := by
  rintro ⟨ts, span, hts, -⟩
  obtain ⟨rest, -, hrest⟩ := Lexer.reads_ofString.mp hts
  refine Lexer.not_reads_of_refused rfl ?_ hrest
  rw [String.toList_ofList]
  exact h

end TagSieve

import TagSieve.Proofs.Grammar.FirstFault
import TagSieve.Proofs.Token.Overrun

/-! Where the errors of a filter lie. The parser puts a span together from those of tokens that it
has taken in, so every error lies in the source unless the lexer itself points behind it. -/
namespace TagSieve

variable {s s' : ParseState} {l l' : Lexer} {t : Token} {ts : List Token} {e : ParseError} {n : Nat}
  {a : Span}

/-- The spans of what has been read of a condition. -/
def Next.spans : Next → List Span
  | .group negation => [negation]
  | .operator l | .right l _ => [l.span]
  | .checked l _ r => [l.span, r.span]
  | .start | .condition | .continuation _ => []

namespace ParseState

/-- All that is open lies within the first so many characters. -/
structure FitsIn (n : Nat) (s : ParseState) : Prop where
  next : ∀ a ∈ s.next.spans, a.FitsIn n
  paren : ∀ g ∈ s.groups, g.paren.FitsIn n

/-- A comparison that has passed its check leaves nothing open. -/
theorem spans_of_settle (h : s.settle = .ok s') (ha : a ∈ s'.next.spans) : a ∈ s.next.spans := by
  obtain ⟨next, level, groups⟩ := s
  cases next with
  | checked left op right =>
    simp only [settle] at h
    cases hcheck : checkComparison left op right with
    | error e =>
      rw [hcheck] at h
      cases h
    | ok e =>
      rw [hcheck] at h
      cases h
      cases ha
  | _ =>
    cases h
    exact ha

/-- A step adds its token to what is open of a condition. -/
theorem spans_of_step (h : s.step t = .ok s') (ha : a ∈ s'.next.spans) :
    a ∈ s.next.spans ∨ a = t.span := by
  obtain ⟨settled, hsettle, hstep⟩ := step_of_eq_ok h
  refine Or.imp_left (spans_of_settle hsettle) ?_
  clear h hsettle
  cases hstep with
  | start | opening | negated | connective | closing => cases ha
  | left | negation => exact Or.inr (List.mem_singleton.mp ha)
  | operator => exact Or.inl ha
  | right =>
    rcases List.mem_cons.mp ha with rfl | ha
    · exact Or.inl List.mem_cons_self
    · exact Or.inr (List.mem_singleton.mp ha)

theorem FitsIn.step (hs : s.FitsIn n) (ht : t.span.FitsIn n) (h : s.step t = .ok s') :
    s'.FitsIn n := by
  constructor
  · intro a ha
    rcases spans_of_step h ha with hopen | rfl
    · exact hs.next a hopen
    · exact ht
  · intro g hg
    rcases (groups_of_step h).1 with hsame | ⟨negation, around, hopen⟩ | ⟨closed, hclose⟩
    · exact hs.paren g (hsame ▸ hg)
    · rw [hopen] at hg
      rcases List.mem_cons.mp hg with rfl | hg
      · exact ht
      · exact hs.paren g hg
    · exact hs.paren g (hclose ▸ List.mem_cons_of_mem closed hg)

theorem FitsIn.error (hs : s.FitsIn n) (ht : t.span.FitsIn n) (h : s.step t = .error e) :
    e.span.FitsIn n := by
  rcases error_of_step h with hsettle | ⟨-, hspan | ⟨g, hg, hspan⟩ | ⟨negation, hnext, hspan⟩⟩
  · obtain ⟨m, op, left, right, hnext, rfl⟩ := settle_eq_error hsettle
    have hsides : ∀ a ∈ [left.span, right.span], a.FitsIn n := by
      have hopen := hs.next
      rw [hnext] at hopen
      exact hopen
    exact (hsides _ List.mem_cons_self).merge (hsides _ (List.mem_cons_of_mem _ List.mem_cons_self))
  · rw [hspan]
    exact ht
  · rw [hspan]
    exact (hs.paren g hg).merge ht
  · have hnegation : negation.FitsIn n := by
      have hopen := hs.next
      rw [hnext] at hopen
      exact hopen negation List.mem_cons_self
    rw [hspan]
    exact hnegation.merge ht

end ParseState

namespace Advances

/-- A parse asks the lexer once for each token that it takes in. -/
theorem skip (h : Advances s l ts s' l') : l' = l.skip ts.length := by
  induction h with
  | refl => rfl
  | step _ _ _ _ ih => exact ih

theorem fitsIn (h : Advances s l ts s' l') (hs : s.FitsIn l.length) : s'.FitsIn l.length := by
  induction h with
  | refl => exact hs
  | @step s s₁ s' l l' t ts h _ hstep _ ih =>
    have hlength := Lexer.length_next l
    rw [hlength] at ih
    exact ih (hs.step (Lexer.token_fitsIn h) hstep)

end Advances

/-- An error lies in the text, or it is the lexer's error at a cut key. -/
theorem Stops.fitsIn {p : Parsing} (h : Stops s l p) (hs : s.FitsIn l.length)
    (he : p.outcome = .error e) : e.span.FitsIn l.length ∨
      l.AtCutKey ∧ e = .lex ⟨.invalidTagIndex, ⟨l.length, l.length + 1⟩⟩ := by
  cases h with
  | lex h =>
    cases he
    by_cases hcut : l.AtCutKey
    · rw [Lexer.answer_of_atCutKey hcut] at h
      cases h
      exact Or.inr ⟨hcut, rfl⟩
    · have hfits := Lexer.answer_fitsIn hcut
      rw [h] at hfits
      exact Or.inl hfits
  | @finish t h _ =>
    have ht : t.span.FitsIn l.length := Lexer.token_fitsIn h
    have hstep := ParseState.step_of_finish he
    exact Or.inl (hs.error (t := ⟨.finish, t.span⟩) ht hstep)
  | refusal h _ hstep =>
    cases he
    exact Or.inl (hs.error (Lexer.token_fitsIn h) hstep)

namespace Filter

/-- The error of a filter lies in its source, or the lexer has come to a cut key. -/
theorem error_fitsIn {source : String} (he : (parse source).result = .error e) :
    e.span.FitsIn source.toList.length ∨ ∃ k, ((Lexer.ofString source).skip k).AtCutKey ∧
      e = .lex ⟨.invalidTagIndex, ⟨source.toList.length, source.toList.length + 1⟩⟩ := by
  rw [ofSource_eq_error] at he
  obtain ⟨ts, s, l, p, hadvances, hstops, hwhole, -⟩ := Parsing.exists_run source
  rw [hwhole] at he
  have hskip : l = (Lexer.ofString source).skip (ts.length + 1) := hadvances.skip
  have hlength : l.length = source.toList.length :=
    hskip ▸ Lexer.length_skip_ofString source (ts.length + 1)
  have hstart := Lexer.length_skip_ofString source 1
  have hfits : s.FitsIn source.toList.length := hstart ▸ hadvances.fitsIn ⟨nofun, nofun⟩
  rw [← hlength] at hfits ⊢
  rcases hstops.fitsIn hfits he with hin | ⟨hcut, hlex⟩
  · exact Or.inl hin
  · exact Or.inr ⟨_, hskip ▸ hcut, hlex⟩

/-- Every token and every error of a lexer lies in the source, and so does the error of a filter,
but for the one error at a key in braces that is cut behind its equals sign: it is said to be the
character behind the source. -/
theorem spans_in_source_but_cutKey (source : String) :
    (∀ k l, l = (Lexer.ofString source).skip k →
      ((answerSpan l.next.1).FitsIn source.toList.length ↔ ¬ l.AtCutKey) ∧
      (l.AtCutKey → l.next.1 = .error
        ⟨.invalidTagIndex, ⟨source.toList.length, source.toList.length + 1⟩⟩)) ∧
    ∀ e, (parse source).result = .error e →
      e.span.FitsIn source.toList.length ∨ ∃ k, ((Lexer.ofString source).skip k).AtCutKey ∧
        e = .lex ⟨.invalidTagIndex, ⟨source.toList.length, source.toList.length + 1⟩⟩ := by
  refine ⟨?_, fun e => error_fitsIn⟩
  rintro k l rfl
  rw [← Lexer.length_skip_ofString source k]
  exact ⟨Lexer.answer_fitsIn_iff, Lexer.answer_of_atCutKey⟩

/-- A group in which a key follows a negation. -/
def negatedKeySource : String := String.ofList "(%a == 1 && !%b".toList

theorem parse_negatedKeySource : (parse negatedKeySource).result =
    .error (.notWithoutGroup (.value (.tag ⟨"b", .unset⟩)) ⟨12, 15⟩) := by
  rw [ofSource_eq_error]
  unfold Parsing.ofSource negatedKeySource Lexer.ofString
  rw [String.toList_ofList]
  decide +kernel

/-- A key in braces that is cut behind its equals sign. -/
def cutKeySource : String := String.ofList "%\x7bartist=".toList

theorem atCutKey_cutKeySource : ((Lexer.ofString cutKeySource).skip 1).AtCutKey := by
  unfold cutKeySource Lexer.ofString
  rw [String.toList_ofList]
  exact ⟨rfl, "artist".toList, "artist=".toList, by decide +kernel, by decide +kernel⟩

/-- The error at the negated key reaches up to the last character of its source, and the one at the
cut key lies behind it. -/
theorem spans_in_source_negated :
    (⟨12, 15⟩ : Span).FitsIn negatedKeySource.toList.length ∧
      ((Lexer.ofString cutKeySource).skip 1).AtCutKey ∧
      ((Lexer.ofString cutKeySource).skip 1).next.1 = .error
        ⟨.invalidTagIndex, ⟨cutKeySource.toList.length, cutKeySource.toList.length + 1⟩⟩ := by
  refine ⟨?_, atCutKey_cutKeySource, ?_⟩
  · rcases (spans_in_source_but_cutKey negatedKeySource).2 _ parse_negatedKeySource with
      hfits | ⟨k, -, hlex⟩
    · exact hfits
    · cases hlex
  · exact ((spans_in_source_but_cutKey cutKeySource).1 1 _ rfl).2 atCutKey_cutKeySource

/-- Asked for a selector, the lexer and the parser point behind the last of nine characters. -/
theorem cutKeySource_overrun :
    cutKeySource.toList.length = 9 ∧
      ((Lexer.ofString cutKeySource).skip 1).next.1 = .error ⟨.invalidTagIndex, ⟨9, 10⟩⟩ ∧
      (parse cutKeySource).result = .error (.lex ⟨.invalidTagIndex, ⟨9, 10⟩⟩) ∧
      ¬ (⟨9, 10⟩ : Span).FitsIn cutKeySource.toList.length := by
  rw [ofSource_eq_error]
  unfold Parsing.ofSource cutKeySource Lexer.ofString
  rw [String.toList_ofList]
  refine ⟨by decide, by decide +kernel, by decide +kernel, ?_⟩
  rintro ⟨-, hstop⟩
  exact absurd hstop (by decide)

end Filter

end TagSieve

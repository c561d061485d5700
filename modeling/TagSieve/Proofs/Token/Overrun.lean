import TagSieve.Proofs.Token.Settling

/-! Where the answers of a lexer lie. Every span lies in the text but for one: where the text ends
behind the equals sign of a key in braces, the fault is said to be the next character, and there is
none. -/
namespace TagSieve

variable {cs rest body : List Char} {c : Char} {n : Nat} {s : Symbol} {a b : Span} {r : Reading}
  {l : Lexer}

/-- A span within the first so many characters. -/
def Span.FitsIn (n : Nat) (s : Span) : Prop := s.start ≤ s.stop ∧ s.stop ≤ n

namespace Span.FitsIn

theorem shift (k : Nat) (h : a.FitsIn n) : (a.shift k).FitsIn (k + n) := by
  obtain ⟨hle, hstop⟩ := h
  constructor <;> simp only [Span.shift] <;> omega

theorem merge (ha : a.FitsIn n) (hb : b.FitsIn n) : (a.merge b).FitsIn n := by
  obtain ⟨hale, hastop⟩ := ha
  obtain ⟨hble, hbstop⟩ := hb
  constructor <;> simp only [Span.merge] <;> omega

end Span.FitsIn

/-- The span of an answer, whether it is a token or an error. -/
def answerSpan : Except LexError Token → Span
  | .ok t => t.span
  | .error e => e.span

/-- All that is left is a key in braces up to its equals sign. -/
def CutKey (cs : List Char) : Prop :=
  ∃ name body, cs = '%' :: '\x7b' :: body ∧ Escaped.decode endsBracedName body = (name, ['='])

/-- The error of a reading lies on what was taken, or it ends with the character behind that. -/
def Reading.Marks (r : Reading) : Prop :=
  ∀ e, r.outcome = .error e →
    e.span.start ≤ e.span.stop ∧ (e.span.stop ≤ r.size ∨ e.span.stop = r.size + 1 ∧ r.rest ≠ [])

namespace Reading.Marks

theorem ok (s : Symbol) (n : Nat) (rest : List Char) : (Reading.ok s n rest).Marks := nofun

theorem taken (cause : LexCause) (n : Nat) (rest : List Char) :
    (Reading.failTaken cause n rest).Marks := by
  rintro e ⟨⟩
  exact ⟨Nat.zero_le n, Or.inl (Nat.le_refl n)⟩

theorem next (cause : LexCause) {start : Nat} (hstart : start ≤ n) (c : Char) (rest : List Char) :
    (Reading.fail cause start (n + 1) n (c :: rest)).Marks := by
  rintro e ⟨⟩
  exact ⟨Nat.le_succ_of_le hstart, Or.inr ⟨rfl, nofun⟩⟩

/-- What is taken off a text and the character behind it lie in the text. -/
theorem fitsIn {e : LexError} (h : r.Marks) (htaken : r.TakenFrom cs) (he : r.outcome = .error e) :
    e.span.FitsIn cs.length := by
  obtain ⟨hle, hstop⟩ := h e he
  have hlen : r.size + r.rest.length = cs.length := Takes.length_add htaken
  rcases hstop with hstop | ⟨hstop, hrest⟩
  · exact ⟨hle, by omega⟩
  · have hpos := List.length_pos_iff.mpr hrest
    exact ⟨hle, by omega⟩

end Reading.Marks

open Reading

theorem marks_readString (cs : List Char) : (readString cs).Marks := by
  unfold readString
  dsimp only
  split
  · exact .taken _ _ _
  · exact .ok _ _ _

/-- A flag is refused where it stands. -/
theorem readFlags_error {i m : Bool} {flag : Char} (h : readFlags i m cs = (.error flag, n, rest)) :
    rest ≠ [] := by
  fun_induction readFlags i m cs generalizing n rest with
  | case1 | case3 =>
    cases h
    exact List.cons_ne_nil _ _
  | case2 m cs i hi result size rest' heq ih =>
    cases h
    exact ih heq
  | case4 i cs m hm result size rest' heq ih =>
    cases h
    exact ih heq
  | case5 => cases h

theorem marks_readRegex (cs : List Char) : (readRegex cs).Marks := by
  unfold readRegex
  dsimp only
  split
  · exact .taken _ _ _
  next text d rest _ =>
    split
    next flag hflag =>
      have hrest := readFlags_error (Prod.ext hflag rfl : readFlags false false rest = (_, _, _))
      obtain ⟨e, rest', hcons⟩ := List.exists_cons_of_ne_nil hrest
      rw [hcons]
      exact .next _ (Nat.le_refl _) _ _
    next =>
      split
      · exact .ok _ _ _
      · exact .taken _ _ _

theorem marks_readNumberUpTo (value : Option Value) (cs : List Char) (n : Nat)
    (rest : List Char) : (readNumberUpTo value cs n rest).Marks := by
  unfold readNumberUpTo
  dsimp only
  split
  · exact .taken _ _ _
  · exact .taken _ _ _
  · exact .ok _ _ _

theorem marks_readNumber (cs : List Char) : (readNumber cs).Marks := by
  unfold readNumber
  dsimp only
  split
  · exact marks_readNumberUpTo _ _ _ _
  · exact marks_readNumberUpTo _ _ _ _

/-- A selector is refused for what was taken of it, or for its first character. -/
theorem readSelector_error {width : Nat} (h : readSelector cs = (.error width, n, rest)) :
    width = n ∨ width = n + 1 ∧ rest = cs := by
  unfold readSelector at h
  split at h
  · cases h
  · cases h
  · cases h
  · dsimp only at h
    split at h
    · cases h
      exact Or.inr ⟨rfl, rfl⟩
    · split at h
      · cases h
        exact Or.inl rfl
      · cases h

theorem marks_readSelected (name : String) (start : Nat) (hcs : cs ≠ []) :
    (readSelected name start cs).Marks := by
  unfold readSelected
  split
  next width size rest heq =>
    rcases readSelector_error heq with hwidth | ⟨hwidth, hrest⟩
    · rintro e ⟨⟩
      dsimp only [Reading.fail]
      omega
    · obtain ⟨d, cs', hcons⟩ := List.exists_cons_of_ne_nil hcs
      rw [hwidth, hrest, hcons]
      exact .next _ (Nat.le_add_right _ _) _ _
  next => exact .ok _ _ _
  next => exact .taken _ _ _
  next => exact .next _ (Nat.le_add_right _ _) _ _

theorem marks_readTagKey (h : ¬ CutKey ('%' :: body)) : (readTagKey ('%' :: body)).Marks := by
  simp only [readTagKey, List.drop_succ_cons, List.drop_zero]
  split
  next inner =>
    split
    next => exact .taken _ _ _
    next name rest heq =>
      refine marks_readSelected _ _ ?_
      rintro rfl
      exact h ⟨name, inner, rfl, heq⟩
    next => exact .ok _ _ _
  next =>
    split
    · exact .taken _ _ _
    · exact .ok _ _ _

theorem marks_readKeyword (cs : List Char) : (readKeyword cs).Marks := by
  unfold readKeyword
  dsimp only
  split
  · exact .ok _ _ _
  · exact .taken _ _ _

theorem marks_readToken (h : ¬ CutKey cs) : (readToken cs).Marks := by
  have hfront := atFront_readToken cs
  generalize readToken cs = r at hfront ⊢
  cases hfront with
  | finish | mark => exact .ok _ _ _
  | string => exact marks_readString _
  | regex => exact marks_readRegex _
  | tagKey => exact marks_readTagKey h
  | number => exact marks_readNumber _
  | keyword => exact marks_readKeyword _
  | stuck => exact .next _ (Nat.le_refl 0) _ _

/-- The fault of a cut key is the character behind the text. -/
theorem readToken_of_cutKey (h : CutKey cs) :
    (readToken cs).outcome = .error ⟨.invalidTagIndex, ⟨cs.length, cs.length + 1⟩⟩ := by
  obtain ⟨name, body, rfl, hdecode⟩ := h
  have hextent : Escaped.extent endsBracedName body + _ = _ := Escaped.extent_add_length body
  rw [hdecode] at hextent
  have hlen : ('%' :: '\x7b' :: body).length =
      2 + Escaped.extent endsBracedName body + 1 := by
    simp only [List.length_cons, List.length_nil] at hextent ⊢
    omega
  have hread : readToken ('%' :: '\x7b' :: body) =
      readSelected (String.ofList name) (2 + Escaped.extent endsBracedName body + 1) [] := by
    change readTagKey ('%' :: '\x7b' :: body) = _
    simp only [readTagKey, List.drop_succ_cons, List.drop_zero, hdecode]
  rw [hread, hlen]
  rfl

namespace Lexer

/-- The next call comes to a cut key. -/
def AtCutKey (l : Lexer) : Prop := l.started = true ∧ CutKey (skipBlanks l.rest)

/-- A token lies between the places where its call starts and stops. -/
theorem token_fitsIn {t : Token} (h : l.next.1 = .ok t) : t.span.FitsIn l.length := by
  have hlength := length_next l
  cases hl : l.started with
  | true =>
    cases houtcome : l.reading.outcome with
    | ok s =>
      rw [next_token hl houtcome] at h
      cases h
      rw [← hlength, next_after hl]
      simp only [Span.FitsIn, length]
      omega
    | error e =>
      rw [next_error hl houtcome] at h
      cases h
  | false =>
    rw [next_of_not_started hl] at h
    cases h
    exact ⟨Nat.le_refl 0, Nat.zero_le _⟩

theorem length_skipBlanks (l : Lexer) :
    l.position + blanks l.rest + (skipBlanks l.rest).length = l.length := by
  have hlen := (takes_skipBlanks l.rest).length_add
  unfold length
  omega

theorem answer_fitsIn (h : ¬ l.AtCutKey) : (answerSpan l.next.1).FitsIn l.length := by
  cases hnext : l.next.1 with
  | ok t => exact token_fitsIn hnext
  | error e =>
    cases hl : l.started with
    | true =>
      have hcut : ¬ CutKey (skipBlanks l.rest) := fun hcut => h ⟨hl, hcut⟩
      cases houtcome : l.reading.outcome with
      | ok s =>
        rw [next_token hl houtcome] at hnext
        cases hnext
      | error e' =>
        have hfits := (marks_readToken hcut).fitsIn (takenFrom_readToken _) houtcome
        rw [next_error hl houtcome] at hnext
        cases hnext
        rw [← length_skipBlanks l]
        exact hfits.shift _
    | false =>
      rw [next_of_not_started hl] at hnext
      cases hnext

theorem answer_of_atCutKey (h : l.AtCutKey) :
    l.next.1 = .error ⟨.invalidTagIndex, ⟨l.length, l.length + 1⟩⟩ := by
  obtain ⟨hl, hcut⟩ := h
  have hread := readToken_of_cutKey hcut
  have hlength := length_skipBlanks l
  rw [next_error hl hread, ← hlength]
  rfl

/-- The answer of a call lies in the text unless the call comes to a cut key. -/
theorem answer_fitsIn_iff : (answerSpan l.next.1).FitsIn l.length ↔ ¬ l.AtCutKey := by
  refine ⟨fun hfits hcut => ?_, answer_fitsIn⟩
  rw [answer_of_atCutKey hcut] at hfits
  exact Nat.not_succ_le_self _ hfits.2

end Lexer

end TagSieve

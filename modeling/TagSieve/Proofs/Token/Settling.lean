import TagSieve.Proofs.Token.Layout

/-! Calls of a lexer beyond its first error. Every call takes something off the text until the lexer
stands at the end, or at a character that no token starts with. There it stays and gives the same
answer ever after. -/
namespace TagSieve

variable {cs rest body : List Char} {c : Char} {n k : Nat} {s : Symbol} {cause : LexCause}
  {l : Lexer}

namespace Reading

/-- The end, or an error at a character that no token starts with. -/
def Stuck (r : Reading) : Prop :=
  match r.outcome with
  | .ok s => s = .finish
  | .error e => e.cause.IsStuck

/-- A token or an error that takes something. -/
def Moves (r : Reading) : Prop := 0 < r.size ∧ ¬ r.Stuck

/-- Nothing is taken, and the same text is left to read. -/
def Stays (cs : List Char) (r : Reading) : Prop := r.size = 0 ∧ r.rest = cs ∧ r.Stuck

theorem Moves.value (hn : 0 < n) (v : Value) (rest : List Char) :
    (Reading.ok (.value v) n rest).Moves := ⟨hn, nofun⟩

theorem Moves.fail (hn : 0 < n) (hcause : ¬ cause.IsStuck) (start stop : Nat)
    (rest : List Char) : (Reading.fail cause start stop n rest).Moves := ⟨hn, hcause⟩

end Reading

open Reading

theorem moves_readString (cs : List Char) : (readString cs).Moves := by
  unfold readString
  dsimp only
  split
  · exact .fail (by omega) id _ _ _
  · exact .value (by omega) _ _

theorem moves_readRegex (cs : List Char) : (readRegex cs).Moves := by
  unfold readRegex
  dsimp only
  split
  · exact .fail (by omega) id _ _ _
  · split
    · exact .fail (by omega) id _ _ _
    · split
      · exact .value (by omega) _ _
      · exact .fail (by omega) id _ _ _

theorem moves_readNumberUpTo {value : Option Value} (hn : 0 < n) (cs rest : List Char) :
    (readNumberUpTo value cs n rest).Moves := by
  unfold readNumberUpTo
  dsimp only
  split
  · exact .fail (by omega) id _ _ _
  · exact .fail hn id _ _ _
  · exact .value hn _ _

/-- A number starts with a sign or with a digit of its own. -/
theorem number_size_pos (hc : (c.isDigit || c == '+' || c == '-') = true) (body : List Char) :
    0 < signSize (c :: body) + ((splitSign (c :: body)).2.takeWhile isNumberChar).length := by
  by_cases hminus : c = '-'
  · subst hminus
    exact Nat.lt_of_lt_of_le Nat.zero_lt_one (Nat.le_add_right 1 _)
  by_cases hplus : c = '+'
  · subst hplus
    exact Nat.lt_of_lt_of_le Nat.zero_lt_one (Nat.le_add_right 1 _)
  have hdigit : c.isDigit = true := by simpa [hminus, hplus] using hc
  have hbody : (splitSign (c :: body)).2 = c :: body := by simp [splitSign, hminus, hplus]
  have hnumber : isNumberChar c = true := by simp [isNumberChar, hdigit]
  have hlen : ((c :: body).takeWhile isNumberChar).length =
      (body.takeWhile isNumberChar).length + 1 := by simp [hnumber]
  rw [hbody, hlen]
  omega

theorem moves_readNumber (hc : (c.isDigit || c == '+' || c == '-') = true) (body : List Char) :
    (readNumber (c :: body)).Moves := by
  have hsize := number_size_pos hc body
  unfold readNumber
  dsimp only
  split
  · exact moves_readNumberUpTo (Nat.succ_pos _) _ _
  · exact moves_readNumberUpTo hsize _ _

theorem moves_readSelected (name : String) (hn : 0 < n) (cs : List Char) :
    (readSelected name n cs).Moves := by
  unfold readSelected
  split
  · exact .fail (by omega) id _ _ _
  · exact .value (by omega) _ _
  · exact .fail (by omega) id _ _ _
  · exact .fail (by omega) id _ _ _

theorem moves_readTagKey (cs : List Char) : (readTagKey cs).Moves := by
  unfold readTagKey
  split
  · dsimp only
    split
    · exact .fail (by omega) id _ _ _
    · exact moves_readSelected _ (by omega) _
    · exact .value (by omega) _ _
  · dsimp only
    split
    · exact .fail Nat.one_pos id _ _ _
    · exact .value (by omega) _ _

theorem moves_readKeyword (hc : isIdentChar c = true) (body : List Char) :
    (readKeyword (c :: body)).Moves := by
  have hword : 0 < ((c :: body).takeWhile isIdentChar).length := by simp [hc]
  unfold readKeyword
  dsimp only
  split
  · exact .value hword _ _
  · exact .fail hword id _ _ _

theorem moves_mark (hs : s.IsMark) (rest : List Char) :
    (Reading.ok s s.chars.length rest).Moves := by
  refine ⟨hs.length_pos, ?_⟩
  rintro rfl
  exact hs

/-- A reading takes something, or it is the last one of its text. -/
theorem readToken_moves_or_stays (cs : List Char) :
    (readToken cs).Moves ∨ (readToken cs).Stays cs := by
  have h := atFront_readToken cs
  generalize readToken cs = r at h ⊢
  cases h with
  | finish => exact Or.inr ⟨rfl, rfl, rfl⟩
  | mark hs _ _ hn => exact Or.inl (hn ▸ moves_mark hs _)
  | string => exact Or.inl (moves_readString _)
  | regex => exact Or.inl (moves_readRegex _)
  | tagKey => exact Or.inl (moves_readTagKey _)
  | number _ hc => exact Or.inl (moves_readNumber hc _)
  | keyword _ _ hc =>
    refine Or.inl (moves_readKeyword ?_ _)
    simp only [isIdentChar, Unicode.isAlphanumeric, Bool.or_eq_true] at hc ⊢
    tauto
  | stuck hcause => exact Or.inr ⟨rfl, rfl, hcause⟩

namespace Lexer

/-- The number of characters of the whole text. -/
def length (l : Lexer) : Nat := l.position + l.rest.length

/-- What a call reads behind the blanks. -/
def reading (l : Lexer) : Reading := readToken (skipBlanks l.rest)

/-- The next answer is the end, or an error at a character that no token starts with. -/
def Settled (l : Lexer) : Prop :=
  match l.next.1 with
  | .ok t => t.symbol = .finish
  | .error e => e.cause.IsStuck

/-- The first call takes nothing. -/
theorem next_of_not_started (hl : l.started = false) :
    l.next = (.ok ⟨.start, ⟨0, 0⟩⟩, { l with started := true }) := by
  unfold next
  rw [hl]
  rfl

theorem next_after (hl : l.started = true) :
    l.next.2 = ⟨l.reading.rest, l.position + blanks l.rest + l.reading.size, true⟩ := by
  unfold next
  rw [if_pos hl]
  dsimp only
  split <;> rfl

theorem next_token (hl : l.started = true) (h : l.reading.outcome = .ok s) :
    l.next.1 = .ok ⟨s, ⟨l.position + blanks l.rest, l.next.2.position⟩⟩ := by
  have hread : readToken (skipBlanks l.rest) = .ok s l.reading.size l.reading.rest :=
    Reading.eq_ok h
  have hnext := next_of_readToken hl hread
  rw [hnext]

theorem next_error {e : LexError} (hl : l.started = true) (h : l.reading.outcome = .error e) :
    l.next.1 = .error (e.shift (l.position + blanks l.rest)) := by
  unfold reading skipBlanks at h
  unfold next
  rw [if_pos hl]
  dsimp only
  rw [h]
  rfl

theorem started_next (l : Lexer) : l.next.2.started = true := by
  cases hl : l.started with
  | true => rw [next_after hl]
  | false => rw [next_of_not_started hl]

theorem settled_of_token {t : Token} (h : l.next.1 = .ok t) : l.Settled ↔ t.symbol = .finish := by
  unfold Settled
  rw [h]

theorem settled_of_error {e : LexError} (h : l.next.1 = .error e) :
    l.Settled ↔ e.cause.IsStuck := by
  unfold Settled
  rw [h]

theorem settled_iff (hl : l.started = true) : l.Settled ↔ l.reading.Stuck := by
  unfold Stuck
  cases houtcome : l.reading.outcome with
  | ok s => exact settled_of_token (next_token hl houtcome)
  | error e => exact settled_of_error (e := e.shift _) (next_error hl houtcome)

/-- A call takes blanks and its reading, and nothing of the text gets lost. -/
theorem length_next (l : Lexer) : l.next.2.length = l.length := by
  cases hl : l.started with
  | true =>
    have htaken : Takes _ _ _ := takenFrom_readToken (skipBlanks l.rest)
    have hlen := ((takes_skipBlanks l.rest).trans htaken).length_add
    rw [next_after hl]
    simp only [length, reading]
    omega
  | false =>
    rw [next_of_not_started hl]
    rfl

theorem position_le_next (l : Lexer) : l.position ≤ l.next.2.position := by
  cases hl : l.started with
  | true =>
    rw [next_after hl]
    dsimp only
    omega
  | false =>
    rw [next_of_not_started hl]

/-- A call that does not settle takes something behind the blanks. -/
theorem position_lt_next (hl : l.started = true) (h : ¬ l.Settled) :
    l.position + blanks l.rest < l.next.2.position := by
  have hstuck : ¬ l.reading.Stuck := fun hstuck => h ((settled_iff hl).mpr hstuck)
  rcases readToken_moves_or_stays (skipBlanks l.rest) with hmoves | hstays
  · have hsize : 0 < l.reading.size := hmoves.1
    rw [next_after hl]
    dsimp only
    omega
  · exact absurd hstays.2.2 hstuck

/-- A lexer that has settled asks the same question again. -/
theorem next_of_settled (hl : l.started = true) (h : l.Settled) : l.next.2.next = l.next := by
  rcases readToken_moves_or_stays (skipBlanks l.rest) with hmoves | ⟨hsize, hrest, -⟩
  · exact absurd ((settled_iff hl).mp h) hmoves.2
  have hafter : l.next.2 = ⟨skipBlanks l.rest, l.position + blanks l.rest, true⟩ := by
    rw [next_after hl, reading, hsize, hrest, Nat.add_zero]
  have hskip : skipBlanks l.next.2.rest = skipBlanks l.rest := by
    rw [hafter, skipBlanks_skipBlanks]
  have hreading : l.next.2.reading = l.reading := congrArg readToken hskip
  have hposition : l.next.2.position + blanks l.next.2.rest = l.position + blanks l.rest := by
    rw [hafter, blanks_skipBlanks, Nat.add_zero]
  have hsame : l.next.2.next.2 = l.next.2 := by
    rw [next_after (started_next l), hreading, hposition, next_after hl]
  refine Prod.ext ?_ hsame
  cases houtcome : l.reading.outcome with
  | ok s => rw [next_token hl houtcome, next_token (started_next l) (hreading ▸ houtcome), hsame,
      hposition]
  | error e =>
    rw [next_error hl houtcome, next_error (started_next l) (hreading ▸ houtcome), hposition]

theorem skip_succ (k : Nat) (l : Lexer) : l.skip (k + 1) = (l.skip k).next.2 := by
  induction k generalizing l with
  | zero => rfl
  | succ k ih => exact ih l.next.2

theorem started_skip (k : Nat) (l : Lexer) : (l.skip (k + 1)).started = true := by
  rw [skip_succ]
  exact started_next _

theorem length_skip (k : Nat) (l : Lexer) : (l.skip k).length = l.length := by
  induction k with
  | zero => rfl
  | succ k ih =>
    rw [skip_succ, length_next]
    exact ih

/-- No call changes the length of the source. -/
theorem length_skip_ofString (source : String) (k : Nat) :
    ((ofString source).skip k).length = source.toList.length := by
  rw [length_skip]
  exact Nat.zero_add _

theorem skip_of_settled (hl : l.started = true) (h : l.Settled) (k : Nat) :
    (l.skip k).next = l.next := by
  induction k with
  | zero => rfl
  | succ k ih =>
    have hnext := next_of_settled hl h
    rw [skip_succ, ih, hnext]

/-- Every call before the last different one takes a character. -/
theorem settled_skip (hl : l.started = true) (h : l.rest.length ≤ k) : (l.skip k).Settled := by
  induction k generalizing l with
  | zero =>
    have hrest : l.rest = [] := List.length_eq_zero_iff.mp (Nat.le_zero.mp h)
    have hreading : l.reading.Stuck := by
      rw [reading, hrest]
      rfl
    exact (settled_iff hl).mpr hreading
  | succ k ih =>
    by_cases hsettled : l.Settled
    · have hnext := skip_of_settled hl hsettled (k + 1)
      unfold Settled
      rw [hnext]
      exact hsettled
    · have hlt := position_lt_next hl hsettled
      have hlength := length_next l
      unfold length at hlength
      exact ih (started_next l) (by omega)

/-- No call after the first gives the start. -/
theorem next_ne_start (hl : l.started = true) {t : Token} (h : l.next.1 = .ok t) :
    t.symbol ≠ .start := by
  obtain ⟨n, hread, -⟩ := readToken_of_next hl h
  rcases readToken_eq_ok (congrArg Reading.outcome hread) with ⟨hfinish, -⟩ | ⟨hstart, -⟩
  · rw [hfinish]
    nofun
  · exact hstart

/-- A filter starts with the start. -/
theorem parse_of_started (hl : l.started = true) : ∃ e, l.parse.outcome = .error e := by
  unfold parse TokenStream.ofLexer
  cases hnext : l.next.1 with
  | error e =>
    rw [TokenStream.ofCalls_of_error hnext]
    exact ⟨_, rfl⟩
  | ok t =>
    have hstart := next_ne_start hl hnext
    obtain ⟨symbol, span⟩ := t
    by_cases hfinish : symbol = .finish
    · subst hfinish
      rw [TokenStream.ofCalls_of_finish hnext]
      exact ⟨_, rfl⟩
    · rw [TokenStream.ofCalls_of_token hnext hfinish, ParseState.run_token]
      cases symbol with
      | start => exact absurd rfl hstart
      | _ => exact ⟨_, rfl⟩

/-- However often a lexer is asked, errors or not, only its first answer is the start. Each further
call takes something behind the blanks, until the lexer settles and repeats its answer; two calls
more than characters are enough for that. No filter is parsed behind a first call. -/
theorem calls_settle (source : String) :
    (ofString source).next.1 = .ok ⟨.start, ⟨0, 0⟩⟩ ∧
    (∀ k, ((ofString source).skip k).position ≤ ((ofString source).skip (k + 1)).position ∧
      ((ofString source).skip k).position ≤ source.toList.length) ∧
    ∀ k l, l = (ofString source).skip (k + 1) →
      (∀ t, l.next.1 = .ok t → t.symbol ≠ .start) ∧
      (¬ l.Settled → l.position + blanks l.rest < l.next.2.position) ∧
      (l.Settled → ∀ j, (l.skip j).next.1 = l.next.1) ∧
      (source.toList.length ≤ k → ∀ j, (l.skip j).next.1 = l.next.1) ∧
      ∃ e, l.parse.outcome = .error e := by
  have hlength := length_skip_ofString source
  refine ⟨rfl, ?_, ?_⟩
  · intro k
    have hk := hlength k
    unfold length at hk
    have hle := position_le_next ((ofString source).skip k)
    rw [← skip_succ] at hle
    exact ⟨hle, by omega⟩
  · intro k l hskip
    have hl : l.started = true := hskip ▸ started_skip k (ofString source)
    have hrepeat (h : l.Settled) (j : Nat) : (l.skip j).next.1 = l.next.1 :=
      congrArg Prod.fst (skip_of_settled hl h j)
    have hsettled (hk : source.toList.length ≤ k) : l.Settled := by
      have h := settled_skip (l := (ofString source).next.2) (started_next _) hk
      exact hskip ▸ h
    exact ⟨fun t => next_ne_start hl, position_lt_next hl, hrepeat, fun hk => hrepeat (hsettled hk),
      parse_of_started hl⟩

/-- A key whose selector is missing, so that its closing brace is left to read. -/
def strandedSource : String := String.ofList "%a %\x7bx=\x7d".toList

def strandedError : LexError := ⟨.unexpectedChar '\x7d', ⟨7, 8⟩⟩

theorem calls_strandedSource :
    ((ofString strandedSource).calls 4) = [.ok ⟨.start, ⟨0, 0⟩⟩,
      .ok ⟨.value (.tag ⟨"a", .unset⟩), ⟨0, 2⟩⟩, .error ⟨.invalidTagIndex, ⟨7, 8⟩⟩,
      .error strandedError] := by
  unfold strandedSource ofString
  rw [String.toList_ofList]
  decide +kernel

/-- The third call takes the broken key, and from the fourth on the brace is refused. -/
theorem calls_settle_stranded :
    (∀ j, (((ofString strandedSource).skip 3).skip j).next.1 = .error strandedError) ∧
      (∀ j, (((ofString strandedSource).skip 9).skip j).next.1 =
        ((ofString strandedSource).skip 9).next.1) ∧
      ((ofString strandedSource).skip 2).position <
        ((ofString strandedSource).skip 2).next.2.position ∧
      ∃ e, ((ofString strandedSource).skip 1).parse.outcome = .error e := by
  obtain ⟨-, -, hsettle⟩ := calls_settle strandedSource
  obtain ⟨-, hcalls⟩ := List.cons.inj calls_strandedSource
  obtain ⟨-, hcalls⟩ := List.cons.inj hcalls
  obtain ⟨hthird, hcalls⟩ := List.cons.inj hcalls
  obtain ⟨hfourth, -⟩ := List.cons.inj hcalls
  have hmoved : ¬ ((ofString strandedSource).skip 2).Settled := by
    rw [settled_of_error (l := (ofString strandedSource).skip 2) hthird]
    exact id
  have hstuck : ((ofString strandedSource).skip 3).Settled :=
    (settled_of_error (l := (ofString strandedSource).skip 3) hfourth).mpr trivial
  have hlength : strandedSource.toList.length ≤ 8 := by
    unfold strandedSource
    rw [String.toList_ofList]
    decide
  have hparse := (hsettle 0 ((ofString strandedSource).skip 1) rfl).2.2.2.2
  have hmoves := (hsettle 1 ((ofString strandedSource).skip 2) rfl).2.1 hmoved
  have hrepeat := (hsettle 2 ((ofString strandedSource).skip 3) rfl).2.2.1 hstuck
  have hlong := (hsettle 8 ((ofString strandedSource).skip 9) rfl).2.2.2.1 hlength
  refine ⟨fun j => ?_, hlong, by omega, hparse⟩
  rw [hrepeat j]
  exact hfourth

end Lexer

end TagSieve

import TagSieve.Proofs.Text.Delimited
import TagSieve.Proofs.Token.Spacing

/-! How many opening parentheses a text has: those of its own symbols, and those inside of its
values. -/
namespace TagSieve

variable {cs rest : List Char} {ss : List Symbol} {s : Symbol} {v : Value} {p : Char → Bool}
  {size : Nat}

/-- The opening parentheses in the text of a value. -/
def Value.parens : Value → Nat
  | .string s => s.toList.count '('
  | .regex p => p.source.toList.count '('
  | .tag key => key.name.toList.count '('
  | _ => 0

def Symbol.parens : Symbol → Nat
  | .openParen => 1
  | .value v => v.parens
  | _ => 0

/-- The opening parentheses in a text of these symbols. -/
def parens : List Symbol → Nat
  | [] => 0
  | s :: ss => s.parens + parens ss

@[simp] theorem parens_nil : parens [] = 0 := rfl

@[simp] theorem parens_cons (s : Symbol) (ss : List Symbol) :
    parens (s :: ss) = s.parens + parens ss := rfl

@[simp] theorem parens_append (ss ts : List Symbol) :
    parens (ss ++ ts) = parens ss + parens ts := by
  induction ss with
  | nil => simp
  | cons s ss ih => rw [List.cons_append, parens_cons, parens_cons, ih, Nat.add_assoc]

theorem count_takeWhile_add (p : Char → Bool) (cs : List Char) :
    (cs.takeWhile p).count '(' + (cs.dropWhile p).count '(' = cs.count '(' := by
  rw [← List.count_append, List.takeWhile_append_dropWhile]

theorem count_dropWhile (hp : p '(' = false) (cs : List Char) :
    (cs.dropWhile p).count '(' = cs.count '(' := by
  have htaken : (cs.takeWhile p).count '(' = 0 := by
    refine List.count_eq_zero.mpr fun h => ?_
    rw [List.mem_takeWhile_imp h] at hp
    cases hp
  rw [← count_takeWhile_add p cs, htaken, Nat.zero_add]

theorem count_skipBlanks (cs : List Char) : (skipBlanks cs).count '(' = cs.count '(' :=
  count_dropWhile (by decide +kernel) cs

/-- Only backslashes are lost. -/
theorem Escaped.count_decode (stop : Char → Bool) (cs : List Char) :
    (decode stop cs).1.count '(' + (decode stop cs).2.count '(' = cs.count '(' := by
  fun_induction decode stop cs with
  | case1 => rfl
  | case2 c h => simp
  | case3 c h => simp
  | case4 c d rest h => simp
  | case5 c d rest h hd text rest' heq ih =>
    simp only [Bool.and_eq_true, decide_eq_true_eq] at hd
    obtain ⟨rfl, -⟩ := hd
    rw [heq] at ih
    simp only [List.count_cons] at ih ⊢
    rw [if_neg (show ¬ ('\\' == '(') = true by decide)]
    omega
  | case6 c d rest h hd text rest' heq ih =>
    rw [heq] at ih
    simp only [List.count_cons] at ih ⊢
    omega

theorem count_splitSign (cs : List Char) : (splitSign cs).2.count '(' = cs.count '(' := by
  unfold splitSign
  split <;> rfl

theorem count_readFlags (i m : Bool) (cs : List Char) :
    (readFlags i m cs).2.2.count '(' = cs.count '(' := by
  fun_induction readFlags i m cs with
  | case1 => rfl
  | case2 m rest i hi flags size rest' heq ih =>
    rw [heq] at ih
    exact ih
  | case3 => rfl
  | case4 i rest m hm flags size rest' heq ih =>
    rw [heq] at ih
    exact ih
  | case5 => rfl

theorem count_readSelector (cs : List Char) :
    (readSelector cs).2.2.count '(' = cs.count '(' := by
  unfold readSelector
  split
  · rfl
  · rfl
  · rfl
  · dsimp only
    split
    · rfl
    · split
      · exact count_dropWhile rfl cs
      · exact count_dropWhile rfl cs

/-- If a symbol is read, the parentheses of the text are its own and those behind it. -/
def Reading.Counts (cs : List Char) (r : Reading) : Prop :=
  ∀ s, r.outcome = .ok s → s.parens + r.rest.count '(' = cs.count '('

namespace Reading.Counts

theorem ok (h : s.parens + rest.count '(' = cs.count '(') :
    (Reading.ok s size rest).Counts cs := by
  intro s' hs
  cases hs
  exact h

theorem fail (cause : LexCause) (start stop size : Nat) (rest cs : List Char) :
    (Reading.fail cause start stop size rest).Counts cs := by
  intro s hs
  cases hs

end Reading.Counts

theorem counts_readString (cs : List Char) : (readString ('"' :: cs)).Counts ('"' :: cs) := by
  have hcount := Escaped.count_decode (· == '"') cs
  simp only [readString, List.drop_succ_cons, List.drop_zero]
  split
  next => exact .fail _ _ _ _ _ _
  next text d rest heq =>
    have hd : d = '"' := by simpa using Escaped.stop_of_decode heq
    subst hd
    rw [heq] at hcount
    exact .ok (by simpa [Symbol.parens, Value.parens] using hcount)

theorem counts_readRegex (cs : List Char) : (readRegex ('/' :: cs)).Counts ('/' :: cs) := by
  have hcount := Escaped.count_decode (· == '/') cs
  simp only [readRegex, List.drop_succ_cons, List.drop_zero]
  split
  next => exact .fail _ _ _ _ _ _
  next text d rest heq =>
    have hd : d = '/' := by simpa using Escaped.stop_of_decode heq
    subst hd
    rw [heq] at hcount
    have hflags := count_readFlags false false rest
    split
    next => exact .fail _ _ _ _ _ _
    next =>
      split
      next p hp =>
        have hsource := Pattern.source_ofSource? hp
        exact .ok (by simpa [Symbol.parens, Value.parens, hsource, hflags] using hcount)
      next => exact .fail _ _ _ _ _ _

theorem parens_of_numberOf? {negative : Bool} (h : numberOf? negative cs = some v) :
    v.parens = 0 := by
  unfold numberOf? at h
  split at h
  · obtain ⟨n, -, rfl⟩ := Option.map_eq_some_iff.mp h
    rfl
  · split at h
    · cases h
      rfl
    · cases h

theorem counts_readNumberUpTo {value : Option Value} (hvalue : ∀ v, value = some v → v.parens = 0)
    (hrest : rest.count '(' = cs.count '(') : (readNumberUpTo value cs size rest).Counts cs := by
  unfold readNumberUpTo
  dsimp only
  split
  · exact .fail _ _ _ _ _ _
  · exact .fail _ _ _ _ _ _
  · refine .ok ?_
    rw [Symbol.parens, hvalue _ rfl, Nat.zero_add, hrest]

theorem counts_readNumber (cs : List Char) : (readNumber cs).Counts cs := by
  have hsign := count_splitSign cs
  unfold readNumber
  dsimp only
  split
  case isTrue h =>
    obtain ⟨rest, hrest⟩ := startsLoneZero_eq_true h
    rw [hrest] at hsign ⊢
    refine counts_readNumberUpTo ?_ hsign
    rintro v ⟨⟩
    rfl
  case isFalse =>
    refine counts_readNumberUpTo (fun v => parens_of_numberOf?) ?_
    rw [count_dropWhile rfl, hsign]

theorem counts_readSelected {name : List Char} {start : Nat}
    (h : name.count '(' + rest.count '(' = cs.count '(') :
    (readSelected (String.ofList name) start rest).Counts cs := by
  have hselector := count_readSelector rest
  unfold readSelected
  split
  next => exact .fail _ _ _ _ _ _
  next t size behind heq =>
    rw [heq] at hselector
    have hbehind : behind.count '(' = rest.count '(' := by simpa using hselector
    exact .ok (by simpa [Symbol.parens, Value.parens, hbehind] using h)
  next => exact .fail _ _ _ _ _ _
  next => exact .fail _ _ _ _ _ _

theorem counts_readTagKey (cs : List Char) : (readTagKey ('%' :: cs)).Counts ('%' :: cs) := by
  simp only [readTagKey, List.drop_succ_cons, List.drop_zero]
  split
  next inner =>
    have hcount := Escaped.count_decode endsBracedName inner
    split
    next => exact .fail _ _ _ _ _ _
    next name rest heq =>
      rw [heq] at hcount
      exact counts_readSelected (by simpa using hcount)
    next name d rest _ heq =>
      have hd := Escaped.stop_of_decode heq
      have hparen : d ≠ '(' := by
        rintro rfl
        cases hd
      rw [heq] at hcount
      refine .ok ?_
      simpa [Symbol.parens, Value.parens, hparen] using hcount
  next =>
    split
    · exact .fail _ _ _ _ _ _
    · refine .ok ?_
      simpa [Symbol.parens, Value.parens] using count_takeWhile_add isBareNameChar cs

theorem parens_of_keyword? {word : List Char} (h : keyword? word = some v) : v.parens = 0 := by
  unfold keyword? at h
  dsimp only at h
  split_ifs at h
  all_goals
    cases h
    rfl

theorem counts_readKeyword (cs : List Char) : (readKeyword cs).Counts cs := by
  have hcount : (cs.dropWhile isIdentChar).count '(' = cs.count '(' :=
    count_dropWhile (by decide +kernel) cs
  unfold readKeyword
  dsimp only
  split
  next v hv =>
    refine .ok ?_
    rw [Symbol.parens, parens_of_keyword? hv, Nat.zero_add, hcount]
  next => exact .fail _ _ _ _ _ _

theorem parens_of_isMark (hs : s.IsMark) : s.parens = s.chars.count '(' := by
  cases s with
  | connective c => cases c <;> rfl
  | operator op => cases op <;> rfl
  | not | openParen | closeParen => rfl
  | start | finish | value => exact hs.elim

theorem counts_readToken (cs : List Char) : (readToken cs).Counts cs := by
  have h := atFront_readToken cs
  generalize readToken cs = r at h ⊢
  cases h with
  | finish => exact .ok rfl
  | mark hs _ hcs => exact .ok (by rw [← hcs, List.count_append, parens_of_isMark hs])
  | string => exact counts_readString _
  | regex => exact counts_readRegex _
  | tagKey => exact counts_readTagKey _
  | number => exact counts_readNumber _
  | keyword => exact counts_readKeyword _
  | stuck => exact .fail _ _ _ _ _ _

theorem parens_add_of_spells (h : Spells cs ss rest) :
    parens ss + rest.count '(' = cs.count '(' := by
  induction h with
  | nil => simp
  | @cons cs rest rest' s n ss h _ _ ih =>
    have hcounts := counts_readToken (skipBlanks cs)
    rw [h] at hcounts
    calc parens (s :: ss) + rest'.count '('
      _ = s.parens + (parens ss + rest'.count '(') := Nat.add_assoc _ _ _
      _ = s.parens + rest.count '(' := by rw [ih]
      _ = (skipBlanks cs).count '(' := hcounts s rfl
      _ = cs.count '(' := count_skipBlanks cs

/-- The opening parentheses of a source are those of its symbols. -/
theorem parens_of_lexes {source : String} (h : Lexes source (.start :: ss)) :
    parens ss = source.toList.count '(' := by
  obtain ⟨rest, hspells, hblank⟩ := lexes_iff_spells.mp h
  have hrest : rest.count '(' = 0 := by
    rw [← count_skipBlanks, skipBlanks_eq_nil_iff.mpr hblank]
    rfl
  rw [← parens_add_of_spells hspells, hrest, Nat.add_zero]

end TagSieve

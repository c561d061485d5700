import Mathlib.Algebra.Group.Nat.Defs
import TagSieve.Proofs.Token.Boundary

/-! A token that is read off a text is read just so in front of more text, if no token goes on into
that. -/
namespace TagSieve

variable {cs rest more body : List Char} {c : Char} {n size : Nat} {s : Symbol} {v : Value}

/-- A reading that stays the same in front of more text. -/
def Reading.Extends (r r' : Reading) (more : List Char) : Prop :=
  ∀ s, r.outcome = .ok s → r' = .ok s r.size (r.rest ++ more)

namespace Reading.Extends

theorem ok (s : Symbol) (n : Nat) (rest more : List Char) :
    (Reading.ok s n rest).Extends (.ok s n (rest ++ more)) more := by
  rintro _ ⟨⟩
  rfl

theorem fail (cause : LexCause) (start stop size : Nat) (rest more : List Char) (r : Reading) :
    (Reading.fail cause start stop size rest).Extends r more := by
  intro s hs
  cases hs

end Reading.Extends

open Reading

theorem extends_readString (c : Char) (body more : List Char) :
    (readString (c :: body)).Extends (readString (c :: (body ++ more))) more := by
  simp only [readString, List.drop_succ_cons, List.drop_zero]
  split
  next => exact .fail _ _ _ _ _ _ _
  next text d rest heq =>
    rw [Escaped.decode_append heq, Escaped.extent_append heq]
    exact .ok _ _ _ _

theorem readFlags_append {i m : Bool} {flags : Bool × Bool} (hmore : Ends more)
    (h : readFlags i m cs = (.ok flags, n, rest)) :
    readFlags i m (cs ++ more) = (.ok flags, n, rest ++ more) := by
  fun_induction readFlags i m cs generalizing n rest with
  | case1 => cases h
  | case2 m cs i hi result size rest' heq ih =>
    cases h
    simp [readFlags, hi, ih heq]
  | case3 => cases h
  | case4 i cs m hm result size rest' heq ih =>
    cases h
    simp [readFlags, hm, ih heq]
  | case5 i m cs hi hm =>
    cases h
    rw [readFlags]
    · exact append_ne_cons rfl hmore hi
    · exact append_ne_cons rfl hmore hm

theorem extends_readRegex (c : Char) (body : List Char) (hmore : Ends more) :
    (readRegex (c :: body)).Extends (readRegex (c :: (body ++ more))) more := by
  simp only [readRegex, List.drop_succ_cons, List.drop_zero]
  split
  next => exact .fail _ _ _ _ _ _ _
  next text d rest heq =>
    rw [Escaped.decode_append heq, Escaped.extent_append heq]
    dsimp only
    split
    next => exact .fail _ _ _ _ _ _ _
    next i m hflags =>
      rw [readFlags_append hmore (Prod.ext hflags rfl)]
      dsimp only
      split
      next => exact .ok _ _ _ _
      next => exact .fail _ _ _ _ _ _ _

theorem extends_readNumberUpTo {value : Option Value} (hmore : Ends more) :
    (readNumberUpTo value cs size rest).Extends
      (readNumberUpTo value (cs ++ more) size (rest ++ more)) more := by
  have hhead (h : (rest.head?.any fun c => isIdentChar c && !c.isDigit) = false) :
      ((rest ++ more).head?.any fun c => isIdentChar c && !c.isDigit) = false := by
    cases rest with
    | cons d rest => exact h
    | nil =>
      cases more with
      | nil => rfl
      | cons d more => simp [not_isIdentChar (hmore d rfl)]
  unfold readNumberUpTo
  dsimp only
  split
  next => exact .fail _ _ _ _ _ _ _
  next => exact .fail _ _ _ _ _ _ _
  next v h =>
    rw [hhead h]
    exact .ok _ _ _ _

theorem splitSign_cons_append (c : Char) (cs more : List Char) :
    splitSign (c :: cs ++ more) = ((splitSign (c :: cs)).1, (splitSign (c :: cs)).2 ++ more) ∧
      signSize (c :: cs ++ more) = signSize (c :: cs) := by
  by_cases hminus : c = '-'
  · subst hminus
    exact ⟨rfl, rfl⟩
  · by_cases hplus : c = '+'
    · subst hplus
      exact ⟨rfl, rfl⟩
    · simp [splitSign, signSize, hminus, hplus]

theorem startsLoneZero_of_ends (hmore : Ends more) : startsLoneZero more = false := by
  cases more with
  | nil => rfl
  | cons d more =>
    have hd : d ≠ '0' := by
      rintro rfl
      exact absurd (not_isNumberChar (hmore '0' rfl)) (by decide)
    simp [startsLoneZero, hd]

theorem startsLoneZero_append (body : List Char) (hmore : Ends more) :
    startsLoneZero (body ++ more) = startsLoneZero body := by
  cases body with
  | nil => exact startsLoneZero_of_ends hmore
  | cons c body =>
    by_cases hc : c = '0'
    · subst hc
      cases body with
      | nil =>
        have hpoint : ∀ t, [] ++ more ≠ '.' :: t := append_ne_cons rfl hmore nofun
        rw [List.cons_append, List.nil_append, startsLoneZero]
        · rfl
        · exact fun t => hpoint t
      | cons d body =>
        by_cases hd : d = '.'
        · subst hd
          rfl
        · simp [startsLoneZero, hd]
    · simp [startsLoneZero, hc]

theorem extends_readNumber (c : Char) (cs : List Char) (hmore : Ends more) :
    (readNumber (c :: cs)).Extends (readNumber (c :: cs ++ more)) more := by
  obtain ⟨hsign, hsize⟩ := splitSign_cons_append c cs more
  unfold readNumber
  rw [hsign, hsize]
  dsimp only
  rw [startsLoneZero_append _ hmore]
  split
  case isTrue h =>
    obtain ⟨rest, hrest⟩ := startsLoneZero_eq_true h
    rw [hrest]
    exact extends_readNumberUpTo hmore
  case isFalse =>
    obtain ⟨htake, hdrop⟩ := takeWhile_append_more (p := isNumberChar) (splitSign (c :: cs)).2 more
      (head?_dropWhile_append (fun _ => not_isNumberChar) hmore)
    rw [htake, hdrop]
    exact extends_readNumberUpTo hmore

/-- The position that a run of digits stands for. -/
theorem readSelector_run {ds : List Char} (hds : ∀ d ∈ ds, d.isDigit = true) (hne : ds ≠ [])
    (hsmall : digitsValue ds < 2 ^ 64) (hmore : ∀ c ∈ more.head?, c.isDigit = false) :
    readSelector (ds ++ more) = (.ok (.nth (UInt64.ofNat (digitsValue ds))), ds.length, more) := by
  obtain ⟨d, cs, rfl⟩ := List.exists_cons_of_ne_nil hne
  have hstar : d ≠ '*' := by
    rintro rfl
    cases hds '*' List.mem_cons_self
  obtain ⟨htake, hdrop⟩ := takeWhile_run hds more hmore
  rw [List.cons_append] at htake hdrop ⊢
  rw [readSelector, htake, hdrop]
  · simp only [List.isEmpty_cons, Bool.false_eq_true, if_false, if_neg (Nat.not_le.mpr hsmall)]
  all_goals simp [hstar]

/-- The characters of a selector, and what they leave of the text. A star without a mark is not
followed by one, and a position is followed by no digit. -/
inductive SelectorAt : (taken rest : List Char) → Selector → Prop
  | all (rest : List Char) : SelectorAt ['*', '&'] rest .all
  | any (rest : List Char) : SelectorAt ['*', '|'] rest .any
  | join {rest : List Char} (hrest : ∀ c ∈ rest.head?, c ≠ '&' ∧ c ≠ '|') :
      SelectorAt ['*'] rest .join
  | nth {ds rest : List Char} (hds : ∀ d ∈ ds, d.isDigit = true) (hne : ds ≠ [])
      (hsmall : digitsValue ds < 2 ^ 64) (hrest : ∀ c ∈ rest.head?, c.isDigit = false) :
      SelectorAt ds rest (.nth (UInt64.ofNat (digitsValue ds)))

theorem SelectorAt.of_head {taken : List Char} {t : Selector} (h : SelectorAt taken (c :: rest) t)
    (rest' : List Char) : SelectorAt taken (c :: rest') t := by
  cases h with
  | all => exact .all _
  | any => exact .any _
  | join hrest => exact .join hrest
  | nth hds hne hsmall hrest => exact .nth hds hne hsmall hrest

theorem readSelector_eq_ok {t : Selector} :
    readSelector cs = (.ok t, n, rest) ↔
      ∃ taken, cs = taken ++ rest ∧ taken.length = n ∧ SelectorAt taken rest t := by
  constructor
  · intro h
    unfold readSelector at h
    split at h
    next =>
      cases h
      exact ⟨_, rfl, rfl, .all _⟩
    next =>
      cases h
      exact ⟨_, rfl, rfl, .any _⟩
    next hall hany =>
      cases h
      refine ⟨['*'], rfl, rfl, .join ?_⟩
      intro c hc
      obtain ⟨tail, rfl⟩ := List.head?_eq_some_iff.mp hc
      constructor
      · rintro rfl
        exact hall tail rfl
      · rintro rfl
        exact hany tail rfl
    next =>
      dsimp only at h
      split at h
      case isTrue => cases h
      case isFalse hdigits =>
        split at h
        case isTrue => cases h
        case isFalse hsmall =>
          cases h
          refine ⟨_, List.takeWhile_append_dropWhile.symm, rfl, .nth ?_ ?_ ?_ ?_⟩
          · exact fun d hd => List.mem_takeWhile_imp hd
          · exact fun hnil => hdigits (List.isEmpty_iff.mpr hnil)
          · exact Nat.not_le.mp hsmall
          · intro c hc
            simpa [Option.mem_def.mp hc] using List.head?_dropWhile_not Char.isDigit cs
  · rintro ⟨taken, rfl, rfl, hat⟩
    cases hat with
    | all => rfl
    | any => rfl
    | join hrest =>
      rw [List.cons_append, List.nil_append, readSelector]
      · rfl
      · rintro tail rfl
        exact (hrest '&' rfl).1 rfl
      · rintro tail rfl
        exact (hrest '|' rfl).2 rfl
    | nth hds hne hsmall hrest => exact readSelector_run hds hne hsmall hrest

theorem readSelector_append {t : Selector} (h : readSelector cs = (.ok t, n, c :: rest)) :
    readSelector (cs ++ more) = (.ok t, n, c :: (rest ++ more)) := by
  obtain ⟨taken, rfl, hn, hat⟩ := readSelector_eq_ok.mp h
  refine readSelector_eq_ok.mpr ⟨taken, ?_, hn, hat.of_head _⟩
  rw [List.append_assoc, List.cons_append]

theorem extends_readSelected (name : String) (start : Nat) (cs more : List Char) :
    (readSelected name start cs).Extends (readSelected name start (cs ++ more)) more := by
  unfold readSelected
  split
  next => exact .fail _ _ _ _ _ _ _
  next heq =>
    rw [readSelector_append heq]
    exact .ok _ _ _ _
  next => exact .fail _ _ _ _ _ _ _
  next => exact .fail _ _ _ _ _ _ _

/-- A key without braces is a run of its characters. -/
theorem readTagKey_bare {d : Char} (hd : d ≠ '\x7b') (c : Char) (body : List Char) :
    readTagKey (c :: d :: body) =
      if ((d :: body).takeWhile isBareNameChar).isEmpty then failTaken .emptyTagName 1 (d :: body)
      else .ok (.value (.tag ⟨String.ofList ((d :: body).takeWhile isBareNameChar), .unset⟩))
        (1 + ((d :: body).takeWhile isBareNameChar).length)
        ((d :: body).dropWhile isBareNameChar) := by
  simp [readTagKey, hd]

theorem extends_readTagKey (c : Char) (body : List Char) (hmore : Ends more) :
    (readTagKey (c :: body)).Extends (readTagKey (c :: (body ++ more))) more := by
  cases body with
  | nil => exact .fail _ _ _ _ _ _ _
  | cons d body =>
    by_cases hd : d = '\x7b'
    · subst hd
      simp only [readTagKey, List.cons_append, List.drop_succ_cons, List.drop_zero]
      split
      next => exact .fail _ _ _ _ _ _ _
      next name rest heq =>
        rw [Escaped.decode_append heq, Escaped.extent_append heq]
        exact extends_readSelected _ _ _ _
      next name e rest _ heq =>
        simp only [Escaped.decode_append heq, Escaped.extent_append heq]
        exact .ok _ _ _ _
    · obtain ⟨htake, hdrop⟩ := takeWhile_append_more (p := isBareNameChar) (d :: body) more
        (head?_dropWhile_append (fun _ => not_isBareNameChar) hmore)
      rw [List.cons_append] at htake hdrop ⊢
      rw [readTagKey_bare hd, readTagKey_bare hd, htake, hdrop]
      split
      next => exact .fail _ _ _ _ _ _ _
      next => exact .ok _ _ _ _

theorem extends_readKeyword (cs : List Char) (hmore : Ends more) :
    (readKeyword cs).Extends (readKeyword (cs ++ more)) more := by
  obtain ⟨htake, hdrop⟩ := takeWhile_append_more (p := isIdentChar) cs more
    (head?_dropWhile_append (fun _ => not_isIdentChar) hmore)
  unfold readKeyword
  rw [htake, hdrop]
  dsimp only
  split
  next => exact .ok _ _ _ _
  next => exact .fail _ _ _ _ _ _ _

/-- Numbers and keywords are told by a whole class of characters. -/
theorem readToken_word (hc : c ∉ punctuation) (cs : List Char) :
    readToken (c :: cs) =
      if c.isDigit || c == '+' || c == '-' then readNumber (c :: cs)
      else if Unicode.isAlphabetic c || c == '_' then readKeyword (c :: cs)
      else .fail (.unexpectedChar c) 0 1 0 (c :: cs) := by
  simp only [punctuation, List.mem_cons, List.not_mem_nil, or_false, not_or] at hc
  simp [readToken, hc]

/-- A mark is read wherever it is not followed by a character that makes another token of it. -/
theorem readToken_mark (hs : s.IsMark) (hrest : ∀ c ∈ rest.head?, c ∉ s.prolongations) :
    readToken (s.chars ++ rest) = .ok s s.chars.length rest := by
  have hfollows (d : Char) (hd : d ∈ s.prolongations) (tail : List Char) : rest ≠ d :: tail := by
    rintro rfl
    exact hrest d rfl hd
  cases s with
  | not =>
    change readToken ('!' :: rest) = _
    rw [readToken]
    · rfl
    · exact hfollows '~' (by decide)
    · exact hfollows '=' (by decide)
  | connective c => cases c <;> rfl
  | operator op =>
    cases op with
    | less =>
      change readToken ('<' :: rest) = _
      rw [readToken]
      · rfl
      · exact hfollows '=' (by decide)
    | greater =>
      change readToken ('>' :: rest) = _
      rw [readToken]
      · rfl
      · exact hfollows '=' (by decide)
    | _ => rfl
  | openParen | closeParen => rfl
  | start | finish | value => exact hs.elim

theorem Symbol.all_prolongations (s : Symbol) : s.prolongations.all continues = true := by
  unfold prolongations
  split <;> rfl

theorem extends_readToken (hcs : cs ≠ []) (hmore : Ends more) :
    (readToken cs).Extends (readToken (cs ++ more)) more := by
  have h := atFront_readToken cs
  generalize readToken cs = r at h ⊢
  cases h with
  | finish => exact absurd rfl hcs
  | @mark _ rest s _ hs hrest hcs hn =>
    subst hcs hn
    have hmark : ∀ c ∈ (rest ++ more).head?, c ∉ s.prolongations := by
      cases rest with
      | cons d rest => exact hrest
      | nil =>
        -- What follows the mark now is a boundary, which prolongs none.
        intro c hc hmem
        have hprolongs := List.all_eq_true.mp s.all_prolongations c hmem
        rw [not_continues (hmore c hc)] at hprolongs
        cases hprolongs
    rw [List.append_assoc, readToken_mark hs hmark]
    exact .ok _ _ _ _
  | string => exact extends_readString _ _ _
  | regex => exact extends_readRegex _ _ hmore
  | tagKey => exact extends_readTagKey _ _ hmore
  | number hc hnumber body =>
    rw [List.cons_append, readToken_word hc, if_pos hnumber]
    exact extends_readNumber _ body hmore
  | keyword hc hnumber hletter body =>
    rw [List.cons_append, readToken_word hc, if_neg hnumber, if_pos hletter]
    exact extends_readKeyword (_ :: body) hmore
  | stuck => exact .fail _ _ _ _ _ _ _

end TagSieve

import Mathlib.Data.List.Basic
import TagSieve.Proofs.Token.Locality

/-! A token that is read off a text is read just so without the end of that text, as long as all of
the token is left. -/
namespace TagSieve

variable {cs rest more body : List Char} {c : Char} {n size : Nat} {s : Symbol} {v : Value}

theorem Takes.exists_append {whole : List Char} (h : Takes whole n (rest ++ more)) :
    ∃ cs, whole = cs ++ more := by
  obtain ⟨taken, -, rfl⟩ := h
  exact ⟨taken ++ rest, (List.append_assoc taken rest more).symm⟩

/-- A character behind which something is taken before `more` does not belong to `more`. -/
theorem append_eq_cons_of_taken {tail : List Char} (h : Takes tail n (rest ++ more))
    (hcs : cs ++ more = c :: tail) : ∃ cs', cs = c :: cs' ∧ cs' ++ more = tail := by
  cases cs with
  | nil =>
    have hlen := h.length_add
    rw [List.nil_append] at hcs
    rw [hcs, List.length_append, List.length_cons] at hlen
    omega
  | cons d cs =>
    obtain ⟨rfl, htail⟩ := List.cons.inj hcs
    exact ⟨cs, rfl, htail⟩

/-- A run of characters is the same without the text behind its end. -/
theorem takeWhile_shorten {p : Char → Bool} (h : (cs ++ more).dropWhile p = rest ++ more) :
    cs.takeWhile p = (cs ++ more).takeWhile p ∧ cs.dropWhile p = rest := by
  have hlong : cs ++ more = (cs ++ more).takeWhile p ++ rest ++ more := by
    rw [List.append_assoc, ← h, List.takeWhile_append_dropWhile]
  have hcs : cs = (cs ++ more).takeWhile p ++ rest := List.append_cancel_right hlong
  have hrun : ∀ c ∈ (cs ++ more).takeWhile p, p c = true := fun c => List.mem_takeWhile_imp
  have hend : ∀ c ∈ rest.head?, p c = false := by
    intro c hc
    cases rest with
    | nil => cases hc
    | cons d rest =>
      obtain rfl : d = c := Option.some.inj hc
      simpa [h] using List.head?_dropWhile_not p (cs ++ more)
  have htake := takeWhile_run hrun rest hend
  rwa [← hcs] at htake

/-- A reading of a text with `more` at its end that stays the same without that end. -/
def Reading.Shortens (r r' : Reading) (more : List Char) : Prop :=
  ∀ s rest, r.outcome = .ok s → r.rest = rest ++ more → r' = .ok s r.size rest

namespace Reading.Shortens

theorem fail (cause : LexCause) (start stop size : Nat) (rest more : List Char) (r : Reading) :
    (Reading.fail cause start stop size rest).Shortens r more := by
  intro s rest' hs
  cases hs

theorem ok {r : Reading} (h : ∀ rest', rest = rest' ++ more → r = .ok s size rest') :
    (Reading.ok s size rest).Shortens r more := by
  rintro s' rest' ⟨⟩ hrest
  exact h rest' hrest

end Reading.Shortens

open Reading

theorem shortens_readString (c : Char) (body more : List Char) :
    (readString (c :: (body ++ more))).Shortens (readString (c :: body)) more := by
  simp only [readString, List.drop_succ_cons, List.drop_zero]
  split
  next => exact .fail _ _ _ _ _ _ _
  next text d rest heq =>
    refine .ok ?_
    rintro rest' rfl
    have hdecode := Escaped.decode_shorten heq
    rw [hdecode, Escaped.extent_append hdecode]

theorem readFlags_shorten {i m : Bool} {flags : Bool × Bool}
    (h : readFlags i m (cs ++ more) = (.ok flags, n, rest ++ more)) :
    readFlags i m cs = (.ok flags, n, rest) := by
  generalize hwhole : cs ++ more = whole at h
  fun_induction readFlags i m whole generalizing cs n with
  | case1 => cases h
  | case2 i m tail hi result size rest' heq ih =>
    cases h
    obtain ⟨cs, rfl, htail⟩ := append_eq_cons_of_taken (heq ▸ Takes.readFlags true m tail) hwhole
    simp [readFlags, hi, ih htail heq]
  | case3 => cases h
  | case4 i m tail hm result size rest' heq ih =>
    cases h
    obtain ⟨cs, rfl, htail⟩ := append_eq_cons_of_taken (heq ▸ Takes.readFlags i true tail) hwhole
    simp [readFlags, hm, ih htail heq]
  | case5 i m whole hi hm =>
    cases h
    obtain rfl := List.append_cancel_right hwhole
    rw [readFlags]
    · rintro t rfl
      exact hi _ rfl
    · rintro t rfl
      exact hm _ rfl

theorem shortens_readRegex (c : Char) (body more : List Char) :
    (readRegex (c :: (body ++ more))).Shortens (readRegex (c :: body)) more := by
  simp only [readRegex, List.drop_succ_cons, List.drop_zero]
  split
  next => exact .fail _ _ _ _ _ _ _
  next text d rest heq =>
    split
    next => exact .fail _ _ _ _ _ _ _
    next i m hflags =>
      have htaken := Takes.readFlags false false rest
      have hflags' : readFlags false false rest = (.ok (i, m), _, _) := Prod.ext hflags rfl
      split
      next p hp =>
        refine .ok ?_
        intro rest' hrest'
        rw [hrest'] at htaken hflags'
        obtain ⟨cs, rfl⟩ := htaken.exists_append
        have hdecode := Escaped.decode_shorten heq
        rw [hdecode, Escaped.extent_append hdecode]
        dsimp only
        rw [readFlags_shorten hflags']
        dsimp only
        rw [hp]
      next => exact .fail _ _ _ _ _ _ _

theorem shortens_readNumberUpTo {value : Option Value} :
    (readNumberUpTo value (cs ++ more) size (rest ++ more)).Shortens
      (readNumberUpTo value cs size rest) more := by
  have hhead (h : ((rest ++ more).head?.any fun c => isIdentChar c && !c.isDigit) = false) :
      (rest.head?.any fun c => isIdentChar c && !c.isDigit) = false := by
    cases rest with
    | nil => rfl
    | cons d rest => exact h
  unfold readNumberUpTo
  dsimp only
  split
  next => exact .fail _ _ _ _ _ _ _
  next => exact .fail _ _ _ _ _ _ _
  next v h =>
    refine .ok ?_
    intro rest' hrest
    obtain rfl := List.append_cancel_right hrest
    rw [hhead h]

/-- What a number leaves of a text is what stands behind its characters. -/
theorem rest_readNumberUpTo {value : Option Value}
    (h : (readNumberUpTo value cs size rest).outcome = .ok s) :
    (readNumberUpTo value cs size rest).rest = rest := by
  unfold readNumberUpTo at h ⊢
  dsimp only at h ⊢
  split at h
  · cases h
  · cases h
  · rfl

/-- Whether a zero is complete by itself shows in the two characters at the front. -/
theorem startsLoneZero_cons_cons (c d : Char) (cs more : List Char) :
    startsLoneZero (c :: d :: cs ++ more) = startsLoneZero (c :: d :: cs) := by
  by_cases hc : c = '0'
  · subst hc
    by_cases hd : d = '.'
    · subst hd
      rfl
    · simp [startsLoneZero, hd]
  · simp [startsLoneZero, hc]

theorem startsLoneZero_of_append (h : startsLoneZero (c :: (cs ++ more)) = true) :
    startsLoneZero (c :: cs) = true := by
  cases cs with
  | cons d cs => exact startsLoneZero_cons_cons c d cs more ▸ h
  | nil =>
    obtain ⟨rest, hrest⟩ := startsLoneZero_eq_true h
    obtain ⟨rfl, -⟩ := List.cons.inj hrest
    rfl

/-- A zero that is complete by itself without the text behind a number is so with that text. -/
theorem startsLoneZero_shorten
    (htake : cs.takeWhile isNumberChar = (cs ++ more).takeWhile isNumberChar)
    (h : startsLoneZero (cs ++ more) = false) : startsLoneZero cs = false := by
  by_contra hzero
  obtain ⟨tail, rfl⟩ := startsLoneZero_eq_true (Bool.not_eq_false _ ▸ hzero)
  cases tail with
  | cons d tail => exact hzero (startsLoneZero_cons_cons '0' d tail more ▸ h)
  | nil =>
    cases more with
    | nil => exact hzero h
    | cons d more =>
      by_cases hd : d = '.'
      · subst hd
        simp [isNumberChar] at htake
      · simp [startsLoneZero, hd] at h

theorem shortens_readNumber (c : Char) (cs more : List Char) :
    (readNumber (c :: cs ++ more)).Shortens (readNumber (c :: cs)) more := by
  intro s rest hs hrest
  obtain ⟨hsign, hsize⟩ := splitSign_cons_append c cs more
  unfold readNumber at hs hrest ⊢
  rw [hsign, hsize] at hs hrest ⊢
  dsimp only at hs hrest ⊢
  generalize (splitSign (c :: cs)).2 = body at hs hrest ⊢
  split at hs
  case isTrue h =>
    rw [if_pos h] at hrest ⊢
    obtain ⟨tail, htail⟩ := startsLoneZero_eq_true h
    have htaken : tail = rest ++ more := by
      rw [rest_readNumberUpTo hs, htail] at hrest
      exact hrest
    subst htaken
    obtain ⟨body, rfl, happend⟩ := append_eq_cons_of_taken (.refl (rest ++ more)) htail
    obtain rfl := List.append_cancel_right happend
    rw [if_pos (startsLoneZero_of_append h)]
    exact shortens_readNumberUpTo s _ hs (rest_readNumberUpTo hs)
  case isFalse h =>
    rw [if_neg h] at hrest ⊢
    have hdrop : (body ++ more).dropWhile isNumberChar = rest ++ more := by
      rw [← hrest, rest_readNumberUpTo hs]
    obtain ⟨htake, hdrop'⟩ := takeWhile_shorten hdrop
    rw [hdrop, ← htake] at hs ⊢
    rw [if_neg (by simpa using startsLoneZero_shorten htake (by simpa using h)), hdrop']
    exact shortens_readNumberUpTo s rest hs (rest_readNumberUpTo hs)

theorem readSelector_shorten {t : Selector}
    (h : readSelector (cs ++ more) = (.ok t, n, c :: (rest ++ more))) :
    readSelector cs = (.ok t, n, c :: rest) := by
  obtain ⟨taken, hcs, hn, hat⟩ := readSelector_eq_ok.mp h
  rw [← List.cons_append, ← List.append_assoc] at hcs
  exact readSelector_eq_ok.mpr ⟨taken, List.append_cancel_right hcs, hn, hat.of_head _⟩

theorem readSelected_of_selector {t : Selector} (name : String) (start : Nat)
    (h : readSelector cs = (.ok t, n, '\x7d' :: rest)) :
    readSelected name start cs = .ok (.value (.tag ⟨name, t⟩)) (start + n + 1) rest := by
  unfold readSelected
  rw [h]
  rfl

theorem selector_of_readSelected {name : String} {start : Nat}
    (h : (readSelected name start cs).outcome = .ok s) :
    ∃ t n rest, readSelector cs = (.ok t, n, '\x7d' :: rest) := by
  unfold readSelected at h
  split at h
  next => cases h
  next t n rest heq => exact ⟨t, n, rest, heq⟩
  next => cases h
  next => cases h

theorem shortens_readSelected (name : String) (start : Nat) (cs more : List Char) :
    (readSelected name start (cs ++ more)).Shortens (readSelected name start cs) more := by
  intro s rest hs hrest
  obtain ⟨t, n, rest', hselector⟩ := selector_of_readSelected hs
  rw [readSelected_of_selector name start hselector] at hs hrest ⊢
  cases hs
  subst hrest
  rw [readSelected_of_selector name start (readSelector_shorten hselector)]
  rfl

theorem one_lt_size_readTagKey (h : (readTagKey cs).outcome = .ok s) :
    1 < (readTagKey cs).size := by
  unfold readTagKey at h ⊢
  split at h
  next inner hinner =>
    dsimp only at h
    split at h
    next => cases h
    next name rest heq =>
      obtain ⟨t, size, rest', hselector⟩ := selector_of_readSelected h
      dsimp only
      rw [readSelected_of_selector _ _ hselector]
      simp only [Reading.ok]
      omega
    next name d rest hd heq =>
      simp only [Reading.ok]
      omega
  next =>
    dsimp only at h ⊢
    split at h
    next => cases h
    next hname =>
      rw [if_neg hname]
      have := List.length_pos_iff.mpr fun hnil => hname (List.isEmpty_iff.mpr hnil)
      simp only [Reading.ok]
      omega

/-- A name in braces ends at an equals sign or a brace, with all of its selector before `more`. -/
theorem shortens_readTagKey_braced (c : Char) (inner more : List Char) :
    (readTagKey (c :: '\x7b' :: (inner ++ more))).Shortens
      (readTagKey (c :: '\x7b' :: inner)) more := by
  simp only [readTagKey, List.drop_succ_cons, List.drop_zero]
  split
  next => exact .fail _ _ _ _ _ _ _
  next name rest heq =>
    intro s rest' hs hrest'
    obtain ⟨t, n, rest'', hselector⟩ := selector_of_readSelected hs
    rw [readSelected_of_selector _ _ hselector] at hrest'
    obtain rfl : rest'' = rest' ++ more := hrest'
    have htaken : Takes rest n ('\x7d' :: rest' ++ more) := by
      have hrest := Takes.readSelector rest
      rwa [hselector] at hrest
    obtain ⟨cs, rfl⟩ := htaken.exists_append
    have hdecode := Escaped.decode_shorten heq
    have hextent := Escaped.extent_append hdecode more
    rw [hextent] at hs ⊢
    rw [hdecode]
    refine shortens_readSelected _ _ cs more s rest' hs ?_
    rw [readSelected_of_selector _ _ hselector]
    rfl
  next name d rest hd heq =>
    refine .ok ?_
    rintro rest' rfl
    have hdecode := Escaped.decode_shorten heq
    simp only [hdecode, Escaped.extent_append hdecode]

theorem shortens_readTagKey (c : Char) (body more : List Char) :
    (readTagKey (c :: (body ++ more))).Shortens (readTagKey (c :: body)) more := by
  cases body with
  | nil =>
    intro s rest hs hrest
    have htaken : Takes _ _ _ := takenFrom_readTagKey c more
    have hlen := htaken.length_add
    have hsize := one_lt_size_readTagKey hs
    rw [List.nil_append] at hrest hsize
    rw [hrest, List.length_append, List.length_cons] at hlen
    omega
  | cons d body =>
    by_cases hd : d = '\x7b'
    · subst hd
      exact shortens_readTagKey_braced c body more
    · rw [List.cons_append, readTagKey_bare hd, readTagKey_bare hd]
      split
      next => exact .fail _ _ _ _ _ _ _
      next hname =>
        refine .ok ?_
        intro rest hdrop
        rw [← List.cons_append] at hdrop
        obtain ⟨htake, hdrop'⟩ := takeWhile_shorten hdrop
        rw [htake, hdrop', List.cons_append, if_neg hname]

theorem shortens_readKeyword (cs more : List Char) :
    (readKeyword (cs ++ more)).Shortens (readKeyword cs) more := by
  unfold readKeyword
  dsimp only
  split
  next v hv =>
    refine .ok ?_
    intro rest hdrop
    obtain ⟨htake, hdrop'⟩ := takeWhile_shorten hdrop
    rw [htake, hdrop', hv]
  next => exact .fail _ _ _ _ _ _ _

theorem shortens_readToken (c : Char) (t more : List Char) :
    (readToken (c :: (t ++ more))).Shortens (readToken (c :: t)) more := by
  have h := atFront_readToken (c :: (t ++ more))
  generalize hwhole : c :: (t ++ more) = whole at h ⊢
  generalize readToken whole = r at h ⊢
  cases h with
  | finish => cases hwhole
  | @mark _ rest s n hs hrest hcs hn =>
    refine .ok ?_
    rintro rest rfl
    have hshort : c :: t = s.chars ++ rest := by
      rw [← List.append_assoc, ← hwhole] at hcs
      exact List.append_cancel_right hcs.symm
    rw [hshort, ← hn]
    exact readToken_mark hs fun d hd => hrest d (List.mem_head?_append_of_mem_head? hd)
  | string =>
    obtain ⟨rfl, rfl⟩ := List.cons.inj hwhole
    exact shortens_readString _ _ _
  | regex =>
    obtain ⟨rfl, rfl⟩ := List.cons.inj hwhole
    exact shortens_readRegex _ _ _
  | tagKey =>
    obtain ⟨rfl, rfl⟩ := List.cons.inj hwhole
    exact shortens_readTagKey _ _ _
  | number hc hnumber =>
    obtain ⟨rfl, rfl⟩ := List.cons.inj hwhole
    rw [readToken_word hc, if_pos hnumber]
    exact shortens_readNumber c t more
  | keyword hc hnumber hletter =>
    obtain ⟨rfl, rfl⟩ := List.cons.inj hwhole
    rw [readToken_word hc, if_neg hnumber, if_pos hletter]
    exact shortens_readKeyword (c :: t) more
  | stuck => exact .fail _ _ _ _ _ _ _

/-- A token is read just so without the end of the text behind it. -/
theorem readToken_shorten (h : readToken (cs ++ more) = .ok s n (rest ++ more)) :
    readToken cs = .ok s n rest := by
  cases cs with
  | cons c t =>
    have hs := shortens_readToken c t more s rest
    rw [← List.cons_append, h] at hs
    exact hs rfl rfl
  | nil =>
    have htaken : Takes _ _ _ := takenFrom_readToken more
    rw [List.nil_append] at h
    have hlen := htaken.length_add
    rw [h] at hlen
    simp only [Reading.ok, List.length_append] at hlen
    have hsize := readToken_eq_ok (congrArg Reading.outcome h)
    rw [h] at hsize
    rcases hsize with ⟨rfl, rfl⟩ | ⟨-, -, hsize, -⟩
    · rwa [List.append_nil] at h
    · simp only [Reading.ok] at hsize
      omega

end TagSieve

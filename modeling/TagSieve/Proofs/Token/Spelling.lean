import TagSieve.Proofs.Number.Numeral
import TagSieve.Proofs.Token.Locality

/-! Every symbol but a number without a decimal and a text that would escape the end of its literal
is read back from its own spelling. -/
namespace TagSieve

variable {cs more body : List Char} {c : Char} {negative : Bool} {s : Symbol} {v : Value}

/-- Values that are no infinite number and no NaN. -/
def Value.Finite : Value → Prop
  | .float x => x.isFinite = true
  | _ => True

open Reading

theorem decode_closed (stop : Char → Bool) (d : Char) (hslash : stop '\\' = false)
    (hd : stop d = true) {t : List Char} (ht : Escaped.Closable t) (rest : List Char) :
    Escaped.decode stop (Escaped.encode stop t ++ d :: rest) = (t, d :: rest) ∧
      Escaped.extent stop (Escaped.encode stop t ++ d :: rest) = (Escaped.encode stop t).length :=
  ⟨Escaped.decode_encode hslash hd ht rest, Escaped.extent_encode hslash hd ht rest⟩

theorem readToken_quote (cs : List Char) : readToken ('"' :: cs) = readString ('"' :: cs) := rfl

theorem readToken_stringChars {s : String} (h : Escaped.Closable s.toList) :
    readToken (stringChars s) = .ok (.value (.string s)) (stringChars s).length [] := by
  obtain ⟨hdecode, hextent⟩ := decode_closed (· == '"') '"' rfl rfl h []
  unfold stringChars
  rw [readToken_quote]
  simp only [readString, List.drop_succ_cons, List.drop_zero, hdecode, hextent,
    String.ofList_toList, List.length_cons, List.length_append, List.length_nil]
  rw [Nat.add_comm 1]

/-- The flags of a regular expression, as they are written. -/
def flagChars (i m : Bool) : List Char := (if i then ['i'] else []) ++ (if m then ['m'] else [])

theorem readFlags_flagChars (i m : Bool) :
    readFlags false false (flagChars i m) = (.ok (i, m), (flagChars i m).length, []) := by
  cases i <;> cases m <;> rfl

theorem Pattern.ofSource?_self (p : Pattern) :
    Pattern.ofSource? p.source p.ignoreCase p.multiline = some p := by
  unfold Pattern.ofSource?
  split
  next => exact congrArg some (Pattern.eq_of_fields rfl rfl rfl)
  next h => simp [p.compiled] at h

theorem Pattern.chars_eq (p : Pattern) :
    p.chars = '/' :: (Escaped.encode (· == '/') p.source.toList ++
      '/' :: flagChars p.ignoreCase p.multiline) := by
  simp [Pattern.chars, flagChars]

theorem readToken_slash (cs : List Char) : readToken ('/' :: cs) = readRegex ('/' :: cs) := rfl

theorem readToken_patternChars {p : Pattern} (h : Escaped.Closable p.source.toList) :
    readToken p.chars = .ok (.value (.regex p)) p.chars.length [] := by
  obtain ⟨hdecode, hextent⟩ := decode_closed (· == '/') '/' rfl rfl h
    (flagChars p.ignoreCase p.multiline)
  rw [Pattern.chars_eq, readToken_slash]
  simp only [readRegex, List.drop_succ_cons, List.drop_zero, hdecode, hextent,
    readFlags_flagChars, String.ofList_toList, Pattern.ofSource?_self, List.length_cons,
    List.length_append]
  congr 1
  omega

theorem splitSign_signChars (negative : Bool) (hc : c.isDigit = true) (cs : List Char) :
    splitSign (signChars negative ++ c :: cs) = (negative, c :: cs) ∧
      signSize (signChars negative ++ c :: cs) = (signChars negative).length := by
  have hplus : c ≠ '+' := by
    rintro rfl
    cases hc
  have hminus : c ≠ '-' := by
    rintro rfl
    cases hc
  cases negative
  · simp [signChars, splitSign, signSize, hplus, hminus]
  · exact ⟨rfl, rfl⟩

theorem not_mem_punctuation_of_isDigit (h : c.isDigit = true) : c ∉ punctuation := by
  simp only [punctuation, List.mem_cons, List.not_mem_nil, or_false]
  rintro (rfl | rfl | rfl | rfl | rfl | rfl | rfl | rfl | rfl | rfl | rfl) <;> cases h

theorem readToken_signChars (hc : c.isDigit = true) (cs : List Char) :
    readToken (signChars negative ++ c :: cs) = readNumber (signChars negative ++ c :: cs) := by
  cases negative with
  | false =>
    rw [signChars, if_neg Bool.false_ne_true, List.nil_append,
      readToken_word (not_mem_punctuation_of_isDigit hc), hc]
    rfl
  | true =>
    rw [signChars, if_pos rfl, List.cons_append, readToken_word (by decide)]
    rfl

/-- Digits and points behind a sign are one number. -/
theorem readToken_number (hc : c.isDigit = true) (hbody : ∀ d ∈ c :: cs, isNumberChar d = true)
    (hzero : startsLoneZero (c :: cs) = false) (hv : numberOf? negative (c :: cs) = some v) :
    readToken (signChars negative ++ c :: cs) =
      .ok (.value v) (signChars negative ++ c :: cs).length [] := by
  obtain ⟨hsplit, hsize⟩ := splitSign_signChars negative hc cs
  have htake : (c :: cs).takeWhile isNumberChar = c :: cs := List.takeWhile_eq_self_iff.mpr hbody
  have hdrop : (c :: cs).dropWhile isNumberChar = [] := List.dropWhile_eq_nil_iff.mpr hbody
  rw [readToken_signChars hc, readNumber, hsplit, hsize]
  dsimp only
  rw [hzero, htake, hdrop, hv, List.length_append]
  rfl

theorem isNumberChar_of_isDigit (h : c.isDigit = true) : isNumberChar c = true := by
  simp [isNumberChar, h]

theorem integerOf?_digits {n : Int64} (hdigits : cs ≠ [])
    (h : (if negative then -(digitsValue cs : Int) else digitsValue cs) = n.toInt) :
    integerOf? negative cs = some n := by
  have hlow : -(2 ^ 63) ≤ n.toInt := Int64.le_toInt n
  have hhigh : n.toInt < 2 ^ 63 := Int64.toInt_lt n
  have hempty : cs.isEmpty = false := by simpa using hdigits
  simp only [integerOf?, h, hempty, Bool.false_or]
  rw [decide_eq_false (by omega), decide_eq_false (by omega)]
  simp

theorem readToken_integerChars (n : Int64) :
    readToken (integerChars n) = .ok (.value (.integer n)) (integerChars n).length [] := by
  by_cases hn : n.toInt = 0
  · obtain rfl : n = 0 := Int64.toInt_inj.mp hn
    rfl
  · have hsign : integerChars n =
        signChars (decide (n.toInt < 0)) ++ decimalDigits n.toInt.natAbs := by
      by_cases h : n.toInt < 0 <;> simp [integerChars, signedDigits, signChars, h]
    obtain ⟨c, cs, hdigits, hc⟩ := exists_decimalDigits (Int.natAbs_ne_zero.mpr hn)
    have hall : ∀ d ∈ c :: cs, d.isDigit = true := by
      rw [← hdigits]
      exact fun d => isDigit_of_mem_decimalDigits
    have hvalue : digitsValue (c :: cs) = n.toInt.natAbs := by
      rw [← hdigits, digitsValue_decimalDigits]
    rw [hsign, hdigits]
    apply readToken_number (hall c List.mem_cons_self)
      (fun d hd => isNumberChar_of_isDigit (hall d hd))
    · simp [startsLoneZero, hc]
    · have htake : (c :: cs).takeWhile Char.isDigit = c :: cs := List.takeWhile_eq_self_iff.mpr hall
      have hdrop : (c :: cs).dropWhile Char.isDigit = [] := List.dropWhile_eq_nil_iff.mpr hall
      unfold numberOf?
      rw [htake, hdrop]
      dsimp only
      rw [integerOf?_digits (n := n) (List.cons_ne_nil c cs)]
      · rfl
      · rw [hvalue]
        simp only [decide_eq_true_eq]
        omega

theorem startsLoneZero_of_leads {whole : List Char} (fraction : List Char) (h : Leads whole) :
    startsLoneZero (whole ++ '.' :: fraction) = false := by
  rcases h with rfl | ⟨c, cs, rfl, hc⟩
  · rfl
  · simp [startsLoneZero, hc]

theorem readToken_floatChars {x : Binary64} (hx : x.isFinite = true) :
    readToken (floatChars x) = .ok (.value (.float x)) (floatChars x).length [] := by
  obtain ⟨whole, fraction, hchars, h⟩ := Binary64.exists_floatChars hx
  obtain ⟨c, cs, rfl⟩ : ∃ c cs, whole = c :: cs := by
    rcases h.leads with rfl | ⟨c, cs, rfl, -⟩
    · exact ⟨'0', [], rfl⟩
    · exact ⟨c, cs, rfl⟩
  have hwhole := h.whole_isDigit
  have hzero := startsLoneZero_of_leads fraction h.leads
  rw [hchars]
  rw [List.cons_append] at hzero ⊢
  apply readToken_number (hwhole c List.mem_cons_self) ?_ hzero
  · obtain ⟨htake, hdrop⟩ := takeWhile_run hwhole ('.' :: fraction) (by
      rintro d ⟨⟩
      rfl)
    unfold numberOf?
    rw [← List.cons_append, htake, hdrop]
    have hfraction : fraction.all Char.isDigit = true := List.all_eq_true.mpr h.fraction_isDigit
    have hvalue : Numeral.value x.isNegative ⟨c :: cs, fraction, 0⟩ = x := by
      rw [Numeral.value, Int.zero_sub]
      exact h.value
    simp [hfraction, hvalue]
  · intro d hd
    rcases List.mem_cons.mp hd with rfl | hd
    · exact isNumberChar_of_isDigit (hwhole d List.mem_cons_self)
    · rcases List.mem_append.mp hd with hd | hd
      · exact isNumberChar_of_isDigit (hwhole d (List.mem_cons_of_mem c hd))
      · rcases List.mem_cons.mp hd with rfl | hd
        · rfl
        · exact isNumberChar_of_isDigit (h.fraction_isDigit d hd)

theorem floatChars_of_not_isFinite {x : Binary64} (hx : x.isFinite = false) :
    floatChars x = "NaN.0".toList ∨ floatChars x = "inf.0".toList ∨
      floatChars x = "-inf.0".toList := by
  have hle : Binary64.infinityMagnitude ≤ x.magnitude := by
    simpa [Binary64.isFinite] using hx
  by_cases hnan : x.isNaN = true
  · left
    simp [floatChars, Binary64.text, hnan]
  · have hinf : x.isInfinite = true := by
      simp only [Binary64.isNaN, decide_eq_true_eq] at hnan
      exact beq_iff_eq.mpr (by omega)
    right
    cases hsign : x.isNegative
    · left
      simp [floatChars, Binary64.text, Binary64.magnitudeText, hnan, hinf, hsign]
    · right
      simp [floatChars, Binary64.text, Binary64.magnitudeText, hnan, hinf, hsign]

/-- A number without digits is no token. -/
theorem readToken_floatChars_of_not_isFinite {x : Binary64} (hx : x.isFinite = false)
    (more : List Char) : ∃ e, (readToken (floatChars x ++ more)).outcome = .error e := by
  rcases floatChars_of_not_isFinite hx with h | h | h
  · rw [h]
    exact ⟨_, rfl⟩
  · rw [h]
    exact ⟨_, rfl⟩
  · rw [h]
    exact ⟨_, rfl⟩

theorem readSelector_chars (t : Selector) (ht : t ≠ .unset) :
    ∃ cs, t.chars = '=' :: cs ∧ readSelector (cs ++ ['\x7d']) = (.ok t, cs.length, ['\x7d']) := by
  cases t with
  | unset => exact absurd rfl ht
  | join => exact ⟨['*'], rfl, rfl⟩
  | all => exact ⟨['*', '&'], rfl, rfl⟩
  | any => exact ⟨['*', '|'], rfl, rfl⟩
  | nth n =>
    refine ⟨decimalDigits n.toNat, rfl, ?_⟩
    have hvalue := digitsValue_decimalDigits n.toNat
    rw [readSelector_run (fun d => isDigit_of_mem_decimalDigits) (decimalDigits_ne_nil n.toNat),
      hvalue, UInt64.ofNat_toNat]
    · rw [hvalue]
      exact n.toNat_lt
    · rintro d ⟨⟩
      rfl

theorem readSelected_chars {t : Selector} (ht : t ≠ .unset) (name : String) (start : Nat) :
    ∃ cs, t.chars = '=' :: cs ∧ readSelected name start (cs ++ ['\x7d']) =
      .ok (.value (.tag ⟨name, t⟩)) (start + cs.length + 1) [] := by
  obtain ⟨cs, hchars, h⟩ := readSelector_chars t ht
  refine ⟨cs, hchars, ?_⟩
  rw [readSelected, h]
  rfl

theorem readTagKey_braced {k : TagKey} (h : Escaped.Closable k.name.toList) (hbare : k.isBare = false) :
    readTagKey k.chars = .ok (.value (.tag k)) k.chars.length [] := by
  obtain ⟨name, t⟩ := k
  have hchars : TagKey.chars ⟨name, t⟩ =
      '%' :: '\x7b' :: (Escaped.encode endsBracedName name.toList ++ (t.chars ++ ['\x7d'])) := by
    simp [TagKey.chars, hbare]
  rw [hchars]
  by_cases ht : t = .unset
  · subst ht
    obtain ⟨hdecode, hextent⟩ := decode_closed endsBracedName '\x7d' rfl rfl h []
    simp only [Selector.chars, List.nil_append, readTagKey, List.drop_succ_cons, List.drop_zero,
      hdecode, hextent, List.length_cons, List.length_append, List.length_nil]
    change Reading.ok (.value (.tag ⟨String.ofList name.toList, .unset⟩)) _ _ = _
    rw [String.ofList_toList]
    congr 1
    omega
  · obtain ⟨cs, hcs, hselected⟩ := readSelected_chars ht name
      (2 + (Escaped.encode endsBracedName name.toList).length + 1)
    obtain ⟨hdecode, hextent⟩ := decode_closed endsBracedName '=' rfl rfl h (cs ++ ['\x7d'])
    simp only [readTagKey, List.drop_succ_cons, List.drop_zero, hcs, List.cons_append, hdecode,
      hextent, String.ofList_toList, List.length_cons, List.length_append, List.length_nil,
      hselected]
    congr 1
    omega

theorem readTagKey_bareChars {k : TagKey} (hbare : k.isBare = true) :
    readTagKey k.chars = .ok (.value (.tag k)) k.chars.length [] := by
  obtain ⟨name, t⟩ := k
  have hchars : TagKey.chars ⟨name, t⟩ = '%' :: name.toList := if_pos hbare
  simp only [TagKey.isBare, Bool.and_eq_true, beq_iff_eq, Bool.not_eq_true', List.isEmpty_eq_false_iff,
    List.all_eq_true] at hbare
  obtain ⟨⟨rfl, hne⟩, hall⟩ := hbare
  obtain ⟨c, cs, hname⟩ := List.exists_cons_of_ne_nil hne
  have hbrace : c ≠ '\x7b' := by
    rintro rfl
    have := hall '\x7b' (by simp [hname])
    exact absurd this (by decide)
  rw [hname] at hall
  rw [hchars, hname, readTagKey_bare hbrace, List.takeWhile_eq_self_iff.mpr hall,
    List.dropWhile_eq_nil_iff.mpr hall, ← hname, String.ofList_toList, hname]
  simp [Nat.add_comm]

theorem readToken_percent (cs : List Char) : readToken ('%' :: cs) = readTagKey ('%' :: cs) := rfl

theorem exists_tagKeyChars (k : TagKey) : ∃ cs, k.chars = '%' :: cs := by
  unfold TagKey.chars
  split
  · exact ⟨_, rfl⟩
  · exact ⟨_, rfl⟩

theorem readToken_tagKeyChars {k : TagKey} (h : Escaped.Closable k.name.toList) :
    readToken k.chars = .ok (.value (.tag k)) k.chars.length [] := by
  have hread : readTagKey k.chars = .ok (.value (.tag k)) k.chars.length [] := by
    cases hbare : k.isBare with
    | true => exact readTagKey_bareChars hbare
    | false => exact readTagKey_braced h hbare
  obtain ⟨cs, hcs⟩ := exists_tagKeyChars k
  rw [hcs] at hread ⊢
  rw [readToken_percent, hread]

theorem readToken_value (h : v.Closable) (hv : v.Finite) :
    readToken v.chars = .ok (.value v) v.chars.length [] := by
  cases v with
  | integer n => exact readToken_integerChars n
  | float x => exact readToken_floatChars (x := x) hv
  | string s => exact readToken_stringChars (s := s) h
  | regex p => exact readToken_patternChars (p := p) h
  | tag k => exact readToken_tagKeyChars (k := k) h
  | filename | backend | undef => rfl

/-- Symbols that are read back from their spelling. -/
def Symbol.Writable : Symbol → Prop
  | .start | .finish => False
  | .value v => v.Closable ∧ v.Finite
  | _ => True

theorem readToken_chars (hs : s.Writable) : readToken s.chars = .ok s s.chars.length [] := by
  cases s with
  | start | finish => exact absurd hs id
  | value v => exact readToken_value hs.1 hs.2
  | not | openParen | closeParen => rfl
  | connective c => cases c <;> rfl
  | operator op => cases op <;> rfl

/-- A symbol is read back wherever no token goes on into what follows it. -/
theorem readToken_chars_append (hs : s.Writable) (hmore : Ends more) :
    readToken (s.chars ++ more) = .ok s s.chars.length more := by
  have hread := readToken_chars hs
  have hne : s.chars ≠ [] := by
    intro hnil
    rw [hnil] at hread
    obtain rfl : Symbol.finish = s := Except.ok.inj (congrArg Reading.outcome hread)
    exact hs
  have hextends := extends_readToken hne hmore s (congrArg Reading.outcome hread)
  rw [hread] at hextends
  exact hextends

end TagSieve

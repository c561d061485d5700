import TagSieve.Proofs.Number.NumeralPrefix
import TagSieve.Proofs.Token.Settling
import TagSieve.Proofs.Token.Spacing
import TagSieve.Proofs.Token.Spelling

/-! Numbers that make up a text by themselves: behind the sign stand the digits of an integer of 64
bits or a numeral with one point. -/
namespace TagSieve

variable {cs body rest ds : List Char} {negative : Bool} {v : Value} {s : Symbol} {n : Int64}
  {x : Binary64} {size : Nat} {source : String}

def Value.isNumber : Value → Bool
  | .integer _ | .float _ => true
  | _ => false

/-- A reading that gives no number. -/
def Reading.GivesNoNumber (r : Reading) : Prop :=
  ∀ v, r.outcome = .ok (.value v) → v.isNumber = false

namespace Reading.GivesNoNumber

theorem ok (hv : v.isNumber = false) : (Reading.ok (.value v) size rest).GivesNoNumber := by
  rintro _ ⟨⟩
  exact hv

theorem fail (cause : LexCause) (start stop size : Nat) (rest : List Char) :
    (Reading.fail cause start stop size rest).GivesNoNumber := by
  intro v hv
  cases hv

end Reading.GivesNoNumber

theorem givesNoNumber_readString (cs : List Char) : (readString cs).GivesNoNumber := by
  unfold readString
  dsimp only
  split
  · exact .fail _ _ _ _ _
  · exact .ok rfl

theorem givesNoNumber_readRegex (cs : List Char) : (readRegex cs).GivesNoNumber := by
  unfold readRegex
  dsimp only
  split
  · exact .fail _ _ _ _ _
  · split
    · exact .fail _ _ _ _ _
    · split
      · exact .ok rfl
      · exact .fail _ _ _ _ _

theorem givesNoNumber_readSelected (name : String) (start : Nat) (cs : List Char) :
    (readSelected name start cs).GivesNoNumber := by
  unfold readSelected
  split
  · exact .fail _ _ _ _ _
  · exact .ok rfl
  · exact .fail _ _ _ _ _
  · exact .fail _ _ _ _ _

theorem givesNoNumber_readTagKey (cs : List Char) : (readTagKey cs).GivesNoNumber := by
  unfold readTagKey
  split
  · dsimp only
    split
    · exact .fail _ _ _ _ _
    · exact givesNoNumber_readSelected _ _ _
    · exact .ok rfl
  · dsimp only
    split
    · exact .fail _ _ _ _ _
    · exact .ok rfl

theorem isNumber_of_keyword? (h : keyword? cs = some v) : v.isNumber = false := by
  unfold keyword? at h
  dsimp only at h
  split_ifs at h <;> cases h <;> rfl

theorem givesNoNumber_readKeyword (cs : List Char) : (readKeyword cs).GivesNoNumber := by
  unfold readKeyword
  dsimp only
  split
  next v hv => exact .ok (isNumber_of_keyword? hv)
  next => exact .fail _ _ _ _ _

theorem readNumber_of_readToken (h : readToken cs = .ok (.value v) size rest)
    (hv : v.isNumber = true) : readNumber cs = .ok (.value v) size rest := by
  have refute {r : Reading} (hr : r.GivesNoNumber) (heq : r = .ok (.value v) size rest) : False := by
    have := hr v (congrArg Reading.outcome heq)
    rw [hv] at this
    cases this
  have hfront := atFront_readToken cs
  generalize readToken cs = r at hfront h
  cases hfront with
  | finish => cases congrArg Reading.outcome h
  | mark hs =>
    cases congrArg Reading.outcome h
    exact hs.elim
  | string => exact (refute (givesNoNumber_readString _) h).elim
  | regex => exact (refute (givesNoNumber_readRegex _) h).elim
  | tagKey => exact (refute (givesNoNumber_readTagKey _) h).elim
  | number => exact h
  | keyword => exact (refute (givesNoNumber_readKeyword _) h).elim
  | stuck => exact (refute (.fail _ _ _ _ _) h).elim

theorem integerOf?_eq (negative : Bool) (ds : List Char) :
    integerOf? negative ds =
      if ds.isEmpty || decide (signed negative (digitsValue ds) < -2 ^ 63) ||
          decide (2 ^ 63 ≤ signed negative (digitsValue ds)) then none
      else some (Int64.ofInt (signed negative (digitsValue ds))) := rfl

theorem integerOf?_eq_some (h : integerOf? negative ds = some n) :
    ds ≠ [] ∧ n.toInt = signed negative (digitsValue ds) := by
  rw [integerOf?_eq] at h
  split at h
  case isTrue => cases h
  case isFalse hrange =>
    cases h
    simp only [Bool.or_eq_true, List.isEmpty_iff, decide_eq_true_eq, not_or] at hrange
    obtain ⟨⟨hne, hlow⟩, hhigh⟩ := hrange
    exact ⟨hne, Int64.toInt_ofInt_of_le (Int.not_lt.mp hlow) (Int.not_le.mp hhigh)⟩

theorem integerOf?_eq_none
    (h : signed negative (digitsValue ds) < -2 ^ 63 ∨ 2 ^ 63 ≤ signed negative (digitsValue ds)) :
    integerOf? negative ds = none := by
  rw [integerOf?_eq, if_pos]
  simp only [Bool.or_eq_true, decide_eq_true_eq]
  rcases h with h | h
  · exact Or.inl (Or.inr h)
  · exact Or.inr h

theorem isDigits_of_dropWhile (h : cs.dropWhile Char.isDigit = []) :
    IsDigits cs ∧ cs.takeWhile Char.isDigit = cs :=
  ⟨List.dropWhile_eq_nil_iff.mp h, List.takeWhile_eq_self_iff.mpr (List.dropWhile_eq_nil_iff.mp h)⟩

theorem numberOf?_eq_integer (h : numberOf? negative cs = some (.integer n)) :
    IsDigits cs ∧ cs ≠ [] ∧ n.toInt = signed negative (digitsValue cs) := by
  unfold numberOf? at h
  split at h
  next hdrop =>
    obtain ⟨hdigits, htake⟩ := isDigits_of_dropWhile hdrop
    obtain ⟨m, hm, hv⟩ := Option.map_eq_some_iff.mp h
    cases hv
    rw [htake] at hm
    exact ⟨hdigits, integerOf?_eq_some hm⟩
  next =>
    split at h <;> cases h

theorem numberOf?_eq_float (hcs : ∀ c ∈ cs, isNumberChar c = true)
    (h : numberOf? negative cs = some (.float x)) :
    ∃ ds fs, cs = ds ++ '.' :: fs ∧ IsDigits ds ∧ IsDigits fs ∧ (ds ≠ [] ∨ fs ≠ []) ∧
      x = Numeral.value negative ⟨ds, fs, 0⟩ := by
  unfold numberOf? at h
  split at h
  next =>
    obtain ⟨m, -, hv⟩ := Option.map_eq_some_iff.mp h
    cases hv
  next c fs hdrop =>
    split at h
    case isFalse => cases h
    case isTrue hfraction =>
      cases h
      simp only [Bool.and_eq_true, List.all_eq_true, Bool.not_eq_true', Bool.and_eq_false_iff,
        List.isEmpty_eq_false_iff] at hfraction
      obtain ⟨hfs, hne⟩ := hfraction
      have hc : isNumberChar c = true ∧ c.isDigit = false := by
        have hmem : c ∈ cs.dropWhile Char.isDigit := hdrop ▸ List.mem_cons_self
        refine ⟨hcs c ((List.dropWhile_suffix _).mem hmem), ?_⟩
        simpa [hdrop] using List.head?_dropWhile_not Char.isDigit cs
      obtain rfl : c = '.' := by simpa [isNumberChar, hc.2] using hc.1
      refine ⟨_, fs, ?_, fun d hd => List.mem_takeWhile_imp hd, hfs, hne, rfl⟩
      rw [← hdrop, List.takeWhile_append_dropWhile]

theorem readNumberUpTo_eq_ok {value : Option Value} {size' : Nat} {rest' : List Char}
    (h : readNumberUpTo value cs size rest = .ok (.value v) size' rest') :
    value = some v ∧ rest' = rest := by
  have houtcome : (readNumberUpTo value cs size rest).outcome = .ok (.value v) := by rw [h]; rfl
  have hrest := rest_readNumberUpTo houtcome
  rw [h] at hrest
  refine ⟨?_, hrest⟩
  unfold readNumberUpTo at houtcome
  dsimp only at houtcome
  split at houtcome <;> cases houtcome
  rfl

/-- A zero that is complete by itself is read like any other digits. -/
theorem numberOf?_of_readNumber (h : readNumber cs = .ok (.value v) size [])
    (hsign : splitSign cs = (negative, body)) :
    numberOf? negative body = some v ∧ ∀ c ∈ body, isNumberChar c = true := by
  unfold readNumber at h
  rw [hsign] at h
  dsimp only at h
  split at h
  case isTrue hzero =>
    obtain ⟨tail, rfl⟩ := startsLoneZero_eq_true hzero
    obtain ⟨hv, htail⟩ := readNumberUpTo_eq_ok h
    obtain rfl : [] = tail := htail
    cases hv
    refine ⟨by cases negative <;> rfl, fun c hc => ?_⟩
    obtain rfl := List.mem_singleton.mp hc
    rfl
  case isFalse =>
    obtain ⟨hv, hdrop⟩ := readNumberUpTo_eq_ok h
    have hall := List.dropWhile_eq_nil_iff.mp hdrop.symm
    rw [List.takeWhile_eq_self_iff.mpr hall] at hv
    exact ⟨hv, hall⟩

/-- Texts in which no blanks stand. -/
def IsSolid (cs : List Char) : Prop := ∀ c ∈ cs, Unicode.isWhitespace c = false

instance : Decidable (IsSolid cs) := List.decidableBAll _ cs

theorem IsSolid.skipBlanks (h : IsSolid cs) : TagSieve.skipBlanks cs = cs := by
  cases cs with
  | nil => rfl
  | cons c cs => exact List.dropWhile_cons_of_neg (by simp [h c List.mem_cons_self])

theorem IsSolid.eq_nil (h : IsSolid cs) (hblank : IsBlank cs) : cs = [] := by
  rw [← h.skipBlanks, skipBlanks_eq_nil_iff.mpr hblank]

/-- A text without blanks that is one token is all of it. -/
theorem readToken_of_lexes (h : Lexes source [.start, s]) (hw : IsSolid source.toList) :
    ∃ n, readToken source.toList = .ok s n [] := by
  obtain ⟨rest, hspells, hblank⟩ := lexes_iff_spells.mp h
  cases hspells with
  | @cons _ rest _ _ n _ hread _ hnil =>
    cases hnil
    rw [hw.skipBlanks] at hread
    have htaken : Takes _ _ _ := takenFrom_readToken source.toList
    rw [hread] at htaken
    obtain ⟨taken, -, hsource⟩ := htaken
    have hsolid : IsSolid rest := fun c hc => hw c (hsource ▸ List.mem_append_right taken hc)
    obtain rfl := hsolid.eq_nil hblank
    exact ⟨n, hread⟩

theorem numberOf?_of_lexes (h : Lexes source [.start, .value v]) (hw : IsSolid source.toList)
    (hv : v.isNumber = true) (hsign : splitSign source.toList = (negative, body)) :
    numberOf? negative body = some v ∧ ∀ c ∈ body, isNumberChar c = true := by
  obtain ⟨n, hread⟩ := readToken_of_lexes h hw
  exact numberOf?_of_readNumber (readNumber_of_readToken hread hv) hsign

theorem isWhitespace_of_mem_cBlanks {c : Char} (h : c ∈ cBlanks) : Unicode.isWhitespace c = true := by
  simp only [cBlanks, List.mem_cons, List.not_mem_nil, or_false] at h
  rcases h with rfl | rfl | rfl | rfl | rfl | rfl <;> rfl

/-- Where no blank stands in front only a sign stands before a number. -/
theorem behindSign_of_head (h : ∀ c ∈ cs.head?, Unicode.isWhitespace c = false) :
    BehindSign cs negative body ↔ splitSign cs = (negative, body) := by
  have hdrop : cs.dropWhile isNumberBlank = cs := by
    cases cs with
    | nil => rfl
    | cons c cs =>
      refine List.dropWhile_cons_of_neg fun hc => ?_
      have := isWhitespace_of_mem_cBlanks (isNumberBlank_iff.mp hc)
      rw [h c rfl] at this
      cases this
  rw [behindSign_iff, hdrop]

theorem IsSolid.head? (hw : IsSolid cs) : ∀ c ∈ cs.head?, Unicode.isWhitespace c = false :=
  fun c hc => hw c (List.mem_of_mem_head? hc)

theorem isNumberChar_of_isDigits (h : IsDigits ds) : ∀ c ∈ ds, isNumberChar c = true :=
  fun c hc => isNumberChar_of_isDigit (h c hc)

/-- Digits behind a sign are read as a number. -/
theorem readToken_of_isDigits (hsign : splitSign cs = (negative, ds)) (hds : IsDigits ds)
    (hne : ds ≠ []) : readToken cs = readNumber cs := by
  unfold splitSign at hsign
  split at hsign
  next =>
    rw [readToken_word (by decide)]
    rfl
  next =>
    rw [readToken_word (by decide)]
    rfl
  next =>
    cases hsign
    obtain ⟨d, ds, rfl⟩ := List.exists_cons_of_ne_nil hne
    have hd := hds d List.mem_cons_self
    rw [readToken_word (not_mem_punctuation_of_isDigit hd), hd]
    rfl

theorem readNumber_of_isDigits (hsign : splitSign cs = (negative, ds)) (hds : IsDigits ds)
    (hzero : ds.head? ≠ some '0') :
    readNumber cs = readNumberUpTo (numberOf? negative ds) cs cs.length [] := by
  have hlone : startsLoneZero ds = false := by
    by_contra h
    obtain ⟨tail, rfl⟩ := startsLoneZero_eq_true (Bool.not_eq_false _ ▸ h)
    exact hzero rfl
  have hall := isNumberChar_of_isDigits hds
  have hsize := (Takes.splitSign cs).length_add
  rw [hsign] at hsize
  unfold readNumber
  rw [hsign]
  dsimp only
  rw [hlone, List.takeWhile_eq_self_iff.mpr hall, List.dropWhile_eq_nil_iff.mpr hall, hsize]
  rfl

theorem numberOf?_of_isDigits (hds : IsDigits ds) :
    numberOf? negative ds = (integerOf? negative ds).map .integer := by
  unfold numberOf?
  rw [List.takeWhile_eq_self_iff.mpr hds, List.dropWhile_eq_nil_iff.mpr hds]

theorem readToken_outOfRange (hsign : splitSign cs = (negative, ds)) (hds : IsDigits ds)
    (hzero : ds.head? ≠ some '0')
    (h : signed negative (digitsValue ds) < -2 ^ 63 ∨ 2 ^ 63 ≤ signed negative (digitsValue ds)) :
    (readToken cs).outcome = .error ⟨.invalidNumber (String.ofList cs), ⟨0, cs.length⟩⟩ := by
  have hne : ds ≠ [] := by
    rintro rfl
    cases negative <;> rcases h with h | h <;> revert h <;> decide
  rw [readToken_of_isDigits hsign hds hne, readNumber_of_isDigits hsign hds hzero,
    numberOf?_of_isDigits hds, integerOf?_eq_none h]
  simp [readNumberUpTo, Reading.failTaken, Reading.fail]

/-- A number beyond the range is an error over all of its text. -/
theorem Lexer.calls_outOfRange (hw : IsSolid source.toList)
    (hsign : splitSign source.toList = (negative, ds)) (hds : IsDigits ds)
    (hzero : ds.head? ≠ some '0')
    (h : signed negative (digitsValue ds) < -2 ^ 63 ∨ 2 ^ 63 ≤ signed negative (digitsValue ds)) :
    (ofString source).calls 2 = [.ok ⟨.start, ⟨0, 0⟩⟩,
      .error ⟨.invalidNumber source, ⟨0, source.toList.length⟩⟩] := by
  have houtcome := readToken_outOfRange hsign hds hzero h
  rw [String.ofList_toList] at houtcome
  have hread : reading ⟨source.toList, 0, true⟩ = readToken source.toList := by
    rw [reading, hw.skipBlanks]
  have hanswer := next_error rfl (hread ▸ houtcome)
  have hblanks : blanks source.toList = 0 := by
    rw [← hw.skipBlanks, blanks_skipBlanks]
  simp only [hblanks, LexError.shift, Span.shift, Nat.zero_add] at hanswer
  simp only [calls, next_ofString, hanswer]

end TagSieve

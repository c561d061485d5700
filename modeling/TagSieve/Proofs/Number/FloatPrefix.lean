import TagSieve.Proofs.Number.NumeralPrefix
import TagSieve.Proofs.Number.Rounding

/-! The floating point number at the front of a text is that of the longest numeral there, and what
cannot go on with that numeral does not count. -/
namespace TagSieve

variable {cs front body word tail : List Char} {negative : Bool} {c : Char} {x : Binary64} {n : Nat}

/-- The text starts with the word, in any case of ASCII letters. -/
def StartsInAnyCase (word cs : List Char) : Prop :=
  ∃ front, front <+: cs ∧ front.map Char.toLower = word

theorem startsWithWord_iff : startsWithWord word cs = true ↔ StartsInAnyCase word cs := by
  simp only [startsWithWord, beq_iff_eq]
  constructor
  · exact fun h => ⟨_, List.take_prefix _ cs, h⟩
  · rintro ⟨front, ⟨tail, rfl⟩, rfl⟩
    rw [List.length_map, List.take_left]

theorem fillBytes?_isPrefix (h : fillBytes? n cs = some front) : front <+: cs := by
  fun_induction fillBytes? n cs generalizing front with
  | case1 cs =>
    cases h
    exact List.nil_prefix
  | case2 => cases h
  | case3 n c cs hle ih =>
    obtain ⟨t, ht, rfl⟩ := Option.map_eq_some_iff.mp h
    exact List.cons_prefix_cons.mpr ⟨rfl, ih ht⟩
  | case4 => cases h

theorem fillBytes?_append (hfront : ∀ c ∈ front, c.utf8Size = 1) (n : Nat) (tail : List Char) :
    fillBytes? (n + front.length) (front ++ tail) = (fillBytes? n tail).map (front ++ ·) := by
  induction front with
  | nil => simp
  | cons c front ih =>
    have hc := hfront c List.mem_cons_self
    have ih := ih fun d hd => hfront d (List.mem_cons_of_mem c hd)
    rw [List.length_cons, ← Nat.add_assoc, List.cons_append, fillBytes?, hc, Nat.add_sub_cancel, ih,
      if_pos (Nat.le_add_left _ _), Option.map_map]
    rfl

theorem lookahead_isPrefix (cs : List Char) : lookahead cs <+: cs := by
  unfold lookahead
  cases h : fillBytes? 8 cs with
  | none => exact List.prefix_refl cs
  | some front => exact fillBytes?_isPrefix h

/-- A front of at most eight ASCII characters is looked at, wherever the eighth byte falls. -/
theorem isPrefix_lookahead (hfront : ∀ c ∈ front, c.utf8Size = 1) (hlen : front.length ≤ 8)
    (tail : List Char) : front <+: lookahead (front ++ tail) := by
  have hfill := fillBytes?_append hfront (8 - front.length) tail
  rw [Nat.sub_add_cancel hlen] at hfill
  unfold lookahead
  rw [hfill]
  cases fillBytes? (8 - front.length) tail with
  | none => exact List.prefix_append front tail
  | some t => exact List.prefix_append front t

theorem utf8Size_of_toLower (h : c.toLower.isLower = true) : c.utf8Size = 1 := by
  have hletter := letter_of_toLower h
  rw [Char.utf8Size_eq_one_iff, UInt32.le_iff_toNat_le, Char.toNat_val]
  exact Nat.le_trans hletter.2 (by decide)

theorem startsWithWord_lookahead (hword : word.all Char.isLower = true) (hlen : word.length ≤ 8) :
    startsWithWord word (lookahead cs) = true ↔ StartsInAnyCase word cs := by
  rw [startsWithWord_iff]
  constructor
  · rintro ⟨front, hfront, heq⟩
    exact ⟨front, hfront.trans (lookahead_isPrefix cs), heq⟩
  · rintro ⟨front, ⟨tail, rfl⟩, rfl⟩
    refine ⟨front, isPrefix_lookahead (fun c hc => ?_) (by simpa using hlen) tail, rfl⟩
    exact utf8Size_of_toLower (List.all_eq_true.mp hword _ (List.mem_map_of_mem hc))

/-- A text that starts like a numeral starts with no word. -/
theorem StartsNumeral.not_startsInAnyCase (h : StartsNumeral cs) {d : Char}
    (hd : d.isLower = true) (word : List Char) : ¬ StartsInAnyCase (d :: word) cs := by
  rintro ⟨front, ⟨tail, rfl⟩, hfront⟩
  refine h.map_toLower_ne hd (word ++ tail.map Char.toLower) ?_
  rw [List.map_append, hfront, List.cons_append]

theorem not_startsInAnyCase_inf (h : StartsInAnyCase ['n', 'a', 'n'] cs) :
    ¬ StartsInAnyCase ['i', 'n', 'f'] cs := by
  rintro ⟨front', hfront', hinf⟩
  obtain ⟨front, hfront, hnan⟩ := h
  have hlen : front.length = front'.length := by
    have hlength := congrArg List.length hnan
    have hlength' := congrArg List.length hinf
    rw [List.length_map] at hlength hlength'
    exact hlength.trans hlength'.symm
  have hsame : front = front' :=
    (List.prefix_of_prefix_length_le hfront hfront' (Nat.le_of_eq hlen)).eq_of_length hlen
  rw [hsame, hinf] at hnan
  cases hnan

namespace Binary64

theorem signUnit_eq (negative : Bool) : signUnit negative = ofMagnitude negative (1023 * 2 ^ 52) := by
  cases negative <;> decide +kernel

theorem isNegative_ofMagnitude (negative : Bool) {m : Nat} (hm : m < 2 ^ 63) :
    (ofMagnitude negative m).isNegative = negative := by
  have hlt : m + 2 ^ 63 < 2 ^ 64 := by omega
  cases negative <;> simp only [ofMagnitude, isNegative] <;> simp <;> omega

theorem ofRatio_numerator (hx : x.isFinite = true) (negative : Bool) :
    ofRatio negative x.numerator unit = ofMagnitude negative x.magnitude := by
  have hmagnitude := magnitude_ofRatio_numerator hx negative
  rw [magnitude_ofRatio] at hmagnitude
  rw [ofRatio, hmagnitude]

theorem numerator_signUnit (negative : Bool) : (signUnit negative).numerator = unit := by
  rw [signUnit_eq]
  cases negative <;> decide +kernel

/-- One with a sign gives its sign to a number that has none. -/
theorem signUnit_mul (negative : Bool) (hnan : x.isNaN = false) (hx : x.isNegative = false) :
    (signUnit negative).mul x = ofMagnitude negative x.magnitude := by
  have hunit : (signUnit negative).isNaN = false ∧ (signUnit negative).isInfinite = false ∧
      (signUnit negative).isZero = false ∧ (signUnit negative).isNegative = negative := by
    rw [signUnit_eq]
    cases negative <;> decide
  obtain ⟨hunitNaN, hunitInfinite, hunitZero, hunitNegative⟩ := hunit
  cases hinf : x.isInfinite with
  | true =>
    have hmagnitude : x.magnitude = infinityMagnitude := beq_iff_eq.mp hinf
    simp [mul, hunitNaN, hunitInfinite, hunitZero, hunitNegative, hnan, hx, hinf, infinity,
      hmagnitude]
  | false =>
    have hfinite : x.isFinite = true := by
      have hle : x.magnitude ≤ infinityMagnitude := by simpa [isNaN] using hnan
      have hne : x.magnitude ≠ infinityMagnitude := by simpa [isInfinite] using hinf
      exact decide_eq_true (by omega)
    have hcross : unit * unit * x.numerator = unit * (unit * x.numerator) := Nat.mul_assoc _ _ _
    have hratio := ofRatio_eq_of_cross unit_pos (Nat.mul_pos unit_pos unit_pos) hcross negative
    simp [mul, hunitNaN, hunitInfinite, hunitZero, hunitNegative, hnan, hx, hinf,
      numerator_signUnit, ← hratio, ofRatio_numerator hfinite]

end Binary64

/-- What a text without sign gives as the floating point number at its front. -/
inductive FloatFront (negative : Bool) (body : List Char) : Binary64 → Prop
  | infinity (h : StartsInAnyCase ['i', 'n', 'f'] body) :
    FloatFront negative body (.infinity negative)
  | nan (h : StartsInAnyCase ['n', 'a', 'n'] body) : FloatFront negative body .nan
  | numeral {front : List Char} {x : Binary64} (hfront : IsLongest IsNumeral front body)
      (hx : Binary64.ofText? front = some x) :
    FloatFront negative body ((Binary64.signUnit negative).mul x)
  | none (hinf : ¬ StartsInAnyCase ['i', 'n', 'f'] body)
      (hnan : ¬ StartsInAnyCase ['n', 'a', 'n'] body)
      (h : ∀ front, front <+: body → ¬ IsNumeral front) :
    FloatFront negative body (.zero false)

theorem exists_floatFront (negative : Bool) (body : List Char) : ∃ x, FloatFront negative body x := by
  by_cases hinf : StartsInAnyCase ['i', 'n', 'f'] body
  · exact ⟨_, .infinity hinf⟩
  by_cases hnan : StartsInAnyCase ['n', 'a', 'n'] body
  · exact ⟨_, .nan hnan⟩
  by_cases hnil : numeralChars body = []
  · exact ⟨_, .none hinf hnan (numeralChars_eq_nil_iff.mp hnil)⟩
  · have hlongest := isLongest_numeralChars hnil
    obtain ⟨x, hx⟩ := exists_ofText? hlongest.kind
    exact ⟨_, .numeral hlongest hx⟩

theorem startsWithWord_inf :
    startsWithWord ['i', 'n', 'f'] (lookahead cs) = true ↔ StartsInAnyCase ['i', 'n', 'f'] cs :=
  startsWithWord_lookahead (by decide) (by decide)

theorem startsWithWord_nan :
    startsWithWord ['n', 'a', 'n'] (lookahead cs) = true ↔ StartsInAnyCase ['n', 'a', 'n'] cs :=
  startsWithWord_lookahead (by decide) (by decide)

/-- A text that starts with no word is read by the numeral at its front. -/
theorem floatPrefix_of_not_word (h : BehindSign cs negative body)
    (hinf : ¬ StartsInAnyCase ['i', 'n', 'f'] body)
    (hnan : ¬ StartsInAnyCase ['n', 'a', 'n'] body) :
    floatPrefix cs = if (numeralChars body).isEmpty then .zero false
      else ((Binary64.ofText? (numeralChars body)).map (Binary64.signUnit negative).mul).getD
        (.zero false) := by
  unfold floatPrefix
  rw [behindSign_iff.mp h]
  dsimp only
  rw [if_neg (mt startsWithWord_inf.mp hinf), if_neg (mt startsWithWord_nan.mp hnan)]

theorem IsLongest.startsNumeral (h : IsLongest IsNumeral front body) : StartsNumeral body := by
  obtain ⟨tail, rfl⟩ := h.isPrefix
  exact h.kind.startsNumeral tail

theorem floatPrefix_of_floatFront (h : BehindSign cs negative body)
    (hx : FloatFront negative body x) : floatPrefix cs = x := by
  cases hx with
  | infinity hinf =>
    unfold floatPrefix
    rw [behindSign_iff.mp h]
    dsimp only
    rw [if_pos (startsWithWord_inf.mpr hinf)]
    exact Binary64.signUnit_mul negative rfl rfl
  | nan hnan =>
    have hinf := not_startsInAnyCase_inf hnan
    unfold floatPrefix
    rw [behindSign_iff.mp h]
    dsimp only
    rw [if_neg (mt startsWithWord_inf.mp hinf), if_pos (startsWithWord_nan.mpr hnan)]
  | @numeral front x hfront hx =>
    have hstarts := hfront.startsNumeral
    have hne : ¬ front.isEmpty = true := by simpa using hfront.kind.ne_nil
    rw [floatPrefix_of_not_word h (hstarts.not_startsInAnyCase rfl _)
      (hstarts.not_startsInAnyCase rfl _), numeralChars_of_isLongest hfront, if_neg hne, hx]
    rfl
  | none hinf hnan hnone =>
    rw [floatPrefix_of_not_word h hinf hnan, numeralChars_eq_nil_iff.mpr hnone]
    rfl

/-- Blanks and a sign are the same in front of another text that starts with the same character. -/
theorem BehindSign.exchange {front tail : List Char}
    (h : BehindSign (front ++ c :: tail) negative (c :: tail)) (tail' : List Char) :
    BehindSign (front ++ c :: tail') negative (c :: tail') := by
  generalize hcs : front ++ c :: tail = cs at h
  generalize hbody : c :: tail = body at h
  induction h generalizing front with
  | minus body =>
    subst hbody
    obtain rfl : front = ['-'] := List.append_cancel_right hcs
    exact .minus _
  | plus body =>
    subst hbody
    obtain rfl : front = ['+'] := List.append_cancel_right hcs
    exact .plus _
  | unsigned h =>
    subst hbody
    obtain rfl : front = [] := List.append_cancel_right hcs
    exact .unsigned fun d hd => h d hd
  | blank hc h ih =>
    cases front with
    | nil =>
      have hlen := h.length_le
      rw [List.nil_append] at hcs
      rw [← hbody, hcs, List.length_cons] at hlen
      omega
    | cons d front =>
      obtain ⟨rfl, hfront⟩ := List.cons.inj hcs
      exact .blank hc (ih hfront hbody)

/-- The number at the front of a text. Behind blanks and a sign it is infinity or no number if the
text starts with the word for it, the number of the longest numeral there, or zero without one.
Every numeral is a number as a whole text. What stands behind the longest numeral can be exchanged
for anything that makes it no longer. -/
theorem floatPrefix_exact :
    (∀ cs, ∃ negative body, BehindSign cs negative body) ∧
    (∀ cs negative body x, BehindSign cs negative body →
      (floatPrefix cs = x ↔ FloatFront negative body x)) ∧
    (∀ numeral, IsNumeral numeral → ∃ x, Binary64.ofText? numeral = some x) ∧
    (∀ front numeral tail tail' negative,
      BehindSign (front ++ (numeral ++ tail)) negative (numeral ++ tail) →
      IsLongest IsNumeral numeral (numeral ++ tail) →
      IsLongest IsNumeral numeral (numeral ++ tail') →
      floatPrefix (front ++ (numeral ++ tail')) = floatPrefix (front ++ (numeral ++ tail))) := by
  refine ⟨exists_behindSign, ?_, fun numeral h => exists_ofText? h, ?_⟩
  · intro cs negative body x h
    constructor
    · rintro rfl
      obtain ⟨y, hy⟩ := exists_floatFront negative body
      rwa [floatPrefix_of_floatFront h hy]
    · exact floatPrefix_of_floatFront h
  · intro front numeral tail tail' negative h hlongest hlongest'
    obtain ⟨x, hx⟩ := exists_ofText? hlongest.kind
    obtain ⟨c, rest, rfl⟩ := List.exists_cons_of_ne_nil hlongest.kind.ne_nil
    have h' := h.exchange (rest ++ tail')
    rw [floatPrefix_of_floatFront h (.numeral hlongest hx)]
    exact floatPrefix_of_floatFront h' (.numeral hlongest' hx)

/-- A numeral without whole digits, with the beginnings of an exponent behind it that has none. -/
def halfChars : List Char := ".5e-e9".toList

theorem isLongest_half (tail : List Char) (h : numeralChars (['.', '5'] ++ tail) = ['.', '5']) :
    IsLongest IsNumeral ['.', '5'] (['.', '5'] ++ tail) := by
  have hlongest : IsLongest IsNumeral _ (['.', '5'] ++ tail) :=
    isLongest_numeralChars (by rw [h]; nofun)
  rwa [h] at hlongest

theorem floatPrefix_exact_half :
    BehindSign ('\x0b' :: '-' :: halfChars) true halfChars ∧
      IsLongest IsNumeral ['.', '5'] halfChars ∧
      floatPrefix ('\x0b' :: '-' :: halfChars) = ⟨0xbfe0000000000000⟩ ∧
      floatPrefix "\x0b-.5E+".toList = floatPrefix ('\x0b' :: '-' :: halfChars) := by
  obtain ⟨-, hvalue, -, hexchange⟩ := floatPrefix_exact
  have hsign : BehindSign ('\x0b' :: '-' :: halfChars) true halfChars :=
    .blank (by decide) (.minus halfChars)
  have hlongest : IsLongest IsNumeral ['.', '5'] halfChars :=
    isLongest_half ['e', '-', 'e', '9'] (by decide)
  have hlongest' : IsLongest IsNumeral ['.', '5'] (['.', '5'] ++ ['E', '+']) :=
    isLongest_half _ (by decide)
  have hhalf : Binary64.ofText? ['.', '5'] = some ⟨0x3fe0000000000000⟩ := by decide +kernel
  have hfront : FloatFront true halfChars _ := .numeral hlongest hhalf
  refine ⟨hsign, hlongest, ((hvalue _ _ _ _ hsign).mpr hfront).trans (by decide +kernel), ?_⟩
  exact hexchange ['\x0b', '-'] ['.', '5'] ['e', '-', 'e', '9'] ['E', '+'] true hsign hlongest
    hlongest'

end TagSieve

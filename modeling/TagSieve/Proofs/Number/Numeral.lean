import Mathlib.Tactic.Convert
import TagSieve.Proofs.Number.Rounding
import TagSieve.Value

/-! Every finite number is written as a numeral that denotes it: digits, a point, digits. -/
namespace TagSieve

variable {ds : List Char} {c : Char} {n : Nat}

theorem digitsValue_eq (cs : List Char) : digitsValue cs = Nat.ofDigitChars 10 cs 0 := rfl

@[simp] theorem digitsValue_decimalDigits (n : Nat) : digitsValue (decimalDigits n) = n :=
  Nat.ofDigitChars_ten_toDigits

theorem digitsValue_append (a b : List Char) :
    digitsValue (a ++ b) = digitsValue a * 10 ^ b.length + digitsValue b := by
  rw [digitsValue_eq, Nat.ofDigitChars_append, Nat.ofDigitChars_eq_ofDigitChars_zero, Nat.mul_comm]
  rfl

theorem digitsValue_zeros (n : Nat) : digitsValue (List.replicate n '0') = 0 := by
  rw [digitsValue_eq, Nat.ofDigitChars_replicate_zero, Nat.mul_zero]

theorem digitsValue_zeros_append (n : Nat) (cs : List Char) :
    digitsValue (List.replicate n '0' ++ cs) = digitsValue cs := by
  rw [digitsValue_append, digitsValue_zeros, Nat.zero_mul, Nat.zero_add]

theorem isDigit_of_mem_decimalDigits (h : c ∈ decimalDigits n) : c.isDigit = true :=
  Nat.isDigit_of_mem_toDigits (by decide) (by decide) h

theorem decimalDigits_ne_nil (n : Nat) : decimalDigits n ≠ [] := Nat.toDigits_ne_nil

/-- Digits that start with a zero only if that is all. -/
def Leads (ds : List Char) : Prop := ds = ['0'] ∨ ∃ c cs, ds = c :: cs ∧ c ≠ '0'

theorem exists_decimalDigits (hn : n ≠ 0) : ∃ c cs, decimalDigits n = c :: cs ∧ c ≠ '0' := by
  induction n using Nat.strongRecOn with
  | ind n ih =>
    rcases Nat.lt_or_ge n 10 with hlt | hge
    · exact ⟨n.digitChar, [], Nat.toDigits_of_lt_base hlt, by simpa using hn⟩
    · obtain ⟨c, cs, h, hc⟩ := ih (n / 10) (by omega) (by omega)
      refine ⟨c, cs ++ [(n % 10).digitChar], ?_, hc⟩
      rw [decimalDigits, Nat.toDigits_of_base_le (by decide) hge, ← decimalDigits, h,
        List.cons_append]

/-- The sign of a number, as it is written. -/
def signChars (negative : Bool) : List Char := if negative then ['-'] else []

namespace Binary64

variable {x : Binary64} (tie : Tie)

theorem ofDecimal_mul_pow (negative : Bool) (n k : Nat) (e : Int) :
    ofDecimal negative (n * 10 ^ k) e = ofDecimal negative n (e + k) := by
  rw [ofDecimal_eq_ofRatio, ofDecimal_eq_ofRatio]
  apply ofRatio_eq_of_cross (Nat.pow_pos (by decide)) (Nat.pow_pos (by decide))
  have hexp : (-(e + k)).toNat + (k + e.toNat) = (-e).toNat + (e + k).toNat := by omega
  calc 10 ^ (-(e + k)).toNat * (n * 10 ^ k * 10 ^ e.toNat)
      = n * 10 ^ ((-(e + k)).toNat + (k + e.toNat)) := by ring
    _ = 10 ^ (-e).toNat * (n * 10 ^ (e + k).toNat) := by
        rw [hexp]
        ring

theorem ofDecimal_eq_ofMagnitude (negative : Bool) (n : Nat) (e : Int) :
    ofDecimal negative n e = ofMagnitude negative (ofDecimal false n e).magnitude := by
  rw [ofDecimal_eq_ofRatio, ofDecimal_eq_ofRatio, magnitude_ofRatio, ofRatio]

/-- A decimal with the right magnitude is the number itself under the number's sign. -/
theorem ofDecimal_eq_self {e : Int} (h : (ofDecimal false n e).magnitude = x.magnitude) :
    ofDecimal x.isNegative n e = x := by
  rw [ofDecimal_eq_ofMagnitude, h, ofMagnitude_magnitude]

theorem magnitude_of_neighbour? {tie : Tie} {k : Int} {d : Decimal}
    (h : neighbour? tie x k = some d) :
    (ofDecimal false d.digits d.exponent).magnitude = x.magnitude := by
  simp only [neighbour?] at h
  split at h
  next hlow hhigh =>
    obtain rfl := Option.some.inj h
    dsimp only
    split
    · exact beq_iff_eq.mp hlow
    · exact beq_iff_eq.mp hhigh
  next hlow _ =>
    obtain rfl := Option.some.inj h
    exact beq_iff_eq.mp hlow
  next _ hhigh =>
    obtain rfl := Option.some.inj h
    exact beq_iff_eq.mp hhigh
  next => cases h

theorem unit_mul_five_pow {k : Nat} (hk : unit = 2 ^ k) (m : Nat) :
    unit * (m * 5 ^ k) = 10 ^ k * m := by
  rw [hk, show 10 = 2 * 5 by rfl, Nat.mul_pow]
  ring

theorem ofDecimal_exact (negative : Bool) {k : Nat} (hk : unit = 2 ^ k) (m : Nat) :
    ofDecimal negative (m * 5 ^ k) (-k) = ofRatio negative m unit := by
  rw [ofDecimal_eq_ofRatio, Int.toNat_neg_natCast, Nat.pow_zero, Nat.mul_one, Int.neg_neg,
    Int.toNat_natCast]
  exact ofRatio_eq_of_cross (Nat.pow_pos (by decide)) unit_pos (unit_mul_five_pow hk m) _

theorem exactDecimal_eq (x : Binary64) :
    ∃ k : Nat, unit = 2 ^ k ∧ x.exactDecimal = ⟨x.numerator * 5 ^ k, -k⟩ := by
  obtain ⟨k, hk⟩ : ∃ k, 1074 = k := ⟨1074, rfl⟩
  have hexponent : (-1074 : Int) = -k := by omega
  refine ⟨k, ?_, ?_⟩
  · rw [← hk, ← Nat.one_mul unit, ← Nat.pow_zero 2, two_pow_mul_unit, Nat.zero_add]
  · unfold exactDecimal
    rw [hexponent, hk]

theorem ofDecimal_exactDecimal (negative : Bool) (x : Binary64) :
    ofDecimal negative x.exactDecimal.digits x.exactDecimal.exponent =
      ofRatio negative x.numerator unit := by
  obtain ⟨k, hunit, hexact⟩ := x.exactDecimal_eq
  rw [hexact]
  exact ofDecimal_exact negative hunit x.numerator

theorem magnitude_exactDecimal (hx : x.isFinite = true) :
    (ofDecimal false x.exactDecimal.digits x.exactDecimal.exponent).magnitude = x.magnitude := by
  rw [ofDecimal_exactDecimal]
  exact magnitude_ofRatio_numerator hx false

theorem ofDecimal_strip (negative : Bool) (fuel : Nat) (d : Decimal) :
    ofDecimal negative (Decimal.strip fuel d).digits (Decimal.strip fuel d).exponent =
      ofDecimal negative d.digits d.exponent := by
  induction fuel generalizing d with
  | zero => rfl
  | succ fuel ih =>
    unfold Decimal.strip
    split
    case isTrue h =>
      have hdigits : d.digits / 10 * 10 ^ 1 = d.digits := by omega
      rw [ih, ← hdigits, ofDecimal_mul_pow, hdigits]
      rfl
    case isFalse => rfl

theorem magnitude_shortest (hx : x.isFinite = true) :
    (ofDecimal false (x.shortest tie).digits (x.shortest tie).exponent).magnitude =
      x.magnitude := by
  unfold shortest
  split
  case isTrue h => exact (beq_iff_eq.mp h).symm
  case isFalse =>
    dsimp only
    rw [ofDecimal_strip]
    cases hfound : (List.range 17).findSome? fun i =>
        neighbour? tie x (decimalPoint x.numerator unit - (i + 1 : Nat)) with
    | none => exact magnitude_exactDecimal hx
    | some d =>
      obtain ⟨i, _, hi⟩ := List.exists_of_findSome?_eq_some hfound
      exact magnitude_of_neighbour? hi

theorem digits_shortest_ne_zero (hx : x.isFinite = true) (h0 : x.isZero = false) :
    (x.shortest tie).digits ≠ 0 := by
  intro h
  have hmag := magnitude_shortest tie hx
  rw [h] at hmag
  simp [isZero] at h0
  exact h0 hmag.symm

theorem ne_point_of_isDigit (h : c.isDigit = true) : c ≠ '.' := by
  rintro rfl
  cases h

theorem contains_point_append (ds fraction : List Char) :
    (ds ++ '.' :: fraction).contains '.' = true := by simp

theorem not_contains_point (h : ∀ c ∈ ds, c.isDigit = true) (negative : Bool) :
    (signChars negative ++ ds).contains '.' = false := by
  have hnot : '.' ∉ ds := fun hmem => ne_point_of_isDigit (h _ hmem) rfl
  cases negative <;> simp [signChars, hnot]

/-- Digits before and after a point, which denote a number under its sign. -/
structure IsNumeralOf (x : Binary64) (whole fraction : List Char) : Prop where
  leads : Leads whole
  whole_isDigit : ∀ c ∈ whole, c.isDigit = true
  fraction_isDigit : ∀ c ∈ fraction, c.isDigit = true
  value : ofDecimal x.isNegative (digitsValue (whole ++ fraction)) (-fraction.length) = x

theorem isNumeralOf_of_nonneg {d : Decimal} (he : 0 ≤ d.exponent)
    (hzero : d.digits = 0 → d.exponent = 0)
    (hd : ofDecimal x.isNegative d.digits d.exponent = x) :
    IsNumeralOf x (decimalDigits d.digits ++ List.replicate d.exponent.toNat '0') ['0'] := by
  refine ⟨?_, ?_, by simp, ?_⟩
  · by_cases hn : d.digits = 0
    · rw [hn, hzero hn]
      exact Or.inl rfl
    · obtain ⟨c, cs, h, hc⟩ := exists_decimalDigits hn
      exact Or.inr ⟨c, cs ++ List.replicate d.exponent.toNat '0', by simp [h], hc⟩
  · intro c hc
    rcases List.mem_append.mp hc with h | h
    · exact isDigit_of_mem_decimalDigits h
    · rw [List.eq_of_mem_replicate h]
      rfl
  · have hzeros : List.replicate d.exponent.toNat '0' ++ ['0'] =
        List.replicate (d.exponent.toNat + 1) '0' := List.replicate_succ'.symm
    have hval : digitsValue (decimalDigits d.digits ++ List.replicate d.exponent.toNat '0' ++ ['0']) =
        d.digits * 10 ^ (d.exponent.toNat + 1) := by
      rw [List.append_assoc, hzeros, digitsValue_append, digitsValue_zeros,
        digitsValue_decimalDigits, List.length_replicate, Nat.add_zero]
    rw [hval, ofDecimal_mul_pow]
    convert hd using 2
    simp
    omega

theorem isNumeralOf_of_neg {d : Decimal} (he : d.exponent < 0)
    (hlt : (-d.exponent).toNat < (decimalDigits d.digits).length)
    (hd : ofDecimal x.isNegative d.digits d.exponent = x) :
    IsNumeralOf x
      ((decimalDigits d.digits).take ((decimalDigits d.digits).length - (-d.exponent).toNat))
      ((decimalDigits d.digits).drop ((decimalDigits d.digits).length - (-d.exponent).toNat)) := by
  refine ⟨?_, fun c hc => isDigit_of_mem_decimalDigits (List.mem_of_mem_take hc),
    fun c hc => isDigit_of_mem_decimalDigits (List.mem_of_mem_drop hc), ?_⟩
  · by_cases hn : d.digits = 0
    · rw [hn, decimalDigits, Nat.toDigits_zero] at hlt
      simp at hlt
      omega
    · obtain ⟨c, cs, h, hc⟩ := exists_decimalDigits hn
      rw [h] at hlt ⊢
      obtain ⟨k, hk⟩ : ∃ k, (c :: cs).length - (-d.exponent).toNat = k + 1 :=
        Nat.exists_eq_add_one.mpr (by omega)
      rw [hk]
      exact Or.inr ⟨c, cs.take k, rfl, hc⟩
  · rw [List.take_append_drop, digitsValue_decimalDigits, List.length_drop]
    convert hd using 2
    omega

theorem isNumeralOf_of_small {d : Decimal} (he : d.exponent < 0)
    (hle : (decimalDigits d.digits).length ≤ (-d.exponent).toNat)
    (hd : ofDecimal x.isNegative d.digits d.exponent = x) :
    IsNumeralOf x ['0'] (List.replicate ((-d.exponent).toNat - (decimalDigits d.digits).length) '0' ++
      decimalDigits d.digits) := by
  refine ⟨Or.inl rfl, by simp, ?_, ?_⟩
  · intro c hc
    rcases List.mem_append.mp hc with h | h
    · rw [List.eq_of_mem_replicate h]
      rfl
    · exact isDigit_of_mem_decimalDigits h
  · rw [show ['0'] = List.replicate 1 '0' by rfl, digitsValue_zeros_append,
      digitsValue_zeros_append, digitsValue_decimalDigits]
    convert hd using 2
    simp
    omega

/-- A decimal in positional notation is a numeral, or whole digits that lack their point. -/
theorem positionalText_cases {d : Decimal} (hzero : d.digits = 0 → d.exponent = 0)
    (hd : ofDecimal x.isNegative d.digits d.exponent = x) :
    (∃ whole, positionalText plainLayout (decimalDigits d.digits) d.exponent = whole ∧
      IsNumeralOf x whole ['0']) ∨
    ∃ whole fraction, positionalText plainLayout (decimalDigits d.digits) d.exponent =
      whole ++ '.' :: fraction ∧ IsNumeralOf x whole fraction := by
  unfold positionalText
  split
  case isTrue he =>
    exact Or.inl ⟨_, List.append_nil _, isNumeralOf_of_nonneg he hzero hd⟩
  case isFalse he =>
    have he' : d.exponent < 0 := by omega
    right
    dsimp only
    split
    case isTrue hlt => exact ⟨_, _, rfl, isNumeralOf_of_neg he' hlt hd⟩
    case isFalse hle => exact ⟨['0'], _, rfl, isNumeralOf_of_small he' (by omega) hd⟩

theorem exponent_shortest_eq_zero (hx : x.isFinite = true) (h : (x.shortest tie).digits = 0) :
    (x.shortest tie).exponent = 0 := by
  cases h0 : x.isZero with
  | false => exact absurd h (digits_shortest_ne_zero tie hx h0)
  | true => simp [shortest, h0]

theorem text_eq_positionalText (hx : x.isFinite = true) :
    x.text plainLayout = signChars x.isNegative ++ positionalText plainLayout
      (decimalDigits (x.shortest plainLayout.tie).digits) (x.shortest plainLayout.tie).exponent := by
  have hlt : x.magnitude < infinityMagnitude := of_decide_eq_true hx
  have hnan : x.isNaN = false := decide_eq_false (by omega)
  have hinf : x.isInfinite = false := beq_eq_false_iff_ne.mpr (by omega)
  simp [text, magnitudeText, hnan, hinf, signChars, plainLayout]

/-- A finite number is written as its sign and a numeral of it. -/
theorem exists_floatChars (hx : x.isFinite = true) :
    ∃ whole fraction, floatChars x = signChars x.isNegative ++ (whole ++ '.' :: fraction) ∧
      IsNumeralOf x whole fraction := by
  rcases positionalText_cases (exponent_shortest_eq_zero plainLayout.tie hx)
      (ofDecimal_eq_self (magnitude_shortest plainLayout.tie hx)) with
    ⟨whole, htext, h⟩ | ⟨whole, fraction, htext, h⟩
  · refine ⟨whole, ['0'], ?_, h⟩
    have hpoint := not_contains_point h.whole_isDigit x.isNegative
    simp only [floatChars, text_eq_positionalText hx, htext]
    rw [hpoint, if_neg Bool.false_ne_true, List.append_assoc]
  · refine ⟨whole, fraction, ?_, h⟩
    simp only [floatChars, text_eq_positionalText hx, htext]
    rw [← List.append_assoc, contains_point_append, if_pos rfl]

end Binary64

end TagSieve

import Mathlib.Tactic.Positivity
import Mathlib.Tactic.Ring
import Mathlib.Tactic.SplitIfs
import TagSieve.Number.Decimal

/-! Rounding depends on the exact value only, not on the fraction or the decimal it is given by,
and gives every finite number back from its own value. -/
namespace TagSieve.Binary64

variable {n d p q : Nat} {x : Binary64}

theorem unit_pos : 0 < unit := by
  unfold unit
  positivity

theorem two_pow_mul_unit (k : Nat) : 2 ^ k * unit = 2 ^ (k + 1074) := by
  rw [unit, Nat.pow_add]

/-- The power of two that leaves `n / d` a significand below `2 ^ 53`, and no smaller one does. -/
def Fits (n d p : Nat) : Prop :=
  n < 2 ^ 53 * (d * 2 ^ p) ∧ (p = 0 ∨ 2 ^ 53 * (d * 2 ^ (p - 1)) ≤ n)

theorem Fits.le (hp : Fits n d p) (hq : Fits n d q) : p ≤ q := by
  by_contra hlt
  have hqp : q ≤ p - 1 := by omega
  have hlow : 2 ^ 53 * (d * 2 ^ (p - 1)) ≤ n := hp.2.resolve_left (by omega)
  have hpow : 2 ^ q ≤ 2 ^ (p - 1) := Nat.pow_le_pow_right (by omega) hqp
  have hmul : 2 ^ 53 * (d * 2 ^ q) ≤ 2 ^ 53 * (d * 2 ^ (p - 1)) :=
    Nat.mul_le_mul_left _ (Nat.mul_le_mul_left _ hpow)
  exact absurd hq.1 (Nat.not_lt.mpr (hmul.trans hlow))

theorem Fits.unique (hp : Fits n d p) (hq : Fits n d q) : p = q :=
  Nat.le_antisymm (hp.le hq) (hq.le hp)

/-- The power that rounding guesses from the lengths of numerator and denominator. -/
def guessPower (n d : Nat) : Nat :=
  let guess := n.log2 - d.log2 - 53
  if n / (d * 2 ^ guess) < 2 ^ 53 then guess else guess + 1

theorem fits_guessPower (n : Nat) (hd : 0 < d) : Fits n d (guessPower n d) := by
  simp only [guessPower]
  generalize hg : n.log2 - d.log2 - 53 = g
  have hlow : 2 ^ d.log2 ≤ d := Nat.log2_self_le (by omega)
  have hhigh : d < 2 ^ (d.log2 + 1) := Nat.lt_log2_self
  have hdiv : n / (d * 2 ^ g) < 2 ^ 53 ↔ n < 2 ^ 53 * (d * 2 ^ g) :=
    Nat.div_lt_iff_lt_mul (Nat.mul_pos hd (Nat.two_pow_pos g))
  split
  case isTrue hlt =>
    refine ⟨hdiv.mp hlt, ?_⟩
    rcases Nat.eq_zero_or_pos g with h0 | hpos
    · exact Or.inl h0
    · right
      have hn : n ≠ 0 := by
        rintro rfl
        simp at hg
        omega
      calc 2 ^ 53 * (d * 2 ^ (g - 1))
          ≤ 2 ^ 53 * (2 ^ (d.log2 + 1) * 2 ^ (g - 1)) :=
            Nat.mul_le_mul_left _ (Nat.mul_le_mul_right _ hhigh.le)
        _ = 2 ^ n.log2 := by
            rw [← Nat.pow_add, ← Nat.pow_add]
            congr 1
            omega
        _ ≤ n := Nat.log2_self_le hn
  case isFalse hge =>
    refine ⟨?_, Or.inr (Nat.not_lt.mp (mt hdiv.mpr hge))⟩
    calc n < 2 ^ (n.log2 + 1) := Nat.lt_log2_self
      _ ≤ 2 ^ (53 + (d.log2 + (g + 1))) := Nat.pow_le_pow_right (by omega) (by omega)
      _ = 2 ^ 53 * (2 ^ d.log2 * 2 ^ (g + 1)) := by rw [Nat.pow_add, Nat.pow_add]
      _ ≤ 2 ^ 53 * (d * 2 ^ (g + 1)) := Nat.mul_le_mul_left _ (Nat.mul_le_mul_right _ hlow)

theorem exists_fits (n : Nat) (hd : 0 < d) : ∃ p, Fits n d p := ⟨_, fits_guessPower n hd⟩

theorem roundMagnitude_of_fits (hd : 0 < d) (hp : Fits (n * unit) d p) :
    roundMagnitude n d =
      min (p * 2 ^ 52 + roundQuotient (n * unit) (d * 2 ^ p)) infinityMagnitude := by
  rw [hp.unique (fits_guessPower _ hd)]
  simp only [roundMagnitude, guessPower]

theorem fits_mul_left {k : Nat} (hk : 0 < k) : Fits (k * n) (k * d) p ↔ Fits n d p := by
  have hd (r : Nat) : 2 ^ 53 * (k * d * 2 ^ r) = k * (2 ^ 53 * (d * 2 ^ r)) := by ring
  simp only [Fits, hd, Nat.mul_lt_mul_left hk, Nat.mul_le_mul_left_iff hk]

theorem roundQuotient_mul_left {k : Nat} (hk : 0 < k) (n d : Nat) :
    roundQuotient (k * n) (k * d) = roundQuotient n d := by
  have htwice : 2 * (k * (n % d)) = k * (2 * (n % d)) := by ring
  simp only [roundQuotient, Nat.mul_div_mul_left n d hk, Nat.mul_mod_mul_left, htwice,
    Nat.mul_lt_mul_left hk]

theorem roundMagnitude_mul_left {k : Nat} (hk : 0 < k) (hd : 0 < d) (n : Nat) :
    roundMagnitude (k * n) (k * d) = roundMagnitude n d := by
  obtain ⟨p, hp⟩ := exists_fits (n * unit) hd
  have hk' : Fits (k * n * unit) (k * d) p := by
    rw [Nat.mul_assoc]
    exact (fits_mul_left hk).mpr hp
  rw [roundMagnitude_of_fits hd hp, roundMagnitude_of_fits (Nat.mul_pos hk hd) hk', Nat.mul_assoc,
    Nat.mul_assoc, roundQuotient_mul_left hk]

/-- Equal fractions round to the same number. -/
theorem ofRatio_eq_of_cross {n' d' : Nat} (hd : 0 < d) (hd' : 0 < d') (h : d' * n = d * n')
    (negative : Bool) : ofRatio negative n d = ofRatio negative n' d' := by
  have hzero : n = 0 ↔ n' = 0 := by
    constructor <;> rintro rfl <;> simp_all <;> omega
  have hround : roundMagnitude n d = roundMagnitude n' d' := by
    rw [← roundMagnitude_mul_left hd' hd n, h, Nat.mul_comm d' d, roundMagnitude_mul_left hd hd']
  simp only [ofRatio, hzero, hround]

theorem infinityMagnitude_lt : infinityMagnitude < 2 ^ 63 := by decide

theorem magnitude_ofMagnitude (negative : Bool) {m : Nat} (hm : m < 2 ^ 63) :
    (ofMagnitude negative m).magnitude = m := by
  have hlt : m + 2 ^ 63 < 2 ^ 64 := by omega
  cases negative <;> simp only [ofMagnitude, magnitude] <;> simp <;> omega

theorem ofMagnitude_magnitude (x : Binary64) : ofMagnitude x.isNegative x.magnitude = x := by
  obtain ⟨bits⟩ := x
  have hlt : bits.toNat < 2 ^ 64 := bits.toNat_lt
  have hsum : bits.toNat % 2 ^ 63 + (if 2 ^ 63 ≤ bits.toNat then 2 ^ 63 else 0) = bits.toNat := by
    split <;> omega
  simp only [ofMagnitude, magnitude, isNegative, decide_eq_true_eq, hsum, UInt64.ofNat_toNat]

theorem roundMagnitude_le (n d : Nat) : roundMagnitude n d ≤ infinityMagnitude :=
  Nat.min_le_right _ _

theorem magnitude_ofRatio (negative : Bool) (n d : Nat) :
    (ofRatio negative n d).magnitude = if n = 0 then 0 else roundMagnitude n d := by
  apply magnitude_ofMagnitude
  split
  · decide
  · exact (roundMagnitude_le n d).trans_lt infinityMagnitude_lt

theorem significand_lt (x : Binary64) : x.significand < 2 ^ 53 := by
  unfold significand
  split <;> omega

theorem scale_add_significand (x : Binary64) : x.scale * 2 ^ 52 + x.significand = x.magnitude := by
  unfold scale significand
  split <;> omega

theorem fits_numerator (x : Binary64) : Fits x.numerator 1 x.scale := by
  refine ⟨?_, ?_⟩
  · rw [Nat.one_mul]
    exact Nat.mul_lt_mul_of_pos_right x.significand_lt (Nat.two_pow_pos _)
  · rcases Nat.eq_zero_or_pos x.scale with h0 | hpos
    · exact Or.inl h0
    · right
      have hsig : 2 ^ 52 ≤ x.significand := by
        unfold scale at hpos
        unfold significand
        split <;> omega
      calc 2 ^ 53 * (1 * 2 ^ (x.scale - 1)) = 2 ^ 52 * 2 ^ (x.scale - 1 + 1) := by ring
        _ = 2 ^ 52 * 2 ^ x.scale := by rw [Nat.sub_add_cancel hpos]
        _ ≤ x.numerator := Nat.mul_le_mul_right _ hsig

theorem roundQuotient_mul_self (n : Nat) {k : Nat} (hk : 0 < k) : roundQuotient (n * k) k = n := by
  simp [roundQuotient, Nat.mul_div_cancel n hk, hk]

/-- A finite number is the one nearest to its own value. -/
theorem roundMagnitude_numerator (hx : x.isFinite = true) :
    roundMagnitude x.numerator unit = x.magnitude := by
  have hfits : Fits (x.numerator * unit) unit x.scale := by
    rw [Nat.mul_comm, ← Nat.mul_one unit, Nat.mul_assoc, Nat.one_mul]
    exact (fits_mul_left unit_pos).mpr x.fits_numerator
  have hlt : x.magnitude < infinityMagnitude := by simpa [isFinite] using hx
  rw [roundMagnitude_of_fits unit_pos hfits, Nat.mul_comm x.numerator,
    roundQuotient_mul_left unit_pos, numerator, roundQuotient_mul_self _ (Nat.two_pow_pos _),
    x.scale_add_significand, Nat.min_eq_left hlt.le]

theorem numerator_eq_zero : x.numerator = 0 ↔ x.magnitude = 0 := by
  have hpow : 2 ^ x.scale ≠ 0 := (Nat.two_pow_pos _).ne'
  have hsum := x.scale_add_significand
  simp only [numerator, Nat.mul_eq_zero, hpow, or_false]
  constructor
  · intro h
    unfold significand at h
    split at h <;> omega
  · omega

theorem magnitude_ofRatio_numerator (hx : x.isFinite = true) (negative : Bool) :
    (ofRatio negative x.numerator unit).magnitude = x.magnitude := by
  rw [magnitude_ofRatio]
  split
  case isTrue h => exact (numerator_eq_zero.mp h).symm
  case isFalse h => exact roundMagnitude_numerator hx

theorem le_roundQuotient (n d : Nat) : n / d ≤ roundQuotient n d := by
  simp only [roundQuotient]
  split
  · exact le_rfl
  · split <;> omega

theorem roundMagnitude_of_large {k : Nat} (hk : 1024 ≤ k) (hd : 0 < d) (h : 2 ^ k * d ≤ n) :
    roundMagnitude n d = infinityMagnitude := by
  obtain ⟨p, hp⟩ := exists_fits (n * unit) hd
  have hlow : d * 2 ^ (k + 1074) ≤ n * unit := by
    calc d * 2 ^ (k + 1074) = d * (2 ^ k * unit) := by rw [two_pow_mul_unit]
      _ = 2 ^ k * d * unit := by rw [Nat.mul_left_comm, Nat.mul_assoc]
      _ ≤ n * unit := Nat.mul_le_mul_right _ h
  have hpow : 2046 ≤ p := by
    by_contra hlt
    have hle : 2 ^ (53 + p) ≤ 2 ^ (k + 1074) := Nat.pow_le_pow_right (by omega) (by omega)
    have hhigh : n * unit < d * 2 ^ (53 + p) := by
      calc n * unit < 2 ^ 53 * (d * 2 ^ p) := hp.1
        _ = d * 2 ^ (53 + p) := by ring
    exact absurd (hlow.trans_lt hhigh) (Nat.not_lt.mpr (Nat.mul_le_mul_left d hle))
  have hquot : 2 ^ 52 ≤ roundQuotient (n * unit) (d * 2 ^ p) := by
    refine le_trans ?_ (le_roundQuotient _ _)
    rw [Nat.le_div_iff_mul_le (Nat.mul_pos hd (Nat.two_pow_pos p))]
    calc 2 ^ 52 * (d * 2 ^ p) = 2 ^ 52 * (d * 2 ^ (p - 1 + 1)) := by
          rw [Nat.sub_add_cancel (by omega : 1 ≤ p)]
      _ = 2 ^ 53 * (d * 2 ^ (p - 1)) := by ring
      _ ≤ n * unit := hp.2.resolve_left (by omega)
  rw [roundMagnitude_of_fits hd hp]
  apply Nat.min_eq_right
  unfold infinityMagnitude
  omega

theorem roundMagnitude_of_small (h : 2 * (n * unit) < d) : roundMagnitude n d = 0 := by
  have hd : 0 < d := by omega
  have hfits : Fits (n * unit) d 0 := ⟨by omega, Or.inl rfl⟩
  have hlt : n * unit < d := by omega
  rw [roundMagnitude_of_fits hd hfits]
  simp [roundQuotient, Nat.div_eq_of_lt hlt, Nat.mod_eq_of_lt hlt, h]

theorem two_pow_le_ten_pow (k : Nat) : 2 ^ (3 * k) ≤ 10 ^ k := by
  rw [Nat.pow_mul]
  exact Nat.pow_le_pow_left (by decide) k

/-- A decimal is rounded from its exact value, also where its power of ten is cut short. -/
theorem ofDecimal_eq_ofRatio (negative : Bool) (n : Nat) (e : Int) :
    ofDecimal negative n e = ofRatio negative (n * 10 ^ e.toNat) (10 ^ (-e).toNat) := by
  unfold ofDecimal
  split_ifs with hn hlarge hsmall hsign
  · simp [hn, ofRatio, zero]
  · have hexp : (-e).toNat = 0 := by omega
    have hbound : 2 ^ (3 * e.toNat) * 1 ≤ n * 10 ^ e.toNat := by
      calc 2 ^ (3 * e.toNat) * 1 = 2 ^ (3 * e.toNat) := Nat.mul_one _
        _ ≤ 10 ^ e.toNat := two_pow_le_ten_pow _
        _ ≤ n * 10 ^ e.toNat := Nat.le_mul_of_pos_left _ (Nat.pos_of_ne_zero hn)
    have hne : n * 10 ^ e.toNat ≠ 0 := by positivity
    rw [hexp, Nat.pow_zero, ofRatio, if_neg hne, 
      roundMagnitude_of_large (by omega) Nat.one_pos hbound]
    rfl
  · have hexp : e.toNat = 0 := by omega
    have hbound : 2 * (n * unit) < 10 ^ (-e).toNat := by
      calc 2 * (n * unit) < 2 * (2 ^ (n.log2 + 1) * unit) :=
            Nat.mul_lt_mul_of_pos_left
              (Nat.mul_lt_mul_of_pos_right Nat.lt_log2_self unit_pos) Nat.two_pos
        _ = 2 ^ (n.log2 + 1 + 1074 + 1) := by
            rw [two_pow_mul_unit, Nat.mul_comm]
            exact (Nat.pow_succ ..).symm
        _ ≤ 2 ^ (3 * (-e).toNat) := Nat.pow_le_pow_right (by omega) (by omega)
        _ ≤ 10 ^ (-e).toNat := two_pow_le_ten_pow _
    rw [hexp, Nat.pow_zero, Nat.mul_one, ofRatio, if_neg hn, roundMagnitude_of_small hbound]
    rfl
  · rw [show (-e).toNat = 0 by omega, Nat.pow_zero]
  · rw [show e.toNat = 0 by omega, Nat.pow_zero, Nat.mul_one]

end TagSieve.Binary64

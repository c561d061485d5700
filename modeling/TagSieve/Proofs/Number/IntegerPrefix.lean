import Mathlib.Algebra.Group.Int.Defs
import Mathlib.Data.List.TakeWhile
import TagSieve.Number.Prefix

/-! The integer at the front of a text is the number that its digits denote, moved into the range
of 64 bits once: saturating at every digit comes to the same. -/
namespace TagSieve

variable {cs body front digits : List Char} {negative : Bool} {p : List Char → Prop} {c : Char}

/-- The blanks of C: space, tab, line feed, vertical tab, form feed and carriage return. -/
def cBlanks : List Char := [' ', '\t', '\n', '\x0b', '\x0c', '\r']

/-- What stands in a text behind any blanks and one sign, if there is one. -/
inductive BehindSign : List Char → Bool → List Char → Prop
  | minus (body : List Char) : BehindSign ('-' :: body) true body
  | plus (body : List Char) : BehindSign ('+' :: body) false body
  | unsigned {body : List Char} (h : ∀ c ∈ body.head?, c ∉ cBlanks ∧ c ≠ '-' ∧ c ≠ '+') :
    BehindSign body false body
  | blank {c : Char} {cs body : List Char} {negative : Bool} (hc : c ∈ cBlanks)
    (h : BehindSign cs negative body) : BehindSign (c :: cs) negative body

theorem isNumberBlank_iff : isNumberBlank c = true ↔ c ∈ cBlanks := by
  simp [isNumberBlank, cBlanks, or_assoc]

theorem splitSign_of_head (h : ∀ c ∈ body.head?, c ≠ '-' ∧ c ≠ '+') :
    splitSign body = (false, body) := by
  unfold splitSign
  split
  · exact absurd rfl (h '-' rfl).1
  · exact absurd rfl (h '+' rfl).2
  · rfl

theorem behindSign_iff :
    BehindSign cs negative body ↔ splitSign (cs.dropWhile isNumberBlank) = (negative, body) := by
  constructor
  · intro h
    induction h with
    | minus body | plus body => rfl
    | @unsigned body h =>
      have hdrop : body.dropWhile isNumberBlank = body := by
        cases body with
        | nil => rfl
        | cons c body =>
          have hc := mt isNumberBlank_iff.mp (h c rfl).1
          exact List.dropWhile_cons_of_neg hc
      rw [hdrop]
      exact splitSign_of_head fun c hc => (h c hc).2
    | blank hc _ ih => rwa [List.dropWhile_cons_of_pos (isNumberBlank_iff.mpr hc)]
  · intro h
    induction cs with
    | nil =>
      cases h
      exact .unsigned nofun
    | cons c cs ih =>
      by_cases hc : isNumberBlank c = true
      · rw [List.dropWhile_cons_of_pos hc] at h
        exact .blank (isNumberBlank_iff.mp hc) (ih h)
      · rw [List.dropWhile_cons_of_neg hc] at h
        unfold splitSign at h
        split at h
        next heq =>
          cases h
          exact heq ▸ .minus _
        next heq =>
          cases h
          exact heq ▸ .plus _
        next hminus hplus =>
          cases h
          refine .unsigned ?_
          rintro d ⟨⟩
          refine ⟨mt isNumberBlank_iff.mpr hc, ?_, ?_⟩
          · rintro rfl
            exact hminus cs rfl
          · rintro rfl
            exact hplus cs rfl

theorem exists_behindSign (cs : List Char) : ∃ negative body, BehindSign cs negative body :=
  ⟨_, _, behindSign_iff.mpr rfl⟩

theorem BehindSign.length_le (h : BehindSign cs negative body) : body.length ≤ cs.length := by
  induction h with
  | minus | plus => exact Nat.le_succ _
  | unsigned => exact Nat.le_refl _
  | blank _ _ ih => exact Nat.le_succ_of_le ih

/-- The longest text of a kind that another one starts with. -/
structure IsLongest (p : List Char → Prop) (front cs : List Char) : Prop where
  isPrefix : front <+: cs
  kind : p front
  length_le : ∀ other, other <+: cs → p other → other.length ≤ front.length

theorem IsLongest.unique {other : List Char} (h : IsLongest p front cs)
    (h' : IsLongest p other cs) : front = other := by
  have hlen : front.length = other.length :=
    Nat.le_antisymm (h'.length_le _ h.isPrefix h.kind) (h.length_le _ h'.isPrefix h'.kind)
  exact (List.prefix_of_prefix_length_le h.isPrefix h'.isPrefix (Nat.le_of_eq hlen)).eq_of_length hlen

def IsDigits (cs : List Char) : Prop := ∀ c ∈ cs, c.isDigit = true

instance : Decidable (IsDigits cs) := List.decidableBAll _ cs

theorem isLongest_takeWhile (cs : List Char) :
    IsLongest IsDigits (cs.takeWhile Char.isDigit) cs := by
  refine ⟨List.takeWhile_prefix _, fun c hc => List.mem_takeWhile_imp hc, ?_⟩
  rintro other ⟨rest, rfl⟩ hdigits
  rw [List.takeWhile_append_of_pos hdigits, List.length_append]
  exact Nat.le_add_right _ _

theorem takeWhile_of_isLongest (h : IsLongest IsDigits digits cs) :
    cs.takeWhile Char.isDigit = digits := (isLongest_takeWhile cs).unique h

/-- A size with a sign. -/
def signed (negative : Bool) (n : Nat) : Int := if negative then -n else n

/-- A number moved into the range of 64 bits. -/
def clamp (i : Int) : Int := max (-2 ^ 63) (min i (2 ^ 63 - 1))

theorem toInt_saturate (i : Int) : (saturate i).toInt = clamp i := by
  have hlow : -2 ^ 63 ≤ clamp i := Int.le_max_left _ _
  have hhigh : clamp i < 2 ^ 63 := by
    unfold clamp
    omega
  exact Int64.toInt_ofInt_of_le hlow hhigh

/-- Saturating before a digit is appended loses nothing, since a number beyond the range stays
there. -/
theorem clamp_append (n d : Nat) :
    clamp (clamp (clamp n * 10) + d) = clamp (10 * n + d) ∧
      clamp (clamp (clamp (-n) * 10) - d) = clamp (-(10 * n + d)) := by
  unfold clamp
  omega

theorem toInt_appendDigit {value : Int64} {n : Nat} (h : value.toInt = clamp (signed negative n))
    (c : Char) : (appendDigit negative value c).toInt =
      clamp (signed negative (10 * n + digitValue c)) := by
  obtain ⟨hplus, hminus⟩ := clamp_append n (digitValue c)
  cases negative with
  | false => simpa [appendDigit, toInt_saturate, h, signed] using hplus
  | true => simpa [appendDigit, toInt_saturate, h, signed] using hminus

theorem toInt_foldl_appendDigit (cs : List Char) {value : Int64} {n : Nat}
    (h : value.toInt = clamp (signed negative n)) :
    (cs.foldl (appendDigit negative) value).toInt =
      clamp (signed negative (cs.foldl (fun n c => 10 * n + digitValue c) n)) := by
  induction cs generalizing value n with
  | nil => exact h
  | cons c cs ih => exact ih (toInt_appendDigit h c)

theorem toInt_integerPrefix (h : BehindSign cs negative body) (hd : IsLongest IsDigits digits body) :
    (integerPrefix cs).toInt = clamp (signed negative (digitsValue digits)) := by
  have hzero : (0 : Int64).toInt = clamp (signed negative 0) := by cases negative <;> rfl
  unfold integerPrefix
  rw [behindSign_iff.mp h]
  dsimp only
  rw [takeWhile_of_isLongest hd]
  exact toInt_foldl_appendDigit digits hzero

theorem clamp_mono {i j : Int} (h : i ≤ j) : clamp i ≤ clamp j := by
  unfold clamp
  omega

theorem isLongest_self (h : IsDigits digits) : IsLongest IsDigits digits digits :=
  ⟨List.prefix_refl _, h, fun _ hother _ => hother.length_le⟩

theorem plain_of_isDigit (h : c.isDigit = true) : c ∉ cBlanks ∧ c ≠ '-' ∧ c ≠ '+' := by
  refine ⟨?_, ?_, ?_⟩
  · intro hc
    simp only [cBlanks, List.mem_cons, List.not_mem_nil, or_false] at hc
    rcases hc with rfl | rfl | rfl | rfl | rfl | rfl <;> cases h
  · rintro rfl
    cases h
  · rintro rfl
    cases h

theorem toInt_integerPrefix_digits (h : IsDigits digits) :
    (integerPrefix digits).toInt = clamp (digitsValue digits) ∧
      (integerPrefix ('-' :: digits)).toInt = clamp (-digitsValue digits) := by
  have hhead : ∀ c ∈ digits.head?, c ∉ cBlanks ∧ c ≠ '-' ∧ c ≠ '+' :=
    fun c hc => plain_of_isDigit (h c (List.mem_of_mem_head? hc))
  exact ⟨toInt_integerPrefix (.unsigned hhead) (isLongest_self h),
    toInt_integerPrefix (.minus digits) (isLongest_self h)⟩

/-- Behind blanks and a sign the longest run of digits is read as the number that it denotes, moved
into the range of 64 bits, and as zero if it is empty. So runs of digits of any length are read in
the order of the numbers that they denote. -/
theorem integerPrefix_exact :
    (∀ cs, ∃ negative body digits, BehindSign cs negative body ∧ IsLongest IsDigits digits body) ∧
    (∀ cs negative body digits, BehindSign cs negative body → IsLongest IsDigits digits body →
      (integerPrefix cs).toInt =
        max (-2 ^ 63) (min (signed negative (digitsValue digits)) (2 ^ 63 - 1)) ∧
      (digits = [] → integerPrefix cs = 0)) ∧
    (∀ digits digits', IsDigits digits → IsDigits digits' →
      digitsValue digits ≤ digitsValue digits' →
      (integerPrefix digits).toInt ≤ (integerPrefix digits').toInt ∧
        (integerPrefix ('-' :: digits')).toInt ≤ (integerPrefix ('-' :: digits)).toInt) := by
  refine ⟨?_, ?_, ?_⟩
  · intro cs
    obtain ⟨negative, body, h⟩ := exists_behindSign cs
    exact ⟨negative, body, _, h, isLongest_takeWhile body⟩
  · intro cs negative body digits h hd
    have hvalue := toInt_integerPrefix h hd
    refine ⟨hvalue, ?_⟩
    rintro rfl
    apply Int64.toInt_inj.mp
    rw [hvalue]
    cases negative <;> rfl
  · intro digits digits' hd hd' hle
    obtain ⟨hplus, hminus⟩ := toInt_integerPrefix_digits hd
    obtain ⟨hplus', hminus'⟩ := toInt_integerPrefix_digits hd'
    rw [hplus, hminus, hplus', hminus']
    exact ⟨clamp_mono (by omega), clamp_mono (by omega)⟩

/-- A number below the range behind a blank, with a zero in front and a word behind it. -/
def saturatedChars : List Char := "\t-09223372036854775809th".toList

def saturatedDigits : List Char := "09223372036854775809".toList

theorem integerPrefix_exact_saturated :
    BehindSign saturatedChars true (saturatedDigits ++ ['t', 'h']) ∧
      IsLongest IsDigits saturatedDigits (saturatedDigits ++ ['t', 'h']) ∧
      (integerPrefix saturatedChars).toInt = -2 ^ 63 := by
  obtain ⟨-, hvalue, -⟩ := integerPrefix_exact
  have hsign : BehindSign saturatedChars true (saturatedDigits ++ ['t', 'h']) :=
    behindSign_iff.mpr (by decide)
  have hdigits : IsLongest IsDigits saturatedDigits (saturatedDigits ++ ['t', 'h']) :=
    isLongest_takeWhile (saturatedDigits ++ ['t', 'h'])
  obtain ⟨hclamped, -⟩ := hvalue _ _ _ _ hsign hdigits
  refine ⟨hsign, hdigits, hclamped.trans ?_⟩
  decide

end TagSieve

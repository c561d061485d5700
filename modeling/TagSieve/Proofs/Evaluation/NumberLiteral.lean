import TagSieve.Proofs.Evaluation.Selectors
import TagSieve.Proofs.Grammar.Composition
import TagSieve.Proofs.Number.FloatPrefix
import TagSieve.Proofs.Token.NumberLiteral

/-! A number in a filter and a tag with the same text are the same number. The reader of filters is
strict and that of tags takes what it can, so they differ on numbers beyond the range. -/
namespace TagSieve

variable {cs more ds fs body : List Char} {negative : Bool} {v : Value} {n : Int64}
  {x : Binary64} {w name : String}

/-- Texts that no number goes on into. -/
def EndsNumber (more : List Char) : Prop :=
  ∀ c ∈ more.head?, c.isDigit = false ∧ c ≠ '.' ∧ c ≠ 'e' ∧ c ≠ 'E'

theorem IsSolid.behindSign_append (hw : IsSolid cs) (hsign : splitSign cs = (negative, body))
    (hne : body ≠ []) (more : List Char) : BehindSign (cs ++ more) negative (body ++ more) := by
  have hcs : cs ≠ [] := by
    rintro rfl
    cases hsign
    exact hne rfl
  obtain ⟨c, cs, rfl⟩ := List.exists_cons_of_ne_nil hcs
  obtain ⟨hsplit, -⟩ := splitSign_cons_append c cs more
  rw [hsign] at hsplit
  refine (behindSign_of_head ?_).mpr hsplit
  rintro d ⟨⟩
  exact hw c List.mem_cons_self

theorem isLongest_digits (hds : IsDigits ds) (hmore : EndsNumber more) :
    IsLongest IsDigits ds (ds ++ more) := by
  obtain ⟨htake, -⟩ := takeWhile_run hds more fun c hc => (hmore c hc).1
  have hlongest := isLongest_takeWhile (ds ++ more)
  rwa [htake] at hlongest

theorem integerPrefix_of_digits (h : BehindSign cs negative (ds ++ more)) (hds : IsDigits ds)
    (hn : n.toInt = signed negative (digitsValue ds)) (hmore : EndsNumber more) :
    integerPrefix cs = n := by
  have hlow : -2 ^ 63 ≤ n.toInt := Int64.le_toInt n
  have hhigh : n.toInt < 2 ^ 63 := Int64.toInt_lt n
  apply Int64.toInt_inj.mp
  rw [toInt_integerPrefix h (isLongest_digits hds hmore), ← hn, clamp]
  omega

theorem numeral_value_eq (negative : Bool) (m : Numeral) :
    m.value negative = .ofMagnitude negative (m.value false).magnitude :=
  Binary64.ofDecimal_eq_ofMagnitude negative _ _

theorem magnitude_numeral_le (negative : Bool) (m : Numeral) :
    (m.value negative).magnitude ≤ Binary64.infinityMagnitude := by
  rw [Numeral.value, Binary64.ofDecimal_eq_ofRatio, Binary64.magnitude_ofRatio]
  split
  · exact Nat.zero_le _
  · exact Binary64.roundMagnitude_le _ _

theorem isNaN_numeral (negative : Bool) (m : Numeral) : (m.value negative).isNaN = false :=
  decide_eq_false (Nat.not_lt.mpr (magnitude_numeral_le negative m))

theorem isNegative_numeral (m : Numeral) : (m.value false).isNegative = false := by
  rw [numeral_value_eq]
  exact Binary64.isNegative_ofMagnitude false
    ((magnitude_numeral_le false m).trans_lt Binary64.infinityMagnitude_lt)

theorem signUnit_mul_numeral (negative : Bool) (m : Numeral) :
    (Binary64.signUnit negative).mul (m.value false) = m.value negative := by
  rw [Binary64.signUnit_mul negative (isNaN_numeral false m) (isNegative_numeral m),
    ← numeral_value_eq]

theorem isMantissa_pointed (hds : IsDigits ds) (hfs : IsDigits fs) (hne : ds ≠ [] ∨ fs ≠ []) :
    IsMantissa (ds ++ '.' :: fs) := by
  by_cases hempty : ds = []
  · subst hempty
    exact .point hfs (hne.resolve_left (absurd rfl))
  · exact .pointed hds hempty hfs

theorem ofText?_pointed (hds : IsDigits ds) (hfs : IsDigits fs) (hne : ds ≠ [] ∨ fs ≠ [])
    (hsign : splitSign cs = (negative, ds ++ '.' :: fs)) :
    Binary64.ofText? cs = some (Numeral.value negative ⟨ds, fs, 0⟩) := by
  have hstarts := (isMantissa_pointed hds hfs hne).startsNumeral []
  have hnumeral := numeral?_pointed hds hfs hne endsMantissa_nil
  rw [List.append_nil] at hstarts hnumeral
  rw [ofText?_of_splitSign hsign hstarts, hnumeral]
  rfl

theorem floatPrefix_of_pointed (h : BehindSign cs negative ((ds ++ '.' :: fs) ++ more))
    (hds : IsDigits ds) (hfs : IsDigits fs) (hne : ds ≠ [] ∨ fs ≠ []) (hmore : EndsNumber more) :
    floatPrefix cs = Numeral.value negative ⟨ds, fs, 0⟩ := by
  have hmantissa := isMantissa_pointed hds hfs hne
  have hlongest : IsLongest IsNumeral _ ((ds ++ '.' :: fs) ++ more) := isLongest_mantissa hmantissa
    (fun c hc => ⟨(hmore c hc).1, (hmore c hc).2.1⟩) (fun c hc => (hmore c hc).2.2)
  have hstarts := hmantissa.startsNumeral []
  rw [List.append_nil] at hstarts
  have hunsigned := splitSign_of_head fun c hc => (hstarts.head? c hc).2
  have hfront : FloatFront negative _ _ :=
    .numeral hlongest (ofText?_pointed hds hfs hne hunsigned)
  rw [floatPrefix_of_floatFront h hfront, signUnit_mul_numeral]

/-- A filter that compares a tag with a literal. -/
def equalsChars (name : String) (literal : List Char) : List Char :=
  (TagKey.mk name .unset).chars ++ ' ' :: (Operator.equal.chars ++ ' ' :: literal)

theorem spelled_of_lexes (h : Lexes w [.start, .value v]) (hw : IsSolid w.toList) :
    Spelled True w.toList [.value v] := by
  obtain ⟨n, hread⟩ := readToken_of_lexes h hw
  intro more hmore
  refine ⟨fun _ => ?_, fun h => absurd trivial h⟩
  have hspells : Spells w.toList [.value v] [] :=
    .cons (hw.skipBlanks.symm ▸ hread) nofun (.nil [])
  exact hspells.extend hmore

theorem comparable_tag_number (key : TagKey) (hv : v.isNumber = true) :
    Comparable (.tag key) .equal v := by
  cases v with
  | integer | float => exact ⟨nofun, fun _ => ⟨rfl, rfl⟩, Or.inl rfl, nofun, nofun⟩
  | _ => cases hv

/-- Every record with this value of a tag satisfies the filter that compares the tag with the
literal. -/
def EqualAsTag (literal : String) (value : List Char) : Prop :=
  ∀ name : String, Escaped.Closable name.toList →
    ∃ f, (Filter.parse (String.ofList (equalsChars name literal.toList))).result = .ok f ∧
      ∀ r : Record, r.lookup name = [String.ofList value] → f.accepts r = true

theorem holds_equal_tag {view : View} {value : String} {s : Scalar} (span a b : Span)
    (hlookup : view.lookup name = [value]) (hv : v ≠ .undef)
    (hresolve : (view.resolve v).result = .one s)
    (heq : (Domain.of (.tag ⟨name, .unset⟩) v).compare? (.text value) s = some .eq) :
    (Expr.comparison span .equal ⟨.tag ⟨name, .unset⟩, a⟩ ⟨v, b⟩).holds view = true := by
  have hne : view.lookup name ≠ [] := by rw [hlookup]; nofun
  have hjoin : joinSeparator.intercalate [value] = value := by simp
  have hselect : View.select (view.lookup name) .unset = .one (.text value) := by
    rw [hlookup, View.select, hjoin]
  rw [Expr.holds_comparison _ rfl, View.comparison_of_ne_undef _ (Value.tag_ne_undef _) hv,
    View.result_compareValues, hresolve, View.resolve, View.resolveTag_of_ne_nil hne, hselect]
  simp only [Resolved.isUndefined, Resolved.satisfies, heq]
  rfl

theorem equalAsTag_of_compare {value : List Char} (h : Lexes w [.start, .value v])
    (hw : IsSolid w.toList) (hv : v.isNumber = true)
    (heq : ∀ view : View, ∃ s, (view.resolve v).result = .one s ∧ ∀ key,
      (Domain.of (.tag key) v).compare? (.text (String.ofList value)) s = some .eq) :
    EqualAsTag w value := by
  intro name hname
  have hkey : Spelled True _ [.value (.tag ⟨name, .unset⟩)] :=
    .symbol (s := .value (.tag ⟨name, .unset⟩)) ⟨hname, trivial⟩
  have hright := (Spelled.symbol (s := .operator .equal) trivial).spaced (spelled_of_lexes h hw)
    (List.cons_ne_nil _ _)
  have hwhole := (hkey.spaced hright (List.cons_ne_nil _ _)).congr (q := True) (by simp)
  obtain ⟨f, hf, -, hholds⟩ := Filter.composes_of_spelled
    (d := .single (.single (.comparison (.tag ⟨name, .unset⟩) .equal v))) String.toList_ofList hwhole
    (comparable_tag_number _ hv) fun _ => rfl
  refine ⟨f, hf, fun r hr => ?_⟩
  obtain ⟨s, hresolve, hcompare⟩ := heq r.view
  have hundef : v ≠ .undef := by
    rintro rfl
    cases hv
  exact (hholds r.view).trans (holds_equal_tag .zero .zero .zero hr hundef hresolve (hcompare _))

theorem equalAsTag_integer {value : List Char} (h : Lexes w [.start, .value (.integer n)])
    (hw : IsSolid w.toList) (hvalue : integerPrefix value = n) : EqualAsTag w value := by
  refine equalAsTag_of_compare h hw rfl fun view => ⟨_, rfl, fun key => ?_⟩
  simp [Domain.of, Domain.compare?, Scalar.toInteger, hvalue]

theorem equalAsTag_float {value : List Char} (h : Lexes w [.start, .value (.float x)])
    (hw : IsSolid w.toList) (hnan : x.isNaN = false) (hvalue : floatPrefix value = x) :
    EqualAsTag w value := by
  refine equalAsTag_of_compare h hw rfl fun view => ⟨_, rfl, fun key => ?_⟩
  simp [Domain.of, Domain.compare?, Scalar.toFloat, hvalue, Binary64.compare?, hnan]

theorem integer_agrees (h : Lexes w [.start, .value (.integer n)]) (hw : IsSolid w.toList) :
    ∃ negative digits, BehindSign w.toList negative digits ∧ IsDigits digits ∧
      n.toInt = signed negative (digitsValue digits) ∧
      ∀ more, EndsNumber more → integerPrefix (w.toList ++ more) = n ∧
        EqualAsTag w (w.toList ++ more) := by
  obtain ⟨negative, digits, hsign⟩ : ∃ negative digits, splitSign w.toList = (negative, digits) :=
    ⟨_, _, rfl⟩
  obtain ⟨hnumber, -⟩ := numberOf?_of_lexes h hw rfl hsign
  obtain ⟨hdigits, hne, hn⟩ := numberOf?_eq_integer hnumber
  refine ⟨negative, digits, (behindSign_of_head hw.head?).mpr hsign, hdigits, hn, ?_⟩
  intro more hmore
  have hvalue := integerPrefix_of_digits (hw.behindSign_append hsign hne more) hdigits hn hmore
  exact ⟨hvalue, equalAsTag_integer h hw hvalue⟩

theorem float_agrees (h : Lexes w [.start, .value (.float x)]) (hw : IsSolid w.toList) :
    Binary64.ofText? w.toList = some x ∧ ∀ more, EndsNumber more →
      floatPrefix (w.toList ++ more) = x ∧ EqualAsTag w (w.toList ++ more) := by
  obtain ⟨negative, body, hsign⟩ : ∃ negative body, splitSign w.toList = (negative, body) :=
    ⟨_, _, rfl⟩
  obtain ⟨hnumber, hchars⟩ := numberOf?_of_lexes h hw rfl hsign
  obtain ⟨ds, fs, rfl, hds, hfs, hne, rfl⟩ := numberOf?_eq_float hchars hnumber
  refine ⟨ofText?_pointed hds hfs hne hsign, fun more hmore => ?_⟩
  have hbehind := hw.behindSign_append hsign (isMantissa_pointed hds hfs hne).ne_nil more
  have hvalue := floatPrefix_of_pointed hbehind hds hfs hne hmore
  exact ⟨hvalue, equalAsTag_float h hw (isNaN_numeral _ _) hvalue⟩

/-- Number literals and tags agree. A literal is an integer of 64 bits with the value of its digits
or the float that its text denotes; a tag with the same text, and anything behind it that does not
go on with the number, is read as the same number, so that it equals the literal. Digits beyond the
range of integers are an error over all of their text and no literal. -/
theorem numberLiteral_agrees :
    (∀ w n, IsSolid w.toList → Lexes w [.start, .value (.integer n)] →
      ∃ negative digits, BehindSign w.toList negative digits ∧ IsDigits digits ∧
        n.toInt = signed negative (digitsValue digits) ∧
        ∀ more, EndsNumber more → integerPrefix (w.toList ++ more) = n ∧
          EqualAsTag w (w.toList ++ more)) ∧
    (∀ w x, IsSolid w.toList → Lexes w [.start, .value (.float x)] →
      Binary64.ofText? w.toList = some x ∧ ∀ more, EndsNumber more →
        floatPrefix (w.toList ++ more) = x ∧ EqualAsTag w (w.toList ++ more)) ∧
    (∀ w negative digits, IsSolid w.toList → BehindSign w.toList negative digits →
      IsDigits digits → digits.head? ≠ some '0' →
      signed negative (digitsValue digits) < -2 ^ 63 ∨
        2 ^ 63 ≤ signed negative (digitsValue digits) →
      (Lexer.ofString w).calls 2 = [.ok ⟨.start, ⟨0, 0⟩⟩,
        .error ⟨.invalidNumber w, ⟨0, w.toList.length⟩⟩]) := by
  refine ⟨fun w n hw h => integer_agrees h hw, fun w x hw h => float_agrees h hw, ?_⟩
  intro w negative digits hw hsign hdigits hzero hrange
  exact Lexer.calls_outOfRange hw ((behindSign_of_head hw.head?).mp hsign) hdigits hzero hrange

/-- The smallest integer. -/
def lowestLiteral : List Char := "-9223372036854775808".toList

/-- A float without digits before its point. -/
def halfLiteral : List Char := "+.5".toList

/-- The smallest integer without its sign is beyond the range. -/
def unsignedLiteral : List Char := "9223372036854775808".toList

theorem lexes_of_reads {ts : List Token} {span : Span} (h : (Lexer.ofChars cs).Reads ts span) :
    Lexes (String.ofList cs) (ts.map Token.symbol) := by
  refine ⟨ts, span, ?_, rfl⟩
  rwa [Lexer.ofString, String.toList_ofList]

theorem lexes_lowestLiteral :
    Lexes (String.ofList lowestLiteral) [.start, .value (.integer Int64.minValue)] := by
  have hreads : (Lexer.ofChars lowestLiteral).Reads
      [⟨.start, ⟨0, 0⟩⟩, ⟨.value (.integer Int64.minValue), ⟨0, 20⟩⟩] ⟨20, 20⟩ :=
    Lexer.reads_of_calls (by decide) (by decide +kernel)
  exact lexes_of_reads hreads

theorem lexes_halfLiteral :
    Lexes (String.ofList halfLiteral) [.start, .value (.float ⟨0x3fe0000000000000⟩)] := by
  have hreads : (Lexer.ofChars halfLiteral).Reads
      [⟨.start, ⟨0, 0⟩⟩, ⟨.value (.float ⟨0x3fe0000000000000⟩), ⟨0, 3⟩⟩] ⟨3, 3⟩ :=
    Lexer.reads_of_calls (by decide) (by decide +kernel)
  exact lexes_of_reads hreads

theorem numberLiteral_agrees_lowest :
    EqualAsTag (String.ofList lowestLiteral) (lowestLiteral ++ [' ', 'd', 'B']) ∧
      EqualAsTag (String.ofList halfLiteral) (halfLiteral ++ ['/', '5']) ∧
      (Lexer.ofString (String.ofList unsignedLiteral)).calls 2 = [.ok ⟨.start, ⟨0, 0⟩⟩,
        .error ⟨.invalidNumber (String.ofList unsignedLiteral), ⟨0, 19⟩⟩] := by
  obtain ⟨hinteger, hfloat, hrange⟩ := numberLiteral_agrees
  have hlowest := hinteger _ _ (by rw [String.toList_ofList]; decide +kernel) lexes_lowestLiteral
  have hhalf := hfloat _ _ (by rw [String.toList_ofList]; decide +kernel) lexes_halfLiteral
  have hunsigned := hrange (String.ofList unsignedLiteral) false unsignedLiteral
  rw [String.toList_ofList] at hlowest hhalf hunsigned
  obtain ⟨-, -, -, -, -, hlowest⟩ := hlowest
  refine ⟨(hlowest _ ?_).2, (hhalf.2 _ ?_).2, hunsigned ?_ ?_ ?_ ?_ ?_⟩
  · rintro c ⟨⟩
    decide
  · rintro c ⟨⟩
    decide
  · decide +kernel
  · exact behindSign_iff.mpr (by decide)
  · decide
  · decide
  · decide

end TagSieve

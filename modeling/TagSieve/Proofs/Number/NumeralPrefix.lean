import TagSieve.Proofs.Number.IntegerPrefix

/-! The numeral at the front of a text is the longest one, and it is a number as a whole text too.
-/
namespace TagSieve

variable {cs m x rest tail front ds fs : List Char} {negative : Bool} {c : Char}

/-- Digits with at most one point before, among or behind them. -/
inductive IsMantissa : List Char → Prop
  | whole {ds : List Char} (hds : IsDigits ds) (hne : ds ≠ []) : IsMantissa ds
  | pointed {ds fs : List Char} (hds : IsDigits ds) (hne : ds ≠ []) (hfs : IsDigits fs) :
    IsMantissa (ds ++ '.' :: fs)
  | point {fs : List Char} (hfs : IsDigits fs) (hne : fs ≠ []) : IsMantissa ('.' :: fs)

def IsSign (cs : List Char) : Prop := cs = [] ∨ cs = ['+'] ∨ cs = ['-']

inductive IsExponent : List Char → Prop
  | mk {e : Char} {sign ds : List Char} (he : e = 'e' ∨ e = 'E') (hsign : IsSign sign)
    (hds : IsDigits ds) (hne : ds ≠ []) : IsExponent (e :: (sign ++ ds))

inductive IsNumeral : List Char → Prop
  | plain {m : List Char} (hm : IsMantissa m) : IsNumeral m
  | scientific {m x : List Char} (hm : IsMantissa m) (hx : IsExponent x) : IsNumeral (m ++ x)

/-- Texts that the digits of a mantissa do not go on into. -/
def EndsMantissa (cs : List Char) : Prop := ∀ c ∈ cs.head?, c.isDigit = false ∧ c ≠ '.'

theorem endsMantissa_nil : EndsMantissa [] := nofun

theorem IsExponent.endsMantissa (h : IsExponent x) (tail : List Char) :
    EndsMantissa (x ++ tail) := by
  cases h with
  | mk he =>
    rintro c ⟨⟩
    rcases he with rfl | rfl <;> decide

theorem IsMantissa.any_isDigit (h : IsMantissa m) : m.any Char.isDigit = true := by
  have hany {ds : List Char} (hds : IsDigits ds) (hne : ds ≠ []) :
      ∃ c ∈ ds, c.isDigit = true := by
    obtain ⟨c, hc⟩ := List.exists_mem_of_ne_nil ds hne
    exact ⟨c, hc, hds c hc⟩
  rw [List.any_eq_true]
  cases h with
  | whole hds hne => exact hany hds hne
  | pointed hds hne =>
    obtain ⟨c, hc, hdigit⟩ := hany hds hne
    exact ⟨c, List.mem_append_left _ hc, hdigit⟩
  | point hfs hne =>
    obtain ⟨c, hc, hdigit⟩ := hany hfs hne
    exact ⟨c, List.mem_cons_of_mem _ hc, hdigit⟩

theorem takeWhile_digits_append (hds : IsDigits ds) (tail : List Char) :
    (ds ++ tail).takeWhile Char.isDigit = ds ++ tail.takeWhile Char.isDigit ∧
      (ds ++ tail).dropWhile Char.isDigit = tail.dropWhile Char.isDigit :=
  ⟨List.takeWhile_append_of_pos hds, List.dropWhile_append_of_pos hds⟩

theorem EndsMantissa.takeWhile (h : EndsMantissa tail) :
    tail.takeWhile Char.isDigit = [] ∧ tail.dropWhile Char.isDigit = tail := by
  cases tail with
  | nil => exact ⟨rfl, rfl⟩
  | cons c tail =>
    have hc : ¬ c.isDigit = true := by simp [(h c rfl).1]
    exact ⟨List.takeWhile_cons_of_neg hc, List.dropWhile_cons_of_neg hc⟩

theorem splitMantissa_digits (hds : IsDigits ds) (tail : List Char) :
    splitMantissa (ds ++ tail) = (ds ++ (splitMantissa tail).1, (splitMantissa tail).2) := by
  obtain ⟨htake, hdrop⟩ := takeWhile_digits_append hds tail
  unfold splitMantissa
  rw [htake, hdrop]
  dsimp only
  split <;> simp

theorem splitMantissa_point (hfs : IsDigits fs) (tail : List Char) :
    splitMantissa ('.' :: (fs ++ tail)) =
      ('.' :: (fs ++ tail.takeWhile Char.isDigit), tail.dropWhile Char.isDigit) := by
  obtain ⟨htake, hdrop⟩ := takeWhile_digits_append hfs tail
  rw [← htake, ← hdrop]
  rfl

theorem EndsMantissa.splitMantissa (h : EndsMantissa tail) :
    TagSieve.splitMantissa tail = ([], tail) := by
  obtain ⟨htake, hdrop⟩ := h.takeWhile
  unfold TagSieve.splitMantissa
  rw [htake, hdrop]
  dsimp only
  split
  next rest => exact absurd rfl (h '.' rfl).2
  next => rfl

/-- A mantissa in front of more text is the front of what is read, and all of it if the text behind
it does not go on with it. -/
theorem exists_splitMantissa (h : IsMantissa m) (tail : List Char) :
    ∃ more rest, splitMantissa (m ++ tail) = (m ++ more, rest) ∧
      (EndsMantissa tail → more = [] ∧ rest = tail) := by
  cases h with
  | whole hds =>
    refine ⟨_, _, splitMantissa_digits hds tail, fun htail => ?_⟩
    rw [htail.splitMantissa]
    exact ⟨rfl, rfl⟩
  | pointed hds _ hfs =>
    refine ⟨tail.takeWhile Char.isDigit, tail.dropWhile Char.isDigit, ?_, fun htail =>
      htail.takeWhile⟩
    rw [List.append_assoc, List.cons_append, splitMantissa_digits hds, splitMantissa_point hfs,
      List.append_assoc, List.cons_append]
  | point hfs =>
    exact ⟨_, _, splitMantissa_point hfs tail, fun htail => htail.takeWhile⟩

theorem splitMantissa_append (cs : List Char) :
    (splitMantissa cs).1 ++ (splitMantissa cs).2 = cs := by
  have hcs : cs.takeWhile Char.isDigit ++ cs.dropWhile Char.isDigit = cs :=
    List.takeWhile_append_dropWhile
  unfold splitMantissa
  dsimp only
  split
  next rest hdrop =>
    rw [List.append_assoc, List.cons_append, List.takeWhile_append_dropWhile, ← hdrop, hcs]
  next => exact hcs

theorem isMantissa_splitMantissa (h : (splitMantissa cs).1.any Char.isDigit = true) :
    IsMantissa (splitMantissa cs).1 := by
  have hdigits (cs : List Char) : IsDigits (cs.takeWhile Char.isDigit) :=
    fun c hc => List.mem_takeWhile_imp hc
  unfold splitMantissa at h ⊢
  dsimp only at h ⊢
  split at h
  next rest hdrop =>
    by_cases hwhole : cs.takeWhile Char.isDigit = []
    · rw [hwhole] at h ⊢
      refine .point (hdigits rest) fun hnil => ?_
      rw [hnil] at h
      cases h
    · exact .pointed (hdigits cs) hwhole (hdigits rest)
  next =>
    refine .whole (hdigits cs) fun hnil => ?_
    rw [hnil] at h
    cases h

theorem isSign_take (cs : List Char) : IsSign (cs.take (signSize cs)) := by
  unfold signSize
  split
  · exact Or.inr (Or.inr rfl)
  · exact Or.inr (Or.inl rfl)
  · exact Or.inl rfl

theorem signSize_append {sign : List Char} (hsign : IsSign sign)
    (hbody : ∀ c ∈ cs.head?, c ≠ '-' ∧ c ≠ '+') : signSize (sign ++ cs) = sign.length := by
  rcases hsign with rfl | rfl | rfl
  · rw [List.nil_append]
    unfold signSize
    split
    · exact absurd rfl (hbody '-' rfl).1
    · exact absurd rfl (hbody '+' rfl).2
    · rfl
  · rfl
  · rfl

/-- Digits are no signs. -/
theorem head?_append_of_isDigits (hds : IsDigits ds) (hne : ds ≠ []) (tail : List Char) :
    ∀ c ∈ (ds ++ tail).head?, c ≠ '-' ∧ c ≠ '+' := by
  intro c hc
  obtain ⟨d, ds, rfl⟩ := List.exists_cons_of_ne_nil hne
  obtain rfl : d = c := Option.some.inj hc
  exact (plain_of_isDigit (hds d List.mem_cons_self)).2

theorem exponentChars_append (h : IsExponent x) (tail : List Char) :
    exponentChars (x ++ tail) = x ++ tail.takeWhile Char.isDigit := by
  cases h with
  | @mk e sign ds he hsign hds hne =>
    have hsize := signSize_append hsign (head?_append_of_isDigits hds hne tail)
    obtain ⟨htake, -⟩ := takeWhile_digits_append hds tail
    rw [List.cons_append, List.append_assoc, exponentChars, hsize, List.drop_left, List.take_left,
      htake]
    simp [he, hne]

theorem exponentChars_cases (cs : List Char) :
    exponentChars cs = [] ∨ IsExponent (exponentChars cs) := by
  cases cs with
  | nil => exact Or.inl rfl
  | cons e rest =>
    rw [exponentChars]
    split
    case isTrue h =>
      exact Or.inr (.mk h.1 (isSign_take rest) (fun c hc => List.mem_takeWhile_imp hc) h.2)
    case isFalse => exact Or.inl rfl

theorem exponentChars_isPrefix (cs : List Char) : exponentChars cs <+: cs := by
  cases cs with
  | nil => exact List.nil_prefix
  | cons e rest =>
    rw [exponentChars]
    split
    case isTrue =>
      refine List.cons_prefix_cons.mpr ⟨rfl, ?_⟩
      conv => rhs; rw [← List.take_append_drop (signSize rest) rest]
      exact (List.prefix_append_right_inj _).mpr (List.takeWhile_prefix _)
    case isFalse => exact List.nil_prefix

theorem numeralChars_eq (cs : List Char) :
    numeralChars cs = if (splitMantissa cs).1.any Char.isDigit then
      (splitMantissa cs).1 ++ exponentChars (splitMantissa cs).2 else [] := rfl

theorem numeralChars_isPrefix (cs : List Char) : numeralChars cs <+: cs := by
  rw [numeralChars_eq]
  split
  · conv => rhs; rw [← splitMantissa_append cs]
    exact (List.prefix_append_right_inj _).mpr (exponentChars_isPrefix _)
  · exact List.nil_prefix

theorem isNumeral_numeralChars (h : numeralChars cs ≠ []) : IsNumeral (numeralChars cs) := by
  rw [numeralChars_eq] at h ⊢
  split at h
  case isTrue hdigit =>
    have hmantissa := isMantissa_splitMantissa hdigit
    rw [if_pos hdigit]
    rcases exponentChars_cases (splitMantissa cs).2 with hnil | hexponent
    · rw [hnil, List.append_nil]
      exact .plain hmantissa
    · exact .scientific hmantissa hexponent
  case isFalse => exact absurd rfl h

/-- What is read is no shorter than any numeral at the front. -/
theorem isPrefix_numeralChars (h : IsNumeral front) (tail : List Char) :
    front <+: numeralChars (front ++ tail) := by
  rw [numeralChars_eq]
  cases h with
  | plain hm =>
    obtain ⟨more, rest, hsplit, -⟩ := exists_splitMantissa hm tail
    rw [hsplit]
    dsimp only
    rw [List.any_append, hm.any_isDigit, Bool.true_or, if_pos rfl, List.append_assoc]
    exact List.prefix_append _ _
  | @scientific m x hm hx =>
    obtain ⟨more, rest, hsplit, hends⟩ := exists_splitMantissa hm (x ++ tail)
    obtain ⟨rfl, rfl⟩ := hends (hx.endsMantissa tail)
    rw [List.append_assoc, hsplit]
    dsimp only
    rw [List.append_nil, hm.any_isDigit, if_pos rfl, exponentChars_append hx, ← List.append_assoc]
    exact List.prefix_append _ _

theorem isLongest_numeralChars (h : numeralChars cs ≠ []) :
    IsLongest IsNumeral (numeralChars cs) cs := by
  refine ⟨numeralChars_isPrefix cs, isNumeral_numeralChars h, ?_⟩
  rintro other ⟨tail, rfl⟩ hother
  exact (isPrefix_numeralChars hother tail).length_le

theorem IsMantissa.ne_nil (h : IsMantissa m) : m ≠ [] := by
  rintro rfl
  cases h.any_isDigit

theorem IsNumeral.ne_nil (h : IsNumeral front) : front ≠ [] := by
  cases h with
  | plain hm => exact hm.ne_nil
  | scientific hm => exact List.append_ne_nil_of_left_ne_nil hm.ne_nil _

theorem numeralChars_of_isLongest (h : IsLongest IsNumeral front cs) : numeralChars cs = front := by
  obtain ⟨tail, rfl⟩ := h.isPrefix
  have hne : numeralChars (front ++ tail) ≠ [] := by
    intro hnil
    have hfront := isPrefix_numeralChars h.kind tail
    rw [hnil] at hfront
    exact h.kind.ne_nil (List.prefix_nil.mp hfront)
  exact (isLongest_numeralChars hne).unique h

theorem numeralChars_eq_nil_iff :
    numeralChars cs = [] ↔ ∀ front, front <+: cs → ¬ IsNumeral front := by
  constructor
  · rintro hnil front ⟨tail, rfl⟩ hfront
    have hprefix := isPrefix_numeralChars hfront tail
    rw [hnil] at hprefix
    exact hfront.ne_nil (List.prefix_nil.mp hprefix)
  · intro h
    by_contra hne
    exact h _ (numeralChars_isPrefix cs) (isNumeral_numeralChars hne)

theorem exponentChars_eq_nil (h : ∀ c ∈ tail.head?, c ≠ 'e' ∧ c ≠ 'E') : exponentChars tail = [] := by
  cases tail with
  | nil => rfl
  | cons c tail =>
    have hc := h c rfl
    simp [exponentChars, hc.1, hc.2]

/-- A mantissa is all that is read where nothing goes on with it. -/
theorem isLongest_mantissa (hm : IsMantissa m) (htail : EndsMantissa tail)
    (hexponent : ∀ c ∈ tail.head?, c ≠ 'e' ∧ c ≠ 'E') : IsLongest IsNumeral m (m ++ tail) := by
  obtain ⟨more, rest, hsplit, hends⟩ := exists_splitMantissa hm tail
  obtain ⟨rfl, rfl⟩ := hends htail
  have hchars : numeralChars (m ++ rest) = m := by
    rw [numeralChars_eq, hsplit]
    dsimp only
    rw [List.append_nil, hm.any_isDigit, if_pos rfl, exponentChars_eq_nil hexponent,
      List.append_nil]
  have hlongest : IsLongest IsNumeral _ (m ++ rest) :=
    isLongest_numeralChars (by rw [hchars]; exact hm.ne_nil)
  rwa [hchars] at hlongest

theorem splitFraction_of_endsMantissa (h : EndsMantissa tail) : splitFraction tail = ([], tail) := by
  unfold splitFraction
  split
  · exact absurd rfl (h '.' rfl).2
  · rfl

theorem numeral?_whole (hds : IsDigits ds) (hne : ds ≠ []) (htail : EndsMantissa tail) :
    numeral? (ds ++ tail) = (exponent? tail).map fun e => ⟨ds, [], e⟩ := by
  obtain ⟨htake, hdrop⟩ := takeWhile_digits_append hds tail
  obtain ⟨hnone, hall⟩ := htail.takeWhile
  rw [hnone, List.append_nil] at htake
  rw [hall] at hdrop
  unfold numeral?
  rw [htake, hdrop, splitFraction_of_endsMantissa htail]
  simp [hne]

theorem numeral?_pointed (hds : IsDigits ds) (hfs : IsDigits fs) (hne : ds ≠ [] ∨ fs ≠ [])
    (htail : EndsMantissa tail) :
    numeral? (ds ++ '.' :: (fs ++ tail)) = (exponent? tail).map fun e => ⟨ds, fs, e⟩ := by
  obtain ⟨htake, hdrop⟩ := takeWhile_digits_append hds ('.' :: (fs ++ tail))
  obtain ⟨htake', hdrop'⟩ := takeWhile_digits_append hfs tail
  obtain ⟨hnone, hall⟩ := htail.takeWhile
  have hpoint : ¬ Char.isDigit '.' = true := by decide
  rw [List.takeWhile_cons_of_neg hpoint, List.append_nil] at htake
  rw [List.dropWhile_cons_of_neg hpoint] at hdrop
  rw [hnone, List.append_nil] at htake'
  rw [hall] at hdrop'
  unfold numeral?
  rw [htake, hdrop, splitFraction, htake', hdrop']
  rcases hne with hne | hne <;> simp [hne]

theorem exists_numeral? (h : IsMantissa m) (htail : EndsMantissa tail) :
    ∃ ds fs, numeral? (m ++ tail) = (exponent? tail).map fun e => ⟨ds, fs, e⟩ := by
  cases h with
  | whole hds hne => exact ⟨_, _, numeral?_whole hds hne htail⟩
  | @pointed ds fs hds hne hfs =>
    refine ⟨ds, fs, ?_⟩
    rw [List.append_assoc, List.cons_append]
    exact numeral?_pointed hds hfs (Or.inl hne) htail
  | @point fs hfs hne =>
    exact ⟨[], fs, numeral?_pointed (fun _ hc => absurd hc List.not_mem_nil) hfs (Or.inr hne) htail⟩

theorem exists_exponent? (h : IsExponent x) : ∃ e, exponent? x = some e := by
  cases h with
  | @mk e sign ds he hsign hds hne =>
    have hdigits : splitSign (sign ++ ds) = ((splitSign (sign ++ ds)).1, ds) := by
      rcases hsign with rfl | rfl | rfl
      · have hhead := head?_append_of_isDigits hds hne []
        rw [List.append_nil] at hhead
        rw [List.nil_append, splitSign_of_head hhead]
      · rfl
      · rfl
    have hall : ds.all Char.isDigit = true := List.all_eq_true.mpr hds
    rw [exponent?, hdigits]
    exact ⟨_, if_pos ⟨he, hne, hall⟩⟩

/-- The characters that a numeral starts with. -/
def StartsNumeral (cs : List Char) : Prop := ∃ c rest, cs = c :: rest ∧ (c.isDigit = true ∨ c = '.')

theorem IsMantissa.startsNumeral (h : IsMantissa m) (tail : List Char) :
    StartsNumeral (m ++ tail) := by
  cases h with
  | whole hds hne =>
    obtain ⟨c, ds, rfl⟩ := List.exists_cons_of_ne_nil hne
    exact ⟨c, _, rfl, Or.inl (hds c List.mem_cons_self)⟩
  | pointed hds hne =>
    obtain ⟨c, ds, rfl⟩ := List.exists_cons_of_ne_nil hne
    exact ⟨c, _, rfl, Or.inl (hds c List.mem_cons_self)⟩
  | point => exact ⟨'.', _, rfl, Or.inr rfl⟩

theorem IsNumeral.startsNumeral (h : IsNumeral front) (tail : List Char) :
    StartsNumeral (front ++ tail) := by
  cases h with
  | plain hm => exact hm.startsNumeral tail
  | scientific hm =>
    rw [List.append_assoc]
    exact hm.startsNumeral _

theorem StartsNumeral.head? (h : StartsNumeral cs) :
    ∀ c ∈ cs.head?, c ∉ cBlanks ∧ c ≠ '-' ∧ c ≠ '+' := by
  obtain ⟨c, rest, rfl, hc | rfl⟩ := h
  · rintro d ⟨⟩
    exact plain_of_isDigit hc
  · rintro d ⟨⟩
    decide

/-- Only letters have a lower-case form that is one. -/
theorem letter_of_toLower (h : c.toLower.isLower = true) : 65 ≤ c.toNat ∧ c.toNat ≤ 122 := by
  have hcodes : 'A'.val.toNat = 65 ∧ 'Z'.val.toNat = 90 ∧ 'a'.val.toNat = 97 ∧
    'z'.val.toNat = 122 := by decide
  unfold Char.isLower at h
  simp only [Bool.and_eq_true, decide_eq_true_eq, ge_iff_le, UInt32.le_iff_toNat_le] at h
  unfold Char.toLower at h
  rw [← Char.toNat_val]
  split at h
  case isTrue hupper =>
    simp only [ge_iff_le, UInt32.le_iff_toNat_le] at hupper
    omega
  case isFalse => omega

/-- No word starts like a numeral. -/
theorem StartsNumeral.map_toLower_ne (h : StartsNumeral cs) {d : Char} (hd : d.isLower = true)
    (word : List Char) : cs.map Char.toLower ≠ d :: word := by
  obtain ⟨c, rest, rfl, hc⟩ := h
  intro heq
  obtain ⟨rfl, -⟩ := List.cons.inj heq
  have hletter := letter_of_toLower hd
  rcases hc with hc | rfl
  · have hdigit := Char.isDigit_iff_toNat.mp hc
    have hcode : '9'.toNat = 57 := by decide
    omega
  · exact absurd hletter (by decide)

theorem ofText?_of_splitSign (h : splitSign cs = (negative, rest)) (hrest : StartsNumeral rest) :
    Binary64.ofText? cs = (numeral? rest).map (Numeral.value negative) := by
  unfold Binary64.ofText?
  rw [h]
  have hinf := hrest.map_toLower_ne (d := 'i') rfl ['n', 'f']
  have hinfinity := hrest.map_toLower_ne (d := 'i') rfl ['n', 'f', 'i', 'n', 'i', 't', 'y']
  have hnan := hrest.map_toLower_ne (d := 'n') rfl ['a', 'n']
  simp [hinf, hinfinity, hnan]

/-- Every numeral is a number as a whole text. -/
theorem exists_ofText? (h : IsNumeral front) : ∃ x, Binary64.ofText? front = some x := by
  have hstarts := h.startsNumeral []
  rw [List.append_nil] at hstarts
  rw [ofText?_of_splitSign (splitSign_of_head fun c hc => (hstarts.head? c hc).2) hstarts]
  cases h with
  | plain hm =>
    obtain ⟨ds, fs, hnumeral⟩ := exists_numeral? hm endsMantissa_nil
    rw [List.append_nil] at hnumeral
    rw [hnumeral]
    exact ⟨_, rfl⟩
  | @scientific m x hm hx =>
    obtain ⟨ds, fs, hnumeral⟩ := exists_numeral? hm (by
      have hends := hx.endsMantissa []
      rwa [List.append_nil] at hends)
    obtain ⟨e, he⟩ := exists_exponent? hx
    rw [hnumeral, he]
    exact ⟨_, rfl⟩

end TagSieve
